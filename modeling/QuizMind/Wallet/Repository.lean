import QuizMind.Wallet.Store

/-! # `WalletRepository`

The methods of the wallet repository as programs over its statements. The
methods that open a `$transaction` are the bodies of that transaction; how it
is run (alone, or interleaved with others under row locks) is chosen where
they are used.

`upsert` with an empty `update` is not one statement: the client reads the row
and inserts it when there is none. The read takes no lock.
-/

namespace QuizMind

open Async

/-- A program over the statements of the wallet repository. -/
abbrev WalletProg := Prog WalletStmt WalletStmt.Res Exception

/-- One statement sent through the client. -/
abbrev prisma (stmt : WalletStmt) : WalletProg stmt.Res := Prog.await stmt

/-- `wallet.upsert` by user with an empty `update`. -/
def walletUpsert (userId currency : String) : WalletProg Wallet := do
  let existing ← prisma (.walletFindByUser userId)
  match existing with
  | some wallet => return wallet
  | none => prisma (.walletCreate userId (some currency))

/-- Two statements outside any transaction. -/
def findOrCreateWalletForUser (userId : String) : WalletProg Wallet := do
  let existing ← prisma (.walletFindByUser userId)
  match existing with
  | some wallet => return wallet
  | none => prisma (.walletCreate userId none)

def createTopUp (input : TopUpData) : WalletProg WalletTopUp :=
  prisma (.topUpCreate input)

def findTopUpByProviderPaymentId (paymentId : String) : WalletProg (Option WalletTopUp) :=
  prisma (.topUpFindByPayment paymentId)

def cancelTopUp (topUpId : ℕ) : WalletProg Unit :=
  prisma (.topUpCancelPending topUpId)

/-! ## Settling a top-up -/

structure SettleInput where
  topUpId : ℕ
  walletId : ℕ
  amountKopecks : ℤ
  paidAt : JsDate

structure SettleResult where
  alreadySettled : Bool
  newBalanceKopecks : ℤ

/-- The ledger entry of a settled top-up. -/
def settleEntry (input : SettleInput) (updatedWallet : Wallet) : LedgerEntryData where
  walletId := input.walletId
  topUpId := some input.topUpId
  type := .topup
  deltaKopecks := input.amountKopecks
  balanceAfterKopecks := updatedWallet.balanceKopecks
  description := "Top-up via YooKassa"

/-- The part of `settleTopUp` after its status check: the status is written
without looking at it again. -/
def markSucceededAndCredit (input : SettleInput) : WalletProg SettleResult := do
  prisma (.topUpSetSucceeded input.topUpId input.paidAt)
  let updatedWallet ← prisma (.walletUpdate input.walletId input.amountKopecks)
  let _ ← prisma (.entryCreate (settleEntry input updatedWallet))
  return { alreadySettled := false, newBalanceKopecks := updatedWallet.balanceKopecks }

def settleTopUp (input : SettleInput) : WalletProg SettleResult := do
  let topUp ← prisma (.topUpFindById input.topUpId)
  match topUp with
  | none => throw (.error s!"WalletTopUp {input.topUpId} not found.")
  | some topUp =>
    if topUp.status = .succeeded then
      let wallet ← prisma (.walletFindById input.walletId)
      return { alreadySettled := true
               newBalanceKopecks := (wallet.map (fun w => w.balanceKopecks)).getD 0 }
    else
      markSucceededAndCredit input

/-- The input that `processYookassaPaymentEvent` builds from the top-up row. -/
def WalletTopUp.settlement (topUp : WalletTopUp) (paidAt : JsDate) : SettleInput where
  topUpId := topUp.id
  walletId := topUp.walletId
  amountKopecks := topUp.amountKopecks
  paidAt := paidAt

/-! ## Debiting AI usage -/

structure DebitInput where
  userId : String
  amountKopecks : ℤ
  currency : String
  description : String
  idempotencyKey : String

structure DebitResult where
  ledgerEntryId : ℕ
  newBalanceKopecks : ℤ
  alreadyProcessed : Bool

/-- The ledger entry of a usage debit. -/
def debitEntry (input : DebitInput) (wallet updatedWallet : Wallet) : LedgerEntryData where
  walletId := wallet.id
  idempotencyKey := some input.idempotencyKey
  type := .usage_debit
  deltaKopecks := -input.amountKopecks
  balanceAfterKopecks := updatedWallet.balanceKopecks
  description := input.description

/-- The part of `debitUsage` after the wallet has been read. -/
def debitWallet (input : DebitInput) (wallet : Wallet) : WalletProg DebitResult :=
  if wallet.balanceKopecks < input.amountKopecks then
    throw (.error "Insufficient wallet balance for usage debit.")
  else do
    let updatedWallet ← prisma (.walletUpdate wallet.id (-input.amountKopecks))
    let entry ← prisma (.entryCreate (debitEntry input wallet updatedWallet))
    return { ledgerEntryId := entry.id
             newBalanceKopecks := updatedWallet.balanceKopecks
             alreadyProcessed := false }

def debitUsage (input : DebitInput) : WalletProg DebitResult :=
  if input.amountKopecks ≤ 0 then
    throw (.error "Usage debit amount must be greater than zero.")
  else do
    let existing ← prisma (.entryFindByKey input.idempotencyKey)
    match existing with
    | some existing =>
      return { ledgerEntryId := existing.id
               newBalanceKopecks := existing.balanceAfterKopecks
               alreadyProcessed := true }
    | none =>
      let wallet ← walletUpsert input.userId input.currency
      debitWallet input wallet

/-! ## Manual adjustments -/

structure AdjustInput where
  actorId : Option String
  targetType : String
  userIds : List String
  direction : Direction
  amountKopecks : ℤ
  currency : String
  reason : Option String
  idempotencyKey : String
  allowNegative : Bool

structure AdjustResult where
  batchId : ℕ
  affectedCount : ℕ
  skippedCount : ℕ
  direction : Direction
  amountKopecks : ℤ
  currency : String

/-- The idempotency key of one user's entry in a batch. -/
def adjustmentKey (batchId : ℕ) (userId : String) : String :=
  s!"admin-adjustment:{batchId}:{userId}"

/-- What one adjustment adds to a balance. -/
def Direction.delta (direction : Direction) (amountKopecks : ℤ) : ℤ :=
  match direction with
  | .credit => amountKopecks
  | .debit => -amountKopecks

def adjustBatch (input : AdjustInput) (normalizedReason : String) : BatchData where
  actorId := input.actorId
  targetType := input.targetType
  targetCount := input.userIds.length
  amountKopecks := input.amountKopecks
  direction := input.direction
  currency := input.currency
  reason := normalizedReason
  idempotencyKey := input.idempotencyKey

def adjustEntry (input : AdjustInput) (normalizedReason : String) (batchId : ℕ)
    (userId : String) (wallet updated : Wallet) : LedgerEntryData where
  walletId := wallet.id
  idempotencyKey := some (adjustmentKey batchId userId)
  type := .manual_adjustment
  deltaKopecks := input.direction.delta input.amountKopecks
  balanceAfterKopecks := updated.balanceKopecks
  description := normalizedReason

/-- The loop of `manualAdjustWallets` over the user ids, with its counters. -/
def adjustWallets (input : AdjustInput) (normalizedReason : String) (batchId : ℕ) :
    List String → ℕ → ℕ → WalletProg (ℕ × ℕ)
  | [], affectedCount, skippedCount => return (affectedCount, skippedCount)
  | userId :: userIds, affectedCount, skippedCount => do
      let wallet ← walletUpsert userId input.currency
      if input.direction = .debit ∧ ¬ input.allowNegative ∧
          wallet.balanceKopecks < input.amountKopecks then
        adjustWallets input normalizedReason batchId userIds affectedCount (skippedCount + 1)
      else do
        let updated ←
          prisma (.walletUpdate wallet.id (input.direction.delta input.amountKopecks))
        let _ ← prisma (.entryCreate
          (adjustEntry input normalizedReason batchId userId wallet updated))
        adjustWallets input normalizedReason batchId userIds (affectedCount + 1) skippedCount

/-- `reason || 'Admin manual wallet adjustment'`. -/
def normalizeReason (reason : String) : String :=
  if reason = "" then "Admin manual wallet adjustment" else reason

/-- The transaction of `manualAdjustWallets`. -/
def applyAdjustment (input : AdjustInput) (normalizedReason : String) :
    WalletProg AdjustResult := do
  let existingBatch ← prisma (.batchFindByKey input.idempotencyKey)
  match existingBatch with
  | some existingBatch =>
    let affectedCount ← prisma
      (.entryCountByKeys (input.userIds.map (adjustmentKey existingBatch.id)))
    return { batchId := existingBatch.id
             affectedCount := affectedCount
             skippedCount := input.userIds.length - affectedCount
             direction := existingBatch.direction
             amountKopecks := existingBatch.amountKopecks
             currency := existingBatch.currency }
  | none =>
    let batch ← prisma (.batchCreate (adjustBatch input normalizedReason))
    let counts ← adjustWallets input normalizedReason batch.id input.userIds 0 0
    return { batchId := batch.id
             affectedCount := counts.1
             skippedCount := counts.2
             direction := input.direction
             amountKopecks := input.amountKopecks
             currency := input.currency }

/-- `input.reason?.trim() ?? ''`. -/
def AdjustInput.trimmedReason (input : AdjustInput) : String :=
  (input.reason.map jsTrim).getD ""

/-- `amountKopecks` is an integer here, so of the check `Number.isInteger(..)
&& > 0` the second half remains. -/
def manualAdjustWallets (input : AdjustInput) : WalletProg AdjustResult :=
  if input.amountKopecks ≤ 0 then
    throw (.error "amountKopecks must be a positive integer.")
  else if 500 < jsLength input.trimmedReason then
    throw (.error "reason length must be at most 500.")
  else
    applyAdjustment input (normalizeReason input.trimmedReason)

end QuizMind
