import QuizMind.Async.ReadCommitted
import QuizMind.Runtime

/-! # The wallet tables

The rows of `Wallet`, `WalletTopUp`, `WalletLedgerEntry` and
`AdminWalletAdjustmentBatch`, and the statements the wallet repository sends.
A statement reads its view of the rows and yields its answer and its writes;
the tables are kept in insertion order.

A `cuid()` identifier is a number drawn from a counter, so every row gets its
own. The uniqueness constraints are those of the schema: `Wallet.userId`,
`WalletTopUp.providerPaymentId`, `WalletTopUp.idempotenceKey`,
`WalletLedgerEntry.idempotencyKey` (when not null) and
`AdminWalletAdjustmentBatch.idempotencyKey`; a ledger entry has no constraint
on its `topUpId`, and no column has a check constraint.
-/

namespace QuizMind

open Async

structure Wallet where
  id : ℕ
  userId : String
  currency : String
  balanceKopecks : ℤ

/-- The enumeration `WalletTopUpStatus`. -/
inductive TopUpStatus where
  | pending
  | succeeded
  | canceled
  | refunded
  deriving DecidableEq

structure WalletTopUp where
  id : ℕ
  walletId : ℕ
  createdByUserId : String
  amountKopecks : ℤ
  currency : String
  status : TopUpStatus
  provider : String
  providerPaymentId : Option String
  idempotenceKey : String
  confirmationToken : Option String
  paidAt : Option ℤ
  deriving DecidableEq

/-- The enumeration `WalletLedgerEntryType`. -/
inductive LedgerEntryType where
  | topup
  | refund
  | manual_adjustment
  | usage_debit
  deriving DecidableEq

/-- The data of a ledger entry, without the identifier it will get. -/
structure LedgerEntryData where
  walletId : ℕ
  topUpId : Option ℕ := none
  idempotencyKey : Option String := none
  type : LedgerEntryType
  deltaKopecks : ℤ
  balanceAfterKopecks : ℤ
  description : String

structure WalletLedgerEntry extends LedgerEntryData where
  id : ℕ

inductive Direction where
  | credit
  | debit
  deriving DecidableEq

/-- The data of an adjustment batch, without the identifier it will get. -/
structure BatchData where
  actorId : Option String
  targetType : String
  targetCount : ℕ
  amountKopecks : ℤ
  direction : Direction
  currency : String
  reason : String
  idempotencyKey : String

structure AdminWalletAdjustmentBatch extends BatchData where
  id : ℕ

/-- The data of a top-up row to insert. -/
structure TopUpData where
  walletId : ℕ
  createdByUserId : String
  amountKopecks : ℤ
  currency : String
  idempotenceKey : String
  providerPaymentId : String
  confirmationToken : String

/-- The four tables, each in insertion order. -/
structure WalletStore where
  wallets : List Wallet
  topUps : List WalletTopUp
  entries : List WalletLedgerEntry
  batches : List AdminWalletAdjustmentBatch

namespace WalletStore

def empty : WalletStore where
  wallets := []
  topUps := []
  entries := []
  batches := []

def walletById (s : WalletStore) (id : ℕ) : Option Wallet :=
  s.wallets.find? (fun w => w.id == id)

def walletByUser (s : WalletStore) (userId : String) : Option Wallet :=
  s.wallets.find? (fun w => w.userId == userId)

def topUpById (s : WalletStore) (id : ℕ) : Option WalletTopUp :=
  s.topUps.find? (fun t => t.id == id)

def topUpByPayment (s : WalletStore) (paymentId : String) : Option WalletTopUp :=
  s.topUps.find? (fun t => t.providerPaymentId == some paymentId)

def entryByKey (s : WalletStore) (key : String) : Option WalletLedgerEntry :=
  s.entries.find? (fun e => e.idempotencyKey == some key)

def batchByKey (s : WalletStore) (key : String) : Option AdminWalletAdjustmentBatch :=
  s.batches.find? (fun b => b.idempotencyKey == key)

end WalletStore

/-! ## Statements and writes -/

/-- The statements of the wallet repository, under the client's names. -/
inductive WalletStmt where
  | walletFindById (id : ℕ)
  | walletFindByUser (userId : String)
  | walletCreate (userId : String) (currency : Option String)
  | walletUpdate (id : ℕ) (increment : ℤ)
  | topUpFindById (id : ℕ)
  | topUpFindByPayment (providerPaymentId : String)
  | topUpCreate (data : TopUpData)
  | topUpSetSucceeded (id : ℕ) (paidAt : JsDate)
  | topUpCancelPending (id : ℕ)
  | entryFindByKey (key : String)
  | entryCountByKeys (keys : List String)
  | entryCreate (data : LedgerEntryData)
  | batchFindByKey (key : String)
  | batchCreate (data : BatchData)

/-- What each statement answers. -/
abbrev WalletStmt.Res : WalletStmt → Type
  | .walletFindById _ => Option Wallet
  | .walletFindByUser _ => Option Wallet
  | .walletCreate _ _ => Wallet
  | .walletUpdate _ _ => Wallet
  | .topUpFindById _ => Option WalletTopUp
  | .topUpFindByPayment _ => Option WalletTopUp
  | .topUpCreate _ => WalletTopUp
  | .topUpSetSucceeded _ _ => Unit
  | .topUpCancelPending _ => Unit
  | .entryFindByKey _ => Option WalletLedgerEntry
  | .entryCountByKeys _ => ℕ
  | .entryCreate _ => WalletLedgerEntry
  | .batchFindByKey _ => Option AdminWalletAdjustmentBatch
  | .batchCreate _ => AdminWalletAdjustmentBatch

/-- The effect of a statement on one row. -/
inductive WalletWrite where
  | insertWallet (w : Wallet)
  | addBalance (id : ℕ) (delta : ℤ)
  | insertTopUp (t : WalletTopUp)
  | setTopUp (id : ℕ) (status : TopUpStatus) (paidAt : Option ℤ)
  | insertEntry (e : WalletLedgerEntry)
  | insertBatch (b : AdminWalletAdjustmentBatch)

/-- A wallet after an `increment` (a decrement is a negative one). -/
def Wallet.add (w : Wallet) (delta : ℤ) : Wallet :=
  { w with balanceKopecks := w.balanceKopecks + delta }

/-- A top-up row after a status change; `paidAt` is set when it is given. -/
def WalletTopUp.mark (t : WalletTopUp) (status : TopUpStatus) (paidAt : Option ℤ) :
    WalletTopUp :=
  { t with status := status, paidAt := paidAt.or t.paidAt }

namespace WalletStore

/-- The rows after one write. -/
def apply (s : WalletStore) : WalletWrite → WalletStore
  | .insertWallet w => { s with wallets := s.wallets ++ [w] }
  | .addBalance id delta =>
    { s with wallets := s.wallets.map (fun w => if w.id = id then w.add delta else w) }
  | .insertTopUp t => { s with topUps := s.topUps ++ [t] }
  | .setTopUp id status paidAt =>
    { s with topUps := s.topUps.map (fun t => if t.id = id then t.mark status paidAt else t) }
  | .insertEntry e => { s with entries := s.entries ++ [e] }
  | .insertBatch b => { s with batches := s.batches ++ [b] }

end WalletStore

namespace WalletStore

/-! ### Looking up rows -/

theorem walletById_some {s : WalletStore} {id : ℕ} {w : Wallet}
    (h : s.walletById id = some w) : w ∈ s.wallets ∧ w.id = id := by
  have hid := List.find?_some h
  exact ⟨List.mem_of_find?_eq_some h, by simpa using hid⟩

theorem walletByUser_some {s : WalletStore} {userId : String} {w : Wallet}
    (h : s.walletByUser userId = some w) : w ∈ s.wallets ∧ w.userId = userId := by
  have hid := List.find?_some h
  exact ⟨List.mem_of_find?_eq_some h, by simpa using hid⟩

theorem entryByKey_none {s : WalletStore} {key : String} :
    s.entryByKey key = none ↔ ∀ e ∈ s.entries, e.idempotencyKey ≠ some key := by
  simp [entryByKey]

variable (s : WalletStore) (id i : ℕ) (delta : ℤ)

@[simp] theorem walletById_addBalance :
    (s.apply (.addBalance id delta)).walletById i =
      (s.walletById i).map (fun w => if w.id = id then w.add delta else w) := by
  have hid : ∀ w : Wallet, (if w.id = id then w.add delta else w).id = w.id := by
    intro w
    split <;> rfl
  simp only [walletById, apply, List.find?_map]
  congr 2
  funext w
  simp [hid]

theorem walletById_insertWallet (w : Wallet) (id : ℕ) : (s.apply (.insertWallet w)).walletById id =
      (s.walletById id).or (if w.id = id then some w else none) := by
  by_cases hid : w.id = id <;> simp [walletById, apply]

variable (status : TopUpStatus) (paidAt : Option ℤ)

@[simp] theorem topUpById_setTopUp :
    (s.apply (.setTopUp id status paidAt)).topUpById i =
      (s.topUpById i).map (fun t => if t.id = id then t.mark status paidAt else t) := by
  have hid : ∀ t : WalletTopUp, (if t.id = id then t.mark status paidAt else t).id = t.id := by
    intro t
    split <;> rfl
  simp only [topUpById, apply, List.find?_map]
  congr 2
  funext t
  simp [hid]

@[simp] theorem topUpByPayment_setTopUp (paymentId : String)
    (status : TopUpStatus) (paidAt : Option ℤ) :
    (s.apply (.setTopUp id status paidAt)).topUpByPayment paymentId =
      (s.topUpByPayment paymentId).map (fun t => if t.id = id then t.mark status paidAt else t) := by
  have hpayment : ∀ t : WalletTopUp,
      (if t.id = id then t.mark status paidAt else t).providerPaymentId = t.providerPaymentId := by
    intro t
    split <;> rfl
  simp only [topUpByPayment, apply, List.find?_map]
  congr 2
  funext t
  simp [hpayment]

/-- The status of a top-up. -/
def statusOf (s : WalletStore) (topUpId : ℕ) : Option TopUpStatus :=
  (s.topUpById topUpId).map (fun t => t.status)

/-- The balance of a wallet. -/
def balanceOf (s : WalletStore) (walletId : ℕ) : Option ℤ :=
  (s.walletById walletId).map (fun w => w.balanceKopecks)

/-- The ledger entries that credit a top-up. -/
def topUpEntries (s : WalletStore) (topUpId : ℕ) : List WalletLedgerEntry :=
  s.entries.filter (fun e => e.type == .topup && e.topUpId == some topUpId)

@[simp] theorem statusOf_setTopUp :
    (s.apply (.setTopUp id status paidAt)).statusOf i =
      if i = id then (s.statusOf i).map (fun _ => status) else s.statusOf i := by
  simp only [statusOf, topUpById_setTopUp]
  cases hrow : s.topUpById i with
  | none => simp
  | some t =>
    have hid := List.find?_some hrow
    have hti : t.id = i := by simpa using hid
    by_cases hi : i = id <;> simp [hti, hi, WalletTopUp.mark]

@[simp] theorem statusOf_addBalance :
    (s.apply (.addBalance id delta)).statusOf i = s.statusOf i := rfl

variable (e : WalletLedgerEntry)

@[simp] theorem statusOf_insertEntry (i : ℕ) :
    (s.apply (.insertEntry e)).statusOf i = s.statusOf i := rfl

@[simp] theorem balanceOf_addBalance :
    (s.apply (.addBalance id delta)).balanceOf i =
      (s.balanceOf i).map (fun b => if i = id then b + delta else b) := by
  simp only [balanceOf, walletById_addBalance]
  cases hrow : s.walletById i with
  | none => simp
  | some w =>
    have hwi := (walletById_some hrow).2
    by_cases hi : i = id <;> simp [hwi, hi, Wallet.add]

@[simp] theorem balanceOf_setTopUp :
    (s.apply (.setTopUp id status paidAt)).balanceOf i = s.balanceOf i := rfl

@[simp] theorem balanceOf_insertEntry (i : ℕ) :
    (s.apply (.insertEntry e)).balanceOf i = s.balanceOf i := rfl

@[simp] theorem topUpEntries_setTopUp :
    (s.apply (.setTopUp id status paidAt)).topUpEntries i = s.topUpEntries i := rfl

@[simp] theorem topUpEntries_addBalance :
    (s.apply (.addBalance id delta)).topUpEntries i = s.topUpEntries i := rfl

theorem topUpEntries_insertEntry (i : ℕ) : (s.apply (.insertEntry e)).topUpEntries i =
      s.topUpEntries i ++ if e.type = .topup ∧ e.topUpId = some i then [e] else [] := by
  grind [topUpEntries, apply]

end WalletStore

/-- What a write locks: a row, or an entry of a unique index. -/
inductive LockKey where
  | walletRow (id : ℕ)
  | walletUserId (userId : String)
  | topUpRow (id : ℕ)
  | topUpPayment (providerPaymentId : String)
  | topUpKey (idempotenceKey : String)
  | entryRow (id : ℕ)
  | entryKey (idempotencyKey : String)
  | batchRow (id : ℕ)
  | batchKey (idempotencyKey : String)
  deriving DecidableEq

/-- The locks of a write; a null value is not an entry of a unique index. -/
def WalletWrite.locks : WalletWrite → List LockKey
  | .insertWallet w => [.walletRow w.id, .walletUserId w.userId]
  | .addBalance id _ => [.walletRow id]
  | .insertTopUp t =>
    [.topUpRow t.id, .topUpKey t.idempotenceKey] ++ (t.providerPaymentId.map .topUpPayment).toList
  | .setTopUp id _ _ => [.topUpRow id]
  | .insertEntry e => [.entryRow e.id] ++ (e.idempotencyKey.map .entryKey).toList
  | .insertBatch b => [.batchRow b.id, .batchKey b.idempotencyKey]

/-- The row of a new top-up. -/
def TopUpData.row (data : TopUpData) (id : ℕ) : WalletTopUp where
  id := id
  walletId := data.walletId
  createdByUserId := data.createdByUserId
  amountKopecks := data.amountKopecks
  currency := data.currency
  status := .pending
  provider := "yookassa"
  providerPaymentId := some data.providerPaymentId
  idempotenceKey := data.idempotenceKey
  confirmationToken := some data.confirmationToken
  paidAt := none

/-! ## Running a statement -/

/-- The answer and the writes of a statement on a view of the rows; `fresh` is
the identifier of a row it inserts. -/
def WalletStmt.exec : (op : WalletStmt) → ℕ → WalletStore →
    Except Exception (op.Res × List WalletWrite)
  | .walletFindById id, _, s => .ok (s.walletById id, [])
  | .walletFindByUser userId, _, s => .ok (s.walletByUser userId, [])
  | .walletCreate userId currency, fresh, s =>
    match s.walletByUser userId with
    | some _ => .error (.prisma "P2002")
    | none =>
      let w : Wallet :=
        { id := fresh
          userId := userId
          currency := currency.getD "RUB"
          balanceKopecks := 0 }
      .ok (w, [.insertWallet w])
  | .walletUpdate id increment, _, s =>
    match s.walletById id with
    | none => .error (.prisma "P2025")
    | some w => .ok (w.add increment, [.addBalance id increment])
  | .topUpFindById id, _, s => .ok (s.topUpById id, [])
  | .topUpFindByPayment paymentId, _, s => .ok (s.topUpByPayment paymentId, [])
  | .topUpCreate data, fresh, s =>
    if (s.walletById data.walletId).isNone then
      .error (.prisma "P2003")
    else if s.topUps.any (fun t => t.providerPaymentId == some data.providerPaymentId ||
        t.idempotenceKey == data.idempotenceKey) then
      .error (.prisma "P2002")
    else
      .ok (data.row fresh, [.insertTopUp (data.row fresh)])
  | .topUpSetSucceeded id paidAt, _, s =>
    match paidAt, s.topUpById id with
    | none, _ => .error .prismaValidation
    | some _, none => .error (.prisma "P2025")
    | some at', some _ => .ok ((), [.setTopUp id .succeeded (some at')])
  | .topUpCancelPending id, _, s =>
    match s.topUpById id with
    | some t => .ok ((), if t.status = .pending then [.setTopUp id .canceled none] else [])
    | none => .ok ((), [])
  | .entryFindByKey key, _, s => .ok (s.entryByKey key, [])
  | .entryCountByKeys keys, _, s =>
    .ok ((s.entries.filter (fun e => e.idempotencyKey.any keys.contains)).length, [])
  | .entryCreate data, fresh, s =>
    if (s.walletById data.walletId).isNone ∨ data.topUpId.any (fun id => (s.topUpById id).isNone)
    then
      .error (.prisma "P2003")
    else if data.idempotencyKey.any (fun key => (s.entryByKey key).isSome) then
      .error (.prisma "P2002")
    else
      let e : WalletLedgerEntry := { data with id := fresh }
      .ok (e, [.insertEntry e])
  | .batchFindByKey key, _, s => .ok (s.batchByKey key, [])
  | .batchCreate data, fresh, s =>
    if (s.batchByKey data.idempotencyKey).isSome then
      .error (.prisma "P2002")
    else
      let b : AdminWalletAdjustmentBatch := { data with id := fresh }
      .ok (b, [.insertBatch b])

/-- The wallet tables as a database. -/
def walletDb : Database WalletStmt WalletStmt.Res Exception WalletWrite WalletStore LockKey where
  exec := WalletStmt.exec
  apply := WalletStore.apply
  locks := WalletWrite.locks

@[simp] theorem walletDb_exec (op : WalletStmt) (n : ℕ) (s : WalletStore) :
    walletDb.exec op n s = op.exec n s := rfl

@[simp] theorem walletDb_apply (s : WalletStore) (w : WalletWrite) :
    walletDb.apply s w = s.apply w := rfl

@[simp] theorem walletDb_locks (w : WalletWrite) : walletDb.locks w = w.locks := rfl

/-! ## Inversion of a statement -/

/-- The statements that only read. -/
def WalletStmt.isRead : WalletStmt → Bool
  | .walletFindById _ | .walletFindByUser _ | .topUpFindById _ | .topUpFindByPayment _ => true
  | .entryFindByKey _ | .entryCountByKeys _ | .batchFindByKey _ => true
  | _ => false

/-- Everything a successful statement can write. -/
inductive WalletStmt.Writes (n : ℕ) (s : WalletStore) : WalletStmt → List WalletWrite → Prop where
  | read {op : WalletStmt} (hread : op.isRead) : Writes n s op []
  | walletCreate {userId : String} {currency : Option String}
      (hfree : s.walletByUser userId = none) :
      Writes n s (.walletCreate userId currency) [.insertWallet ⟨n, userId, currency.getD "RUB", 0⟩]
  | walletUpdate {id : ℕ} {increment : ℤ} {w : Wallet} (hw : s.walletById id = some w) :
      Writes n s (.walletUpdate id increment) [.addBalance id increment]
  | topUpCreate {data : TopUpData} (hwallet : ∃ w, s.walletById data.walletId = some w)
      (hfree : ∀ t ∈ s.topUps, t.providerPaymentId ≠ some data.providerPaymentId) :
      Writes n s (.topUpCreate data) [.insertTopUp (data.row n)]
  | topUpSetSucceeded {id : ℕ} {paidAt : ℤ} :
      Writes n s (.topUpSetSucceeded id (some paidAt)) [.setTopUp id .succeeded (some paidAt)]
  | topUpCancel {id : ℕ} (hpending : s.statusOf id = some .pending) :
      Writes n s (.topUpCancelPending id) [.setTopUp id .canceled none]
  | topUpCancelNone {id : ℕ} : Writes n s (.topUpCancelPending id) []
  | entryCreate {data : LedgerEntryData}
      (hkey : ∀ key, data.idempotencyKey = some key → s.entryByKey key = none) :
      Writes n s (.entryCreate data) [.insertEntry { data with id := n }]
  | batchCreate {data : BatchData} (hfree : s.batchByKey data.idempotencyKey = none) :
      Writes n s (.batchCreate data) [.insertBatch { data with id := n }]

/-- Everything a successful statement does to the tables. -/
theorem WalletStmt.exec_writes {n : ℕ} {s : WalletStore} {op : WalletStmt} {r : op.Res}
    {ws : List WalletWrite} (h : walletDb.exec op n s = .ok (r, ws)) : op.Writes n s ws := by
  rw [walletDb_exec] at h
  cases op with
  | walletCreate userId currency =>
    simp only [exec] at h
    split at h
    · cases h
    rename_i hfree
    obtain ⟨-, rfl⟩ := Prod.mk.inj (Except.ok.inj h)
    exact .walletCreate hfree
  | walletUpdate id increment =>
    simp only [exec] at h
    split at h
    · cases h
    rename_i w hw
    obtain ⟨-, rfl⟩ := Prod.mk.inj (Except.ok.inj h)
    exact .walletUpdate hw
  | topUpCreate data =>
    simp only [exec] at h
    split at h
    · cases h
    rename_i hwallet
    split at h
    · cases h
    rename_i hfree
    obtain ⟨-, rfl⟩ := Prod.mk.inj (Except.ok.inj h)
    refine .topUpCreate (Option.ne_none_iff_exists'.mp (by simpa using hwallet)) ?_
    intro t ht hpayment
    exact hfree (List.any_eq_true.mpr ⟨t, ht, by simp [hpayment]⟩)
  | topUpSetSucceeded id paidAt =>
    simp only [exec] at h
    split at h
    · cases h
    · cases h
    · obtain ⟨-, rfl⟩ := Prod.mk.inj (Except.ok.inj h)
      exact .topUpSetSucceeded
  | topUpCancelPending id =>
    simp only [exec] at h
    split at h
    · rename_i t ht
      obtain ⟨-, rfl⟩ := Prod.mk.inj (Except.ok.inj h)
      split
      · rename_i hpend
        exact .topUpCancel (by simp [WalletStore.statusOf, ht, hpend])
      · exact .topUpCancelNone
    · obtain ⟨-, rfl⟩ := Prod.mk.inj (Except.ok.inj h)
      exact .topUpCancelNone
  | entryCreate data =>
    simp only [exec] at h
    split at h
    · cases h
    split at h
    · cases h
    rename_i hfree
    obtain ⟨-, rfl⟩ := Prod.mk.inj (Except.ok.inj h)
    refine .entryCreate ?_
    intro key hkey
    simpa [hkey] using hfree
  | batchCreate data =>
    simp only [exec] at h
    split at h
    · cases h
    rename_i hfree
    obtain ⟨-, rfl⟩ := Prod.mk.inj (Except.ok.inj h)
    exact .batchCreate (by simpa using hfree)
  | _ =>
    -- the reading statements
    obtain ⟨-, rfl⟩ := Prod.mk.inj (Except.ok.inj h)
    exact .read rfl

end QuizMind
