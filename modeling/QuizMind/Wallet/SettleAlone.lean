import QuizMind.Wallet.Repository

/-! # One settlement at a time

What `settleTopUp` does as an atomic transaction: nothing when the top-up is
settled or the payment date has no value, else the three writes of a
settlement. These are the facts that the handlers above the repository use.
-/

namespace QuizMind

open Async

/-- The ledger entry of a settlement. -/
def creditEntry (topUp : WalletTopUp) (entryId : ℕ) (balanceAfter : ℤ) : WalletLedgerEntry where
  walletId := topUp.walletId
  topUpId := some topUp.id
  type := .topup
  deltaKopecks := topUp.amountKopecks
  balanceAfterKopecks := balanceAfter
  description := "Top-up via YooKassa"
  id := entryId

/-- The tables after the settlement of a top-up. -/
def settledStore (s : WalletStore) (topUp : WalletTopUp) (paidAt : ℤ) (entryId : ℕ)
    (balanceAfter : ℤ) : WalletStore :=
  ((s.apply (.setTopUp topUp.id .succeeded (some paidAt))).apply
    (.addBalance topUp.walletId topUp.amountKopecks)).apply
    (.insertEntry (creditEntry topUp entryId balanceAfter))

section Alone

variable {s : WalletStore} {n : ℕ} {topUp : WalletTopUp}

section

variable (hrow : s.topUpById topUp.id = some topUp)
include hrow

/-- The top-up is settled: nothing is written. -/
theorem settleTopUp_settled (hstat : topUp.status = .succeeded) (paidAt : JsDate) :
    ∃ r : SettleResult, r.alreadySettled = true ∧
      (settleTopUp (topUp.settlement paidAt)).atomically walletDb.execAlone [] (s, n) =
        (.ok r, (s, n + 1 + 1)) := by
  simp [Prog.atomically, settleTopUp, Prog.await, Database.execAlone, WalletStmt.exec,
    WalletTopUp.settlement, hrow, hstat]

/-- The top-up is open: it is settled. -/
theorem settleTopUp_open (hstat : topUp.status ≠ .succeeded) {w : Wallet}
    (hwallet : s.walletById topUp.walletId = some w) (paidAt : ℤ) :
    ∃ r : SettleResult, r.alreadySettled = false ∧
      (settleTopUp (topUp.settlement (some paidAt))).atomically walletDb.execAlone [] (s, n) =
        (.ok r, (settledStore s topUp paidAt (n + 1 + 1 + 1)
          (w.balanceKopecks + topUp.amountKopecks), n + 1 + 1 + 1 + 1)) := by
  have hid : ∀ (x : WalletStore) (i : ℕ) (st : TopUpStatus) (p : Option ℤ) (j : ℕ),
      (x.apply (.setTopUp i st p)).walletById j = x.walletById j := fun _ _ _ _ _ => rfl
  have htop : ∀ (x : WalletStore) (i : ℕ) (d : ℤ) (j : ℕ),
      (x.apply (.addBalance i d)).topUpById j = x.topUpById j := fun _ _ _ _ => rfl
  simp [Prog.atomically, settleTopUp, markSucceededAndCredit, Prog.await, Database.execAlone,
    WalletStmt.exec, WalletTopUp.settlement, settleEntry, settledStore, creditEntry, hrow, hstat, hwallet,
    hid, htop, Wallet.add]

/-- The payment date has no value: the transaction is rolled back. -/
theorem settleTopUp_invalid (hstat : topUp.status ≠ .succeeded) :
    (settleTopUp (topUp.settlement none)).atomically walletDb.execAlone [] (s, n) =
      (.error .prismaValidation, (s, n)) := by
  simp [Prog.atomically, settleTopUp, markSucceededAndCredit, Prog.await, Database.execAlone,
    WalletStmt.exec, WalletTopUp.settlement, hrow, hstat]

end

end Alone

end QuizMind
