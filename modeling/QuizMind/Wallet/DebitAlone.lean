import QuizMind.Wallet.Repository
import Mathlib.Data.Rat.Floor
import Mathlib.Algebra.BigOperators.Group.List.Basic

/-! # One debit at a time

What `findOrCreateWalletForUser` and `debitUsage` do when nothing runs beside
them: the wallet of the user is read or created, and the debit is written once
per idempotency key.
-/

namespace QuizMind

open Async
open Database (execAlone)
open WalletStore (apply walletByUser)

namespace WalletStore

/-- The balance of a user; without a wallet it is that of a new one. -/
def userBalance (s : WalletStore) (userId : String) : ℤ :=
  ((s.walletByUser userId).map fun w => w.balanceKopecks).getD 0

/-- The currency of a user's wallet; a new wallet has the default of the schema. -/
def userCurrency (s : WalletStore) (userId : String) : String :=
  ((s.walletByUser userId).map fun w => w.currency).getD "RUB"

/-- The usage debits booked under an idempotency key. -/
def debitedUnder (s : WalletStore) (key : String) : ℤ :=
  ((s.entries.filter fun e => e.type == .usage_debit && e.idempotencyKey == some key).map
    fun e => -e.deltaKopecks).sum

/-- The tables with a wallet for the user. -/
def withWallet (s : WalletStore) (userId : String) (fresh : ℕ) : WalletStore :=
  match s.walletByUser userId with
  | some _ => s
  | none => s.apply (.insertWallet ⟨fresh, userId, "RUB", 0⟩)

/-- The wallet of the user, read or created. -/
theorem withWallet_spec (s : WalletStore) (userId : String) (fresh : ℕ) :
    ∃ w, (s.withWallet userId fresh).walletByUser userId = some w ∧
      w.balanceKopecks = s.userBalance userId ∧ w.currency = s.userCurrency userId := by
  unfold withWallet
  cases hwallet : s.walletByUser userId with
  | some w =>
    refine ⟨w, hwallet, ?_, ?_⟩
    · simp [userBalance, hwallet]
    · simp [userCurrency, hwallet]
  | none =>
    refine ⟨⟨fresh, userId, "RUB", 0⟩, ?_, ?_, ?_⟩
    · simp only [walletByUser] at hwallet
      simp [walletByUser, apply, hwallet]
    · simp [userBalance, hwallet]
    · simp [userCurrency, hwallet]

@[simp] theorem entries_withWallet (s : WalletStore) (userId : String) (fresh : ℕ) :
    (s.withWallet userId fresh).entries = s.entries := by
  unfold withWallet
  cases s.walletByUser userId <;> rfl

end WalletStore

/-- The tables after a debit from the wallet `w`, whose row has become `updated`. -/
def debitedStore (s : WalletStore) (input : DebitInput) (w updated : Wallet) (entryId : ℕ) :
    WalletStore :=
  (s.apply (.addBalance w.id (-input.amountKopecks))).apply
    (.insertEntry { debitEntry input w updated with id := entryId })

section Alone

variable {s : WalletStore} {n : ℕ}

/-- The wallet is found or created; no entry is written. -/
theorem findOrCreateWalletForUser_alone (userId : String) :
    ∃ w n', (s.withWallet userId (n + 1)).walletByUser userId = some w ∧
      (findOrCreateWalletForUser userId).run walletDb.execAlone [] (s, n) =
        (.ok w, (s.withWallet userId (n + 1), n')) := by
  cases hwallet : s.walletByUser userId with
  | some w =>
    refine ⟨w, n + 1, ?_, ?_⟩
    · simp [WalletStore.withWallet, hwallet]
    · simp [findOrCreateWalletForUser, Prog.await, execAlone, WalletStmt.exec, hwallet,
        WalletStore.withWallet]
  | none =>
    refine ⟨⟨n + 1, userId, "RUB", 0⟩, n + 1 + 1, ?_, ?_⟩
    · simp only [walletByUser] at hwallet
      simp [WalletStore.withWallet, walletByUser, apply, hwallet]
    · simp [findOrCreateWalletForUser, Prog.await, execAlone, WalletStmt.exec, hwallet,
        WalletStore.withWallet]

variable (input : DebitInput)

/-- The key is used: nothing is written. -/
theorem debitUsage_used (hamount : 0 < input.amountKopecks)
    {e : WalletLedgerEntry} (hkey : s.entryByKey input.idempotencyKey = some e) :
    ∃ r : DebitResult, (debitUsage input).atomically walletDb.execAlone [] (s, n) =
      (.ok r, (s, n + 1)) := by
  simp [Prog.atomically, debitUsage, Prog.await, execAlone, WalletStmt.exec, hkey,
    Int.not_le.mpr hamount]

variable {w : Wallet}

/-- The key is free and the wallet can pay: the debit is written. -/
theorem debitUsage_free (hamount : 0 < input.amountKopecks)
    (hkey : s.entryByKey input.idempotencyKey = none)
    (hwallet : s.walletByUser input.userId = some w)
    (hbal : input.amountKopecks ≤ w.balanceKopecks) :
    ∃ (r : DebitResult) (updated : Wallet) (id n' : ℕ),
      (debitUsage input).atomically walletDb.execAlone [] (s, n) =
        (.ok r, (debitedStore s input w updated id, n')) := by
  have hmem : s.walletById w.id ≠ none := by
    intro hnone
    exact List.find?_eq_none.mp hnone w (WalletStore.walletByUser_some hwallet).1 (by simp)
  -- the row that is updated is looked up by its identifier, not by its user
  rcases Option.ne_none_iff_exists'.mp hmem with ⟨w', hw'⟩
  have hfree : (s.apply (.addBalance w.id (-input.amountKopecks))).entryByKey
      input.idempotencyKey = none := hkey
  refine ⟨⟨n + 1 + 1 + 1, w'.balanceKopecks - input.amountKopecks, false⟩,
    w'.add (-input.amountKopecks), n + 1 + 1 + 1, n + 1 + 1 + 1 + 1, ?_⟩
  simp [Prog.atomically, debitUsage, debitWallet, walletUpsert, Prog.await, execAlone,
    WalletStmt.exec, hkey, hwallet, hw', hfree, Int.not_le.mpr hamount,
    Int.not_lt.mpr hbal, debitEntry, debitedStore, Wallet.add, Int.sub_eq_add_neg]

/-! ## What the debit changes -/

variable (updated : Wallet)

theorem walletByUser_debitedStore (id : ℕ) (hwallet : s.walletByUser input.userId = some w) :
    (debitedStore s input w updated id).walletByUser input.userId =
      some (w.add (-input.amountKopecks)) := by
  have huser : ∀ x : Wallet,
      (if x.id = w.id then x.add (-input.amountKopecks) else x).userId = x.userId := by
    intro x
    split <;> rfl
  unfold walletByUser at hwallet
  unfold debitedStore walletByUser
  simp only [apply, List.find?_map, Function.comp_def, huser, hwallet, Option.map_some, if_true]

theorem userBalance_debitedStore (id : ℕ) (hwallet : s.walletByUser input.userId = some w) :
    (debitedStore s input w updated id).userBalance input.userId =
      s.userBalance input.userId - input.amountKopecks := by
  unfold WalletStore.userBalance
  rw [walletByUser_debitedStore input updated id hwallet, hwallet]
  simp only [Option.map_some, Option.getD_some, Wallet.add]
  omega

theorem userCurrency_debitedStore (id : ℕ) (hwallet : s.walletByUser input.userId = some w) :
    (debitedStore s input w updated id).userCurrency input.userId =
      s.userCurrency input.userId := by
  unfold WalletStore.userCurrency
  rw [walletByUser_debitedStore input updated id hwallet, hwallet]
  rfl

theorem debitedUnder_debitedStore (w updated : Wallet) (id : ℕ) :
    (debitedStore s input w updated id).debitedUnder input.idempotencyKey =
      s.debitedUnder input.idempotencyKey + input.amountKopecks := by
  simp [WalletStore.debitedUnder, debitedStore, apply, debitEntry]

theorem entryByKey_debitedStore (w updated : Wallet) (id : ℕ) :
    ((debitedStore s input w updated id).entryByKey input.idempotencyKey).isSome = true := by
  simp [WalletStore.entryByKey, debitedStore, apply, debitEntry]

end Alone

end QuizMind
