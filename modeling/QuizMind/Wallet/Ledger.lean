import QuizMind.Wallet.Repository
import Mathlib.Algebra.BigOperators.Group.List.Basic
import Mathlib.Tactic.Linarith

/-! # The ledger accounts for every balance

A run is any list of repository calls, each with the calls of its own that
fail. A method that opens a transaction is rolled back when it throws;
`findOrCreateWalletForUser`, `createTopUp` and `cancelTopUp` commit statement
by statement.

The one idea is the *posting*: a balance update followed by the insertion of
the entry that records it (`Booked.post`). Between the two statements the
ledger is behind, which no other transaction and no committed state can see.
-/

namespace QuizMind

open Async
open Prog (onOk)
open WalletStore (apply empty)

/-- The sum of the deltas booked on a wallet. -/
def ledgerSum (entries : List WalletLedgerEntry) (walletId : ℕ) : ℤ :=
  ((entries.filter (fun e => e.walletId == walletId)).map (fun e => e.deltaKopecks)).sum

@[simp] theorem ledgerSum_nil (walletId : ℕ) : ledgerSum [] walletId = 0 := rfl

@[simp] theorem ledgerSum_append (entries : List WalletLedgerEntry) (e : WalletLedgerEntry)
    (walletId : ℕ) :
    ledgerSum (entries ++ [e]) walletId =
      ledgerSum entries walletId + if e.walletId = walletId then e.deltaKopecks else 0 := by
  by_cases h : e.walletId = walletId <;> simp [ledgerSum, h]

theorem ledgerSum_eq_zero {entries : List WalletLedgerEntry} {walletId : ℕ}
    (h : ∀ e ∈ entries, e.walletId ≠ walletId) : ledgerSum entries walletId = 0 := by
  have hnone : entries.filter (fun e => e.walletId == walletId) = [] := by
    simpa using h
  simp [ledgerSum, hnone]

/-- The tables agree with each other: balances are ledger sums, running
balances are prefix sums, and non-null idempotency keys are unique. -/
structure Conserved (s : WalletStore) : Prop where
  balance : ∀ w ∈ s.wallets, w.balanceKopecks = ledgerSum s.entries w.id
  running : ∀ pre e post, s.entries = pre ++ e :: post →
    e.balanceAfterKopecks = ledgerSum (pre ++ [e]) e.walletId
  keys : s.entries.Pairwise
    (fun e e' => e.idempotencyKey = none ∨ e.idempotencyKey ≠ e'.idempotencyKey)

/-- The invariant behind it: identifiers are drawn from the counter, so a new
wallet starts with an empty ledger. -/
structure Booked (s : WalletStore × ℕ) : Prop extends Conserved s.1 where
  wallets_lt : ∀ w ∈ s.1.wallets, w.id < s.2
  entries_lt : ∀ e ∈ s.1.entries, e.walletId < s.2

namespace Booked

variable {s : WalletStore}

section

variable {n : ℕ} (h : Booked (s, n))
include h

/-- Only the wallets, the entries and the counter matter. -/
theorem congr {s' : WalletStore} {n' : ℕ}
    (hw : s'.wallets = s.wallets) (he : s'.entries = s.entries) (hn : n ≤ n') :
    Booked (s', n') where
  balance := by
    rw [hw, he]
    exact h.balance
  running := by
    rw [he]
    exact h.running
  keys := by
    rw [he]
    exact h.keys
  wallets_lt := by
    intro w hmem
    rw [hw] at hmem
    have hlt := h.wallets_lt w hmem
    exact Nat.lt_of_lt_of_le hlt hn
  entries_lt := by
    intro e hmem
    rw [he] at hmem
    have hlt := h.entries_lt e hmem
    exact Nat.lt_of_lt_of_le hlt hn

theorem mono {n' : ℕ} (hn : n ≤ n') : Booked (s, n') :=
  h.congr rfl rfl hn

/-- A new wallet has no entries and an empty balance. -/
theorem insertWallet {w : Wallet} (hid : w.id = n) (hzero : w.balanceKopecks = 0) :
    Booked (s.apply (.insertWallet w), n + 1) where
  balance := by
    intro v hv
    rcases List.mem_append.mp hv with hold | hnew
    · exact h.balance v hold
    rw [List.mem_singleton] at hnew
    subst hnew
    -- its identifier is fresh, so no entry is about it
    have hnone : ∀ e ∈ s.entries, e.walletId ≠ v.id := by
      intro e he
      have hlt : e.walletId < n := h.entries_lt e he
      omega
    simpa [apply, ledgerSum_eq_zero hnone] using hzero
  running := h.running
  keys := h.keys
  wallets_lt := by
    intro v hv
    rcases List.mem_append.mp hv with hold | hnew
    · have hlt := h.wallets_lt v hold
      exact Nat.lt_succ_of_lt hlt
    · grind
  entries_lt := by
    intro e he
    have hlt := h.entries_lt e he
    exact Nat.lt_succ_of_lt hlt

/-- The posting: a balance update and the entry that records it. -/
theorem post {n' m : ℕ} {id : ℕ} {w : Wallet}
    {data : LedgerEntryData} (hw : s.walletById id = some w) (hwallet : data.walletId = id)
    (hafter : data.balanceAfterKopecks = w.balanceKopecks + data.deltaKopecks)
    (hkey : ∀ e ∈ s.entries, e.idempotencyKey = none ∨ e.idempotencyKey ≠ data.idempotencyKey)
    (hn : n ≤ n') :
    Booked ((s.apply (.addBalance id data.deltaKopecks)).apply
      (.insertEntry { data with id := m }), n') := by
  obtain ⟨hmem, hid⟩ := WalletStore.walletById_some hw
  have hsum : w.balanceKopecks = ledgerSum s.entries id := hid ▸ h.balance w hmem
  let entry : WalletLedgerEntry := { data with id := m }
  -- the identifiers do not change
  have hids : ∀ v : Wallet, (if v.id = id then v.add data.deltaKopecks else v).id = v.id := by
    intro v
    split <;> rfl
  constructor
  · constructor
    · intro v hv
      obtain ⟨u, hu, rfl⟩ := List.mem_map.mp hv
      -- the wallet that is updated gets the entry, no other one does
      have hold := h.balance u hu
      by_cases hui : u.id = id
      · simp [apply, hui, hwallet, Wallet.add, hold]
      · have hne : ¬ data.walletId = u.id := fun heq => hui (heq.symm.trans hwallet)
        simp [apply, hui, hne, hold]
    · intro pre e post hsplit
      have hsplit' : s.entries ++ [entry] = pre ++ e :: post := hsplit
      rcases List.eq_nil_or_concat post with rfl | ⟨post', e', rfl⟩
      · -- the new entry
        obtain ⟨rfl, heq⟩ := List.append_inj' hsplit' rfl
        obtain rfl : entry = e := by simpa using heq
        have hwid : entry.walletId = id := hwallet
        rw [ledgerSum_append, if_pos rfl, hwid, ← hsum]
        exact hafter
      -- an older entry
      have hcut : s.entries = pre ++ e :: post' := by
        have hinj : s.entries ++ [entry] = (pre ++ e :: post') ++ [e'] := by
          simpa using hsplit'
        exact (List.append_inj' hinj rfl).1
      exact h.running pre e post' hcut
    · have hpair : (s.entries ++ [entry]).Pairwise
          (fun e e' => e.idempotencyKey = none ∨ e.idempotencyKey ≠ e'.idempotencyKey) := by
        rw [List.pairwise_append]
        refine ⟨h.keys, by simp, ?_⟩
        intro e he e' he'
        rw [List.mem_singleton] at he'
        rw [he']
        exact hkey e he
      exact hpair
  · intro v hv
    obtain ⟨u, hu, rfl⟩ := List.mem_map.mp hv
    have hlt : u.id < n := h.wallets_lt u hu
    rw [hids]
    exact Nat.lt_of_lt_of_le hlt hn
  · intro e he
    rcases List.mem_append.mp he with hold | hnew
    · have hlt : e.walletId < n := h.entries_lt e hold
      exact Nat.lt_of_lt_of_le hlt hn
    rw [List.mem_singleton] at hnew
    subst hnew
    -- the new entry is about a wallet that is there
    have hlt : w.id < n := h.wallets_lt w hmem
    show data.walletId < n'
    omega

end

end Booked

/-! ## Every method keeps the books -/

section Methods

variable {α : Type} {P : α → WalletStore × ℕ → Prop} {s : WalletStore} {n : ℕ}

/-- A balance update followed by the entry that records it. -/
theorem wp_post {id : ℕ} {delta : ℤ} {data : Wallet → LedgerEntryData}
    {f : Wallet → WalletLedgerEntry → WalletProg α} (hs : Booked (s, n))
    (hwallet : ∀ w, (data w).walletId = id) (hdelta : ∀ w, (data w).deltaKopecks = delta)
    (hafter : ∀ w, (data w).balanceAfterKopecks = w.balanceKopecks)
    (hf : ∀ w e s', Booked s' → (f w e).wp walletDb.execAlone (onOk P) s') :
    (prisma (.walletUpdate id delta) >>= fun w =>
      prisma (.entryCreate (data w)) >>= fun e => f w e).wp walletDb.execAlone
        (onOk P) (s, n) := by
  apply walletDb.wp_await_bind
  intro w ws hexec
  simp only [walletDb_exec, WalletStmt.exec] at hexec
  split at hexec
  · cases hexec
  rename_i v hv
  obtain ⟨rfl, rfl⟩ := Prod.mk.inj (Except.ok.inj hexec)
  apply walletDb.wp_await_bind
  intro e ws hinsert
  cases WalletStmt.exec_writes hinsert with
  | read hread => cases hread
  | entryCreate hfree =>
    apply hf
    -- the unique index has let the entry in
    have hkey : ∀ e ∈ s.entries, e.idempotencyKey = none ∨
        e.idempotencyKey ≠ (data (v.add delta)).idempotencyKey := by
      intro e he
      cases hk : e.idempotencyKey with
      | none => exact Or.inl rfl
      | some key =>
        right
        intro heq
        exact WalletStore.entryByKey_none.mp (hfree key heq.symm) e he hk
    have hpost := hs.post (m := n + 1) hv (hwallet (v.add delta))
      (by rw [hafter, hdelta]; rfl) hkey (show n ≤ n + 1 + 1 by omega)
    rw [hdelta] at hpost
    exact hpost

/-- The statements that read or write something other than wallets and entries. -/
def WalletStmt.KeepsBooks : WalletStmt → Prop
  | .walletCreate _ _ | .walletUpdate _ _ | .entryCreate _ => False
  | _ => True

theorem exec_keepsBooks {op : WalletStmt} (hop : op.KeepsBooks) {r : op.Res}
    {ws : List WalletWrite} (h : walletDb.exec op n s = .ok (r, ws)) :
    (walletDb.view s ws).wallets = s.wallets ∧ (walletDb.view s ws).entries = s.entries := by
  cases WalletStmt.exec_writes h with
  | walletCreate hfree => exact hop.elim
  | walletUpdate hw => exact hop.elim
  | entryCreate hkey => exact hop.elim
  | _ => exact ⟨rfl, rfl⟩

section

variable (hs : Booked (s, n))
include hs

/-- A statement that does not touch the books. -/
theorem wp_keep {op : WalletStmt} {f : op.Res → WalletProg α} (hop : op.KeepsBooks)
    (hf : ∀ r s', Booked s' → (f r).wp walletDb.execAlone (onOk P) s') :
    (prisma op >>= f).wp walletDb.execAlone (onOk P) (s, n) := by
  apply walletDb.wp_await_bind
  intro r ws hexec
  obtain ⟨hwallets, hentries⟩ := exec_keepsBooks hop hexec
  exact hf r _ (hs.congr hwallets hentries (Nat.le_succ n))

theorem walletCreate_wp {userId : String} {currency : Option String} :
    (prisma (.walletCreate userId currency)).wp walletDb.execAlone
      (onOk fun _ => Booked) (s, n) := by
  apply walletDb.wp_await
  intro w ws hexec
  cases WalletStmt.exec_writes hexec with
  | read hread => cases hread
  | walletCreate hfree => exact hs.insertWallet rfl rfl

theorem walletUpsert_wp {userId currency : String} :
    (walletUpsert userId currency).wp walletDb.execAlone (onOk fun _ => Booked) (s, n) := by
  refine wp_keep hs (by trivial) ?_
  intro existing s' hs'
  cases existing with
  | some wallet => exact hs'
  | none => exact walletCreate_wp hs'

theorem settleTopUp_wp {input : SettleInput} :
    (settleTopUp input).wp walletDb.execAlone (onOk fun _ => Booked) (s, n) := by
  refine wp_keep hs (by trivial) ?_
  intro topUp s' hs'
  cases topUp with
  | none => trivial
  | some topUp =>
    by_cases hstat : topUp.status = .succeeded
    · -- settled before: only the wallet is read
      simp only [hstat]
      exact wp_keep hs' (by trivial) fun _ _ hs'' => hs''
    simp only [hstat]
    refine wp_keep hs' (by trivial) ?_
    intro _ s'' hs''
    exact wp_post hs'' (fun _ => rfl) (fun _ => rfl) (fun _ => rfl) fun _ _ _ hdone => hdone

theorem debitUsage_wp {input : DebitInput} :
    (debitUsage input).wp walletDb.execAlone (onOk fun _ => Booked) (s, n) := by
  unfold debitUsage
  split
  · trivial
  refine wp_keep hs (by trivial) ?_
  intro existing s' hs'
  cases existing with
  | some existing => exact hs'
  | none =>
    apply Prog.wp_bind_onOk _ (walletUpsert_wp hs')
    intro wallet s'' hs''
    unfold debitWallet
    split
    · trivial
    · exact wp_post hs'' (fun _ => rfl) (fun _ => rfl) (fun _ => rfl) fun _ _ _ hdone => hdone

/-- The loop: every iteration posts or skips. -/
theorem adjustWallets_wp {input : AdjustInput} {reason : String} {batchId : ℕ}
    {userIds : List String} {affected skipped : ℕ} :
    (adjustWallets input reason batchId userIds affected skipped).wp walletDb.execAlone
      (onOk fun _ => Booked) (s, n) := by
  -- the store and the counters change from one iteration to the next
  induction userIds generalizing affected skipped s n with
  | nil => exact hs
  | cons userId userIds ih =>
    apply Prog.wp_bind_onOk _ (walletUpsert_wp hs)
    intro wallet s' hs'
    split
    · exact ih hs'
    · exact wp_post hs' (fun _ => rfl) (fun _ => rfl) (fun _ => rfl) fun _ _ _ hdone => ih hdone

theorem manualAdjustWallets_wp {input : AdjustInput} :
    (manualAdjustWallets input).wp walletDb.execAlone (onOk fun _ => Booked) (s, n) := by
  unfold manualAdjustWallets
  split
  · trivial
  split
  · trivial
  refine wp_keep hs (by trivial) ?_
  intro existingBatch s' hs'
  cases existingBatch with
  | some existingBatch => exact wp_keep hs' (by trivial) fun _ _ hdone => hdone
  | none =>
    refine wp_keep hs' (by trivial) ?_
    intro batch s'' hs''
    apply Prog.wp_bind_onOk _ (adjustWallets_wp hs'')
    intro counts s₃ hdone
    exact hdone

end

end Methods

/-! ## Serial runs -/

/-- A call of the repository. -/
inductive WalletRequest where
  | findOrCreateWallet (userId : String)
  | createTopUp (input : TopUpData)
  | cancelTopUp (topUpId : ℕ)
  | settleTopUp (input : SettleInput)
  | debitUsage (input : DebitInput)
  | manualAdjust (input : AdjustInput)

/-- The tables after one call, some of whose statements fail: the calls that
open a transaction are rolled back when they throw. -/
def WalletRequest.serve (faults : List (Option Exception)) (s : WalletStore × ℕ) :
    WalletRequest → WalletStore × ℕ
  | .findOrCreateWallet userId =>
    ((QuizMind.findOrCreateWalletForUser userId).run walletDb.execAlone faults s).2
  | .createTopUp input => ((QuizMind.createTopUp input).run walletDb.execAlone faults s).2
  | .cancelTopUp topUpId => ((QuizMind.cancelTopUp topUpId).run walletDb.execAlone faults s).2
  | .settleTopUp input => ((QuizMind.settleTopUp input).atomically walletDb.execAlone faults s).2
  | .debitUsage input => ((QuizMind.debitUsage input).atomically walletDb.execAlone faults s).2
  | .manualAdjust input =>
    ((QuizMind.manualAdjustWallets input).atomically walletDb.execAlone faults s).2

/-- The tables after a list of calls. -/
def serveAll (calls : List (WalletRequest × List (Option Exception))) (s : WalletStore × ℕ) :
    WalletStore × ℕ :=
  calls.foldl (fun s call => call.1.serve call.2 s) s

/-- A statement that may be committed on its own. -/
def WalletStmt.Autocommits : WalletStmt → Prop
  | .walletUpdate _ _ | .entryCreate _ => False
  | _ => True

variable {s : WalletStore × ℕ}

theorem execAlone_booked {op : WalletStmt} (hop : op.Autocommits)
    (hs : Booked s) : Booked (walletDb.execAlone op s).2 := by
  obtain ⟨s, n⟩ := s
  unfold Database.execAlone
  cases hexec : walletDb.exec op n s with
  | error e => exact hs.mono (Nat.le_succ n)
  | ok out =>
    obtain ⟨r, ws⟩ := out
    -- the writes of one statement are visible at once
    by_cases hkeep : op.KeepsBooks
    · obtain ⟨hwallets, hentries⟩ := exec_keepsBooks hkeep hexec
      exact hs.congr hwallets hentries (Nat.le_succ n)
    -- the only other statement is the creation of a wallet
    cases WalletStmt.exec_writes hexec with
    | walletCreate hfree => exact hs.insertWallet rfl rfl
    | walletUpdate hw => exact hop.elim
    | entryCreate hkey => exact hop.elim
    | read hread => cases op <;> first | exact (hkeep trivial).elim | cases hread
    | _ => exact (hkeep trivial).elim

theorem findOrCreateWalletForUser_safe (userId : String) :
    (findOrCreateWalletForUser userId).Safe (fun _ _ => True) WalletStmt.Autocommits := by
  refine ⟨trivial, ?_⟩
  intro r _
  rcases r with e | _ | wallet
  · trivial
  · refine ⟨trivial, ?_⟩
    intro r _
    cases r <;> trivial
  · trivial

/-- One call keeps the books. -/
theorem serve_booked {call : WalletRequest} {faults : List (Option Exception)} (hs : Booked s) :
    Booked (call.serve faults s) := by
  have hauto : ∀ op s, WalletStmt.Autocommits op → Booked s →
      Booked (walletDb.execAlone op s).2 := fun _ _ => execAlone_booked
  -- three calls run statement by statement, three as one transaction
  cases call with
  | findOrCreateWallet userId =>
    exact Prog.run_of_safe hauto (findOrCreateWalletForUser_safe userId) faults hs
  | createTopUp input =>
    have hsafe : (createTopUp input).Safe (fun _ _ => True) WalletStmt.Autocommits :=
      ⟨trivial, fun r _ => by cases r <;> trivial⟩
    exact Prog.run_of_safe hauto hsafe faults hs
  | cancelTopUp topUpId =>
    have hsafe : (cancelTopUp topUpId).Safe (fun _ _ => True) WalletStmt.Autocommits :=
      ⟨trivial, fun r _ => by cases r <;> trivial⟩
    exact Prog.run_of_safe hauto hsafe faults hs
  | settleTopUp input => exact Prog.atomically_of_wp _ (settleTopUp_wp hs) hs faults
  | debitUsage input => exact Prog.atomically_of_wp _ (debitUsage_wp hs) hs faults
  | manualAdjust input => exact Prog.atomically_of_wp _ (manualAdjustWallets_wp hs) hs faults

theorem serveAll_booked {calls : List (WalletRequest × List (Option Exception))} (hs : Booked s) :
    Booked (serveAll calls s) := by
  induction calls generalizing s with
  | nil => exact hs
  | cons call calls ih => exact ih (serve_booked hs)

/-- No rows, no books to keep. -/
theorem booked_empty : Booked (empty, 0) where
  balance := by simp [empty]
  running := by simp [empty]
  keys := by simp [empty]
  wallets_lt := by simp [empty]
  entries_lt := by simp [empty]

/-- Ledger conservation: after any calls in any order, with any of their
statements failing, every balance is the sum of its ledger, every entry holds
the running balance, and idempotency keys are unique. -/
theorem ledger_conserved (calls : List (WalletRequest × List (Option Exception))) :
    Conserved (serveAll calls (empty, 0)).1 :=
  (serveAll_booked booked_empty).toConserved

end QuizMind
