import QuizMind.Wallet.Repository

/-! # Concurrent settlements of one top-up

Any number of `settleTopUp` transactions for one top-up run interleaved under
READ COMMITTED. The guard of `settleTopUp` reads the status in one statement
and writes it, whatever it is by then, in a later one; the ledger has no
unique constraint on `topUpId`. Two transactions that both read `pending`
therefore both credit the wallet (`double_settlement`).

What does hold (`settledOnce_of_updatesOpen`): if every status update runs
while the committed status is still open, the top-up is settled at most once.
From its status update on, a transaction holds the row lock, so nobody else
can settle the top-up before it ends.
-/

namespace QuizMind

open Async
open Database (anyStep initial own_of_getElem)

/-- A transaction for each settlement request; requests differ in `paidAt`. -/
def settleCode (topUp : WalletTopUp) (paidAt : JsDate) : WalletProg SettleResult :=
  settleTopUp (topUp.settlement paidAt)

/-- The states of the wallet tables under concurrent settlements. -/
abbrev SettleState :=
  Database.State WalletStmt WalletStmt.Res Exception WalletWrite WalletStore SettleResult JsDate

/-- The top-up is there, and it has been credited at most once so far and only
if it is settled. -/
structure SettleStart (topUp : WalletTopUp) (s₀ : WalletStore) : Prop where
  row : s₀.topUpById topUp.id = some topUp
  once : (s₀.topUpEntries topUp.id).length ≤ 1
  unsettled : topUp.status ≠ .succeeded → s₀.topUpEntries topUp.id = []

/-- At most one ledger entry credits the top-up, and compared to `s₀` at most
one amount has been added, to the wallet of the top-up. -/
structure SettledOnce (topUp : WalletTopUp) (s₀ s : WalletStore) : Prop where
  entries : (s.topUpEntries topUp.id).length ≤ 1
  balance : ∃ credits : ℕ, credits ≤ 1 ∧ ∀ id, s.balanceOf id = (s₀.balanceOf id).map
    (fun b => if id = topUp.walletId then b + credits * topUp.amountKopecks else b)

/-- The status update of a top-up runs only while its committed status is not
yet `succeeded`. -/
def updatesOpen : SettleState → Database.Choice Exception JsDate → Bool
  | s, .stmt t =>
    match s.nextStmt t with
    | some (.topUpSetSucceeded topUpId _) =>
      s.committed.statusOf topUpId != some .succeeded
    | _ => true
  | _, _ => true

/-! ## What one settlement can commit -/

/-- Nothing, or the three writes of a settlement. -/
def SettleWrites (topUp : WalletTopUp) (own : List WalletWrite) : Prop :=
  own = [] ∨ ∃ paidAt e, own = [.setTopUp topUp.id .succeeded paidAt,
        .addBalance topUp.walletId topUp.amountKopecks, .insertEntry e] ∧
      e.type = .topup ∧ e.topUpId = some topUp.id

/-- The statements of `settleTopUp`. -/
def SettleStmt (topUp : WalletTopUp) : WalletStmt → Prop
  | .topUpFindById _ | .walletFindById _ | .walletUpdate _ _ | .entryCreate _ => True
  | .topUpSetSucceeded id _ => id = topUp.id
  | _ => False

theorem settleCode_along (topUp : WalletTopUp) (paidAt : JsDate) :
    walletDb.Along (SettleStmt topUp) (fun _ => SettleWrites topUp)
      (settleCode topUp paidAt) [] := by
  refine walletDb.along_await_bind (by trivial) ?_
  intro n v row ws hexec
  obtain ⟨-, rfl⟩ := Prod.mk.inj (Except.ok.inj hexec)
  cases row with
  | none => trivial
  | some row =>
    by_cases hstat : row.status = .succeeded
    · -- already settled: only a read
      simp only [hstat]
      refine walletDb.along_await_bind (by trivial) ?_
      intro n' v' wallet ws hexec'
      obtain ⟨-, rfl⟩ := Prod.mk.inj (Except.ok.inj hexec')
      exact Or.inl rfl
    simp only [hstat]
    refine walletDb.along_await_bind (by rfl) ?_
    intro n₁ v₁ _ ws hset
    -- the status, the balance, the entry: three writes, one after the other
    generalize hpaid : (topUp.settlement paidAt).paidAt = paid at hset
    cases WalletStmt.exec_writes hset with
    | read hread => cases hread
    | topUpSetSucceeded =>
      refine walletDb.along_await_bind (by trivial) ?_
      intro n₂ v₂ updated ws hadd
      cases WalletStmt.exec_writes hadd with
      | read hread => cases hread
      | walletUpdate hw =>
        refine walletDb.along_await_bind (by trivial) ?_
        intro n₃ v₃ entry ws hinsert
        cases WalletStmt.exec_writes hinsert with
        | read hread => cases hread
        | entryCreate hkey =>
          right
          exact ⟨_, _, rfl, rfl, rfl⟩

variable {topUp : WalletTopUp}

/-- Only the status update writes a status. -/
theorem setTopUp_of_exec {op : WalletStmt} (hop : SettleStmt topUp op) {n : ℕ} {v : WalletStore}
    {r : op.Res} {ws : List WalletWrite} (hexec : walletDb.exec op n v = .ok (r, ws)) {id : ℕ}
    {status : TopUpStatus} {paidAt : Option ℤ} (hw : .setTopUp id status paidAt ∈ ws) :
    ∃ p, op = .topUpSetSucceeded topUp.id p := by
  cases WalletStmt.exec_writes hexec with
  | topUpSetSucceeded =>
    obtain rfl : _ = topUp.id := hop
    exact ⟨_, rfl⟩
  | topUpCancel hpend => exact hop.elim
  | _ => simp at hw

/-! ## The invariant -/

/-- The transaction has written the status of the top-up and not ended. -/
def Settling (topUp : WalletTopUp) (own : List WalletWrite) : Prop :=
  ∃ status paidAt, .setTopUp topUp.id status paidAt ∈ own

theorem not_settling_nil : ¬ Settling topUp [] := by
  rintro ⟨status, paidAt, hw⟩
  simp at hw

/-- What has been committed so far: as long as the status is open, nothing. -/
structure Credited (topUp : WalletTopUp) (s₀ c : WalletStore) : Prop extends
    SettledOnce topUp s₀ c where
  row : c.statusOf topUp.id ≠ none
  untouched : c.statusOf topUp.id ≠ some .succeeded →
    c.topUpEntries topUp.id = [] ∧ ∀ id, c.balanceOf id = s₀.balanceOf id

structure SettleInv (topUp : WalletTopUp) (s₀ : WalletStore) (s : SettleState) : Prop where
  locked : walletDb.Locked s
  along : walletDb.AllAlong (SettleStmt topUp) (fun _ => SettleWrites topUp) s
  settling : ∀ t, Settling topUp (s.own t) → s.committed.statusOf topUp.id ≠ some .succeeded
  credited : Credited topUp s₀ s.committed

variable {s₀ : WalletStore}

/-- The first settlement to be committed credits the wallet once. -/
theorem Credited.settle {c : WalletStore} (h : Credited topUp s₀ c)
    (hopen : c.statusOf topUp.id ≠ some .succeeded) {paidAt : Option ℤ} {e : WalletLedgerEntry}
    (htype : e.type = .topup) (hentry : e.topUpId = some topUp.id) :
    Credited topUp s₀ (walletDb.view c [.setTopUp topUp.id .succeeded paidAt,
      .addBalance topUp.walletId topUp.amountKopecks, .insertEntry e]) := by
  obtain ⟨hentries, hbal⟩ := h.untouched hopen
  obtain ⟨status, hstat⟩ := Option.ne_none_iff_exists'.mp h.row
  -- the status was open, so this is the first credit
  simp only [Database.view]
  constructor
  · constructor
    · simp [WalletStore.topUpEntries_insertEntry, hentries, htype, hentry]
    · refine ⟨1, Nat.le_refl 1, ?_⟩
      simp [hbal]
  · simp [hstat]
  · intro hne
    simp [hstat] at hne

/-- Replacing one transaction: it and the others must have found the status open. -/
theorem settling_set {s : SettleState} {t : ℕ}
    {e entry : JsDate × Database.Tx WalletStmt WalletStmt.Res Exception WalletWrite SettleResult}
    (ht : s.txs[t]? = some e) {c : WalletStore} {n : ℕ}
    (hother : ∀ u, u ≠ t → Settling topUp (s.own u) → c.statusOf topUp.id ≠ some .succeeded)
    (hnew : Settling topUp entry.2.own → c.statusOf topUp.id ≠ some .succeeded) (u : ℕ) :
    Settling topUp (Database.State.own ⟨c, n, s.txs.set t entry⟩ u) →
      c.statusOf topUp.id ≠ some .succeeded :=
  Database.forall_own_set (Q := fun own => Settling topUp own →
    c.statusOf topUp.id ≠ some .succeeded) ht hother hnew u

theorem settleInv_step {s s' : SettleState} {c : Database.Choice Exception JsDate}
    (hC : updatesOpen s c) (hnext : walletDb.next (settleCode topUp) c s = some s')
    (h : SettleInv topUp s₀ s) : SettleInv topUp s₀ s' := by
  have hlocked := walletDb.locked_step (settleCode topUp) hnext h.locked
  have halong := walletDb.allAlong_step (settleCode topUp) (settleCode_along topUp) hnext h.along
  rcases walletDb.next_cases (settleCode topUp) hnext with ⟨req, rfl, rfl⟩ |
    ⟨t, req, op, k, own, r, ws, rfl, ht, hexec, _, rfl⟩ |
    ⟨t, req, op, k, own, e, n, _, ht, rfl, _⟩ | ⟨t, req, a, own, rfl, ht, rfl⟩ |
    ⟨t, req, prog, own, rfl, ht, rfl⟩
  · refine ⟨hlocked, halong, ?_, h.credited⟩
    intro u hu
    rw [Database.own_begin] at hu
    exact h.settling u hu
  · -- a statement: only the status update starts a settlement
    refine ⟨hlocked, halong, ?_, h.credited⟩
    apply settling_set ht (fun u _ => h.settling u)
    rintro ⟨status, paidAt, hw⟩
    rcases List.mem_append.mp hw with hold | hadd
    · exact h.settling t ⟨status, paidAt, (own_of_getElem ht).symm ▸ hold⟩
    · obtain ⟨p, rfl⟩ := setTopUp_of_exec (h.along t req _ own ht).1 hexec hadd
      simpa [updatesOpen, Database.nextStmt_of_getElem ht] using hC
  · refine ⟨hlocked, halong, ?_, h.credited⟩
    apply settling_set ht (fun u _ => h.settling u)
    intro hown
    exact h.settling t ((own_of_getElem ht).symm ▸ hown)
  · rcases h.along t req _ own ht with rfl | ⟨paidAt, e, rfl, htype, hentry⟩
    · -- the transaction found the top-up settled and wrote nothing
      refine ⟨hlocked, halong, ?_, h.credited⟩
      exact settling_set ht (fun u _ => h.settling u) fun hown =>
        absurd hown not_settling_nil
    · -- the settlement is committed: nobody else can be settling
      have hown := own_of_getElem ht
      have hmem : WalletWrite.setTopUp topUp.id .succeeded paidAt ∈ s.own t := by
        simp [hown, Database.Tx.own]
      -- the row lock: another transaction that is settling would conflict with this one
      have hopen := h.settling t ⟨.succeeded, paidAt, hmem⟩
      refine ⟨hlocked, halong, ?_, h.credited.settle hopen htype hentry⟩
      refine settling_set ht ?_ fun hown => absurd hown not_settling_nil
      rintro u hut ⟨status, paidAt', hw⟩
      have hconf : walletDb.conflicts (.setTopUp topUp.id .succeeded paidAt)
          (.setTopUp topUp.id status paidAt') :=
        ⟨.topUpRow topUp.id, by simp [WalletWrite.locks], by simp [WalletWrite.locks]⟩
      exact absurd hconf (h.locked t u (Ne.symm hut) _ hmem _ hw)
  · refine ⟨hlocked, halong, ?_, h.credited⟩
    exact settling_set ht (fun u _ => h.settling u) fun hown =>
      absurd hown not_settling_nil

theorem settleInv_initial (h : SettleStart topUp s₀) (n : ℕ) :
    SettleInv topUp s₀ (initial s₀ n) where
  locked := walletDb.locked_initial s₀ n
  along := walletDb.allAlong_initial s₀ n
  settling := by
    intro t hown
    exact absurd hown not_settling_nil
  credited := by
    have hstat : s₀.statusOf topUp.id = some topUp.status := by
      simp [WalletStore.statusOf, h.row]
    refine ⟨⟨h.once, 0, Nat.zero_le 1, by simp [initial]⟩, by simp [initial, hstat], ?_⟩
    intro hopen
    have hne : topUp.status ≠ .succeeded := by grind [initial]
    exact ⟨h.unsettled hne, fun _ => rfl⟩

/-! ## The result -/

/-- If every status update runs while the committed status is still open, then
in every reachable state the top-up has been settled at most once. -/
theorem settledOnce_of_updatesOpen {topUp : WalletTopUp} {s₀ : WalletStore}
    (hstart : SettleStart topUp s₀) {n : ℕ} {s : SettleState}
    (hrun : walletDb.Reaches (settleCode topUp) (fun s c => updatesOpen s c)
      (initial s₀ n) s) :
    SettledOnce topUp s₀ s.committed := by
  have hinv : SettleInv topUp s₀ s :=
    Database.Reaches.invariant walletDb (settleCode topUp)
      (fun _ _ _ hC hnext h => settleInv_step hC hnext h) hrun (settleInv_initial hstart n)
  exact hinv.credited.toSettledOnce

/-! ## Two settlements that both read `pending` -/

/-- A top-up of ten roubles that is waiting for its payment. -/
def pendingTopUp : WalletTopUp where
  id := 2
  walletId := 1
  createdByUserId := "u1"
  amountKopecks := 1000
  currency := "RUB"
  status := .pending
  provider := "yookassa"
  providerPaymentId := some "pay-1"
  idempotenceKey := "k1"
  confirmationToken := some "ct-1"
  paidAt := none

/-- The tables with this top-up and its empty wallet. -/
def pendingStore : WalletStore where
  wallets := [{ id := 1, userId := "u1", currency := "RUB", balanceKopecks := 0 }]
  topUps := [pendingTopUp]
  entries := []
  batches := []

theorem pendingStore_start : SettleStart pendingTopUp pendingStore where
  row := by decide
  once := by decide
  unsettled := by decide

/-- Both transactions read the status before either has written it. -/
def bothReadPending : List (Database.Choice Exception JsDate) :=
  [.begin (some 0), .begin (some 0), .stmt 0, .stmt 1,
    .stmt 0, .stmt 0, .stmt 0, .commit 0, .stmt 1, .stmt 1, .stmt 1, .commit 1]

/-- One transaction after the other. -/
def oneAfterTheOther : List (Database.Choice Exception JsDate) :=
  [.begin (some 0), .begin (some 0), .stmt 0, .stmt 0, .stmt 0, .stmt 0, .commit 0,
    .stmt 1, .stmt 1, .commit 1]

theorem settledOnce_oneAfterTheOther :
    ∃ s : SettleState, SettledOnce pendingTopUp pendingStore s.committed ∧
      s.committed.balanceOf 1 = some 1000 := by
  have hcheck : ((walletDb.trace (settleCode pendingTopUp) updatesOpen oneAfterTheOther
      (initial pendingStore 3)).map
        (fun s => s.committed.balanceOf 1 == some 1000)) = some true := by decide
  obtain ⟨s, hrun, hbalance⟩ := walletDb.reaches_of_trace_check (settleCode pendingTopUp)
    (p := fun c => c.balanceOf 1 == some 1000) hcheck
  exact ⟨s, settledOnce_of_updatesOpen pendingStore_start hrun, by simpa using hbalance⟩

/-- The second transaction waits for the row lock and then credits the wallet
a second time. -/
theorem double_settlement : SettleStart pendingTopUp pendingStore ∧ ∃ s : SettleState,
        walletDb.Reaches (settleCode pendingTopUp) (fun s c => anyStep s c)
          (initial pendingStore 3) s ∧
        s.committed.balanceOf 1 = some 2000 ∧
        ¬ SettledOnce pendingTopUp pendingStore s.committed := by
  refine ⟨pendingStore_start, ?_⟩
  have hcheck : ((walletDb.trace (settleCode pendingTopUp) anyStep bothReadPending
      (initial pendingStore 3)).map (fun s =>
        s.committed.balanceOf 1 == some 2000 &&
          (s.committed.topUpEntries pendingTopUp.id).length == 2)) = some true := by decide
  obtain ⟨s, hrun, hp⟩ := walletDb.reaches_of_trace_check (settleCode pendingTopUp)
    (p := fun c => c.balanceOf 1 == some 2000 &&
      (c.topUpEntries pendingTopUp.id).length == 2) hcheck
  simp only [Bool.and_eq_true, beq_iff_eq] at hp
  refine ⟨s, hrun, hp.1, ?_⟩
  intro honce
  have hle := honce.entries
  omega

end QuizMind
