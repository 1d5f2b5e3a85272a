import QuizMind.Billing.Redelivery
import Mathlib.Algebra.BigOperators.Group.List.Basic
import Mathlib.Data.List.Nodup

/-! # The status of a top-up

`processYookassaPaymentEvent` handles one payment event after another.
`cancelTopUp` filters on the status `pending`, `settleTopUp` only tests for
`succeeded`: a top-up that has been canceled or refunded is credited by a late
`payment.succeeded` (`canceled_then_credited`). The status machine is kept
exactly when no such event gets through to the settlement
(`conforms_iff_noneRevived`).
-/

namespace QuizMind

open Async WalletService

/-! ## The statement -/

/-- A payment event, the clock at which it is handled and the calls of its
handling that fail. -/
structure PaymentEventAt where
  now : ℤ
  input : PaymentEvent
  faults : List (Option Exception)

/-- The tables after the handling of an event. -/
def PaymentEventAt.process (e : PaymentEventAt) (s : BillingStore) : BillingStore :=
  ((processYookassaPaymentEvent e.now e.input).run BillingCall.exec e.faults s).2

/-- The changes of status the machine allows. -/
def Allowed (before after : Option TopUpStatus) : Prop :=
  after = before ∨ before = some .pending ∧ (after = some .succeeded ∨ after = some .canceled)

/-- The top-up was pending and has succeeded. -/
def wentThrough (s' : WalletStore) (topUp : WalletTopUp) : Bool :=
  topUp.status == .pending && s'.statusOf topUp.id == some .succeeded

/-- From `s` to `s'` every status changes as the machine allows, and the wallets
are credited with exactly the top-ups that went through. -/
structure Conforms (s s' : WalletStore) : Prop where
  status : ∀ id, Allowed (s.statusOf id) (s'.statusOf id)
  entries : ∀ topUp ∈ s.topUps, (s'.topUpEntries topUp.id).length =
    (s.topUpEntries topUp.id).length + if wentThrough s' topUp then 1 else 0
  balance : ∀ id, s'.balanceOf id = (s.balanceOf id).map fun b => b +
    ((s.topUps.filter fun t => wentThrough s' t && t.walletId == id).map
      fun t => t.amountKopecks).sum

/-- Every event of the sequence conforms to the machine. -/
def AllConform : List PaymentEventAt → BillingStore → Prop
  | [], _ => True
  | e :: es, s => Conforms s.wallet (e.process s).wallet ∧ AllConform es (e.process s)

/-- The failure of the handler's call number `i`, if it fails. -/
def PaymentEventAt.fault (e : PaymentEventAt) (i : ℕ) : Option Exception :=
  (e.faults.drop i).headD none

/-- The top-up that the event settles: it is not settled yet, and the look-up,
the settlement and its date are fine. -/
def PaymentEventAt.settles (e : PaymentEventAt) (s : BillingStore) : Option WalletTopUp :=
  if e.input.eventType = "payment.succeeded" ∧ e.fault 0 = none ∧ e.fault 1 = none ∧
      (e.input.paidAt.getD (some e.now)).isSome then
    (s.wallet.topUpByPayment e.input.paymentId).filter fun t => t.status != .succeeded
  else
    none

/-- The event settles a top-up that is canceled or refunded. -/
def PaymentEventAt.revives (e : PaymentEventAt) (s : BillingStore) : Bool :=
  (e.settles s).any fun t => t.status == .canceled || t.status == .refunded

/-- No event of the sequence revives a top-up. -/
def NoneRevived : List PaymentEventAt → BillingStore → Prop
  | [], _ => True
  | e :: es, s => e.revives s = false ∧ NoneRevived es (e.process s)

/-- Identifiers are unique, and the wallets of the top-ups exist. -/
structure TopUpKeys (s : WalletStore) : Prop where
  ids : (s.topUps.map fun t => t.id).Nodup
  wallets : ∀ t ∈ s.topUps, (s.walletById t.walletId).isSome

/-! ## One event -/

section Event

variable {s : BillingStore} {e : PaymentEventAt} {topUp : WalletTopUp}

section

variable {s : WalletStore} (h : TopUpKeys s)
include h

theorem TopUpKeys.byId {t : WalletTopUp} (ht : t ∈ s.topUps) : s.topUpById t.id = some t := by
  cases hfound : s.topUpById t.id with
  | none =>
    have hnone := List.find?_eq_none.mp hfound t ht
    simp at hnone
  | some t' =>
    have hid : t'.id = t.id := by simpa using List.find?_some hfound
    have hmem := List.mem_of_find?_eq_some hfound
    rw [List.inj_on_of_nodup_map h.ids hmem ht hid]

theorem TopUpKeys.setTopUp (id : ℕ) (status : TopUpStatus)
    (paidAt : Option ℤ) : TopUpKeys (s.apply (.setTopUp id status paidAt)) := by
  constructor
  · have hids : (s.apply (.setTopUp id status paidAt)).topUps.map (fun t => t.id) =
        s.topUps.map (fun t => t.id) := by
      grind [WalletStore.apply, WalletTopUp.mark, List.map_congr_left]
    rw [hids]
    exact h.ids
  intro t ht
  rcases List.mem_map.mp ht with ⟨t', ht', rfl⟩
  have hwallet : (if t'.id = id then t'.mark status paidAt else t').walletId = t'.walletId := by
    split <;> rfl
  rw [hwallet]
  exact h.wallets t' ht'

theorem TopUpKeys.settled (topUp : WalletTopUp) (paidAt : ℤ)
    (n : ℕ) (b : ℤ) : TopUpKeys (settledStore s topUp paidAt n b) := by
  have hset := h.setTopUp topUp.id .succeeded (some paidAt)
  refine ⟨hset.ids, ?_⟩
  intro t ht
  have hsome := hset.wallets t ht
  show (((s.apply (.setTopUp topUp.id .succeeded (some paidAt))).apply
    (.addBalance topUp.walletId topUp.amountKopecks)).walletById t.walletId).isSome
  rw [WalletStore.walletById_addBalance, Option.isSome_map]
  exact hsome

end

theorem settles_some (h : e.settles s = some topUp) :
    e.input.eventType = "payment.succeeded" ∧ e.fault 0 = none ∧ e.fault 1 = none ∧
      (∃ paidAt, e.input.paidAt.getD (some e.now) = some paidAt) ∧
      s.wallet.topUpByPayment e.input.paymentId = some topUp ∧ topUp.status ≠ .succeeded := by
  unfold PaymentEventAt.settles at h
  split at h
  · rename_i hcond
    rcases hcond with ⟨htype, hfault, hfault', hdate⟩
    rw [Option.filter_eq_some_iff] at h
    exact ⟨htype, hfault, hfault', Option.isSome_iff_exists.mp hdate, h.1, by simpa using h.2⟩
  · cases h

/-- A settlement writes the three rows of a settlement. -/
theorem process_of_settles (hkeys : TopUpKeys s.wallet) (h : e.settles s = some topUp) :
    ∃ paidAt n b, (e.process s).wallet = settledStore s.wallet topUp paidAt n b := by
  rcases settles_some h with ⟨htype, hfault, hfault', ⟨paidAt, hdate⟩, hfound, hopen⟩
  have hmem : topUp ∈ s.wallet.topUps := List.mem_of_find?_eq_some hfound
  rcases Option.isSome_iff_exists.mp (hkeys.wallets topUp hmem) with ⟨w, hw⟩
  have hfind : BillingCall.exec (.wallet (.topUpFindByPayment e.input.paymentId)) s =
      (.ok (some topUp), { s with fresh := s.fresh + 1 }) := by
    simp [BillingCall.exec, Database.execAlone, WalletStmt.exec, hfound]
  obtain ⟨r, -, hrun⟩ := settleTopUp_open (n := s.fresh + 1) (hkeys.byId hmem) hopen hw paidAt
  have hsettle : ∃ t, BillingCall.exec
      (.settleTopUp (topUp.settlement (e.input.paidAt.getD (some e.now))))
      { s with fresh := s.fresh + 1 } = (.ok r, t) ∧
        t.wallet = settledStore s.wallet topUp paidAt (s.fresh + 1 + 1 + 1 + 1)
          (w.balanceKopecks + topUp.amountKopecks) := by grind [BillingCall.exec]
  rcases hsettle with ⟨t, hsettle, hwallet⟩
  refine ⟨paidAt, _, _, Eq.trans ?_ hwallet⟩
  have hfault₀ : e.faults.headD none = none := by simpa [PaymentEventAt.fault] using hfault
  have hfault₁ : e.faults.tail.headD none = none := by
    simpa [PaymentEventAt.fault] using hfault'
  simp only [PaymentEventAt.process, processYookassaPaymentEvent, Prog.run_await_bind, hfind,
    hfault₀, applyToTopUp, htype, if_true, hfault₁, hsettle]
  split <;> simp

/-- `cancelTopUp` filters on the status. -/
theorem cancel_exec (hrow : s.wallet.topUpById topUp.id = some topUp) :
    ∃ t, BillingCall.exec (.wallet (.topUpCancelPending topUp.id)) s = (.ok (), t) ∧
      t.wallet = if topUp.status = .pending then
        s.wallet.apply (.setTopUp topUp.id .canceled none) else s.wallet := by
  by_cases hpend : topUp.status = .pending
  all_goals simp [BillingCall.exec, Database.execAlone, WalletStmt.exec, hrow, hpend]

/-- Any other event leaves the tables as they are, or cancels a pending top-up. -/
theorem process_of_not_settles (hkeys : TopUpKeys s.wallet) (h : e.settles s = none) :
    (e.process s).wallet = s.wallet ∨ ∃ topUp ∈ s.wallet.topUps, topUp.status = .pending ∧
      (e.process s).wallet = s.wallet.apply (.setTopUp topUp.id .canceled none) := by
  let s₁ : BillingStore := { s with fresh := s.fresh + 1 }
  have hfind : BillingCall.exec (.wallet (.topUpFindByPayment e.input.paymentId)) s =
      (.ok (s.wallet.topUpByPayment e.input.paymentId), s₁) := by
    simp [BillingCall.exec, Database.execAlone, WalletStmt.exec, s₁]
  simp only [PaymentEventAt.process, processYookassaPaymentEvent, Prog.run_await_bind, hfind]
  cases hfault : e.faults.headD none with
  | some err => exact Or.inl rfl
  | none =>
    cases hfound : s.wallet.topUpByPayment e.input.paymentId with
    | none => exact Or.inl (by simp [s₁])
    | some topUp =>
      have hmem : topUp ∈ s.wallet.topUps := List.mem_of_find?_eq_some hfound
      have hrow := hkeys.byId hmem
      by_cases htype : e.input.eventType = "payment.succeeded"
      · left
        simp only [applyToTopUp, htype, if_true, Prog.run_await_bind]
        cases hfault' : e.faults.tail.headD none with
        | some err => rfl
        | none =>
          -- the top-up is settled already, or the payment date has no value
          have hsettle : ∃ r t, BillingCall.exec
              (.settleTopUp (topUp.settlement (e.input.paidAt.getD (some e.now)))) s₁ =
                (r, t) ∧ t.wallet = s.wallet := by
            by_cases hstat : topUp.status = .succeeded
            · obtain ⟨r, -, hrun⟩ := settleTopUp_settled (n := s₁.fresh) hrow hstat
                (e.input.paidAt.getD (some e.now))
              exact ⟨_, _, rfl, by simp only [s₁, hrun]⟩
            have hdate : e.input.paidAt.getD (some e.now) = none := by
              grind [PaymentEventAt.fault, PaymentEventAt.settles, Option.ne_none_iff_isSome, List.drop_one]
            have hrun := settleTopUp_invalid (n := s₁.fresh) hrow hstat
            rw [hdate]
            exact ⟨_, _, rfl, by simp only [s₁, hrun]⟩
          rcases hsettle with ⟨r, t, hexec, hwallet⟩
          rw [hexec]
          cases r with
          | error err => exact hwallet
          | ok a =>
            refine Eq.trans ?_ hwallet
            show (Prog.run BillingCall.exec (if a.alreadySettled = true then _ else _) _ t
              ).2.wallet = t.wallet
            split <;> simp
      · by_cases htype' : e.input.eventType = "payment.canceled"
        · have hne : ¬ "payment.canceled" = "payment.succeeded" := by decide
          simp only [applyToTopUp, htype', hne, if_true, if_false, Prog.run_await_bind]
          cases hfault' : e.faults.tail.headD none with
          | some err => exact Or.inl rfl
          | none =>
            rcases cancel_exec (s := s₁) hrow with ⟨t, hexec, hwallet⟩
            rw [hexec]
            by_cases hpend : topUp.status = .pending
            · right
              rw [if_pos hpend] at hwallet
              exact ⟨topUp, hmem, hpend, by simpa using hwallet⟩
            left
            rw [if_neg hpend] at hwallet
            simpa using hwallet
        · exact Or.inl (by simp [applyToTopUp, htype, htype', s₁])

end Event

/-! ## What conforms -/

section Conforms

variable {s : WalletStore} {topUp : WalletTopUp}

theorem statusOf_mem (h : TopUpKeys s) {t : WalletTopUp} (ht : t ∈ s.topUps) :
    s.statusOf t.id = some t.status := by
  simp [WalletStore.statusOf, h.byId ht]

/-- A change that lets no top-up go through and credits nothing. -/
theorem conforms_of_none {s' : WalletStore} (hstat : ∀ id, Allowed (s.statusOf id) (s'.statusOf id))
    (hnone : ∀ t ∈ s.topUps, wentThrough s' t = false) (hentries : s'.entries = s.entries)
    (hwallets : s'.wallets = s.wallets) : Conforms s s' := by
  refine ⟨hstat, ?_, ?_⟩
  · grind [WalletStore.topUpEntries]
  intro id
  have hempty : (s.topUps.filter fun t => wentThrough s' t && t.walletId == id) = [] := by
    grind [List.filter_eq_nil_iff]
  simp [WalletStore.balanceOf, WalletStore.walletById, hwallets, hempty, Function.comp_def]

section

variable (h : TopUpKeys s)
include h

theorem conforms_refl : Conforms s s := by
  refine conforms_of_none (fun id => Or.inl rfl) ?_ rfl rfl
  intro t ht
  cases hstat : t.status <;> simp [wentThrough, statusOf_mem h ht, hstat]

section

variable (hmem : topUp ∈ s.topUps)
include hmem

theorem conforms_cancel (hpend : topUp.status = .pending) :
    Conforms s (s.apply (.setTopUp topUp.id .canceled none)) := by
  refine conforms_of_none ?_ ?_ rfl rfl
  · intro id
    by_cases hid : id = topUp.id
    · right
      subst hid
      simp [statusOf_mem h hmem, hpend]
    · left
      simp [hid]
  intro t ht
  by_cases hid : t.id = topUp.id
  · simp [wentThrough, hid]
  · cases hstat : t.status <;> simp [wentThrough, statusOf_mem h ht, hid, hstat]

theorem statusOf_settledStore (paidAt : ℤ) (n : ℕ)
    (b : ℤ) (id : ℕ) : (settledStore s topUp paidAt n b).statusOf id =
      if id = topUp.id then some .succeeded else s.statusOf id := by
  simp only [settledStore]
  by_cases hid : id = topUp.id
  · subst hid
    simp [statusOf_mem h hmem]
  · simp [hid]

/-- A settlement lets its top-up go through, if it was pending, and no other. -/
theorem wentThrough_settledStore
    (hpend : topUp.status = .pending) (paidAt : ℤ) (n : ℕ) (b : ℤ) {t : WalletTopUp}
    (ht : t ∈ s.topUps) : wentThrough (settledStore s topUp paidAt n b) t = decide (t = topUp) := by
  by_cases hid : t.id = topUp.id
  · obtain rfl := List.inj_on_of_nodup_map h.ids ht hmem hid
    simp [wentThrough, hpend, statusOf_settledStore h hmem]
  have hne : t ≠ topUp := by
    rintro rfl
    exact hid rfl
  cases hstat : t.status <;>
    simp [wentThrough, statusOf_settledStore h hmem, statusOf_mem h ht, hid, hne, hstat]

theorem conforms_settle (hpend : topUp.status = .pending) (paidAt : ℤ) (n : ℕ) (b : ℤ) :
    Conforms s (settledStore s topUp paidAt n b) := by
  have hthrough : ∀ t ∈ s.topUps, wentThrough (settledStore s topUp paidAt n b) t =
      decide (t = topUp) := fun t ht => wentThrough_settledStore h hmem hpend paidAt n b ht
  refine ⟨?_, ?_, ?_⟩
  · intro id
    rw [statusOf_settledStore h hmem]
    by_cases hid : id = topUp.id
    · right
      subst hid
      simp [statusOf_mem h hmem, hpend]
    · left
      simp [hid]
  · intro t ht
    rw [hthrough t ht]
    by_cases hid : t.id = topUp.id
    · obtain rfl := List.inj_on_of_nodup_map h.ids ht hmem hid
      simp [settledStore, creditEntry, WalletStore.topUpEntries_insertEntry]
    have hne : t ≠ topUp := by
      rintro rfl
      exact hid rfl
    simp [settledStore, creditEntry, WalletStore.topUpEntries_insertEntry, hne, Ne.symm hid]
  · intro id
    have hnodup : s.topUps.Nodup := List.Nodup.of_map _ h.ids
    -- the sum has one term, when the wallet is that of the top-up
    have hfilt : (s.topUps.filter fun t => wentThrough (settledStore s topUp paidAt n b) t &&
        t.walletId == id) = if topUp.walletId = id then [topUp] else [] := by
      by_cases hwallet : topUp.walletId = id
      · rw [if_pos hwallet, List.filter_congr (q := fun t => t == topUp), List.filter_beq,
          List.count_eq_one_of_mem hnodup hmem]
        · rfl
        · grind
      rw [if_neg hwallet]
      refine List.filter_eq_nil_iff.mpr ?_
      intro t ht
      rw [hthrough t ht]
      by_cases heq : t = topUp <;> simp [heq, hwallet]
    rw [hfilt]
    simp only [settledStore]
    by_cases hwallet : topUp.walletId = id
    · simp [hwallet]
    · simp [hwallet, Ne.symm hwallet]

/-- A settlement conforms only if its top-up was pending. -/
theorem pending_of_conforms (hopen : topUp.status ≠ .succeeded) {paidAt : ℤ} {n : ℕ} {b : ℤ}
    (hconforms : Conforms s (settledStore s topUp paidAt n b)) : topUp.status = .pending := by
  have hallowed := hconforms.status topUp.id
  rw [statusOf_settledStore h hmem, if_pos rfl, statusOf_mem h hmem] at hallowed
  rcases hallowed with hsame | ⟨hpend, -⟩
  · exact absurd (Option.some.inj hsame).symm hopen
  · exact Option.some.inj hpend

end

end

end Conforms

/-! ## Sequences -/

/-- An event keeps the keys, and conforms exactly if it revives no top-up. -/
theorem process_conforms {s : BillingStore} (h : TopUpKeys s.wallet) (e : PaymentEventAt) :
    TopUpKeys (e.process s).wallet ∧
      (Conforms s.wallet (e.process s).wallet ↔ e.revives s = false) := by
  cases hsettles : e.settles s with
  | none =>
    have hrevives : e.revives s = false := by simp [PaymentEventAt.revives, hsettles]
    rcases process_of_not_settles h hsettles with hsame | ⟨topUp, hmem, hpend, hcanceled⟩
    · grind [conforms_refl]
    · rw [hcanceled]
      exact ⟨h.setTopUp _ _ _, iff_of_true (conforms_cancel h hmem hpend) hrevives⟩
  | some topUp =>
    rcases process_of_settles h hsettles with ⟨paidAt, n, b, hsett⟩
    rcases settles_some hsettles with ⟨-, -, -, -, hfound, hopen⟩
    have hmem : topUp ∈ s.wallet.topUps := List.mem_of_find?_eq_some hfound
    rw [hsett]
    refine ⟨h.settled _ _ _ _, ?_⟩
    constructor
    · grind [PaymentEventAt.revives, pending_of_conforms]
    intro hrevives
    refine conforms_settle h hmem ?_ paidAt n b
    cases hstat : topUp.status with
    | pending => rfl
    | succeeded => exact absurd hstat hopen
    | canceled | refunded => simp [PaymentEventAt.revives, hsettles, hstat] at hrevives

/-- A sequence of payment events keeps to the status machine, and credits the
wallets exactly when a pending top-up succeeds, if and only if none of its
events settles a top-up that is canceled or refunded. -/
theorem conforms_iff_noneRevived {s : BillingStore} (h : TopUpKeys s.wallet)
    (events : List PaymentEventAt) : AllConform events s ↔ NoneRevived events s := by
  induction events generalizing s with
  | nil => exact Iff.rfl
  | cons e es ih =>
    rcases process_conforms h e with ⟨hkeys, hiff⟩
    exact and_congr hiff (ih hkeys)

theorem pendingBilling_keys : TopUpKeys pendingBilling.wallet := by
  constructor <;> decide

def paymentEvent (eventType : String) : PaymentEventAt where
  now := 5
  input :=
    { eventType := eventType
      paymentId := "pay-1"
      paidAt := none }
  faults := []

theorem conforms_paidThenCanceled :
    AllConform [paymentEvent "payment.succeeded", paymentEvent "payment.canceled"]
      pendingBilling := by
  refine (conforms_iff_noneRevived pendingBilling_keys _).mpr ⟨by decide, by decide, trivial⟩

/-- A top-up is canceled and then credited. -/
theorem canceled_then_credited : TopUpKeys pendingBilling.wallet ∧
      ¬ AllConform [paymentEvent "payment.canceled", paymentEvent "payment.succeeded"]
        pendingBilling := by
  refine ⟨pendingBilling_keys, ?_⟩
  rintro ⟨-, hconforms, -⟩
  have hallowed := hconforms.status 2
  rcases hallowed with hsame | ⟨hpending, -⟩
  · cases hsame
  · cases hpending

end QuizMind
