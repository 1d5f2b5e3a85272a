import QuizMind.Billing.Service
import QuizMind.Wallet.SettleAlone
import Mathlib.Data.List.Nodup

/-! # The billing system as a machine

Any number of requests (top-ups, webhooks with any body, worker jobs, admin
retries, and the provider's own status changes) run interleaved, call by call.

`Backed` is what the tables and the provider agree on in every reachable
state: every top-up row refers to a payment of its amount, and it has exactly
one ledger entry when it is settled and none when it is not. The only calls
that need an argument are the insertion of a top-up and its settlement; all
others are `Neutral`.
-/

namespace QuizMind

open Async
open WalletStore (apply topUpEntries)

/-- What can arrive at the billing system. -/
inductive BillingRequest where
  | createTopUp (request : WalletService.TopUpRequest)
  | webhook (now : ℤ) (rawBody : BillingService.RawBody)
  | job (now : ℤ) (payload : BillingWebhookJobPayload)
  | retry (now : ℤ) (request : RetryRequest)
  | provider (paymentId : String) (status : PaymentStatus)

/-- What a request is answered. -/
inductive BillingReply where
  | topUp (r : WalletService.TopUpCreateResult)
  | ingest (r : BillingService.IngestResult)
  | job (r : JobResult)
  | done

def billingCode (env : BillingEnv) : BillingRequest → BillingProg BillingReply
  | .createTopUp request => do
      let r ← WalletService.createTopUp env request
      return .topUp r
  | .webhook now rawBody => do
      let r ← BillingService.ingestYookassaWebhook env now rawBody
      return .ingest r
  | .job now payload => do
      let r ← processBillingWebhookJob now payload
      return .job r
  | .retry now request => do
      retryAdminWebhook now request
      return .done
  | .provider paymentId status => do
      billing (.setPaymentStatus paymentId status)
      return .done

def billingMachine (env : BillingEnv) :
    Machine BillingCall BillingCall.Res Exception BillingReply BillingStore BillingRequest where
  exec := BillingCall.exec
  code := billingCode env

/-! ## What the tables and the provider agree on -/

/-- The ledger of a top-up: one entry of its amount when it is settled. -/
def Settled (s : WalletStore) (t : WalletTopUp) : Prop :=
  if t.status = .succeeded then
    ∃ e, s.topUpEntries t.id = [e] ∧ e.deltaKopecks = t.amountKopecks ∧ e.walletId = t.walletId
  else
    s.topUpEntries t.id = []

structure Backed (s : BillingStore) : Prop where
  ids : (s.wallet.topUps.map (fun t => t.id)).Nodup
  ids_lt : ∀ t ∈ s.wallet.topUps, t.id < s.fresh
  paymentIds : (s.wallet.topUps.map (fun t => t.providerPaymentId)).Nodup
  wallets : ∀ t ∈ s.wallet.topUps, ∃ w, s.wallet.walletById t.walletId = some w
  payments : (s.payments.map (fun p => p.id)).Nodup
  backed : ∀ t ∈ s.wallet.topUps, ∃ p ∈ s.payments,
    t.providerPaymentId = some p.id ∧ p.amountKopecks = t.amountKopecks
  entries : ∀ e ∈ s.wallet.entries, e.type = .topup → ∃ t ∈ s.wallet.topUps, e.topUpId = some t.id
  settled : ∀ t ∈ s.wallet.topUps, Settled s.wallet t

/-- A top-up row in two states: only its status and its date may differ. -/
def SameTopUp (t t' : WalletTopUp) : Prop :=
  t'.id = t.id ∧ t'.walletId = t.walletId ∧ t'.amountKopecks = t.amountKopecks ∧
    t'.providerPaymentId = t.providerPaymentId ∧ (t.status = .succeeded → t'.status = .succeeded)

/-- A payment in two states: once it succeeded it stays so. -/
def SamePayment (p p' : YookassaPayment) : Prop :=
  p'.id = p.id ∧ p'.amountKopecks = p.amountKopecks ∧ (p.status = .succeeded → p'.status = .succeeded)

/-- Rows and payments are never deleted or changed in what matters. -/
structure Grows (s s' : BillingStore) : Prop where
  topUps : ∀ t ∈ s.wallet.topUps, ∃ t' ∈ s'.wallet.topUps, SameTopUp t t'
  payments : ∀ p ∈ s.payments, ∃ p' ∈ s'.payments, SamePayment p p'
  events : ∀ provider id, (s.webhookEvent provider id).isSome → (s'.webhookEvent provider id).isSome

/-- No top-up has been settled by the step. -/
def NothingSettled (s s' : BillingStore) : Prop :=
  ∀ x ∈ s'.wallet.topUps, x.status = .succeeded →
    ∃ u ∈ s.wallet.topUps, SameTopUp u x ∧ u.status = .succeeded

theorem SameTopUp.refl (t : WalletTopUp) : SameTopUp t t := ⟨rfl, rfl, rfl, rfl, fun h => h⟩

theorem SameTopUp.trans {a b c : WalletTopUp} (h : SameTopUp a b) (h' : SameTopUp b c) :
    SameTopUp a c := by
  obtain ⟨h1, h2, h3, h4, h5⟩ := h
  obtain ⟨h1', h2', h3', h4', h5'⟩ := h'
  exact ⟨h1'.trans h1, h2'.trans h2, h3'.trans h3, h4'.trans h4, fun hs => h5' (h5 hs)⟩

theorem SamePayment.refl (p : YookassaPayment) : SamePayment p p := ⟨rfl, rfl, fun h => h⟩

theorem SamePayment.trans {a b c : YookassaPayment} (h : SamePayment a b) (h' : SamePayment b c) :
    SamePayment a c :=
  ⟨h'.1.trans h.1, h'.2.1.trans h.2.1, fun hs => h'.2.2 (h.2.2 hs)⟩

namespace Grows

theorem refl (s : BillingStore) : Grows s s where
  topUps := fun t ht => ⟨t, ht, SameTopUp.refl t⟩
  payments := fun p hp => ⟨p, hp, SamePayment.refl p⟩
  events := fun _ _ h => h

theorem trans (a b c : BillingStore) (h : Grows a b) (h' : Grows b c) : Grows a c where
  topUps := by
    intro t ht
    obtain ⟨t', ht', hsame⟩ := h.topUps t ht
    obtain ⟨t'', ht'', hsame'⟩ := h'.topUps t' ht'
    exact ⟨t'', ht'', hsame.trans hsame'⟩
  payments := by
    intro p hp
    obtain ⟨p', hp', hsame⟩ := h.payments p hp
    obtain ⟨p'', hp'', hsame'⟩ := h'.payments p' hp'
    exact ⟨p'', hp'', hsame.trans hsame'⟩
  events := fun provider id hsome => h'.events provider id (h.events provider id hsome)

/-- A step that leaves the top-ups, the payments and the events alone. -/
theorem of_eq {s s' : BillingStore} (ht : s'.wallet.topUps = s.wallet.topUps)
    (hp : s'.payments = s.payments) (he : s'.webhookEvents = s.webhookEvents) : Grows s s' where
  topUps := by
    rw [ht]
    exact (refl s).topUps
  payments := by
    rw [hp]
    exact (refl s).payments
  events := by simp [BillingStore.webhookEvent, he]

end Grows

/-! ## Calls that change none of this -/

variable {s s' : BillingStore}

/-- Only the wallet tables, the payments and the counter matter. -/
theorem Backed.congr (h : Backed s) (htopUps : s'.wallet.topUps = s.wallet.topUps)
    (hentries : s'.wallet.entries = s.wallet.entries)
    (hwallets : ∀ id w, s.wallet.walletById id = some w → ∃ w', s'.wallet.walletById id = some w')
    (hpayments : s'.payments = s.payments) (hfresh : s.fresh ≤ s'.fresh) : Backed s' where
  ids := by
    rw [htopUps]
    exact h.ids
  ids_lt := by
    intro t ht
    rw [htopUps] at ht
    exact Nat.lt_of_lt_of_le (h.ids_lt t ht) hfresh
  paymentIds := by
    rw [htopUps]
    exact h.paymentIds
  wallets := by
    intro t ht
    rw [htopUps] at ht
    obtain ⟨w, hw⟩ := h.wallets t ht
    exact hwallets _ w hw
  payments := by
    rw [hpayments]
    exact h.payments
  backed := by
    rw [htopUps, hpayments]
    exact h.backed
  entries := by
    rw [htopUps, hentries]
    exact h.entries
  settled := by
    intro t ht
    rw [htopUps] at ht
    have hsett := h.settled t ht
    simpa [Settled, topUpEntries, hentries] using hsett

/-- A change of one webhook event keeps the events findable. -/
theorem Grows.updateEvent (s : BillingStore) (id : ℕ) {f : WebhookEvent → WebhookEvent}
    (hf : ∀ e, (f e).provider = e.provider ∧ (f e).externalEventId = e.externalEventId) :
    Grows s (s.updateEvent id f) where
  topUps := (Grows.refl s).topUps
  payments := (Grows.refl s).payments
  events := by
    intro provider externalId hsome
    rw [BillingStore.webhookEvent_updateEvent s id hf]
    simpa using hsome

variable {t : WalletTopUp}

/-- Marking a top-up row, when it does not take a settlement back. -/
theorem sameTopUp_mark {id : ℕ} {status : TopUpStatus} {paidAt : Option ℤ}
    (h : t.id = id → t.status = .succeeded → status = .succeeded) :
    SameTopUp t (if t.id = id then t.mark status paidAt else t) := by
  by_cases hid : t.id = id
  · rw [if_pos hid]
    exact ⟨rfl, rfl, rfl, rfl, h hid⟩
  · rw [if_neg hid]
    exact SameTopUp.refl t

section

variable (h : Backed s)
include h

theorem Backed.row (ht : t ∈ s.wallet.topUps) : s.wallet.topUpById t.id = some t := by
  cases hfind : s.wallet.topUpById t.id with
  | none =>
    have hnone := List.find?_eq_none.mp hfind t ht
    simp at hnone
  | some t' =>
    have hmem := List.mem_of_find?_eq_some hfind
    have hid := List.find?_some hfind
    have heq : t' = t := List.inj_on_of_nodup_map h.ids hmem ht (by simpa using hid)
    rw [heq]

/-- What marking a row keeps, whatever it does to the ledger. -/
theorem Backed.mark_ids (id : ℕ) (status : TopUpStatus) (paidAt : Option ℤ) :
    (((s.wallet.apply (.setTopUp id status paidAt)).topUps.map (fun t => t.id)).Nodup) ∧
      ((s.wallet.apply (.setTopUp id status paidAt)).topUps.map
        (fun t => t.providerPaymentId)).Nodup := by
  have hsame : ∀ t : WalletTopUp, (if t.id = id then t.mark status paidAt else t).id = t.id ∧
      (if t.id = id then t.mark status paidAt else t).providerPaymentId =
        t.providerPaymentId := by
    intro t
    split <;> exact ⟨rfl, rfl⟩
  simp only [apply, List.map_map]
  constructor
  · have hmap : (s.wallet.topUps.map ((fun t => t.id) ∘
        fun t => if t.id = id then t.mark status paidAt else t)) =
          s.wallet.topUps.map (fun t => t.id) :=
      List.map_congr_left fun t _ => (hsame t).1
    rw [hmap]
    exact h.ids
  have hmap : (s.wallet.topUps.map ((fun t => t.providerPaymentId) ∘
      fun t => if t.id = id then t.mark status paidAt else t)) =
        s.wallet.topUps.map (fun t => t.providerPaymentId) :=
    List.map_congr_left fun t _ => (hsame t).2
  rw [hmap]
  exact h.paymentIds

/-- Marking one row, when the ledger of that row follows and the others' stays. -/
theorem Backed.mark (ht : t ∈ s.wallet.topUps) {status : TopUpStatus} {paidAt : Option ℤ}
    (htopUps : s'.wallet.topUps = (s.wallet.apply (.setTopUp t.id status paidAt)).topUps)
    (hwallets : ∀ id w, s.wallet.walletById id = some w → ∃ w', s'.wallet.walletById id = some w')
    (hpayments : s'.payments = s.payments) (hevs : s'.webhookEvents = s.webhookEvents)
    (hfresh : s.fresh ≤ s'.fresh) (hstat : t.status = .succeeded → status = .succeeded)
    (hentries : ∀ e ∈ s'.wallet.entries, e.type = .topup →
      ∃ u ∈ s.wallet.topUps, e.topUpId = some u.id)
    (hothers : ∀ i, i ≠ t.id → s'.wallet.topUpEntries i = s.wallet.topUpEntries i)
    (hmine : Settled s'.wallet (t.mark status paidAt)) : Backed s' ∧ Grows s s' := by
  -- the rows of `s'` are those of `s`, marked
  have hrow : ∀ x ∈ s'.wallet.topUps, ∃ u ∈ s.wallet.topUps, SameTopUp u x ∧
      x = if u.id = t.id then u.mark status paidAt else u := by
    intro x hx
    rw [htopUps] at hx
    obtain ⟨u, hu, rfl⟩ := List.mem_map.mp hx
    refine ⟨u, hu, sameTopUp_mark ?_, rfl⟩
    intro hid hsucc
    have hut : u = t := List.inj_on_of_nodup_map h.ids hu ht hid
    exact hstat (hut ▸ hsucc)
  have hkept : ∀ u ∈ s.wallet.topUps, ∃ x ∈ s'.wallet.topUps, SameTopUp u x := by
    intro u hu
    refine ⟨if u.id = t.id then u.mark status paidAt else u, ?_, sameTopUp_mark ?_⟩
    · rw [htopUps]
      exact List.mem_map_of_mem hu
    intro hid hsucc
    have hut : u = t := List.inj_on_of_nodup_map h.ids hu ht hid
    exact hstat (hut ▸ hsucc)
  obtain ⟨hids, hpids⟩ := h.mark_ids t.id status paidAt
  constructor
  · constructor
    · rw [htopUps]
      exact hids
    · intro x hx
      obtain ⟨u, hu, hsame, -⟩ := hrow x hx
      rw [hsame.1]
      exact Nat.lt_of_lt_of_le (h.ids_lt u hu) hfresh
    · rw [htopUps]
      exact hpids
    · intro x hx
      obtain ⟨u, hu, hsame, -⟩ := hrow x hx
      obtain ⟨w, hw⟩ := h.wallets u hu
      rw [hsame.2.1]
      exact hwallets _ w hw
    · rw [hpayments]
      exact h.payments
    · intro x hx
      obtain ⟨u, hu, hsame, -⟩ := hrow x hx
      obtain ⟨p, hp, hpay, hamount⟩ := h.backed u hu
      rw [hpayments]
      exact ⟨p, hp, hsame.2.2.2.1.trans hpay, hamount.trans hsame.2.2.1.symm⟩
    · intro e he htype
      obtain ⟨u, hu, hid⟩ := hentries e he htype
      obtain ⟨x, hx, hsame⟩ := hkept u hu
      exact ⟨x, hx, by rw [hid, hsame.1]⟩
    · intro x hx
      obtain ⟨u, hu, hsame, hx'⟩ := hrow x hx
      by_cases hid : u.id = t.id
      · have hut : u = t := List.inj_on_of_nodup_map h.ids hu ht hid
        rw [hx', if_pos hid, hut]
        exact hmine
      rw [hx', if_neg hid]
      have hsett := h.settled u hu
      simpa [Settled, hothers u.id hid] using hsett
  · refine ⟨hkept, ?_, ?_⟩
    · rw [hpayments]
      exact (Grows.refl s).payments
    · simp [BillingStore.webhookEvent, hevs]

/-- A cancellation. -/
theorem Backed.cancel (ht : t ∈ s.wallet.topUps) (hpend : t.status = .pending)
    (n : ℕ) (hn : s.fresh ≤ n) :
    Backed { s with wallet := s.wallet.apply (.setTopUp t.id .canceled none), fresh := n } ∧
      Grows s { s with wallet := s.wallet.apply (.setTopUp t.id .canceled none), fresh := n } := by
  refine h.mark ht rfl (fun _ w hw => ⟨w, hw⟩) rfl rfl hn ?_ h.entries (fun _ _ => rfl) ?_
  · grind
  · have hsett := h.settled t ht
    simpa [Settled, WalletTopUp.mark, hpend] using hsett

/-- A settlement. -/
theorem Backed.settle (ht : t ∈ s.wallet.topUps) (hopen : t.status ≠ .succeeded)
    (paidAt : ℤ) (entryId : ℕ) (balanceAfter : ℤ) (n : ℕ) (hn : s.fresh ≤ n) :
    Backed { s with wallet := settledStore s.wallet t paidAt entryId balanceAfter, fresh := n } ∧
      Grows s { s with
        wallet := settledStore s.wallet t paidAt entryId balanceAfter, fresh := n } := by
  have hentries : ∀ i, (settledStore s.wallet t paidAt entryId balanceAfter).topUpEntries i =
      s.wallet.topUpEntries i ++ if t.id = i then [creditEntry t entryId balanceAfter] else [] := by
    simp [settledStore, creditEntry, WalletStore.topUpEntries_insertEntry]
  have hnone : s.wallet.topUpEntries t.id = [] := by
    have hsett := h.settled t ht
    simpa [Settled, hopen] using hsett
  have htopUps : (settledStore s.wallet t paidAt entryId balanceAfter).topUps =
      (s.wallet.apply (.setTopUp t.id .succeeded (some paidAt))).topUps := rfl
  refine h.mark ht htopUps ?_ rfl rfl hn (fun _ => rfl) ?_ ?_ ?_
  · intro id w hw
    have hfind : (settledStore s.wallet t paidAt entryId balanceAfter).walletById id =
        (s.wallet.walletById id).map
          (fun w => if w.id = t.walletId then w.add t.amountKopecks else w) :=
      WalletStore.walletById_addBalance (s.wallet.apply (.setTopUp t.id .succeeded (some paidAt)))
        t.walletId id t.amountKopecks
    exact ⟨_, by rw [hfind, hw]; rfl⟩
  · intro e he htype
    rcases List.mem_append.mp he with hold | hnew
    · exact h.entries e hold htype
    · rw [List.mem_singleton] at hnew
      exact ⟨t, ht, by rw [hnew]; rfl⟩
  · intro i hi
    simp [hentries, Ne.symm hi]
  · simp only [Settled, WalletTopUp.mark, hentries, hnone]
    exact ⟨_, rfl, rfl, rfl⟩

end

/-- The calls that need no argument: all but the insertion and the settlement
of a top-up, and the statements that only occur inside transactions. -/
def BillingCall.Neutral : BillingCall → Prop
  | .wallet (.walletFindByUser _) | .wallet (.walletCreate _ _) => True
  | .wallet (.topUpFindByPayment _) | .wallet (.topUpCancelPending _) => True
  | .wallet _ | .settleTopUp _ => False
  | _ => True

/-- The state after a statement of the wallet tables. -/
theorem wallet_exec (stmt : WalletStmt) (s : BillingStore) :
    (∃ e, BillingCall.exec (.wallet stmt) s = (.error e, { s with fresh := s.fresh + 1 })) ∨
      ∃ r ws, stmt.Writes s.fresh s.wallet ws ∧ walletDb.exec stmt s.fresh s.wallet = .ok (r, ws) ∧
        BillingCall.exec (.wallet stmt) s =
          (.ok r, { s with wallet := walletDb.view s.wallet ws, fresh := s.fresh + 1 }) := by
  cases hexec : walletDb.exec stmt s.fresh s.wallet with
  | error e => simp_all [BillingCall.exec, Database.execAlone]
  | ok out => grind [BillingCall.exec, Database.execAlone, WalletStmt.exec_writes]

theorem Backed.fresh (h : Backed s) {n : ℕ} (hn : s.fresh ≤ n) : Backed { s with fresh := n } :=
  h.congr rfl rfl (fun _ w hw => ⟨w, hw⟩) rfl hn

/-- A new payment at the provider. -/
theorem Backed.addPayment (h : Backed s) {p : YookassaPayment}
    (hnew : ∀ x ∈ s.payments, x.id ≠ p.id) :
    Backed { s with payments := s.payments ++ [p] } ∧
      Grows s { s with payments := s.payments ++ [p] } := by
  constructor
  · refine { h with payments := ?_, backed := ?_ }
    · have hnodup : (s.payments.map (fun x => x.id) ++ [p.id]).Nodup := by
        simpa [List.nodup_append] using ⟨h.payments, hnew⟩
      simpa using hnodup
    · intro t ht
      obtain ⟨x, hx, hback⟩ := h.backed t ht
      exact ⟨x, List.mem_append_left _ hx, hback⟩
  refine ⟨(Grows.refl s).topUps, ?_, fun _ _ hsome => hsome⟩
  intro x hx
  exact ⟨x, List.mem_append_left _ hx, SamePayment.refl x⟩

/-- A change of the payments that keeps what matters. -/
theorem Backed.mapPayments (h : Backed s) {f : YookassaPayment → YookassaPayment}
    (hf : ∀ p, SamePayment p (f p)) :
    Backed { s with payments := s.payments.map f } ∧
      Grows s { s with payments := s.payments.map f } := by
  constructor
  · refine { h with payments := ?_, backed := ?_ }
    · have hids : (s.payments.map f).map (fun p => p.id) = s.payments.map (fun p => p.id) := by
        rw [List.map_map]
        exact List.map_congr_left fun p _ => (hf p).1
      rw [hids]
      exact h.payments
    · intro t ht
      obtain ⟨p, hp, hpay, hamount⟩ := h.backed t ht
      exact ⟨f p, List.mem_map_of_mem hp, by rw [hpay, (hf p).1], by rw [(hf p).2.1, hamount]⟩
  refine ⟨(Grows.refl s).topUps, ?_, fun _ _ hsome => hsome⟩
  intro p hp
  exact ⟨f p, List.mem_map_of_mem hp, hf p⟩

theorem NothingSettled.of_eq (htopUps : s'.wallet.topUps = s.wallet.topUps) :
    NothingSettled s s' := by
  intro x hx hsucc
  rw [htopUps] at hx
  exact ⟨x, hx, SameTopUp.refl x, hsucc⟩

theorem Backed.neutral (h : Backed s) {call : BillingCall} (hcall : call.Neutral) :
    (Backed (call.exec s).2 ∧ Grows s (call.exec s).2) ∧ NothingSettled s (call.exec s).2 := by
  have hsucc : s.fresh ≤ s.fresh + 1 := Nat.le_succ _
  have hsame : ∀ (t : BillingStore), t.wallet = s.wallet → t.payments = s.payments →
      s.fresh ≤ t.fresh → Grows s t → (Backed t ∧ Grows s t) ∧ NothingSettled s t := by
    intro t hwallet hpayments hfresh hgrows
    refine ⟨⟨h.congr (by rw [hwallet]) (by rw [hwallet]) ?_ hpayments hfresh, hgrows⟩,
      NothingSettled.of_eq (by rw [hwallet])⟩
    intro id w hw
    exact ⟨w, by rw [hwallet]; exact hw⟩
  cases call with
  | settleTopUp input => exact hcall.elim
  | wallet stmt =>
    rcases wallet_exec stmt s with ⟨e, hexec⟩ | ⟨r, ws, hwrites, -, hexec⟩
    · grind [Grows.of_eq]
    rw [hexec]
    cases hwrites with
    | read hread => exact ⟨⟨h.fresh hsucc, Grows.of_eq rfl rfl rfl⟩, NothingSettled.of_eq rfl⟩
    | walletCreate hfree =>
      refine ⟨⟨h.congr rfl rfl ?_ rfl hsucc, Grows.of_eq rfl rfl rfl⟩, NothingSettled.of_eq rfl⟩
      intro id w hw
      refine ⟨w, ?_⟩
      show (s.wallet.apply (.insertWallet _)).walletById id = some w
      rw [WalletStore.walletById_insertWallet, hw, Option.some_or]
    | topUpCancel hpend =>
      obtain ⟨t, ht, hstat⟩ := Option.map_eq_some_iff.mp hpend
      have hid := List.find?_some ht
      obtain rfl : t.id = _ := by simpa using hid
      refine ⟨h.cancel (List.mem_of_find?_eq_some ht) hstat _ hsucc, ?_⟩
      intro x hx hsucceeded
      obtain ⟨u, hu, rfl⟩ := List.mem_map.mp hx
      by_cases hut : u.id = t.id
      · rw [if_pos hut] at hsucceeded
        cases hsucceeded
      · grind [SameTopUp.refl]
    | topUpCancelNone => exact ⟨⟨h.fresh hsucc, Grows.of_eq rfl rfl rfl⟩, NothingSettled.of_eq rfl⟩
    | _ => exact hcall.elim
  | webhookEventCreate data =>
    simp only [BillingCall.exec]
    split
    · exact ⟨⟨h, Grows.refl s⟩, NothingSettled.of_eq rfl⟩
    split
    · exact ⟨⟨h, Grows.refl s⟩, NothingSettled.of_eq rfl⟩
    refine hsame (s.insertEvent data) rfl rfl hsucc ?_
    refine ⟨(Grows.refl s).topUps, (Grows.refl s).payments, ?_⟩
    intro provider id hsome
    rw [BillingStore.webhookEvent_insertEvent]
    simp [hsome]
  | webhookEventFindFirst provider id => exact ⟨⟨h, Grows.refl s⟩, NothingSettled.of_eq rfl⟩
  | webhookEventFindById id => exact ⟨⟨h, Grows.refl s⟩, NothingSettled.of_eq rfl⟩
  | webhookEventReset id | webhookEventMarkProcessed id at' =>
    simp only [BillingCall.exec]
    split
    · exact ⟨⟨h, Grows.refl s⟩, NothingSettled.of_eq rfl⟩
    · exact hsame _ rfl rfl (Nat.le_refl _) (Grows.updateEvent s id fun _ => ⟨rfl, rfl⟩)
  | queueAdd job =>
    obtain ⟨queue, hexec⟩ := queueAdd_exec job s
    rw [hexec]
    exact hsame _ rfl rfl (Nat.le_refl _) (Grows.of_eq rfl rfl rfl)
  | createPayment input reply =>
    simp only [BillingCall.exec]
    split
    · exact ⟨⟨h, Grows.refl s⟩, NothingSettled.of_eq rfl⟩
    rename_i hnew
    refine ⟨h.addPayment ?_, NothingSettled.of_eq rfl⟩
    intro p hp hid
    exact hnew (List.find?_isSome.mpr ⟨p, hp, by simpa using hid⟩)
  | setPaymentStatus paymentId status =>
    have hsamePayment : ∀ p : YookassaPayment, SamePayment p
        (if p.id = paymentId ∧ p.status ≠ .succeeded then { p with status := status } else p) := by
      intro p
      by_cases hp : p.id = paymentId ∧ p.status ≠ .succeeded
      · rw [if_pos hp]
        exact ⟨rfl, rfl, fun hsucceeded => absurd hsucceeded hp.2⟩
      · rw [if_neg hp]
        exact SamePayment.refl p
    exact ⟨h.mapPayments hsamePayment, NothingSettled.of_eq rfl⟩

/-! ## The insertion and the settlement of a top-up -/

/-- The payment that was created is at the provider, with the amount asked for. -/
theorem createPayment_exec {input : CreatePaymentInput} {reply : PaymentReply}
    {payment : YookassaPayment}
    (h : (BillingCall.exec (.createPayment input reply) s).1 = .ok payment) :
    payment ∈ (BillingCall.exec (.createPayment input reply) s).2.payments ∧
      payment.amountKopecks = input.amountKopecks := by
  grind [BillingCall.exec]

/-- The insertion of a top-up row that refers to a payment of its amount. -/
theorem Backed.insertTopUp (h : Backed s) {data : TopUpData} {p : YookassaPayment}
    (hp : p ∈ s.payments) (hid : p.id = data.providerPaymentId)
    (hamount : p.amountKopecks = data.amountKopecks) :
    (Backed (BillingCall.exec (.wallet (.topUpCreate data)) s).2 ∧
      Grows s (BillingCall.exec (.wallet (.topUpCreate data)) s).2) ∧
        NothingSettled s (BillingCall.exec (.wallet (.topUpCreate data)) s).2 := by
  have hsucc : s.fresh ≤ s.fresh + 1 := Nat.le_succ _
  rcases wallet_exec (.topUpCreate data) s with ⟨e, hexec⟩ | ⟨r, ws, hwrites, -, hexec⟩
  · rw [hexec]
    exact ⟨⟨h.fresh hsucc, Grows.of_eq rfl rfl rfl⟩, NothingSettled.of_eq rfl⟩
  rw [hexec]
  cases hwrites with
  | read hread => cases hread
  | topUpCreate hwallet hfree =>
    refine ⟨⟨?_, ?_⟩, ?_⟩
    · constructor
      · have hnew : ∀ t ∈ s.wallet.topUps, t.id ≠ s.fresh := by
          intro t ht
          exact Nat.ne_of_lt (h.ids_lt t ht)
        have hnodup : (s.wallet.topUps.map (fun t => t.id) ++ [s.fresh]).Nodup := by
          simpa [List.nodup_append] using ⟨h.ids, hnew⟩
        simpa [apply, TopUpData.row] using hnodup
      · intro t ht
        rcases List.mem_append.mp ht with hold | hnew
        · exact Nat.lt_succ_of_lt (h.ids_lt t hold)
        rw [List.mem_singleton] at hnew
        rw [hnew]
        exact Nat.lt_succ_self _
      · have hnodup : (s.wallet.topUps.map (fun t => t.providerPaymentId) ++
            [some data.providerPaymentId]).Nodup := by
          simpa [List.nodup_append] using ⟨h.paymentIds, hfree⟩
        simpa [apply, TopUpData.row] using hnodup
      · intro t ht
        rcases List.mem_append.mp ht with hold | hnew
        · exact h.wallets t hold
        rw [List.mem_singleton] at hnew
        rw [hnew]
        exact hwallet
      · exact h.payments
      · intro t ht
        rcases List.mem_append.mp ht with hold | hnew
        · exact h.backed t hold
        rw [List.mem_singleton] at hnew
        rw [hnew]
        exact ⟨p, hp, by rw [hid]; rfl, hamount⟩
      · intro e he htype
        obtain ⟨t, ht, heq⟩ := h.entries e he htype
        exact ⟨t, List.mem_append_left _ ht, heq⟩
      · intro t ht
        rcases List.mem_append.mp ht with hold | hnew
        · exact h.settled t hold
        -- a new row has a new identifier, which no entry mentions
        rw [List.mem_singleton] at hnew
        rw [hnew]
        have hnone : s.wallet.topUpEntries s.fresh = [] := by
          rw [topUpEntries, List.filter_eq_nil_iff]
          intro e he hmatch
          simp only [Bool.and_eq_true, beq_iff_eq] at hmatch
          obtain ⟨u, hu, heq⟩ := h.entries e he hmatch.1
          have hlt := h.ids_lt u hu
          rw [hmatch.2] at heq
          have huid : s.fresh = u.id := by simpa using heq
          omega
        exact hnone
    · refine ⟨?_, (Grows.refl s).payments, fun _ _ hsome => hsome⟩
      intro t ht
      exact ⟨t, List.mem_append_left _ ht, SameTopUp.refl t⟩
    · intro x hx hsucceeded
      rcases List.mem_append.mp hx with hold | hnew
      · exact ⟨x, hold, SameTopUp.refl x, hsucceeded⟩
      rw [List.mem_singleton] at hnew
      rw [hnew] at hsucceeded
      cases hsucceeded

/-- What the settlement of a top-up row does, whatever became of the row since
it was read. -/
theorem Backed.settle_exec (h : Backed s) (ht : ∃ row ∈ s.wallet.topUps, SameTopUp t row)
    (paidAt : JsDate) :
    ∃ r s', BillingCall.exec (.settleTopUp (t.settlement paidAt)) s = (r, s') ∧ Backed s' ∧
      Grows s s' ∧ s'.payments = s.payments ∧ s'.webhookEvents = s.webhookEvents ∧
      (∀ x ∈ s'.wallet.topUps, x.status = .succeeded →
        x.id = t.id ∨ ∃ u ∈ s.wallet.topUps, SameTopUp u x ∧ u.status = .succeeded) ∧
      (paidAt ≠ none → (∃ a, r = .ok a) ∧
        ∃ x ∈ s'.wallet.topUps, SameTopUp t x ∧ x.status = .succeeded) := by
  obtain ⟨row, hrow, hsame⟩ := ht
  have hsettlement : t.settlement paidAt = row.settlement paidAt := by
    simp [WalletTopUp.settlement, hsame.1, hsame.2.1, hsame.2.2.1]
  have hsucc : s.fresh ≤ s.fresh + 1 + 1 := by omega
  rw [hsettlement]
  by_cases hstat : row.status = .succeeded
  · obtain ⟨r, -, hrun⟩ := settleTopUp_settled (n := s.fresh) (h.row hrow) hstat paidAt
    refine ⟨.ok r, { s with fresh := s.fresh + 1 + 1 }, by simp [BillingCall.exec, hrun],
      h.fresh hsucc, Grows.of_eq rfl rfl rfl, rfl, rfl, ?_, ?_⟩
    · grind [SameTopUp.refl]
    · grind
  cases paidAt with
  | none =>
    have hrun := settleTopUp_invalid (n := s.fresh) (h.row hrow) hstat
    refine ⟨.error .prismaValidation, s, by simp [BillingCall.exec, hrun], h, Grows.refl s,
      rfl, rfl, ?_, by simp⟩
    intro x hx hsucceeded
    exact Or.inr ⟨x, hx, SameTopUp.refl x, hsucceeded⟩
  | some at' =>
    obtain ⟨w, hw⟩ := h.wallets row hrow
    obtain ⟨r, -, hrun⟩ := settleTopUp_open (n := s.fresh) (h.row hrow) hstat hw at'
    obtain ⟨hbacked, hgrows⟩ := h.settle hrow hstat at' (s.fresh + 1 + 1 + 1)
      (w.balanceKopecks + row.amountKopecks) (s.fresh + 1 + 1 + 1 + 1) (by omega)
    refine ⟨.ok r, _, by simp [BillingCall.exec, hrun], hbacked, hgrows, rfl, rfl, ?_, ?_⟩
    · intro x hx hsucceeded
      obtain ⟨u, hu, rfl⟩ := List.mem_map.mp hx
      by_cases hid : u.id = row.id
      · left
        rw [if_pos hid]
        exact hid.trans hsame.1
      · grind [SameTopUp.refl]
    intro _
    refine ⟨⟨r, rfl⟩, row.mark .succeeded (some at'), ?_, ?_, rfl⟩
    · exact List.mem_map.mpr ⟨row, hrow, by simp⟩
    · exact hsame.trans ⟨rfl, rfl, rfl, rfl, fun _ => rfl⟩

/-- The tables and the provider before anything has happened. -/
def emptyBilling : BillingStore where
  wallet :=
    { wallets := []
      topUps := []
      entries := []
      batches := [] }
  webhookEvents := []
  queue := []
  payments := []
  fresh := 0

theorem emptyBilling_backed : Backed emptyBilling := by
  constructor <;> simp [emptyBilling]

end QuizMind
