import QuizMind.Wallet.Repository
import Mathlib.Data.List.Nodup

/-! # Balances below zero

`debitUsage` and a debiting `manualAdjustWallets` read the balance, compare it
with the amount and decrement it in a later statement; there is no check
constraint on the column. Under READ COMMITTED another debit can be committed
between the check and the decrement (`overdraft`).

What the check does guarantee is stated by `balance_nonneg`: if no commit takes
the balance away from another transaction that has passed its check and not
yet decremented, no balance is ever below zero. The proof keeps every
transaction's view of the wallets sound. The views of different transactions
fit together because their writes need different locks (`Sound.merge`).
-/

namespace QuizMind

open Async
open Database (anyStep forall_own_set initial own_of_getElem)
open WalletStore (apply)

/-! ## The wallets in a view -/

/-- What a list of writes adds to the balance of a wallet. -/
def deltaOf : List WalletWrite → ℕ → ℤ
  | [], _ => 0
  | .addBalance i delta :: own, id => (if i = id then delta else 0) + deltaOf own id
  | _ :: own, id => deltaOf own id

/-- A wallet after a list of writes. -/
def bump (own : List WalletWrite) (w : Wallet) : Wallet := w.add (deltaOf own w.id)

/-- The wallets that a list of writes creates, as the list leaves them. -/
def newWallets : List WalletWrite → List Wallet
  | [] => []
  | .insertWallet w :: own => bump own w :: newWallets own
  | _ :: own => newWallets own

@[simp] theorem bump_id (own : List WalletWrite) (w : Wallet) : (bump own w).id = w.id := rfl

variable {own : List WalletWrite}

theorem bump_of_untouched {w : Wallet} (h : deltaOf own w.id = 0) : bump own w = w := by
  simp [bump, h, Wallet.add]

/-- The view consists of the committed wallets with their changes, and the
new ones. -/
theorem view_wallets (c : WalletStore) (own : List WalletWrite) :
    (walletDb.view c own).wallets = c.wallets.map (bump own) ++ newWallets own := by
  induction own generalizing c with
  | nil =>
    have hid : bump [] = id := by
      funext w
      exact bump_of_untouched rfl
    simp [newWallets, hid]
  | cons write own ih =>
    have hview : walletDb.view c (write :: own) = walletDb.view (c.apply write) own := rfl
    rw [hview, ih]
    cases write with
    | insertWallet w => simp [apply, newWallets, bump, deltaOf]
    | addBalance i delta =>
      have hbump : ∀ w : Wallet, bump own (if w.id = i then w.add delta else w) =
          bump (.addBalance i delta :: own) w := by grind [bump, deltaOf, Wallet.add]
      simp [apply, newWallets, hbump]
    | _ => rfl

theorem touched_of_deltaOf {id : ℕ} (h : deltaOf own id ≠ 0) :
    ∃ delta, .addBalance id delta ∈ own := by
  induction own with
  | nil => simp [deltaOf] at h
  | cons write own ih =>
    have htail : deltaOf own id ≠ 0 → ∃ delta, .addBalance id delta ∈ write :: own := by grind
    cases write with
    | addBalance i delta => grind [deltaOf]
    | _ => exact htail h

theorem inserted_of_newWallets {w : Wallet} (h : w ∈ newWallets own) :
    ∃ x, .insertWallet x ∈ own ∧ x.id = w.id := by
  induction own with
  | nil => simp [newWallets] at h
  | cons write own ih =>
    have htail : w ∈ newWallets own → ∃ x, .insertWallet x ∈ write :: own ∧ x.id = w.id := by grind
    cases write with
    | insertWallet x =>
      rcases List.mem_cons.mp h with rfl | hown
      · exact ⟨x, by simp, rfl⟩
      · exact htail hown
    | _ => exact htail h

/-! ## Sound views -/

/-- Wallet identifiers are unique and drawn from the counter, and no balance is
below zero. -/
structure Sound (n : ℕ) (v : WalletStore) : Prop where
  ids : (v.wallets.map (fun w => w.id)).Nodup
  fresh : ∀ w ∈ v.wallets, w.id < n
  nonneg : ∀ w ∈ v.wallets, 0 ≤ w.balanceKopecks

/-- The balance of the wallet covers the change. -/
def WalletStore.covers (v : WalletStore) (id : ℕ) (delta : ℤ) : Bool :=
  v.wallets.all (fun w => w.id != id || decide (0 ≤ w.balanceKopecks + delta))

theorem covers_iff {v : WalletStore} {id : ℕ} {delta : ℤ} :
    v.covers id delta ↔ ∀ w ∈ v.wallets, w.id = id → 0 ≤ w.balanceKopecks + delta := by
  simp [WalletStore.covers, or_iff_not_imp_left]

namespace Sound

variable {delta : ℤ} {v : WalletStore} {n : ℕ}

section

variable (h : Sound n v)
include h

theorem covers_of_nonneg (id : ℕ) (hdelta : 0 ≤ delta) : v.covers id delta := by
  rw [covers_iff]
  intro w hw _
  have hnonneg := h.nonneg w hw
  omega

/-- A wallet that covers the amount itself is the only one with its identifier. -/
theorem covers_of_mem {w : Wallet} (hw : w ∈ v.wallets)
    (hdelta : 0 ≤ w.balanceKopecks + delta) : v.covers w.id delta := by
  rw [covers_iff]
  intro x hx hid
  have hxw : x = w := List.inj_on_of_nodup_map h.ids hx hw hid
  rw [hxw]
  exact hdelta

theorem mono {n' : ℕ} (hn : n ≤ n') : Sound n' v where
  ids := h.ids
  fresh := fun w hw => Nat.lt_of_lt_of_le (h.fresh w hw) hn
  nonneg := h.nonneg

/-- Only the wallets matter. -/
theorem congr {v' : WalletStore} (hw : v'.wallets = v.wallets) : Sound n v' where
  ids := by
    rw [hw]
    exact h.ids
  fresh := by
    rw [hw]
    exact h.fresh
  nonneg := by
    rw [hw]
    exact h.nonneg

theorem addBalance {id : ℕ} (hcovers : v.covers id delta) :
    Sound n (v.apply (.addBalance id delta)) where
  ids := by
    have hids : (v.wallets.map (fun w => if w.id = id then w.add delta else w)).map
        (fun w => w.id) = v.wallets.map (fun w => w.id) := by
      rw [List.map_map]
      apply List.map_congr_left
      intro w _
      simp only [Function.comp_apply]
      split <;> rfl
    exact hids ▸ h.ids
  fresh := by
    intro w hw
    obtain ⟨x, hx, rfl⟩ := List.mem_map.mp hw
    have hlt := h.fresh x hx
    split
    all_goals exact hlt
  nonneg := by
    intro w hw
    obtain ⟨x, hx, rfl⟩ := List.mem_map.mp hw
    by_cases hid : x.id = id
    · rw [if_pos hid]
      exact covers_iff.mp hcovers x hx hid
    · rw [if_neg hid]
      exact h.nonneg x hx

theorem insertWallet {w : Wallet} (hid : w.id = n) (hzero : w.balanceKopecks = 0) :
    Sound (n + 1) (v.apply (.insertWallet w)) where
  ids := by
    have hnew : ∀ x ∈ v.wallets, x.id ≠ w.id := by
      intro x hx
      -- the new identifier is not among the old ones
      have hlt := h.fresh x hx
      omega
    have hnodup : (v.wallets.map (fun x => x.id) ++ [w.id]).Nodup := by
      simpa [List.nodup_append] using ⟨h.ids, hnew⟩
    simpa [apply] using hnodup
  fresh := by
    intro x hx
    rcases List.mem_append.mp hx with hold | hnew
    · exact Nat.lt_succ_of_lt (h.fresh x hold)
    · grind
  nonneg := by
    intro x hx
    rcases List.mem_append.mp hx with hold | hnew
    · exact h.nonneg x hold
    · grind

end

/-- Two views of the same committed rows whose writes need different locks fit
together. -/
theorem merge {c : WalletStore} {a b : List WalletWrite} (ha : Sound n (walletDb.view c a))
    (hb : Sound n (walletDb.view c b)) (hfree : ∀ x ∈ a, ∀ y ∈ b, ¬ walletDb.conflicts x y) :
    Sound n (walletDb.view (walletDb.view c a) b) := by
  -- every wallet of the merged view is a wallet of one of the two
  have hmem : ∀ w ∈ (walletDb.view (walletDb.view c a) b).wallets,
      w ∈ (walletDb.view c a).wallets ∨ w ∈ (walletDb.view c b).wallets := by
    intro w hw
    rw [view_wallets] at hw
    rcases List.mem_append.mp hw with hold | hnew
    · obtain ⟨y, hy, rfl⟩ := List.mem_map.mp hold
      -- a wallet that `b` updates has been locked by `b`, so `a` has neither created nor
      -- updated it
      by_cases htouched : deltaOf b y.id = 0
      · grind [bump_of_untouched]
      right
      obtain ⟨delta, hdelta⟩ := touched_of_deltaOf htouched
      rw [view_wallets] at hy
      rcases List.mem_append.mp hy with hcommitted | hcreated
      · obtain ⟨x, hx, rfl⟩ := List.mem_map.mp hcommitted
        have hxa : deltaOf a x.id = 0 := by
          by_contra hne
          obtain ⟨delta', hdelta'⟩ := touched_of_deltaOf hne
          exact hfree _ hdelta' _ hdelta
            ⟨.walletRow x.id, by simp [WalletWrite.locks], by simp [WalletWrite.locks]⟩
        rw [bump_of_untouched hxa, view_wallets]
        exact List.mem_append_left _ (List.mem_map_of_mem hx)
      obtain ⟨x, hx, hid⟩ := inserted_of_newWallets hcreated
      have hconf : walletDb.conflicts (.insertWallet x) (.addBalance y.id delta) :=
        ⟨.walletRow y.id, by simp [WalletWrite.locks, hid], by simp [WalletWrite.locks]⟩
      exact absurd hconf (hfree _ hx _ hdelta)
    · grind [view_wallets]
  constructor
  · -- identifiers: the committed ones, then those that `a` and `b` have created
    have hids : ∀ own, (walletDb.view c own).wallets.map (fun w => w.id) =
        c.wallets.map (fun w => w.id) ++ (newWallets own).map (fun w => w.id) := by
      simp [view_wallets]
    have hmerged : (walletDb.view (walletDb.view c a) b).wallets.map (fun w => w.id) =
        (c.wallets.map (fun w => w.id) ++ (newWallets a).map (fun w => w.id)) ++
          (newWallets b).map (fun w => w.id) := by
      rw [view_wallets, List.map_append, List.map_map, ← hids a]
      rfl
    have hna := ha.ids
    have hnb := hb.ids
    rw [hids] at hna hnb
    rw [hmerged, List.nodup_append]
    rw [List.nodup_append] at hnb
    refine ⟨hna, hnb.2.1, ?_⟩
    intro i hi j hj hij
    rcases List.mem_append.mp hi with hcommitted | hcreated
    · exact hnb.2.2 i hcommitted j hj hij
    -- both would have created the same wallet
    obtain ⟨w, hw, rfl⟩ := List.mem_map.mp hcreated
    obtain ⟨w', hw', rfl⟩ := List.mem_map.mp hj
    obtain ⟨x, hx, hxw⟩ := inserted_of_newWallets hw
    obtain ⟨y, hy, hyw⟩ := inserted_of_newWallets hw'
    have hxy : x.id = y.id := hxw.trans (hij.trans hyw.symm)
    exact hfree _ hx _ hy
      ⟨.walletRow x.id, by simp [WalletWrite.locks], by simp [WalletWrite.locks, hxy]⟩
  · intro w hw
    rcases hmem w hw with h | h
    · exact ha.fresh w h
    · exact hb.fresh w h
  · intro w hw
    rcases hmem w hw with h | h
    · exact ha.nonneg w h
    · exact hb.nonneg w h

/-- A statement keeps the view sound, if a decrement is covered. -/
theorem exec (h : Sound n v) {op : WalletStmt} {r : op.Res} {ws : List WalletWrite}
    (hexec : walletDb.exec op n v = .ok (r, ws))
    (hcovers : ∀ id delta, op = .walletUpdate id delta → v.covers id delta) :
    Sound (n + 1) (walletDb.view v ws) := by
  have hmono := h.mono (Nat.le_succ n)
  cases WalletStmt.exec_writes hexec with
  | walletUpdate hw => exact hmono.addBalance (hcovers _ _ rfl)
  | walletCreate hfree => exact h.insertWallet rfl rfl
  | _ => exact hmono.congr rfl

end Sound

/-! ## The check before the decrement -/

section Checked

variable {α : Type}

/-- If the next statement is a balance update, the wallet covers it. -/
def Funded (v : WalletStore) : WalletProg α → Prop
  | .call (.walletUpdate id delta) _ => v.covers id delta
  | _ => True

/-- Every balance update is preceded by a statement after which the wallet
covers it: the check of the program is a check of its own view. -/
def Checked : WalletProg α → Prop
  | .ret _ => True
  | .throw _ => True
  | .call op k =>
    (∀ n v r ws, Sound n v → walletDb.exec op n v = .ok (r, ws) →
      Sound (n + 1) (walletDb.view v ws) →
      Funded (walletDb.view v ws) (k (.ok r)) ∧ Checked (k (.ok r))) ∧
    ∀ e, (∀ v, Funded v (k (.error e))) ∧ Checked (k (.error e))

/-- One statement followed by the rest. -/
theorem checked_await_bind {op : WalletStmt} {f : op.Res → WalletProg α}
    (h : ∀ n v r ws, Sound n v → walletDb.exec op n v = .ok (r, ws) →
      Sound (n + 1) (walletDb.view v ws) → Funded (walletDb.view v ws) (f r) ∧ Checked (f r)) :
    Checked (prisma op >>= f) := by
  refine ⟨h, ?_⟩
  intro e
  exact ⟨fun _ => trivial, trivial⟩

/-- The wallet that an `upsert` answers is in the view afterwards. -/
theorem checked_upsert_bind {userId currency : String} {f : Wallet → WalletProg α}
    (hf : ∀ n v w, Sound n v → w ∈ v.wallets → Funded v (f w) ∧ Checked (f w)) :
    Checked (walletUpsert userId currency >>= f) := by
  refine checked_await_bind ?_
  intro n v existing ws hv hexec _
  obtain ⟨rfl, rfl⟩ := Prod.mk.inj (Except.ok.inj hexec)
  -- the wallet is found, or it is created by a second statement
  cases hfind : v.walletByUser userId with
  | some wallet => exact hf n v wallet hv (WalletStore.walletByUser_some hfind).1
  | none =>
    refine ⟨trivial, checked_await_bind ?_⟩
    intro n' v' w ws _ hcreate hsound
    simp only [walletDb_exec, WalletStmt.exec] at hcreate
    split at hcreate
    · cases hcreate
    · obtain ⟨rfl, rfl⟩ := Prod.mk.inj (Except.ok.inj hcreate)
      exact hf (n' + 1) _ _ hsound (by simp [apply])

/-- A balance update and its entry. -/
theorem checked_update {id : ℕ} {delta : ℤ} {data : Wallet → LedgerEntryData}
    {f : Wallet → WalletLedgerEntry → WalletProg α}
    (hf : ∀ w e, (∀ v, Funded v (f w e)) ∧ Checked (f w e)) :
    Checked (prisma (.walletUpdate id delta) >>= fun w =>
      prisma (.entryCreate (data w)) >>= fun e => f w e) := by
  refine checked_await_bind ?_
  intro n v w ws _ _ _
  refine ⟨trivial, checked_await_bind ?_⟩
  intro n' v' e ws' _ _ _
  exact ⟨(hf w e).1 _, (hf w e).2⟩

theorem settleTopUp_checked {input : SettleInput} (h : 0 ≤ input.amountKopecks) :
    Checked (settleTopUp input) := by
  refine checked_await_bind ?_
  intro n v topUp ws _ _ _
  cases topUp with
  | none => exact ⟨trivial, trivial⟩
  | some topUp =>
    by_cases hstat : topUp.status = .succeeded
    · simp only [hstat]
      refine ⟨trivial, checked_await_bind ?_⟩
      intro n' v' wallet ws' _ _ _
      exact ⟨trivial, trivial⟩
    simp only [hstat]
    refine ⟨trivial, checked_await_bind ?_⟩
    intro n' v' _ ws' _ _ hsound
    -- a credit is covered by any balance that is not negative
    exact ⟨hsound.covers_of_nonneg _ h, checked_update fun _ _ => ⟨fun _ => trivial, trivial⟩⟩

theorem debitUsage_checked (input : DebitInput) : Checked (debitUsage input) := by
  unfold debitUsage
  split
  · trivial
  refine checked_await_bind ?_
  intro n v existing ws _ _ _
  cases existing with
  | some existing => exact ⟨trivial, trivial⟩
  | none =>
    refine ⟨trivial, checked_upsert_bind ?_⟩
    intro n' v' wallet hsound hmem
    unfold debitWallet
    split
    · exact ⟨trivial, trivial⟩
    have hcovers : 0 ≤ wallet.balanceKopecks + -input.amountKopecks := by omega
    exact ⟨hsound.covers_of_mem hmem hcovers,
      checked_update fun _ _ => ⟨fun _ => trivial, trivial⟩⟩

variable {input : AdjustInput}

/-- The loop starts with a read or is over. -/
theorem adjustWallets_funded {reason : String} {batchId : ℕ} {userIds : List String}
    {affected skipped : ℕ} (v : WalletStore) :
    Funded v (adjustWallets input reason batchId userIds affected skipped) := by
  cases userIds with
  | nil | cons userId userIds => trivial

theorem adjustWallets_checked (hneg : input.allowNegative = false)
    (hpos : 0 < input.amountKopecks) {reason : String} {batchId : ℕ} {userIds : List String}
    {affected skipped : ℕ} :
    Checked (adjustWallets input reason batchId userIds affected skipped) := by
  induction userIds generalizing affected skipped with
  | nil => trivial
  | cons userId userIds ih =>
    refine checked_upsert_bind ?_
    intro n v wallet hsound hmem
    split
    · exact ⟨adjustWallets_funded v, ih⟩
    -- a credit is covered by any balance that is not negative; a debit has been checked
    have hcovers : 0 ≤ wallet.balanceKopecks + input.direction.delta input.amountKopecks := by
      have hnonneg := hsound.nonneg wallet hmem
      cases hdir : input.direction with
      | credit =>
        simp only [Direction.delta]
        omega
      | debit => grind [Direction.delta]
    exact ⟨hsound.covers_of_mem hmem hcovers, checked_update fun _ _ => ⟨adjustWallets_funded, ih⟩⟩

/-- Sequencing with a rest that starts with a read or is over. -/
theorem checked_bind {β : Type} {p : WalletProg α} {f : α → WalletProg β}
    (hf : ∀ a, (∀ v, Funded v (f a)) ∧ Checked (f a)) (hp : Checked p) :
    (∀ v, Funded v p → Funded v (p >>= f)) ∧ Checked (p >>= f) := by
  -- over the calls of `p`; where `p` ends, the rest starts with a read
  induction p with
  | ret a => exact ⟨fun v _ => (hf a).1 v, (hf a).2⟩
  | throw e => exact ⟨fun _ _ => trivial, trivial⟩
  | call op k ih =>
    constructor
    · intro v hv
      cases op <;> exact hv
    obtain ⟨hok, herr⟩ := hp
    refine ⟨?_, ?_⟩
    · intro n v r ws hv hexec hsound
      obtain ⟨hfunded, hchecked⟩ := hok n v r ws hv hexec hsound
      have hrest := ih (.ok r) hchecked
      exact ⟨hrest.1 _ hfunded, hrest.2⟩
    intro e
    obtain ⟨hfunded, hchecked⟩ := herr e
    have hrest := ih (.error e) hchecked
    exact ⟨fun v => hrest.1 v (hfunded v), hrest.2⟩

theorem manualAdjustWallets_checked (hneg : input.allowNegative = false) :
    Checked (manualAdjustWallets input) := by
  unfold manualAdjustWallets
  split
  · trivial
  split
  · trivial
  refine checked_await_bind ?_
  intro n v existing ws _ _ _
  cases existing with
  | some existing =>
    refine ⟨trivial, checked_await_bind ?_⟩
    intro n' v' affected ws' _ _ _
    exact ⟨trivial, trivial⟩
  | none =>
    refine ⟨trivial, checked_await_bind ?_⟩
    intro n' v' batch ws' _ _ _
    have hchecked : Checked (adjustWallets input (normalizeReason input.trimmedReason)
        batch.id input.userIds 0 0) := adjustWallets_checked hneg (by omega)
    have hloop := checked_bind
      (f := fun counts : ℕ × ℕ => (return {
        batchId := batch.id
        affectedCount := counts.1
        skippedCount := counts.2
        direction := input.direction
        amountKopecks := input.amountKopecks
        currency := input.currency } : WalletProg AdjustResult))
      (fun _ => ⟨fun _ => trivial, trivial⟩) hchecked
    exact ⟨hloop.1 _ (adjustWallets_funded _), hloop.2⟩

/-- The transactions of the wallet repository. -/
inductive WalletTx where
  | settleTopUp (input : SettleInput)
  | debitUsage (input : DebitInput)
  | manualAdjustWallets (input : AdjustInput)

/-- What the callers send: top-up amounts are not negative, and an adjustment
may not overdraw. -/
def WalletTx.Admissible : WalletTx → Prop
  | .settleTopUp input => 0 ≤ input.amountKopecks
  | .debitUsage _ => True
  | .manualAdjustWallets input => input.allowNegative = false

/-- The transaction of a request. -/
def walletTxCode (tx : {tx : WalletTx // tx.Admissible}) : WalletProg Unit :=
  match tx.val with
  | .settleTopUp input => do
      let _ ← settleTopUp input
      return ()
  | .debitUsage input => do
      let _ ← debitUsage input
      return ()
  | .manualAdjustWallets input => do
      let _ ← manualAdjustWallets input
      return ()

/-- No transaction starts with a balance update. -/
theorem walletTxCode_checked (tx : {tx : WalletTx // tx.Admissible}) :
    (∀ v, Funded v (walletTxCode tx)) ∧ Checked (walletTxCode tx) := by
  have hrest : ∀ (β : Type) (p : WalletProg β), (∀ v, Funded v p) → Checked p →
      (∀ v, Funded v (p >>= fun _ => (return () : WalletProg Unit))) ∧
        Checked (p >>= fun _ => (return () : WalletProg Unit)) := by
    intro β p hfunded hchecked
    have hbind := checked_bind (f := fun _ : β => (return () : WalletProg Unit))
      (fun _ => ⟨fun _ => trivial, trivial⟩) hchecked
    exact ⟨fun v => hbind.1 v (hfunded v), hbind.2⟩
  obtain ⟨tx, hadmissible⟩ := tx
  cases tx with
  | settleTopUp input =>
    exact hrest _ _ (fun _ => trivial) (settleTopUp_checked hadmissible)
  | debitUsage input =>
    refine hrest _ _ ?_ (debitUsage_checked input)
    intro v
    unfold debitUsage
    split <;> trivial
  | manualAdjustWallets input =>
    refine hrest _ _ ?_ (manualAdjustWallets_checked hadmissible)
    intro v
    unfold manualAdjustWallets
    split
    · trivial
    · split <;> trivial

end Checked

/-! ## Interleaved transactions -/

/-- The states of the wallet tables under concurrent transactions. -/
abbrev WalletState :=
  Database.State WalletStmt WalletStmt.Res Exception WalletWrite WalletStore Unit
    {tx : WalletTx // tx.Admissible}

/-- A commit leaves every other transaction that has passed its check and is
about to update a balance with a balance that covers the update. -/
def coversPending : WalletState → Database.Choice Exception {tx : WalletTx // tx.Admissible} → Bool
  | s, .commit t => (List.range s.txs.length).all fun u =>
    u == t || match s.nextStmt u with
      | some (.walletUpdate id delta) =>
        (walletDb.view (walletDb.view s.committed (s.own t)) (s.own u)).covers id delta
      | _ => true
  | _, _ => true

/-- What every open transaction sees is sound and covers what it is about to do. -/
structure SolvencyInv (s : WalletState) : Prop where
  locked : walletDb.Locked s
  sound : ∀ t, Sound s.fresh (walletDb.view s.committed (s.own t))
  ready : ∀ (t : ℕ) (req : {tx : WalletTx // tx.Admissible}) (prog : WalletProg Unit)
    (own : List WalletWrite), s.txs[t]? = some (req, .active prog own) →
      Funded (walletDb.view s.committed own) prog ∧ Checked prog

/-- The committed rows are what a transaction sees that has not begun. -/
theorem SolvencyInv.committed {s : WalletState} (h : SolvencyInv s) :
    Sound s.fresh s.committed := by
  have hsound := h.sound s.txs.length
  rwa [Database.own_length] at hsound

theorem solvencyInv_initial {s₀ : WalletStore} {n : ℕ} (h : Sound n s₀) :
    SolvencyInv (initial s₀ n) where
  locked := walletDb.locked_initial s₀ n
  sound := fun _ => h
  ready := by simp_all [initial]

theorem solvencyInv_step {s s' : WalletState}
    {c : Database.Choice Exception {tx : WalletTx // tx.Admissible}} (hC : coversPending s c)
    (hnext : walletDb.next walletTxCode c s = some s') (h : SolvencyInv s) : SolvencyInv s' := by
  have hlocked := walletDb.locked_step walletTxCode hnext h.locked
  -- what a step of `t` does not change, it does not change for the others
  have hready : ∀ (t : ℕ) (entry entry' : {tx : WalletTx // tx.Admissible} × Database.Tx
      WalletStmt WalletStmt.Res Exception WalletWrite Unit), s.txs[t]? = some entry →
      (∀ req prog own, entry' = (req, .active prog own) →
        Funded (walletDb.view s.committed own) prog ∧ Checked prog) →
      ∀ (u : ℕ) (req : {tx : WalletTx // tx.Admissible}) (prog : WalletProg Unit)
        (own : List WalletWrite), (s.txs.set t entry')[u]? = some (req, .active prog own) →
          Funded (walletDb.view s.committed own) prog ∧ Checked prog := by
    intro t entry entry' ht hentry u req prog own hu
    rcases Database.getElem_set_cases ht hu with ⟨-, heq⟩ | ⟨-, hold⟩
    · exact hentry req prog own heq.symm
    · exact h.ready u req prog own hold
  rcases walletDb.next_cases walletTxCode hnext with ⟨req, rfl, rfl⟩ |
    ⟨t, req, op, k, own, r, ws, rfl, ht, hexec, _, rfl⟩ |
    ⟨t, req, op, k, own, e, n, _, ht, rfl, hn⟩ | ⟨t, req, a, own, rfl, ht, rfl⟩ |
    ⟨t, req, prog, own, rfl, ht, rfl⟩
  · -- a new transaction sees the committed rows
    refine ⟨hlocked, ?_, ?_⟩
    · intro u
      rw [Database.own_begin]
      exact h.sound u
    intro u req' prog own hu
    rcases Database.getElem_begin_cases hu with ⟨-, heq⟩ | hold
    · obtain ⟨-, rfl, rfl⟩ : req' = req ∧ prog = walletTxCode req ∧ own = [] := by
        simpa using heq
      exact ⟨(walletTxCode_checked _).1 _, (walletTxCode_checked _).2⟩
    · exact h.ready u req' prog own hold
  · -- a statement: its update is covered, so its view stays sound
    have hown : s.own t = own := own_of_getElem ht
    have hview : Sound s.fresh (walletDb.view s.committed own) := hown ▸ h.sound t
    obtain ⟨hfunded, hchecked⟩ := h.ready t req _ own ht
    have hcovers : ∀ id delta, op = .walletUpdate id delta →
        (walletDb.view s.committed own).covers id delta := by
      rintro id delta rfl
      exact hfunded
    have hsound := hview.exec hexec hcovers
    obtain ⟨hfunded', hchecked'⟩ := hchecked.1 _ _ r ws hview hexec hsound
    refine ⟨hlocked, ?_, ?_⟩
    · refine forall_own_set
        (Q := fun own => Sound (s.fresh + 1) (walletDb.view s.committed own)) ht ?_ ?_
      · intro u _
        exact (h.sound u).mono (Nat.le_succ _)
      · simpa [Database.Tx.own] using hsound
    apply hready t _ _ ht
    intro req' prog own' heq
    obtain ⟨-, rfl, rfl⟩ : req = req' ∧ k (.ok r) = prog ∧ own ++ ws = own' := by
      simpa using heq
    rw [Database.view_append]
    exact ⟨hfunded', hchecked'⟩
  · -- a statement that fails has written nothing
    have hown : s.own t = own := own_of_getElem ht
    obtain ⟨hfunded, hchecked⟩ := (h.ready t req _ own ht).2.2 e
    refine ⟨hlocked, ?_, ?_⟩
    · refine forall_own_set (Q := fun own => Sound n (walletDb.view s.committed own)) ht ?_ ?_
      · intro u _
        exact (h.sound u).mono hn
      · exact (hown ▸ h.sound t : Sound s.fresh (walletDb.view s.committed own)).mono hn
    apply hready t _ _ ht
    intro req' prog own' heq
    obtain ⟨-, rfl, rfl⟩ : req = req' ∧ k (.error e) = prog ∧ own = own' := by
      simpa using heq
    exact ⟨hfunded _, hchecked⟩
  · -- a commit: the views of the others are merged with its writes
    have hown : s.own t = own := own_of_getElem ht
    have hmine : Sound s.fresh (walletDb.view s.committed own) := hown ▸ h.sound t
    refine ⟨hlocked, ?_, ?_⟩
    · refine forall_own_set
        (Q := fun own' => Sound s.fresh (walletDb.view (walletDb.view s.committed own) own'))
        ht ?_ hmine
      intro u hu
      refine hmine.merge (h.sound u) ?_
      intro x hx y hy
      exact h.locked t u (Ne.symm hu) x (hown.symm ▸ hx) y hy
    intro u req' prog own' hu
    rcases Database.getElem_set_cases ht hu with ⟨-, heq⟩ | ⟨hut, hold⟩
    · cases heq
    obtain ⟨-, hchecked⟩ := h.ready u req' prog own' hold
    refine ⟨?_, hchecked⟩
    cases prog with
    | ret a | throw e => trivial
    | call op k =>
      cases op with
      | walletUpdate id delta =>
        -- the other one has passed its check: `coversPending` says it still holds
        have hlt : u < s.txs.length := (List.getElem?_eq_some_iff.mp hold).1
        have hall := List.all_eq_true.mp hC u (List.mem_range.mpr hlt)
        have hother : s.own u = own' := own_of_getElem hold
        have hcovers : (walletDb.view (walletDb.view s.committed own) own').covers id delta := by
          simpa [hut, Database.nextStmt_of_getElem hold, hown, hother] using hall
        exact hcovers
      | _ => trivial
  · refine ⟨hlocked, ?_, ?_⟩
    · refine forall_own_set (Q := fun own => Sound s.fresh (walletDb.view s.committed own)) ht ?_ ?_
      · intro u _
        exact h.sound u
      · -- aborted: back to the committed rows
        exact h.committed
    · grind

/-! ## The result -/

/-- If no commit takes the balance away from a transaction that has passed its
check, no committed balance is ever below zero. -/
theorem balance_nonneg {s₀ : WalletStore} {n : ℕ} (hstart : Sound n s₀) {s : WalletState}
    (hrun : walletDb.Reaches walletTxCode (fun s c => coversPending s c)
      (initial s₀ n) s) :
    ∀ w ∈ s.committed.wallets, 0 ≤ w.balanceKopecks := by
  have hinv : SolvencyInv s :=
    Database.Reaches.invariant walletDb walletTxCode
      (fun _ _ _ hC hnext h => solvencyInv_step hC hnext h) hrun (solvencyInv_initial hstart)
  exact hinv.committed.nonneg

/-! ## Two debits that both pass the check -/

/-- One wallet with a hundred kopecks. -/
def hundredStore : WalletStore where
  wallets := [{ id := 1, userId := "u1", currency := "RUB", balanceKopecks := 100 }]
  topUps := []
  entries := []
  batches := []

theorem hundredStore_sound : Sound 2 hundredStore where
  ids := by decide
  fresh := by decide
  nonneg := by decide

/-- A debit of the whole balance for an AI request. -/
def wholeDebit (requestId : String) : {tx : WalletTx // tx.Admissible} :=
  ⟨.debitUsage
    { userId := "u1"
      amountKopecks := 100
      currency := "RUB"
      description := "AI usage charge"
      idempotencyKey := s!"ai-usage:{requestId}" }, trivial⟩

/-- Both transactions check the balance before either has decremented it. -/
def bothCheckBalance : List (Database.Choice Exception {tx : WalletTx // tx.Admissible}) :=
  [.begin (wholeDebit "r1"), .begin (wholeDebit "r2"), .stmt 0, .stmt 0, .stmt 1, .stmt 1,
    .stmt 0, .stmt 0, .commit 0, .stmt 1, .stmt 1, .commit 1]

/-- The second transaction checks after the first one has been committed. -/
def secondCheckFails : List (Database.Choice Exception {tx : WalletTx // tx.Admissible}) :=
  [.begin (wholeDebit "r1"), .begin (wholeDebit "r2"), .stmt 0, .stmt 0,
    .stmt 0, .stmt 0, .commit 0, .stmt 1, .stmt 1, .abort 1]

theorem balance_nonneg_secondCheckFails :
    ∃ s : WalletState, (∀ w ∈ s.committed.wallets, 0 ≤ w.balanceKopecks) ∧
      s.committed.balanceOf 1 = some 0 := by
  have hcheck : ((walletDb.trace walletTxCode coversPending secondCheckFails
      (initial hundredStore 2)).map
        (fun s => s.committed.balanceOf 1 == some 0)) = some true := by decide
  obtain ⟨s, hrun, hbalance⟩ := walletDb.reaches_of_trace_check walletTxCode
    (p := fun c => c.balanceOf 1 == some 0) hcheck
  exact ⟨s, balance_nonneg hundredStore_sound hrun, by simpa using hbalance⟩

/-- Two concurrent debits leave the wallet at minus one hundred. -/
theorem overdraft : Sound 2 hundredStore ∧ ∃ s : WalletState,
        walletDb.Reaches walletTxCode (fun s c => anyStep s c)
          (initial hundredStore 2) s ∧
        ∃ w ∈ s.committed.wallets, w.balanceKopecks = -100 := by
  refine ⟨hundredStore_sound, ?_⟩
  have hcheck : ((walletDb.trace walletTxCode anyStep bothCheckBalance (initial hundredStore 2)).map
        (fun s => s.committed.wallets.any (fun w => w.balanceKopecks == -100))) = some true := by
    decide
  obtain ⟨s, hrun, hp⟩ := walletDb.reaches_of_trace_check walletTxCode
    (p := fun c => c.wallets.any (fun w => w.balanceKopecks == -100)) hcheck
  exact ⟨s, hrun, by simpa using hp⟩

end QuizMind
