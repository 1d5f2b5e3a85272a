import QuizMind.Wallet.Ledger

/-! # Replaying an adjustment

The second call with a key finds the batch of the first and counts, by their keys, the ledger
entries that the batch made for the users it is given. No later transaction makes or removes an
entry of the batch (`GrowsBatches`), so the count is that of the loop that wrote them, and the same
user ids get the same report (`adjustment_replayed`). The report is of the first batch whatever
the second call asks for.
-/

namespace QuizMind

open Async

/-! ## The keys of a batch -/

theorem adjustmentKey_toList (batchId : ℕ) (userId : String) :
    (adjustmentKey batchId userId).toList =
      "admin-adjustment:".toList ++ (Nat.toDigits 10 batchId ++ ':' :: userId.toList) := by
  have hkey : adjustmentKey batchId userId =
      "admin-adjustment:" ++ toString batchId ++ ":" ++ userId := rfl
  rw [hkey]
  simp

/-- The digits of the batch end at the colon, so that a key tells its batch and its user. -/
theorem adjustmentKey_inj {k k' : ℕ} {userId userId' : String}
    (h : adjustmentKey k userId = adjustmentKey k' userId') : k = k' ∧ userId = userId' := by
  have hdigit : ∀ n, ∀ c ∈ Nat.toDigits 10 n, decide (c ≠ ':') = true := by
    intro n c hc
    have hisDigit := Nat.isDigit_of_mem_toDigits (by norm_num) (by norm_num) hc
    simp only [decide_not, Bool.not_eq_eq_eq_not, Bool.not_true, decide_eq_false_iff_not]
    rintro rfl
    exact absurd hisDigit (by decide)
  have htexts := congrArg String.toList h
  rw [adjustmentKey_toList, adjustmentKey_toList, List.append_cancel_left_eq] at htexts
  have hdigits := congrArg (List.takeWhile (· ≠ ':')) htexts
  rw [List.takeWhile_append_of_pos (hdigit k), List.takeWhile_append_of_pos (hdigit k')] at hdigits
  have hsame : Nat.toDigits 10 k = Nat.toDigits 10 k' := by simpa using hdigits
  have hk : k = k' := by grind [Nat.ofDigitChars_ten_toDigits]
  subst hk
  rw [List.append_cancel_left_eq, List.cons.injEq] at htexts
  exact ⟨rfl, String.toList_inj.mp htexts.2⟩

/-- The number of entries that a batch has for the users: what the statement counts. -/
def booked (s : WalletStore) (batchId : ℕ) (userIds : List String) : ℕ :=
  (s.entries.filter fun e =>
    e.idempotencyKey.any (userIds.map (adjustmentKey batchId)).contains).length

theorem booked_insertEntry (s : WalletStore) (e : WalletLedgerEntry) (batchId : ℕ)
    (userIds : List String) :
    booked (s.apply (.insertEntry e)) batchId userIds = booked s batchId userIds +
      if ∃ userId ∈ userIds, e.idempotencyKey = some (adjustmentKey batchId userId) then 1
      else 0 := by
  have hasked : (e.idempotencyKey.any (userIds.map (adjustmentKey batchId)).contains) =
      decide (∃ userId ∈ userIds, e.idempotencyKey = some (adjustmentKey batchId userId)) := by
    cases e.idempotencyKey with
    | none => simp
    | some key => simp [eq_comm]
  unfold booked WalletStore.apply
  rw [List.filter_append, List.length_append, List.filter_singleton, hasked]
  by_cases h : ∃ userId ∈ userIds, e.idempotencyKey = some (adjustmentKey batchId userId)
  · rw [if_pos h, decide_eq_true h]
    rfl
  · rw [if_neg h, decide_eq_false h]
    rfl

/-! ## What a transaction adds -/

/-- The same batches with the same entries, in a state that is not earlier. -/
structure SameBatches (s s' : WalletStore × ℕ) : Prop where
  le : s.2 ≤ s'.2
  batches : s'.1.batches = s.1.batches
  booked : ∀ k userIds, booked s'.1 k userIds = booked s.1 k userIds

/-- New batches come behind those that are there, and no entry joins an older batch, or one that
is still to come. -/
structure GrowsBatches (s s' : WalletStore × ℕ) : Prop where
  le : s.2 ≤ s'.2
  batches : ∃ new, s'.1.batches = s.1.batches ++ new ∧ ∀ b ∈ new, b.id < s'.2
  old : ∀ k < s.2, ∀ userIds, booked s'.1 k userIds = booked s.1 k userIds
  later : ∀ k, s'.2 ≤ k → ∀ userIds, booked s'.1 k userIds = booked s.1 k userIds

/-- Batches have identifiers of the counter, and so have those that entries are booked for. -/
structure Numbered (s : WalletStore × ℕ) : Prop where
  batches_lt : ∀ b ∈ s.1.batches, b.id < s.2
  none_later : ∀ k, s.2 ≤ k → ∀ userIds, booked s.1 k userIds = 0

/-- The batch of an idempotency key. -/
structure BatchRecorded (key : String) (batch : AdminWalletAdjustmentBatch)
    (s : WalletStore × ℕ) : Prop where
  found : s.1.batchByKey key = some batch
  lt : batch.id < s.2

section Growth

variable {s s' : WalletStore × ℕ}

theorem SameBatches.refl (s : WalletStore × ℕ) : SameBatches s s :=
  ⟨le_rfl, rfl, fun _ _ => rfl⟩

theorem SameBatches.trans {s'' : WalletStore × ℕ} (h : SameBatches s s')
    (h' : SameBatches s' s'') : SameBatches s s'' :=
  ⟨h.le.trans h'.le, h'.batches.trans h.batches,
    fun k userIds => (h'.booked k userIds).trans (h.booked k userIds)⟩

theorem SameBatches.grows (h : SameBatches s s') : GrowsBatches s s' :=
  ⟨h.le, ⟨[], by simp [h.batches]⟩, fun k _ => h.booked k, fun k _ => h.booked k⟩

theorem Numbered.grow (hs : Numbered s) (h : GrowsBatches s s') : Numbered s' := by
  obtain ⟨new, hnew, hlt⟩ := h.batches
  constructor
  · intro b hb
    rw [hnew] at hb
    rcases List.mem_append.mp hb with hold | hadded
    · exact Nat.lt_of_lt_of_le (hs.batches_lt b hold) h.le
    · exact hlt b hadded
  · intro k hk userIds
    rw [h.later k hk]
    exact hs.none_later k (h.le.trans hk) userIds

theorem BatchRecorded.grow {key : String} {batch : AdminWalletAdjustmentBatch}
    (hs : BatchRecorded key batch s) (h : GrowsBatches s s') : BatchRecorded key batch s' := by
  obtain ⟨new, hnew, -⟩ := h.batches
  have hfound := hs.found
  unfold WalletStore.batchByKey at hfound
  refine ⟨?_, Nat.lt_of_lt_of_le hs.lt h.le⟩
  unfold WalletStore.batchByKey
  rw [hnew, List.find?_append, hfound]
  rfl

end Growth

/-! ## Every call grows the tables -/

/-- A statement that makes no batch and no entry of a batch. -/
def WalletStmt.LeavesBatches : WalletStmt → Prop
  | .batchCreate _ => False
  | .entryCreate data => ∀ k userId, data.idempotencyKey ≠ some (adjustmentKey k userId)
  | _ => True

theorem exec_sameBatches {op : WalletStmt} (hop : op.LeavesBatches) {n : ℕ} {s : WalletStore}
    {r : op.Res} {ws : List WalletWrite} (h : walletDb.exec op n s = .ok (r, ws)) :
    SameBatches (s, n) (walletDb.view s ws, n + 1) := by
  cases WalletStmt.exec_writes h with
  | batchCreate hfree => exact hop.elim
  | entryCreate hkey =>
    refine ⟨Nat.le_succ n, rfl, fun k userIds => (booked_insertEntry s _ k userIds).trans ?_⟩
    rw [if_neg fun ⟨userId, _, heq⟩ => hop k userId heq]
    rfl
  | _ => exact ⟨Nat.le_succ n, rfl, fun _ _ => rfl⟩

theorem run_sameBatches {α : Type} {p : WalletProg α}
    (hp : p.Safe (fun _ _ => True) WalletStmt.LeavesBatches) (faults : List (Option Exception))
    (s : WalletStore × ℕ) : SameBatches s (p.run walletDb.execAlone faults s).2 := by
  refine Prog.run_of_safe (I := SameBatches s) ?_ hp faults (SameBatches.refl s)
  intro op s' hop hs
  refine hs.trans ?_
  unfold Database.execAlone
  cases hexec : walletDb.exec op s'.2 s'.1 with
  | error e => exact ⟨Nat.le_succ _, rfl, fun _ _ => rfl⟩
  | ok out => exact exec_sameBatches hop hexec

theorem atomically_sameBatches {α : Type} {p : WalletProg α}
    (hp : p.Safe (fun _ _ => True) WalletStmt.LeavesBatches) (faults : List (Option Exception))
    (s : WalletStore × ℕ) : SameBatches s (p.atomically walletDb.execAlone faults s).2 := by
  have hrun := run_sameBatches hp faults s
  unfold Prog.atomically
  split
  · rename_i hok
    rw [hok] at hrun
    exact hrun
  · exact SameBatches.refl s

section Adjust

variable {input : AdjustInput} {reason : String} {n : ℕ} {s : WalletStore}

theorem walletUpsert_sameBatches {userId currency : String} :
    (walletUpsert userId currency).wp walletDb.execAlone
      (Prog.onOk fun _ s' => SameBatches (s, n) s') (s, n) := by
  apply walletDb.wp_await_bind
  intro existing ws hexec
  have hfind := exec_sameBatches (by trivial) hexec
  cases existing with
  | some wallet => exact hfind
  | none =>
    have hcreate : (prisma (.walletCreate userId (some currency))).wp walletDb.execAlone
        (Prog.onOk fun _ s' => SameBatches (s, n) s') (walletDb.view s ws, n + 1) := by
      apply walletDb.wp_await
      intro wallet ws' hexec'
      exact hfind.trans (exec_sameBatches (by trivial) hexec')
    exact hcreate

/-- The loop books its batch and no other, one entry for each user that it does not skip. -/
theorem adjustWallets_booked {batchId : ℕ} {userIds given : List String} {affected skipped : ℕ}
    (hgiven : userIds ⊆ given) :
    (adjustWallets input reason batchId userIds affected skipped).wp walletDb.execAlone
      (Prog.onOk fun counts s' => n ≤ s'.2 ∧ s'.1.batches = s.batches ∧
        counts.1 + counts.2 = affected + skipped + userIds.length ∧
        booked s'.1 batchId given + affected = booked s batchId given + counts.1 ∧
        ∀ k ≠ batchId, ∀ userIds, booked s'.1 k userIds = booked s k userIds) (s, n) := by
  induction userIds generalizing affected skipped s n with
  | nil => exact ⟨le_rfl, rfl, rfl, rfl, fun _ _ _ => rfl⟩
  | cons userId userIds ih =>
    obtain ⟨huser, hrest⟩ := List.cons_subset.mp hgiven
    refine Prog.wp_bind_onOk _ walletUpsert_sameBatches ?_
    rintro wallet ⟨s₁, n₁⟩ hwallet
    split
    · -- the user is skipped
      refine Prog.wp_mono _ ?_ (ih (s := s₁) (n := n₁) hrest)
      rintro (e | counts) s' hpost
      · trivial
      · obtain ⟨hle, hbatches, hsum, hown, hothers⟩ := hpost
        rw [hwallet.booked] at hown
        refine ⟨hwallet.le.trans hle, hbatches.trans hwallet.batches, ?_, hown,
          fun k hk ids => (hothers k hk ids).trans (hwallet.booked k ids)⟩
        rw [List.length_cons]
        omega
    · -- the balance is updated and an entry made
      apply walletDb.wp_await_bind
      intro updated ws hupdate
      have hupdated := hwallet.trans (exec_sameBatches (by trivial) hupdate)
      apply walletDb.wp_await_bind
      intro e ws' hinsert
      cases WalletStmt.exec_writes hinsert with
      | read hread => cases hread
      | entryCreate hfree =>
        have hentry := fun k ids => booked_insertEntry (walletDb.view s₁ ws)
          { adjustEntry input reason batchId userId wallet updated with id := n₁ + 1 } k ids
        refine Prog.wp_mono _ ?_ (ih hrest)
        rintro (e | counts) s' hpost
        · trivial
        · obtain ⟨hle, hbatches, hsum, hown, hothers⟩ := hpost
          refine ⟨(hupdated.le.trans (Nat.le_succ _)).trans hle,
            hbatches.trans hupdated.batches, ?_, ?_, ?_⟩
          · rw [List.length_cons]
            omega
          · have hhere := hentry batchId given
            rw [if_pos ⟨userId, huser, rfl⟩, hupdated.booked] at hhere
            have hown' : booked s'.1 batchId given + (affected + 1) =
                booked s batchId given + 1 + counts.1 := hown.trans (congrArg (· + _) hhere)
            omega
          · intro k hk ids
            refine (hothers k hk ids).trans ((hentry k ids).trans ?_)
            rw [if_neg fun ⟨_, _, heq⟩ => hk (adjustmentKey_inj (Option.some.inj heq)).1.symm]
            exact hupdated.booked k ids

/-- What a call reports of a batch: how many of its users the batch has an entry for. -/
def batchReport (batch : AdminWalletAdjustmentBatch) (s : WalletStore) (userIds : List String) :
    AdjustResult where
  batchId := batch.id
  affectedCount := booked s batch.id userIds
  skippedCount := userIds.length - booked s batch.id userIds
  direction := batch.direction
  amountKopecks := batch.amountKopecks
  currency := batch.currency

/-- The first call with a key, or a replay: both report what the batch of the key holds. -/
theorem manualAdjustWallets_reports (hs : Numbered (s, n)) :
    (manualAdjustWallets input).wp walletDb.execAlone
      (Prog.onOk fun result s' => GrowsBatches (s, n) s' ∧ ∃ batch,
        BatchRecorded input.idempotencyKey batch s' ∧
        result = batchReport batch s'.1 input.userIds) (s, n) := by
  unfold manualAdjustWallets
  split
  · trivial
  split
  · trivial
  apply walletDb.wp_await_bind
  intro existing ws hexec
  have hfind := exec_sameBatches (by trivial) hexec
  obtain ⟨rfl, rfl⟩ := Prod.mk.inj (Except.ok.inj hexec)
  cases hbatch : s.batchByKey input.idempotencyKey with
  | some batch =>
    -- a replay
    show (prisma (.entryCountByKeys _) >>= _).wp _ _ _
    apply walletDb.wp_await_bind
    intro count ws' hcount
    have hsame := hfind.trans (exec_sameBatches (by trivial) hcount)
    obtain ⟨rfl, rfl⟩ := Prod.mk.inj (Except.ok.inj hcount)
    have hlt : batch.id < n := hs.batches_lt batch (List.mem_of_find?_eq_some hbatch)
    exact ⟨hsame.grows, batch, ⟨hbatch, hlt.trans_le hsame.le⟩, rfl⟩
  | none =>
    apply walletDb.wp_await_bind
    intro batch ws' hcreate
    have hnew : batch = { adjustBatch input (normalizeReason input.trimmedReason) with
        id := n + 1 } ∧ ws' = [.insertBatch batch] := by
      simp only [walletDb_exec, WalletStmt.exec] at hcreate
      split at hcreate
      · cases hcreate
      · obtain ⟨rfl, rfl⟩ := Prod.mk.inj (Except.ok.inj hcreate)
        exact ⟨rfl, rfl⟩
    obtain ⟨hid, rfl⟩ := hnew
    refine Prog.wp_bind_onOk _ (adjustWallets_booked (List.Subset.refl input.userIds)) ?_
    rintro counts ⟨s', n'⟩ ⟨hle, hbatches, hsum, hown, hothers⟩
    have hnone : booked s batch.id input.userIds = 0 := by
      refine hs.none_later _ ?_ _
      rw [hid]
      exact Nat.le_succ n
    have hbooked : booked s' batch.id input.userIds = counts.1 := by
      have hown' : booked s' batch.id input.userIds + 0 =
          booked s batch.id input.userIds + counts.1 := hown
      omega
    have hnumber : batch.id = n + 1 := by rw [hid]
    have hlt : batch.id < n' := hnumber ▸ hle
    have hn : n ≤ n' := by omega
    have hnew : s'.batches = s.batches ++ [batch] := hbatches
    refine ⟨⟨hn, ⟨[batch], hnew, by simpa using hlt⟩, fun k hk => hothers k ?_,
      fun k hk => hothers k ?_⟩, batch, ⟨?_, hlt⟩, ?_⟩
    · omega
    · omega
    · have hkey : batch.idempotencyKey = input.idempotencyKey := by rw [hid]; rfl
      unfold WalletStore.batchByKey at hbatch ⊢
      rw [hnew, List.find?_append, hbatch]
      simp [hkey]
    · have hskipped : counts.2 = input.userIds.length - counts.1 := by omega
      unfold batchReport
      rw [hbooked, hskipped]
      subst hid
      rfl

/-- A replay alone: it writes nothing. -/
theorem manualAdjustWallets_replay {batch : AdminWalletAdjustmentBatch}
    (hs : BatchRecorded input.idempotencyKey batch (s, n)) (hamount : 0 < input.amountKopecks)
    (hreason : jsLength input.trimmedReason ≤ 500) :
    (manualAdjustWallets input).atomically walletDb.execAlone [] (s, n) =
      (.ok (batchReport batch s input.userIds), (s, n + 2)) := by
  have hfind : walletDb.execAlone (.batchFindByKey input.idempotencyKey) (s, n) =
      (.ok (some batch), (s, n + 1)) := by
    rw [← hs.found]
    rfl
  have hrun : (manualAdjustWallets input).run walletDb.execAlone [] (s, n) =
      (.ok (batchReport batch s input.userIds), (s, n + 2)) := by
    unfold manualAdjustWallets applyAdjustment
    rw [if_neg (by omega), if_neg (by omega)]
    simp only [Prog.run_bind, Prog.run_await, hfind]
    rfl
  unfold Prog.atomically
  rw [hrun]

end Adjust

/-! ## Serial runs -/

/-- What the callers send: the key of a usage debit is made of the id of its request. -/
def WalletRequest.Sent : WalletRequest → Prop
  | .debitUsage input => ∃ requestId, input.idempotencyKey = "ai-usage:" ++ requestId
  | _ => True

section Serve

variable {s : WalletStore × ℕ}

theorem settleTopUp_leaves (input : SettleInput) :
    (settleTopUp input).Safe (fun _ _ => True) WalletStmt.LeavesBatches := by
  refine Prog.safe_await_bind (by trivial) ?_
  rintro (_ | topUp) -
  · trivial
  · show Prog.Safe _ _ (if topUp.status = .succeeded then _ else _)
    split
    · exact Prog.safe_await_bind (by trivial) fun _ _ => by trivial
    · refine Prog.safe_await_bind (by trivial) fun _ _ => ?_
      refine Prog.safe_await_bind (by trivial) fun _ _ => ?_
      exact Prog.safe_await_bind (fun _ _ hkey => by cases hkey) fun _ _ => by trivial

theorem walletUpsert_leaves (userId currency : String) :
    (walletUpsert userId currency).Safe (fun _ _ => True) WalletStmt.LeavesBatches := by
  refine Prog.safe_await_bind (by trivial) ?_
  rintro (_ | wallet) -
  · exact Prog.safe_await (by trivial)
  · trivial

theorem debitUsage_leaves {input : DebitInput}
    (hinput : (WalletRequest.debitUsage input).Sent) :
    (debitUsage input).Safe (fun _ _ => True) WalletStmt.LeavesBatches := by
  obtain ⟨requestId, hkey⟩ := hinput
  have hentry : ∀ k userId, some input.idempotencyKey ≠ some (adjustmentKey k userId) := by
    intro k userId heq
    have htexts := congrArg (fun key => key.toList.take 2) (hkey.symm.trans (Option.some.inj heq))
    simp [adjustmentKey_toList] at htexts
  unfold debitUsage
  split
  · trivial
  refine Prog.safe_await_bind (by trivial) ?_
  rintro (_ | existing) -
  · refine Prog.safe_bind (walletUpsert_leaves _ _) fun wallet => ?_
    unfold debitWallet
    split
    · trivial
    · refine Prog.safe_await_bind (by trivial) fun _ _ => ?_
      exact Prog.safe_await_bind hentry fun _ _ => by trivial
  · trivial

theorem serve_grows {call : WalletRequest} (hcall : call.Sent) (hs : Numbered s)
    (faults : List (Option Exception)) : GrowsBatches s (call.serve faults s) := by
  cases call with
  | findOrCreateWallet userId =>
    have hsafe : (findOrCreateWalletForUser userId).Safe (fun _ _ => True)
        WalletStmt.LeavesBatches := by
      refine Prog.safe_await_bind (by trivial) ?_
      rintro (_ | wallet) -
      · exact Prog.safe_await (by trivial)
      · trivial
    exact (run_sameBatches hsafe faults s).grows
  | createTopUp input => exact (run_sameBatches (Prog.safe_await (by trivial)) faults s).grows
  | cancelTopUp topUpId => exact (run_sameBatches (Prog.safe_await (by trivial)) faults s).grows
  | settleTopUp input => exact (atomically_sameBatches (settleTopUp_leaves input) faults s).grows
  | debitUsage input => exact (atomically_sameBatches (debitUsage_leaves hcall) faults s).grows
  | manualAdjust input =>
    have hgrows : (manualAdjustWallets input).wp walletDb.execAlone
        (Prog.onOk fun _ s' => GrowsBatches s s') s :=
      Prog.wp_mono _ (fun result _ hpost => by
        cases result with
        | error e => trivial
        | ok result => exact hpost.1) (manualAdjustWallets_reports hs)
    exact Prog.atomically_of_wp _ hgrows (SameBatches.refl s).grows faults

/-- Over a run of calls a batch stays, with the entries that it has. -/
theorem serveAll_keeps {calls : List (WalletRequest × List (Option Exception))}
    (hcalls : ∀ call ∈ calls, call.1.Sent) (hs : Numbered s) :
    Numbered (serveAll calls s) ∧ ∀ key batch, BatchRecorded key batch s →
      BatchRecorded key batch (serveAll calls s) ∧
        booked (serveAll calls s).1 batch.id = booked s.1 batch.id := by
  induction calls generalizing s with
  | nil => exact ⟨hs, fun _ _ hrecorded => ⟨hrecorded, rfl⟩⟩
  | cons call calls ih =>
    have hgrows := serve_grows (hcalls call List.mem_cons_self) hs call.2
    obtain ⟨hnumbered, hkept⟩ :=
      ih (fun c hc => hcalls c (List.mem_cons_of_mem _ hc)) (hs.grow hgrows)
    refine ⟨hnumbered, fun key batch hrecorded => ?_⟩
    obtain ⟨hlast, hbooked⟩ := hkept key batch (hrecorded.grow hgrows)
    exact ⟨hlast, hbooked.trans (funext (hgrows.old _ hrecorded.lt))⟩

theorem numbered_empty : Numbered (WalletStore.empty, 0) :=
  ⟨by simp [WalletStore.empty], fun _ _ _ => rfl⟩

end Serve

/-- A later call with the key of an adjustment writes nothing and reports the first batch: its
id, direction, amount and currency, and its entries for the users that the call names; with the
same users the report is the first one. -/
theorem adjustment_replayed (before later : List (WalletRequest × List (Option Exception)))
    (hbefore : ∀ call ∈ before, call.1.Sent) (hlater : ∀ call ∈ later, call.1.Sent)
    {input again : AdjustInput} {faults : List (Option Exception)} {first : AdjustResult}
    {s : WalletStore × ℕ}
    (hfirst : (manualAdjustWallets input).atomically walletDb.execAlone faults
      (serveAll before (WalletStore.empty, 0)) = (.ok first, s))
    (hkey : again.idempotencyKey = input.idempotencyKey) (hamount : 0 < again.amountKopecks)
    (hreason : jsLength again.trimmedReason ≤ 500) :
    ∃ result : AdjustResult,
      (manualAdjustWallets again).atomically walletDb.execAlone [] (serveAll later s) =
        (.ok result, ((serveAll later s).1, (serveAll later s).2 + 2)) ∧
      result.batchId = first.batchId ∧ result.direction = first.direction ∧
      result.amountKopecks = first.amountKopecks ∧ result.currency = first.currency ∧
      result.affectedCount = booked s.1 first.batchId again.userIds ∧
      result.skippedCount = again.userIds.length - result.affectedCount ∧
      (again.userIds = input.userIds → result = first) := by
  have hstart := (serveAll_keeps hbefore numbered_empty).1
  generalize serveAll before (WalletStore.empty, 0) = start at hfirst hstart
  obtain ⟨rows, counter⟩ := start
  have hpost := Prog.run_of_wp _ (@manualAdjustWallets_reports input _ _ hstart) faults
  have hrun : (manualAdjustWallets input).run walletDb.execAlone faults (rows, counter) =
      (.ok first, s) := by grind [Prog.atomically]
  rw [hrun] at hpost
  dsimp only at hpost
  obtain ⟨hgrows, batch, hrecorded, rfl⟩ := hpost
  obtain ⟨hlast, hbooked⟩ := (serveAll_keeps hlater (hstart.grow hgrows)).2 _ _ hrecorded
  rw [← hkey] at hlast
  refine ⟨batchReport batch (serveAll later s).1 again.userIds,
    manualAdjustWallets_replay hlast hamount hreason, rfl, rfl, rfl, rfl, congrFun hbooked _, rfl, ?_⟩
  intro husers
  unfold batchReport
  rw [hbooked, husers]

/-! ## A second request under the same key -/

def creditOne : AdjustInput where
  actorId := none
  targetType := "selected_users"
  userIds := ["u1"]
  direction := .credit
  amountKopecks := 100
  currency := "RUB"
  reason := none
  idempotencyKey := "k1"
  allowNegative := false

/-- The tables after the credit. -/
def credited : WalletStore × ℕ :=
  ((manualAdjustWallets creditOne).atomically walletDb.execAlone [] (WalletStore.empty, 0)).2

def debitMore : AdjustInput :=
  { creditOne with direction := .debit, amountKopecks := 500, allowNegative := true }

theorem adjustment_replayed_creditOne :
    ∃ result : AdjustResult,
      (manualAdjustWallets creditOne).atomically walletDb.execAlone []
          (serveAll [(.findOrCreateWallet "u2", [])] credited) =
        (.ok result, ((serveAll [(.findOrCreateWallet "u2", [])] credited).1,
          (serveAll [(.findOrCreateWallet "u2", [])] credited).2 + 2)) ∧
      result.affectedCount = 1 ∧ result.skippedCount = 0 := by
  have hfirst : (manualAdjustWallets creditOne).atomically walletDb.execAlone []
      (serveAll [] (WalletStore.empty, 0)) =
        (.ok ⟨1, 1, 0, .credit, 100, "RUB"⟩, credited) := rfl
  have hsent : ∀ call ∈
      [(WalletRequest.findOrCreateWallet "u2", ([] : List (Option Exception)))],
      call.1.Sent := by
    intro call hcall
    rw [List.mem_singleton.mp hcall]
    trivial
  have hkey : creditOne.idempotencyKey = creditOne.idempotencyKey := rfl
  obtain ⟨result, hrun, -, -, -, -, -, -, hsame⟩ :=
    adjustment_replayed [] _ (fun _ h => by cases h) hsent hfirst hkey (by decide) (by decide)
  refine ⟨result, hrun, ?_⟩
  rw [hsame rfl]
  exact ⟨rfl, rfl⟩

/-- The debit under the key of the credit is not made, and is counted as if it were. -/
theorem debit_counted_as_made :
    ((manualAdjustWallets debitMore).atomically walletDb.execAlone [] credited).2.1 =
        credited.1 ∧
      ∃ replayed made : AdjustResult,
        ((manualAdjustWallets debitMore).atomically walletDb.execAlone [] credited).1 =
          .ok replayed ∧
        ((manualAdjustWallets { debitMore with idempotencyKey := "k2" }).atomically
          walletDb.execAlone [] credited).1 = .ok made ∧
        replayed.affectedCount = made.affectedCount ∧
        replayed.skippedCount = made.skippedCount := by
  exact ⟨rfl, ⟨1, 1, 0, .credit, 100, "RUB"⟩, ⟨7, 1, 0, .debit, 500, "RUB"⟩, rfl, rfl, rfl, rfl⟩

end QuizMind
