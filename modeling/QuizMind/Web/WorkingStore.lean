import QuizMind.Web.BindCodes

/-! # Bind codes while the store works

Where no call to Redis fails, the codes are in Redis only, or, without a Redis, in memory only.
So a code that has been issued is redeemed by the first call that gives its context, unless it
has expired or the limit of the memory has evicted it (`redeem_ok_iff`).
-/

namespace QuizMind.BindCodes

open Async

variable {env : Env} {calls : List Call} {s : Stores}

/-! ## One place -/

def Call.fault : Call → Fault Unit
  | .issue _ _ fault => fault
  | .redeem _ fault => fault

/-- No call to Redis fails; the clock shows times since the epoch. -/
def NoCallFails (calls : List Call) : Prop := ∀ call ∈ calls, call.fault = .through ∧ 0 ≤ call.nowMs

/-- Redis is not turned off, and one of the two places is not in use. -/
structure Working (env : Env) (s : Stores) : Prop where
  enabled : s.redisStoreDisabledUntilMs = 0
  shared : (resolveRedisUrl env).isSome = true → s.bindCodeRecords = []
  alone : resolveRedisUrl env = none → s.redis = []

theorem working_shared (hurl : (resolveRedisUrl env).isSome = true)
    (henabled : s.redisStoreDisabledUntilMs = 0) (hmemory : s.bindCodeRecords = []) :
    Working env s where
  enabled := henabled
  shared _ := hmemory
  alone hnone := by
    rw [hnone] at hurl
    cases hurl

theorem working_alone (hurl : resolveRedisUrl env = none)
    (henabled : s.redisStoreDisabledUntilMs = 0) (hredis : s.redis = []) : Working env s where
  enabled := henabled
  shared hsome := by
    rw [hurl] at hsome
    cases hsome
  alone _ := hredis

variable (env) in
theorem asksRedis_of_enabled (henabled : s.redisStoreDisabledUntilMs = 0) {nowMs : ℤ}
    (hnow : 0 ≤ nowMs) : asksRedis env nowMs s = (resolveRedisUrl env).isSome := by
  unfold asksRedis
  rw [henabled]
  have hon : ¬ nowMs < 0 := not_lt.mpr hnow
  simp [hon]

section Calls

variable {ρ : Type} {nowMs : ℤ} (operation : Records → ρ × Records)

theorem withRedisStore_shared (hurl : (resolveRedisUrl env).isSome = true)
    (henabled : s.redisStoreDisabledUntilMs = 0) (hnow : 0 ≤ nowMs) :
    withRedisStore env nowMs .through operation s =
      (some (operation s.redis).1, { s with redis := (operation s.redis).2 }) := by
  have hasks := asksRedis_of_enabled env henabled hnow
  unfold withRedisStore
  rw [hasks, hurl]
  rfl

theorem withRedisStore_alone (hurl : resolveRedisUrl env = none) (fault : Fault Unit) :
    withRedisStore env nowMs fault operation s = (none, s) := by
  unfold withRedisStore asksRedis
  rw [hurl]
  simp

end Calls

theorem working_empty : Working env emptyStores where
  enabled := rfl
  shared _ := rfl
  alone _ := rfl

variable (env) in
/-- The new code alone is below the limit. -/
theorem trimStoreToLimit_of_empty (hmemory : s.bindCodeRecords = []) (code : String)
    (input : IssueBindFallbackCodeInput) :
    trimStoreToLimit (recordsWithCode env code input s) = [(code, issuedRecord env code input)] := by
  unfold recordsWithCode pruneExpiredBindCodes
  rw [hmemory]
  rfl

/-! ## One call -/

section Issue

variable (code : String) {input : IssueBindFallbackCodeInput}

/-- With a Redis the code is issued, and it is in Redis only. -/
theorem issue_shared (hurl : (resolveRedisUrl env).isSome = true) (hworking : Working env s)
    (hnow : 0 ≤ input.nowMs) :
    issueBindFallbackCode env code input .through s =
      (.ok ⟨code, (issuedRecord env code input).expiresAtMs, clampTtlSeconds input.ttlSeconds,
          "/bff/extension/bind/redeem"⟩,
        { s with
          redis := GroupBy.accumulate s.redis (buildRedisKey code) (issuedRecord env code input)
            fun _ => issuedRecord env code input }) := by
  have hmemory := hworking.shared hurl
  have hsole := trimStoreToLimit_of_empty env hmemory code input
  have henabled : ({ s with
      bindCodeRecords := trimStoreToLimit (recordsWithCode env code input s) } :
        Stores).redisStoreDisabledUntilMs = 0 := hworking.enabled
  unfold issueBindFallbackCode
  dsimp only
  rw [withRedisStore_shared _ hurl henabled hnow, hsole]
  have hremoved : GroupBy.remove [(code, issuedRecord env code input)] code = [] := by
    simp [GroupBy.remove]
  dsimp only
  rw [hremoved, ← hmemory]

/-- Without a Redis the code is in memory, where the mode allows it. -/
theorem issue_alone (hurl : resolveRedisUrl env = none) (hmode : isSharedStoreRequired env = false)
    (fault : Fault Unit) :
    (issueBindFallbackCode env code input fault s).2.bindCodeRecords =
      trimStoreToLimit (recordsWithCode env code input s) := by
  grind [issueBindFallbackCode, withRedisStore_alone]

theorem working_issue (hworking : Working env s) (hnow : 0 ≤ input.nowMs) :
    Working env (issueBindFallbackCode env code input .through s).2 := by
  cases hurl : resolveRedisUrl env with
  | some url =>
    have hsome : (resolveRedisUrl env).isSome = true := by
      rw [hurl]
      rfl
    rw [issue_shared code hsome hworking hnow]
    exact working_shared hsome hworking.enabled (hworking.shared hsome)
  | none =>
    unfold issueBindFallbackCode
    dsimp only
    rw [withRedisStore_alone _ hurl]
    dsimp only
    split
    all_goals exact working_alone hurl hworking.enabled (hworking.alone hurl)

end Issue

section Redeem

variable {input : RedeemBindFallbackCodeInput}

/-- Without a failure a redemption turns nothing off. -/
theorem working_redeem (hworking : Working env s) (hnow : 0 ≤ input.nowMs) :
    Working env (redeemBindFallbackCode env input .through s).2 := by
  cases hurl : resolveRedisUrl env with
  | some url =>
    have hsome : (resolveRedisUrl env).isSome = true := by
      rw [hurl]
      rfl
    have hmemory := hworking.shared hsome
    have henabled : ({ s with
        bindCodeRecords := pruneExpiredBindCodes input.nowMs s.bindCodeRecords } :
          Stores).redisStoreDisabledUntilMs = 0 := hworking.enabled
    have hpruned : pruneExpiredBindCodes input.nowMs s.bindCodeRecords = [] := by
      rw [hmemory]
      rfl
    unfold redeemBindFallbackCode
    dsimp only
    split
    · exact working_shared hsome hworking.enabled hpruned
    next code _ =>
      rw [withRedisStore_shared _ hsome henabled hnow]
      have hremoved : GroupBy.remove (pruneExpiredBindCodes input.nowMs s.bindCodeRecords) code =
          [] := by
        rw [hpruned]
        rfl
      cases (redeemInRedis env code input s.redis).1 with
      | ok record | invalid => exact working_shared hsome hworking.enabled hremoved
      | mismatch field => exact working_shared hsome hworking.enabled hpruned
  | none =>
    unfold redeemBindFallbackCode
    dsimp only
    split
    · exact working_alone hurl hworking.enabled (hworking.alone hurl)
    rw [withRedisStore_alone _ hurl]
    dsimp only
    split
    all_goals exact working_alone hurl hworking.enabled (hworking.alone hurl)

end Redeem

/-! ## Runs -/

theorem working_step (hworking : Working env s) {call : Call} (hthrough : call.fault = .through)
    (hnow : 0 ≤ call.nowMs) : Working env (step env s call) := by
  cases call with
  | issue code input fault =>
    have hfault : fault = .through := hthrough
    subst hfault
    exact working_issue code hworking hnow
  | redeem input fault =>
    have hfault : fault = .through := hthrough
    subst hfault
    exact working_redeem hworking hnow

theorem working_stateAt (hworks : NoCallFails calls) (n : ℕ) : Working env (stateAt env calls n) := by
  induction n with
  | zero => exact working_empty
  | succ n ih =>
    cases hcall : calls[n]? with
    | none =>
      rw [stateAt_end hcall]
      exact ih
    | some call =>
      have hmem : call ∈ calls := List.mem_of_getElem? hcall
      rw [stateAt_succ hcall]
      exact working_step ih (hworks call hmem).1 (hworks call hmem).2

variable {input : RedeemBindFallbackCodeInput}

theorem consistent_of_working (hworking : Working env s)
    (hnow : 0 ≤ input.nowMs) (code : String) : Consistent env code input .through s where
  notAsked hcall := by
    unfold redisCall at hcall
    rw [asksRedis_of_enabled env hworking.enabled hnow] at hcall
    cases hurl : resolveRedisUrl env with
    | none =>
      rw [hworking.alone hurl]
      rintro ⟨record, hmem, -⟩
      cases hmem
    | some url =>
      rw [hurl] at hcall
      cases hcall
  through hcall := by
    unfold redisCall at hcall
    rw [asksRedis_of_enabled env hworking.enabled hnow] at hcall
    cases hurl : (resolveRedisUrl env).isSome with
    | false =>
      rw [hurl] at hcall
      cases hcall
    | true =>
      rw [hworking.shared hurl]
      rintro ⟨record, hmem, -⟩
      cases hmem
  refused hcall := by grind [redisCall]
  lost hcall := by grind [redisCall]

theorem consistentRun_of_working (hworks : NoCallFails calls) : ConsistentRun env calls := by
  intro n input fault code hcall _
  have hmem : Call.redeem input fault ∈ calls := List.mem_of_getElem? hcall
  obtain ⟨hthrough, hnow⟩ := hworks _ hmem
  have hfault : fault = .through := hthrough
  subst hfault
  exact consistent_of_working (working_stateAt hworks n) hnow code

variable {code : String}

/-- A code that has been evicted is held no longer. -/
theorem not_held_of_evicted (hworks : NoCallFails calls) (hmode : isSharedStoreRequired env = false)
    {k : ℕ} (hevicted : EvictedAt env calls k code) (record : BindCodeRecord) :
    ¬ Held (stateAt env calls (k + 1)) code record := by
  obtain ⟨issued, input, fault, hcall, hstored, hgone⟩ := hevicted
  have hworking : Working env (stateAt env calls k) := working_stateAt hworks k
  have hafter : Working env (stateAt env calls (k + 1)) := working_stateAt hworks (k + 1)
  cases hurl : resolveRedisUrl env with
  | some url =>
    -- with a Redis the memory is empty, and a single code is not evicted
    have hmemory := hworking.shared (by rw [hurl]; rfl)
    have hsame : trimStoreToLimit (recordsWithCode env issued input (stateAt env calls k)) =
        recordsWithCode env issued input (stateAt env calls k) := by
      unfold recordsWithCode
      rw [hmemory]
      rfl
    rw [hsame] at hgone
    exact absurd hstored hgone
  | none =>
    rintro (hheld | hheld)
    · rw [stateAt_succ hcall, step, issue_alone issued hurl hmode] at hheld
      exact hgone (List.mem_map_of_mem hheld)
    · rw [hafter.alone hurl] at hheld
      cases hheld

variable {record : BindCodeRecord}

/-- A code is evicted after it was issued. -/
theorem issued_le_evicted (hmode : isSharedStoreRequired env = false)
    (hdist : DistinctCodes calls) {i k : ℕ}
    (hissued : IssuedAt env calls i code record) (hevicted : EvictedAt env calls k code) : i ≤ k := by
  obtain ⟨issued, input, fault, hcall, hstored, -⟩ := hevicted
  obtain ⟨r, hr, hkey⟩ := List.mem_map.mp hstored
  rcases mem_recordsWithCode hr with hnew | hold
  · have hcode : issued = code := by
      rw [← hkey, hnew]
    subst hcode
    exact ((traced hmode hdist).once hissued (issuedAt_of_call hmode hcall)).1.le
  have hheld : Held (stateAt env calls k) code r.2 := by
    rw [← hkey]
    exact Or.inl hold
  obtain ⟨m, hm, hissued'⟩ := (traced hmode hdist).issued_before hheld
  rw [((traced hmode hdist).once hissued hissued').1]
  exact hm.le

section Redemption

variable {i : ℕ} {code : String} {record : BindCodeRecord} {input : RedeemBindFallbackCodeInput}

/-- In the optional mode, a code that was not redeemed before is redeemed unless it was
evicted. -/
theorem redeem_ok_iff_of_optional (hmode : isSharedStoreRequired env = false)
    (hworks : NoCallFails calls) (hdist : DistinctCodes calls)
    (hissued : IssuedAt env calls i code record)
    (hfirst : ∀ k, ¬ RedeemedAt env calls k code) (htimes : ∀ call ∈ calls, call.nowMs ≤ input.nowMs)
    (hcode : normalizeHeaderValue input.code = some code) (hmatch : MatchesContext env input record)
    (hnow : 0 ≤ input.nowMs) (hlive : input.nowMs < record.expiresAtMs) (result : String)
    (redeemedAt : ℤ) :
    (redeemBindFallbackCode env input .through (stateAt env calls calls.length)).1 =
        .ok result redeemedAt ↔
      (result = record.result ∧ redeemedAt = input.nowMs) ∧ ∀ k, ¬ EvictedAt env calls k code := by
  have hcustody := custody hmode hdist (consistentRun_of_working hworks)
  have hworking : Working env (stateAt env calls calls.length) := working_stateAt hworks _
  have hcons := consistent_of_working hworking hnow code
  have hlen : i < calls.length := by
    obtain ⟨_, _, _, hcall, -⟩ := hissued
    exact (List.getElem?_eq_some_iff.mp hcall).1
  have hsucceeds : (∀ k, ¬ EvictedAt env calls k code) →
      (redeemBindFallbackCode env input .through (stateAt env calls calls.length)).1 =
        .ok record.result input.nowMs := by
    intro hevicted
    have hheld : Held (stateAt env calls calls.length) code record := by
      refine hcustody.held_since hissued hlen (fun k _ _ => hfirst k) ?_
      rintro k - - (hdropped | ⟨call, held, hk, hheld, hexp⟩)
      · exact hevicted k hdropped
      -- what is held under the code is the issued record, and it has not expired yet
      obtain ⟨m, -, hissued'⟩ := hcustody.issued_before hheld
      have heq := (hcustody.once hissued' hissued).2
      have hle := htimes call (List.mem_of_getElem? hk)
      rw [heq] at hexp
      omega
    have hcall : redisCall env input.nowMs .through (stateAt env calls calls.length) = none ∨
        redisCall env input.nowMs .through (stateAt env calls calls.length) = some .through := by
      simp [redisCall]
    exact redeem_succeeds hmode hcode hcons (fun hr hr' => hcustody.unique hr hr') hheld hlive
      hmatch hcall
  constructor
  · intro hok
    have hevicted : ∀ k, ¬ EvictedAt env calls k code := by
      intro k hevicted
      have hk := issued_le_evicted hmode hdist hissued hevicted
      obtain ⟨⟨held, hheld⟩, -⟩ := redeem_takes hmode hcode hcons
        (fun hr hr' => hcustody.unique hr hr') hok
      have hlt : k + 1 ≤ calls.length := by
        obtain ⟨_, _, _, hcall, -⟩ := hevicted
        exact (List.getElem?_eq_some_iff.mp hcall).1
      obtain ⟨j, hj, hissued'⟩ := hcustody.issued_since (not_held_of_evicted hworks hmode hevicted)
        hlt hheld
      have heq := (hcustody.once hissued hissued').1
      omega
    have hres := hsucceeds hevicted
    rw [hok, RedeemBindFallbackCodeResult.ok.injEq] at hres
    exact ⟨hres, hevicted⟩
  · grind

end Redemption

/-! ## A required store -/

/-- The environment with the optional mode. -/
def asOptional (env : Env) : Env :=
  { env with QUIZMIND_EXTENSION_BIND_CODE_STORE_MODE := some "optional" }

theorem isSharedStoreRequired_asOptional (env : Env) :
    isSharedStoreRequired (asOptional env) = false := by
  have hmode : (some "optional").map (fun mode => toLowerCase (jsTrim mode)) =
      some "optional" := by decide
  unfold isSharedStoreRequired asOptional
  rw [hmode, if_neg (by decide), if_pos rfl]

section Shared

variable (hurl : (resolveRedisUrl env).isSome = true)

include hurl

theorem issue_asOptional (hworking : Working env s) {input : IssueBindFallbackCodeInput}
    (hnow : 0 ≤ input.nowMs) (code : String) :
    issueBindFallbackCode (asOptional env) code input .through s =
      issueBindFallbackCode env code input .through s := by
  have hworking' : Working (asOptional env) s := ⟨hworking.enabled, hworking.shared, hworking.alone⟩
  rw [issue_shared code hurl hworking hnow]
  exact issue_shared code hurl hworking' hnow

/-- The mode matters only where Redis gives no answer. -/
theorem redeem_asOptional (hworking : Working env s) {input : RedeemBindFallbackCodeInput}
    (hnow : 0 ≤ input.nowMs) :
    redeemBindFallbackCode (asOptional env) input .through s =
      redeemBindFallbackCode env input .through s := by
  have henabled : ({ s with
      bindCodeRecords := pruneExpiredBindCodes input.nowMs s.bindCodeRecords } :
        Stores).redisStoreDisabledUntilMs = 0 := hworking.enabled
  have hurl' : (resolveRedisUrl (asOptional env)).isSome = true := hurl
  unfold redeemBindFallbackCode
  cases normalizeHeaderValue input.code with
  | none => rfl
  | some code =>
    dsimp only
    rw [withRedisStore_shared _ hurl henabled hnow, withRedisStore_shared _ hurl' henabled hnow]
    have hscript : redeemInRedis (asOptional env) code input s.redis =
        redeemInRedis env code input s.redis := rfl
    rw [hscript]
    cases (redeemInRedis env code input s.redis).1 with
    | _ => rfl

theorem stateAt_asOptional (hworks : NoCallFails calls) (n : ℕ) :
    stateAt (asOptional env) calls n = stateAt env calls n := by
  induction n with
  | zero => rfl
  | succ n ih =>
    cases hcall : calls[n]? with
    | none => rw [stateAt_end hcall, stateAt_end hcall, ih]
    | some call =>
      have hworking : Working env (stateAt env calls n) := working_stateAt hworks n
      obtain ⟨hthrough, hnow⟩ := hworks call (List.mem_of_getElem? hcall)
      rw [stateAt_succ hcall, stateAt_succ hcall, ih]
      cases call with
      | issue code input fault =>
        have hfault : fault = .through := hthrough
        subst hfault
        exact congrArg Prod.snd (issue_asOptional hurl hworking hnow code)
      | redeem input fault =>
        have hfault : fault = .through := hthrough
        subst hfault
        exact congrArg Prod.snd (redeem_asOptional hurl hworking hnow)

theorem redeemedAt_asOptional (hworks : NoCallFails calls) {k : ℕ} {code : String}
    (h : RedeemedAt (asOptional env) calls k code) : RedeemedAt env calls k code := by
  obtain ⟨input, fault, result, redeemedAt, hcall, hcode, hok⟩ := h
  have hworking : Working env (stateAt env calls k) := working_stateAt hworks k
  obtain ⟨hthrough, hnow⟩ := hworks _ (List.mem_of_getElem? hcall)
  have hfault : fault = .through := hthrough
  subst hfault
  rw [stateAt_asOptional hurl hworks, redeem_asOptional hurl hworking hnow] at hok
  exact ⟨input, .through, result, redeemedAt, hcall, hcode, hok⟩

theorem evictedAt_asOptional (hworks : NoCallFails calls) (k : ℕ) (code : String) :
    EvictedAt (asOptional env) calls k code ↔ EvictedAt env calls k code := by
  unfold EvictedAt
  rw [stateAt_asOptional hurl hworks]
  exact Iff.rfl

end Shared

/-- While no call to Redis fails, a code that was issued and not redeemed before is redeemed in
its context unless the limit of the memory has evicted it. -/
theorem redeem_ok_iff (hworks : NoCallFails calls) (hdist : DistinctCodes calls) {i : ℕ}
    (hissued : IssuedAt env calls i code record) (hfirst : ∀ k, ¬ RedeemedAt env calls k code)
    (htimes : ∀ call ∈ calls, call.nowMs ≤ input.nowMs)
    (hcode : normalizeHeaderValue input.code = some code) (hmatch : MatchesContext env input record)
    (hnow : 0 ≤ input.nowMs) (hlive : input.nowMs < record.expiresAtMs) (result : String)
    (redeemedAt : ℤ) :
    (redeemBindFallbackCode env input .through (stateAt env calls calls.length)).1 =
        .ok result redeemedAt ↔
      (result = record.result ∧ redeemedAt = input.nowMs) ∧ ∀ k, ¬ EvictedAt env calls k code := by
  cases hmode : isSharedStoreRequired env with
  | false =>
    exact redeem_ok_iff_of_optional hmode hworks hdist hissued hfirst htimes hcode hmatch hnow
      hlive result redeemedAt
  | true =>
    cases hurl : resolveRedisUrl env with
    | none =>
      -- a required store that is not there issues no code
      obtain ⟨issue, fault, issued, -, hok, -⟩ := hissued
      unfold issueBindFallbackCode at hok
      dsimp only at hok
      rw [withRedisStore_alone _ hurl] at hok
      simp [hmode] at hok
    | some url =>
      have hsome : (resolveRedisUrl env).isSome = true := by
        rw [hurl]
        rfl
      have hworking : Working env (stateAt env calls calls.length) := working_stateAt hworks _
      obtain ⟨issue, fault, issued, hcall, -, hrec⟩ := hissued
      have hissued' : IssuedAt (asOptional env) calls i code record := by
        rw [hrec]
        exact issuedAt_of_call (isSharedStoreRequired_asOptional env) hcall
      have hfirst' : ∀ k, ¬ RedeemedAt (asOptional env) calls k code := fun k h =>
        hfirst k (redeemedAt_asOptional hsome hworks h)
      have hsame := redeem_ok_iff_of_optional (isSharedStoreRequired_asOptional env) hworks
        hdist hissued' hfirst' htimes hcode hmatch hnow hlive result redeemedAt
      rw [stateAt_asOptional hsome hworks, redeem_asOptional hsome hworking hnow] at hsame
      simpa only [evictedAt_asOptional hsome hworks] using hsame

end QuizMind.BindCodes
