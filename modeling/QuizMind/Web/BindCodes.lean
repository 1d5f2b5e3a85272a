import QuizMind.Table.OneTime
import QuizMind.Web.BindCodeCalls

/-! # Bind codes over all runs of one process

A code can be redeemed twice when a `SET` takes effect but fails: the record is in both
places, one redemption finds Redis turned off, the next one finds it back. A code is lost
when the `SET` is refused and Redis is back at the redemption: the script's `invalid`
deletes the record in memory. In a run whose redemptions all find memory and Redis
consistent, the two together keep the codes in custody (`OneTime.Custody`).
-/

namespace QuizMind.BindCodes

open Async

variable {env : Env}

/-! ## Runs -/

section Runs

variable {calls : List Call}

/-- Call number `n` issues the code, successfully, with the record. -/
def IssuedAt (env : Env) (calls : List Call) (n : ℕ) (code : String) (record : BindCodeRecord) :
    Prop :=
  ∃ input fault issued, calls[n]? = some (.issue code input fault) ∧
    (issueBindFallbackCode env code input fault (stateAt env calls n)).1 = .ok issued ∧
    record = issuedRecord env code input

/-- Call number `n` redeems the code with `ok: true`. -/
def RedeemedAt (env : Env) (calls : List Call) (n : ℕ) (code : String) : Prop :=
  ∃ input fault result redeemedAt, calls[n]? = some (.redeem input fault) ∧
    normalizeHeaderValue input.code = some code ∧
    (redeemBindFallbackCode env input fault (stateAt env calls n)).1 = .ok result redeemedAt

/-- The limit evicts the code in call number `n`. -/
def EvictedAt (env : Env) (calls : List Call) (n : ℕ) (code : String) : Prop :=
  ∃ issued input fault, calls[n]? = some (.issue issued input fault) ∧
    Evicts env issued input (stateAt env calls n) code

/-- In call number `n` a held record of the code has expired. -/
def ExpiredAt (env : Env) (calls : List Call) (n : ℕ) (code : String) : Prop :=
  ∃ call record, calls[n]? = some call ∧ Held (stateAt env calls n) code record ∧
    record.expiresAtMs ≤ call.nowMs

/-- Call number `n` redeems the code in the context of the record, and its call to Redis,
if there is one, does not fail. -/
def AttemptAt (env : Env) (calls : List Call) (n : ℕ) (code : String) (record : BindCodeRecord) :
    Prop :=
  ∃ input fault, calls[n]? = some (.redeem input fault) ∧
    normalizeHeaderValue input.code = some code ∧ MatchesContext env input record ∧
    (redisCall env input.nowMs fault (stateAt env calls n) = none ∨
      redisCall env input.nowMs fault (stateAt env calls n) = some .through)

/-- The random codes differ. -/
def DistinctCodes (calls : List Call) : Prop :=
  ∀ (m n : ℕ) code input fault input' fault', calls[m]? = some (Call.issue code input fault) →
    calls[n]? = some (Call.issue code input' fault') → m = n

/-- The clock does not go back. -/
def ClockRuns (calls : List Call) : Prop :=
  ∀ (m n : ℕ) (call call' : Call), m ≤ n → calls[m]? = some call → calls[n]? = some call' →
    call.nowMs ≤ call'.nowMs

/-- No code is redeemed twice. -/
def RedeemedAtMostOnce (env : Env) (calls : List Call) : Prop :=
  ∀ m n code, RedeemedAt env calls m code → RedeemedAt env calls n code → m = n

/-- A code that has been issued, and was not evicted, redeemed or attempted since, is
redeemed by an attempt before it expires, with the result it was issued for. -/
def Available (env : Env) (calls : List Call) : Prop :=
  ∀ i j code record, IssuedAt env calls i code record → i < j → AttemptAt env calls j code record →
    (∀ call, calls[j]? = some call → call.nowMs < record.expiresAtMs) →
    (∀ k, i ≤ k → k < j → ¬ EvictedAt env calls k code) →
    (∀ k, i < k → k < j → ¬ RedeemedAt env calls k code) →
    (∀ k, i < k → k < j → ¬ AttemptAt env calls k code record) →
    ∃ input fault redeemedAt, calls[j]? = some (.redeem input fault) ∧
      (redeemBindFallbackCode env input fault (stateAt env calls j)).1 =
        .ok record.result redeemedAt

/-- In every redemption memory and Redis are consistent. -/
def ConsistentRun (env : Env) (calls : List Call) : Prop :=
  ∀ n input fault code, calls[n]? = some (.redeem input fault) →
    normalizeHeaderValue input.code = some code →
    Consistent env code input fault (stateAt env calls n)

theorem stateAt_succ {n : ℕ} {call : Call} (h : calls[n]? = some call) :
    stateAt env calls (n + 1) = step env (stateAt env calls n) call := by
  unfold stateAt
  rw [List.take_add_one, h, List.foldl_append]
  rfl

theorem stateAt_end {n : ℕ} (h : calls[n]? = none) :
    stateAt env calls (n + 1) = stateAt env calls n := by
  unfold stateAt
  rw [List.take_add_one, h]
  simp

section

variable (hmode : isSharedStoreRequired env = false)
include hmode

theorem issuedAt_of_call {n : ℕ} {code : String}
    {input : IssueBindFallbackCodeInput} {fault : Fault Unit}
    (hcall : calls[n]? = some (.issue code input fault)) :
    IssuedAt env calls n code (issuedRecord env code input) := by
  obtain ⟨issued, hok⟩ := (issue_spec hmode).1
  exact ⟨input, fault, issued, hcall, hok, rfl⟩

theorem traced (hdist : DistinctCodes calls) :
    OneTime.Traced (fun n => Held (stateAt env calls n)) (IssuedAt env calls) where
  start := by
    rintro code record (h | h)
    all_goals cases h
  once := by
    rintro m n code record record' ⟨input, fault, -, hm, -, rfl⟩ ⟨input', fault', -, hn, -, rfl⟩
    have heq := hdist m n code input fault input' fault' hm hn
    subst heq
    rw [hm, Option.some.injEq, Call.issue.injEq] at hn
    exact ⟨rfl, by rw [hn.2.1]⟩
  origin := by
    intro n code record h
    cases hcall : calls[n]? with
    | none =>
      left
      rw [stateAt_end hcall] at h
      exact h
    | some call =>
      rw [stateAt_succ hcall] at h
      cases call with
      | issue issued input fault =>
        rcases held_of_issue hmode h with hbefore | ⟨rfl, hrec⟩
        · left
          exact hbefore
        · grind [issuedAt_of_call]
      | redeem input fault =>
        left
        exact held_of_redeem hmode h

/-- In a consistent run memory and Redis together keep the codes in custody. -/
theorem custody (hdist : DistinctCodes calls) (hcons : ConsistentRun env calls) :
    OneTime.Custody (fun n => Held (stateAt env calls n)) (IssuedAt env calls)
      (RedeemedAt env calls)
      (fun n code => EvictedAt env calls n code ∨ ExpiredAt env calls n code) where
  toTraced := traced hmode hdist
  issue := by
    rintro n code record ⟨input, fault, -, hcall, -, rfl⟩ hdropped
    rw [stateAt_succ hcall]
    refine issue_held hmode ?_
    intro hevicted
    exact hdropped (Or.inl ⟨code, input, fault, hcall, hevicted⟩)
  keep := by
    intro n code record h htaken hdropped
    cases hcall : calls[n]? with
    | none =>
      rw [stateAt_end hcall]
      exact h
    | some call =>
      have hlive : call.nowMs < record.expiresAtMs := by
        by_contra hexp
        exact hdropped (Or.inr ⟨call, record, hcall, h, not_lt.mp hexp⟩)
      rw [stateAt_succ hcall]
      cases call with
      | issue issued input fault =>
        have hne : code ≠ issued := by
          rintro rfl
          rcases (traced hmode hdist).issued_before h with ⟨m, hm, hissued⟩
          have heq := ((traced hmode hdist).once hissued (issuedAt_of_call hmode hcall)).1
          omega
        refine issue_keeps hmode h hne hlive ?_
        intro hevicted
        exact hdropped (Or.inl ⟨issued, input, fault, hcall, hevicted⟩)
      | redeem input fault =>
        by_cases hcode : normalizeHeaderValue input.code = some code
        · refine redeem_keeps hmode hcode (hcons n input fault code hcall hcode)
            (fun hr hr' => (traced hmode hdist).unique hr hr') h hlive ?_
          intro result redeemedAt hok
          exact htaken ⟨input, fault, result, redeemedAt, hcall, hcode, hok⟩
        obtain ⟨-, -, hmemory, hredis⟩ :=
          redeem_removes (stateAt env calls n) input fault hmode
        rcases h with hmem | hmem
        · exact Or.inl (hmemory _ hmem hlive hcode)
        · exact Or.inr (hredis code record hmem hcode)
  held_of_taken := by
    rintro n code ⟨input, fault, result, redeemedAt, hcall, hcode, hok⟩
    exact (redeem_takes hmode hcode (hcons n input fault code hcall hcode)
      (fun hr hr' => (traced hmode hdist).unique hr hr') hok).1
  take := by
    rintro n code ⟨input, fault, result, redeemedAt, hcall, hcode, hok⟩
    rw [stateAt_succ hcall]
    exact (redeem_takes hmode hcode (hcons n input fault code hcall hcode)
      (fun hr hr' => (traced hmode hdist).unique hr hr') hok).2

end

/-- Where memory and Redis are consistent at every redemption, no code is redeemed twice,
and none is lost. -/
theorem codes_in_custody (env : Env) (calls : List Call)
    (hmode : isSharedStoreRequired env = false) (hdistinct : DistinctCodes calls)
    (hclock : ClockRuns calls) (hconsistent : ConsistentRun env calls) :
    RedeemedAtMostOnce env calls ∧ Available env calls := by
  have hcustody := custody hmode hdistinct hconsistent
  constructor
  · intro m n code hm hn
    exact hcustody.taken_once hm hn
  intro i j code record hissued hij hattempt hlive hevicted hredeemed _
  obtain ⟨input, fault, hcall, hcode, hmatch, hredis⟩ := hattempt
  have hheld : Held (stateAt env calls j) code record := by
    refine hcustody.held_since hissued hij hredeemed ?_
    rintro k hik hkj (hdropped | ⟨call, held, hk, hheld, hexpired⟩)
    · exact hevicted k hik hkj hdropped
    -- what is held under the code is the issued record, and it expires after call `j`
    rcases hcustody.issued_before hheld with ⟨m, -, hissued'⟩
    have heq := (hcustody.once hissued' hissued).2
    have hnow := hlive _ hcall
    have hle := hclock k j _ _ (by omega) hk hcall
    rw [heq] at hexpired
    omega
  exact ⟨input, fault, input.nowMs, hcall,
    redeem_succeeds hmode hcode (hconsistent j input fault code hcall hcode)
      (fun hr hr' => hcustody.unique hr hr') hheld (hlive _ hcall) hmatch hredis⟩

theorem clockRuns_of_sorted (h : (calls.map Call.nowMs).Pairwise (· ≤ ·)) : ClockRuns calls := by
  intro m n call call' hle hm hn
  obtain ⟨hm', rfl⟩ := List.getElem?_eq_some_iff.mp hm
  obtain ⟨hn', rfl⟩ := List.getElem?_eq_some_iff.mp hn
  rcases Nat.eq_or_lt_of_le hle with heq | hlt
  · subst heq
    exact le_refl _
  · grind [List.pairwise_iff_getElem]

/-- One issue followed by redemptions. -/
def issueThenRedeem (issued : Call) (redemptions : List (RedeemBindFallbackCodeInput × Fault Unit)) :
    List Call :=
  issued :: redemptions.map fun r => .redeem r.1 r.2

theorem distinctCodes_issueThenRedeem (issued : Call)
    (redemptions : List (RedeemBindFallbackCodeInput × Fault Unit)) :
    DistinctCodes (issueThenRedeem issued redemptions) := by
  have hfirst : ∀ (n : ℕ) code input fault,
      (issueThenRedeem issued redemptions)[n]? = some (Call.issue code input fault) → n = 0 := by
    grind [issueThenRedeem]
  intro m n code input fault input' fault' hm hn
  rw [hfirst m _ _ _ hm, hfirst n _ _ _ hn]

end Runs

/-! ## A call that fails -/

section Failures

/-- Redis is configured and optional. -/
def optionalRedis : Env :=
  ⟨some "redis://localhost", some "optional", none, fun _ => none⟩

def issuedAtStart : IssueBindFallbackCodeInput := ⟨"{}", "i", none, none, none, none, 0⟩

def redemptionAt (nowMs : ℤ) : RedeemBindFallbackCodeInput :=
  ⟨some "bindc_a", some "i", none, none, none, nowMs⟩

/-- The answer to the `SET` is lost; the code is redeemed while Redis is off and again when
it is back. -/
def setLost : List Call :=
  issueThenRedeem (.issue "bindc_a" issuedAtStart (.lost ()))
    [(redemptionAt 1000, .through), (redemptionAt 40000, .through)]

/-- The `SET` is refused; the code is redeemed when Redis is back. -/
def setRefused : List Call :=
  issueThenRedeem (.issue "bindc_a" issuedAtStart (.refused ())) [(redemptionAt 40000, .through)]

/-- The `SET` is refused; the code is redeemed while Redis is off. -/
def setRefusedThenOff : List Call :=
  issueThenRedeem (.issue "bindc_a" issuedAtStart (.refused ())) [(redemptionAt 1000, .through)]

theorem redeemed_twice_or_lost : (isSharedStoreRequired optionalRedis = false) ∧
      (DistinctCodes setLost ∧ ClockRuns setLost ∧ ¬ RedeemedAtMostOnce optionalRedis setLost) ∧
      (DistinctCodes setRefused ∧ ClockRuns setRefused ∧ ¬ Available optionalRedis setRefused) := by
  refine ⟨by decide, ⟨distinctCodes_issueThenRedeem _ _, clockRuns_of_sorted (by decide), ?_⟩,
    distinctCodes_issueThenRedeem _ _, clockRuns_of_sorted (by decide), ?_⟩
  · intro honce
    have hfromMemory : RedeemedAt optionalRedis setLost 1 "bindc_a" :=
      ⟨redemptionAt 1000, .through, "{}", 1000, rfl, by decide, by decide⟩
    have hfromRedis : RedeemedAt optionalRedis setLost 2 "bindc_a" :=
      ⟨redemptionAt 40000, .through, "{}", 40000, rfl, by decide, by decide⟩
    have heq := honce 1 2 _ hfromMemory hfromRedis
    omega
  intro havailable
  have hissued : IssuedAt optionalRedis setRefused 0 "bindc_a"
      (issuedRecord optionalRedis "bindc_a" issuedAtStart) :=
    issuedAt_of_call (by decide) rfl
  have hattempt : AttemptAt optionalRedis setRefused 1 "bindc_a"
      (issuedRecord optionalRedis "bindc_a" issuedAtStart) :=
    ⟨redemptionAt 40000, .through, rfl, by decide, by unfold MatchesContext; decide,
      Or.inr (by decide)⟩
  obtain ⟨input, fault, redeemed, hcall, hok⟩ := havailable 0 1 _ _ hissued (by omega) hattempt
    (by
      intro call hcall
      obtain rfl := Option.some.inj hcall
      decide)
    (by
      rintro k - hk ⟨issued, input, fault, hcall, hmem, hgone⟩
      have hzero : k = 0 := by omega
      subst hzero
      exact hgone hmem)
    (by omega) (by omega)
  obtain ⟨rfl, rfl⟩ := Call.redeem.inj (Option.some.inj hcall)
  cases hok

theorem codes_in_custody_setRefusedThenOff : RedeemedAtMostOnce optionalRedis setRefusedThenOff ∧
      Available optionalRedis setRefusedThenOff := by
  refine codes_in_custody optionalRedis setRefusedThenOff (by decide)
    (distinctCodes_issueThenRedeem _ _) (clockRuns_of_sorted (by decide)) ?_
  intro n input fault code hcall hcode
  have hone : n = 1 := by
    rcases n with _ | _ | n
    · cases hcall
    · rfl
    · cases hcall
  subst hone
  obtain ⟨rfl, rfl⟩ := Call.redeem.inj (Option.some.inj hcall)
  have hcall : redisCall optionalRedis 1000 .through (stateAt optionalRedis setRefusedThenOff 1) =
      none := by decide
  have hredis : (stateAt optionalRedis setRefusedThenOff 1).redis = [] := by decide
  constructor
  · rintro - ⟨record, hmem, -⟩
    rw [hredis] at hmem
    cases hmem
  all_goals
    intro h
    exact absurd (hcall.symm.trans h) nofun

end Failures

end QuizMind.BindCodes
