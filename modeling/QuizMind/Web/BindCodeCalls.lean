import QuizMind.Web.BindCodeStore

/-! # What one call does to the bind codes

A record is in two places, memory and Redis, in combinations that depend on which calls to
Redis failed. `Held` says that one of them holds it. For each operation: what it adds, what
it removes, and, where the two places stand to each other as `Consistent` says, what a
redemption takes and what it keeps.
-/

namespace QuizMind.BindCodes

open Async
open GroupBy (accumulate mem_remove remove)

variable {env : Env} {s : Stores}

/-! ## What a call says about its code -/

/-- The call to Redis that an operation makes; `none` when it makes none. -/
def redisCall (env : Env) (nowMs : ℤ) (fault : Fault Unit) (s : Stores) : Option (Fault Unit) :=
  if asksRedis env nowMs s then some fault else none

/-- The context of a redemption matches a record. -/
def MatchesContext (env : Env) (input : RedeemBindFallbackCodeInput) (record : BindCodeRecord) :
    Prop :=
  contextMismatch record (normalizeHeaderValue input.installationId)
    (normalizeHeaderValue input.requestId) (normalizeHeaderValue input.bridgeNonce)
    (normalizeBridgeOrigin env input.requestOrigin) = none

/-- Some record under the key has not expired. -/
def Unexpired (records : Records) (key : String) (nowMs : ℤ) : Prop :=
  ∃ record, (key, record) ∈ records ∧ nowMs < record.expiresAtMs

/-- Some record under the key has not expired and matches the redemption. -/
def Redeemable (env : Env) (records : Records) (key : String)
    (input : RedeemBindFallbackCodeInput) : Prop :=
  ∃ record, (key, record) ∈ records ∧ input.nowMs < record.expiresAtMs ∧
    MatchesContext env input record

/-- How memory and Redis have to stand to each other before a redemption. -/
structure Consistent (env : Env) (code : String) (input : RedeemBindFallbackCodeInput)
    (fault : Fault Unit) (s : Stores) : Prop where
  notAsked : redisCall env input.nowMs fault s = none →
    ¬ Redeemable env s.redis (buildRedisKey code) input
  through : redisCall env input.nowMs fault s = some .through →
    Unexpired s.bindCodeRecords code input.nowMs →
      Unexpired s.redis (buildRedisKey code) input.nowMs
  refused : redisCall env input.nowMs fault s = some (.refused ()) →
    Redeemable env s.bindCodeRecords code input →
      ¬ Redeemable env s.redis (buildRedisKey code) input
  lost : redisCall env input.nowMs fault s = some (.lost ()) →
    Redeemable env s.redis (buildRedisKey code) input → Redeemable env s.bindCodeRecords code input

/-- A place holds the record under the code. -/
def Held (s : Stores) (code : String) (record : BindCodeRecord) : Prop :=
  (code, record) ∈ s.bindCodeRecords ∨ (buildRedisKey code, record) ∈ s.redis

theorem buildRedisKey_inj {code code' : String} (h : buildRedisKey code = buildRedisKey code') :
    code = code' := by
  unfold buildRedisKey at h
  have hlist := congrArg String.toList h
  rw [String.toList_append, String.toList_append] at hlist
  exact String.toList_inj.mp (List.append_cancel_left hlist)

/-! ## The call to Redis -/

section Redis

variable {ρ : Type} {nowMs : ℤ} {fault : Fault Unit}

theorem withRedisStore_through (h : redisCall env nowMs fault s = some .through)
    (operation : Records → ρ × Records) :
    withRedisStore env nowMs fault operation s =
      (some (operation s.redis).1, { s with redis := (operation s.redis).2 }) := by
  unfold redisCall at h
  unfold withRedisStore
  by_cases hasks : asksRedis env nowMs s = true
  · rw [if_pos hasks, Option.some.injEq] at h
    rw [if_pos hasks, h]
    rfl
  · rw [if_neg hasks] at h
    cases h

/-- Where the call does not go through, the caller sees nothing, and Redis has changed only
if the call was lost. -/
theorem withRedisStore_failed (h : redisCall env nowMs fault s ≠ some .through)
    (operation : Records → ρ × Records) :
    ∃ after : Stores, withRedisStore env nowMs fault operation s = (none, after) ∧
      after.bindCodeRecords = s.bindCodeRecords ∧
      after.redis = if redisCall env nowMs fault s = some (.lost ()) then (operation s.redis).2
        else s.redis := by
  unfold redisCall at h ⊢
  unfold withRedisStore
  by_cases hasks : asksRedis env nowMs s = true
  · rw [if_pos hasks] at h
    simp only [if_pos hasks]
    cases fault with
    | through => exact absurd rfl h
    | refused e | lost e => exact ⟨_, rfl, rfl, rfl⟩
  · grind

end Redis

/-! ## The script -/

/-- The script's comparison is that of the redemption from memory. -/
theorem scriptMismatch_eq (record : BindCodeRecord)
    (installationId requestId bridgeNonce requestOrigin : Option String) :
    scriptMismatch record (installationId.getD "") (requestId.getD "") (bridgeNonce.getD "")
        (requestOrigin.getD "") =
      contextMismatch record installationId requestId bridgeNonce requestOrigin := by
  have hdiffers : ∀ expected given : Option String,
      argumentDiffers expected (given.getD "") = requestDiffers expected given := by
    intro expected given
    unfold argumentDiffers requestDiffers
    cases expected with
    | none => rfl
    | some value =>
      cases given with
      | none => simp
      | some given => simp [eq_comm]
  have hinst : (installationId.getD "" ≠ "" ∧
      record.installationId ≠ installationId.getD "") ↔
      (installationId.any fun given => given ≠ "" && given ≠ record.installationId) = true := by
    cases installationId with
    | none => simp
    | some given => grind
  unfold scriptMismatch contextMismatch
  simp only [hdiffers, hinst]

section Script

variable {code : String} {input : RedeemBindFallbackCodeInput} {redis : Records}

variable {record : BindCodeRecord}

/-- A record that the script gives is redeemable, and Redis has it no longer. -/
theorem redeemInRedis_ok (h : (redeemInRedis env code input redis).1 = .ok record) :
    (buildRedisKey code, record) ∈ redis ∧ input.nowMs < record.expiresAtMs ∧
      MatchesContext env input record ∧
      (redeemInRedis env code input redis).2 = remove redis (buildRedisKey code) := by
  unfold redeemInRedis redeemBindCodeScript at h ⊢
  cases hlook : redis.lookup (buildRedisKey code) with
  | none => rw [hlook] at h; cases h
  | some decoded =>
    rw [hlook] at h
    simp only [scriptMismatch_eq] at h ⊢
    by_cases hexp : decoded.expiresAtMs ≤ input.nowMs
    · rw [if_pos hexp] at h
      cases h
    rw [if_neg hexp] at h ⊢
    split at h
    · cases h
    next hmatch =>
      simp only [ScriptReply.ok.injEq] at h
      subst h
      exact ⟨GroupBy.mem_of_lookup hlook, by omega, hmatch, rfl⟩

variable (env) in
/-- What the script does to the one record that Redis holds under the key. -/
theorem redeemInRedis_of_mem (hmem : (buildRedisKey code, record) ∈ redis)
    (hunique : ∀ r, (buildRedisKey code, r) ∈ redis → r = record)
    (hlive : input.nowMs < record.expiresAtMs) :
    (MatchesContext env input record ∧ (redeemInRedis env code input redis).1 = .ok record) ∨
      (¬ MatchesContext env input record ∧
        (∃ field, (redeemInRedis env code input redis).1 = .mismatch field) ∧
        (redeemInRedis env code input redis).2 = redis) := by
  have hlook := GroupBy.lookup_of_unique hmem hunique
  have hexp : ¬ record.expiresAtMs ≤ input.nowMs := by omega
  unfold redeemInRedis redeemBindCodeScript MatchesContext
  rw [hlook]
  simp only [scriptMismatch_eq, if_neg hexp]
  split
  · grind
  next hmatch =>
    left
    exact ⟨hmatch, rfl⟩

/-- The script only ever removes its key. -/
theorem redeemInRedis_cases : (redeemInRedis env code input redis).2 = redis ∨
    (redeemInRedis env code input redis).2 = remove redis (buildRedisKey code) := by
  unfold redeemInRedis redeemBindCodeScript
  split
  · left; rfl
  split
  · right; rfl
  split
  · left; rfl
  · right; rfl

end Script

/-! ## The redemption from memory -/

section Memory

variable {code : String} {input : RedeemBindFallbackCodeInput} {records : Records}

theorem redeemFromMemory_ok {result : String} {redeemedAt : ℤ}
    (h : (redeemFromMemory env code input records).1 = .ok result redeemedAt) :
    ∃ record, (code, record) ∈ records ∧ input.nowMs < record.expiresAtMs ∧
      MatchesContext env input record ∧
      (redeemFromMemory env code input records).2 = remove records code := by
  unfold redeemFromMemory at h ⊢
  cases hlook : records.lookup code with
  | none => rw [hlook] at h; cases h
  | some record =>
    rw [hlook] at h
    simp only at h ⊢
    by_cases hexp : record.expiresAtMs ≤ input.nowMs
    · rw [if_pos hexp] at h
      cases h
    rw [if_neg hexp] at h ⊢
    split at h
    · cases h
    · next hmatch =>
        exact ⟨record, GroupBy.mem_of_lookup hlook, by omega, hmatch, rfl⟩

variable (env) in
theorem redeemFromMemory_of_mem {record : BindCodeRecord} (hmem : (code, record) ∈ records)
    (hunique : ∀ r, (code, r) ∈ records → r = record)
    (hlive : input.nowMs < record.expiresAtMs) :
    (MatchesContext env input record ∧
        (redeemFromMemory env code input records).1 = .ok record.result input.nowMs) ∨
      (¬ MatchesContext env input record ∧
        (redeemFromMemory env code input records).2 = records) := by
  have hlook := GroupBy.lookup_of_unique hmem hunique
  have hexp : ¬ record.expiresAtMs ≤ input.nowMs := by omega
  unfold redeemFromMemory MatchesContext
  rw [hlook]
  simp only [if_neg hexp]
  split
  · grind
  next hmatch =>
    left
    exact ⟨hmatch, rfl⟩

theorem redeemFromMemory_cases : (redeemFromMemory env code input records).2 = records ∨
    (redeemFromMemory env code input records).2 = remove records code := by
  unfold redeemFromMemory
  split
  · right; rfl
  split
  · right; rfl
  split
  · left; rfl
  · right; rfl

end Memory

/-! ## One issue -/

section Issue

variable {code : String} {input : IssueBindFallbackCodeInput} {fault : Fault Unit}

/-- A code is evicted by the limit when another one is stored. -/
def Evicts (env : Env) (code : String) (input : IssueBindFallbackCodeInput) (s : Stores)
    (evicted : String) : Prop :=
  evicted ∈ (recordsWithCode env code input s).map Prod.fst ∧
    evicted ∉ (trimStoreToLimit (recordsWithCode env code input s)).map Prod.fst

/-- In the optional mode a code is always issued. What Redis does not take stays in
memory. -/
theorem issue_spec (hmode : isSharedStoreRequired env = false) :
    (∃ issued, (issueBindFallbackCode env code input fault s).1 = .ok issued) ∧
      ((redisCall env input.nowMs fault s = some .through ∧
          (issueBindFallbackCode env code input fault s).2.bindCodeRecords =
            remove (trimStoreToLimit (recordsWithCode env code input s)) code ∧
          (issueBindFallbackCode env code input fault s).2.redis =
            accumulate s.redis (buildRedisKey code) (issuedRecord env code input)
              fun _ => issuedRecord env code input) ∨
        ((issueBindFallbackCode env code input fault s).2.bindCodeRecords =
            trimStoreToLimit (recordsWithCode env code input s) ∧
          ((issueBindFallbackCode env code input fault s).2.redis = s.redis ∨
            (issueBindFallbackCode env code input fault s).2.redis =
              accumulate s.redis (buildRedisKey code) (issuedRecord env code input)
                fun _ => issuedRecord env code input))) := by
  unfold issueBindFallbackCode
  generalize hstored : ({ s with
    bindCodeRecords := trimStoreToLimit (recordsWithCode env code input s) } : Stores) = stored
  have hcall : redisCall env input.nowMs fault stored = redisCall env input.nowMs fault s := by
    rw [← hstored]
    rfl
  generalize hset : (fun redis : Records => ((), accumulate redis (buildRedisKey code)
    (issuedRecord env code input) fun _ => issuedRecord env code input)) = set
  by_cases hthrough : redisCall env input.nowMs fault stored = some .through
  · grind [withRedisStore_through]
  obtain ⟨after, hans, hrecs, hwritten⟩ := withRedisStore_failed hthrough set
  by_cases hlost : redisCall env input.nowMs fault stored = some (.lost ())
  · grind
  · grind

variable {r : String × BindCodeRecord}

theorem mem_trimStoreToLimit {records : Records} (h : r ∈ trimStoreToLimit records) :
    r ∈ records := by
  unfold trimStoreToLimit at h
  split at h
  · exact h
  · exact ((GroupBy.mem_foldl_remove _ _).mp h).1

/-- The limit deletes whole codes. -/
theorem mem_trimStoreToLimit_of_key {records : Records} (h : r ∈ records)
    (hkey : r.1 ∈ (trimStoreToLimit records).map Prod.fst) : r ∈ trimStoreToLimit records := by
  unfold trimStoreToLimit at hkey ⊢
  split
  · exact h
  next hlimit =>
    rw [if_neg hlimit] at hkey
    rcases List.mem_map.mp hkey with ⟨r', hr', heq⟩
    have hkept := ((GroupBy.mem_foldl_remove _ _).mp hr').2
    rw [heq] at hkept
    exact (GroupBy.mem_foldl_remove _ _).mpr ⟨h, hkept⟩

theorem mem_recordsWithCode (h : r ∈ recordsWithCode env code input s) :
    r = (code, issuedRecord env code input) ∨ r ∈ s.bindCodeRecords := by
  rcases GroupBy.mem_accumulate h with hnew | ⟨hold, -⟩
  · left
    exact hnew
  · right
    exact List.mem_of_mem_filter hold

variable {record : BindCodeRecord}

section

variable (hmode : isSharedStoreRequired env = false)
include hmode

/-- An issue adds its own record only. -/
theorem held_of_issue {k : String}
    (h : Held (issueBindFallbackCode env code input fault s).2 k record) :
    Held s k record ∨ (k = code ∧ record = issuedRecord env code input) := by
  have hmemory : (k, record) ∈ trimStoreToLimit (recordsWithCode env code input s) →
      Held s k record ∨ (k = code ∧ record = issuedRecord env code input) := by
    intro hmem
    rcases mem_recordsWithCode (mem_trimStoreToLimit hmem) with hnew | hold
    · right
      exact Prod.mk.inj hnew
    · left
      exact Or.inl hold
  have hredis : (buildRedisKey k, record) ∈
        accumulate s.redis (buildRedisKey code) (issuedRecord env code input)
          (fun _ => issuedRecord env code input) →
      Held s k record ∨ (k = code ∧ record = issuedRecord env code input) := by
    intro hmem
    rcases GroupBy.mem_accumulate hmem with hnew | ⟨hold, -⟩
    · grind [buildRedisKey_inj]
    · left
      exact Or.inr hold
  rcases (issue_spec hmode).2 with ⟨-, hrecs, hwritten⟩ | ⟨hrecs, hwritten⟩
  · rcases h with hmem | hmem
    · rw [hrecs, mem_remove] at hmem
      exact hmemory hmem.1
    · rw [hwritten] at hmem
      exact hredis hmem
  rcases h with hmem | hmem
  · rw [hrecs] at hmem
    exact hmemory hmem
  rcases hwritten with hsame | hwritten
  · rw [hsame] at hmem
    exact Or.inl (Or.inr hmem)
  · rw [hwritten] at hmem
    exact hredis hmem

theorem issue_held (hevicted : ¬ Evicts env code input s code) :
    Held (issueBindFallbackCode env code input fault s).2 code (issuedRecord env code input) := by
  rcases (issue_spec hmode).2 with ⟨-, -, hwritten⟩ | ⟨hrecs, -⟩
  · right
    rw [hwritten]
    exact GroupBy.mem_accumulate_self _ _ _
  left
  rw [hrecs]
  have hmem : (code, issuedRecord env code input) ∈ recordsWithCode env code input s :=
    GroupBy.mem_accumulate_self _ _ _
  refine mem_trimStoreToLimit_of_key hmem ?_
  by_contra hgone
  exact hevicted ⟨List.mem_map_of_mem hmem, hgone⟩

/-- Other codes stay held unless they expire or the limit evicts them. -/
theorem issue_keeps {k : String} (h : Held s k record) (hne : k ≠ code)
    (hlive : input.nowMs < record.expiresAtMs) (hevicted : ¬ Evicts env code input s k) :
    Held (issueBindFallbackCode env code input fault s).2 k record := by
  have hkey : (buildRedisKey k, record).1 ≠ buildRedisKey code := fun heq =>
    hne (buildRedisKey_inj heq)
  have hmemory : (k, record) ∈ s.bindCodeRecords →
      (k, record) ∈ trimStoreToLimit (recordsWithCode env code input s) := by
    intro hmem
    have hpruned : (k, record) ∈ pruneExpiredBindCodes input.nowMs s.bindCodeRecords :=
      List.mem_filter.mpr ⟨hmem, by simpa using hlive⟩
    have hmem' : (k, record) ∈ recordsWithCode env code input s :=
      GroupBy.mem_accumulate_of_ne hpruned hne
    refine mem_trimStoreToLimit_of_key hmem' ?_
    by_contra hgone
    exact hevicted ⟨List.mem_map_of_mem hmem', hgone⟩
  rcases (issue_spec hmode).2 with ⟨-, hrecs, hwritten⟩ | ⟨hrecs, hwritten⟩
  · rcases h with hmem | hmem
    · left
      rw [hrecs, mem_remove]
      exact ⟨hmemory hmem, hne⟩
    · right
      rw [hwritten]
      exact GroupBy.mem_accumulate_of_ne hmem hkey
  rcases h with hmem | hmem
  · left
    rw [hrecs]
    exact hmemory hmem
  · right
    rcases hwritten with hsame | hwritten
    · rw [hsame]
      exact hmem
    · grind [GroupBy.mem_accumulate_of_ne]

end

end Issue

/-! ## One redemption -/

section Redeem

variable {code : String} {input : RedeemBindFallbackCodeInput} {fault : Fault Unit}

/-- Without an answer from Redis the code is redeemed from memory; a lost call has had its
effect in Redis. -/
theorem redeem_local (hmode : isSharedStoreRequired env = false)
    (hcode : normalizeHeaderValue input.code = some code)
    (hcall : redisCall env input.nowMs fault s ≠ some .through) :
    (redeemBindFallbackCode env input fault s).1 = (redeemFromMemory env code input
        (pruneExpiredBindCodes input.nowMs s.bindCodeRecords)).1 ∧
      (redeemBindFallbackCode env input fault s).2.bindCodeRecords =
        (redeemFromMemory env code input (pruneExpiredBindCodes input.nowMs s.bindCodeRecords)).2 ∧
      (redeemBindFallbackCode env input fault s).2.redis =
        if redisCall env input.nowMs fault s = some (.lost ()) then
          (redeemInRedis env code input s.redis).2
        else s.redis := by
  unfold redeemBindFallbackCode
  rw [hcode]
  generalize hpruned : ({ s with
    bindCodeRecords := pruneExpiredBindCodes input.nowMs s.bindCodeRecords } : Stores) = pruned
  have hsame : redisCall env input.nowMs fault pruned = redisCall env input.nowMs fault s := by
    rw [← hpruned]
    rfl
  have hredis : pruned.redis = s.redis := by
    rw [← hpruned]
  have hmemory : pruned.bindCodeRecords = pruneExpiredBindCodes input.nowMs s.bindCodeRecords := by
    rw [← hpruned]
  rw [← hsame] at hcall ⊢
  obtain ⟨after, hans, hrecs, hwritten⟩ :=
    withRedisStore_failed hcall (redeemInRedis env code input)
  have hafter : after.bindCodeRecords = pruneExpiredBindCodes input.nowMs s.bindCodeRecords :=
    hrecs.trans hmemory
  simp only [hans, hmode]
  rw [hafter, ← hredis]
  exact ⟨rfl, rfl, hwritten⟩

/-- With an answer from Redis the script decides. -/
theorem redeem_shared (hcode : normalizeHeaderValue input.code = some code)
    (hcall : redisCall env input.nowMs fault s = some .through) :
    (redeemBindFallbackCode env input fault s).2.redis = (redeemInRedis env code input s.redis).2 ∧
      ((∃ record, (redeemInRedis env code input s.redis).1 = .ok record ∧
          (redeemBindFallbackCode env input fault s).1 = .ok record.result input.nowMs ∧
          (redeemBindFallbackCode env input fault s).2.bindCodeRecords =
            remove (pruneExpiredBindCodes input.nowMs s.bindCodeRecords) code) ∨
        ((redeemInRedis env code input s.redis).1 = .invalid ∧ (∃ failure message,
            (redeemBindFallbackCode env input fault s).1 = .failed failure message) ∧
          (redeemBindFallbackCode env input fault s).2.bindCodeRecords =
            remove (pruneExpiredBindCodes input.nowMs s.bindCodeRecords) code) ∨
        (∃ field, (redeemInRedis env code input s.redis).1 = .mismatch field ∧ (∃ failure message,
            (redeemBindFallbackCode env input fault s).1 = .failed failure message) ∧
          (redeemBindFallbackCode env input fault s).2.bindCodeRecords =
            pruneExpiredBindCodes input.nowMs s.bindCodeRecords)) := by
  unfold redeemBindFallbackCode
  rw [hcode]
  have hcall' : redisCall env input.nowMs fault { s with
      bindCodeRecords := pruneExpiredBindCodes input.nowMs s.bindCodeRecords } =
      some .through := hcall
  dsimp only
  rw [withRedisStore_through hcall']
  generalize redeemInRedis env code input s.redis = reply
  obtain ⟨reply, redis⟩ := reply
  cases reply with
  | ok record => exact ⟨rfl, Or.inl ⟨record, rfl, rfl, rfl⟩⟩
  | invalid => exact ⟨rfl, Or.inr (Or.inl ⟨rfl, ⟨_, _, rfl⟩, rfl⟩)⟩
  | mismatch field => exact ⟨rfl, Or.inr (Or.inr ⟨field, rfl, ⟨_, _, rfl⟩, rfl⟩)⟩

theorem mem_prune {nowMs : ℤ} {records : Records} {r : String × BindCodeRecord} :
    r ∈ pruneExpiredBindCodes nowMs records ↔ r ∈ records ∧ nowMs < r.2.expiresAtMs := by
  unfold pruneExpiredBindCodes
  rw [List.mem_filter, decide_eq_true_eq]

variable (input fault s) in
/-- What a redemption removes: expired records, and records under its own code. -/
theorem redeem_removes (hmode : isSharedStoreRequired env = false) :
    (∀ r, r ∈ (redeemBindFallbackCode env input fault s).2.bindCodeRecords →
        r ∈ s.bindCodeRecords) ∧
      (∀ r, r ∈ (redeemBindFallbackCode env input fault s).2.redis → r ∈ s.redis) ∧
      (∀ r, r ∈ s.bindCodeRecords → input.nowMs < r.2.expiresAtMs →
        normalizeHeaderValue input.code ≠ some r.1 →
        r ∈ (redeemBindFallbackCode env input fault s).2.bindCodeRecords) ∧
      (∀ k record, (buildRedisKey k, record) ∈ s.redis → normalizeHeaderValue input.code ≠ some k →
        (buildRedisKey k, record) ∈ (redeemBindFallbackCode env input fault s).2.redis) := by
  cases hcode : normalizeHeaderValue input.code with
  | none =>
    unfold redeemBindFallbackCode
    dsimp only
    rw [hcode]
    refine ⟨?_, fun r h => h, ?_, fun k record h _ => h⟩
    · intro r h
      exact (mem_prune.mp h).1
    · grind [mem_prune]
  | some code =>
    have hrecs : (redeemBindFallbackCode env input fault s).2.bindCodeRecords =
          pruneExpiredBindCodes input.nowMs s.bindCodeRecords ∨
        (redeemBindFallbackCode env input fault s).2.bindCodeRecords =
          remove (pruneExpiredBindCodes input.nowMs s.bindCodeRecords) code := by
      by_cases hcall : redisCall env input.nowMs fault s = some .through
      · rcases (redeem_shared hcode hcall).2 with
          ⟨-, -, -, h⟩ | ⟨-, -, h⟩ | ⟨-, -, -, h⟩
        · right; exact h
        · right; exact h
        · left; exact h
      · rw [(redeem_local hmode hcode hcall).2.1]
        exact redeemFromMemory_cases
    have hredis : (redeemBindFallbackCode env input fault s).2.redis = s.redis ∨
        (redeemBindFallbackCode env input fault s).2.redis =
          remove s.redis (buildRedisKey code) := by
      by_cases hcall : redisCall env input.nowMs fault s = some .through
      · rw [(redeem_shared hcode hcall).1]
        exact redeemInRedis_cases
      rw [(redeem_local hmode hcode hcall).2.2]
      split
      · exact redeemInRedis_cases
      · left; rfl
    refine ⟨?_, ?_, ?_, ?_⟩
    · grind [mem_remove, mem_prune]
    · grind [mem_remove]
    · intro r h hlive hother
      have hne : r.1 ≠ code := fun heq => hother (congrArg some heq.symm)
      rcases hrecs with heq | heq
      · rw [heq]
        exact mem_prune.mpr ⟨h, hlive⟩
      · grind [mem_remove, mem_prune]
    · intro k record h hother
      have hne : buildRedisKey k ≠ buildRedisKey code := fun heq =>
        hother (congrArg some (buildRedisKey_inj heq).symm)
      rcases hredis with heq | heq
      · rw [heq]
        exact h
      · rw [heq, mem_remove]
        exact ⟨h, hne⟩

variable {record : BindCodeRecord}

theorem held_of_redeem (hmode : isSharedStoreRequired env = false) {k : String}
    (h : Held (redeemBindFallbackCode env input fault s).2 k record) : Held s k record := by
  obtain ⟨hmemory, hredis, -, -⟩ := redeem_removes s input fault hmode
  rcases h with hmem | hmem
  · exact Or.inl (hmemory _ hmem)
  · exact Or.inr (hredis _ hmem)

variable (hmode : isSharedStoreRequired env = false)
  (hcode : normalizeHeaderValue input.code = some code)
  (hconsistent : Consistent env code input fault s)
  (hunique : ∀ {r r'}, Held s code r → Held s code r' → r = r')

include hunique in
/-- Redis has the record under the key once. -/
theorem redis_unique (h : Held s code record) :
    ∀ r, (buildRedisKey code, r) ∈ s.redis → r = record :=
  fun _ hr => hunique (Or.inr hr) h

include hunique in
theorem memory_unique (h : Held s code record) :
    ∀ r, (code, r) ∈ pruneExpiredBindCodes input.nowMs s.bindCodeRecords → r = record :=
  fun _ hr => hunique (Or.inl (mem_prune.mp hr).1) h

include hconsistent hunique in
/-- Where Redis answers, it has every record that is held. -/
theorem mem_redis_of_through (hcall : redisCall env input.nowMs fault s = some .through)
    (h : Held s code record) (hlive : input.nowMs < record.expiresAtMs) :
    (buildRedisKey code, record) ∈ s.redis := by
  rcases h with hmem | hmem
  · rcases hconsistent.through hcall ⟨record, hmem, hlive⟩ with ⟨r, hr, -⟩
    rw [← hunique (Or.inr hr) (Or.inl hmem)]
    exact hr
  · exact hmem

include hmode hcode hconsistent hunique in
/-- What is redeemed was held, and is held nowhere afterwards. -/
theorem redeem_takes {result : String} {redeemedAt : ℤ}
    (hok : (redeemBindFallbackCode env input fault s).1 = .ok result redeemedAt) :
    (∃ record, Held s code record) ∧
      ∀ record, ¬ Held (redeemBindFallbackCode env input fault s).2 code record := by
  by_cases hcall : redisCall env input.nowMs fault s = some .through
  · obtain ⟨hredis, hans⟩ := redeem_shared hcode hcall
    rcases hans with ⟨record, hreply, -, hmemory⟩ | ⟨-, ⟨_, _, hfailed⟩, -⟩ |
      ⟨_, -, ⟨_, _, hfailed⟩, -⟩
    · obtain ⟨hmem, -, -, hremoved⟩ := redeemInRedis_ok hreply
      refine ⟨⟨record, Or.inr hmem⟩, ?_⟩
      rintro r (hr | hr)
      all_goals grind [mem_remove]
    all_goals
      rw [hfailed] at hok
      cases hok
  obtain ⟨hans, hmemory, hredis⟩ := redeem_local hmode hcode hcall
  rw [hans] at hok
  obtain ⟨record, hpruned, hlive, hmatch, hremoved⟩ := redeemFromMemory_ok hok
  have hmem := (mem_prune.mp hpruned).1
  have hheld : Held s code record := Or.inl hmem
  refine ⟨⟨record, hheld⟩, ?_⟩
  rintro r (hr | hr)
  · grind [mem_remove]
  -- Redis has no copy left: it had none, or the lost call removed it
  have hbefore := (redeem_removes s input fault hmode).2.1 _ hr
  have heq := hunique (Or.inr hbefore) hheld
  rw [heq] at hbefore
  have hredeemable : Redeemable env s.redis (buildRedisKey code) input :=
    ⟨record, hbefore, hlive, hmatch⟩
  have hredeemable' : Redeemable env s.bindCodeRecords code input :=
    ⟨record, hmem, hlive, hmatch⟩
  rcases hasked : redisCall env input.nowMs fault s with _ | (_ | ⟨⟨⟩⟩ | ⟨⟨⟩⟩)
  · exact hconsistent.notAsked hasked hredeemable
  · exact hcall hasked
  · exact hconsistent.refused hasked hredeemable' hredeemable
  · rw [hredis, if_pos hasked] at hr
    rcases redeemInRedis_of_mem env hbefore (redis_unique hunique hheld) hlive with
      ⟨-, hreply⟩ | ⟨hmis, -⟩
    · grind [mem_remove, redeemInRedis_ok]
    · exact hmis hmatch

include hmode hcode hconsistent hunique in
/-- A redemption that does not succeed keeps a record that has not expired. -/
theorem redeem_keeps (h : Held s code record) (hlive : input.nowMs < record.expiresAtMs)
    (hfailed : ∀ result redeemedAt,
      (redeemBindFallbackCode env input fault s).1 ≠ .ok result redeemedAt) :
    Held (redeemBindFallbackCode env input fault s).2 code record := by
  have hpruned : (code, record) ∈ s.bindCodeRecords →
      (code, record) ∈ pruneExpiredBindCodes input.nowMs s.bindCodeRecords :=
    fun hmem => mem_prune.mpr ⟨hmem, hlive⟩
  by_cases hcall : redisCall env input.nowMs fault s = some .through
  · have hmem := mem_redis_of_through hconsistent hunique hcall h hlive
    obtain ⟨hredis, hans⟩ := redeem_shared hcode hcall
    rcases redeemInRedis_of_mem env hmem (redis_unique hunique h) hlive with
      ⟨-, hreply⟩ | ⟨-, -, hsame⟩
    · -- the script gives the record, so the redemption succeeds
      rcases hans with ⟨r, hreply', hok, -⟩ | ⟨hinvalid, -⟩ | ⟨field, hmis, -⟩
      · exact absurd hok (hfailed _ _)
      · rw [hreply] at hinvalid
        cases hinvalid
      · rw [hreply] at hmis
        cases hmis
    right
    rw [hredis, hsame]
    exact hmem
  · obtain ⟨hans, hmemory, hredis⟩ := redeem_local hmode hcode hcall
    have hfromMemory : (code, record) ∈ s.bindCodeRecords → ¬ MatchesContext env input record ∧
          Held (redeemBindFallbackCode env input fault s).2 code record := by
      intro hmem
      rcases redeemFromMemory_of_mem env (hpruned hmem) (memory_unique hunique h) hlive with
        ⟨-, hok⟩ | ⟨hmis, hsame⟩
      · exact absurd (hans.trans hok) (hfailed _ _)
      refine ⟨hmis, Or.inl ?_⟩
      rw [hmemory, hsame]
      exact hpruned hmem
    rcases h with hmem | hmem
    · exact (hfromMemory hmem).2
    by_cases hlost : redisCall env input.nowMs fault s = some (.lost ())
    · rw [if_pos hlost] at hredis
      rcases redeemInRedis_of_mem env hmem (redis_unique hunique (Or.inr hmem)) hlive with
        ⟨hmatch, -⟩ | ⟨-, -, hsame⟩
      · -- the lost call has removed the record from Redis; memory has it too
        rcases hconsistent.lost hlost ⟨record, hmem, hlive, hmatch⟩ with ⟨r, hr, -⟩
        have heq := hunique (Or.inl hr) (Or.inr hmem)
        rw [heq] at hr
        exact absurd hmatch (hfromMemory hr).1
      right
      rw [hredis, hsame]
      exact hmem
    right
    rw [hredis, if_neg hlost]
    exact hmem

include hcode hconsistent hunique hmode in
/-- A held record is redeemed by a matching call whose call to Redis does not fail. -/
theorem redeem_succeeds (h : Held s code record)
    (hlive : input.nowMs < record.expiresAtMs) (hmatch : MatchesContext env input record)
    (hcall : redisCall env input.nowMs fault s = none ∨
      redisCall env input.nowMs fault s = some .through) :
    (redeemBindFallbackCode env input fault s).1 = .ok record.result input.nowMs := by
  rcases hcall with hcall | hcall
  · have hmem : (code, record) ∈ s.bindCodeRecords := by
      rcases h with hmem | hmem
      · exact hmem
      · exact absurd ⟨record, hmem, hlive, hmatch⟩ (hconsistent.notAsked hcall)
    have hthrough : redisCall env input.nowMs fault s ≠ some .through := by
      rw [hcall]
      nofun
    rw [(redeem_local hmode hcode hthrough).1]
    rcases redeemFromMemory_of_mem env (mem_prune.mpr ⟨hmem, hlive⟩) (memory_unique hunique h)
      hlive with ⟨-, hok⟩ | ⟨hmis, -⟩
    · exact hok
    · exact absurd hmatch hmis
  have hmem := mem_redis_of_through hconsistent hunique hcall h hlive
  rcases redeemInRedis_of_mem env hmem (redis_unique hunique h) hlive with
    ⟨-, hreply⟩ | ⟨hmis, -⟩
  · rcases (redeem_shared hcode hcall).2 with
      ⟨r, hreply', hok, -⟩ | ⟨hinvalid, -⟩ | ⟨field, hmis, -⟩
    · grind
    · rw [hreply] at hinvalid
      cases hinvalid
    · rw [hreply] at hmis
      cases hmis
  · exact absurd hmatch hmis

end Redeem

end QuizMind.BindCodes
