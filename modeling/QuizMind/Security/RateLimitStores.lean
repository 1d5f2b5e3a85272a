import QuizMind.Security.RateLimit
import QuizMind.Table.FixedWindow
import QuizMind.Table.Tally
import Mathlib.Data.List.Dedup

/-! # The two stores of rate limits

`InMemoryRateLimitService` keeps buckets in a map, forgets the ended ones when it gets around
to it, and evicts the oldest ones when there are too many. `DistributedRateLimitService` counts
in Redis, where a key is gone at its deadline. While at most 50000 keys have a window that has
not ended, both keep the same windows, and decide alike (`stores_decide_alike`).
-/

namespace QuizMind.Security

open GroupBy (lookup_accumulate lookup_change lookup_filter)
open Option (filter_some map_some)
open Prod (fst)

/-! ## Calls -/

/-- A call of `consume`. -/
abbrev RateLimitCall := FixedWindow.Call String

/-- `Math.ceil(ms / 1000)` -/
def ceilSeconds (ms : ℤ) : ℤ := -(-ms / 1000)

/-! ## In memory -/

structure RateLimitBucket where
  count : ℕ
  resetAt : ℤ

/-- A `Map`, in the order in which its keys were added. -/
abbrev RateLimitBuckets := List (String × RateLimitBucket)

structure InMemoryRateLimitService where
  buckets : RateLimitBuckets
  lastPrunedAt : ℤ

def inMemoryRateLimitPruneIntervalMs : ℤ := 60000

def maxInMemoryRateLimitBuckets : ℕ := 50000

namespace InMemoryRateLimitService

def initial : InMemoryRateLimitService := ⟨[], 0⟩

/-- The oldest buckets go while there are too many; an empty key stops the loop. -/
def evictOldest : RateLimitBuckets → RateLimitBuckets
  | [] => []
  | (key, bucket) :: buckets =>
    if buckets.length + 1 ≤ maxInMemoryRateLimitBuckets then (key, bucket) :: buckets
    else if key = "" then (key, bucket) :: buckets
    else evictOldest buckets

def pruneExpiredBuckets (now : ℤ) (service : InMemoryRateLimitService) :
    InMemoryRateLimitService :=
  if service.buckets.length ≤ maxInMemoryRateLimitBuckets ∧
      now - service.lastPrunedAt < inMemoryRateLimitPruneIntervalMs then
    service
  else
    ⟨evictOldest (service.buckets.filter fun entry => !(entry.2.resetAt ≤ now : Bool)), now⟩

def consume (key : String) (limit windowMs : ℕ) (now : ℤ) (service : InMemoryRateLimitService) :
    RateLimitDecision × InMemoryRateLimitService :=
  let service := pruneExpiredBuckets now service
  let activeBucket : RateLimitBucket :=
    ((service.buckets.lookup key).filter fun bucket => bucket.resetAt > now).getD
      ⟨0, now + windowMs⟩
  let activeBucket := { activeBucket with count := activeBucket.count + 1 }
  let buckets := GroupBy.accumulate service.buckets key activeBucket fun _ => activeBucket
  let remaining := max ((limit : ℤ) - activeBucket.count) 0
  let allowed : Bool := activeBucket.count ≤ limit
  let retryAfterSeconds := if allowed then 0 else max (ceilSeconds (activeBucket.resetAt - now)) 1
  (⟨allowed, limit, remaining.toNat, retryAfterSeconds.toNat⟩, { service with buckets })

/-- The decisions of calls, one by one. -/
def run (service : InMemoryRateLimitService) : List RateLimitCall → List RateLimitDecision
  | [] => []
  | call :: calls =>
    let outcome := consume call.key call.limit call.length call.now service
    outcome.1 :: run outcome.2 calls

end InMemoryRateLimitService

/-! ## Redis -/

/-- An integer of Redis, and the time at which its key is gone. -/
structure RedisCounter where
  value : ℤ
  expiresAt : Option ℤ

abbrev RedisCounters := List (String × RedisCounter)

namespace DistributedRateLimitService

/-- A key is gone at its deadline. -/
def unexpired (now : ℤ) (redis : RedisCounters) : RedisCounters :=
  redis.filter fun entry => entry.2.expiresAt.all fun deadline => now < deadline

def incr (key : String) (redis : RedisCounters) : ℤ × RedisCounters :=
  let value := ((redis.lookup key).elim 0 RedisCounter.value) + 1
  (value, GroupBy.accumulate redis key ⟨0, none⟩ fun counter => { counter with value })

def pexpire (now : ℤ) (key : String) (ms : ℤ) (redis : RedisCounters) : RedisCounters :=
  if ms ≤ 0 then GroupBy.remove redis key
  else GroupBy.change redis key fun counter => { counter with expiresAt := some (now + ms) }

/-- -2 is for a key that does not exist, -1 for one without a deadline. -/
def pttl (now : ℤ) (key : String) (redis : RedisCounters) : ℤ :=
  (redis.lookup key).elim (-2) fun counter => counter.expiresAt.elim (-1) fun t => t - now

def redisRateLimitScript (now : ℤ) (key : String) (windowMs : ℤ) (redis : RedisCounters) :
    (ℤ × ℤ) × RedisCounters :=
  let counted := incr key (unexpired now redis)
  let current := counted.1
  let redis := if current = 1 then pexpire now key windowMs counted.2 else counted.2
  let ttl := pttl now key redis
  if ttl < 0 then ((current, windowMs), pexpire now key windowMs redis)
  else ((current, ttl), redis)

def redisKeyPrefix : String := "quizmind:rate-limit"

def bucketKey (key : String) : String := redisKeyPrefix ++ (":" ++ key)

/-- `consume`, where the call to Redis goes through. -/
def consume (key : String) (limit windowMs : ℕ) (now : ℤ) (redis : RedisCounters) :
    RateLimitDecision × RedisCounters :=
  let evaluation := redisRateLimitScript now (bucketKey key) windowMs redis
  let count := max evaluation.1.1 0
  let ttlMs := max evaluation.1.2 0
  let remaining := max ((limit : ℤ) - count) 0
  let allowed : Bool := count ≤ limit
  let retryAfterSeconds := if allowed then 0 else max (ceilSeconds ttlMs) 1
  (⟨allowed, limit, remaining.toNat, retryAfterSeconds.toNat⟩, evaluation.2)

def run (redis : RedisCounters) : List RateLimitCall → List RateLimitDecision
  | [] => []
  | call :: calls =>
    let outcome := consume call.key call.limit call.length call.now redis
    outcome.1 :: run outcome.2 calls

end DistributedRateLimitService

/-! ## Live keys -/

open FixedWindow

/-- The keys whose window, opened by some of the calls, has not ended. -/
def liveKeys (calls : List RateLimitCall) (now : ℤ) : List String :=
  ((calls.map Call.key).dedup).filter fun key => (live (after (fun _ => none) calls key) now).isSome

/-- Before each call there is room for all live keys. -/
def WithinCapacity (calls : List RateLimitCall) : Prop :=
  ∀ pre call post, calls = pre ++ call :: post →
    (liveKeys pre call.now).length ≤ maxInMemoryRateLimitBuckets

section Keys

variable {calls : List RateLimitCall} {now : ℤ}

/-- Only the calls of a key open windows of the key. -/
theorem mem_of_after {windows : Windows String} {key : String}
    (h : (after windows calls key).isSome) :
    key ∈ calls.map Call.key ∨ (windows key).isSome := by
  induction calls generalizing windows with
  | nil =>
    right
    exact h
  | cons call calls ih =>
    by_cases hkey : key = call.key
    · left
      rw [hkey]
      exact List.mem_cons_self
    have hsame : next windows call key = windows key := Function.update_of_ne hkey _ _
    rcases ih h with hmem | hopen
    · left
      exact List.mem_cons_of_mem _ hmem
    right
    rw [← hsame]
    exact hopen

theorem mem_liveKeys {key : String} :
    key ∈ liveKeys calls now ↔ (live (after (fun _ => none) calls key) now).isSome := by
  unfold liveKeys
  rw [List.mem_filter, List.mem_dedup]
  constructor
  · rintro ⟨-, hlive⟩
    exact hlive
  intro hlive
  refine ⟨?_, hlive⟩
  have hopen : (after (fun _ => none) calls key).isSome := by
    obtain ⟨window, hwindow⟩ := Option.isSome_iff_exists.mp hlive
    have hsome := (Option.filter_eq_some_iff.mp hwindow).1
    rw [hsome]
    rfl
  rcases mem_of_after hopen with hmem | hnone
  · exact hmem
  · cases hnone

/-- Distinct live keys are not more than all live keys. -/
theorem length_le_liveKeys {keys : List String} (hkeys : keys.Nodup)
    (hlive : ∀ key ∈ keys, (live (after (fun _ => none) calls key) now).isSome) :
    keys.length ≤ (liveKeys calls now).length := by
  have hsubset : keys ⊆ liveKeys calls now := fun key hkey => mem_liveKeys.mpr (hlive key hkey)
  exact (List.subperm_of_subset hkeys hsubset).length_le

end Keys

/-- There is room for the keys whose windows have not ended. -/
def HasRoom (windows : Windows String) (now : ℤ) : Prop :=
  ∀ keys : List String, keys.Nodup → (∀ key ∈ keys, (live (windows key) now).isSome) →
    keys.length ≤ maxInMemoryRateLimitBuckets

/-- The decision of a call that is counted in a window. -/
def decisionOf (call : RateLimitCall) (window : Window) : RateLimitDecision where
  allowed := window.count ≤ call.limit
  limit := call.limit
  remaining := (max ((call.limit : ℤ) - window.count) 0).toNat
  retryAfterSeconds :=
    (if window.count ≤ call.limit then 0 else max (ceilSeconds (window.ends - call.now)) 1).toNat

/-! ## The memory keeps the windows -/

namespace InMemoryRateLimitService

def bucketWindow (bucket : RateLimitBucket) : Window := ⟨bucket.count, bucket.resetAt⟩

/-- The buckets have one entry a key, and the windows that have not ended. -/
structure Keeps (buckets : RateLimitBuckets) (windows : Windows String) (now : ℤ) : Prop where
  keys : (buckets.map fst).Nodup
  tracks : Tracks (fun key => (buckets.lookup key).map bucketWindow) windows now

variable {windows : Windows String} {buckets : RateLimitBuckets} {now now' : ℤ}

theorem Keeps.mono (h : Keeps buckets windows now) (hle : now ≤ now') :
    Keeps buckets windows now' :=
  ⟨h.keys, h.tracks.mono hle⟩

theorem evictOldest_of_le (h : buckets.length ≤ maxInMemoryRateLimitBuckets) :
    evictOldest buckets = buckets := by
  cases buckets with
  | nil => rfl
  | cons entry buckets => grind [evictOldest]

/-- To remove what has ended changes no window that has not. -/
theorem Keeps.filter (h : Keeps buckets windows now) :
    Keeps (buckets.filter fun entry => !(entry.2.resetAt ≤ now : Bool)) windows now := by
  refine ⟨GroupBy.nodup_keys_filter h.keys _, ?_⟩
  intro key
  rw [← h.tracks key]
  have hfilt := lookup_filter h.keys (fun bucket => !(bucket.resetAt ≤ now : Bool)) key
  dsimp only
  rw [hfilt]
  cases buckets.lookup key with
  | none => rfl
  | some bucket =>
    by_cases hended : bucket.resetAt ≤ now
    · have hgone : live (some (bucketWindow bucket)) now = none := live_of_le hended
      rw [filter_some, if_neg (by simpa using hended), map_some, hgone]
      rfl
    · rw [filter_some, if_pos (by simpa using hended)]

/-- What is left after the removal is live. -/
theorem Keeps.live_of_filter (h : Keeps buckets windows now) {key : String}
    (hkey : key ∈ (buckets.filter fun entry => !(entry.2.resetAt ≤ now : Bool)).map fst) :
    (live (windows key) now).isSome := by
  obtain ⟨⟨key, bucket⟩, hmem, rfl⟩ := List.mem_map.mp hkey
  obtain ⟨hmem, hleft⟩ := List.mem_filter.mp hmem
  have hlook : buckets.lookup key = some bucket := by
    refine GroupBy.lookup_of_unique hmem fun bucket' hbucket' => ?_
    have hsame := List.inj_on_of_nodup_map h.keys hbucket' hmem rfl
    exact congrArg Prod.snd hsame
  have hlive := h.tracks key
  have hbefore : now < (bucketWindow bucket).ends := by
    show now < bucket.resetAt
    simpa using hleft
  dsimp only at hlive
  rw [← hlive, hlook, map_some, live_of_lt hbefore]
  rfl

variable {service : InMemoryRateLimitService}

/-- Pruning removes what has ended; with room for the others it evicts nothing. -/
theorem pruneExpiredBuckets_keeps (h : Keeps service.buckets windows now)
    (hroom : HasRoom windows now) :
    Keeps (pruneExpiredBuckets now service).buckets windows now := by
  unfold pruneExpiredBuckets
  split
  · exact h
  have hkeys := GroupBy.nodup_keys_filter h.keys fun entry => !(entry.2.resetAt ≤ now : Bool)
  have hlen := hroom _ hkeys fun key => h.live_of_filter
  rw [List.length_map] at hlen
  rw [evictOldest_of_le hlen]
  exact h.filter

/-- A call is counted in the window of its key. -/
theorem consume_keeps {call : RateLimitCall} (h : Keeps service.buckets windows call.now)
    (hroom : HasRoom windows call.now) :
    (consume call.key call.limit call.length call.now service).1 =
        decisionOf call (counted (windows call.key) call) ∧
      Keeps (consume call.key call.limit call.length call.now service).2.buckets
        (next windows call) call.now := by
  have hpruned := pruneExpiredBuckets_keeps h hroom
  unfold consume
  dsimp only
  generalize pruneExpiredBuckets call.now service = pruned at hpruned ⊢
  have hcounted : ∀ activeBucket : RateLimitBucket,
      activeBucket = ((pruned.buckets.lookup call.key).filter fun bucket =>
        bucket.resetAt > call.now).getD ⟨0, call.now + call.length⟩ →
      (⟨activeBucket.count + 1, activeBucket.resetAt⟩ : Window) =
        counted (windows call.key) call := by
    rintro activeBucket rfl
    rw [← counted_congr (hpruned.tracks call.key)]
    dsimp only
    cases pruned.buckets.lookup call.key with
    | none => grind [counted_of_none, live_none]
    | some bucket =>
      by_cases hlive : call.now < bucket.resetAt
      · have hbefore : call.now < (bucketWindow bucket).ends := hlive
        rw [map_some, counted_of_lt hbefore, filter_some, if_pos (by simpa using hlive)]
        rfl
      have hended : (bucketWindow bucket).ends ≤ call.now := not_lt.mp hlive
      rw [map_some, counted_of_none (live_of_le hended), filter_some, if_neg (by simpa using hlive)]
      simp
  generalize hact : ((pruned.buckets.lookup call.key).filter fun bucket =>
    bucket.resetAt > call.now).getD ⟨0, call.now + call.length⟩ = activeBucket
  have hwindow := hcounted activeBucket hact.symm
  constructor
  · rw [← hwindow]
    simp [decisionOf]
  refine ⟨GroupBy.nodup_keys_accumulate hpruned.keys _ _ _, ?_⟩
  refine hpruned.tracks.next ?_ ?_
  · rw [lookup_accumulate, if_pos rfl, counted_congr (hpruned.tracks call.key), ← hwindow]
    rfl
  · simp_all [lookup_accumulate]

end InMemoryRateLimitService

/-! ## Redis keeps the windows -/

namespace DistributedRateLimitService

variable {key : String}

theorem bucketKey_inj {key' : String} (h : bucketKey key = bucketKey key') : key = key' :=
  append_left_cancel (append_left_cancel h)

def counterWindow (counter : RedisCounter) : Option Window :=
  counter.expiresAt.map fun deadline => ⟨counter.value.toNat, deadline⟩

/-- The window that is counted under the key of the bucket. -/
def redisWindow (redis : RedisCounters) (key : String) : Option Window :=
  (redis.lookup (bucketKey key)).bind counterWindow

/-- Every counter counts something and has a deadline, and they keep the windows. -/
structure Keeps (redis : RedisCounters) (windows : Windows String) (now : ℤ) : Prop where
  keys : (redis.map fst).Nodup
  counters : ∀ key counter, redis.lookup key = some counter →
    1 ≤ counter.value ∧ counter.expiresAt.isSome
  tracks : Tracks (redisWindow redis) windows now

variable {windows : Windows String} {redis : RedisCounters} {now now' : ℤ}

theorem Keeps.mono (h : Keeps redis windows now) (hle : now ≤ now') : Keeps redis windows now' :=
  ⟨h.keys, h.counters, h.tracks.mono hle⟩

/-- The counters that a command sees are those of windows that have not ended. -/
theorem redisWindow_unexpired (hkeys : (redis.map fst).Nodup) (key : String) :
    redisWindow (unexpired now redis) key = live (redisWindow redis key) now := by
  have hfilt := lookup_filter hkeys
    (fun counter => counter.expiresAt.all fun deadline => decide (now < deadline)) (bucketKey key)
  unfold redisWindow unexpired
  rw [hfilt]
  cases redis.lookup (bucketKey key) with
  | none => rfl
  | some counter =>
    obtain ⟨value, expiresAt⟩ := counter
    cases expiresAt with
    | none => rfl
    | some deadline =>
      have hwindow : (some (⟨value, some deadline⟩ : RedisCounter)).bind counterWindow =
          some ⟨value.toNat, deadline⟩ := rfl
      by_cases hlive : now < deadline
      · grind [live_of_lt]
      · grind [live_of_le]

theorem unexpired_keeps (h : Keeps redis windows now) : Keeps (unexpired now redis) windows now := by
  refine ⟨GroupBy.nodup_keys_filter h.keys _, ?_, ?_⟩
  · intro key counter hcounter
    have hfilt := lookup_filter h.keys
      (fun counter => counter.expiresAt.all fun deadline => decide (now < deadline)) key
    unfold unexpired at hcounter
    rw [hfilt] at hcounter
    exact h.counters key counter (Option.filter_eq_some_iff.mp hcounter).1
  · intro key
    rw [redisWindow_unexpired h.keys, live_live le_rfl, h.tracks key]

/-- The script opens a window for a key that is gone. -/
theorem script_fresh {windowMs : ℕ} (hpos : 1 ≤ windowMs)
    (hgone : (unexpired now redis).lookup key = none) :
    redisRateLimitScript now key windowMs redis =
      ((1, (windowMs : ℤ)), pexpire now key windowMs (incr key (unexpired now redis)).2) := by
  have hcurrent : (incr key (unexpired now redis)).1 = 1 := by
    simp [incr, hgone]
  have hlook : (incr key (unexpired now redis)).2.lookup key = some ⟨1, none⟩ := by
    simp [incr, hgone, lookup_accumulate]
  have httl : pttl now key (pexpire now key windowMs (incr key (unexpired now redis)).2) =
      windowMs := by grind [lookup_change, pttl, pexpire]
  have hnonneg : ¬ (windowMs : ℤ) < 0 := by omega
  unfold redisRateLimitScript
  simp only [hcurrent, if_true, httl, if_neg hnonneg]

/-- The script counts in the window of a key that has not ended. -/
theorem script_live (windowMs : ℕ) {value deadline : ℤ} (hval : 1 ≤ value)
    (hbefore : now < deadline)
    (hlook : (unexpired now redis).lookup key = some ⟨value, some deadline⟩) :
    redisRateLimitScript now key windowMs redis =
      ((value + 1, deadline - now), (incr key (unexpired now redis)).2) := by
  have hcurrent : (incr key (unexpired now redis)).1 = value + 1 := by
    simp [incr, hlook]
  have hcounted : (incr key (unexpired now redis)).2.lookup key =
      some ⟨value + 1, some deadline⟩ := by
    simp [incr, hlook, lookup_accumulate]
  have httl : pttl now key (incr key (unexpired now redis)).2 = deadline - now := by
    unfold pttl
    rw [hcounted]
    rfl
  have hnew : ¬ value + 1 = 1 := by omega
  have hnonneg : ¬ deadline - now < 0 := by omega
  unfold redisRateLimitScript
  simp only [hcurrent, if_neg hnew, httl, if_neg hnonneg]

variable {call : RateLimitCall}

/-- The decision on the numbers of the script is that of the window. -/
theorem consume_decision {window : Window} (hlive : call.now < window.ends)
    (hscript : (redisRateLimitScript call.now (bucketKey call.key) call.length redis).1 =
      ((window.count : ℤ), window.ends - call.now)) :
    (consume call.key call.limit call.length call.now redis).1 = decisionOf call window := by
  have hcount : max (window.count : ℤ) 0 = window.count := max_eq_left (Int.natCast_nonneg _)
  have httl : max (window.ends - call.now) 0 = window.ends - call.now := by
    have hnonneg : 0 ≤ window.ends - call.now := by omega
    exact max_eq_left hnonneg
  unfold consume decisionOf
  simp only [hscript, hcount, httl, Nat.cast_le, decide_eq_true_eq]

/-- Redis keeps the windows when the counter of the call has its window, and the others are as
they were. -/
theorem Keeps.count {redis' : RedisCounters}
    (h : Keeps redis windows call.now) (hkeys : (redis'.map fst).Nodup)
    (hcounter : redis'.lookup (bucketKey call.key) =
      some ⟨(counted (redisWindow redis call.key) call).count,
        some (counted (redisWindow redis call.key) call).ends⟩)
    (hother : ∀ key, key ≠ bucketKey call.key → redis'.lookup key = redis.lookup key) :
    Keeps redis' (next windows call) call.now := by
  refine ⟨hkeys, ?_, h.tracks.next ?_ ?_⟩
  · intro key counter hlook
    by_cases hkey : key = bucketKey call.key
    · rw [hkey, hcounter, Option.some.injEq] at hlook
      have hpos := count_pos (redisWindow redis call.key) call
      rw [← hlook]
      constructor
      · grind
      · rfl
    · rw [hother key hkey] at hlook
      exact h.counters key counter hlook
  · rw [redisWindow, hcounter]
    rfl
  · intro key hkey
    have hne : bucketKey key ≠ bucketKey call.key := fun heq => hkey (bucketKey_inj heq)
    rw [redisWindow, redisWindow, hother _ hne]

theorem nodup_incr (hkeys : (redis.map fst).Nodup) (key : String) :
    ((incr key redis).2.map fst).Nodup :=
  GroupBy.nodup_keys_accumulate hkeys key ⟨0, none⟩ fun counter =>
    { counter with value := (redis.lookup key).elim 0 RedisCounter.value + 1 }

/-- A call is counted in the window of its key. -/
theorem consume_keeps (h : Keeps redis windows call.now) :
    (consume call.key call.limit call.length call.now redis).1 =
        decisionOf call (counted (windows call.key) call) ∧
      Keeps (consume call.key call.limit call.length call.now redis).2
        (next windows call) call.now := by
  have halive := unexpired_keeps h
  have hredis : (consume call.key call.limit call.length call.now redis).2 =
      (redisRateLimitScript call.now (bucketKey call.key) call.length redis).2 := rfl
  have hcounted : counted (redisWindow (unexpired call.now redis) call.key) call =
      counted (windows call.key) call := counted_congr (halive.tracks call.key)
  rw [hredis]
  cases hlook : (unexpired call.now redis).lookup (bucketKey call.key) with
  | none =>
    -- the key is gone: the call opens a window
    have hscript := script_fresh call.length_pos hlook
    have hnone : redisWindow (unexpired call.now redis) call.key = none := by
      rw [redisWindow, hlook]
      rfl
    have hwindow : counted (redisWindow (unexpired call.now redis) call.key) call =
        ⟨1, call.now + call.length⟩ := by
      rw [hnone, counted_of_none (live_none call.now)]
    have hpos := call.length_pos
    have hms : ¬ (call.length : ℤ) ≤ 0 := by omega
    constructor
    · grind [consume_decision]
    rw [hscript, pexpire, if_neg hms]
    refine halive.count ?_ ?_ ?_
    · rw [GroupBy.keys_change]
      exact nodup_incr halive.keys _
    · simp [lookup_change, hwindow, incr, lookup_accumulate, hlook]
    · grind [lookup_change, incr, lookup_accumulate]
  | some counter =>
    -- the window of the key has not ended
    obtain ⟨hval, hdeadline⟩ := halive.counters _ _ hlook
    obtain ⟨value, expiresAt⟩ := counter
    obtain ⟨deadline, rfl⟩ := Option.isSome_iff_exists.mp hdeadline
    have hbefore : call.now < deadline := by
      have hseen := (List.mem_filter.mp (GroupBy.mem_of_lookup hlook)).2
      simpa using hseen
    have hscript := script_live call.length hval hbefore hlook
    have hsome : redisWindow (unexpired call.now redis) call.key =
        some ⟨value.toNat, deadline⟩ := by
      rw [redisWindow, hlook]
      rfl
    have hwindow : counted (redisWindow (unexpired call.now redis) call.key) call =
        ⟨value.toNat + 1, deadline⟩ := by
      rw [hsome, counted_of_lt hbefore]
    have hnumber : ((value.toNat + 1 : ℕ) : ℤ) = value + 1 := by
      have hval : 1 ≤ value := hval
      omega
    constructor
    · grind [consume_decision]
    rw [hscript]
    refine halive.count (nodup_incr halive.keys _) ?_ ?_
    · simp [hwindow, incr, lookup_accumulate, hlook, hnumber]
    · grind [incr, lookup_accumulate]

end DistributedRateLimitService

/-! ## Runs -/

/-- The decisions of calls that are counted in the windows. -/
def decisions (windows : Windows String) (calls : List RateLimitCall) : List RateLimitDecision :=
  List.zipWith decisionOf calls (FixedWindow.run windows calls)

theorem decisions_cons (windows : Windows String) (call : RateLimitCall)
    (calls : List RateLimitCall) :
    decisions windows (call :: calls) =
      decisionOf call (counted (windows call.key) call) :: decisions (next windows call) calls :=
  rfl

section Runs

variable {windows : Windows String} {calls : List RateLimitCall}

theorem memory_run {service : InMemoryRateLimitService}
    (htimes : (calls.map Call.now).Pairwise (· ≤ ·))
    (hkeeps : ∀ call ∈ calls, InMemoryRateLimitService.Keeps service.buckets windows call.now)
    (hroom : ∀ pre call post, calls = pre ++ call :: post → HasRoom (after windows pre) call.now) :
    service.run calls = decisions windows calls := by
  induction calls generalizing service windows with
  | nil => rfl
  | cons call calls ih =>
    rw [List.map_cons, List.pairwise_cons] at htimes
    obtain ⟨hfirst, htimes⟩ := htimes
    obtain ⟨hdecision, hafter⟩ := InMemoryRateLimitService.consume_keeps
      (hkeeps call List.mem_cons_self) (hroom [] call calls rfl)
    rw [InMemoryRateLimitService.run]
    congr 1
    refine ih htimes ?_ ?_
    · intro c hc
      exact hafter.mono (hfirst c.now (List.mem_map_of_mem hc))
    · intro pre c post hsplit
      exact hroom (call :: pre) c post (by rw [hsplit, List.cons_append])

theorem distributed_run {redis : RedisCounters} (htimes : (calls.map Call.now).Pairwise (· ≤ ·))
    (hkeeps : ∀ call ∈ calls, DistributedRateLimitService.Keeps redis windows call.now) :
    DistributedRateLimitService.run redis calls = decisions windows calls := by
  induction calls generalizing redis windows with
  | nil => rfl
  | cons call calls ih =>
    rw [List.map_cons, List.pairwise_cons] at htimes
    obtain ⟨hfirst, htimes⟩ := htimes
    obtain ⟨hdecision, hafter⟩ := DistributedRateLimitService.consume_keeps
      (hkeeps call List.mem_cons_self)
    rw [DistributedRateLimitService.run]
    congr 1
    refine ih htimes ?_
    intro c hc
    exact hafter.mono (hfirst c.now (List.mem_map_of_mem hc))

end Runs

/-- The calls of the key before the end that are allowed, with their decisions. -/
def allowedCalls (key : String) (ends : ℤ) (entries : List (RateLimitCall × RateLimitDecision)) :
    List (RateLimitCall × RateLimitDecision) :=
  entries.filter fun entry => inside key ends entry.1 && entry.2.allowed

/-- The allowed calls are those whose windows have room for them. -/
theorem length_allowedCalls (key : String) (ends : ℤ) (windows : Windows String)
    (calls : List RateLimitCall) :
    (allowedCalls key ends (calls.zip (decisions windows calls))).length =
      (allowedInside key ends windows calls).length := by
  induction calls generalizing windows with
  | nil => rfl
  | cons call calls ih =>
    have hallowed : (decisionOf call (counted (windows call.key) call)).allowed =
        decide ((counted (windows call.key) call).count ≤ call.limit) := rfl
    have hrest := ih (next windows call)
    rw [allowedInside_cons, decisions_cons, List.zip_cons_cons, allowedCalls, List.filter_cons,
      hallowed, List.length_append, ← hrest]
    split
    · rw [Nat.add_comm]
      rfl
    · rw [List.length_nil, Nat.zero_add]
      rfl

theorem drop_decisions (windows : Windows String) (pre post : List RateLimitCall) :
    (decisions windows (pre ++ post)).drop pre.length = decisions (after windows pre) post := by
  induction pre generalizing windows with
  | nil => rfl
  | cons call pre ih =>
    rw [List.cons_append, decisions_cons, List.length_cons, List.drop_succ_cons, ih]
    rfl

/-- The two stores decide alike about every call, while there is room for the live keys, and
from the call that opens a window of a key to the end of the window not more calls of the key
are allowed than the limit that they have. -/
theorem stores_decide_alike (calls : List RateLimitCall)
    (htimes : (calls.map Call.now).Pairwise (· ≤ ·)) (hcapacity : WithinCapacity calls) :
    InMemoryRateLimitService.initial.run calls = DistributedRateLimitService.run [] calls ∧
      ∀ pre opener post limit, calls = pre ++ opener :: post →
        opener.key ∉ liveKeys pre opener.now →
        (∀ call ∈ opener :: post, inside opener.key (opener.now + opener.length) call →
          call.limit ≤ limit) →
        (allowedCalls opener.key (opener.now + opener.length) ((opener :: post).zip
            ((DistributedRateLimitService.run [] calls).drop pre.length))).length ≤ limit := by
  have hmemory : InMemoryRateLimitService.initial.run calls = decisions (fun _ => none) calls := by
    refine memory_run htimes ?_ ?_
    · intro call _
      exact ⟨List.nodup_nil, fun key => rfl⟩
    · intro pre call post hsplit keys hkeys hlive
      exact (length_le_liveKeys hkeys hlive).trans (hcapacity pre call post hsplit)
  have hredis : DistributedRateLimitService.run [] calls = decisions (fun _ => none) calls := by
    refine distributed_run htimes ?_
    intro call _
    exact ⟨List.nodup_nil, fun key counter hlookup => (nomatch hlookup), fun key => rfl⟩
  constructor
  · rw [hmemory, hredis]
  intro pre opener post limit hsplit hopens hlimit
  rw [hredis, hsplit, drop_decisions, length_allowedCalls]
  have hnone : live (after (fun _ => none) pre opener.key) opener.now = none := by
    grind [mem_liveKeys, Option.not_isSome_iff_eq_none]
  have hlater : ((opener :: post).map Call.now).Pairwise (· ≤ ·) := by grind
  exact allowed_le hnone hlater hlimit

/-- So few calls cannot have too many keys. -/
theorem withinCapacity_of_length {calls : List RateLimitCall}
    (h : calls.length ≤ maxInMemoryRateLimitBuckets) : WithinCapacity calls := by
  intro pre call post hsplit
  have hfiltered : (liveKeys pre call.now).length ≤ ((pre.map Call.key).dedup).length :=
    List.length_filter_le _ _
  have hdedup : ((pre.map Call.key).dedup).length ≤ (pre.map Call.key).length :=
    (List.dedup_sublist _).length_le
  rw [List.length_map] at hdedup
  rw [hsplit, List.length_append] at h
  omega

def firstCall : RateLimitCall := ⟨"auth", 1, 1000, 0, by decide, by decide⟩

/-- A call of the same key in the same window, which has room for one. -/
def secondCall : RateLimitCall := ⟨"auth", 1, 1000, 400, by decide, by decide⟩

theorem stores_decide_alike_twice : InMemoryRateLimitService.initial.run [firstCall, secondCall] =
        [⟨true, 1, 0, 0⟩, ⟨false, 1, 0, 1⟩] ∧
      InMemoryRateLimitService.initial.run [firstCall, secondCall] =
        DistributedRateLimitService.run [] [firstCall, secondCall] ∧
      (allowedCalls "auth" 1000 ([firstCall, secondCall].zip
        (DistributedRateLimitService.run [] [firstCall, secondCall]))).length ≤ 1 := by
  have halike := stores_decide_alike [firstCall, secondCall] (by decide)
    (withinCapacity_of_length (by decide))
  have hopens : firstCall.key ∉ liveKeys [] firstCall.now := by
    intro hmem
    cases hmem
  have hlimit : ∀ call ∈ [firstCall, secondCall],
      inside firstCall.key (firstCall.now + firstCall.length) call → call.limit ≤ 1 := by
    decide
  exact ⟨by decide, halike.1, halike.2 [] firstCall [secondCall] 1 rfl hopens hlimit⟩

end QuizMind.Security
