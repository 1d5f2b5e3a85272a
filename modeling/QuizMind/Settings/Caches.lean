import QuizMind.Settings.Pricing
import QuizMind.Settings.Retention

/-! # The caches of the settings services

The retention and the pricing service keep the policy in force in a field of their own, for a
minute. The cache is filled by everyone who has read or written the row: by
`getEffective*Policy` when it is empty or has expired, by `get*Policy`, and by `update*Policy`
with the row it has stored.

A reader fills the cache with the row it has read some time before. An update that is stored
and finished in between is taken back in the cache. Where no fill is older than a finished
update, no answer is.
-/

namespace QuizMind.Settings

namespace Caches

open Async
open Ai (JsValue PlatformAiPricingPolicy)

/-! ## The services -/

/-- A settings document with the policy that is in force without a row. -/
structure CachedDocument (Policy Patch : Type) where
  kind : DocumentKind Policy Patch
  fallback : Policy
  read_none : kind.read none = .ok fallback
  read_some : ∀ value, kind.read (some value) = kind.parse value

/-- The policy that `getEffective*Policy` makes of a row; one that does not parse counts as
no row. -/
def CachedDocument.effective {Policy Patch : Type} (D : CachedDocument Policy Patch)
    (row : Option JsValue) : Policy :=
  match D.kind.read row with
  | .ok policy => policy
  | .error _ => D.fallback

section Effective

variable {Policy Patch : Type} {D : CachedDocument Policy Patch}

theorem CachedDocument.effective_of_read {row : Option JsValue} {policy : Policy}
    (h : D.kind.read row = .ok policy) : D.effective row = policy := by
  rw [CachedDocument.effective, h]

theorem CachedDocument.effective_of_error {row : Option JsValue} {e : Exception}
    (h : D.kind.read row = .error e) : D.effective row = D.fallback := by
  rw [CachedDocument.effective, h]

theorem CachedDocument.effective_none : D.effective none = D.fallback :=
  CachedDocument.effective_of_read D.read_none

theorem CachedDocument.effective_some {value : JsValue} {policy : Policy}
    (h : D.kind.parse value = .ok policy) : D.effective (some value) = policy :=
  CachedDocument.effective_of_read ((D.read_some value).trans h)

end Effective

/-- `EFFECTIVE_POLICY_CACHE_TTL_MS`. -/
def effectivePolicyCacheTtlMs : ℤ := 60000

structure CacheEntry (Policy : Type) where
  value : Policy
  expiresAtMs : ℤ

/-- The calls of the services `ι`: the cache of a service, its row, and the clock. -/
inductive CacheCall (ι : Type) (Policy : ι → Type) where
  | getCachedEffectivePolicy (i : ι)
  | setCachedEffectivePolicy (i : ι) (policy : Policy i)
  | findByKey (i : ι)
  | upsertJson (i : ι) (value : JsValue)
  | writeAuditLog (i : ι)
  /-- the clock shows another time -/
  | elapse (ms : ℤ)

section Calls

variable {ι : Type} {Policy : ι → Type}

abbrev CacheAnswer : CacheCall ι Policy → Type
  | .getCachedEffectivePolicy i => Option (Policy i)
  | .setCachedEffectivePolicy _ _ => Unit
  | .findByKey _ => Option JsValue
  | .upsertJson _ _ => JsValue
  | .writeAuditLog _ => Unit
  | .elapse _ => Unit

/-- The calls of the database; the others are statements of the process. -/
def CacheCall.remote : CacheCall ι Policy → Bool
  | .findByKey _ | .upsertJson _ _ | .writeAuditLog _ => true
  | _ => false

variable (ι Policy) in
/-- The rows of the settings, and what one process keeps. -/
structure SettingsProcess where
  rows : ι → Option JsValue
  effectivePolicyCache : (i : ι) → Option (CacheEntry (Policy i))
  now : ℤ

variable [DecidableEq ι]

def CacheCall.exec : (op : CacheCall ι Policy) → SettingsProcess ι Policy →
    Except Exception (CacheAnswer op) × SettingsProcess ι Policy
  | .getCachedEffectivePolicy i, s =>
    (.ok (match s.effectivePolicyCache i with
      | some entry => if entry.expiresAtMs ≤ s.now then none else some entry.value
      | none => none), s)
  | .setCachedEffectivePolicy i policy, s =>
    (.ok (), { s with
      effectivePolicyCache := Function.update s.effectivePolicyCache i
        (some ⟨policy, s.now + effectivePolicyCacheTtlMs⟩) })
  | .findByKey i, s => (.ok (s.rows i), s)
  | .upsertJson i value, s =>
    (.ok value, { s with rows := Function.update s.rows i (some value) })
  | .writeAuditLog _, s => (.ok (), s)
  | .elapse ms, s => (.ok (), { s with now := s.now + ms })

end Calls

section Services

variable {ι : Type} {Policy Patch : ι → Type} (D : (i : ι) → CachedDocument (Policy i) (Patch i))

abbrev CacheProg (ι : Type) (Policy : ι → Type) (α : Type) :=
  Prog (CacheCall ι Policy) CacheAnswer Exception α

/-- One call, its failure rethrown. -/
def call (op : CacheCall ι Policy) : CacheProg ι Policy (CacheAnswer op) := Prog.await op

/-- The part of `getEffective*Policy` when the cache is of no use. -/
def fillEffectivePolicy (i : ι) : CacheProg ι Policy (Policy i) :=
  tryCatch (do
      let row ← call (.findByKey i)
      let effective ← Prog.ofExcept ((D i).kind.read row)
      call (.setCachedEffectivePolicy i effective)
      return effective)
    (fun _ => do
      call (.setCachedEffectivePolicy i (D i).fallback)
      return (D i).fallback)

def getEffectivePolicy (i : ι) : CacheProg ι Policy (Policy i) := do
  let cached ← call (.getCachedEffectivePolicy i)
  match cached with
  | some policy => return policy
  | none => fillEffectivePolicy D i

/-- The policy of the snapshot; without a row the cache stays as it is. -/
def getPolicy (i : ι) : CacheProg ι Policy (Policy i) := do
  let row ← call (.findByKey i)
  match row with
  | none => return (D i).fallback
  | some value => do
      let normalized ← Prog.ofExcept ((D i).kind.parse value)
      call (.setCachedEffectivePolicy i normalized)
      return normalized

/-- The part of an update between `get*Policy` and the write. -/
def planFrom {Policy Patch : Type} (K : DocumentKind Policy Patch) (request : Option JsValue)
    (current : Policy) : Except Exception (PlannedUpdate Policy Patch) := do
  let patch ← K.parsePatch (orEmptyObject request)
  let nextPolicy ← K.merge current patch
  return ⟨current, patch, nextPolicy⟩

/-- A failing log entry is reported on the console only. -/
def writeAuditLog (i : ι) (changed : Bool) : CacheProg ι Policy Unit :=
  if changed then tryCatch (call (.writeAuditLog i)) fun _ => return () else return ()

/-- The part of an update before its write. -/
def planCached (i : ι) (request : Option JsValue) :
    CacheProg ι Policy (PlannedUpdate (Policy i) (Patch i)) :=
  tryCatch (do
      let current ← getPolicy D i
      Prog.ofExcept (planFrom (D i).kind request current))
    (fun error => throw (asBadRequest error))

/-- The part of an update after its write. -/
def finishUpdate (i : ι) (changed : Bool) (row : JsValue) : CacheProg ι Policy (Policy i) := do
  writeAuditLog i changed
  let normalized ← Prog.ofExcept ((D i).kind.parse row)
  call (.setCachedEffectivePolicy i normalized)
  return normalized

def updatePolicy (i : ι) (request : Option JsValue) : CacheProg ι Policy (Policy i) := do
  let plan ← planCached D i request
  let row ← tryCatch (call (.upsertJson i ((D i).kind.encode plan.nextPolicy)))
    (fun error => throw ((D i).kind.writeError error))
  finishUpdate D i ((D i).kind.changes plan.current plan.nextPolicy plan.patch) row

/-- What arrives at the process; `elapse` is the passing of time. -/
inductive Request (ι : Type) where
  | getEffectivePolicy (i : ι)
  | getPolicy (i : ι)
  | updatePolicy (i : ι) (request : Option JsValue)
  | elapse (ms : ℤ)

inductive Reply (ι : Type) (Policy : ι → Type) where
  | effective (i : ι) (policy : Policy i)
  | snapshot (i : ι) (policy : Policy i)
  | updated (i : ι) (policy : Policy i)
  | elapsed

def cacheCode : Request ι → CacheProg ι Policy (Reply ι Policy)
  | .getEffectivePolicy i => do
      let policy ← getEffectivePolicy D i
      return .effective i policy
  | .getPolicy i => do
      let policy ← getPolicy D i
      return .snapshot i policy
  | .updatePolicy i request => do
      let policy ← updatePolicy D i request
      return .updated i policy
  | .elapse ms => do
      call (.elapse ms)
      return .elapsed

abbrev CacheSnapshot (ι : Type) (Policy : ι → Type) :=
  Snapshot (CacheCall ι Policy) CacheAnswer Exception (Reply ι Policy) (SettingsProcess ι Policy)
    (Request ι)

abbrev CacheTold (ι : Type) (Policy : ι → Type) :=
  Told (CacheCall ι Policy) CacheAnswer Exception

abbrev CacheEvent (ι : Type) (Policy : ι → Type) :=
  Event (CacheCall ι Policy) CacheAnswer Exception

def cacheMachine [DecidableEq ι] : Machine (CacheCall ι Policy) CacheAnswer Exception
    (Reply ι Policy) (SettingsProcess ι Policy) (Request ι) where
  exec := CacheCall.exec
  code := cacheCode D

/-- Only the calls of the database fail. -/
def remoteFails (s : CacheSnapshot ι Policy) : Label Exception (Request ι) → Bool
  | .fail pid _ =>
    match s.procs[pid]? with
    | some (_, .call op _) => op.remote
    | _ => true
  | _ => true

end Services

/-! ## What a call has in hand -/

section Hand

variable {ι : Type} {Policy Patch : ι → Type} (D : (i : ι) → CachedDocument (Policy i) (Patch i))

/-- The row in hand after one more answer. -/
def rowAfterTold (row : Option JsValue) : CacheTold ι Policy → Option JsValue
  | ⟨.findByKey _, .ok found⟩ => found
  | ⟨.upsertJson _ _, .ok stored⟩ => some stored
  | _ => row

/-- The row that a call has read or written last. -/
def rowInHand (past : List (CacheTold ι Policy)) : Option JsValue := past.foldl rowAfterTold none

theorem rowInHand_append (past : List (CacheTold ι Policy)) (t : CacheTold ι Policy) :
    rowInHand (past ++ [t]) = rowAfterTold (rowInHand past) t := by
  simp [rowInHand]

/-- The cache is filled with the policy of the row in hand. -/
def fillsInHand (past : List (CacheTold ι Policy)) : CacheCall ι Policy → Prop
  | .setCachedEffectivePolicy i policy => policy = (D i).effective (rowInHand past)
  | _ => True

/-- A statement of the process has a result, and a row is answered as it was stored. -/
def possibleAnswer : (op : CacheCall ι Policy) → Except Exception (CacheAnswer op) → Prop
  | .upsertJson _ value, .ok row => row = value
  | op, .error _ => op.remote = true
  | _, .ok _ => True

/-- What a reply follows from. -/
def repliesFrom (past : List (CacheTold ι Policy)) : Reply ι Policy → Prop
  | .effective i policy =>
    past.getLast? = some ⟨.getCachedEffectivePolicy i, .ok (some policy)⟩ ∨
      past.getLast? = some ⟨.setCachedEffectivePolicy i policy, .ok ()⟩
  | .updated i policy =>
    past.getLast? = some ⟨.setCachedEffectivePolicy i policy, .ok ()⟩ ∧
      ∃ value, ⟨.upsertJson i value, .ok value⟩ ∈ past ∧ (D i).kind.parse value = .ok policy
  | _ => True

theorem exec_possibleAnswer [DecidableEq ι] (op : CacheCall ι Policy)
    (s : SettingsProcess ι Policy) : possibleAnswer op (op.exec s).1 := by
  cases op <;> first | rfl | trivial

variable {past : List (CacheTold ι Policy)}

/-- The fill at the end of a request, and its reply. -/
theorem fill_upholds {i : ι} {policy : Policy i} {reply : Reply ι Policy}
    {k : Except Exception Unit → CacheProg ι Policy (Reply ι Policy)}
    (hpolicy : policy = (D i).effective (rowInHand past))
    (hk : k (.ok ()) = .ret reply)
    (hreply : repliesFrom D (past ++ [⟨.setCachedEffectivePolicy i policy, .ok ()⟩]) reply) :
    (Prog.call (.setCachedEffectivePolicy i policy) k).Upholds possibleAnswer (fillsInHand D)
      (repliesFrom D) past := by
  refine ⟨hpolicy, ?_⟩
  intro r hr
  cases r with
  | ok a =>
    rw [hk]
    exact hreply
  | error e => cases hr

theorem getEffectivePolicy_upholds (i : ι) :
    (cacheCode D (.getEffectivePolicy i)).Upholds possibleAnswer (fillsInHand D) (repliesFrom D)
      [] := by
  have hlast : ∀ (past : List (CacheTold ι Policy)) (policy : Policy i),
      repliesFrom D (past ++ [⟨.setCachedEffectivePolicy i policy, .ok ()⟩])
        (.effective i policy) := fun past policy => .inr List.getLast?_concat
  refine ⟨trivial, ?_⟩
  intro cached hcached
  rcases cached with e | _ | policy
  · cases hcached
  · refine ⟨trivial, ?_⟩
    intro found _
    cases found with
    | error e => exact fill_upholds D CachedDocument.effective_none.symm rfl (hlast _ _)
    | ok row =>
      dsimp only [Prog.bind]
      -- what the row reads as decides which of the two fills is made
      rcases hread : (D i).kind.read row with e | policy
      · exact fill_upholds D (CachedDocument.effective_of_error hread).symm rfl (hlast _ _)
      · exact fill_upholds D (CachedDocument.effective_of_read hread).symm rfl (hlast _ _)
  · left
    rfl

theorem getPolicy_upholds (i : ι) :
    (cacheCode D (.getPolicy i)).Upholds possibleAnswer (fillsInHand D) (repliesFrom D) [] := by
  refine ⟨trivial, ?_⟩
  intro found _
  rcases found with e | _ | value
  · trivial
  · trivial
  · dsimp only [Prog.bind]
    rcases hparse : (D i).kind.parse value with e | policy
    · trivial
    · exact fill_upholds D (CachedDocument.effective_some hparse).symm rfl trivial

theorem planCached_upholds (i : ι) (request : Option JsValue) :
    (planCached D i request).Upholds possibleAnswer (fillsInHand D) (fun _ _ => True) [] := by
  have hplan : ∀ (past : List (CacheTold ι Policy))
      (planned : Except Exception (PlannedUpdate (Policy i) (Patch i))),
      ((Prog.ofExcept planned : CacheProg ι Policy _).handle
        fun error => .throw (asBadRequest error)).Upholds possibleAnswer (fillsInHand D)
          (fun _ _ => True) past := by
    intro past planned
    cases planned with
    | ok plan | error e => trivial
  refine ⟨trivial, ?_⟩
  intro found _
  rcases found with e | _ | value
  · trivial
  · exact hplan _ _
  · dsimp only [Prog.bind]
    rcases hparse : (D i).kind.parse value with e | current
    · trivial
    refine ⟨(CachedDocument.effective_some hparse).symm, ?_⟩
    intro filled hfilled
    cases filled with
    | ok a => exact hplan _ _
    | error e => cases hfilled

theorem finishUpdate_upholds {i : ι} {value : JsValue}
    (hrow : rowInHand past = some value) (hpast : ⟨.upsertJson i value, .ok value⟩ ∈ past)
    (changed : Bool) :
    (finishUpdate D i changed value).Upholds possibleAnswer (fillsInHand D)
      (fun past policy => repliesFrom D past (.updated i policy)) past := by
  have hend : ∀ past' : List (CacheTold ι Policy), rowInHand past' = some value →
      ⟨.upsertJson i value, .ok value⟩ ∈ past' →
      (Prog.ofExcept ((D i).kind.parse value) >>= fun normalized =>
        (do
          call (.setCachedEffectivePolicy i normalized)
          return normalized : CacheProg ι Policy (Policy i))).Upholds possibleAnswer
        (fillsInHand D) (fun past policy => repliesFrom D past (.updated i policy)) past' := by
    intro past' hrow' hpast'
    refine Prog.upholds_ofExcept_bind ?_
    intro normalized hparse
    have hfill : normalized = (D i).effective (rowInHand past') := by
      grind [CachedDocument.effective_some]
    refine Prog.upholds_await_bind hfill ?_
    intro a _
    exact ⟨List.getLast?_concat, value, List.mem_append_left _ hpast', hparse⟩
  cases changed with
  | false => exact hend past hrow hpast
  | true =>
    refine ⟨trivial, ?_⟩
    intro noted _
    have hpast' : ∀ t, ⟨.upsertJson i value, .ok value⟩ ∈ past ++ [t] :=
      fun t => List.mem_append_left _ hpast
    -- a log entry changes nothing of the row in hand, whether it fails or not
    have hrow' : rowInHand (past ++ [⟨.writeAuditLog i, noted⟩]) = some value := by
      rw [rowInHand_append, hrow]
      rfl
    cases noted with
    | ok a | error e => exact hend _ hrow' (hpast' _)

theorem updatePolicy_upholds (i : ι) (request : Option JsValue) :
    (cacheCode D (.updatePolicy i request)).Upholds possibleAnswer (fillsInHand D)
      (repliesFrom D) [] := by
  have hupd : (updatePolicy D i request).Upholds possibleAnswer (fillsInHand D)
      (fun past policy => repliesFrom D past (.updated i policy)) [] := by
    refine Prog.upholds_bind (planCached_upholds D i request) ?_
    intro past plan _
    refine ⟨trivial, ?_⟩
    intro answer hans
    cases answer with
    | error e => trivial
    | ok row =>
      obtain rfl : row = (D i).kind.encode plan.nextPolicy := hans
      have hrow : rowInHand (past ++ [⟨.upsertJson i ((D i).kind.encode plan.nextPolicy),
          .ok ((D i).kind.encode plan.nextPolicy)⟩]) =
          some ((D i).kind.encode plan.nextPolicy) := by
        rw [rowInHand_append]
        rfl
      exact finishUpdate_upholds D hrow (by simp) _
  exact Prog.upholds_bind hupd fun _ _ hreply => hreply

theorem cacheCode_upholds (req : Request ι) :
    (cacheCode D req).Upholds possibleAnswer (fillsInHand D) (repliesFrom D) [] := by
  cases req with
  | getEffectivePolicy i => exact getEffectivePolicy_upholds D i
  | getPolicy i => exact getPolicy_upholds D i
  | updatePolicy i request => exact updatePolicy_upholds D i request
  | elapse ms => exact Prog.upholds_await_bind trivial fun _ _ => trivial

end Hand

/-! ## Finished updates -/

section Runs

variable {ι : Type} {Policy Patch : ι → Type} (D : (i : ι) → CachedDocument (Policy i) (Patch i))

/-- The update has returned. -/
def HasUpdated (s : CacheSnapshot ι Policy) (u : ℕ) (i : ι) : Prop :=
  ∃ request policy, s.procs[u]? = some (.updatePolicy i request, .ret (.updated i policy))

/-- The policy was stored by the update `u` or by a later one. -/
def StoredSince (log : List (CacheEvent ι Policy)) (i : ι) (u : ℕ) (policy : Policy i) : Prop :=
  ∃ (m n pid : ℕ) (own value : JsValue), log[m]? = some ⟨u, .upsertJson i own, .ok own⟩ ∧ m ≤ n ∧
    log[n]? = some ⟨pid, .upsertJson i value, .ok value⟩ ∧
    (D i).kind.parse value = .ok policy

/-- A call that has started after `s₁`, when an update had returned, answers in `s₂` with a
policy that was stored neither by that update nor by a later one. -/
def ServesOlder (s₁ s₂ : CacheSnapshot ι Policy) : Prop :=
  ∃ i u g policy, HasUpdated s₁ u i ∧ s₁.procs.length ≤ g ∧
    s₂.procs[g]? = some (.getEffectivePolicy i, .ret (.effective i policy)) ∧
    ¬ StoredSince D s₂.log i u policy

/-- When the cache is filled, the row in hand stands for a policy that was stored by each update
that has returned, or by a later one. -/
def FreshFill (s : CacheSnapshot ι Policy) (l : Label Exception (Request ι)) : Prop :=
  ∀ pid req i policy k, l = .step pid →
    s.procs[pid]? = some (req, .call (.setCachedEffectivePolicy i policy) k) →
    ∀ u, HasUpdated s u i →
      StoredSince D s.log i u ((D i).effective (rowInHand (history pid s.log)))

variable {D}

variable {u : ℕ}

variable {i : ι} {policy : Policy i} {log : List (CacheEvent ι Policy)}

theorem StoredSince.grows {log' : List (CacheEvent ι Policy)}
    (h : StoredSince D log i u policy) (hlog : log <+: log') : StoredSince D log' i u policy := by
  rcases h with ⟨m, n, pid, own, value, hm, hmn, hn, hparse⟩
  have hgrown : ∀ {j : ℕ} {e : CacheEvent ι Policy}, log[j]? = some e → log'[j]? = some e := by
    rintro j e he
    rcases hlog with ⟨rest, rfl⟩
    rw [List.getElem?_append_left (List.getElem?_eq_some_iff.mp he).1]
    exact he
  exact ⟨m, n, pid, own, value, hgrown hm, hmn, hgrown hn, hparse⟩

/-- An event that stores nothing is of no account. -/
theorem StoredSince.of_append {e : CacheEvent ι Policy} (h : StoredSince D (log ++ [e]) i u policy)
    (he : ∀ j value, e.op ≠ .upsertJson j value) : StoredSince D log i u policy := by
  rcases h with ⟨m, n, pid, own, value, hm, hmn, hn, hparse⟩
  have hold : ∀ {j pid : ℕ} {value : JsValue},
      (log ++ [e])[j]? = some ⟨pid, .upsertJson i value, .ok value⟩ →
      log[j]? = some ⟨pid, .upsertJson i value, .ok value⟩ := by grind
  exact ⟨m, n, pid, own, value, hold hm, hmn, hold hn, hparse⟩

variable (D) in
/-- The requests keep to their programs. -/
abbrev KeepsTo (s : CacheSnapshot ι Policy) : Prop :=
  Machine.Kept possibleAnswer (fun _ => fillsInHand D) (fun _ => repliesFrom D) s

variable {req : Request ι} {s s' : CacheSnapshot ι Policy}

variable {k : Except Exception Unit → CacheProg ι Policy (Reply ι Policy)}

/-- A call that has an answer in hand was filled from it. -/
theorem fill_inHand (h : KeepsTo D s) {pid : ℕ}
    (hp : s.procs[pid]? = some (req, .call (.setCachedEffectivePolicy i policy) k)) :
    policy = (D i).effective (rowInHand (history pid s.log)) :=
  (h.procs pid _ hp).1

/-- A fill that is fresh puts in what was stored since. -/
theorem FreshFill.storedSince (hkept : KeepsTo D s) {pid : ℕ} (h : FreshFill D s (.step pid))
    (hp : s.procs[pid]? = some (req, .call (.setCachedEffectivePolicy i policy) k))
    (hupd : HasUpdated s u i) : StoredSince D s.log i u policy := by
  rw [fill_inHand hkept hp]
  exact h pid req i policy k rfl hp u hupd

/-- An update that returns has filled the cache with the policy it has stored. -/
theorem returned_filled (hkept : KeepsTo D s') {reply : Policy i}
    (hproc : s'.procs[u]? = some (req, .ret (.updated i reply))) :
    (history u s'.log).getLast? = some ⟨.setCachedEffectivePolicy i reply, .ok ()⟩ ∧
      StoredSince D s'.log i u reply := by
  have hreply : repliesFrom D (history u s'.log) (.updated i reply) := hkept.procs u _ hproc
  rcases hreply with ⟨hlast, value, hval, hparse⟩
  rcases List.mem_iff_getElem?.mp (mem_history.mp hval) with ⟨m, hm⟩
  exact ⟨hlast, m, m, u, value, value, hm, le_refl m, hm, hparse⟩

/-- No program is at its end when it starts. -/
theorem cacheCode_ne_ret (req : Request ι) (reply : Reply ι Policy) :
    Prog.ret reply ≠ cacheCode D req := by
  cases req <;> nofun

variable (D)

/-- A process that has just started. -/
def startedProcess (rows : ι → Option JsValue) (now : ℤ) : SettingsProcess ι Policy where
  rows := rows
  effectivePolicyCache := fun _ => none
  now := now

variable [DecidableEq ι]

/-- In no run of the process an answer is older than an update that had returned before. -/
def NeverServesOlder (C : CacheSnapshot ι Policy → Label Exception (Request ι) → Prop) : Prop :=
  ∀ rows now s₁ s₂, (cacheMachine D).Reaches C (Machine.initial (startedProcess rows now)) s₁ →
    (cacheMachine D).Reaches C s₁ s₂ → ¬ ServesOlder D s₁ s₂

/-- After every fill that is not fresh, some answer is older than an update that had returned. -/
def StaleFillsAreServed : Prop :=
  ∀ rows now s l s', (cacheMachine D).Reaches (fun s l => remoteFails s l)
      (Machine.initial (startedProcess rows now)) s →
    (cacheMachine D).next l s = some s' → ¬ FreshFill D s l →
      ∃ s₂, (cacheMachine D).Reaches (fun s l => remoteFails s l) s' s₂ ∧ ServesOlder D s' s₂

variable {D}

variable {l : Label Exception (Request ι)}

theorem HasUpdated.next (hnext : (cacheMachine D).next l s = some s')
    (h : HasUpdated s u i) : HasUpdated s' u i := by
  rcases h with ⟨request, policy, hproc⟩
  exact ⟨request, policy, (cacheMachine D).next_returned hnext hproc⟩

/-! ## The invariant -/

variable (D) in
/-- The requests keep to their programs, and what is cached was stored since every update that
has returned. -/
structure FreshCache (s : CacheSnapshot ι Policy) : Prop where
  kept : KeepsTo D s
  cached : ∀ i entry u, s.store.effectivePolicyCache i = some entry → HasUpdated s u i →
    StoredSince D s.log i u entry.value

/-- What the programs keep to needs no fresh fills. -/
theorem kept_next (h : KeepsTo D s) (hfails : remoteFails s l = true)
    (hnext : (cacheMachine D).next l s = some s') : KeepsTo D s' := by
  refine h.next_of_fail exec_possibleAnswer (cacheCode_upholds D) ?_ hnext
  rintro pid e req op k rfl hp
  have hremote : op.remote = true := by simpa [remoteFails, hp] using hfails
  cases op <;> exact hremote

/-- What a call leaves of a cache. -/
theorem exec_effectivePolicyCache (op : CacheCall ι Policy) (s : SettingsProcess ι Policy) (i : ι) :
    (op.exec s).2.effectivePolicyCache i = s.effectivePolicyCache i ∨
      ∃ policy, op = .setCachedEffectivePolicy i policy ∧ (op.exec s).2.effectivePolicyCache i =
          some ⟨policy, s.now + effectivePolicyCacheTtlMs⟩ := by
  cases op with
  | setCachedEffectivePolicy j policy =>
    by_cases hj : i = j
    · subst hj
      exact .inr ⟨policy, rfl, Function.update_self ..⟩
    · exact .inl (Function.update_of_ne hj ..)
  | _ => exact .inl rfl

variable {entry : CacheEntry (Policy i)}

/-- What is cached after a step, for an update that had returned before it. -/
theorem FreshCache.cached_next (h : FreshCache D s) (hfresh : FreshFill D s l)
    (hnext : (cacheMachine D).next l s = some s') (hupd : HasUpdated s u i)
    (hentry : s'.store.effectivePolicyCache i = some entry) :
    StoredSince D s'.log i u entry.value := by
  have hgrown : s.log <+: s'.log := (cacheMachine D).next_log_grows hnext
  have hsame : s'.store.effectivePolicyCache i = s.store.effectivePolicyCache i →
      StoredSince D s'.log i u entry.value := by
    intro hcache
    rw [hcache] at hentry
    exact (h.cached i entry u hentry hupd).grows hgrown
  rcases (cacheMachine D).next_cases hnext with ⟨req, rfl, rfl⟩ |
    ⟨pid, req, op, k, rfl, hp, rfl⟩ | ⟨pid, e, req, op, k, rfl, hp, rfl⟩
  · exact hsame rfl
  · rcases exec_effectivePolicyCache op s.store i with hcache | ⟨policy, rfl, hcache⟩
    · exact hsame hcache
    · -- the step fills the cache
      have hentry' : some ⟨policy, s.store.now + effectivePolicyCacheTtlMs⟩ = some entry :=
        hcache.symm.trans hentry
      obtain rfl := Option.some.inj hentry'
      exact (hfresh.storedSince h.kept hp hupd).grows hgrown
  · exact hsame rfl

theorem FreshCache.next (h : FreshCache D s) (hfails : remoteFails s l = true)
    (hfresh : FreshFill D s l) (hnext : (cacheMachine D).next l s = some s') : FreshCache D s' := by
  have hkept : KeepsTo D s' := kept_next h.kept hfails hnext
  refine ⟨hkept, ?_⟩
  rintro i entry u hentry ⟨request, reply, hproc⟩
  rcases (cacheMachine D).next_proc hnext hproc with hold | ⟨-, hstart⟩ |
    ⟨op, k, r, -, -, hlog, hstep⟩
  · exact h.cached_next hfresh hnext ⟨request, reply, hold⟩ hentry
  · exact absurd hstart (cacheCode_ne_ret (D := D) (.updatePolicy i request) (.updated i reply))
  · -- the update returns with this step, which is its fill
    rcases returned_filled hkept hproc with ⟨hlast, hstored⟩
    rw [hlog, history_append_self, List.getLast?_concat] at hlast
    cases hlast
    rcases hstep with ⟨-, -, hstore⟩ | ⟨e, -, he⟩
    · have hcache : s'.store.effectivePolicyCache i =
          some ⟨reply, s.store.now + effectivePolicyCacheTtlMs⟩ := by
        rw [hstore]
        exact Function.update_self ..
      obtain rfl := Option.some.inj (hcache.symm.trans hentry)
      exact hstored
    · cases he

/-! ## Answers -/

variable (D) in
/-- What holds on the way from `s₁`: the calls that have started since do not answer with an
older policy than the updates that had returned. -/
structure FreshSince (s₁ s : CacheSnapshot ι Policy) : Prop where
  cache : FreshCache D s
  updated : ∀ u i, HasUpdated s₁ u i → HasUpdated s u i
  answers : ∀ i u g policy, HasUpdated s₁ u i → s₁.procs.length ≤ g →
    s.procs[g]? = some (.getEffectivePolicy i, .ret (.effective i policy)) →
    StoredSince D s.log i u policy

omit [DecidableEq ι] in
theorem FreshCache.freshSince (h : FreshCache D s) : FreshSince D s s := by
  refine ⟨h, fun _ _ hupd => hupd, ?_⟩
  intro i u g policy _ hg hproc
  have hlt : g < s.procs.length := (List.getElem?_eq_some_iff.mp hproc).1
  exact absurd hlt (Nat.not_lt.mpr hg)

/-- An answer from the cache is a policy that is cached. -/
theorem cached_of_answer {s : SettingsProcess ι Policy}
    (h : ((CacheCall.getCachedEffectivePolicy i).exec s).1 = .ok (some policy)) :
    ∃ entry, s.effectivePolicyCache i = some entry ∧ entry.value = policy := by
  have hans := Except.ok.inj h
  split at hans
  · grind
  · cases hans

theorem FreshSince.next {s₁ : CacheSnapshot ι Policy} (h : FreshSince D s₁ s)
    (hfails : remoteFails s l = true) (hfresh : FreshFill D s l)
    (hnext : (cacheMachine D).next l s = some s') : FreshSince D s₁ s' := by
  have hcache : FreshCache D s' := h.cache.next hfails hfresh hnext
  have hgrown : s.log <+: s'.log := (cacheMachine D).next_log_grows hnext
  refine ⟨hcache, fun u i hupd => (h.updated u i hupd).next hnext, ?_⟩
  intro i u g policy hupd hg hproc
  have hupd' : HasUpdated s u i := h.updated u i hupd
  rcases (cacheMachine D).next_proc hnext hproc with hold | ⟨-, hstart⟩ |
    ⟨op, k, r, hcall, -, hlog, hstep⟩
  · exact (h.answers i u g policy hupd hg hold).grows hgrown
  · exact absurd hstart (cacheCode_ne_ret (D := D) (.getEffectivePolicy i) (.effective i policy))
  · -- the call answers with this step: from the cache, or after it has filled it
    have hreply : repliesFrom D (history g s'.log) (.effective i policy) :=
      hcache.kept.procs g _ hproc
    rw [hlog, history_append_self] at hreply
    rcases hreply with hlast | hlast
    · rw [List.getLast?_concat] at hlast
      cases hlast
      rcases hstep with ⟨-, hans, -⟩ | ⟨e, -, he⟩
      · rcases cached_of_answer hans.symm with ⟨entry, hentry, rfl⟩
        exact (h.cache.cached i entry u hentry hupd').grows hgrown
      · cases he
    rw [List.getLast?_concat] at hlast
    cases hlast
    rcases hstep with ⟨rfl, -, -⟩ | ⟨e, -, he⟩
    · exact (hfresh.storedSince h.cache.kept hcall hupd').grows hgrown
    · cases he

omit [DecidableEq ι] in
theorem freshCache_initial (rows : ι → Option JsValue) (now : ℤ) :
    FreshCache D (Machine.initial (startedProcess rows now)) := by
  refine ⟨Machine.Kept.initial _, ?_⟩
  intro i entry u hentry
  cases hentry

variable (D) in
/-- Where all fills are fresh, no answer is older than an update that had returned. -/
theorem neverServesOlder_of_freshFill :
    NeverServesOlder D fun s l => remoteFails s l = true ∧ FreshFill D s l := by
  intro rows now s₁ s₂ h₁ h₂
  have hcache : FreshCache D s₁ := by
    refine Machine.Reaches.invariant _ ?_ h₁ (freshCache_initial rows now)
    rintro s l s' ⟨hfails, hfresh⟩ hnext hs
    exact hs.next hfails hfresh hnext
  have hsince : FreshSince D s₁ s₂ := by
    refine Machine.Reaches.invariant _ ?_ h₂ hcache.freshSince
    rintro s l s' ⟨hfails, hfresh⟩ hnext hs
    exact hs.next hfails hfresh hnext
  rintro ⟨i, u, g, policy, hupd, hg, hproc, hnot⟩
  exact hnot (hsince.answers i u g policy hupd hg hproc)

/-- A call that starts now answers with what is cached and has not expired. -/
theorem answers_cached (hentry : s.store.effectivePolicyCache i = some entry)
    (hnow : s.store.now < entry.expiresAtMs) :
    ∃ s₂, (cacheMachine D).Reaches (fun s l => remoteFails s l) s s₂ ∧
      s₂.procs[s.procs.length]? = some (.getEffectivePolicy i, .ret (.effective i entry.value)) ∧
      s₂.log = s.log ++
        [⟨s.procs.length, .getCachedEffectivePolicy i, .ok (some entry.value)⟩] := by
  have hans : (CacheCall.getCachedEffectivePolicy i).exec s.store =
      (.ok (some entry.value), s.store) := by
    simp [CacheCall.exec, hentry, not_le.mpr hnow]
  have hstart : (cacheMachine D).Step (fun s l => remoteFails s l) s
      { s with procs := s.procs ++ [(.getEffectivePolicy i, cacheCode D (.getEffectivePolicy i))] } :=
    ⟨.start (.getEffectivePolicy i), rfl, rfl⟩
  have hproc : (s.procs ++ [(Request.getEffectivePolicy i,
      cacheCode D (.getEffectivePolicy i))])[s.procs.length]? =
      some (.getEffectivePolicy i, cacheCode D (.getEffectivePolicy i)) :=
    List.getElem?_concat_length
  have hstep := (cacheMachine D).next_step
    (s := { s with
      procs := s.procs ++ [(.getEffectivePolicy i, cacheCode D (.getEffectivePolicy i))] }) hproc
  have hexec : (cacheMachine D).exec = CacheCall.exec := rfl
  rw [hexec, hans] at hstep
  refine ⟨_, (Relation.ReflTransGen.single hstart).tail ⟨.step s.procs.length, rfl, hstep⟩, ?_, rfl⟩
  rw [List.getElem?_set_self (by simp)]
  rfl

variable (D) in
theorem staleFillsAreServed : StaleFillsAreServed D := by
  intro rows now s l s' h hnext hstale
  have hkept : KeepsTo D s := by
    refine Machine.Reaches.invariant _ ?_ h (Machine.Kept.initial _)
    intro s l s' hfails hnext hs
    exact kept_next hs hfails hnext
  simp only [FreshFill, not_forall] at hstale
  rcases hstale with ⟨pid, req, i, policy, k, rfl, hp, u, hupd, hold⟩
  rw [← fill_inHand hkept hp] at hold
  have hcache : s'.store.effectivePolicyCache i =
      some ⟨policy, s.store.now + effectivePolicyCacheTtlMs⟩ ∧ s'.store.now = s.store.now ∧
      s'.log = s.log ++ [⟨pid, .setCachedEffectivePolicy i policy, .ok ()⟩] := by
    rcases (cacheMachine D).next_cases hnext with ⟨req', hl, -⟩ |
      ⟨pid', req', op, k', hl, hp', rfl⟩ | ⟨pid', e, req', op, k', hl, -, -⟩
    · cases hl
    · cases hl
      rw [hp, Option.some.injEq] at hp'
      cases hp'
      exact ⟨Function.update_self .., rfl, rfl⟩
    · cases hl
  rcases hcache with ⟨hentry, hnow, hlog⟩
  have hlive : s'.store.now < s.store.now + effectivePolicyCacheTtlMs := by
    rw [hnow]
    exact Int.lt_add_of_pos_right _ (by decide)
  rcases answers_cached (D := D) hentry hlive with ⟨s₂, hreaches, hproc, hlog₂⟩
  refine ⟨s₂, hreaches, i, u, _, policy, hupd.next hnext, le_refl _, hproc, ?_⟩
  -- neither of the two calls since stores anything
  intro hstored
  rw [hlog₂, hlog] at hstored
  exact hold ((hstored.of_append (by nofun)).of_append (by nofun))

end Runs

/-! ## The two services -/

inductive SettingsService where
  | retention
  | pricing
  deriving DecidableEq

abbrev SettingsService.Policy : SettingsService → Type
  | .retention => PlatformRetentionPolicy
  | .pricing => PlatformAiPricingPolicy

abbrev SettingsService.Patch : SettingsService → Type
  | .retention => RetentionPatch
  | .pricing => PricingPatch

variable (env : RetentionEnv)

def settingsDocument : (service : SettingsService) → CachedDocument service.Policy service.Patch
  | .retention =>
    { kind := retentionKind env
      fallback := readEnvFallbackPolicy env
      read_none := rfl
      read_some := fun _ => rfl }
  | .pricing =>
    { kind := pricingKind
      fallback := defaultAiPricingPolicy
      read_none := rfl
      read_some := fun _ => rfl }

abbrev SettingsProg (α : Type) := CacheProg SettingsService SettingsService.Policy α

def getEffectiveRetentionPolicy : SettingsProg PlatformRetentionPolicy :=
  getEffectivePolicy (settingsDocument env) .retention

def getRetentionPolicy : SettingsProg PlatformRetentionPolicy :=
  getPolicy (settingsDocument env) .retention

def updateRetentionPolicy (request : Option JsValue) : SettingsProg PlatformRetentionPolicy :=
  updatePolicy (settingsDocument env) .retention request

def getEffectivePricingPolicy : SettingsProg PlatformAiPricingPolicy :=
  getEffectivePolicy (settingsDocument env) .pricing

def getPricingPolicy : SettingsProg PlatformAiPricingPolicy :=
  getPolicy (settingsDocument env) .pricing

def updatePricingPolicy (request : Option JsValue) : SettingsProg PlatformAiPricingPolicy :=
  updatePolicy (settingsDocument env) .pricing request

/-- The caches do not serve a policy older than a finished update as long as all fills are
fresh, and a fill that is not fresh is served. -/
theorem neverServesOlder_exact : (NeverServesOlder (settingsDocument env) fun s l =>
      remoteFails s l = true ∧ FreshFill (settingsDocument env) s l) ∧
    StaleFillsAreServed (settingsDocument env) := by
  constructor
  · exact neverServesOlder_of_freshFill (settingsDocument env)
  · exact staleFillsAreServed (settingsDocument env)

/-! ## A slow reader -/

/-- A reader finds no row; an update switches the pricing on and returns. -/
def updateWhileReading : List (Label Exception (Request SettingsService)) :=
  [.start (.getEffectivePolicy .pricing), .step 0, .step 0,
    .start (.updatePolicy .pricing (some (.object [("enabled", .bool true)]))), .step 1, .step 1,
    .step 1, .step 1]

/-- The reader fills the cache, and the next call is answered from it. -/
def fillAndServe : List (Label Exception (Request SettingsService)) :=
  [.step 0, .start (.getEffectivePolicy .pricing), .step 2]

/-- No setting comes from the environment. -/
def unsetEnv : RetentionEnv where
  adminLogRetentionEnabled := none
  adminLogSensitiveRetentionEnabled := none
  adminLogActivityDays := none
  adminLogDomainDays := none
  adminLogSystemDays := none
  adminLogAuditDays := none
  adminLogSecurityDays := none
  adminLogAdminDays := none

abbrev SettingsSnapshot := CacheSnapshot SettingsService SettingsService.Policy

/-- What is stored switches the pricing on. -/
def storesEnabled : CacheEvent SettingsService SettingsService.Policy → Bool
  | ⟨_, .upsertJson .pricing value, _⟩ =>
    match pricingKind.parse value with
    | .ok policy => policy.enabled
    | .error _ => true
  | _ => true

def updatedPricing (s : SettingsSnapshot) (pid : ℕ) : Bool :=
  match s.procs[pid]? with
  | some (.updatePolicy .pricing _, .ret (.updated .pricing _)) => true
  | _ => false

/-- The request was told that the pricing is off. -/
def servedDisabled (s : SettingsSnapshot) (pid : ℕ) : Bool :=
  match s.procs[pid]? with
  | some (.getEffectivePolicy .pricing, .ret (.effective .pricing policy)) => !policy.enabled
  | _ => false

theorem hasUpdated_of_updatedPricing {s : SettingsSnapshot} {pid : ℕ}
    (h : updatedPricing s pid = true) : HasUpdated s pid .pricing := by
  unfold updatedPricing at h
  split at h
  · rename_i request policy hproc
    exact ⟨request, policy, hproc⟩
  · cases h

/-- An answer that says the pricing is off, after an update that has switched it on. -/
theorem servesOlder_of_servedDisabled {s₁ s₂ : SettingsSnapshot} {u g : ℕ}
    (hupd : updatedPricing s₁ u = true) (hg : s₁.procs.length ≤ g)
    (hserved : servedDisabled s₂ g = true) (hlog : s₂.log.all storesEnabled = true) :
    ServesOlder (settingsDocument env) s₁ s₂ := by
  unfold servedDisabled at hserved
  split at hserved
  · rename_i policy hproc
    refine ⟨.pricing, u, g, policy, hasUpdated_of_updatedPricing hupd, hg, hproc, ?_⟩
    rintro ⟨m, n, pid, own, value, -, -, hn, hparse⟩
    have hstores : storesEnabled ⟨pid, .upsertJson .pricing value, .ok value⟩ = true :=
      List.all_eq_true.mp hlog _ (List.mem_of_getElem? hn)
    have hparse' : pricingKind.parse value = .ok policy := hparse
    rw [storesEnabled, hparse'] at hstores
    have henabled : policy.enabled = true := hstores
    rw [henabled] at hserved
    cases hserved
  · cases hserved

theorem slow_reader_serves_older :
    ¬ NeverServesOlder (settingsDocument unsetEnv) fun s l => Machine.noFailure s l := by
  intro h
  have hrun : (((cacheMachine (settingsDocument unsetEnv)).trace Machine.noFailure
      updateWhileReading (Machine.initial (startedProcess (fun _ => none) 0))).bind fun s₁ =>
        ((cacheMachine (settingsDocument unsetEnv)).trace Machine.noFailure fillAndServe s₁).map
          fun s₂ => updatedPricing s₁ 1 && s₁.procs.length ≤ 2 && servedDisabled s₂ 2 &&
            s₂.log.all storesEnabled) = some true := by
    decide +kernel
  rcases Option.bind_eq_some_iff.mp hrun with ⟨s₁, h₁, hrest⟩
  rcases Option.map_eq_some_iff.mp hrest with ⟨s₂, h₂, hcheck⟩
  simp only [Bool.and_eq_true, decide_eq_true_eq] at hcheck
  rcases hcheck with ⟨⟨⟨hupdated, hg⟩, hserved⟩, hlog⟩
  exact h _ _ s₁ s₂ (Machine.reaches_of_trace _ h₁) (Machine.reaches_of_trace _ h₂)
    (servesOlder_of_servedDisabled unsetEnv hupdated hg hserved hlog)

end Caches

end QuizMind.Settings
