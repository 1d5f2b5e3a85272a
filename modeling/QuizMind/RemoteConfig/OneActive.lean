import QuizMind.RemoteConfig.Store

/-! # At most one version is active

Publishing and activating first set the active versions to inactive and then make one active.
The first step takes the versions that were active when it started, so a version that another
transaction has made active since then stays active beside the new one. A transaction keeps
the tables to one active version exactly when its `UPDATE` has reached every other version
that is active at its commit (`oneVersionActive_iff`).
-/

namespace QuizMind.RemoteConfig

open Async
open Database (along_await_bind getElem_set_cases initial view_append)

/-- What arrives at the repository. -/
inductive RemoteConfigRequest where
  | publish (input : PublishRemoteConfigVersionInput)
  | activate (versionId : ℕ)

def remoteConfigCode : RemoteConfigRequest → RemoteConfigProg (Option RemoteConfigVersion)
  | .publish input => do
      let version ← publishVersion input
      return some version
  | .activate versionId => activateVersion versionId

abbrev RemoteConfigState :=
  Database.State RemoteConfigStmt RemoteConfigStmt.Res Exception RemoteConfigWrite
    RemoteConfigTables (Option RemoteConfigVersion) RemoteConfigRequest

abbrev RemoteConfigChoice := Database.Choice Exception RemoteConfigRequest

def AtMostOneActive (s : RemoteConfigTables) : Prop :=
  ∀ v ∈ s, ∀ w ∈ s, v.isActive → w.isActive → v.id = w.id

/-- At most one version is active, and the active layers are those of one version. -/
def OneVersionActive (s : RemoteConfigTables) : Prop :=
  AtMostOneActive s ∧ ∀ layer ∈ findActiveLayers s, ∀ layer' ∈ findActiveLayers s,
    layer.id.versionId = layer'.id.versionId

variable {s : RemoteConfigTables}

theorem mem_findActiveLayers {layer : RemoteConfigLayerRecord} :
    layer ∈ findActiveLayers s ↔ ∃ v ∈ s, v.isActive ∧ layer ∈ v.layers := by
  simp [findActiveLayers, and_assoc]

theorem oneVersionActive_of_atMostOne (h : AtMostOneActive s) : OneVersionActive s := by
  refine ⟨h, ?_⟩
  intro layer hlayer layer' hlayer'
  obtain ⟨v, hv, hact, hmem⟩ := mem_findActiveLayers.mp hlayer
  obtain ⟨w, hw, hact', hmem'⟩ := mem_findActiveLayers.mp hlayer'
  have hid : v.id = w.id := h v hv w hw hact hact'
  rw [v.layersOwned layer hmem, w.layersOwned layer' hmem', hid]

/-! ## What a transaction writes -/

/-- The write of an `UPDATE` that deactivates. -/
def RemoteConfigWrite.isDown : RemoteConfigWrite → Bool
  | .lock _ => true
  | .setActive _ isActive => !isActive
  | .insert _ => false

/-- The version that a write makes active. -/
def RemoteConfigWrite.target : RemoteConfigWrite → Option ℕ
  | .setActive id true => some id
  | .insert version => if version.isActive then some version.id else none
  | _ => none

def deactivates (own : List RemoteConfigWrite) (id : ℕ) : Bool :=
  own.any fun
    | .setActive i false => i = id
    | _ => false

def Downs (own : List RemoteConfigWrite) : Prop := ∀ w ∈ own, w.isDown

/-- What a transaction has written when it commits: nothing, or deactivations and then one
write that makes a version active. -/
inductive Commits : Option RemoteConfigVersion → List RemoteConfigWrite → Prop where
  | nothing : Commits none []
  | one {reply : Option RemoteConfigVersion} {downs : List RemoteConfigWrite}
      {up : RemoteConfigWrite} {id : ℕ} (hdowns : Downs downs) (hup : up.target = some id) :
      Commits reply (downs ++ [up])

abbrev RemoteConfigAlong {α : Type} (commits : α → List RemoteConfigWrite → Prop) :
    RemoteConfigProg α → List RemoteConfigWrite → Prop :=
  remoteConfigDb.Along (fun _ => True) commits

section Handlers

variable {α : Type} {commits : α → List RemoteConfigWrite → Prop} {f : Unit → RemoteConfigProg α}

theorem Downs.deactivate {own ws : List RemoteConfigWrite} {id n : ℕ} {s : RemoteConfigTables}
    (h : Downs own) (hexec : remoteConfigDb.exec (.deactivate id) n s = .ok ((), ws)) :
    Downs (own ++ ws) := by
  intro w hw
  rcases List.mem_append.mp hw with hold | hnew
  · exact h w hold
  obtain rfl := (Prod.mk.inj (Except.ok.inj hexec)).2
  split at hnew
  all_goals
    rw [List.mem_singleton.mp hnew]
    rfl

theorem deactivateRows_along {ids : List ℕ} {own : List RemoteConfigWrite} (h : Downs own)
    (hf : ∀ own', Downs own' → RemoteConfigAlong commits (f ()) own') :
    RemoteConfigAlong commits (deactivateRows ids >>= f) own := by
  induction ids generalizing own with
  | nil => exact hf own h
  | cons id ids ih =>
    rw [deactivateRows, Prog.bind_assoc]
    refine along_await_bind remoteConfigDb trivial ?_
    intro n s r ws hexec
    exact ih (h.deactivate hexec)

theorem deactivateAll_along (hf : ∀ own', Downs own' → RemoteConfigAlong commits (f ()) own') :
    RemoteConfigAlong commits (deactivateAll >>= f) [] := by
  rw [deactivateAll, Prog.bind_assoc]
  refine along_await_bind remoteConfigDb trivial ?_
  intro n s ids ws hexec
  have hws : ws = [] := (Prod.mk.inj (Except.ok.inj hexec)).2.symm
  subst hws
  exact deactivateRows_along (fun w hw => by cases hw) hf

theorem remoteConfigCode_along (request : RemoteConfigRequest) :
    RemoteConfigAlong Commits (remoteConfigCode request) [] := by
  cases request with
  | publish input =>
    rw [remoteConfigCode, publishVersion, Prog.bind_assoc]
    refine deactivateAll_along ?_
    intro own hown
    refine along_await_bind remoteConfigDb trivial ?_
    intro n s version ws hexec
    simp only [remoteConfigDb, RemoteConfigStmt.exec] at hexec
    split at hexec
    · obtain ⟨-, rfl⟩ := Prod.mk.inj (Except.ok.inj hexec)
      exact @Commits.one _ _ _ n hown rfl
    · cases hexec
  | activate versionId =>
    refine along_await_bind remoteConfigDb trivial ?_
    intro n s existing ws hexec
    have hws : ws = [] := (Prod.mk.inj (Except.ok.inj hexec)).2.symm
    subst hws
    cases existing with
    | none => exact .nothing
    | some id =>
      refine deactivateAll_along ?_
      intro own hown
      refine along_await_bind remoteConfigDb trivial ?_
      intro n s version ws hexec
      simp only [remoteConfigDb, RemoteConfigStmt.exec] at hexec
      split at hexec
      · obtain ⟨-, rfl⟩ := Prod.mk.inj (Except.ok.inj hexec)
        exact @Commits.one _ _ _ id hown rfl
      · cases hexec

end Handlers

/-! ## The rows after a commit -/

/-- A row after the deactivations. -/
def taken (downs : List RemoteConfigWrite) (v : RemoteConfigVersion) : RemoteConfigVersion :=
  { v with isActive := v.isActive && !deactivates downs v.id }

variable {downs : List RemoteConfigWrite}

theorem view_downs (h : Downs downs) (s : RemoteConfigTables) :
    remoteConfigDb.view s downs = s.map (taken downs) := by
  induction downs generalizing s with
  | nil =>
    have hsame : taken [] = fun v => v := by
      funext v
      simp [taken, deactivates]
    simp [hsame]
  | cons w downs ih =>
    have htail : Downs downs := fun x hx => h x (List.mem_cons_of_mem _ hx)
    have hw : w.isDown := h w List.mem_cons_self
    have hview : remoteConfigDb.view s (w :: downs) =
        remoteConfigDb.view (applyWrite s w) downs := rfl
    rw [hview, ih htail]
    cases w with
    | lock id => simp [applyWrite, taken, deactivates]
    | insert version => cases hw
    | setActive id isActive =>
      obtain rfl : isActive = false := by simpa [RemoteConfigWrite.isDown] using hw
      simp only [applyWrite, List.map_map]
      apply List.map_congr_left
      intro v _
      by_cases hid : v.id = id
      · simp [taken, deactivates, hid]
      · simp [taken, deactivates, hid, Ne.symm hid]

variable {id : ℕ} {up : RemoteConfigWrite}

theorem target_view (hdowns : Downs downs) (hup : up.target = some id) {v : RemoteConfigVersion}
    (hv : v ∈ remoteConfigDb.view s (downs ++ [up])) (hact : v.isActive) :
    v.id = id ∨ ∃ u ∈ s, u.isActive ∧ deactivates downs u.id = false ∧ u.id = v.id := by
  rw [view_append, view_downs hdowns] at hv
  have hold : ∀ u ∈ s, (taken downs u).isActive → ∃ x ∈ s, x.isActive ∧
      deactivates downs x.id = false ∧ x.id = (taken downs u).id := by grind [taken]
  cases up with
  | lock i => cases hup
  | insert version =>
    rcases List.mem_append.mp hv with hmem | hnew
    · grind
    · grind [RemoteConfigWrite.target]
  | setActive i isActive =>
    obtain ⟨x, hx, rfl⟩ := List.mem_map.mp hv
    cases isActive with
    | false => cases hup
    | true => grind [RemoteConfigWrite.target]

/-- A row that is active and not deactivated is active after the commit. -/
theorem kept_view (hdowns : Downs downs) (hup : up.target = some id) {u : RemoteConfigVersion}
    (hu : u ∈ s) (hact : u.isActive) (hkept : deactivates downs u.id = false) :
    ∃ v ∈ remoteConfigDb.view s (downs ++ [up]), v.isActive ∧ v.id = u.id := by
  rw [view_append, view_downs hdowns]
  have hmem : taken downs u ∈ s.map (taken downs) := List.mem_map_of_mem hu
  have htaken : (taken downs u).isActive = true := by simp [taken, hact, hkept]
  cases up with
  | lock i => cases hup
  | insert version => exact ⟨taken downs u, List.mem_append_left _ hmem, htaken, rfl⟩
  | setActive i isActive =>
    cases isActive with
    | false => cases hup
    | true =>
      refine ⟨_, List.mem_map_of_mem hmem, ?_⟩
      by_cases hid : (taken downs u).id = i
      · rw [if_pos hid]
        exact ⟨rfl, rfl⟩
      · rw [if_neg hid]
        exact ⟨htaken, rfl⟩

/-- The row that the transaction makes active, when it is there. -/
theorem up_view (hup : up.target = some id)
    (hthere : ∃ v ∈ remoteConfigDb.view s (downs ++ [up]), v.id = id) :
    ∃ v ∈ remoteConfigDb.view s (downs ++ [up]), v.isActive ∧ v.id = id := by
  rw [view_append] at hthere ⊢
  cases up with
  | lock i => cases hup
  | insert version =>
    by_cases hact : version.isActive
    · have hid : version.id = id := by simpa [RemoteConfigWrite.target, hact] using hup
      exact ⟨version, List.mem_append_right _ (List.mem_singleton_self _), hact, hid⟩
    · simp [RemoteConfigWrite.target, hact] at hup
  | setActive i isActive =>
    cases isActive with
    | false => cases hup
    | true =>
      obtain rfl : i = id := by simpa [RemoteConfigWrite.target] using hup
      obtain ⟨v, hv, hid⟩ := hthere
      obtain ⟨x, hx, rfl⟩ := List.mem_map.mp hv
      refine ⟨_, hv, ?_, hid⟩
      by_cases hx' : x.id = i
      · rw [if_pos hx']
      · rw [if_neg hx'] at hid
        exact absurd hid hx'

/-! ## Rows that are there -/

def HasRow (s : RemoteConfigTables) (id : ℕ) : Prop := ∃ v ∈ s, v.id = id

def RemoteConfigWrite.inserted : RemoteConfigWrite → Option ℕ
  | .insert version => some version.id
  | _ => none

theorem hasRow_applyWrite {w : RemoteConfigWrite} :
    HasRow (applyWrite s w) id ↔ HasRow s id ∨ w.inserted = some id := by
  cases w with
  | lock i => simp [applyWrite, RemoteConfigWrite.inserted]
  | insert version =>
    simp [HasRow, applyWrite, RemoteConfigWrite.inserted]
  | setActive i isActive =>
    have hid : ∀ v : RemoteConfigVersion,
        (if v.id = i then { v with isActive := isActive } else v).id = v.id := by
      intro v
      split <;> rfl
    simp [HasRow, applyWrite, RemoteConfigWrite.inserted, hid]

theorem hasRow_view {own : List RemoteConfigWrite} : HasRow (remoteConfigDb.view s own) id ↔
      HasRow s id ∨ ∃ w ∈ own, w.inserted = some id := by
  induction own generalizing s with
  | nil => simp
  | cons w own ih =>
    have hview : remoteConfigDb.view s (w :: own) = remoteConfigDb.view (applyWrite s w) own := rfl
    rw [hview, ih, hasRow_applyWrite]
    simp [or_assoc]

/-- What a statement makes active is there afterwards. -/
theorem hasRow_of_exec {op : RemoteConfigStmt} {n : ℕ} {r : op.Res} {ws : List RemoteConfigWrite}
    (hexec : remoteConfigDb.exec op n s = .ok (r, ws)) {w : RemoteConfigWrite} (hw : w ∈ ws)
    (htarget : w.target = some id) : HasRow s id ∨ w.inserted = some id := by
  cases op with
  | findActive | findUnique i =>
    obtain ⟨-, rfl⟩ := Prod.mk.inj (Except.ok.inj hexec)
    cases hw
  | deactivate i =>
    have hdown : w.isDown := by
      have hdowns : Downs ([] ++ ws) := Downs.deactivate (fun x hx => by cases hx) hexec
      exact hdowns w hw
    cases w with
    | lock j => cases htarget
    | insert version => cases hdown
    | setActive j isActive =>
      cases isActive with
      | false => cases htarget
      | true => cases hdown
  | create input =>
    simp only [remoteConfigDb, RemoteConfigStmt.exec] at hexec
    split at hexec
    · grind [RemoteConfigWrite.target, RemoteConfigWrite.inserted]
    · cases hexec
  | activate i =>
    simp only [remoteConfigDb, RemoteConfigStmt.exec] at hexec
    split at hexec
    · rename_i version hver
      obtain ⟨-, rfl⟩ := Prod.mk.inj (Except.ok.inj hexec)
      obtain rfl := List.mem_singleton.mp hw
      left
      obtain rfl : i = id := by simpa [RemoteConfigWrite.target] using htarget
      exact ⟨version, List.mem_of_find?_eq_some hver, by simpa using List.find?_some hver⟩
    · cases hexec

/-- Every open transaction sees the versions it has made active. -/
def TargetsThere (s : RemoteConfigState) : Prop :=
  ∀ (t : ℕ) (req : RemoteConfigRequest) (prog : RemoteConfigProg (Option RemoteConfigVersion))
    (own : List RemoteConfigWrite), s.txs[t]? = some (req, .active prog own) →
    ∀ w ∈ own, ∀ id, w.target = some id → HasRow (remoteConfigDb.view s.committed own) id

variable {s' : RemoteConfigState} {c : RemoteConfigChoice}

theorem targetsThere_step {s : RemoteConfigState}
    (hnext : remoteConfigDb.next remoteConfigCode c s = some s') (h : TargetsThere s) :
    TargetsThere s' := by
  rcases remoteConfigDb.next_cases remoteConfigCode hnext with ⟨req, rfl, rfl⟩ |
    ⟨t, req, op, k, own, r, ws, rfl, ht, hexec, _, rfl⟩ |
    ⟨t, req, op, k, own, e, n, _, ht, rfl, _⟩ | ⟨t, req, a, own, rfl, ht, rfl⟩ |
    ⟨t, req, prog, own, rfl, ht, rfl⟩
  · intro u req' prog' own' hu w hw id hid
    rcases Database.getElem_begin_cases hu with ⟨-, heq⟩ | hold
    · grind
    · exact h u req' prog' own' hold w hw id hid
  · intro u req' prog' own' hu w hw id hid
    rcases getElem_set_cases ht hu with ⟨-, heq⟩ | ⟨-, hold⟩
    · obtain ⟨-, -, rfl⟩ : req' = req ∧ prog' = k (.ok r) ∧ own' = own ++ ws := by
        simpa using heq
      -- an older target is still there, a new one the statement has found or inserted
      rw [view_append, hasRow_view]
      rcases List.mem_append.mp hw with hmine | hnew
      · exact Or.inl (h t req _ own ht w hmine id hid)
      · grind [hasRow_of_exec]
    · exact h u req' prog' own' hold w hw id hid
  · intro u req' prog' own' hu w hw id hid
    rcases getElem_set_cases ht hu with ⟨-, heq⟩ | ⟨-, hold⟩
    · obtain ⟨-, -, rfl⟩ : req' = req ∧ prog' = k (.error e) ∧ own' = own := by
        simpa using heq
      exact h t req _ own' ht w hw id hid
    · exact h u req' prog' own' hold w hw id hid
  · intro u req' prog' own' hu w hw id hid
    rcases getElem_set_cases ht hu with ⟨-, heq⟩ | ⟨-, hold⟩
    · cases heq
    -- what another transaction commits takes no row away
    rcases hasRow_view.mp (h u req' prog' own' hold w hw id hid) with hthere | hinserted
    · exact hasRow_view.mpr (Or.inl (hasRow_view.mpr (Or.inl hthere)))
    · exact hasRow_view.mpr (Or.inr hinserted)
  · intro u req' prog' own' hu w hw id hid
    rcases getElem_set_cases ht hu with ⟨-, heq⟩ | ⟨-, hold⟩
    · cases heq
    · exact h u req' prog' own' hold w hw id hid

/-! ## One step, and all runs -/

/-- A transaction that makes a version active commits only when its `UPDATE` has
deactivated every other version that is active then. -/
def reachesActive (s : RemoteConfigState) : RemoteConfigChoice → Bool
  | .commit t => (s.own t).all fun w =>
    match w.target with
    | none => true
    | some id => s.committed.all fun v =>
      !v.isActive || v.id = id || deactivates (s.own t) v.id
  | _ => true

/-- What holds of every open transaction. -/
structure Transacting (s : RemoteConfigState) : Prop where
  along : remoteConfigDb.AllAlong (fun _ => True) Commits s
  there : TargetsThere s

theorem transacting_step {s : RemoteConfigState} (h : Transacting s)
    (hnext : remoteConfigDb.next remoteConfigCode c s = some s') : Transacting s' where
  along := remoteConfigDb.allAlong_step remoteConfigCode remoteConfigCode_along hnext h.along
  there := targetsThere_step hnext h.there

theorem deactivates_append_target (hup : up.target = some id) (i : ℕ) :
    deactivates (downs ++ [up]) i = deactivates downs i := by
  cases up with
  | lock j => cases hup
  | insert version => simp [deactivates]
  | setActive j isActive =>
    cases isActive with
    | false => cases hup
    | true => simp [deactivates]

theorem reachesActive_commit {s : RemoteConfigState} {t : ℕ} (hdowns : Downs downs)
    (hup : up.target = some id) (hown : s.own t = downs ++ [up]) :
    reachesActive s (.commit t) ↔
      ∀ v ∈ s.committed, v.isActive → v.id = id ∨ deactivates downs v.id := by
  have hnone : ∀ w ∈ downs, w.target = none := by
    intro w hw
    have hdown := hdowns w hw
    cases w with
    | lock j => rfl
    | insert version => cases hdown
    | setActive j isActive =>
      cases isActive with
      | false => rfl
      | true => cases hdown
  simp only [reachesActive, hown, deactivates_append_target hup]
  constructor
  · grind
  · grind

/-- One step keeps to one active version exactly when it satisfies the condition. -/
theorem atMostOneActive_step {s : RemoteConfigState} (hK : Transacting s)
    (h : AtMostOneActive s.committed) (hnext : remoteConfigDb.next remoteConfigCode c s = some s') :
    AtMostOneActive s'.committed ↔ reachesActive s c := by
  rcases remoteConfigDb.next_cases remoteConfigCode hnext with ⟨req, rfl, rfl⟩ |
    ⟨t, req, op, k, own, r, ws, rfl, ht, hexec, _, rfl⟩ |
    ⟨t, req, op, k, own, e, n, hc, ht, rfl, _⟩ | ⟨t, req, a, own, rfl, ht, rfl⟩ |
    ⟨t, req, prog, own, rfl, ht, rfl⟩
  · exact iff_of_true h rfl
  · exact iff_of_true h rfl
  · rcases hc with rfl | rfl
    all_goals exact iff_of_true h rfl
  · have hown : s.own t = own := Database.own_of_getElem ht
    have hcommits : Commits a own := hK.along t req _ own ht
    cases hcommits with
    | nothing =>
      -- an activation that has found no version
      refine iff_of_true h ?_
      simp [reachesActive, hown]
    | @one _ downs up id hdowns hup =>
      rw [reachesActive_commit hdowns hup hown]
      have hthere : HasRow (remoteConfigDb.view s.committed (downs ++ [up])) id :=
        hK.there t req _ _ ht up (List.mem_append_right _ (List.mem_singleton_self _)) id hup
      constructor
      · -- a version that stays active would be active beside the new one
        intro hone v hv hact
        by_cases hdown : deactivates downs v.id
        · exact Or.inr hdown
        obtain ⟨v', hv', hact', hid'⟩ :=
          kept_view hdowns hup hv hact (by simpa using hdown)
        obtain ⟨x, hx, hactivex, hidx⟩ := up_view hup hthere
        have hsame : v'.id = x.id := hone v' hv' x hx hact' hactivex
        exact Or.inl (hid'.symm.trans (hsame.trans hidx))
      intro hreach
      have honly : ∀ v ∈ remoteConfigDb.view s.committed (downs ++ [up]), v.isActive →
          v.id = id := by grind [target_view]
      intro v hv w hw hact hact'
      rw [honly v hv hact, honly w hw hact']
  · exact iff_of_true h rfl

/-- From tables with one active version at most, a run of transactions keeps to one active
version exactly when each of its commits satisfies the condition. -/
theorem oneVersionActive_iff (start : RemoteConfigTables) (fresh : ℕ)
    (hstart : AtMostOneActive start) (choices : List RemoteConfigChoice) :
    remoteConfigDb.AllStates remoteConfigCode (fun s => OneVersionActive s.committed) choices
        (initial start fresh) ↔
      remoteConfigDb.AllSteps remoteConfigCode (fun s c => reachesActive s c) choices
        (initial start fresh) := by
  refine remoteConfigDb.allStates_iff_allSteps remoteConfigCode (K := Transacting) ?_ ?_ ?_ ?_
  · grind [transacting_step]
  · intro s c s' hK h hnext
    rw [← atMostOneActive_step hK h.1 hnext]
    exact ⟨fun h' => h'.1, oneVersionActive_of_atMostOne⟩
  · exact oneVersionActive_of_atMostOne hstart
  · refine ⟨remoteConfigDb.allAlong_initial start fresh, ?_⟩
    intro t req prog own ht
    simp [initial] at ht

/-! ## Two publications -/

def emptyInput (versionLabel : String) : PublishRemoteConfigVersionInput where
  actorId := "alice"
  layers := []
  versionLabel := versionLabel
  createdAt := 0

/-- Two publications, one after the other. -/
def publishTwiceInTurn : List RemoteConfigChoice :=
  [.begin (.publish (emptyInput "a")), .stmt 0, .stmt 0, .commit 0,
    .begin (.publish (emptyInput "b")), .stmt 1, .stmt 1, .stmt 1, .commit 1]

theorem oneVersionActive_publishTwiceInTurn :
    remoteConfigDb.AllStates remoteConfigCode (fun s => OneVersionActive s.committed)
      publishTwiceInTurn (initial [] 0) :=
  (oneVersionActive_iff [] 0 (fun _ hv => by cases hv) publishTwiceInTurn).mpr
    (remoteConfigDb.allSteps_of_trace remoteConfigCode (by decide))

/-- Two publications that both look for active versions before either commits. -/
def publishTwiceAtOnce : List RemoteConfigChoice :=
  [.begin (.publish (emptyInput "a")), .begin (.publish (emptyInput "b")), .stmt 0, .stmt 1,
    .stmt 0, .stmt 1, .commit 0, .commit 1]

def atMostOneActive (s : RemoteConfigTables) : Bool :=
  s.all fun v => s.all fun w => !v.isActive || !w.isActive || v.id = w.id

theorem atMostOneActive_of_oneVersion (h : OneVersionActive s) : atMostOneActive s = true := by
  simp only [atMostOneActive, List.all_eq_true]
  intro v hv w hw
  by_cases hact : v.isActive
  · by_cases hact' : w.isActive
    · simpa [hact, hact'] using h.1 v hv w hw hact hact'
    · simp [hact']
  · simp [hact]

theorem two_versions_active : ¬ ∀ (start : RemoteConfigTables) (fresh : ℕ), AtMostOneActive start →
      ∀ choices : List RemoteConfigChoice,
        remoteConfigDb.AllStates remoteConfigCode (fun s => OneVersionActive s.committed) choices
          (initial start fresh) := by
  intro h
  have hall := h [] 0 (fun _ hv => by cases hv) publishTwiceAtOnce
  refine remoteConfigDb.not_allStates_of_trace remoteConfigCode
    (fun s hs => atMostOneActive_of_oneVersion hs) ?_ hall
  decide

end QuizMind.RemoteConfig
