import QuizMind.RemoteConfig.Store
import QuizMind.Table.Overlay

/-! # What is published and what was previewed

The preview resolves the submitted layers; after publishing the rows of the layers are
resolved, and conditions or values of a row that do not fit their type guard are dropped
without a word. The two agree on a context exactly when what the guards drop does not show
there (`publishedAsPreviewed_iff`).
-/

namespace QuizMind.RemoteConfig

open Async

variable {ι : Type}

/-! ## What a layer sets -/

/-- The value that a layer sets under a key: the last one in it. -/
def RemoteConfigLayer.sets (layer : RemoteConfigLayer ι) (key : String) : Option JsonValue :=
  if key = "__proto__" then none
  else
    match entries layer.values with
    | .ok members => members.reverse.lookup key
    | .error _ => none

theorem lookup_cons_ite (m : String × JsonValue) (values : List (String × JsonValue))
    (key : String) :
    (m :: values).lookup key = if key = m.1 then some m.2 else values.lookup key := by grind

theorem lookup_map_set (values : List (String × JsonValue)) (key : String) (value : JsonValue)
    (k : String) :
    (values.map fun m => if m.1 = key then (key, value) else m).lookup k =
      if k = key ∧ values.any (fun m => m.1 = key) then some value else values.lookup k := by
  induction values with
  | nil => simp
  | cons m values ih => grind

theorem lookup_setMember (values : List (String × JsonValue)) (key : String)
    (value : JsonValue) (k : String) :
    (setMember values key value).lookup k =
      if k = key ∧ key ≠ "__proto__" then some value else values.lookup k := by
  unfold setMember
  by_cases hproto : key = "__proto__"
  · simp [hproto]
  by_cases hany : values.any fun m => m.1 = key
  · simp_all [lookup_map_set]
  -- the key is new
  rw [if_neg hproto, if_neg hany, List.lookup_append, lookup_cons_ite]
  by_cases hk : k = key
  · grind
  · simp [hk]

theorem lookup_foldl_setMember (members values : List (String × JsonValue)) (key : String) :
    (members.foldl (fun acc m => setMember acc m.1 m.2) values).lookup key =
      if key = "__proto__" then values.lookup key
      else (members.reverse.lookup key).or (values.lookup key) := by
  induction members generalizing values with
  | nil => simp
  | cons m members ih =>
    have hset := lookup_setMember values m.1 m.2 key
    rw [List.foldl_cons]
    by_cases hproto : key = "__proto__"
    · grind
    · grind

/-- The loop over the applied layers, under one key. -/
theorem mergeLayers_spec {layers : List (RemoteConfigLayer ι)}
    (hentries : ∀ layer ∈ layers, ∃ members, entries layer.values = .ok members)
    (values : List (String × JsonValue)) :
    ∃ merged, mergeLayers layers values = .ok merged ∧ ∀ key, merged.lookup key =
        (Overlay.lastValue RemoteConfigLayer.sets layers key).or (values.lookup key) := by
  induction layers generalizing values with
  | nil => exact ⟨values, rfl, fun key => rfl⟩
  | cons layer layers ih =>
    obtain ⟨members, hmembers⟩ := hentries layer List.mem_cons_self
    obtain ⟨merged, hmerged, hlook⟩ := ih
      (fun other hother => hentries other (List.mem_cons_of_mem _ hother))
      (members.foldl (fun acc m => setMember acc m.1 m.2) values)
    refine ⟨merged, ?_, ?_⟩
    · rw [mergeLayers, hmembers]
      exact hmerged
    intro key
    rw [hlook, lookup_foldl_setMember, Overlay.lastValue_cons, Option.or_assoc]
    by_cases hproto : key = "__proto__"
    · simp [RemoteConfigLayer.sets, hproto]
    · simp [RemoteConfigLayer.sets, hproto, hmembers]

/-! ## What a resolution gives -/

section Resolution

variable {layers : List (RemoteConfigLayer ι)} {context : RemoteConfigContext}

/-- The conditions of the layer hold for the context. -/
def applies (context : RemoteConfigContext) (layer : RemoteConfigLayer ι) : Bool :=
  match matchesLayerConditions layer context with
  | .ok isMatch => isMatch
  | .error _ => false

/-- The conditions of the layer can be evaluated. -/
def Evaluates (context : RemoteConfigContext) (layer : RemoteConfigLayer ι) : Prop :=
  ∃ isMatch, matchesLayerConditions layer context = .ok isMatch

variable {layer : RemoteConfigLayer ι}

theorem applies_iff :
    applies context layer = true ↔ matchesLayerConditions layer context = .ok true := by
  unfold applies
  split
  · rename_i isMatch h
    simp [h]
  · rename_i e h
    simp [h]

theorem matchingLayers_eq (h : ∀ layer ∈ layers, Evaluates context layer) :
    matchingLayers context layers = .ok (layers.filter (applies context)) := by
  induction layers with
  | nil => rfl
  | cons layer layers ih =>
    obtain ⟨isMatch, hmatch⟩ := h layer List.mem_cons_self
    have htail := ih fun other hother => h other (List.mem_cons_of_mem _ hother)
    rw [matchingLayers, hmatch, htail]
    have happlies : applies context layer = isMatch := by simp [applies, hmatch]
    rw [List.filter_cons, happlies]
    rfl

theorem evaluates_of_matchingLayers {matching : List (RemoteConfigLayer ι)}
    (h : matchingLayers context layers = .ok matching) :
    ∀ layer ∈ layers, Evaluates context layer := by
  induction layers generalizing matching with
  | nil => simp
  | cons first layers ih =>
    rw [matchingLayers] at h
    cases hmatch : matchesLayerConditions first context with
    | error e =>
      rw [hmatch] at h
      cases h
    | ok isMatch =>
      cases hrest : matchingLayers context layers with
      | error e =>
        rw [hmatch, hrest] at h
        cases h
      | ok rest =>
        intro layer hlayer
        rcases List.mem_cons.mp hlayer with rfl | hmem
        · exact ⟨isMatch, hmatch⟩
        · exact ih hrest layer hmem

theorem evaluates_of_resolve {resolved : ResolvedRemoteConfig ι}
    (h : resolveRemoteConfig layers context = .ok resolved) :
    ∀ layer ∈ layers, Evaluates context layer := by
  cases hmatching : matchingLayers context layers with
  | ok matching => exact evaluates_of_matchingLayers hmatching
  | error e =>
    rw [resolveRemoteConfig, hmatching] at h
    cases h

theorem pairwise_byPriority (hdist : layers.Pairwise fun a b => a.priority ≠ b.priority) :
    (byPriority layers).Pairwise fun a b => a.priority < b.priority := by
  have hle : (byPriority layers).Pairwise fun a b => a.priority ≤ b.priority := by
    have htrans : ∀ a b c : RemoteConfigLayer ι, decide (a.priority ≤ b.priority) = true →
        decide (b.priority ≤ c.priority) = true → decide (a.priority ≤ c.priority) = true := by
      grind
    have htotal : ∀ a b : RemoteConfigLayer ι,
        (decide (a.priority ≤ b.priority) || decide (b.priority ≤ a.priority)) = true := by grind
    have hsorted := List.pairwise_mergeSort htrans htotal layers
    simpa [byPriority] using hsorted
  have hne : (byPriority layers).Pairwise fun a b => a.priority ≠ b.priority :=
    ((List.mergeSort_perm layers _).pairwise_iff fun hab => Ne.symm hab).mpr hdist
  exact hle.imp₂ (fun a b hab hab' => lt_of_le_of_ne hab hab') hne

theorem mem_byPriority {applied : List (RemoteConfigLayer ι)} :
    layer ∈ byPriority applied ↔ layer ∈ applied := List.mem_mergeSort

/-- A resolution goes through the matching layers by priority; the last value of a key stays. -/
theorem resolveRemoteConfig_eq (heval : ∀ layer ∈ layers, Evaluates context layer)
    (hentries : ∀ layer ∈ layers, ∃ members, entries layer.values = .ok members) :
    ∃ merged, resolveRemoteConfig layers context = .ok
        { values := merged
          appliedLayerIds := (byPriority (layers.filter (applies context))).map fun layer =>
            layer.id } ∧
      ∀ key, merged.lookup key = Overlay.lastValue RemoteConfigLayer.sets
        (byPriority (layers.filter (applies context))) key := by
  have hentries' : ∀ layer ∈ byPriority (layers.filter (applies context)),
      ∃ members, entries layer.values = .ok members :=
    fun layer hlayer => hentries layer (List.mem_filter.mp (mem_byPriority.mp hlayer)).1
  obtain ⟨merged, hmerged, hlook⟩ := mergeLayers_spec hentries' []
  refine ⟨merged, ?_, ?_⟩
  · rw [resolveRemoteConfig, matchingLayers_eq heval]
    show (mergeLayers _ [] >>= _) = _
    rw [hmerged]
    rfl
  intro key
  rw [hlook]
  simp

/-- What a resolution gives, when the priorities are distinct. -/
theorem resolveRemoteConfig_spec (heval : ∀ layer ∈ layers, Evaluates context layer)
    (hentries : ∀ layer ∈ layers, ∃ members, entries layer.values = .ok members)
    (hdist : layers.Pairwise fun a b => a.priority ≠ b.priority) :
    ∃ resolved, resolveRemoteConfig layers context = .ok resolved ∧
      (∀ key value, resolved.values.lookup key = some value ↔
        Overlay.Top RemoteConfigLayer.priority RemoteConfigLayer.sets
          (layers.filter (applies context)) key value) ∧
      ∀ id, id ∈ resolved.appliedLayerIds ↔
        ∃ layer ∈ layers, applies context layer = true ∧ layer.id = id := by
  obtain ⟨merged, hresolve, hval⟩ := resolveRemoteConfig_eq heval hentries
  refine ⟨_, hresolve, ?_, ?_⟩
  · intro key value
    have hsorted := pairwise_byPriority (hdist.filter (applies context))
    rw [hval, Overlay.lastValue_eq_some_iff hsorted]
    simp only [Overlay.Top, mem_byPriority]
  · grind [mem_byPriority]

end Resolution

/-! ## What the guards of a stored layer leave -/

section Stored

variable {layer : RemoteConfigLayer String} {context : RemoteConfigContext}

/-- What the resolution after publishing gets for a layer. -/
def storedLayer (versionId : ℕ) (createdAt : ℤ) (layer : RemoteConfigLayer String) (index : ℕ) :
    RemoteConfigLayer LayerId :=
  mapRemoteConfigLayerRecordToDefinition (layerRecord versionId createdAt layer index)

/-- The values of the layer pass their guard. -/
def keepsValues (layer : RemoteConfigLayer String) : Bool :=
  isRemoteConfigValueRecord (layer.values.getD .null)

theorem someIncluded_strings (actual : List JsString) {expected : List JsonValue}
    (h : isStringArray (.array expected) = true) :
    ∃ isMatch, someIncluded actual expected = .ok isMatch := by
  induction expected with
  | nil => exact ⟨false, rfl⟩
  | cons value expected ih =>
    obtain ⟨hval, hrest⟩ : (∃ text, value = .string text) ∧
        isStringArray (.array expected) = true := by
      cases value <;> simp_all [isStringArray]
    obtain ⟨text, rfl⟩ := hval
    obtain ⟨isMatch, hmatch⟩ := ih hrest
    by_cases hmem : text ∈ actual
    · simp [someIncluded, stringOf, bind, Except.bind, hmem, pure, Except.pure]
    · simp [someIncluded, stringOf, bind, Except.bind, hmem, hmatch]

/-- Conditions that pass their guard can always be evaluated. -/
theorem matchesEntries_of_guard {members : List (String × JsonValue)}
    (h : isConditionsRecord (some (.object members)) = true) :
    ∃ isMatch, matchesEntries context members = .ok isMatch := by
  induction members with
  | nil => exact ⟨true, rfl⟩
  | cons m members ih =>
    obtain ⟨key, expected⟩ := m
    obtain ⟨hentry, hrest⟩ : (isPrimitive expected || isStringArray expected) = true ∧
        isConditionsRecord (some (.object members)) = true := by
      simpa [isConditionsRecord] using h
    have hmatch : ∃ isMatch, matchesEntry context key expected = .ok isMatch := by
      cases expected with
      | array items =>
        have hstrings : isStringArray (.array items) = true := by
          simpa [isPrimitive] using hentry
        rw [matchesEntry]
        split
        · exact someIncluded_strings _ hstrings
        · exact ⟨_, rfl⟩
      | _ => exact ⟨_, rfl⟩
    obtain ⟨first, hfirst⟩ := hmatch
    obtain ⟨rest, hrest⟩ := ih hrest
    cases first with
    | true => exact ⟨rest, by rw [matchesEntries, hfirst]; exact hrest⟩
    | false => exact ⟨false, by rw [matchesEntries, hfirst]; rfl⟩

variable {anyLayer : RemoteConfigLayer ι}

theorem evaluates_of_guard
    (h : isConditionsRecord anyLayer.conditions = true) : Evaluates context anyLayer := by
  unfold Evaluates matchesLayerConditions
  cases hconds : anyLayer.conditions with
  | none => simp [hconds, isConditionsRecord] at h
  | some value =>
    cases value with
    | object members =>
      rw [hconds] at h
      exact matchesEntries_of_guard h
    | null | bool | number | string | array => simp [hconds, isConditionsRecord] at h

/-- Falsy conditions hold in every context. -/
theorem matches_of_falsy (h : isTruthy anyLayer.conditions = false) :
    matchesLayerConditions anyLayer context = .ok true := by
  simp [matchesLayerConditions, h]

variable (versionId : ℕ) (createdAt : ℤ) (index : ℕ)

theorem conditions_storedLayer : (storedLayer versionId createdAt layer index).conditions =
      if isTruthy layer.conditions = true ∧ isConditionsRecord layer.conditions = true then
        layer.conditions
      else
        none := by
  grind [storedLayer, mapRemoteConfigLayerRecordToDefinition, layerRecord]

theorem matches_congr {κ : Type} {stored : RemoteConfigLayer κ}
    (h : stored.conditions = layer.conditions) :
    matchesLayerConditions stored context = matchesLayerConditions layer context := by
  simp [matchesLayerConditions, h]

theorem matches_storedLayer_kept
    (h : isTruthy layer.conditions = true → isConditionsRecord layer.conditions = true) :
    matchesLayerConditions (storedLayer versionId createdAt layer index) context =
      matchesLayerConditions layer context := by
  cases htruthy : isTruthy layer.conditions with
  | true =>
    apply matches_congr
    rw [conditions_storedLayer, if_pos ⟨htruthy, h htruthy⟩]
  | false =>
    rw [matches_of_falsy htruthy]
    apply matches_of_falsy
    rw [conditions_storedLayer, if_neg (by simp [htruthy])]
    rfl

theorem matches_storedLayer_dropped (h : isConditionsRecord layer.conditions = false) :
    matchesLayerConditions (storedLayer versionId createdAt layer index) context = .ok true := by
  apply matches_of_falsy
  rw [conditions_storedLayer, if_neg (by simp [h])]
  rfl

/-- The values of a row are an object, whatever was stored. -/
theorem entries_storedLayer : entries (storedLayer versionId createdAt layer index).values =
      if keepsValues layer then entries layer.values else .ok [] := by
  have hstored : (storedLayer versionId createdAt layer index).values =
      some (if keepsValues layer then layer.values.getD .null else .object []) := rfl
  rw [hstored]
  cases hkeeps : keepsValues layer with
  | true =>
    cases hvals : layer.values with
    | none => simp [keepsValues, hvals, isRemoteConfigValueRecord] at hkeeps
    | some value => rfl
  | false => rfl

theorem sets_storedLayer (key : String) : (storedLayer versionId createdAt layer index).sets key =
      if keepsValues layer then layer.sets key else none := by
  grind [RemoteConfigLayer.sets, entries_storedLayer]

/-- Values that are stored have entries. -/
theorem entries_of_storable (h : layer.storable = true) :
    ∃ members, entries layer.values = .ok members := by
  unfold RemoteConfigLayer.storable at h
  cases hvals : layer.values with
  | none => simp [hvals] at h
  | some value =>
    cases value with
    | null => simp [hvals] at h
    | bool | number | string | array | object => exact ⟨_, rfl⟩

/-- A priority that is stored is an integer, and is read back. -/
theorem priority_storedLayer (h : layer.storable = true) (versionId : ℕ) (createdAt : ℤ)
    (index : ℕ) : (storedLayer versionId createdAt layer index).priority = layer.priority := by
  unfold RemoteConfigLayer.storable at h
  rw [Bool.and_eq_true, decide_eq_true_eq] at h
  exact Rat.coe_int_num_of_den_eq_one h.1.1

end Stored

/-! ## Publishing -/

structure RemoteConfigPublishRequest where
  versionLabel : Option String
  layers : Option (List (RemoteConfigLayer String))

structure RemoteConfigPublishResult where
  versionLabel : String
  appliedLayerCount : ℕ
  publishedAt : ℤ
  actorId : String

inductive PublishCall where
  | publishVersion (input : PublishRemoteConfigVersionInput)
  | dispatch (payload : RemoteConfigPublishResult)

abbrev PublishCall.Res : PublishCall → Type
  | .publishVersion _ => RemoteConfigVersion
  | .dispatch _ => Unit

/-- The tables, the source of row ids and the queue `config-publish`. -/
structure PublishState where
  tables : RemoteConfigTables
  fresh : ℕ
  queued : List RemoteConfigPublishResult

def PublishCall.exec : (op : PublishCall) → PublishState → Except Exception op.Res × PublishState
  | .publishVersion input, s =>
    let out := (RemoteConfig.publishVersion input).atomically remoteConfigDb.execAlone []
      (s.tables, s.fresh)
    (out.1, { s with tables := out.2.1, fresh := out.2.2 })
  | .dispatch payload, s => (.ok (), { s with queued := s.queued ++ [payload] })

abbrev PublishProg := Prog PublishCall PublishCall.Res Exception

abbrev publishCall (op : PublishCall) : PublishProg op.Res := Prog.await op

/-- The layers that a request publishes. -/
def RemoteConfigPublishRequest.published (request : RemoteConfigPublishRequest) :
    List (RemoteConfigLayer String) :=
  request.layers.getD starterRemoteConfig

/-- The context of the preview that the handler returns. -/
def previewContext (session : CurrentSessionSnapshot) : RemoteConfigContext :=
  [("environment", .text (js "development")), ("userId", .text (js session.userId)),
    ("activeFlags", .texts [js "beta.remote-config-v2"])]

def publishRemoteConfigForCurrentSession (now : ℤ) (session : CurrentSessionSnapshot)
    (request : RemoteConfigPublishRequest) :
    PublishProg (RemoteConfigPublishResult × ResolvedRemoteConfig String) := do
  Prog.ofExcept (requireAccess (canPublishRemoteConfig session.principal))
  let versionLabel := request.versionLabel.getD s!"connected-{now}"
  let persistedVersion ← publishCall (.publishVersion
    { actorId := session.userId
      layers := request.published
      versionLabel := versionLabel
      createdAt := now })
  let publishResult : RemoteConfigPublishResult :=
    { versionLabel := versionLabel
      appliedLayerCount := request.published.length
      publishedAt := persistedVersion.createdAt
      actorId := session.userId }
  publishCall (.dispatch publishResult)
  let preview ← Prog.ofExcept (previewRemoteConfig request.published (previewContext session))
  return (publishResult, preview)

/-! ## The rows after publishing -/

section Publishing

/-- After the rows have been taken one after the other, none of them is active, and no row
has become active. -/
theorem deactivateRows_spec (ids : List ℕ) (s : RemoteConfigTables) (n : ℕ) :
    (deactivateRows ids).wp remoteConfigDb.execAlone
      (Prog.onOk fun _ t => ∀ v ∈ t.1, v.isActive = true → v ∈ s ∧ v.id ∉ ids) (s, n) := by
  induction ids generalizing s n with
  | nil => exact fun v hv _ => ⟨hv, List.not_mem_nil⟩
  | cons id ids ih =>
    apply remoteConfigDb.wp_await_bind
    intro r ws hexec
    have hrow : ∀ v ∈ remoteConfigDb.view s ws, v.isActive = true → v ∈ s ∧ v.id ≠ id := by
      simp only [remoteConfigDb, RemoteConfigStmt.exec, Except.ok.injEq, Prod.mk.injEq,
        true_and] at hexec
      subst hexec
      intro v hv hact
      by_cases hany : s.any fun v => v.id = id && v.isActive
      · -- the row is set to inactive
        rw [if_pos hany] at hv
        obtain ⟨w, hw, rfl⟩ := List.mem_map.mp hv
        by_cases hid : w.id = id
        · simp [hid] at hact
        · rw [if_neg hid]
          exact ⟨hw, hid⟩
      rw [if_neg hany] at hv
      refine ⟨hv, ?_⟩
      intro hid
      exact hany (List.any_eq_true.mpr ⟨v, hv, by simp [hid, hact]⟩)
    refine Prog.wp_mono _ ?_ (ih (remoteConfigDb.view s ws) (n + 1))
    intro out t hout
    cases out with
    | error e => trivial
    | ok u =>
      intro v hv hact
      obtain ⟨hview, hids⟩ := hout v hv hact
      obtain ⟨hs, hid⟩ := hrow v hview hact
      exact ⟨hs, by simp [hid, hids]⟩

/-- After the `UPDATE`, run alone, no version is active. -/
theorem deactivateAll_spec (s : RemoteConfigTables) (n : ℕ) :
    deactivateAll.wp remoteConfigDb.execAlone
      (Prog.onOk fun _ t => ∀ v ∈ t.1, v.isActive = false) (s, n) := by
  apply remoteConfigDb.wp_await_bind
  intro ids ws hexec
  obtain ⟨rfl, rfl⟩ := hexec
  refine Prog.wp_mono _ ?_ (deactivateRows_spec _ s (n + 1))
  intro out t hout
  cases out with
  | error e => trivial
  | ok u => grind

/-- After the transaction, run alone, the new version is the only active one. -/
theorem publishVersion_spec (input : PublishRemoteConfigVersionInput) (s : RemoteConfigTables)
    (n : ℕ) :
    (publishVersion input).wp remoteConfigDb.execAlone
      (Prog.onOk fun _ t => input.layers.all RemoteConfigLayer.storable = true ∧
        ∃ versionId, t.1.filter (fun v => v.isActive) = [input.version versionId]) (s, n) := by
  refine Prog.wp_bind_onOk _ (deactivateAll_spec s n) ?_
  rintro ⟨⟩ ⟨s', n'⟩ hinactive
  refine @Database.wp_await _ _ _ _ _ _ remoteConfigDb (.create input) _ _ _ ?_
  intro version ws hexec
  simp only [remoteConfigDb, RemoteConfigStmt.exec] at hexec
  split at hexec
  · rename_i hstor
    obtain ⟨rfl, rfl⟩ := hexec
    refine ⟨hstor, n', ?_⟩
    have hnone : s'.filter (fun v => v.isActive) = [] := by grind [List.filter_eq_nil_iff]
    show (s' ++ [input.version n']).filter (fun v => v.isActive) = [input.version n']
    rw [List.filter_append, hnone]
    rfl
  · cases hexec

/-- The rows that `findActiveLayers` finds are those of the layers just published. -/
def RowsOf (layers : List (RemoteConfigLayer String)) (rows : List RemoteConfigLayerRecord) :
    Prop :=
  ∃ versionId createdAt, rows.Perm
    (layers.zipIdx.map fun l => layerRecord versionId createdAt l.1 l.2)

/-- What a publication that goes through has found and done. -/
structure Published (layers : List (RemoteConfigLayer String)) (s : PublishState) : Prop where
  storable : ∀ layer ∈ layers, layer.storable = true
  rows : RowsOf layers (findActiveLayers s.tables)

theorem published_of_publishVersion {input : PublishRemoteConfigVersionInput}
    {s s' : PublishState} {version : RemoteConfigVersion}
    (h : (PublishCall.publishVersion input).exec s = (.ok version, s')) :
    Published input.layers s' := by
  have hspec := Prog.run_of_wp _ (publishVersion_spec input s.tables s.fresh) []
  simp only [PublishCall.exec, Prog.atomically] at h
  cases hrun : (publishVersion input).run remoteConfigDb.execAlone [] (s.tables, s.fresh) with
  | mk out t =>
    rw [hrun] at h hspec
    cases out with
    | error e => cases h
    | ok version' =>
      obtain ⟨hstor, versionId, hact⟩ := hspec
      have htables : s'.tables = t.1 := by
        rw [← (Prod.mk.inj h).2]
      refine ⟨List.all_eq_true.mp hstor, versionId, input.createdAt, ?_⟩
      have hperm := List.mergeSort_perm ((t.1.filter fun v => v.isActive).flatMap fun v => v.layers)
        fun a b => a.priority < b.priority ∨
          a.priority = b.priority ∧ a.createdAt ≤ b.createdAt
      rw [hact] at hperm
      rw [findActiveLayers, htables, hact]
      simpa [PublishRemoteConfigVersionInput.version] using hperm

/-- The job in the queue does not touch the tables. -/
theorem Published.dispatch {layers : List (RemoteConfigLayer String)} {s : PublishState}
    (h : Published layers s) (payload : RemoteConfigPublishResult) :
    Published layers ((PublishCall.dispatch payload).exec s).2 :=
  ⟨h.storable, h.rows⟩

theorem publishRemoteConfig_spec (now : ℤ) (session : CurrentSessionSnapshot)
    (request : RemoteConfigPublishRequest) (s : PublishState) :
    (publishRemoteConfigForCurrentSession now session request).wp PublishCall.exec
      (Prog.onOk fun _ s' => Published request.published s') s := by
  unfold publishRemoteConfigForCurrentSession
  cases hallowed : requireAccess (canPublishRemoteConfig session.principal) with
  | error e => trivial
  | ok u =>
    apply Prog.wp_await_bind
    · intro e
      trivial
    · intro version hver
      have hpublished := published_of_publishVersion (Prod.ext hver rfl)
      apply Prog.wp_await_bind
      · intro e
        trivial
      · intro r hr
        cases hpreview : previewRemoteConfig request.published (previewContext session) with
        | ok preview => exact hpublished.dispatch _
        | error e => trivial
      · intro e he
        trivial
    · intro e he
      trivial

end Publishing

/-! ## Publication against preview -/

/-- The resolution of the rows gives the values of the preview, and no row of a layer whose
conditions exclude the context in the preview is applied. -/
def PublishedAsPreviewed (layers : List (RemoteConfigLayer String))
    (rows : List RemoteConfigLayerRecord) (context : RemoteConfigContext) : Prop :=
  ∃ preview published, previewRemoteConfig layers context = .ok preview ∧
    resolveRemoteConfig (rows.map mapRemoteConfigLayerRecordToDefinition) context = .ok published ∧
    (∀ key, published.values.lookup key = preview.values.lookup key) ∧
    ∀ layer i, (layer, i) ∈ layers.zipIdx → matchesLayerConditions layer context = .ok false →
      ∀ id ∈ published.appliedLayerIds, id.index ≠ i

/-- What the guards drop does not show in the context: conditions that do not pass their guard
hold there anyway, and values that do not pass theirs are hidden among the layers that apply:
by a layer of a higher priority, or because the layers whose values pass give the same. -/
structure GuardsDoNotShow (layers : List (RemoteConfigLayer String))
    (context : RemoteConfigContext) : Prop where
  conditions : ∀ layer ∈ layers, isTruthy layer.conditions = true →
    isConditionsRecord layer.conditions = false → matchesLayerConditions layer context = .ok true
  values : ∀ layer ∈ layers.filter (applies context), keepsValues layer = false →
    ∀ key value, layer.sets key = some value →
      Overlay.Hidden RemoteConfigLayer.priority RemoteConfigLayer.sets
        (layers.filter (applies context)) keepsValues layer key value

section Main

variable {layers : List (RemoteConfigLayer String)} {rows : List RemoteConfigLayerRecord}
  {context : RemoteConfigContext}

variable {createdAt : ℤ} {versionId : ℕ}

section

variable (hrows : rows.Perm (layers.zipIdx.map fun l => layerRecord versionId createdAt l.1 l.2))
include hrows

/-- The stored layers are those of the rows. -/
theorem mem_stored {stored : RemoteConfigLayer LayerId} :
    stored ∈ rows.map mapRemoteConfigLayerRecordToDefinition ↔
      ∃ layer i, (layer, i) ∈ layers.zipIdx ∧ storedLayer versionId createdAt layer i = stored := by
  simp only [List.mem_map, hrows.mem_iff]
  constructor
  · rintro ⟨_, ⟨⟨layer, i⟩, hl, rfl⟩, rfl⟩
    exact ⟨layer, i, hl, rfl⟩
  · rintro ⟨layer, i, hl, rfl⟩
    exact ⟨_, ⟨(layer, i), hl, rfl⟩, rfl⟩

theorem pairwise_stored (hstor : ∀ layer ∈ layers, layer.storable = true)
    (hdist : (layers.map RemoteConfigLayer.priority).Nodup) :
    (rows.map mapRemoteConfigLayerRecordToDefinition).Pairwise
      fun a b => a.priority ≠ b.priority := by
  have hperm := (hrows.map mapRemoteConfigLayerRecordToDefinition).map RemoteConfigLayer.priority
  have hsame : ((layers.zipIdx.map fun l => layerRecord versionId createdAt l.1 l.2).map
      mapRemoteConfigLayerRecordToDefinition).map RemoteConfigLayer.priority =
        layers.map RemoteConfigLayer.priority := by
    rw [List.map_map, List.map_map]
    calc layers.zipIdx.map _ = layers.zipIdx.map (RemoteConfigLayer.priority ∘ Prod.fst) := by
          apply List.map_congr_left
          rintro ⟨layer, i⟩ hl
          exact priority_storedLayer (hstor layer (List.fst_mem_of_mem_zipIdx hl)) _ _ i
      _ = layers.map RemoteConfigLayer.priority := by
          rw [← List.map_map, List.zipIdx_map_fst]
  rw [hsame] at hperm
  exact List.pairwise_map.mp (hperm.nodup_iff.mpr hdist)

end

variable {layer : RemoteConfigLayer String}

theorem mem_layers_of_zipIdx {i : ℕ} (h : (layer, i) ∈ layers.zipIdx) : layer ∈ layers :=
  List.fst_mem_of_mem_zipIdx h

/-- When dropped conditions hold anyway, a layer applies after publishing as it did before. -/
theorem applies_storedLayer
    (h : isTruthy layer.conditions = true → isConditionsRecord layer.conditions = false →
      matchesLayerConditions layer context = .ok true) (versionId : ℕ) (createdAt : ℤ) (i : ℕ) :
    applies context (storedLayer versionId createdAt layer i) = applies context layer := by
  by_cases hguard : isTruthy layer.conditions = true ∧ isConditionsRecord layer.conditions = false
  · have hstored : matchesLayerConditions (storedLayer versionId createdAt layer i) context =
        .ok true := matches_storedLayer_dropped versionId createdAt i hguard.2
    have hlayer := h hguard.1 hguard.2
    rw [applies_iff.mpr hstored, applies_iff.mpr hlayer]
  have hkeeps : isTruthy layer.conditions = true → isConditionsRecord layer.conditions = true := by
    grind
  unfold applies
  rw [matches_storedLayer_kept versionId createdAt i hkeeps]

section

variable (hrows : rows.Perm (layers.zipIdx.map fun l => layerRecord versionId createdAt l.1 l.2))
include hrows

/-- Whatever was submitted, the rows can be resolved. -/
theorem resolve_stored (hdist : (layers.map RemoteConfigLayer.priority).Nodup)
    (hstor : ∀ layer ∈ layers, layer.storable = true) :
    ∃ published, resolveRemoteConfig (rows.map mapRemoteConfigLayerRecordToDefinition) context =
        .ok published ∧
      (∀ key value, published.values.lookup key = some value ↔
        Overlay.Top RemoteConfigLayer.priority RemoteConfigLayer.sets
          ((rows.map mapRemoteConfigLayerRecordToDefinition).filter (applies context))
          key value) ∧
      ∀ id, id ∈ published.appliedLayerIds ↔
        ∃ stored ∈ rows.map mapRemoteConfigLayerRecordToDefinition,
          applies context stored = true ∧ stored.id = id := by
  apply resolveRemoteConfig_spec
  · intro stored hstored
    obtain ⟨layer, i, _, rfl⟩ := (mem_stored hrows).mp hstored
    by_cases hguard : isTruthy layer.conditions = true ∧ isConditionsRecord layer.conditions = true
    · obtain ⟨isMatch, hmatch⟩ : Evaluates context layer := evaluates_of_guard hguard.2
      exact ⟨isMatch, (matches_storedLayer_kept versionId createdAt i fun _ => hguard.2).trans hmatch⟩
    refine ⟨true, matches_of_falsy ?_⟩
    rw [conditions_storedLayer, if_neg hguard]
    rfl
  · intro stored hstored
    obtain ⟨layer, i, hl, rfl⟩ := (mem_stored hrows).mp hstored
    rw [entries_storedLayer]
    split
    · exact entries_of_storable (hstor layer (mem_layers_of_zipIdx hl))
    · exact ⟨[], rfl⟩
  · exact pairwise_stored hrows hstor hdist

/-- The rows give what the layers give whose values pass their guard. -/
theorem top_stored_iff (hstor : ∀ layer ∈ layers, layer.storable = true)
    (hconds : ∀ layer ∈ layers, isTruthy layer.conditions = true →
      isConditionsRecord layer.conditions = false →
        matchesLayerConditions layer context = .ok true) (key : String) (value : JsonValue) :
    Overlay.Top RemoteConfigLayer.priority RemoteConfigLayer.sets
        ((rows.map mapRemoteConfigLayerRecordToDefinition).filter (applies context)) key value ↔
      Overlay.Top RemoteConfigLayer.priority RemoteConfigLayer.sets
        ((layers.filter (applies context)).filter keepsValues) key value := by
  have hback : ∀ stored ∈ (rows.map mapRemoteConfigLayerRecordToDefinition).filter
      (applies context), ∀ v, stored.sets key = some v →
      ∃ layer ∈ (layers.filter (applies context)).filter keepsValues,
        layer.sets key = some v ∧ layer.priority = stored.priority := by
    intro stored hstored v hv
    obtain ⟨hmem, happlies⟩ := List.mem_filter.mp hstored
    obtain ⟨layer, i, hl, rfl⟩ := (mem_stored hrows).mp hmem
    have hlayer : layer ∈ layers := mem_layers_of_zipIdx hl
    rw [applies_storedLayer (hconds layer hlayer)] at happlies
    rw [sets_storedLayer] at hv
    cases hkeeps : keepsValues layer with
    | true =>
      rw [hkeeps] at hv
      have hpriority := priority_storedLayer (hstor layer hlayer) versionId createdAt i
      exact ⟨layer, List.mem_filter.mpr ⟨List.mem_filter.mpr ⟨hlayer, happlies⟩, hkeeps⟩, hv,
        hpriority.symm⟩
    | false =>
      rw [hkeeps] at hv
      cases hv
  have hforth : ∀ layer ∈ (layers.filter (applies context)).filter keepsValues,
      ∀ v, layer.sets key = some v →
      ∃ stored ∈ (rows.map mapRemoteConfigLayerRecordToDefinition).filter (applies context),
        stored.sets key = some v ∧ stored.priority = layer.priority := by
    intro layer hkept v hv
    obtain ⟨happlying, hkeeps⟩ := List.mem_filter.mp hkept
    obtain ⟨hlayer, happlies⟩ := List.mem_filter.mp happlying
    obtain ⟨i, hget⟩ := List.mem_iff_getElem?.mp hlayer
    have hi : (layer, i) ∈ layers.zipIdx := List.mk_mem_zipIdx_iff_getElem?.mpr hget
    refine ⟨storedLayer versionId createdAt layer i, List.mem_filter.mpr ⟨?_, ?_⟩, ?_,
      priority_storedLayer (hstor layer hlayer) versionId createdAt i⟩
    · exact (mem_stored hrows).mpr ⟨layer, i, hi, rfl⟩
    · rw [applies_storedLayer (hconds layer hlayer), happlies]
    · rw [sets_storedLayer, hkeeps]
      exact hv
  exact ⟨fun h => h.transfer hback hforth, fun h => h.transfer hforth hback⟩

end

/-- On the rows of a publication that went through. -/
theorem publishedAsPreviewed_of_rows (hrows : RowsOf layers rows)
    (hstor : ∀ layer ∈ layers, layer.storable = true)
    (hdist : (layers.map RemoteConfigLayer.priority).Nodup) :
    PublishedAsPreviewed layers rows context ↔ GuardsDoNotShow layers context := by
  obtain ⟨versionId, createdAt, hrows⟩ := hrows
  obtain ⟨published, hpublished, hpublishedTop, happlied⟩ :=
    resolve_stored hrows hdist hstor
  have hentries : ∀ layer ∈ layers, ∃ members, entries layer.values = .ok members :=
    fun layer hlayer => entries_of_storable (hstor layer hlayer)
  have hpairwise : layers.Pairwise fun a b => a.priority ≠ b.priority :=
    List.pairwise_map.mp hdist
  have hranks : Overlay.DistinctRanks RemoteConfigLayer.priority
      (layers.filter (applies context)) := by
    intro a ha b hb hab
    exact List.inj_on_of_nodup_map hdist (List.mem_filter.mp ha).1 (List.mem_filter.mp hb).1 hab
  constructor
  · rintro ⟨preview, published', hpreview, hpublished', hvals, hexcluded⟩
    have hsame : published' = published := by
      rw [hpublished] at hpublished'
      exact (Except.ok.inj hpublished').symm
    subst hsame
    have heval : ∀ layer ∈ layers, Evaluates context layer := evaluates_of_resolve hpreview
    have hconds : ∀ layer ∈ layers, isTruthy layer.conditions = true →
        isConditionsRecord layer.conditions = false →
          matchesLayerConditions layer context = .ok true := by
      intro layer hlayer _ hguard
      obtain ⟨isMatch, hmatch⟩ := heval layer hlayer
      cases isMatch with
      | true => exact hmatch
      | false =>
        -- the row lost its conditions, so it is applied
        obtain ⟨i, hget⟩ := List.mem_iff_getElem?.mp hlayer
        have hi : (layer, i) ∈ layers.zipIdx := List.mk_mem_zipIdx_iff_getElem?.mpr hget
        have hid : (⟨versionId, i⟩ : LayerId) ∈ published'.appliedLayerIds := by
          rw [happlied]
          refine ⟨storedLayer versionId createdAt layer i, ?_, ?_, rfl⟩
          · exact (mem_stored hrows).mpr ⟨layer, i, hi, rfl⟩
          · exact applies_iff.mpr (matches_storedLayer_dropped versionId createdAt i hguard)
        exact absurd rfl (hexcluded layer i hi hmatch _ hid)
    obtain ⟨resolved, hresolved, hresolvedTop, _⟩ :=
      resolveRemoteConfig_spec heval hentries hpairwise
    have hpreviewed : preview = resolved := by grind [previewRemoteConfig]
    subst hpreviewed
    refine ⟨hconds, ?_⟩
    intro layer hlayer hkeeps key value hset
    refine (Overlay.top_filter_iff hranks keepsValues).mp ?_ layer hlayer hkeeps value hset
    intro v
    rw [← top_stored_iff hrows hstor hconds, ← hpublishedTop, hvals, hresolvedTop]
  · intro h
    have heval : ∀ layer ∈ layers, Evaluates context layer := by
      intro layer hlayer
      cases htruthy : isTruthy layer.conditions with
      | false => exact ⟨true, matches_of_falsy htruthy⟩
      | true =>
        cases hguard : isConditionsRecord layer.conditions with
        | true => exact evaluates_of_guard hguard
        | false => exact ⟨true, h.conditions layer hlayer htruthy hguard⟩
    obtain ⟨preview, hpreview, hpreviewTop, _⟩ :=
      resolveRemoteConfig_spec heval hentries hpairwise
    refine ⟨preview, published, hpreview, hpublished, ?_, ?_⟩
    · intro key
      have htop : ∀ value, published.values.lookup key = some value ↔
          preview.values.lookup key = some value := by
        intro value
        rw [hpublishedTop, hpreviewTop, top_stored_iff hrows hstor h.conditions]
        exact (Overlay.top_filter_iff hranks keepsValues).mpr
          (fun layer hlayer hkeeps => h.values layer hlayer hkeeps key) value
      exact Option.ext htop
    intro layer i hi hmatch id hid
    obtain ⟨stored, hstored, happlies, rfl⟩ := (happlied id).mp hid
    obtain ⟨layer', j, hj, rfl⟩ := (mem_stored hrows).mp hstored
    rintro rfl
    -- the row belongs to the layer itself, and applies as the layer does
    have hget := List.mk_mem_zipIdx_iff_getElem?.mp hi
    have hget' := List.mk_mem_zipIdx_iff_getElem?.mp hj
    have hsame : layer' = layer := by
      rw [show (storedLayer versionId createdAt layer' j).id.index = j from rfl, hget'] at hget
      exact Option.some.inj hget
    subst hsame
    rw [applies_storedLayer (h.conditions layer' (mem_layers_of_zipIdx hj)), applies_iff,
      hmatch] at happlies
    cases happlies

end Main

/-- After a publication that is accepted, of layers with distinct priorities, the resolution
for a context gives what the preview gives exactly when what the guards drop does not show
there. -/
theorem publishedAsPreviewed_iff (now : ℤ) (session : CurrentSessionSnapshot)
    (request : RemoteConfigPublishRequest)
    (hdistinct : (request.published.map RemoteConfigLayer.priority).Nodup)
    (faults : List (Option Exception)) (s s' : PublishState)
    (result : RemoteConfigPublishResult × ResolvedRemoteConfig String)
    (haccepted : (publishRemoteConfigForCurrentSession now session request).run
      PublishCall.exec faults s = (.ok result, s'))
    (context : RemoteConfigContext) :
    PublishedAsPreviewed request.published (findActiveLayers s'.tables) context ↔
      GuardsDoNotShow request.published context := by
  have hspec := Prog.run_of_wp _ (publishRemoteConfig_spec now session request s) faults
  rw [haccepted] at hspec
  exact publishedAsPreviewed_of_rows hspec.rows hspec.storable hdistinct

/-! ## Publications that go through -/

theorem deactivateRows_run (ids : List ℕ) (s : RemoteConfigTables) (n : ℕ) :
    ∃ t, (deactivateRows ids).run remoteConfigDb.execAlone [] (s, n) = (.ok (), t) := by
  induction ids generalizing s n with
  | nil => exact ⟨(s, n), rfl⟩
  | cons id ids ih =>
    obtain ⟨t, ht⟩ := ih (remoteConfigDb.view s
      (if s.any fun v => v.id = id && v.isActive then [.setActive id false] else [.lock id])) (n + 1)
    exact ⟨t, ht⟩

/-- With nobody else around, storable layers are published. -/
theorem publishVersion_run (input : PublishRemoteConfigVersionInput)
    (hstor : input.layers.all RemoteConfigLayer.storable = true) (s : RemoteConfigTables)
    (n : ℕ) :
    ∃ version t, (publishVersion input).run remoteConfigDb.execAlone [] (s, n) =
      (.ok version, t) := by
  obtain ⟨⟨s', n'⟩, ht⟩ := deactivateRows_run
    ((s.filter fun v => v.isActive).map fun v => v.id) s (n + 1)
  have hall : deactivateAll.run remoteConfigDb.execAlone [] (s, n) = (.ok (), (s', n')) := ht
  refine ⟨input.version n', (s' ++ [input.version n'], n' + 1), ?_⟩
  rw [publishVersion, Prog.run_bind, hall, Prog.andThen_ok, Prog.run_await]
  simp only [Database.execAlone, remoteConfigDb, RemoteConfigStmt.exec, hstor]
  rfl

/-- The request of an admin is accepted when the layers can be stored and previewed. -/
theorem publishRemoteConfig_accepted (now : ℤ) {session : CurrentSessionSnapshot}
    (hadmin : SystemRole.admin ∈ session.principal.systemRoles)
    (request : RemoteConfigPublishRequest)
    (hstor : request.published.all RemoteConfigLayer.storable = true)
    (hpreview : ∃ preview, previewRemoteConfig request.published (previewContext session) =
      .ok preview) (s : PublishState) :
    ∃ result s', (publishRemoteConfigForCurrentSession now session request).run
      PublishCall.exec [] s = (.ok result, s') := by
  obtain ⟨preview, hpreview⟩ := hpreview
  have hallowed : requireAccess (canPublishRemoteConfig session.principal) = .ok () :=
    (requireAccess_of_admin (by decide)).mpr hadmin
  obtain ⟨version, t, hrun⟩ := publishVersion_run
    { actorId := session.userId
      layers := request.published
      versionLabel := request.versionLabel.getD s!"connected-{now}"
      createdAt := now } hstor s.tables s.fresh
  have hver : (PublishCall.publishVersion
      { actorId := session.userId
        layers := request.published
        versionLabel := request.versionLabel.getD s!"connected-{now}"
        createdAt := now }).exec s = (.ok version, { s with tables := t.1, fresh := t.2 }) := by
    simp only [PublishCall.exec, Prog.atomically, hrun]
  let result : RemoteConfigPublishResult :=
    { versionLabel := request.versionLabel.getD s!"connected-{now}"
      appliedLayerCount := request.published.length
      publishedAt := version.createdAt
      actorId := session.userId }
  refine ⟨(result, preview), { tables := t.1, fresh := t.2, queued := s.queued ++ [result] }, ?_⟩
  unfold publishRemoteConfigForCurrentSession
  rw [hallowed]
  refine (Prog.run_await_bind PublishCall.exec _ _ [] s).trans ?_
  simp only [hver]
  rw [hpreview]
  rfl

/-! ## Two publications by an admin -/

def rootSession : CurrentSessionSnapshot where
  userId := "root"
  email := "root@example.org"
  displayName := none
  principal :=
    { userId := "root"
      email := "root@example.org"
      systemRoles := [.admin]
      entitlements := []
      featureFlags := [] }

/-- No version has been published. -/
def unpublished : PublishState where
  tables := []
  fresh := 0
  queued := []

/-- The request that names no layers. -/
def starterRequest : RemoteConfigPublishRequest where
  versionLabel := none
  layers := none

theorem starterRequest_accepted :
    ∃ result s', (publishRemoteConfigForCurrentSession 0 rootSession starterRequest).run
      PublishCall.exec [] unpublished = (.ok result, s') := by
  apply publishRemoteConfig_accepted 0 (by decide) starterRequest (by decide)
  have heval : ∀ layer ∈ starterRemoteConfig,
      Evaluates (previewContext rootSession) layer := by
    intro layer hlayer
    rcases List.mem_cons.mp hlayer with rfl | hlayer
    · exact ⟨true, matches_of_falsy rfl⟩
    · rw [List.mem_singleton.mp hlayer]
      exact evaluates_of_guard (by decide)
  have hentries : ∀ layer ∈ starterRemoteConfig, ∃ members, entries layer.values = .ok members := by
    intro layer hlayer
    exact entries_of_storable (List.all_eq_true.mp (by decide) layer hlayer)
  obtain ⟨preview, hpreview, _⟩ :=
    resolveRemoteConfig_spec heval hentries (List.pairwise_map.mp (by decide))
  exact ⟨preview, hpreview⟩

theorem publishedAsPreviewed_starter :
    ∃ result s', (publishRemoteConfigForCurrentSession 0 rootSession starterRequest).run
        PublishCall.exec [] unpublished = (.ok result, s') ∧
      (PublishedAsPreviewed starterRequest.published (findActiveLayers s'.tables)
          (previewContext rootSession) ↔
        GuardsDoNotShow starterRequest.published (previewContext rootSession)) := by
  obtain ⟨result, s', haccepted⟩ := starterRequest_accepted
  exact ⟨result, s', haccepted, publishedAsPreviewed_iff 0 rootSession starterRequest (by decide)
    [] unpublished s' result haccepted (previewContext rootSession)⟩

/-- A layer whose conditions no context meets: an object is compared by identity. -/
def excludedLayer : RemoteConfigLayer String where
  id := "staging"
  scope := .environment
  priority := 1
  conditions := some (.object [("environment", .object [("name", .string (js "staging"))])])
  values := some (.object [("screenshotEnabled", .bool true)])

def excludedRequest : RemoteConfigPublishRequest where
  versionLabel := none
  layers := some [excludedLayer]

theorem excludedRequest_accepted :
    ∃ result s', (publishRemoteConfigForCurrentSession 0 rootSession excludedRequest).run
      PublishCall.exec [] unpublished = (.ok result, s') := by
  apply publishRemoteConfig_accepted 0 (by decide) excludedRequest (by decide)
  refine ⟨⟨[], []⟩, ?_⟩
  have hmatching : matchingLayers (previewContext rootSession) [excludedLayer] = .ok [] := rfl
  show resolveRemoteConfig [excludedLayer] (previewContext rootSession) = _
  rw [resolveRemoteConfig, hmatching]
  simp [byPriority, mergeLayers, bind, Except.bind, pure, Except.pure]

/-- The conditions of a layer that is excluded in the preview are dropped by the guard, and
after publishing the layer applies. -/
theorem dropped_conditions_apply :
    ¬ ∀ (now : ℤ) (session : CurrentSessionSnapshot) (request : RemoteConfigPublishRequest),
      (request.published.map RemoteConfigLayer.priority).Nodup →
      ∀ (faults : List (Option Exception)) (s s' : PublishState)
        (result : RemoteConfigPublishResult × ResolvedRemoteConfig String),
        (publishRemoteConfigForCurrentSession now session request).run PublishCall.exec faults s =
          (.ok result, s') →
        ∀ context, PublishedAsPreviewed request.published (findActiveLayers s'.tables) context := by
  intro h
  obtain ⟨result, s', haccepted⟩ := excludedRequest_accepted
  have hspec := Prog.run_of_wp _
    (publishRemoteConfig_spec 0 rootSession excludedRequest unpublished) []
  rw [haccepted] at hspec
  have hagree := h 0 rootSession excludedRequest (by decide) [] unpublished s' result haccepted
    (previewContext rootSession)
  have hguards := (publishedAsPreviewed_of_rows hspec.rows hspec.storable (by decide)).mp hagree
  have hholds := hguards.conditions excludedLayer List.mem_cons_self rfl (by decide)
  cases hholds

end QuizMind.RemoteConfig
