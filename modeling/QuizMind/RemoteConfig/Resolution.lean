import QuizMind.RemoteConfig.Preview
import QuizMind.Table.Positions

/-! # Which layer decides

For layers of their declared type `resolveRemoteConfig` gives every key the value of the
matching layer that defines the key and is greatest by priority and position, except for one
key: the assignment to `__proto__` adds no member (`resolvesByPriority_iff`).
-/

namespace QuizMind.RemoteConfig

open Prod (fst)

variable {ι : Type}

/-- Conditions and values are of their declared types. -/
structure RemoteConfigLayer.WellTyped (layer : RemoteConfigLayer ι) : Prop where
  conditions : layer.conditions = none ∨ isConditionsRecord layer.conditions = true
  values : ∃ value, layer.values = some value ∧ isRemoteConfigValueRecord value = true

/-- The value that a layer has under a key; of two members of one name the last one counts. -/
def RemoteConfigLayer.defines (layer : RemoteConfigLayer ι) (key : String) : Option JsonValue :=
  match entries layer.values with
  | .ok members => members.reverse.lookup key
  | .error _ => none

/-- The matching layers, with their positions in the list. -/
def matching (layers : List (RemoteConfigLayer ι)) (context : RemoteConfigContext) :
    List (RemoteConfigLayer ι × ℕ) :=
  layers.zipIdx.filter fun l => applies context l.1

/-- By priority, and among equal priorities by position. -/
def place (l : RemoteConfigLayer ι × ℕ) : ℚ ×ₗ ℕ :=
  Positions.placed RemoteConfigLayer.priority l

/-- Under every key stands the value of the greatest matching layer that defines it, and nothing
else; the ids are those of the matching layers, from the least one to the greatest. -/
structure LastWriter (layers : List (RemoteConfigLayer ι)) (context : RemoteConfigContext)
    (resolved : ResolvedRemoteConfig ι) : Prop where
  values : ∀ key value, resolved.values.lookup key = some value ↔
    Overlay.Top place (fun l key => l.1.defines key) (matching layers context) key value
  applied : ∃ ordered : List (RemoteConfigLayer ι × ℕ), ordered.Perm (matching layers context) ∧
    ordered.Pairwise (fun a b => place a < place b) ∧
      resolved.appliedLayerIds = ordered.map fun l => l.1.id

structure ResolvesByPriority (layers : List (RemoteConfigLayer ι))
    (context : RemoteConfigContext) : Prop where
  lastWriter : ∃ resolved, resolveRemoteConfig layers context = .ok resolved ∧
    LastWriter layers context resolved
  permutation : ∀ others : List (RemoteConfigLayer ι), others.Perm layers →
    (layers.filter (applies context)).Pairwise (fun a b => a.priority ≠ b.priority) →
      resolveRemoteConfig others context = resolveRemoteConfig layers context

/-! ## Layers of their declared type -/

theorem RemoteConfigLayer.WellTyped.evaluates {layer : RemoteConfigLayer ι}
    (h : layer.WellTyped) (context : RemoteConfigContext) : Evaluates context layer := by
  rcases h.conditions with hnone | hguard
  · refine ⟨true, matches_of_falsy ?_⟩
    rw [hnone]
    rfl
  · exact evaluates_of_guard hguard

theorem RemoteConfigLayer.WellTyped.entries_ok {layer : RemoteConfigLayer ι}
    (h : layer.WellTyped) : ∃ members, entries layer.values = .ok members := by
  obtain ⟨value, hval, hguard⟩ := h.values
  rw [hval]
  cases value with
  | object members => exact ⟨members, rfl⟩
  | _ => cases hguard

theorem sets_eq_defines (layer : RemoteConfigLayer ι) {key : String} (h : key ≠ "__proto__") :
    layer.sets key = layer.defines key := if_neg h

theorem sets_proto (layer : RemoteConfigLayer ι) : layer.sets "__proto__" = none := if_pos rfl

/-! ## The applied layers -/

variable (layers : List (RemoteConfigLayer ι)) (context : RemoteConfigContext)

theorem map_fst_matching : (matching layers context).map fst = layers.filter (applies context) := by
  have hfilt := List.filter_map (f := fst) (p := applies context) (l := layers.zipIdx)
  rw [List.zipIdx_map_fst] at hfilt
  rw [hfilt]
  rfl

theorem ascending_matching : Positions.Ascending (matching layers context) :=
  (Positions.ascending_zipIdx layers).filter _

/-- The matching layers in the order in which they are applied. -/
def ordered (layers : List (RemoteConfigLayer ι)) (context : RemoteConfigContext) :
    List (RemoteConfigLayer ι × ℕ) :=
  Positions.order RemoteConfigLayer.priority (matching layers context)

theorem byPriority_eq_ordered :
    byPriority (layers.filter (applies context)) = (ordered layers context).map fst := by
  have hsort : (ordered layers context).map fst = ((matching layers context).map
      fst).mergeSort fun a b => a.priority ≤ b.priority :=
    Positions.map_fst_order (ascending_matching layers context)
  rw [map_fst_matching] at hsort
  exact hsort.symm

theorem lastValue_map_fst (l : List (RemoteConfigLayer ι × ℕ)) (key : String) :
    Overlay.lastValue RemoteConfigLayer.sets (l.map fst) key =
      Overlay.lastValue (fun l key => l.1.sets key) l key := by
  induction l with
  | nil => rfl
  | cons first l ih => rw [List.map_cons, Overlay.lastValue_cons, Overlay.lastValue_cons, ih]

/-- The value under a key is that of the greatest matching layer that sets it. -/
theorem lookup_eq_some_iff {layers : List (RemoteConfigLayer ι)} {context : RemoteConfigContext}
    {key : String} {value : JsonValue} :
    Overlay.lastValue RemoteConfigLayer.sets (byPriority (layers.filter (applies context))) key =
        some value ↔
      Overlay.Top place (fun l key => l.1.sets key) (matching layers context) key value := by
  have hsorted : (ordered layers context).Pairwise fun a b => place a < place b :=
    Positions.pairwise_order (ascending_matching layers context)
  have hmem : ∀ l, l ∈ ordered layers context ↔ l ∈ matching layers context :=
    fun l => (Positions.order_perm _).mem_iff
  rw [byPriority_eq_ordered, lastValue_map_fst, Overlay.lastValue_eq_some_iff hsorted]
  simp only [Overlay.Top, hmem]

section Typed

variable {layers : List (RemoteConfigLayer ι)} (htyped : ∀ layer ∈ layers, layer.WellTyped)
  (context : RemoteConfigContext)

include htyped

/-- What a resolution gives, whatever the priorities are. -/
theorem resolveRemoteConfig_typed : ∃ resolved, resolveRemoteConfig layers context = .ok resolved ∧
      (∀ key value, resolved.values.lookup key = some value ↔
        Overlay.Top place (fun l key => l.1.sets key) (matching layers context) key value) ∧
      resolved.appliedLayerIds = (ordered layers context).map fun l => l.1.id := by
  obtain ⟨merged, hresolve, hval⟩ := resolveRemoteConfig_eq
    (fun layer hlayer => (htyped layer hlayer).evaluates context)
    (fun layer hlayer => (htyped layer hlayer).entries_ok)
  refine ⟨_, hresolve, ?_, ?_⟩
  · simp [hval, lookup_eq_some_iff]
  · simp [byPriority_eq_ordered]

/-- Without ties the resolution does not depend on the order of the layers. -/
theorem resolveRemoteConfig_perm {others : List (RemoteConfigLayer ι)} (hperm : others.Perm layers)
    (hdist : (layers.filter (applies context)).Pairwise fun a b => a.priority ≠ b.priority) :
    resolveRemoteConfig others context = resolveRemoteConfig layers context := by
  have hmatching : matchingLayers context others = .ok (others.filter (applies context)) :=
    matchingLayers_eq fun layer hlayer => (htyped layer (hperm.mem_iff.mp hlayer)).evaluates context
  have hmatching' : matchingLayers context layers = .ok (layers.filter (applies context)) :=
    matchingLayers_eq fun layer hlayer => (htyped layer hlayer).evaluates context
  have happlied : byPriority (others.filter (applies context)) =
      byPriority (layers.filter (applies context)) :=
    Positions.mergeSort_eq_of_perm (hperm.filter _) hdist
  rw [resolveRemoteConfig, resolveRemoteConfig, hmatching, hmatching']
  show (mergeLayers (byPriority _) [] >>= _) = (mergeLayers (byPriority _) [] >>= _)
  rw [happlied]

/-- A last writer of the key `__proto__` cannot be. -/
theorem LastWriter.proto_none {resolved : ResolvedRemoteConfig ι}
    (hresolve : resolveRemoteConfig layers context = .ok resolved)
    (h : LastWriter layers context resolved) {layer : RemoteConfigLayer ι}
    (hlayer : layer ∈ layers) (happlies : applies context layer = true) :
    layer.defines "__proto__" = none := by
  obtain ⟨resolved', hresolve', hvals, _⟩ := resolveRemoteConfig_typed htyped context
  obtain rfl : resolved = resolved' := by grind
  by_contra hdefines
  -- the greatest layer that defines the key would give it a value
  have hfst : layer ∈ (matching layers context).map fst := by
    grind [map_fst_matching]
  obtain ⟨l, hl, rfl⟩ := List.mem_map.mp hfst
  have hsome : (l.1.defines "__proto__").isSome := Option.isSome_iff_ne_none.mpr hdefines
  obtain ⟨top, htop, htopsome, hmax⟩ : ∃ top ∈ matching layers context,
      (top.1.defines "__proto__").isSome ∧ ∀ other ∈ matching layers context,
        (other.1.defines "__proto__").isSome → place other ≤ place top :=
    Overlay.exists_top hl hsome
  obtain ⟨value, hval⟩ := Option.isSome_iff_exists.mp htopsome
  have hlook := (h.values "__proto__" value).mpr ⟨top, htop, hval, hmax⟩
  obtain ⟨setting, _, hset, _⟩ := (hvals "__proto__" value).mp hlook
  have hnone : setting.1.sets "__proto__" = none := sets_proto setting.1
  exact absurd (hnone.symm.trans hset) (Option.some_ne_none value).symm

/-- The resolution is last writer by priority exactly where no matching layer defines the key
`__proto__`. -/
theorem resolvesByPriority_iff : ResolvesByPriority layers context ↔
      ∀ layer ∈ layers, applies context layer = true → layer.defines "__proto__" = none := by
  constructor
  · rintro ⟨⟨resolved, hresolve, hwriter⟩, _⟩ layer hlayer happlies
    exact hwriter.proto_none htyped context hresolve hlayer happlies
  intro hproto
  obtain ⟨resolved, hresolve, hvalues, hids⟩ := resolveRemoteConfig_typed htyped context
  have hsame : ∀ key, ∀ l ∈ matching layers context, l.1.sets key = l.1.defines key := by
    intro key l hl
    by_cases hkey : key = "__proto__"
    · obtain ⟨hzip, happlies⟩ := List.mem_filter.mp hl
      rw [hkey, sets_proto, hproto l.1 (List.fst_mem_of_mem_zipIdx hzip) happlies]
    · exact sets_eq_defines l.1 hkey
  constructor
  · refine ⟨resolved, hresolve, ?_, ?_⟩
    · intro key value
      rw [hvalues key value]
      exact Overlay.top_congr (hsame key)
    · exact ⟨ordered layers context, Positions.order_perm _,
        Positions.pairwise_order (ascending_matching layers context), hids⟩
  · intro others hperm hdistinct
    exact resolveRemoteConfig_perm htyped context hperm hdistinct

end Typed

/-- A layer whose values have a member named `__proto__`. -/
def protoLayer : RemoteConfigLayer String where
  id := "proto"
  scope := .global
  priority := 10
  conditions := none
  values := some (.object [("__proto__", .bool true)])

theorem protoLayer_typed : ∀ layer ∈ [protoLayer], layer.WellTyped := by
  intro layer hlayer
  obtain rfl := List.mem_singleton.mp hlayer
  constructor
  · exact Or.inl rfl
  · exact ⟨_, rfl, by decide⟩

theorem not_resolvesByPriority :
    ¬ ∀ (layers : List (RemoteConfigLayer String)) (context : RemoteConfigContext),
      (∀ layer ∈ layers, layer.WellTyped) → ResolvesByPriority layers context := by
  intro hall
  obtain ⟨resolved, hresolve, hwriter⟩ := (hall [protoLayer] [] protoLayer_typed).lastWriter
  have hnone : protoLayer.defines "__proto__" = none :=
    hwriter.proto_none protoLayer_typed [] hresolve List.mem_cons_self rfl
  cases hnone

theorem resolvesByPriority_iff_proto : ResolvesByPriority [protoLayer] [] ↔
      ∀ layer ∈ [protoLayer], applies [] layer = true → layer.defines "__proto__" = none :=
  resolvesByPriority_iff protoLayer_typed []

end QuizMind.RemoteConfig
