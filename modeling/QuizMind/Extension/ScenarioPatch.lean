import QuizMind.Extension.ScenarioRuns

/-! # What a patch of a scenario leaves as it was

A patch is merged into the stored configuration two levels deep, and the result is normalized as
if it were new. A member of `output.image`, which is three levels deep, is lost when the patch
gives another one: `framed_iff`.
-/

namespace QuizMind.Scenarios

open Ai (JsValue Payload)
open Async.Serial (states)
open Logs (get)
open List (mem_cons not_mem_nil)

/-! ## Paths -/

/-- The value that is reached from `value` by the members of the path. -/
def valueAt (value : JsValue) : List String → Option JsValue
  | [] => some value
  | key :: path => (get (some value) key).bind fun member => valueAt member path

/-- A value without members. -/
def IsLeaf (value : JsValue) : Prop := membersOf (some value) = none

variable {key : String}

theorem mem_of_lookup {members : Payload} {value : JsValue} (h : members.lookup key = some value) :
    (key, value) ∈ members := by
  obtain ⟨before, after, rfl, -⟩ := List.lookup_eq_some_iff.mp h
  exact List.mem_append_right _ List.mem_cons_self

/-- A leaf below an object is below one of its members. -/
theorem valueAt_members {members : Payload} {path : List String} {leaf : JsValue}
    (hleaf : IsLeaf leaf) (h : valueAt (.object members) path = some leaf) :
    ∃ key value rest, path = key :: rest ∧ (key, value) ∈ members ∧
      valueAt value rest = some leaf := by
  cases path with
  | nil =>
    cases h
    cases hleaf
  | cons key rest =>
    obtain ⟨value, hget, hval⟩ := Option.bind_eq_some_iff.mp h
    exact ⟨key, value, rest, rfl, mem_of_lookup hget, hval⟩

/-- Below a leaf there is nothing. -/
theorem valueAt_leaf {value leaf : JsValue} {path : List String}
    (h : valueAt value path = some leaf) (hval : IsLeaf value) : path = [] ∧ leaf = value := by
  cases path with
  | nil =>
    cases h
    exact ⟨rfl, rfl⟩
  | cons key rest =>
    obtain ⟨member, hget, -⟩ := Option.bind_eq_some_iff.mp h
    cases value with
    | object members => cases hval
    | _ => cases hget

theorem valueAt_append (value : JsValue) (path rest : List String) :
    valueAt value (path ++ rest) = (valueAt value path).bind fun inner => valueAt inner rest := by
  induction path generalizing value with
  | nil => rfl
  | cons key path ih =>
    show (get (some value) key).bind (fun member => valueAt member (path ++ rest)) =
      ((get (some value) key).bind fun member => valueAt member path).bind _
    rcases get (some value) key with _ | member
    · rfl
    · exact ih member

theorem valueAt_member (members : Payload) (key : String) :
    valueAt (.object members) [key] = members.lookup key := Option.bind_fun_some _

/-! ## The merge -/

theorem lookup_spread (members others : Payload) (key : String) :
    (spread members others).lookup key = (others.lookup key).or (members.lookup key) := by
  unfold spread
  rw [List.lookup_append]
  rcases hother : others.lookup key with _ | value
  · have hkept : (members.filter fun member => (others.lookup member.1).isNone).lookup key =
        members.lookup key := by
      induction members with
      | nil => rfl
      | cons member members ih =>
        obtain ⟨key', value⟩ := member
        by_cases hkey : key = key'
        · subst hkey
          rw [List.filter_cons_of_pos (by rw [hother]; rfl)]
          simp
        have hskip : (key == key') = false := beq_false_of_ne hkey
        rw [List.lookup_cons, hskip, ← ih, List.filter_cons]
        split
        · rw [List.lookup_cons, hskip]
        · rfl
    rw [hkept]
    cases members.lookup key <;> rfl
  · grind

/-- The members of the object at the key. -/
def partOf (members : Payload) (key : String) : Payload :=
  (membersOf (members.lookup key)).getD []

theorem valueAt_part (members : Payload) (key member : String) :
    valueAt (.object members) [key, member] = (partOf members key).lookup member := by
  show ((members.lookup key).bind fun value =>
    (get (some value) member).bind fun value => some value) = _
  unfold partOf
  rcases members.lookup key with _ | value
  · rfl
  cases value with
  | object inner =>
    exact Option.bind_fun_some _
  | _ => rfl

def partKeys : List String := ["ai", "prompt", "window", "input", "output"]

theorem lookup_mergedMembers_of_notMem (current patch : Payload) (h : key ∉ partKeys) :
    (mergedMembers current patch).lookup key = none := by
  refine List.lookup_eq_none_iff.mpr ?_
  intro member hmember
  obtain ⟨partKey, hpart, rfl⟩ := List.mem_map.mp hmember
  rw [bne_iff_ne]
  rintro rfl
  exact h hpart

theorem lookup_mergePatch (current patch : Payload) (h : key ∉ partKeys) :
    (mergePatch current patch).lookup key = (patch.lookup key).or (current.lookup key) := by
  unfold mergePatch
  rw [lookup_spread, lookup_mergedMembers_of_notMem current patch h, lookup_spread]
  rfl

theorem lookup_mergePatch_part (current patch : Payload) (h : key ∈ partKeys) :
    (mergePatch current patch).lookup key =
      some (.object (spread (partOf current key) (partOf patch key))) := by
  have hmember : (mergedMembers current patch).lookup key =
      some (mergedMember current patch key) := by
    unfold partKeys at h
    simp only [mem_cons, not_mem_nil, or_false] at h
    rcases h with rfl | rfl | rfl | rfl | rfl <;> rfl
  unfold mergePatch
  rw [lookup_spread, hmember]
  rfl

/-! ## What is read from the merge -/

section Merged

variable {env : ScenarioEnv} {before after : ScenarioConfig} {patch : Payload} {now : ℤ}
  {uuid : Uuid}

/-- What is read from a stored scenario when the patch is merged into it. -/
abbrev PatchReading (env : ScenarioEnv) (before : ScenarioConfig) (patch : Payload) (now : ℤ)
    (uuid : Uuid) (after : ScenarioConfig) : Type :=
  Reading env (some (.object (mergePatch before.members patch)))
    ⟨some before.id, some before.toJson, now⟩ uuid after

variable (r : PatchReading env before patch now uuid after)
include r

theorem root_merge : r.root = mergePatch before.members patch := by
  have hroot := asObj_eq_ok r.root_eq
  exact (JsValue.object.inj (Option.some.inj hroot)).symm

variable {key : String}

theorem root_lookup (hkey : key ∉ partKeys) (habsent : valueAt (.object patch) [key] = none) :
    r.root.lookup key = before.members.lookup key := by
  grind [valueAt_member, root_merge, lookup_mergePatch]

omit r in
/-- The part that the normalization reads is the merge of the two parts. -/
theorem part_merge {part : Payload} (hkey : key ∈ partKeys) {default : JsValue}
    (hpart : asObj (some (coalesce ((mergePatch before.members patch).lookup key) default)) key =
      .ok part) :
    part = spread (partOf before.members key) (partOf patch key) := by
  rw [lookup_mergePatch_part before.members patch hkey] at hpart
  cases asObj_eq_ok hpart
  rfl

omit r in
/-- What is not in the patch is read as it is stored. -/
theorem part_lookup {part : Payload} {member : String}
    (hpart : part = spread (partOf before.members key) (partOf patch key))
    (habsent : valueAt (.object patch) [key, member] = none) :
    part.lookup member = (partOf before.members key).lookup member := by
  rw [valueAt_part] at habsent
  rw [hpart, lookup_spread, habsent]
  rfl

theorem ai_merge : r.ai = spread (partOf before.members "ai") (partOf patch "ai") :=
  part_merge (by decide) (root_merge r ▸ r.ai_eq)

theorem prompt_merge : r.prompt = spread (partOf before.members "prompt") (partOf patch "prompt") :=
  part_merge (by decide) (root_merge r ▸ r.prompt_eq)

theorem window_merge : r.window = spread (partOf before.members "window") (partOf patch "window") :=
  part_merge (by decide) (root_merge r ▸ r.window_eq)

theorem output_merge : r.output = spread (partOf before.members "output") (partOf patch "output") :=
  part_merge (by decide) (root_merge r ▸ r.output_eq)

/-! ## Leaves -/

variable {value : Option JsValue}

omit r in
theorem requiredString_kept {field : String} {max : ℕ} {t t' : Text}
    (ht : Label max t) (hval : value = some (.string t))
    (h : requiredString value field max = .ok t') : t' = t := by
  rw [hval, requiredString_label ht] at h
  cases h
  rfl

omit r in
theorem cleanString_kept {field : String} {max : ℕ} {t t' : Option Text}
    (ht : ∀ given ∈ t, Cleaned max given) (hval : value = some (ofText t))
    (h : cleanString value field max false = .ok t') : t' = t := by
  rw [hval, cleanString_ofText ht] at h
  cases h
  rfl

variable {leaf : JsValue} {path : List String}

theorem ai_kept (hnormal : before.Normal) (hleaf : IsLeaf leaf)
    (h : valueAt before.ai.toJson path = some leaf)
    (habsent : valueAt (.object patch) ("ai" :: path) = none) :
    valueAt after.ai.toJson path = some leaf := by
  obtain ⟨key, value, rest, rfl, hmember, hrest⟩ := valueAt_members hleaf h
  simp only [mem_cons, not_mem_nil, or_false] at hmember
  rcases hmember with ⟨rfl, rfl⟩ | ⟨rfl, rfl⟩ | ⟨rfl, rfl⟩ | ⟨rfl, rfl⟩
  · obtain ⟨rfl, rfl⟩ := valueAt_leaf hrest rfl
    rfl
  · have hval : IsLeaf (ofText before.ai.model) := by
      cases before.ai.model <;> rfl
    obtain ⟨rfl, rfl⟩ := valueAt_leaf hrest hval
    have hmodel := cleanString_kept hnormal.model (part_lookup (ai_merge r) habsent) r.model
    exact congrArg (fun model => some (ofText model)) hmodel
  · obtain ⟨rfl, rfl⟩ := valueAt_leaf hrest rfl
    have hread := r.temperature
    rw [part_lookup (ai_merge r) habsent] at hread
    have hkept : after.ai.temperature = before.ai.temperature :=
      hread.trans (clamp_of_mem hnormal.temperature)
    exact congrArg (fun n => some (JsValue.number (some n))) hkept
  · obtain ⟨rfl, rfl⟩ := valueAt_leaf hrest rfl
    have hread := r.maxTokens
    rw [part_lookup (ai_merge r) habsent] at hread
    have hkept : after.ai.maxTokens = before.ai.maxTokens :=
      hread.trans (clamp_of_mem hnormal.maxTokens)
    exact congrArg (fun n => some (ofInt n)) hkept

theorem prompt_kept (hnormal : before.Normal) (hleaf : IsLeaf leaf)
    (h : valueAt before.prompt.toJson path = some leaf)
    (habsent : valueAt (.object patch) ("prompt" :: path) = none) :
    valueAt after.prompt.toJson path = some leaf := by
  obtain ⟨key, value, rest, rfl, hmember, hrest⟩ := valueAt_members hleaf h
  simp only [mem_cons, not_mem_nil, or_false] at hmember
  rcases hmember with ⟨rfl, rfl⟩ | ⟨rfl, rfl⟩
  · obtain ⟨rfl, rfl⟩ := valueAt_leaf hrest rfl
    have hkept := requiredString_kept hnormal.system (part_lookup (prompt_merge r) habsent) r.system
    exact congrArg (fun t => some (JsValue.string t)) hkept
  obtain ⟨rfl, rfl⟩ := valueAt_leaf hrest rfl
  have hkept := requiredString_kept hnormal.user (part_lookup (prompt_merge r) habsent) r.user
  exact congrArg (fun t => some (JsValue.string t)) hkept

omit r in
theorem mem_givenBool {key' : String} {given : Option Bool} {value : JsValue}
    (h : (key', value) ∈ givenBool key given) :
    ∃ b, given = some b ∧ key' = key ∧ value = .bool b := by
  cases given with
  | none => cases h
  | some b =>
    cases List.mem_singleton.mp h
    exact ⟨b, rfl, rfl, rfl⟩

omit r in
theorem valueAt_draggable (window : ScenarioWindow) :
    valueAt window.toJson ["draggable"] = window.draggable.map .bool := by
  obtain ⟨resultPosition, draggable, resizable⟩ := window
  cases draggable <;> cases resizable <;> rfl

omit r in
theorem valueAt_resizable (window : ScenarioWindow) :
    valueAt window.toJson ["resizable"] = window.resizable.map .bool := by
  obtain ⟨resultPosition, draggable, resizable⟩ := window
  cases draggable <;> cases resizable <;> rfl

theorem window_kept (hleaf : IsLeaf leaf) (h : valueAt before.window.toJson path = some leaf)
    (habsent : valueAt (.object patch) ("window" :: path) = none) :
    valueAt after.window.toJson path = some leaf := by
  have hstored := lookup_givenBool_window before.window rfl
  obtain ⟨key, value, rest, rfl, hmember, hrest⟩ := valueAt_members hleaf h
  rcases List.mem_append.mp hmember with hmember | hresizable
  rcases List.mem_append.mp hmember with hmember | hdraggable
  · simp only [mem_cons, not_mem_nil, or_false] at hmember
    rcases hmember with ⟨rfl, rfl⟩ | ⟨rfl, rfl⟩
    · obtain ⟨rfl, rfl⟩ := valueAt_leaf hrest rfl
      have hread := r.resultPosition
      rw [part_lookup (window_merge r) habsent] at hread
      have hkept : after.window.resultPosition = before.window.resultPosition :=
        Except.ok.inj (hread.symm.trans (readResultPosition_name _))
      exact congrArg (fun position : ResultPosition => some (JsValue.string position.name)) hkept
    · obtain ⟨rfl, rfl⟩ := valueAt_leaf hrest rfl
      rfl
  · obtain ⟨b, hgiven, rfl, rfl⟩ := mem_givenBool hdraggable
    obtain ⟨rfl, rfl⟩ := valueAt_leaf hrest rfl
    have hread := r.draggable
    rw [part_lookup (window_merge r) habsent] at hread
    have hkept : after.window.draggable = some b := (hread.trans hstored.2.1).trans hgiven
    rw [valueAt_draggable, hkept]
    rfl
  · obtain ⟨b, hgiven, rfl, rfl⟩ := mem_givenBool hresizable
    obtain ⟨rfl, rfl⟩ := valueAt_leaf hrest rfl
    have hread := r.resizable
    rw [part_lookup (window_merge r) habsent] at hread
    have hkept : after.window.resizable = some b := (hread.trans hstored.2.2).trans hgiven
    rw [valueAt_resizable, hkept]
    rfl

/-! ## The output -/

omit r in
theorem valueAt_output (scenario : ScenarioConfig) (path : List String) :
    valueAt scenario.toJson ("output" :: path) = valueAt scenario.output.toJson path := rfl

def ScenarioOutput.isImage : ScenarioOutput → Bool
  | .text => false
  | .image _ _ => true

omit r in
theorem valueAt_type (output : ScenarioOutput) :
    valueAt output.toJson ["type"] = some (text (if output.isImage then "image" else "text")) := by
  cases output <;> rfl

omit r in
theorem valueAt_renderer (output : ScenarioOutput) : valueAt output.toJson ["renderer"] =
      some (text (if output.isImage then "image_window" else "answer_window")) := by
  cases output <;> rfl

variable {output : ScenarioOutput}

omit r in
theorem valueAt_type_inj {output' : ScenarioOutput} :
    valueAt output.toJson ["type"] = valueAt output'.toJson ["type"] ↔
      output.isImage = output'.isImage := by
  rw [valueAt_type, valueAt_type]
  constructor
  · intro h
    have hinj : ∀ i i' : Bool, (if i then "image" else "text").toList =
        (if i' then "image" else "text").toList → i = i' := by decide
    exact hinj _ _ (JsValue.string.inj (Option.some.inj h))
  · intro h
    rw [h]

theorem output_lookup (member : String) :
    r.output.lookup member = (valueAt (.object patch) ["output", member]).or
      (valueAt before.output.toJson [member]) := by
  rw [valueAt_part, output_merge r, lookup_spread]
  have hstored : (partOf before.members "output").lookup member =
      valueAt before.output.toJson [member] := by
    show ((membersOf (some before.output.toJson)).getD []).lookup member = _
    cases before.output
    all_goals exact (valueAt_member _ member).symm
  rw [hstored]

/-- The new output is an image where the type that is left after the merge says so. -/
theorem isImage_after : after.output.isImage =
    isText ((valueAt (.object patch) ["output", "type"]).or
      (valueAt before.output.toJson ["type"])) "image" := by
  rw [r.output_read, ← output_lookup r]
  unfold readOutput
  cases isText (r.output.lookup "type") "image" <;> rfl

theorem isImage_kept (habsent : valueAt (.object patch) ["output", "type"] = none) :
    after.output.isImage = before.output.isImage := by
  rw [isImage_after r, habsent]
  cases before.output <;> rfl

def imageKeys : List String := ["downloadable", "openInNewTab"]

theorem valueAt_flag (himage : after.output.isImage = true) (hkey : key ∈ imageKeys) :
    valueAt after.output.toJson ["image", key] = some (.bool (readImageFlag r.output key)) := by
  have htype := isImage_after r
  rw [himage, ← output_lookup r] at htype
  rw [r.output_read]
  unfold readOutput
  rw [if_pos htype.symm]
  unfold imageKeys at hkey
  simp only [mem_cons, not_mem_nil, or_false] at hkey
  rcases hkey with rfl | rfl <;> rfl

/-- A flag is read from the image that the patch gives, without a look at the stored one. -/
theorem flag_of_given {image : JsValue}
    (hgiven : valueAt (.object patch) ["output", "image"] = some image) :
    readImageFlag r.output key =
      (booleanOf (valueAt (.object patch) ["output", "image", key])).getD true := by
  have hkey : valueAt (.object patch) ["output", "image", key] = get (some image) key := by
    have happend := valueAt_append (.object patch) ["output", "image"] [key]
    rw [hgiven] at happend
    exact happend.trans (Option.bind_fun_some _)
  unfold readImageFlag
  rw [output_lookup r, hgiven, hkey]
  rfl

/-- Without an image in the patch the stored flag stays. -/
theorem flag_of_absent (habsent : valueAt (.object patch) ["output", "image"] = none)
    (hbefore : before.output.isImage = true) (hkey : key ∈ imageKeys) :
    valueAt before.output.toJson ["image", key] = some (.bool (readImageFlag r.output key)) := by
  unfold readImageFlag
  rw [output_lookup r, habsent]
  unfold imageKeys at hkey
  simp only [mem_cons, not_mem_nil, or_false] at hkey
  generalize before.output = output at hbefore ⊢
  cases output with
  | text => cases hbefore
  | image downloadable openInNewTab => rcases hkey with rfl | rfl <;> rfl

/-! ## The frame -/

omit r in
theorem valueAt_top {value value' : JsValue} {rest : List String}
    (h : valueAt value rest = some leaf) (hval : IsLeaf value)
    (hkept : valueAt (.object patch) [key] = none → value' = value)
    (habsent : valueAt (.object patch) (key :: rest) = none)
    (hafter : valueAt after.toJson [key] = some value') :
    valueAt after.toJson (key :: rest) = some leaf := by grind [valueAt_leaf]

theorem kept_outside_output (hnormal : before.Normal) {rest : List String} (hleaf : IsLeaf leaf)
    (h : valueAt before.toJson (key :: rest) = some leaf)
    (habsent : valueAt (.object patch) (key :: rest) = none) (hkey : key ≠ "output")
    (hpath : key :: rest ≠ ["updatedAt"]) : valueAt after.toJson (key :: rest) = some leaf := by
  obtain ⟨_, value, _, hcons, hmember, hrest⟩ := valueAt_members hleaf h
  cases hcons
  simp only [ScenarioConfig.members, mem_cons, not_mem_nil, or_false] at hmember
  rcases hmember with ⟨rfl, rfl⟩ | ⟨rfl, rfl⟩ | ⟨rfl, rfl⟩ | ⟨rfl, rfl⟩ | ⟨rfl, rfl⟩ | ⟨rfl, rfl⟩ |
    ⟨rfl, rfl⟩ | ⟨rfl, rfl⟩ | ⟨rfl, rfl⟩ | ⟨rfl, rfl⟩ | ⟨rfl, rfl⟩ | ⟨rfl, rfl⟩ | ⟨rfl, rfl⟩ |
    ⟨rfl, rfl⟩ | ⟨rfl, rfl⟩ | ⟨rfl, rfl⟩
  · -- the id is the one of the path of the request, whatever the patch says
    refine valueAt_top hrest rfl (fun _ => ?_) habsent rfl
    exact congrArg JsValue.string (Except.ok.inj r.id).symm
  · exact valueAt_top hrest rfl (fun _ => rfl) habsent rfl
  · refine valueAt_top hrest rfl (fun hnone => congrArg JsValue.string ?_) habsent rfl
    exact requiredString_kept hnormal.name (root_lookup r (by decide) hnone) r.name
  · have hval : IsLeaf (ofText before.description) := by
      cases before.description <;> rfl
    refine valueAt_top hrest hval (fun hnone => congrArg ofText ?_) habsent rfl
    exact cleanString_kept hnormal.description (root_lookup r (by decide) hnone) r.description
  · refine valueAt_top hrest rfl (fun hnone => congrArg JsValue.string ?_) habsent rfl
    exact requiredString_kept hnormal.buttonLabel (root_lookup r (by decide) hnone) r.buttonLabel
  · have hval : IsLeaf (ofText before.icon) := by
      cases before.icon <;> rfl
    refine valueAt_top hrest hval (fun hnone => congrArg ofText ?_) habsent rfl
    exact cleanString_kept hnormal.icon (root_lookup r (by decide) hnone) r.icon
  · refine valueAt_top hrest rfl (fun hnone => congrArg JsValue.bool ?_) habsent rfl
    have hread := r.enabled
    rw [root_lookup r (by decide) hnone] at hread
    exact hread
  · refine valueAt_top hrest rfl (fun hnone => congrArg JsValue.bool ?_) habsent rfl
    have hread := r.showInSelectionMenu
    rw [root_lookup r (by decide) hnone] at hread
    exact hread
  · refine valueAt_top hrest rfl (fun hnone => congrArg ofInt ?_) habsent rfl
    have hread := r.menuOrder
    rw [root_lookup r (by decide) hnone] at hread
    exact (Except.ok.inj hread).symm.trans (clamp_of_mem hnormal.menuOrder)
  · exact hrest
  · exact absurd rfl hkey
  · exact ai_kept r hnormal hleaf hrest habsent
  · exact prompt_kept r hnormal hleaf hrest habsent
  · exact window_kept r hleaf hrest habsent
  · -- the date of creation is read from the stored scenario first
    refine valueAt_top hrest rfl (fun _ => congrArg JsValue.string ?_) habsent rfl
    have hstored : parseIso env.otherDates (get (some before.toJson) "createdAt") =
        some before.createdAt := parseIso_of_isIso env.otherDates hnormal.createdAt
    have hread := r.createdAt
    unfold readCreatedAt at hread
    rw [hstored] at hread
    exact hread
  · obtain ⟨rfl, -⟩ := valueAt_leaf hrest rfl
    exact absurd rfl hpath

omit r in
/-- The leaves of an output. -/
theorem output_leaf (hleaf : IsLeaf leaf) (h : valueAt output.toJson path = some leaf) :
    path = ["type"] ∨ path = ["renderer"] ∨
      output.isImage = true ∧ ∃ key ∈ imageKeys, path = ["image", key] := by
  cases output with
  | text =>
    obtain ⟨key, value, rest, rfl, hmember, hrest⟩ := valueAt_members hleaf h
    simp only [mem_cons, not_mem_nil, or_false, Prod.mk.injEq] at hmember
    rcases hmember with ⟨rfl, rfl⟩ | ⟨rfl, rfl⟩
    · obtain ⟨rfl, -⟩ := valueAt_leaf hrest rfl
      exact Or.inl rfl
    · obtain ⟨rfl, -⟩ := valueAt_leaf hrest rfl
      exact Or.inr (Or.inl rfl)
  | image downloadable openInNewTab =>
    obtain ⟨key, value, rest, rfl, hmember, hrest⟩ := valueAt_members hleaf h
    simp only [mem_cons, not_mem_nil, or_false, Prod.mk.injEq] at hmember
    rcases hmember with ⟨rfl, rfl⟩ | ⟨rfl, rfl⟩ | ⟨rfl, rfl⟩
    · obtain ⟨rfl, -⟩ := valueAt_leaf hrest rfl
      exact Or.inl rfl
    · obtain ⟨rfl, -⟩ := valueAt_leaf hrest rfl
      exact Or.inr (Or.inl rfl)
    · obtain ⟨flag, value, rest, rfl, hflag, hval⟩ := valueAt_members hleaf hrest
      simp only [mem_cons, not_mem_nil, or_false, Prod.mk.injEq] at hflag
      rcases hflag with ⟨rfl, rfl⟩ | ⟨rfl, rfl⟩
      · obtain ⟨rfl, -⟩ := valueAt_leaf hval rfl
        exact Or.inr (Or.inr ⟨rfl, "downloadable", by decide, rfl⟩)
      · obtain ⟨rfl, -⟩ := valueAt_leaf hval rfl
        exact Or.inr (Or.inr ⟨rfl, "openInNewTab", by decide, rfl⟩)

end Merged

/-! ## The frame -/

/-- What may change without being named: the time of the last change, and, where the type of the
output changes, what belongs to the old type. -/
def Exempt (before after : JsValue) (path : List String) : Prop :=
  path = ["updatedAt"] ∨ valueAt before ["output", "type"] ≠ valueAt after ["output", "type"] ∧
      ∃ rest, path = "output" :: rest ∧ rest ≠ ["type"]

/-- The leaves whose paths are not in the patch are as before. -/
def Framed (before : JsValue) (patch : Payload) (after : JsValue) : Prop :=
  ∀ path leaf, IsLeaf leaf → valueAt before path = some leaf →
    valueAt (.object patch) path = none → ¬ Exempt before after path →
      valueAt after path = some leaf

/-- Where the output is an image and stays one, a patch of the image gives each flag that is not
set. -/
def FlagsGiven (before : JsValue) (patch : Payload) : Prop :=
  isText (valueAt before ["output", "type"]) "image" →
    isText ((valueAt (.object patch) ["output", "type"]).or
      (valueAt before ["output", "type"])) "image" →
    (valueAt (.object patch) ["output", "image"]).isSome →
    ∀ key ∈ imageKeys, (valueAt (.object patch) ["output", "image", key]).isSome ∨
      valueAt before ["output", "image", key] = some (.bool true)

section Frame

variable {env : ScenarioEnv} {before after : ScenarioConfig} {members : Payload} {now : ℤ}
  {uuid : Uuid}

theorem isText_type (output : ScenarioOutput) :
    isText (valueAt output.toJson ["type"]) "image" = output.isImage := by
  cases output <;> rfl

theorem type_eq_iff : valueAt before.toJson ["output", "type"] =
    valueAt after.toJson ["output", "type"] ↔ before.output.isImage = after.output.isImage := by
  rw [valueAt_output]
  exact valueAt_type_inj

variable (r : PatchReading env before members now uuid after)
include r

/-- The leaves of the output, where every flag that is lost is set. -/
theorem kept_in_output (hflags : FlagsGiven before.toJson members) {path : List String}
    {leaf : JsValue} (hleaf : IsLeaf leaf) (h : valueAt before.output.toJson path = some leaf)
    (habsent : valueAt (.object members) ("output" :: path) = none)
    (hexempt : ¬ Exempt before.toJson after.toJson ("output" :: path)) :
    valueAt after.output.toJson path = some leaf := by
  by_cases hpath : path = ["type"]
  · subst hpath
    rw [valueAt_type, isImage_kept r habsent, ← valueAt_type]
    exact h
  have htype : before.output.isImage = after.output.isImage := by
    by_contra hne
    refine hexempt (Or.inr ⟨fun heq => hne (type_eq_iff.mp heq), path, rfl, hpath⟩)
  rcases output_leaf hleaf h with rfl | rfl | ⟨himage, key, hkey, rfl⟩
  · exact absurd rfl hpath
  · grind [valueAt_renderer]
  · rw [valueAt_flag r (htype ▸ himage) hkey]
    rcases hgiven : valueAt (.object members) ["output", "image"] with _ | image
    · grind [flag_of_absent]
    -- the flag is lost, and what is read instead is its default
    have hstays : isText ((valueAt (.object members) ["output", "type"]).or
        (valueAt before.toJson ["output", "type"])) "image" = true := by
      rw [valueAt_output, ← isImage_after r, ← htype]
      exact himage
    have hstored := hflags ((isText_type before.output).trans himage) hstays (hgiven ▸ rfl) key hkey
    rw [habsent, valueAt_output, h] at hstored
    rw [flag_of_given r hgiven, habsent]
    rcases hstored with hsome | htrue
    · cases hsome
    · exact htrue.symm

theorem framed_of_flagsGiven (hnormal : before.Normal) (hflags : FlagsGiven before.toJson members) :
    Framed before.toJson members after.toJson := by
  intro path leaf hleaf h habsent hexempt
  obtain ⟨key, _, rest, rfl, -, -⟩ := valueAt_members hleaf h
  by_cases hkey : key = "output"
  · subst hkey
    exact kept_in_output r hflags hleaf h habsent hexempt
  refine kept_outside_output r hnormal hleaf h habsent hkey ?_
  intro hpath
  exact hexempt (Or.inl hpath)

theorem flagsGiven_of_framed (h : Framed before.toJson members after.toJson) :
    FlagsGiven before.toJson members := by
  intro hbefore hstays hgiven key hkey
  have himage : before.output.isImage = true := (isText_type before.output).symm.trans hbefore
  have hafter : after.output.isImage = true := (isImage_after r).trans hstays
  obtain ⟨image, himageGiven⟩ := Option.isSome_iff_exists.mp hgiven
  rcases hflag : valueAt (.object members) ["output", "image", key] with _ | flag
  · right
    obtain ⟨b, hb⟩ : ∃ b, valueAt before.toJson ["output", "image", key] = some (.bool b) := by
      rw [valueAt_output]
      unfold imageKeys at hkey
      simp only [mem_cons, not_mem_nil, or_false] at hkey
      generalize before.output = output at himage ⊢
      cases output with
      | text => cases himage
      | image downloadable openInNewTab => rcases hkey with rfl | rfl <;> exact ⟨_, rfl⟩
    have hnotExempt : ¬ Exempt before.toJson after.toJson ["output", "image", key] := by
      rintro (hpath | ⟨htype, -⟩)
      · exact absurd hpath (by simp)
      · exact htype (type_eq_iff.mpr (himage.trans hafter.symm))
    have hkept := h ["output", "image", key] (.bool b) rfl hb hflag hnotExempt
    rw [valueAt_output, valueAt_flag r hafter hkey, flag_of_given r himageGiven, hflag] at hkept
    rw [hb, ← hkept]
    rfl
  · exact Or.inl rfl

end Frame

/-! ## Along runs -/

/-- The row has a normal scenario under its own id. -/
def Written (row : ScenarioRow) : Prop :=
  ∃ scenario : ScenarioConfig, scenario.Normal ∧ row.scenarioId = scenario.id ∧
    row.configJson = scenario.toJson

theorem states_written (env : PresetEnv) (presets : List PresetRow) (sents : List Sent) :
    ∀ s ∈ states (stepScenario env) ⟨[], presets⟩ sents, ∀ row ∈ s.scenarios, Written row := by
  refine states_forall_rows env ?_ ?_ presets sents
  · intro userId scenario hnormal
    exact ⟨scenario, hnormal, rfl, rfl⟩
  · intro now row hrow
    exact hrow

variable {rows rows' : List ScenarioRow}

/-- The row that is found after an update is the changed one. -/
theorem findAny_update {userId : String} {scenarioId : Text}
    {row : ScenarioRow} {scenario : ScenarioConfig}
    (hrow : findAnyByUserAndScenarioId rows userId scenarioId = some row)
    (h : updateByUserAndScenarioId rows userId scenarioId (toUpdateData scenario) = .ok rows') :
    findAnyByUserAndScenarioId rows' userId scenarioId = some (toUpdateData scenario row) := by
  unfold updateByUserAndScenarioId at h
  rw [hrow] at h
  cases h
  have hsame : (fun row : ScenarioRow => row.isFor userId scenarioId) ∘
      (fun row => if row.isFor userId scenarioId then toUpdateData scenario row else row) =
        fun row => row.isFor userId scenarioId := by
    funext row
    dsimp only [Function.comp]
    split <;> rfl
  have hfor : row.isFor userId scenarioId = true := isFor_iff.mpr (findAny_some hrow).2
  unfold findAnyByUserAndScenarioId at hrow ⊢
  rw [List.find?_map, hsame, hrow]
  exact congrArg some (if_pos hfor)

/-- What an accepted patch has done. -/
theorem patch_accepted {env : ScenarioEnv} {ctx : RequestContext} {scenarioId : Text}
    {changes : Option JsValue} {reply : JsValue}
    (h : patch env ctx scenarioId changes rows = .ok (reply, rows')) :
    ∃ row members current scenario,
      findAnyByUserAndScenarioId rows ctx.userId scenarioId = some row ∧
        changes = some (.object members) ∧ row.configJson = .object current ∧
        normalizeScenarioConfig env (some (.object (mergePatch current members)))
          ⟨some scenarioId, some (.object current), ctx.clock 0⟩ (ctx.uuid 0) = .ok scenario ∧
        reply = scenario.toJson ∧
        findAnyByUserAndScenarioId rows' ctx.userId scenarioId =
          some (toUpdateData scenario row) := by
  unfold patch at h
  rcases hrow : findAnyByUserAndScenarioId rows ctx.userId scenarioId with _ | row
  · rw [hrow] at h
    cases h
  rw [hrow] at h
  dsimp only at h
  split at h
  · cases h
  obtain ⟨members, hmembers, h⟩ := bind_eq_ok_iff.mp h
  obtain ⟨current, hcurrent, h⟩ := bind_eq_ok_iff.mp h
  obtain ⟨scenario, hscen, h⟩ := bind_eq_ok_iff.mp h
  obtain ⟨written, hwritten, h⟩ := bind_eq_ok_iff.mp h
  cases h
  exact ⟨row, members, current, scenario, rfl, asObj_eq_ok hmembers,
    Option.some.inj (asObj_eq_ok hcurrent), hscen, rfl, findAny_update hrow hwritten⟩

/-- In every reachable state an accepted patch leaves what it does not name as it was, exactly
where it gives the flags of an image together. -/
theorem framed_iff (env : PresetEnv) {presets : List PresetRow} {sents : List Sent}
    {s : ScenarioStore} (hs : s ∈ states (stepScenario env) ⟨[], presets⟩ sents)
    {ctx : RequestContext} {scenarioId : Text} {changes : Option JsValue} {reply : JsValue}
    {rows : List ScenarioRow}
    (h : patch env.toScenarioEnv ctx scenarioId changes s.scenarios = .ok (reply, rows)) :
    ∃ row members row', findAnyByUserAndScenarioId s.scenarios ctx.userId scenarioId = some row ∧
        changes = some (.object members) ∧
        findAnyByUserAndScenarioId rows ctx.userId scenarioId = some row' ∧
        (Framed row.configJson members row'.configJson ↔ FlagsGiven row.configJson members) := by
  obtain ⟨row, members, current, after, hrow, hchanges, hcurrent, hnormalized, -, hrow'⟩ :=
    patch_accepted h
  refine ⟨row, members, _, hrow, hchanges, hrow', ?_⟩
  obtain ⟨hmem, hkey⟩ := findAny_some hrow
  obtain ⟨before, hnormal, hid, hconfig⟩ := states_written env presets sents s hs row hmem
  have hscenarioId : scenarioId = before.id := (Prod.mk.inj hkey).2.symm.trans hid
  have hmembers : current = before.members :=
    JsValue.object.inj (hcurrent.symm.trans hconfig)
  rw [hscenarioId, hmembers] at hnormalized
  obtain ⟨r⟩ := reading_of_normalize hnormalized
  rw [hconfig]
  exact ⟨flagsGiven_of_framed r, framed_of_flagsGiven r hnormal⟩

/-- A scenario with an image that is not opened in a new tab. -/
def imageScenario : JsValue :=
  .object [("id", text "a"), ("name", text "Draw"), ("buttonLabel", text "Draw"),
    ("prompt", .object [("system", text "You draw."), ("user", text "Draw this.")]),
    ("output", .object [("type", text "image"), ("renderer", text "image_window"),
      ("image", .object [("openInNewTab", .bool false)])])]

/-- Alice has a scenario of this kind. -/
def imageState : ScenarioStore :=
  stepScenario plainEnv ⟨[], []⟩ (aliceContext, .create (some imageScenario))

theorem imageState_mem : imageState ∈ states (stepScenario plainEnv) ⟨[], []⟩
    [(aliceContext, .create (some imageScenario))] :=
  List.mem_cons_of_mem _ (List.mem_singleton_self _)

theorem framed_iff_plain : ∃ reply rows,
      patch plainEnv.toScenarioEnv aliceContext ['a'] (some (.object [("name", text "Paint")]))
        imageState.scenarios = .ok (reply, rows) ∧
      ∃ row members row',
        findAnyByUserAndScenarioId imageState.scenarios aliceContext.userId ['a'] = some row ∧
          some (JsValue.object [("name", text "Paint")]) = some (.object members) ∧
          findAnyByUserAndScenarioId rows aliceContext.userId ['a'] = some row' ∧
          (Framed row.configJson members row'.configJson ↔ FlagsGiven row.configJson members) :=
  ⟨_, _, rfl, framed_iff plainEnv imageState_mem rfl⟩

/-- A patch of the other flag opens her images in a new tab. -/
theorem otherFlag_not_framed : ∃ reply rows row row',
      patch plainEnv.toScenarioEnv aliceContext ['a']
        (some (.object [("output", .object [("image", .object [("downloadable", .bool false)])])]))
        imageState.scenarios = .ok (reply, rows) ∧
      findAnyByUserAndScenarioId imageState.scenarios aliceContext.userId ['a'] = some row ∧
      findAnyByUserAndScenarioId rows aliceContext.userId ['a'] = some row' ∧
      ¬ Framed row.configJson
        [("output", .object [("image", .object [("downloadable", .bool false)])])]
        row'.configJson := by
  refine ⟨_, _, _, _, rfl, rfl, rfl, ?_⟩
  intro h
  have hkept := h ["output", "image", "openInNewTab"] (.bool false) rfl rfl rfl ?_
  · cases hkept
  rintro (hpath | ⟨htype, -⟩)
  · exact absurd hpath (by simp)
  · exact htype rfl

end QuizMind.Scenarios
