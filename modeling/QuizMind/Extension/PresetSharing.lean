import QuizMind.Extension.PresetCatalog
import QuizMind.Extension.ScenarioRuns

/-! # Who can obtain a preset

Previews, installations and the catalog show a preset of another user only while it is not
disabled, and only as far as the owner has asked for it: `shared_only_on_request`. A visibility
that the service does not know counts as `unlisted`.
-/

namespace QuizMind.Scenarios

open Ai (JsValue)
open Logs (get isTruthy)
open Table

/-! ## What the owner asked for -/

/-- A visibility that is given and not empty. -/
def givenVisibility (raw : Option JsValue) : Option JsValue := (get raw "visibility").filter isTruthy

/-- The visibility that a request about the preset gives, if the request is accepted. Only the
owner's are. -/
def asked (env : PresetEnv) (slug : Text) (s : ScenarioStore) : Sent → Option JsValue
  | (ctx, .createFromScenario scenarioId raw) =>
    match createFromScenario env ctx scenarioId raw s with
    | .ok (slug', _) => if slug' = slug then givenVisibility raw else none
    | .error _ => none
  | (ctx, .updateMetadata slug' raw) =>
    match updateMetadata env ctx slug' raw s with
    | .ok _ => if slug' = slug then givenVisibility raw else none
    | .error _ => none
  | _ => none

/-- The visibility that was asked for last along a run. -/
def lastAsked (env : PresetEnv) (slug : Text) : ScenarioStore → List Sent → Option JsValue
  | _, [] => none
  | s, sent :: sents =>
    (lastAsked env slug (stepScenario env s sent) sents).or (asked env slug s sent)

/-- The state after a run that starts without presets. -/
def after (env : PresetEnv) (rows : List ScenarioRow) (sents : List Sent) : ScenarioStore :=
  sents.foldl (stepScenario env) ⟨rows, []⟩

/-! ## Obtaining a preset -/

def Listed (env : CatalogEnv) (s : ScenarioStore) (slug : Text) : Prop :=
  ∃ order raw page, listCatalog env order raw s.presets = .ok page ∧
    ∃ preset ∈ page.items, preset.slug = slug

/-- What a user gets to see of a preset; without a session the user is none. -/
def Obtains (env : CatalogEnv) (s : ScenarioStore) (user : Option String) (slug : Text) : Prop :=
  (∃ preset, preview slug user s = .ok preset) ∨
    (∃ ctx result, user = some ctx.userId ∧ install env.toPresetEnv ctx slug s = .ok result) ∨
    Listed env s slug

def IsDisabledIn (s : ScenarioStore) (slug : Text) : Prop :=
  ∃ preset ∈ s.presets, preset.slug = slug ∧ preset.disabledAt.isSome

/-! ## The invariant -/

/-- Unless it is disabled, a preset has the visibility that was asked for last. -/
structure Governed (last : Text → Option JsValue) (presets : List PresetRow) : Prop where
  slugs : Keyed PresetRow.slug presets
  absent : ∀ slug ∉ presets.map PresetRow.slug, last slug = none
  follows : ∀ preset ∈ presets, preset.disabledAt = none →
    preset.visibility = normalizeVisibility (last preset.slug)

variable (raw : Option JsValue)

theorem normalizeVisibility_given :
    normalizeVisibility (givenVisibility raw) = normalizeVisibility (get raw "visibility") := by
  unfold givenVisibility
  rcases get raw "visibility" with _ | value
  · rfl
  rw [Option.filter_some]
  split
  · rfl
  rename_i hempty
  cases value with
  | string given =>
    have hnil : given = [] := by
      cases given with
      | nil => rfl
      | cons c given => exact absurd rfl hempty
    rw [hnil]
    rfl
  | _ => rfl

theorem normalizeVisibility_ne_disabled : normalizeVisibility raw ≠ .disabled := by
  unfold normalizeVisibility
  split_ifs <;> exact Visibility.noConfusion

theorem normalizeVisibility_eq_public_iff :
    normalizeVisibility raw = .public_ ↔ raw = some (text "public") := by
  unfold normalizeVisibility
  constructor
  · intro h
    split at h
    · cases h
    split at h
    · cases h
    split at h
    · rename_i hpublic
      unfold isText at hpublic
      split at hpublic
      · rw [of_decide_eq_true hpublic]
        rfl
      · cases hpublic
    · cases h
  · rintro rfl
    rfl

section Steps

variable {last : Text → Option JsValue} {presets : List PresetRow}

variable {slug : Text}

theorem findBySlug_some {preset : PresetRow}
    (h : findBySlug presets slug = some preset) : preset ∈ presets ∧ preset.slug = slug := by
  have hslug := List.find?_some (p := fun r : PresetRow => decide (r.slug = slug)) h
  exact ⟨List.mem_of_find?_eq_some h, of_decide_eq_true hslug⟩

theorem findBySlug_none (h : findBySlug presets slug = none) :
    slug ∉ presets.map PresetRow.slug := by
  intro hmem
  rcases List.mem_map.mp hmem with ⟨preset, hpreset, hslug⟩
  have hnot := List.find?_eq_none.mp h preset hpreset
  exact hnot (decide_eq_true hslug)

variable {presets' : List PresetRow} {data : PresetRow → PresetRow}

theorem updateBySlug_eq {now : ℤ} (h : updateBySlug presets slug now data = .ok presets') :
    slug ∈ presets.map PresetRow.slug ∧ presets' = changeAt PresetRow.slug presets slug
        (fun row => { data row with updatedAt := now }) := by
  unfold updateBySlug at h
  rcases hfound : findBySlug presets slug with _ | preset
  · rw [hfound] at h
    cases h
  rw [hfound] at h
  cases h
  obtain ⟨hmem, hslug⟩ := findBySlug_some hfound
  exact ⟨List.mem_map.mpr ⟨preset, hmem, hslug⟩, rfl⟩

/-- What a request does to the presets, where `asks` is what it asks for. -/
inductive PresetChange (presets : List PresetRow) (asks : Text → Option JsValue) :
    List PresetRow → Prop where
  | same (hasks : ∀ slug, asks slug = none) : PresetChange presets asks presets
  | published (preset : PresetRow) (hnew : preset.slug ∉ presets.map PresetRow.slug)
      (hother : ∀ slug ≠ preset.slug, asks slug = none)
      (hvisibility : preset.visibility = normalizeVisibility (asks preset.slug)) :
      PresetChange presets asks (presets ++ [preset])
  | changed (slug : Text) (data : PresetRow → PresetRow) (hmem : slug ∈ presets.map PresetRow.slug)
      (hslug : ∀ row, (data row).slug = row.slug)
      (hdisabled : ∀ row, row.disabledAt.isSome → (data row).disabledAt.isSome)
      (hother : ∀ slug' ≠ slug, asks slug' = none)
      (hvisibility : ∀ row ∈ presets, row.slug = slug → (data row).disabledAt = none →
        ∀ given, row.visibility = normalizeVisibility given →
          (data row).visibility = normalizeVisibility ((asks slug).or given)) :
      PresetChange presets asks (changeAt PresetRow.slug presets slug data)

theorem isNone_of_keeps {row : PresetRow}
    (hdisabled : ∀ row, row.disabledAt.isSome → (data row).disabledAt.isSome)
    (h : (data row).disabledAt = none) : row.disabledAt = none := by
  by_contra hsome
  have hkept := hdisabled row (Option.isSome_iff_ne_none.mpr hsome)
  rw [h] at hkept
  cases hkept

variable {asks : Text → Option JsValue}

theorem PresetChange.governed
    (hchange : PresetChange presets asks presets') (h : Governed last presets) :
    Governed (fun slug => (asks slug).or (last slug)) presets' := by
  cases hchange with
  | same hasks =>
    have hsame : (fun slug => (asks slug).or (last slug)) = last := by
      funext slug
      rw [hasks slug, Option.none_or]
    rw [hsame]
    exact h
  | published preset hnew hother hvis =>
    constructor
    · unfold Keyed
      rw [List.map_append, List.nodup_append]
      refine ⟨h.slugs, List.nodup_singleton _, ?_⟩
      intro slug hslug slug' hslug'
      rw [List.map_singleton, List.mem_singleton] at hslug'
      rintro rfl
      exact hnew (hslug' ▸ hslug)
    · intro slug hslug
      rw [List.map_append, List.mem_append, not_or] at hslug
      rw [hother slug (fun heq => hslug.2 (heq ▸ List.mem_singleton_self _))]
      exact h.absent slug hslug.1
    · intro row hrow hact
      rcases List.mem_append.mp hrow with hold | hadded
      · have hne : row.slug ≠ preset.slug := by grind
        rw [hother row.slug hne]
        exact h.follows row hold hact
      -- nobody has asked for a slug that was not there
      obtain rfl := List.mem_singleton.mp hadded
      rw [h.absent _ hnew, Option.or_none]
      exact hvis
  | changed slug data hmem hslug hdisabled hother hvis =>
    have hkeys : ∀ row : PresetRow, row.slug = slug → (data row).slug = slug :=
      fun row hrow => (hslug row).trans hrow
    constructor
    · exact h.slugs.changeAt hkeys
    · intro slug' hslug'
      rw [map_key_changeAt hkeys] at hslug'
      have hne : slug' ≠ slug := by
        rintro rfl
        exact hslug' hmem
      rw [hother slug' hne]
      exact h.absent slug' hslug'
    · intro row hrow hact
      rcases mem_changeAt.mp hrow with ⟨old, hold, hkey, rfl⟩ | ⟨hold, hne⟩
      · have hbefore := h.follows old hold (isNone_of_keeps hdisabled hact)
        rw [hslug old, hkey]
        rw [hkey] at hbefore
        exact hvis old hold hkey hact (last slug) hbefore
      · rw [hother row.slug hne]
        exact h.follows row hold hact

theorem PresetChange.disabled (hchange : PresetChange presets asks presets')
    (h : ∃ preset ∈ presets, preset.slug = slug ∧ preset.disabledAt.isSome) :
    ∃ preset ∈ presets', preset.slug = slug ∧ preset.disabledAt.isSome := by
  obtain ⟨preset, hpreset, hslug, hdisabled⟩ := h
  cases hchange with
  | same => exact ⟨preset, hpreset, hslug, hdisabled⟩
  | published added => exact ⟨preset, List.mem_append_left _ hpreset, hslug, hdisabled⟩
  | changed slug' data hmem hkeys hkeeps => grind [mem_changeAt]

end Steps

/-! ## What the requests do -/

section Requests

variable {env : PresetEnv} {ctx : RequestContext} {s s' : ScenarioStore} {slug : Text}
  {raw : Option JsValue}

theorem createFromScenario_ok {scenarioId : Text}
    (h : createFromScenario env ctx scenarioId raw s = .ok (slug, s')) :
    ∃ preset : PresetRow, slug = preset.slug ∧ preset.slug ∉ s.presets.map PresetRow.slug ∧
      s'.presets = s.presets ++ [preset] ∧
      preset.visibility = normalizeVisibility (get raw "visibility") := by
  unfold createFromScenario at h
  split at h
  · cases h
  split at h
  · cases h
  obtain ⟨normalized, -, h⟩ := bind_eq_ok_iff.mp h
  obtain ⟨tags, -, h⟩ := bind_eq_ok_iff.mp h
  obtain ⟨presets, hpresets, h⟩ := bind_eq_ok_iff.mp h
  cases h
  unfold createPresetRow at hpresets
  rcases hfound : findBySlug s.presets (newPreset env ctx scenarioId raw normalized tags).slug with
    _ | preset
  · rw [hfound] at hpresets
    cases hpresets
    exact ⟨_, rfl, findBySlug_none hfound, rfl, rfl⟩
  · rw [hfound] at hpresets
    cases hpresets

theorem updateMetadata_ok (h : updateMetadata env ctx slug raw s = .ok s') :
    ∃ preset tags, findBySlug s.presets slug = some preset ∧ preset.disabledAt = none ∧
      slug ∈ s.presets.map PresetRow.slug ∧
      s'.presets = changeAt PresetRow.slug s.presets slug
        (fun row => { updatedPreset env ctx raw preset tags row with updatedAt := ctx.clock 1 }) := by
  unfold updateMetadata at h
  rcases hfound : findBySlug s.presets slug with _ | preset
  · rw [hfound] at h
    cases h
  rw [hfound] at h
  dsimp only at h
  split_ifs at h with howner hdisabled
  obtain ⟨tags, -, h⟩ := bind_eq_ok_iff.mp h
  obtain ⟨presets, hpresets, h⟩ := bind_eq_ok_iff.mp h
  cases h
  obtain ⟨hmem, rfl⟩ := updateBySlug_eq hpresets
  rw [not_or, Option.not_isSome_iff_eq_none] at hdisabled
  exact ⟨preset, tags, rfl, hdisabled.2, hmem, rfl⟩

theorem disable_ok (h : disable ctx slug s = .ok s') : slug ∈ s.presets.map PresetRow.slug ∧
      s'.presets = changeAt PresetRow.slug s.presets slug
        (fun row => { disabledPreset ctx row with updatedAt := ctx.clock 1 }) := by
  unfold disable at h
  split at h
  · cases h
  split_ifs at h
  obtain ⟨presets, hpresets, h⟩ := bind_eq_ok_iff.mp h
  cases h
  obtain ⟨hmem, rfl⟩ := updateBySlug_eq hpresets
  exact ⟨hmem, rfl⟩

theorem install_ok {reply : JsValue} (h : install env ctx slug s = .ok (reply, s')) :
    slug ∈ s.presets.map PresetRow.slug ∧ s'.presets = changeAt PresetRow.slug s.presets slug
        (fun row => { row with installCount := row.installCount + 1, updatedAt := ctx.clock 1 }) := by
  unfold install at h
  split at h
  · cases h
  split_ifs at h
  obtain ⟨nowIso, -, h⟩ := bind_eq_ok_iff.mp h
  obtain ⟨normalized, -, h⟩ := bind_eq_ok_iff.mp h
  obtain ⟨scenarios, -, h⟩ := bind_eq_ok_iff.mp h
  obtain ⟨presets, hpresets, h⟩ := bind_eq_ok_iff.mp h
  cases h
  obtain ⟨hmem, rfl⟩ := updateBySlug_eq hpresets
  exact ⟨hmem, rfl⟩

/-- The visibility after an update is the one asked for, or the one before. -/
theorem updatedVisibility_eq {preset : PresetRow} {last : Option JsValue}
    (h : preset.visibility = normalizeVisibility last) :
    updatedVisibility raw preset = normalizeVisibility ((givenVisibility raw).or last) := by
  unfold updatedVisibility givenVisibility
  rcases get raw "visibility" with _ | value
  · exact h
  · grind

end Requests

/-! ## Steps -/

section Step

variable (env : PresetEnv) {s : ScenarioStore}

/-- The requests about scenarios leave the presets alone. -/
theorem stepScenario_presets (ctx : RequestContext) {request : ScenarioRequest}
    (h : ∀ s', handle env ctx request s = .ok s' → s'.presets = s.presets) :
    (stepScenario env s (ctx, request)).presets = s.presets := by
  unfold stepScenario
  rcases hres : handle env ctx request s with e | s'
  · rfl
  · exact h s' hres

theorem step_presetChange (hslugs : Keyed PresetRow.slug s.presets) (sent : Sent) :
    PresetChange s.presets (fun slug => asked env slug s sent)
      (stepScenario env s sent).presets := by
  obtain ⟨ctx, request⟩ := sent
  cases request with
  | createFromScenario scenarioId raw =>
    simp only [stepScenario, handle, asked]
    rcases hres : createFromScenario env ctx scenarioId raw s with e | ⟨slug, s'⟩
    · exact .same fun _ => rfl
    obtain ⟨preset, rfl, hnew, hpresets, hvis⟩ := createFromScenario_ok hres
    show PresetChange s.presets _ s'.presets
    rw [hpresets]
    refine .published preset hnew ?_ ?_
    · intro slug hne
      exact if_neg (Ne.symm hne)
    · simp_all [normalizeVisibility_given]
  | updateMetadata slug raw =>
    simp only [stepScenario, handle, asked]
    rcases hres : updateMetadata env ctx slug raw s with e | s'
    · exact .same fun _ => rfl
    obtain ⟨preset, tags, hfound, hact, hmem, hpresets⟩ := updateMetadata_ok hres
    obtain ⟨hpreset, hslug⟩ := findBySlug_some hfound
    rw [hpresets]
    refine .changed slug _ hmem (fun _ => rfl) (fun _ hdisabled => hdisabled) ?_ ?_
    · intro slug' hne
      exact if_neg (Ne.symm hne)
    intro row hrow hkey _ given hgiven
    -- the row that is changed is the one that was found
    obtain rfl := hslugs.eq_of_key hrow hpreset (hkey.trans hslug.symm)
    rw [if_pos rfl]
    exact updatedVisibility_eq hgiven
  | install slug =>
    simp only [stepScenario, handle]
    rcases hres : install env ctx slug s with e | ⟨reply, s'⟩
    · exact .same fun _ => rfl
    obtain ⟨hmem, hpresets⟩ := install_ok hres
    show PresetChange s.presets _ s'.presets
    rw [hpresets]
    exact .changed slug _ hmem (fun _ => rfl) (fun _ hdisabled => hdisabled) (fun _ _ => rfl)
      fun _ _ _ _ _ hgiven => hgiven
  | disable slug =>
    simp only [stepScenario, handle]
    rcases hres : disable ctx slug s with e | s'
    · exact .same fun _ => rfl
    obtain ⟨hmem, hpresets⟩ := disable_ok hres
    rw [hpresets]
    refine .changed slug _ hmem (fun _ => rfl) (fun _ _ => rfl) (fun _ _ => rfl) ?_
    intro row _ _ hact
    cases hact
  | _ =>
    rw [stepScenario_presets env ctx fun s' hs' => by
      obtain ⟨_, -, hs'⟩ := bind_eq_ok_iff.mp hs'
      cases hs'
      rfl]
    exact .same fun _ => rfl

end Step

/-! ## Runs -/

section Run

variable (env : PresetEnv) {last : Text → Option JsValue} {s : ScenarioStore}

theorem Governed.run (h : Governed last s.presets) (sents : List Sent) :
    Governed (fun slug => (lastAsked env slug s sents).or (last slug))
      (sents.foldl (stepScenario env) s).presets := by
  induction sents generalizing s last with
  | nil => exact h
  | cons sent sents ih =>
    have hstep := (step_presetChange env h.slugs sent).governed h
    have hrest := ih hstep
    simp only [← Option.or_assoc] at hrest
    exact hrest

theorem governed_after (rows : List ScenarioRow) (sents : List Sent) :
    Governed (fun slug => lastAsked env slug ⟨rows, []⟩ sents) (after env rows sents).presets := by
  have hinit : Governed (fun _ => none) (⟨rows, []⟩ : ScenarioStore).presets :=
    ⟨List.nodup_nil, fun _ _ => rfl, fun _ hpreset => absurd hpreset List.not_mem_nil⟩
  have hrun := hinit.run env sents
  simp only [Option.or_none] at hrun
  exact hrun

theorem isDisabledIn_after {rows : List ScenarioRow} {sents : List Sent} {slug : Text}
    (later : List Sent) (h : IsDisabledIn (after env rows sents) slug) :
    IsDisabledIn (after env rows (sents ++ later)) slug := by
  induction later using List.reverseRecOn with
  | nil =>
    rw [List.append_nil]
    exact h
  | append_singleton later sent ih =>
    have hslugs := (governed_after env rows (sents ++ later)).slugs
    rw [← List.append_assoc]
    have hnext : after env rows (sents ++ later ++ [sent]) =
        stepScenario env (after env rows (sents ++ later)) sent := List.foldl_append
    rw [hnext]
    exact (step_presetChange env hslugs sent).disabled ih

end Run

/-! ## Readers -/

section Readers

variable {env : CatalogEnv} {s : ScenarioStore} {user : Option String} {slug : Text}

theorem preview_ok {preset : PresetRow} (h : preview slug user s = .ok preset) :
    preset ∈ s.presets ∧ preset.slug = slug ∧ preset.disabledAt = none ∧
      (preset.visibility = .private_ → user = some preset.ownerUserId) := by
  unfold preview at h
  rcases hfound : findBySlug s.presets slug with _ | found
  · rw [hfound] at h
    cases h
  rw [hfound] at h
  dsimp only at h
  split_ifs at h with hdisabled hprivate
  cases h
  obtain ⟨hmem, hslug⟩ := findBySlug_some hfound
  rw [not_or, Option.not_isSome_iff_eq_none] at hdisabled
  refine ⟨hmem, hslug, hdisabled.1, ?_⟩
  intro hvis
  by_contra hother
  exact hprivate ⟨hvis, hother⟩

theorem install_found {ctx : RequestContext} {result : JsValue × ScenarioStore}
    (h : install env.toPresetEnv ctx slug s = .ok result) :
    ∃ preset ∈ s.presets, preset.slug = slug ∧ preset.disabledAt = none ∧
      (preset.visibility = .unlisted ∨ preset.visibility = .public_) := by
  unfold install at h
  rcases hfound : findBySlug s.presets slug with _ | found
  · rw [hfound] at h
    cases h
  rw [hfound] at h
  dsimp only at h
  split_ifs at h with hhidden
  obtain ⟨hmem, hslug⟩ := findBySlug_some hfound
  rw [not_or, Option.not_isSome_iff_eq_none] at hhidden
  refine ⟨found, hmem, hslug, hhidden.1, ?_⟩
  by_contra hneither
  exact hhidden.2 (not_or.mp hneither)

theorem Listed.found (h : Listed env s slug) :
    ∃ preset ∈ s.presets, preset.slug = slug ∧ preset.disabledAt = none ∧
      preset.visibility = .public_ := by
  obtain ⟨order, raw, result, hres, preset, hitem, hslug⟩ := h
  obtain ⟨limit, -, hres⟩ := bind_eq_ok_iff.mp hres
  obtain ⟨offset, -, hres⟩ := bind_eq_ok_iff.mp hres
  obtain ⟨tag, -, hres⟩ := bind_eq_ok_iff.mp hres
  split at hres
  · cases hres
  obtain ⟨rows, hrows, hres⟩ := bind_eq_ok_iff.mp hres
  cases hres
  have hrow : preset ∈ rows := List.mem_of_mem_take hitem
  unfold findMany at hrows
  split at hrows
  · cases hrows
    have hordered := List.mem_of_mem_drop (List.mem_of_mem_take hrow)
    have hmatch := (order.arranged _ _).perm.mem_iff.mp hordered
    obtain ⟨hmem, hcatalog⟩ := List.mem_filter.mp hmatch
    unfold inCatalog at hcatalog
    simp only [Bool.and_eq_true, decide_eq_true_eq, Option.isNone_iff_eq_none] at hcatalog
    exact ⟨preset, hmem, hslug, hcatalog.1.1.1.2, hcatalog.1.1.1.1⟩
  · cases hrows

/-- Whoever obtains a preset obtains an enabled one, and a private one only as its owner. -/
theorem Obtains.found (h : Obtains env s user slug) :
    ∃ preset ∈ s.presets, preset.slug = slug ∧ preset.disabledAt = none ∧
      (preset.visibility = .private_ → user = some preset.ownerUserId) := by
  rcases h with ⟨preset, hpreview⟩ | ⟨ctx, result, -, hinstall⟩ | hlisted
  · exact ⟨preset, preview_ok hpreview⟩
  · grind [install_found]
  · obtain ⟨preset, hmem, hslug, hact, hpublic⟩ := hlisted.found
    refine ⟨preset, hmem, hslug, hact, ?_⟩
    intro hprivate
    rw [hpublic] at hprivate
    cases hprivate

end Readers

/-- After every run, another user obtains a preset only if it is not disabled and its owner has
not asked for exactly `private` last, from the catalog only if the owner has asked for exactly
`public`, and a disabled preset never again. -/
theorem shared_only_on_request (env : CatalogEnv) (rows : List ScenarioRow)
    (sents later : List Sent) (slug : Text) (user : Option String) :
    (∀ preset ∈ (after env.toPresetEnv rows sents).presets, preset.slug = slug →
      user ≠ some preset.ownerUserId →
      Obtains env (after env.toPresetEnv rows sents) user slug →
        preset.visibility ≠ .disabled ∧ preset.disabledAt = none ∧
          lastAsked env.toPresetEnv slug ⟨rows, []⟩ sents ≠ some (text "private")) ∧
    (Listed env (after env.toPresetEnv rows sents) slug →
      lastAsked env.toPresetEnv slug ⟨rows, []⟩ sents = some (text "public")) ∧
    (IsDisabledIn (after env.toPresetEnv rows sents) slug →
      ¬ Obtains env (after env.toPresetEnv rows (sents ++ later)) user slug) := by
  have hgoverned := governed_after env.toPresetEnv rows sents
  refine ⟨?_, ?_, ?_⟩
  · intro preset hpreset hslug hother hobtains
    obtain ⟨found, hfound, hfoundSlug, hactive, hprivate⟩ := hobtains.found
    obtain rfl := hgoverned.slugs.eq_of_key hpreset hfound (hslug.trans hfoundSlug.symm)
    have hfollows := hgoverned.follows preset hpreset hactive
    rw [hslug] at hfollows
    refine ⟨?_, hactive, ?_⟩
    · rw [hfollows]
      exact normalizeVisibility_ne_disabled _
    intro hasked
    rw [hasked] at hfollows
    exact hother (hprivate hfollows)
  · intro hlisted
    obtain ⟨preset, hpreset, hslug, hactive, hpublic⟩ := hlisted.found
    have hfollows := hgoverned.follows preset hpreset hactive
    rw [hslug, hpublic] at hfollows
    exact (normalizeVisibility_eq_public_iff _).mp hfollows.symm
  · intro hdisabled hobtains
    obtain ⟨preset, hpreset, hslug, hsome⟩ := isDisabledIn_after env.toPresetEnv later hdisabled
    obtain ⟨found, hfound, hfoundSlug, hactive, -⟩ := hobtains.found
    have hslugs := (governed_after env.toPresetEnv rows (sents ++ later)).slugs
    obtain rfl := hslugs.eq_of_key hpreset hfound (hslug.trans hfoundSlug.symm)
    rw [hactive] at hsome
    cases hsome

/-! ## A visibility in capitals -/

/-- Alice publishes a scenario, and asks for `Private`. -/
def capitalRun : List Sent :=
  [(aliceContext, .create (some (plainScenario ['a']))),
    (aliceContext, .createFromScenario ['a'] (some (.object [("visibility", text "Private")])))]

theorem capitalRun_shared : ∃ preset ∈ (after plainCatalogEnv.toPresetEnv [] capitalRun).presets,
      preset.ownerUserId = "alice" ∧
        Obtains plainCatalogEnv (after plainCatalogEnv.toPresetEnv [] capitalRun) (some "bob")
          preset.slug ∧
        lastAsked plainCatalogEnv.toPresetEnv preset.slug ⟨[], []⟩ capitalRun =
          some (text "Private") :=
  ⟨_, List.mem_singleton_self _, rfl, Or.inl ⟨_, rfl⟩, rfl⟩

end QuizMind.Scenarios
