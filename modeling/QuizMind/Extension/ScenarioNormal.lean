import QuizMind.Extension.Scenarios
import Mathlib.Data.Bool.AllAny

/-! # What the normalization of a scenario leaves

A result of `normalizeScenarioConfig` is `Normal`, and a normal scenario is left as it is
(`normalize_toJson`): the normalization is a projection onto the normal scenarios. What it does
not check is the text of the id.
-/

namespace QuizMind.Scenarios

open Ai (JsValue Payload trimText)
open History (toISOString dateParse dateParse_toISOString maxTime)
open Logs (get isTruthy)
open Text (strip_strip strip_eq_nil_iff strip_eq_self_iff)

/-! ## Texts -/

/-- A text that `cleanString` leaves as it is. -/
structure Cleaned (max : ℕ) (value : Text) : Prop where
  trimmed : trimText value = value
  short : textLength value ≤ max

theorem trimText_trimText (value : Text) : trimText (trimText value) = trimText value :=
  strip_strip value

variable {max : ℕ} {field : String}

theorem cleanString_given {given : Text} {required : Bool} {cleaned : Option Text} :
    cleanString (some (.string given)) field max required = .ok cleaned ↔
      cleaned = some (trimText given) ∧ textLength (trimText given) ≤ max ∧
        (required = true → trimText given ≠ []) := by
  unfold cleanString
  dsimp only
  split_ifs with hblank hlong
  all_goals grind

variable {value : Option JsValue}

/-- What has been cleaned is clean. -/
theorem cleaned_of_cleanString {required : Bool} {cleaned : Option Text}
    (h : cleanString value field max required = .ok cleaned) :
    (∀ t ∈ cleaned, Cleaned max t) ∧ (required = true → ∃ t ≠ [], cleaned = some t) := by
  have habsent : (if required then .error (.badRequest s!"{field} is required") else .ok none) =
      (.ok cleaned : Except Exception (Option Text)) →
      (∀ t ∈ cleaned, Cleaned max t) ∧ (required = true → ∃ t ≠ [], cleaned = some t) := by grind
  rcases value with _ | value
  · exact habsent h
  cases value with
  | null => exact habsent h
  | string given =>
    rcases cleanString_given.mp h with ⟨rfl, hshort, hne⟩
    constructor
    · intro t ht
      cases ht
      exact ⟨trimText_trimText given, hshort⟩
    · grind
  | _ => cases h

/-- An optional text that is clean is read back. -/
theorem cleanString_ofText {value : Option Text} (h : ∀ t ∈ value, Cleaned max t) :
    cleanString (some (ofText value)) field max false = .ok value := by
  cases value with
  | none => rfl
  | some t =>
    have hclean := h t rfl
    refine cleanString_given.mpr ⟨?_, ?_, nofun⟩
    · rw [hclean.trimmed]
    · rw [hclean.trimmed]
      exact hclean.short

/-- A text that must be there. -/
structure Label (max : ℕ) (value : Text) : Prop extends Cleaned max value where
  ne_nil : value ≠ []

theorem label_of_requiredString {t : Text} (h : requiredString value field max = .ok t) :
    Label max t := by
  obtain ⟨cleaned, hcleaned, ht⟩ := bind_eq_ok_iff.mp h
  obtain ⟨hclean, hgiven⟩ := cleaned_of_cleanString hcleaned
  obtain ⟨t', hne, rfl⟩ := hgiven rfl
  cases ht
  exact ⟨hclean t' rfl, hne⟩

theorem requiredString_label {t : Text} (h : Label max t) :
    requiredString (some (.string t)) field max = .ok t := by
  have hread : cleanString (some (.string t)) field max true = .ok (some t) := by
    refine cleanString_given.mpr ?_
    rw [h.trimmed]
    exact ⟨rfl, h.short, fun _ => h.ne_nil⟩
  unfold requiredString
  rw [hread]
  rfl

/-! ## Numbers and dates -/

theorem clamp_mem {α : Type} [LinearOrder α] {n low high : α} (h : low ≤ high) :
    low ≤ clamp n low high ∧ clamp n low high ≤ high :=
  ⟨le_min h (le_max_left low n), min_le_left _ _⟩

theorem clamp_of_mem {α : Type} [LinearOrder α] {n low high : α} (h : low ≤ n ∧ n ≤ high) :
    clamp n low high = n := by
  unfold clamp
  rw [max_eq_right h.1, min_eq_right h.2]

/-- A date as `toISOString` writes it. -/
def IsIso (value : Text) : Prop := ∃ t, -maxTime ≤ t ∧ t ≤ maxTime ∧ value = toISOString t

theorem isIso_of_isoText {t : ℤ} {now : Text} (h : isoText t = .ok now) : IsIso now := by
  unfold isoText at h
  split at h
  · rename_i hrange
    cases h
    exact ⟨t, hrange.1, hrange.2, rfl⟩
  · cases h

theorem isIso_of_parseIso {otherDates : Text → Option ℤ} {date : Text}
    (h : parseIso otherDates value = some date) : IsIso date := by
  rcases value with _ | value
  · cases h
  cases value with
  | string given =>
    simp only [parseIso] at h
    split at h
    · cases h
    obtain ⟨t, ht, rfl⟩ := Option.map_eq_some_iff.mp h
    have hrange := (Option.filter_eq_some_iff.mp ht).2
    simp only [Bool.decide_and, Bool.and_eq_true, decide_eq_true_eq] at hrange
    exact ⟨t, hrange.1, hrange.2, rfl⟩
  | _ => cases h

/-- The text of a date is not blank: it has a colon in it. -/
theorem trimText_toISOString_ne_nil (t : ℤ) : trimText (toISOString t) ≠ [] := by
  intro hnil
  have hcolon : ':' ∈ toISOString t := by
    simp [toISOString, History.timeText]
  have hblank := strip_eq_nil_iff.mp hnil ':' hcolon
  exact absurd hblank (by decide)

theorem parseIso_of_isIso (otherDates : Text → Option ℤ) {date : Text} (h : IsIso date) :
    parseIso otherDates (some (.string date)) = some date := by
  obtain ⟨t, hlow, hhigh, rfl⟩ := h
  have hdate : newDate otherDates (toISOString t) = some t := by
    unfold newDate
    rw [dateParse_toISOString otherDates hlow hhigh]
    exact Option.filter_eq_some_iff.mpr ⟨rfl, by simp [hlow, hhigh]⟩
  unfold parseIso
  dsimp only
  rw [if_neg (trimText_toISOString_ne_nil t), hdate]
  rfl

/-! ## What is read -/

section Normalize

variable (env : ScenarioEnv)

/-- The objects that a scenario is read from, and what is read from them. -/
structure Reading (raw : Option JsValue) (options : NormalizeOptions) (uuid : Uuid)
    (scenario : ScenarioConfig) where
  root : Payload
  input : Payload
  output : Payload
  ai : Payload
  prompt : Payload
  window : Payload
  safe : assertNoDangerousKeys (raw.getD .null) = .ok ()
  updatedAt : isoText options.now = .ok scenario.updatedAt
  root_eq : asObj raw "scenario" = .ok root
  id : readId options.scenarioId root uuid = .ok scenario.id
  input_eq : asObj (some (coalesce (root.lookup "input")
    (.object [("type", text "selection_text")]))) "input" = .ok input
  output_eq : asObj (some (coalesce (root.lookup "output")
    (.object [("type", text "text"), ("renderer", text "answer_window")]))) "output" = .ok output
  input_ok : checkInput env input = .ok ()
  output_ok : checkOutput env output = .ok ()
  ai_eq : asObj (some (coalesce (root.lookup "ai") (.object []))) "ai" = .ok ai
  prompt_eq : asObj (some (coalesce (root.lookup "prompt") (.object []))) "prompt" = .ok prompt
  window_eq : asObj (some (coalesce (root.lookup "window") (.object []))) "window" = .ok window
  menuOrder : readMenuOrder (root.lookup "menuOrder") = .ok scenario.menuOrder
  resultPosition : readResultPosition (window.lookup "resultPosition") =
    .ok scenario.window.resultPosition
  name : requiredString (root.lookup "name") "name" 80 = .ok scenario.name
  description : cleanString (root.lookup "description") "description" 500 false =
    .ok scenario.description
  buttonLabel : requiredString (root.lookup "buttonLabel") "buttonLabel" 28 =
    .ok scenario.buttonLabel
  icon : cleanString (root.lookup "icon") "icon" 8 false = .ok scenario.icon
  model : cleanString (ai.lookup "model") "ai.model" 150 false = .ok scenario.ai.model
  system : requiredString (prompt.lookup "system") "prompt.system" 12000 =
    .ok scenario.prompt.system
  user : requiredString (prompt.lookup "user") "prompt.user" 12000 = .ok scenario.prompt.user
  enabled : scenario.enabled = (booleanOf (root.lookup "enabled")).getD true
  showInSelectionMenu : scenario.showInSelectionMenu =
    (booleanOf (root.lookup "showInSelectionMenu")).getD true
  output_read : scenario.output = readOutput output
  temperature : scenario.ai.temperature = readTemperature (ai.lookup "temperature")
  maxTokens : scenario.ai.maxTokens = readMaxTokens (ai.lookup "maxTokens")
  draggable : scenario.window.draggable = booleanOf (window.lookup "draggable")
  resizable : scenario.window.resizable = booleanOf (window.lookup "resizable")
  createdAt : scenario.createdAt = readCreatedAt env options.existingConfig root scenario.updatedAt

variable {env} {raw : Option JsValue} {options : NormalizeOptions} {uuid : Uuid}
  {scenario : ScenarioConfig}

/-- Every step of the normalization has succeeded. -/
theorem reading_of_normalize (h : normalizeScenarioConfig env raw options uuid = .ok scenario) :
    Nonempty (Reading env raw options uuid scenario) := by
  obtain ⟨_, hsafe, h⟩ := bind_eq_ok_iff.mp h
  obtain ⟨now, hnow, h⟩ := bind_eq_ok_iff.mp h
  obtain ⟨root, hroot, h⟩ := bind_eq_ok_iff.mp h
  obtain ⟨id, hid, h⟩ := bind_eq_ok_iff.mp h
  obtain ⟨input, hinput, h⟩ := bind_eq_ok_iff.mp h
  obtain ⟨output, houtput, h⟩ := bind_eq_ok_iff.mp h
  obtain ⟨_, hinputOk, h⟩ := bind_eq_ok_iff.mp h
  obtain ⟨_, houtputOk, h⟩ := bind_eq_ok_iff.mp h
  obtain ⟨ai, hai, h⟩ := bind_eq_ok_iff.mp h
  obtain ⟨prompt, hprompt, h⟩ := bind_eq_ok_iff.mp h
  obtain ⟨window, hwindow, h⟩ := bind_eq_ok_iff.mp h
  obtain ⟨menuOrder, hmenuOrder, h⟩ := bind_eq_ok_iff.mp h
  obtain ⟨resultPosition, hresultPosition, h⟩ := bind_eq_ok_iff.mp h
  obtain ⟨name, hname, h⟩ := bind_eq_ok_iff.mp h
  obtain ⟨description, hdesc, h⟩ := bind_eq_ok_iff.mp h
  obtain ⟨buttonLabel, hbuttonLabel, h⟩ := bind_eq_ok_iff.mp h
  obtain ⟨icon, hicon, h⟩ := bind_eq_ok_iff.mp h
  obtain ⟨model, hmodel, h⟩ := bind_eq_ok_iff.mp h
  obtain ⟨system, hsystem, h⟩ := bind_eq_ok_iff.mp h
  obtain ⟨user, huser, h⟩ := bind_eq_ok_iff.mp h
  cases h
  exact ⟨⟨root, input, output, ai, prompt, window, hsafe, hnow, hroot, hid, hinput, houtput,
    hinputOk, houtputOk, hai, hprompt, hwindow, hmenuOrder, hresultPosition, hname, hdesc,
    hbuttonLabel, hicon, hmodel, hsystem, huser, rfl, rfl, rfl, rfl, rfl, rfl, rfl, rfl⟩⟩

/-- Conversely, what is read is what is returned. -/
theorem Reading.normalize (r : Reading env raw options uuid scenario) :
    normalizeScenarioConfig env raw options uuid = .ok scenario := by
  unfold normalizeScenarioConfig
  simp only [r.safe, r.updatedAt, r.root_eq, r.id, r.input_eq, r.output_eq, r.input_ok,
    r.output_ok, r.ai_eq, r.prompt_eq, r.window_eq, r.menuOrder, r.resultPosition, r.name,
    r.description, r.buttonLabel, r.icon, r.model, r.system, r.user, bind, Except.bind]
  rw [← r.enabled, ← r.showInSelectionMenu, ← r.output_read, ← r.temperature, ← r.maxTokens,
    ← r.draggable, ← r.resizable, ← r.createdAt]
  rfl

/-- What is left of an accepted value, apart from the id. -/
structure ScenarioConfig.Normal (scenario : ScenarioConfig) : Prop where
  name : Label 80 scenario.name
  description : ∀ t ∈ scenario.description, Cleaned 500 t
  buttonLabel : Label 28 scenario.buttonLabel
  icon : ∀ t ∈ scenario.icon, Cleaned 8 t
  menuOrder : -10000 ≤ scenario.menuOrder ∧ scenario.menuOrder ≤ 10000
  model : ∀ t ∈ scenario.ai.model, Cleaned 150 t
  temperature : 0 ≤ scenario.ai.temperature ∧ scenario.ai.temperature ≤ 2
  maxTokens : 1 ≤ scenario.ai.maxTokens ∧ scenario.ai.maxTokens ≤ 20000
  system : Label 12000 scenario.prompt.system
  user : Label 12000 scenario.prompt.user
  createdAt : IsIso scenario.createdAt
  updatedAt : IsIso scenario.updatedAt

theorem readMenuOrder_bounds {value : Option JsValue} {n : ℤ} (h : readMenuOrder value = .ok n) :
    -10000 ≤ n ∧ n ≤ 10000 := by
  unfold readMenuOrder at h
  split at h
  · cases h
    decide
  · cases h
    decide
  · grind [clamp_mem]

theorem readTemperature_bounds (value : Option JsValue) :
    0 ≤ readTemperature value ∧ readTemperature value ≤ 2 := by grind [readTemperature, clamp_mem]

theorem readMaxTokens_bounds (value : Option JsValue) :
    1 ≤ readMaxTokens value ∧ readMaxTokens value ≤ 20000 := by grind [readMaxTokens, clamp_mem]

variable {root members : Payload}

theorem isIso_readCreatedAt {existingConfig : Option JsValue} {now : Text} (h : IsIso now) :
    IsIso (readCreatedAt env existingConfig root now) := by
  unfold readCreatedAt
  rcases hexisting : parseIso env.otherDates (get existingConfig "createdAt") with _ | date
  · rcases hroot : parseIso env.otherDates (root.lookup "createdAt") with _ | date
    · exact h
    · exact isIso_of_parseIso hroot
  · exact isIso_of_parseIso hexisting

theorem Reading.normal (r : Reading env raw options uuid scenario) : scenario.Normal where
  name := label_of_requiredString r.name
  description := (cleaned_of_cleanString r.description).1
  buttonLabel := label_of_requiredString r.buttonLabel
  icon := (cleaned_of_cleanString r.icon).1
  menuOrder := readMenuOrder_bounds r.menuOrder
  model := (cleaned_of_cleanString r.model).1
  temperature := r.temperature ▸ readTemperature_bounds _
  maxTokens := r.maxTokens ▸ readMaxTokens_bounds _
  system := label_of_requiredString r.system
  user := label_of_requiredString r.user
  createdAt := r.createdAt ▸ isIso_readCreatedAt (isIso_of_isoText r.updatedAt)
  updatedAt := isIso_of_isoText r.updatedAt

/-! ## The projection -/

/-- Nothing in a stored scenario is refused. -/
theorem assertNoDangerousKeys_toJson (scenario : ScenarioConfig) :
    assertNoDangerousKeys scenario.toJson = .ok () := by
  obtain ⟨id, name, description, buttonLabel, icon, enabled, showInSelectionMenu, menuOrder,
    output, ⟨model, temperature, maxTokens⟩, ⟨system, user⟩,
    ⟨resultPosition, draggable, resizable⟩, createdAt, updatedAt⟩ := scenario
  cases description <;> cases icon <;> cases model <;> cases output <;> cases draggable <;>
    cases resizable <;> rfl

theorem readResultPosition_name (position : ResultPosition) :
    readResultPosition (some (.string position.name)) = .ok position := by
  cases position <;> rfl

theorem checkOutput_toJson (env : ScenarioEnv) {output : ScenarioOutput}
    (h : output.toJson = .object members) :
    checkOutput env members = .ok () ∧ readOutput members = output := by
  cases output with
  | text | image downloadable openInNewTab =>
    cases h
    exact ⟨rfl, rfl⟩

theorem lookup_givenBool_window (window : ScenarioWindow) (h : window.toJson = .object members) :
    members.lookup "resultPosition" = some (.string window.resultPosition.name) ∧
      booleanOf (members.lookup "draggable") = window.draggable ∧
      booleanOf (members.lookup "resizable") = window.resizable := by
  obtain ⟨resultPosition, draggable, resizable⟩ := window
  cases h
  cases draggable <;> cases resizable <;> exact ⟨rfl, rfl, rfl⟩

variable {id : Text}

/-- A normal scenario is read as it is, under whatever id and dates it is given. -/
theorem normalize_toJson (options : NormalizeOptions) (h : scenario.Normal) {now : Text}
    (hid : readId options.scenarioId scenario.members uuid = .ok id)
    (hnow : isoText options.now = .ok now) :
    normalizeScenarioConfig env (some scenario.toJson) options uuid =
      .ok { scenario with
        id := id
        createdAt := (parseIso env.otherDates (get options.existingConfig "createdAt")).getD
          scenario.createdAt
        updatedAt := now } := by
  obtain ⟨output, houtput⟩ : ∃ output, scenario.output.toJson = .object output := by
    cases scenario.output <;> exact ⟨_, rfl⟩
  obtain ⟨window, hwindow⟩ : ∃ window, scenario.window.toJson = .object window := ⟨_, rfl⟩
  obtain ⟨houtputOk, houtputRead⟩ := checkOutput_toJson env houtput
  obtain ⟨hposition, hdraggable, hresizable⟩ := lookup_givenBool_window scenario.window hwindow
  have houtputMember : scenario.members.lookup "output" = some (.object output) :=
    (show scenario.members.lookup "output" = some scenario.output.toJson from rfl).trans
      (congrArg some houtput)
  have hwindowMember : scenario.members.lookup "window" = some (.object window) :=
    (show scenario.members.lookup "window" = some scenario.window.toJson from rfl).trans
      (congrArg some hwindow)
  refine Reading.normalize
    { root := scenario.members
      input := [("type", text "selection_text")]
      output := output
      ai := [("provider", text "auto"), ("model", ofText scenario.ai.model),
        ("temperature", .number (some scenario.ai.temperature)),
        ("maxTokens", ofInt scenario.ai.maxTokens)]
      prompt := [("system", .string scenario.prompt.system), ("user", .string scenario.prompt.user)]
      window := window
      safe := assertNoDangerousKeys_toJson scenario
      updatedAt := hnow
      root_eq := rfl
      id := hid
      input_eq := rfl
      output_eq := by rw [houtputMember]; rfl
      input_ok := rfl
      output_ok := houtputOk
      ai_eq := rfl
      prompt_eq := rfl
      window_eq := by rw [hwindowMember]; rfl
      menuOrder := ?_
      resultPosition := by rw [hposition]; exact readResultPosition_name _
      name := requiredString_label h.name
      description := cleanString_ofText h.description
      buttonLabel := requiredString_label h.buttonLabel
      icon := cleanString_ofText h.icon
      model := cleanString_ofText h.model
      system := requiredString_label h.system
      user := requiredString_label h.user
      enabled := rfl
      showInSelectionMenu := rfl
      output_read := houtputRead.symm
      temperature := (clamp_of_mem h.temperature).symm
      maxTokens := (clamp_of_mem h.maxTokens).symm
      draggable := hdraggable.symm
      resizable := hresizable.symm
      createdAt := ?_ }
  · exact congrArg Except.ok (clamp_of_mem h.menuOrder)
  have hcreatedAt : parseIso env.otherDates (scenario.members.lookup "createdAt") =
      some scenario.createdAt := parseIso_of_isIso env.otherDates h.createdAt
  unfold readCreatedAt
  rw [hcreatedAt]
  cases parseIso env.otherDates (get options.existingConfig "createdAt") <;> rfl

/-! ## Ids -/

theorem textLength_le (value : Text) : textLength value ≤ 2 * value.length := by
  have hfold : ∀ (chars : List Char) (n : ℕ),
      chars.foldl (fun n c => n + if 0x10000 ≤ c.toNat then 2 else 1) n ≤
        n + 2 * chars.length := by
    intro chars
    induction chars with
    | nil =>
      intro n
      exact Nat.le_refl n
    | cons c chars ih => grind
  have hall := hfold value 0
  unfold textLength jsLength
  rw [String.toList_ofList]
  omega

theorem cleaned_scenarioIdOf (uuid : Uuid) : Cleaned 256 (scenarioIdOf uuid) := by
  have hfront : ∀ c ∈ "scn_".toList, isJsSpace c = false :=
      List.all_iff_forall_prop.mp (by decide)
  have hdigits : ∀ c ∈ "0123456789abcdef-".toList, isJsSpace c = false :=
      List.all_iff_forall_prop.mp (by decide)
  have hspace : ∀ c ∈ scenarioIdOf uuid, isJsSpace c = false := by
    intro c hc
    rcases List.mem_append.mp hc with hc | hc
    · exact hfront c hc
    · exact hdigits c (uuid.digits c hc)
  constructor
  · refine (strip_eq_self_iff _).mpr ⟨?_, ?_⟩
    · grind
    · grind
  have hlen := textLength_le (scenarioIdOf uuid)
  have hchars : (scenarioIdOf uuid).length = 4 + uuid.text.length := List.length_append
  rw [hchars, uuid.length] at hlen
  omega

theorem scenarioIdOf_ne_nil (uuid : Uuid) : scenarioIdOf uuid ≠ [] :=
  List.append_ne_nil_of_left_ne_nil (by decide) uuid.text

/-- The id is given, and it is not blank. -/
def NamesId (scenarioId : Option Text) (raw : Option JsValue) : Prop :=
  match scenarioId with
  | some scenarioId => scenarioId ≠ []
  | none => ∀ given, get raw "id" = some (.string given) → trimText given ≠ []

theorem asObj_eq_ok {value : Option JsValue} {field : String}
    (h : asObj value field = .ok members) : value = some (.object members) := by
  rcases value with _ | value
  · cases h
  cases value with
  | object given =>
    cases h
    rfl
  | _ => cases h

/-- Every other id is not empty. -/
theorem readId_ne_nil_iff {scenarioId : Option Text} (h : readId scenarioId root uuid = .ok id) :
    id ≠ [] ↔ NamesId scenarioId (some (.object root)) := by
  cases scenarioId with
  | some scenarioId =>
    cases h
    exact Iff.rfl
  | none =>
    obtain ⟨cleaned, hcleaned, hid⟩ := bind_eq_ok_iff.mp h
    cases hid
    show cleaned.getD (scenarioIdOf uuid) ≠ [] ↔
      ∀ given, root.lookup "id" = some (.string given) → trimText given ≠ []
    rcases hroot : root.lookup "id" with _ | value
    · rw [hroot] at hcleaned
      cases hcleaned
      exact ⟨fun _ _ hgiven => (nomatch hgiven), fun _ => scenarioIdOf_ne_nil uuid⟩
    rw [hroot] at hcleaned
    cases value with
    | null =>
      cases hcleaned
      exact ⟨fun _ _ hgiven => (nomatch hgiven), fun _ => scenarioIdOf_ne_nil uuid⟩
    | string given =>
      obtain ⟨rfl, -, -⟩ := cleanString_given.mp hcleaned
      constructor
      · rintro hne _ ⟨⟩
        exact hne
      · intro hne
        exact hne given rfl
    | _ => cases hcleaned

/-- An id that was read without a `scenarioId` is read again. -/
theorem readId_again {scenarioId scenarioId' : Option Text} (uuid' : Uuid)
    (h : readId scenarioId root uuid = .ok id) (hmember : members.lookup "id" = some (.string id))
    (hsame : scenarioId' = scenarioId ∨ scenarioId' = some id) :
    readId scenarioId' members uuid' = .ok id := by
  rcases hsame with rfl | rfl
  · cases scenarioId' with
    | some scenarioId =>
      cases h
      rfl
    | none =>
      obtain ⟨cleaned, hcleaned, hid⟩ := bind_eq_ok_iff.mp h
      have hclean : Cleaned 256 id := by
        cases hid
        cases cleaned with
        | none => exact cleaned_scenarioIdOf uuid
        | some t => exact (cleaned_of_cleanString hcleaned).1 t rfl
      have hread : cleanString (some (ofText (some id))) "id" 256 false = .ok (some id) := by
        grind [cleanString_ofText]
      unfold readId
      rw [hmember]
      exact bind_eq_ok_iff.mpr ⟨some id, hread, rfl⟩
  · rfl

/-! ## Keys -/

end Normalize

mutual

/-- The keys of all objects in a value. -/
def keys : JsValue → List String
  | .array items => itemKeys items
  | .object members => memberKeys members
  | _ => []

def itemKeys : List JsValue → List String
  | [] => []
  | item :: items => keys item ++ itemKeys items

def memberKeys : List (String × JsValue) → List String
  | [] => []
  | (k, v) :: members => k :: (keys v ++ memberKeys members)

end

mutual

theorem assertNoDangerousKeys_iff : ∀ value : JsValue,
    assertNoDangerousKeys value = .ok () ↔ ∀ k ∈ keys value, k ∉ dangerousKeys
  | .null | .bool _ | .number _ | .string _ => by simp [assertNoDangerousKeys, keys]
  | .array items => by
      rw [assertNoDangerousKeys, keys]
      exact assertItems_iff items
  | .object members => by
      rw [assertNoDangerousKeys, keys]
      exact assertMembers_iff members

theorem assertItems_iff : ∀ items : List JsValue,
    assertItems items = .ok () ↔ ∀ k ∈ itemKeys items, k ∉ dangerousKeys
  | [] => by simp [assertItems, itemKeys]
  | item :: items => by
      have hitem := assertNoDangerousKeys_iff item
      have hitems := assertItems_iff items
      rw [assertItems, itemKeys, bind_eq_ok_iff]
      constructor
      all_goals grind

theorem assertMembers_iff : ∀ members : List (String × JsValue),
    assertMembers members = .ok () ↔ ∀ k ∈ memberKeys members, k ∉ dangerousKeys
  | [] => by simp [assertMembers, memberKeys]
  | (k, v) :: members => by
      have hval := assertNoDangerousKeys_iff v
      have hmembers := assertMembers_iff members
      rw [assertMembers, memberKeys]
      by_cases hkey : k ∈ dangerousKeys
      · rw [if_pos hkey]
        constructor
        · rintro ⟨⟩
        · grind
      rw [if_neg hkey]
      constructor
      all_goals grind [bind_eq_ok_iff]

end

/-! ## Valid scenarios -/

structure ScenarioConfig.Valid (scenario : ScenarioConfig) : Prop where
  id : scenario.id ≠ []
  name : scenario.name ≠ [] ∧ textLength scenario.name ≤ 80
  buttonLabel : scenario.buttonLabel ≠ [] ∧ textLength scenario.buttonLabel ≤ 28
  system : scenario.prompt.system ≠ [] ∧ textLength scenario.prompt.system ≤ 12000
  user : scenario.prompt.user ≠ [] ∧ textLength scenario.prompt.user ≤ 12000
  menuOrder : -10000 ≤ scenario.menuOrder ∧ scenario.menuOrder ≤ 10000
  temperature : 0 ≤ scenario.ai.temperature ∧ scenario.ai.temperature ≤ 2
  maxTokens : 1 ≤ scenario.ai.maxTokens ∧ scenario.ai.maxTokens ≤ 20000
  safe : ∀ k ∈ keys scenario.toJson, k ∉ dangerousKeys

theorem ScenarioConfig.Normal.valid {scenario : ScenarioConfig} (h : scenario.Normal)
    (hid : scenario.id ≠ []) : scenario.Valid where
  id := hid
  name := ⟨h.name.ne_nil, h.name.short⟩
  buttonLabel := ⟨h.buttonLabel.ne_nil, h.buttonLabel.short⟩
  system := ⟨h.system.ne_nil, h.system.short⟩
  user := ⟨h.user.ne_nil, h.user.short⟩
  menuOrder := h.menuOrder
  temperature := h.temperature
  maxTokens := h.maxTokens
  safe := (assertNoDangerousKeys_iff _).mp (assertNoDangerousKeys_toJson scenario)

section Projection

variable {env : ScenarioEnv} {raw : Option JsValue} {options : NormalizeOptions} {uuid : Uuid}
  {scenario : ScenarioConfig}

section

variable (h : normalizeScenarioConfig env raw options uuid = .ok scenario)
include h

/-- Whatever is normalized is left as it is by a second normalization with the same id, existing
configuration and time. -/
theorem normalize_normalized (uuid' : Uuid) {scenarioId : Option Text}
    (hid : scenarioId = options.scenarioId ∨ scenarioId = some scenario.id) :
    normalizeScenarioConfig env (some scenario.toJson) { options with scenarioId := scenarioId }
      uuid' = .ok scenario := by
  obtain ⟨r⟩ := reading_of_normalize h
  have hread : readId scenarioId scenario.members uuid' = .ok scenario.id :=
    readId_again uuid' r.id rfl hid
  refine (normalize_toJson { options with scenarioId := scenarioId } r.normal hread
    r.updatedAt).trans ?_
  have hcreatedAt : (parseIso env.otherDates (get options.existingConfig "createdAt")).getD
      scenario.createdAt = scenario.createdAt := by
    have hread := r.createdAt
    unfold readCreatedAt at hread
    -- where the existing configuration has a date, that date was taken
    cases hexisting : parseIso env.otherDates (get options.existingConfig "createdAt") with
    | none => rfl
    | some date =>
      rw [hexisting] at hread
      exact hread.symm
  rw [hcreatedAt]

theorem normalize_normal : scenario.Normal := by
  obtain ⟨r⟩ := reading_of_normalize h
  exact r.normal

/-- What is accepted is accepted under another id and at another time as well. -/
theorem normalize_again (uuid' : Uuid) (id : Text) (existingConfig : Option JsValue) {now : ℤ}
    (hnow : -maxTime ≤ now ∧ now ≤ maxTime) :
    ∃ scenario', normalizeScenarioConfig env raw ⟨some id, existingConfig, now⟩ uuid' =
      .ok scenario' := by
  obtain ⟨r⟩ := reading_of_normalize h
  have hnow' : isoText now = .ok (toISOString now) := if_pos hnow
  have r' : Reading env raw ⟨some id, existingConfig, now⟩ uuid'
      { scenario with
        id := id
        createdAt := readCreatedAt env existingConfig r.root (toISOString now)
        updatedAt := toISOString now } :=
    { r with
      updatedAt := hnow'
      id := rfl
      createdAt := rfl }
  exact ⟨_, r'.normalize⟩

end

theorem normalize_id {id : Text} {existingConfig : Option JsValue} {now : ℤ}
    (h : normalizeScenarioConfig env raw ⟨some id, existingConfig, now⟩ uuid = .ok scenario) :
    scenario.id = id := by
  obtain ⟨r⟩ := reading_of_normalize h
  have hid := r.id
  cases hid
  rfl

/-- The result of a normalization is valid exactly where the id is not blank. -/
theorem valid_iff_namesId (h : normalizeScenarioConfig env raw options uuid = .ok scenario) :
    scenario.Valid ↔ NamesId options.scenarioId raw := by
  obtain ⟨r⟩ := reading_of_normalize h
  have hraw : raw = some (.object r.root) := asObj_eq_ok r.root_eq
  have hid := readId_ne_nil_iff r.id
  rw [hraw, ← hid]
  exact ⟨fun hvalid => hvalid.id, r.normal.valid⟩

end Projection

end QuizMind.Scenarios
