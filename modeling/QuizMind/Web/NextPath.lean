import QuizMind.Text.Percent
import QuizMind.Web.ConnectPage

/-! # Where to go after signing in

The sign-in pages take a path from the query and the browser resolves it against the site. The
filter looks at the characters of the text as it came; the URL parser drops tabs and newlines
first and takes a backslash for a slash. So a path that passes stays on the site if and only if
no second slash comes to the front that way (`next_path_stays_iff`). What `withNextPath` writes
is read back in every case (`resolveNextPath_withNextPath`).
-/

namespace QuizMind.NextPath

open ConnectPage
open String (ofList)

/-! ## The pages -/

def accepts (value : String) : Bool :=
  value ≠ "" && jsStartsWith value "/" && !jsStartsWith value "//"

def resolveNextPath (rawValue : Option SearchParam) (fallback : String) : String :=
  match readSearchParam rawValue with
  | none => fallback
  | some value => if accepts value then value else fallback

def withNextPath (path nextPath : String) : String :=
  if accepts nextPath then
    let separator := if '?' ∈ path.toList then "&" else "?"
    path ++ separator ++ "next=" ++ ofList (Percent.encode nextPath.toList)
  else path

/-! ## The URL parser -/

inductive Scheme where
  | http
  | https
  deriving DecidableEq

structure Origin where
  scheme : Scheme
  host : String
  port : Option ℕ
  deriving DecidableEq

/-- What the parser does with the rest of a URL. -/
structure UrlParser where
  /-- The host and the port of the text behind `//`. -/
  authority : Scheme → List Char → Option (String × Option ℕ)
  /-- A text that begins with no slash, against a base. -/
  other : List Char → Origin → Option Origin

def isC0OrSpace (c : Char) : Bool := c.toNat ≤ 0x20

def isTabOrNewline (c : Char) : Bool := c = '\t' || c = '\n' || c = '\r'

/-- A backslash is a slash in `http` and `https`. -/
def isSlash (c : Char) : Bool := c = '/' || c = '\\'

def startsWithSlash (text : List Char) : Bool := text.head?.any isSlash

def withoutTabs (text : List Char) : List Char := text.filter fun c => !isTabOrNewline c

/-- The text that is parsed: control characters and spaces are stripped from the ends, tabs and
newlines are removed. -/
def cleaned (text : List Char) : List Char :=
  withoutTabs ((text.dropWhile isC0OrSpace).rdropWhile isC0OrSpace)

def endsAuthority (c : Char) : Bool := isSlash c || c = '?' || c = '#'

/-- The origin of a text resolved against a site: that of the site, unless two slashes begin an
authority. -/
def resolve (parser : UrlParser) (text : String) (site : Origin) : Option Origin :=
  let text := cleaned text.toList
  if startsWithSlash text then
    if startsWithSlash text.tail then
      let authority := (text.dropWhile isSlash).takeWhile fun c => !endsAuthority c
      (parser.authority site.scheme authority).map fun (host, port) => ⟨site.scheme, host, port⟩
    else some site
  else parser.other text site

/-- The query of a text that has been cleaned. -/
def queryOf (text : List Char) : List Char :=
  ((text.takeWhile (· ≠ '#')).dropWhile (· ≠ '?')).drop 1

/-- A parameter as a page gets it. -/
def paramOf (params : List (List Char × List Char)) (name : String) : Option SearchParam :=
  match (params.filter fun param => param.1 = name.toList).map Prod.snd with
  | [] => none
  | [value] => some (.text (ofList value))
  | values => some (.texts (values.map ofList))

/-! ## Staying on the site -/

/-- A path of the app: no slash comes next to the first one when tabs and newlines are gone. -/
def inApp (path : String) : Bool :=
  match path.toList with
  | '/' :: rest => !startsWithSlash (withoutTabs rest)
  | _ => false

theorem startsWithSlash_append {text control : List Char}
    (hcontrol : ∀ c ∈ control, isC0OrSpace c = true) :
    startsWithSlash (text ++ control) = startsWithSlash text := by
  cases text with
  | cons c text => rfl
  | nil =>
    cases control with
    | nil => rfl
    | cons c control =>
      have hc := hcontrol c List.mem_cons_self
      have hslash : isSlash c = false := by
        by_contra h
        have hor : c = '/' ∨ c = '\\' := by
          rw [Bool.not_eq_false, isSlash] at h
          simpa using h
        rcases hor with rfl | rfl
        all_goals exact absurd hc (by decide)
      simp [startsWithSlash, hslash]

/-- Cleaning leaves the first slash where it is, and takes only control characters from the end. -/
theorem cleaned_slash (rest : List Char) :
    ∃ front control, rest = front ++ control ∧ (∀ c ∈ control, isC0OrSpace c = true) ∧
      cleaned ('/' :: rest) = '/' :: withoutTabs front := by
  have hstart : ('/' :: rest).dropWhile isC0OrSpace = '/' :: rest := rfl
  have hparts := List.rdropWhile_append_rtakeWhile (p := isC0OrSpace) (l := '/' :: rest)
  cases hfront : ('/' :: rest).rdropWhile isC0OrSpace with
  | nil => simp_all
  | cons c front =>
    rw [hfront, List.cons_append, List.cons.injEq] at hparts
    refine ⟨front, ('/' :: rest).rtakeWhile isC0OrSpace, hparts.2.symm,
      fun d hd => List.mem_rtakeWhile_imp hd, ?_⟩
    unfold cleaned
    rw [hstart, hfront, hparts.1]
    rfl

theorem startsWithSlash_cleaned (rest : List Char) :
    startsWithSlash (cleaned ('/' :: rest)) = true ∧
      startsWithSlash (cleaned ('/' :: rest)).tail = startsWithSlash (withoutTabs rest) := by
  obtain ⟨front, control, hrest, hcontrol, hcleaned⟩ := cleaned_slash rest
  have hkept : ∀ c ∈ withoutTabs control, isC0OrSpace c = true := fun c hc =>
    hcontrol c (List.mem_of_mem_filter hc)
  constructor
  · rw [hcleaned]
    rfl
  have happend : withoutTabs rest = withoutTabs front ++ withoutTabs control := by
    rw [hrest]
    exact List.filter_append front control
  rw [hcleaned, happend, startsWithSlash_append hkept]
  rfl

section Resolve

variable (parser : UrlParser) {path : String}

theorem resolve_inApp (h : inApp path = true) (site : Origin) :
    resolve parser path site = some site := by
  unfold inApp at h
  split at h
  · rename_i rest htext
    obtain ⟨hfirst, hsecond⟩ := startsWithSlash_cleaned rest
    have hnone : startsWithSlash (withoutTabs rest) = false := by simpa using h
    unfold resolve
    rw [htext, if_pos hfirst, hsecond, hnone]
    rfl
  · cases h

/-- With a second slash the text names the host and the port, whatever the site's are. -/
theorem resolve_slashes {rest : List Char} (htext : path.toList = '/' :: rest)
    (h : startsWithSlash (withoutTabs rest) = true) :
    ∃ named : Option (String × Option ℕ), ∀ host port, resolve parser path ⟨.https, host, port⟩ =
        named.map fun (host, port) => ⟨.https, host, port⟩ := by
  obtain ⟨hfirst, hsecond⟩ := startsWithSlash_cleaned rest
  refine ⟨parser.authority .https (((cleaned ('/' :: rest)).dropWhile isSlash).takeWhile
    fun c => !endsAuthority c), ?_⟩
  intro host port
  unfold resolve
  rw [htext, if_pos hfirst, if_pos (hsecond.trans h)]

/-- Two sites that differ in the port tell whether the text names the authority. -/
theorem inApp_of_stays (hslash : jsStartsWith path "/" = true)
    (hstays : ∀ site, resolve parser path site = some site) : inApp path = true := by
  have hprefix : ∃ rest, path.toList = '/' :: rest := by
    obtain ⟨rest, hrest⟩ := List.isPrefixOf_iff_prefix.mp hslash
    exact ⟨rest, hrest.symm⟩
  obtain ⟨rest, htext⟩ := hprefix
  by_contra hnot
  have hsecond : startsWithSlash (withoutTabs rest) = true := by
    unfold inApp at hnot
    rw [htext] at hnot
    simpa using hnot
  obtain ⟨named, hnamed⟩ := resolve_slashes parser htext hsecond
  have hplain := (hnamed "" none).symm.trans (hstays _)
  have hport := (hnamed "" (some 8080)).symm.trans (hstays _)
  rw [hplain] at hport
  cases hport

end Resolve

theorem resolveNextPath_cases (rawValue : Option SearchParam) (fallback : String) :
    (∃ value, readSearchParam rawValue = some value ∧ accepts value = true ∧
      resolveNextPath rawValue fallback = value) ∨
    ((∀ value, readSearchParam rawValue = some value → accepts value = false) ∧
      resolveNextPath rawValue fallback = fallback) := by
  unfold resolveNextPath
  cases readSearchParam rawValue with
  | none => exact .inr ⟨nofun, rfl⟩
  | some value => grind

/-! ## Writing and reading a path -/

section RoundTrip

variable (replaced : List UInt8 → List Char)

/-- The parameters of a path. Something is put behind it, so its end is not stripped. -/
def ownParams (path : String) : List (List Char × List Char) :=
  Percent.searchParams replaced (queryOf (withoutTabs path.toList))

/-- The parameters of a URL as a page gets them. -/
def paramsOf (url : String) : List (List Char × List Char) :=
  Percent.searchParams replaced (queryOf (cleaned url.toList))

/-- The parameter that `withNextPath` writes. -/
def nextSegment (value : String) : List Char :=
  "next=".toList ++ Percent.encode value.toList

theorem mem_nextSegment {value : String} {c : Char} (h : c ∈ nextSegment value) :
    c ∈ '=' :: '%' :: Percent.kept := by
  have hname : ∀ d ∈ "next=".toList, d ∈ '=' :: '%' :: Percent.kept :=
    List.all_iff_forall_prop.mp (by decide)
  rcases List.mem_append.mp h with h | h
  · exact hname c h
  · exact List.mem_cons_of_mem _ (Percent.mem_encode h)

theorem withoutTabs_nextSegment (value : String) :
    withoutTabs (nextSegment value) = nextSegment value := by
  have hkeeps : ∀ c ∈ '=' :: '%' :: Percent.kept, isTabOrNewline c = false :=
    List.all_iff_forall_prop.mp (by decide)
  refine List.filter_eq_self.mpr fun c hc => ?_
  simp [hkeeps c (mem_nextSegment hc)]

/-- What ends with the new parameter keeps its end. -/
theorem cleaned_append (path : List Char) (separator : Char) (value : String)
    (hslash : path.head? = some '/') (hkeeps : isTabOrNewline separator = false) :
    cleaned (path ++ separator :: nextSegment value) =
      withoutTabs path ++ separator :: nextSegment value := by
  have hcontrol : ∀ c ∈ '=' :: '%' :: Percent.kept, isC0OrSpace c = false :=
    List.all_iff_forall_prop.mp (by decide)
  have hne : nextSegment value ≠ [] := by simp [nextSegment]
  have hstart : (path ++ separator :: nextSegment value).dropWhile isC0OrSpace =
      path ++ separator :: nextSegment value := by
    cases path with
    | nil => cases hslash
    | cons c path =>
      cases hslash
      rfl
  have hend : (path ++ separator :: nextSegment value).rdropWhile isC0OrSpace =
      path ++ separator :: nextSegment value := by
    refine List.rdropWhile_eq_self_iff.mpr fun hfull => ?_
    have hlast : (path ++ separator :: nextSegment value).getLast hfull =
        (nextSegment value).getLast hne := by
      rw [List.getLast_append_of_ne_nil _ (List.cons_ne_nil _ _), List.getLast_cons hne]
    rw [hlast, hcontrol _ (mem_nextSegment (List.getLast_mem hne))]
    simp
  have hseg : withoutTabs (separator :: nextSegment value) =
      separator :: nextSegment value := by
    have hseparator : (!isTabOrNewline separator) = true := by rw [hkeeps]; rfl
    exact (List.filter_cons_of_pos (p := fun c => !isTabOrNewline c) hseparator).trans
      (congrArg (separator :: ·) (withoutTabs_nextSegment value))
  unfold cleaned
  rw [hstart, hend]
  exact (List.filter_append _ _).trans (congrArg (withoutTabs path ++ ·) hseg)

/-- The query of a path with the new parameter, with and without parameters of its own. -/
theorem queryOf_append {path : List Char} (hfragment : '#' ∉ path) (value : String) :
    (∀ query, path.dropWhile (· ≠ '?') = '?' :: query → queryOf path = query ∧
        queryOf (path ++ '&' :: nextSegment value) = query ++ '&' :: nextSegment value) ∧
    ('?' ∉ path → queryOf (path ++ '?' :: nextSegment value) = nextSegment value) := by
  have hseg : ∀ c ∈ nextSegment value, decide (c ≠ '#') = true := by
    have hnone : ∀ c ∈ '=' :: '%' :: Percent.kept, decide (c ≠ '#') = true :=
      List.all_iff_forall_prop.mp (by decide)
    exact fun c hc => hnone c (mem_nextSegment hc)
  have hpath : ∀ c ∈ path, decide (c ≠ '#') = true := by
    intro c hc
    simpa using fun h : c = '#' => hfragment (h ▸ hc)
  have hwhole : ∀ separator, separator ≠ '#' →
      (path ++ separator :: nextSegment value).takeWhile (· ≠ '#') =
        path ++ separator :: nextSegment value := by simp_all
  constructor
  · intro query hquery
    have hown : path.takeWhile (· ≠ '#') = path := List.takeWhile_eq_self_iff.mpr hpath
    have hdrop : (path ++ '&' :: nextSegment value).dropWhile (· ≠ '?') =
        '?' :: query ++ '&' :: nextSegment value := by
      rw [List.dropWhile_append, hquery]
      rfl
    constructor
    · unfold queryOf
      rw [hown, hquery]
      rfl
    · grind [queryOf]
  intro hnone
  have hskip : ∀ c ∈ path, decide (c ≠ '?') = true := by
    intro c hc
    simpa using fun h : c = '?' => hnone (h ▸ hc)
  unfold queryOf
  rw [hwhole '?' (by decide), List.dropWhile_append_of_pos hskip]
  rfl

theorem readPair_nextSegment (value : String) :
    Percent.readPair replaced (nextSegment value) = ("next".toList, value.toList) := by
  have hname : Percent.encode "next".toList = "next".toList := by decide
  have hread : Percent.readComponent replaced "next".toList = "next".toList := by
    conv_lhs => rw [← hname]
    exact Percent.readComponent_encode replaced _
  have hseg : nextSegment value = "next".toList ++ '=' :: Percent.encode value.toList := rfl
  rw [hseg, Percent.readPair_encode replaced (by decide), hread]

/-- The parameters of the link: those of the path, and the new one. -/
theorem paramsOf_withNextPath {path value : String} (hval : accepts value = true)
    (hslash : path.toList.head? = some '/') (hfragment : '#' ∉ path.toList) :
    ∃ others, (others = ownParams replaced path ∨ others = []) ∧
      paramsOf replaced (withNextPath path value) = others ++ [("next".toList, value.toList)] := by
  have hseparated : '&' ∉ nextSegment value := by
    have hnone : ∀ c ∈ '=' :: '%' :: Percent.kept, c ≠ '&' :=
      List.all_iff_forall_prop.mp (by decide)
    exact fun h => hnone '&' (mem_nextSegment h) rfl
  have hne : nextSegment value ≠ [] := by simp [nextSegment]
  have hclean : '#' ∉ withoutTabs path.toList := fun h => hfragment (List.mem_of_mem_filter h)
  obtain ⟨hown, hnew⟩ := queryOf_append hclean value
  unfold paramsOf withNextPath ownParams
  rw [if_pos hval]
  by_cases hquestion : '?' ∈ path.toList
  · have htext : (path ++ "&" ++ "next=" ++ ofList (Percent.encode value.toList)).toList =
        path.toList ++ '&' :: nextSegment value := by
      simp [nextSegment]
    have hmem : '?' ∈ withoutTabs path.toList := List.mem_filter.mpr ⟨hquestion, by decide⟩
    obtain ⟨query, hquery⟩ : ∃ query,
        (withoutTabs path.toList).dropWhile (· ≠ '?') = '?' :: query := by
      obtain ⟨front, query, hsplit, hfront⟩ := List.eq_append_cons_of_mem hmem
      have hskip : ∀ c ∈ front, decide (c ≠ '?') = true := by grind
      exact ⟨query, by rw [hsplit, List.dropWhile_append_of_pos hskip]; rfl⟩
    obtain ⟨hpath, hwhole⟩ := hown query hquery
    refine ⟨_, .inl rfl, ?_⟩
    simp only [if_pos hquestion, htext]
    rw [cleaned_append _ _ _ hslash (by decide), hwhole, hpath,
      Percent.searchParams_append replaced query hseparated hne, readPair_nextSegment]
  · have htext : (path ++ "?" ++ "next=" ++ ofList (Percent.encode value.toList)).toList =
        path.toList ++ '?' :: nextSegment value := by
      simp [nextSegment]
    have hnone : '?' ∉ withoutTabs path.toList := fun h => hquestion (List.mem_of_mem_filter h)
    refine ⟨[], .inr rfl, ?_⟩
    simp only [if_neg hquestion, htext]
    rw [cleaned_append _ _ _ hslash (by decide), hnew hnone,
      Percent.searchParams_single replaced hseparated hne, readPair_nextSegment]
    rfl

/-- A path that is accepted is read back from the link that carries it. -/
theorem resolveNextPath_withNextPath {path value : String} (hval : accepts value = true)
    (hslash : path.toList.head? = some '/') (hfragment : '#' ∉ path.toList)
    (hown : ∀ param ∈ ownParams replaced path, param.1 ≠ "next".toList) (fallback : String) :
    resolveNextPath (paramOf (paramsOf replaced (withNextPath path value)) "next") fallback =
      value := by
  obtain ⟨others, hothers, hparams⟩ := paramsOf_withNextPath replaced hval hslash hfragment
  have hnone : others.filter (fun param => param.1 = "next".toList) = [] := by
    rcases hothers with rfl | rfl
    · refine List.filter_eq_nil_iff.mpr fun param hparam => ?_
      simpa using hown param hparam
    · rfl
  have hparam : paramOf (paramsOf replaced (withNextPath path value)) "next" =
      some (.text value) := by
    unfold paramOf
    rw [hparams, List.filter_append, hnone]
    simp
  rw [hparam]
  exact if_pos hval

end RoundTrip

/-! ## The two together -/

/-- A link that carries an accepted path gives it back; the path stays on every site if and only
if no second slash comes to its front in the parser. -/
theorem next_path_stays_iff (parser : UrlParser) (replaced : List UInt8 → List Char)
    (rawValue : Option SearchParam) {fallback : String} (hfallback : inApp fallback = true) :
    ((∀ site, resolve parser (resolveNextPath rawValue fallback) site = some site) ∧
      ∀ value, readSearchParam rawValue = some value → accepts value = true →
        ∀ path, inApp path = true → '#' ∉ path.toList →
          (∀ param ∈ ownParams replaced path, param.1 ≠ "next".toList) →
            resolveNextPath (paramOf (paramsOf replaced (withNextPath path value)) "next")
              fallback = value) ↔
    ∀ value, readSearchParam rawValue = some value → accepts value = true → inApp value = true := by
  constructor
  · rintro ⟨hstays, -⟩ value hvalue haccepts
    rcases resolveNextPath_cases rawValue fallback with ⟨other, hother, -, hresult⟩ | ⟨hnone, -⟩
    · cases hvalue.symm.trans hother
      rw [hresult] at hstays
      have hslash : jsStartsWith value "/" = true := by simp_all [accepts]
      exact inApp_of_stays parser hslash hstays
    · rw [hnone value hvalue] at haccepts
      cases haccepts
  intro hinApp
  constructor
  · intro site
    rcases resolveNextPath_cases rawValue fallback with
      ⟨value, hvalue, haccepts, hresult⟩ | ⟨-, hresult⟩
    · rw [hresult]
      exact resolve_inApp parser (hinApp value hvalue haccepts) site
    · grind [resolve_inApp]
  intro value _ haccepts path hpath hfragment hown
  have hslash : path.toList.head? = some '/' := by grind [inApp]
  exact resolveNextPath_withNextPath replaced haccepts hslash hfragment hown fallback

/-- A parser that takes an authority for a host name. -/
def hostParser : UrlParser where
  authority _ text := some (ofList text, none)
  other _ _ := none

theorem next_path_stays_iff_app :
    (∀ site, resolve hostParser (resolveNextPath (some (.text "/app?tab=1")) "/app") site =
      some site) ∧
    ∀ value, readSearchParam (some (.text "/app?tab=1")) = some value → accepts value = true →
      ∀ path, inApp path = true → '#' ∉ path.toList →
        (∀ param ∈ ownParams (fun _ => []) path, param.1 ≠ "next".toList) →
          resolveNextPath (paramOf (paramsOf (fun _ => []) (withNextPath path value)) "next")
            "/app" = value :=
  (next_path_stays_iff hostParser (fun _ => []) (some (.text "/app?tab=1"))
    (by decide)).mpr fun _ hvalue _ => by
      cases hvalue
      decide

/-- A backslash passes the filter, and the browser reads a host behind it. -/
theorem backslash_leaves :
    resolve hostParser (resolveNextPath (some (.text "/\\evil.example")) "/app")
      ⟨.https, "quizmind.example", none⟩ ≠ some ⟨.https, "quizmind.example", none⟩ := by
  decide

end QuizMind.NextPath
