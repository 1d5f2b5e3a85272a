import QuizMind.Text.Joined

/-! # Tables of separated fields

A table is a text: the fields of a record are separated by commas, and a record ends at a line
feed, at a carriage return, or at both. A field in quotes may hold each of these, and quotes as
two. Here is a reader of such tables, and a writer that quotes the fields with one of some special
characters. If a quote, a comma and a line feed are special, what was written is read back exactly
when each field with a carriage return also has a special character (`parse_encode_iff`).
-/

namespace Csv

open List (append_assoc map_cons not_mem_nil prefix_append prefix_rfl)
open Option (bind_some)

/-- The characters that mean something in a table. -/
structure Marks (α : Type) where
  quote : α
  comma : α
  cr : α
  lf : α
  comma_ne_quote : comma ≠ quote
  cr_ne_quote : cr ≠ quote
  lf_ne_quote : lf ≠ quote
  cr_ne_comma : cr ≠ comma
  lf_ne_comma : lf ≠ comma
  lf_ne_cr : lf ≠ cr

variable {α : Type} [DecidableEq α] (marks : Marks α)

/-! ## Reading -/

/-- Where a reader is: before the first field of a record, there right after a carriage return,
before another field, in a field without quotes, in one with quotes, or behind its second quote,
which may be the first one of two. -/
inductive Mode where
  | first | afterCr | later | plain | quoted | closed

structure Reader (α : Type) where
  records : List (List (List α))
  fields : List (List α)
  field : List α
  mode : Mode

namespace Reader

variable (r : Reader α)

def endField : Reader α := { r with fields := r.fields ++ [r.field], field := [], mode := .later }

def endRecord (mode : Mode) : Reader α := ⟨r.records ++ [r.fields ++ [r.field]], [], [], mode⟩

def add (c : α) (mode : Mode) : Reader α := { r with field := r.field ++ [c], mode := mode }

/-- A character that is not between quotes; `other` is for those that end nothing. -/
def outside (c : α) (other : Option (Reader α)) : Option (Reader α) :=
  if c = marks.comma then some r.endField
  else if c = marks.cr then some (r.endRecord .afterCr)
  else if c = marks.lf then some (r.endRecord .first)
  else other

/-- The first character of a field. -/
def begin (c : α) : Option (Reader α) :=
  if c = marks.quote then some { r with mode := .quoted }
  else r.outside marks c (some (r.add c .plain))

/-- One character; `none` where the text is not a table. -/
def step (r : Reader α) (c : α) : Option (Reader α) :=
  match r.mode with
  | .first | .later => r.begin marks c
  | .afterCr => if c = marks.lf then some { r with mode := .first } else r.begin marks c
  | .plain => if c = marks.quote then none else r.outside marks c (some (r.add c .plain))
  | .quoted => some (if c = marks.quote then { r with mode := .closed } else r.add c .quoted)
  | .closed => if c = marks.quote then some (r.add c .quoted) else r.outside marks c none

/-- The records at the end of a text; the last one may be without a line break. -/
def finish : Option (List (List (List α))) :=
  match r.mode with
  | .first | .afterCr => some r.records
  | .later | .plain | .closed => some (r.endRecord .first).records
  | .quoted => none

def run (text : List α) : Option (Reader α) := text.foldlM (step marks) r

end Reader

def parse (text : List α) : Option (List (List (List α))) :=
  ((⟨[], [], [], .first⟩ : Reader α).run marks text).bind Reader.finish

/-! ## Writing -/

variable (special : List α)

def doubled (field : List α) : List α :=
  field.flatMap fun c => if c = marks.quote then [marks.quote, marks.quote] else [c]

/-- A field with a special character is in quotes. -/
def encodeField (field : List α) : List α :=
  if ∃ c ∈ field, c ∈ special then marks.quote :: doubled marks field ++ [marks.quote] else field

def encodeRecord (record : List (List α)) : List α :=
  Text.joined marks.comma (record.map (encodeField marks special))

def encode (records : List (List (List α))) : List α :=
  Text.joined marks.lf (records.map (encodeRecord marks special))

/-! ## Steps of a reader -/

namespace Reader

variable {marks} {r r' : Reader α}

theorem run_nil : r.run marks [] = some r := rfl

theorem run_cons (c : α) (text : List α) :
    r.run marks (c :: text) = (step marks r c).bind fun r => r.run marks text := by
  rfl

theorem run_append (text text' : List α) :
    r.run marks (text ++ text') = (r.run marks text).bind fun r => r.run marks text' := by
  unfold run
  rw [List.foldlM_append]
  rfl

/-- The field may end here. -/
def Ends (r : Reader α) : Prop := r.mode ≠ .quoted ∧ r.mode ≠ .afterCr

/-- At a character that ends something, a reader that is not between quotes ends it. -/
theorem step_eq_outside {c : α} (hends : r.Ends) (hquote : c ≠ marks.quote)
    (hmark : c = marks.comma ∨ c = marks.cr ∨ c = marks.lf) :
    step marks r c = r.outside marks c none := by
  have hother : ∀ other, r.outside marks c other = r.outside marks c none := by
    intro other
    unfold outside
    rcases hmark with hmark | hmark | hmark
    · rw [if_pos hmark, if_pos hmark]
    · grind
    · grind
  obtain ⟨hquoted, hafter⟩ := hends
  unfold step begin
  rcases hmode : r.mode with _ | _ | _ | _ | _ | _
  · rw [if_neg hquote, hother]
  · exact absurd hmode hafter
  · rw [if_neg hquote, hother]
  · dsimp only
    rw [if_neg hquote, hother]
  · exact absurd hmode hquoted
  · dsimp only
    rw [if_neg hquote]

theorem step_comma (hends : r.Ends) : step marks r marks.comma = some r.endField := by
  rw [step_eq_outside hends marks.comma_ne_quote (.inl rfl)]
  exact if_pos rfl

theorem step_cr (hends : r.Ends) : step marks r marks.cr = some (r.endRecord .afterCr) := by
  rw [step_eq_outside hends marks.cr_ne_quote (.inr (.inl rfl))]
  unfold outside
  rw [if_neg marks.cr_ne_comma, if_pos rfl]

theorem step_lf (hends : r.Ends) : step marks r marks.lf = some (r.endRecord .first) := by
  rw [step_eq_outside hends marks.lf_ne_quote (.inr (.inr rfl))]
  unfold outside
  rw [if_neg marks.lf_ne_comma, if_neg marks.lf_ne_cr, if_pos rfl]

/-! ## Records that are there stay -/

theorem records_outside {c : α} {other : Option (Reader α)}
    (hother : ∀ r', other = some r' → r.records <+: r'.records)
    (h : r.outside marks c other = some r') : r.records <+: r'.records := by
  unfold outside at h
  split at h
  · exact Option.some.inj h ▸ prefix_rfl
  split at h
  · rw [← Option.some.inj h]
    exact prefix_append _ _
  split at h
  · rw [← Option.some.inj h]
    exact prefix_append _ _
  · exact hother r' h

theorem records_begin {c : α} (h : r.begin marks c = some r') : r.records <+: r'.records := by
  unfold begin at h
  split at h
  · exact Option.some.inj h ▸ prefix_rfl
  refine records_outside ?_ h
  intro r'' hadd
  exact Option.some.inj hadd ▸ prefix_rfl

theorem records_step {c : α} (h : step marks r c = some r') : r.records <+: r'.records := by
  unfold step at h
  split at h
  · exact records_begin h
  · exact records_begin h
  · grind [records_begin]
  · split at h
    · cases h
    · refine records_outside ?_ h
      intro r'' hadd
      exact Option.some.inj hadd ▸ prefix_rfl
  · rw [← Option.some.inj h]
    split
    all_goals exact prefix_rfl
  · split at h
    · exact Option.some.inj h ▸ prefix_rfl
    · grind [records_outside]

/-- What has been read is in the result. -/
theorem records_finish {text : List α} {records : List (List (List α))}
    (h : (r.run marks text).bind finish = some records) : r.records <+: records := by
  induction text generalizing r with
  | nil =>
    rw [run_nil, bind_some] at h
    unfold finish at h
    split at h
    · exact Option.some.inj h ▸ prefix_rfl
    · exact Option.some.inj h ▸ prefix_rfl
    · rw [← Option.some.inj h]
      exact prefix_append _ _
    · rw [← Option.some.inj h]
      exact prefix_append _ _
    · rw [← Option.some.inj h]
      exact prefix_append _ _
    · cases h
  | cons c text ih =>
    rw [run_cons] at h
    rcases hstep : step marks r c with _ | r'
    · rw [hstep] at h
      cases h
    · rw [hstep] at h
      exact (records_step hstep).trans (ih h)

end Reader

/-! ## What was written is read -/

section Written

variable {marks special}

/-- The marks that split a text without quotes are special, except for the carriage return. -/
structure Covers (marks : Marks α) (special : List α) : Prop where
  quote : marks.quote ∈ special
  comma : marks.comma ∈ special
  lf : marks.lf ∈ special

/-- A field with a carriage return is in quotes. -/
def Clear (marks : Marks α) (special field : List α) : Prop :=
  marks.cr ∈ field → ∃ c ∈ field, c ∈ special

namespace Reader

variable {r : Reader α}

theorem run_doubled (field : List α) (hmode : r.mode = .quoted) :
    r.run marks (doubled marks field) = some { r with field := r.field ++ field } := by
  induction field generalizing r with
  | nil =>
    rw [List.append_nil]
    rfl
  | cons c field ih =>
    have hrest := ih (r := r.add c .quoted) rfl
    have hadded : ({ r.add c .quoted with field := (r.add c .quoted).field ++ field } :
        Reader α) = { r with field := r.field ++ c :: field } := by grind [add]
    rw [hadded] at hrest
    unfold doubled at hrest ⊢
    rw [List.flatMap_cons, run_append]
    by_cases hquote : c = marks.quote
    · -- the first quote seems to close the field, the second one is part of it
      have hfirst : step marks r marks.quote = some { r with mode := .closed } := by
        simp [hmode, step]
      have hsecond : step marks { r with mode := .closed } marks.quote =
          some (r.add marks.quote .quoted) := by
        unfold step
        dsimp only
        rw [if_pos rfl]
        rfl
      subst hquote
      rw [if_pos rfl, run_cons, hfirst, bind_some, run_cons, hsecond]
      exact hrest
    · grind [run_cons, run_nil, step]

variable {field : List α}

theorem run_plain (hquote : marks.quote ∉ field) (hcomma : marks.comma ∉ field)
    (hcr : marks.cr ∉ field) (hlf : marks.lf ∉ field) (hmode : r.mode = .plain) :
    r.run marks field = some { r with field := r.field ++ field } := by
  induction field generalizing r with
  | nil =>
    rw [List.append_nil]
    rfl
  | cons c field ih =>
    rw [List.mem_cons, not_or] at hquote hcomma hcr hlf
    have hstep : step marks r c = some (r.add c .plain) := by grind [step, outside]
    rw [run_cons, hstep, bind_some, ih hquote.2 hcomma.2 hcr.2 hlf.2 rfl]
    unfold add
    rw [append_assoc, hmode]
    rfl

/-- The reader stands before a field. -/
structure Before (r : Reader α) : Prop where
  mode : r.mode = .first ∨ r.mode = .later
  field : r.field = []

/-- What is read of a field that can be read. -/
theorem run_encodeField (hcovers : Covers marks special)
    (hclear : Clear marks special field) (hbefore : r.Before) :
    ∃ mode, r.run marks (encodeField marks special field) =
        some { r with field := field, mode := mode } ∧
      (mode = .plain ∨ mode = .closed ∨ (field = [] ∧ mode = r.mode)) := by
  have hbegin : ∀ c, step marks r c = r.begin marks c := by
    intro c
    unfold step
    rcases hbefore.mode with hmode | hmode
    all_goals rw [hmode]
  unfold encodeField
  by_cases hspecial : ∃ c ∈ field, c ∈ special
  · refine ⟨.closed, ?_, .inr (.inl rfl)⟩
    have hopen : step marks r marks.quote = some { r with mode := .quoted } := by
      rw [hbegin]
      exact if_pos rfl
    have hclose : ∀ r : Reader α, r.mode = .quoted →
        step marks r marks.quote = some { r with mode := .closed } := by grind [step]
    rw [if_pos hspecial, List.cons_append, run_cons, hopen, bind_some, run_append,
      run_doubled field rfl, bind_some, run_cons, hclose _ rfl, bind_some, run_nil]
    rw [hbefore.field, List.nil_append]
  rw [if_neg hspecial]
  have hnot : ∀ c ∈ special, c ∉ field := fun c hc hmem => hspecial ⟨c, hmem, hc⟩
  have hquote := hnot _ hcovers.quote
  have hcomma := hnot _ hcovers.comma
  have hlf := hnot _ hcovers.lf
  have hcr : marks.cr ∉ field := fun hmem => hspecial (hclear hmem)
  cases field with
  | nil =>
    refine ⟨r.mode, ?_, .inr (.inr ⟨rfl, rfl⟩)⟩
    rw [run_nil, ← hbefore.field]
  | cons c field =>
    refine ⟨.plain, ?_, .inl rfl⟩
    rw [List.mem_cons, not_or] at hquote hcomma hcr hlf
    have hstep : step marks r c = some (r.add c .plain) := by grind [begin, outside]
    rw [run_cons, hstep, bind_some, run_plain hquote.2 hcomma.2 hcr.2 hlf.2 rfl]
    unfold add
    rw [hbefore.field]
    rfl

omit [DecidableEq α] in
/-- Behind a field the reader can end it. -/
theorem ends_of_mode {mode : Mode} (hbefore : r.Before)
    (hmode : mode = .plain ∨ mode = .closed ∨ (field = [] ∧ mode = r.mode)) :
    ({ r with field := field, mode := mode } : Reader α).Ends := by
  unfold Ends
  dsimp only
  rcases hmode with rfl | rfl | ⟨-, rfl⟩
  · exact ⟨nofun, nofun⟩
  · exact ⟨nofun, nofun⟩
  · rcases hbefore.mode with hmode | hmode
    all_goals
      rw [hmode]
      exact ⟨nofun, nofun⟩

/-- What is read of a record that can be read: all of its fields but the last one are complete. -/
theorem run_encodeRecord {record : List (List α)} (hcovers : Covers marks special)
    (hclear : ∀ field ∈ record, Clear marks special field) (hne : record ≠ [])
    (hbefore : r.Before) :
    ∃ r', r.run marks (encodeRecord marks special record) = some r' ∧ r'.Ends ∧
      r'.records = r.records ∧ r'.fields ++ [r'.field] = r.fields ++ record ∧
      (r'.mode = .first → record = [[]] ∧ r.mode = .first) := by
  unfold encodeRecord
  induction record generalizing r with
  | nil => exact absurd rfl hne
  | cons field rest ih =>
    obtain ⟨mode, hrun, hmode⟩ := run_encodeField hcovers (hclear field List.mem_cons_self) hbefore
    have hends := ends_of_mode hbefore hmode
    cases rest with
    | nil =>
      refine ⟨_, hrun, hends, rfl, rfl, ?_⟩
      intro hfirst
      rcases hmode with hmode | hmode | ⟨hempty, hsame⟩
      · rw [hmode] at hfirst
        cases hfirst
      · rw [hmode] at hfirst
        cases hfirst
      · grind
    | cons next rest =>
      have hlater : (({ r with field := field, mode := mode } : Reader α).endField).Before :=
        ⟨.inr rfl, rfl⟩
      obtain ⟨r', hrest, hends', hrecs, hfields, hfirst⟩ := ih
        (fun f hf => hclear f (List.mem_cons_of_mem _ hf)) nofun hlater
      refine ⟨r', ?_, hends', hrecs, ?_, ?_⟩
      · grind [Text.joined_cons_cons, run_append, run_cons, step_comma]
      · rw [hfields]
        exact append_assoc _ _ _
      · intro hmode
        cases (hfirst hmode).2

end Reader

namespace Reader

variable {r : Reader α}

/-- A field that cannot be read ends its record early. -/
theorem run_unclear {record : List (List α)} (hcovers : Covers marks special)
    (hunclear : ¬ ∀ field ∈ record, Clear marks special field) (hbefore : r.Before)
    {text : List α} {records : List (List (List α))}
    (h : (r.run marks (encodeRecord marks special record ++ text)).bind finish = some records) :
    ∃ other, other ≠ r.fields ++ record ∧ r.records ++ [other] <+: records := by
  unfold encodeRecord at h
  induction record generalizing r with
  | nil => exact absurd (fun _ hfield => absurd hfield not_mem_nil) hunclear
  | cons field rest ih =>
    by_cases hclear : Clear marks special field
    · obtain ⟨mode, hrun, hmode⟩ := run_encodeField hcovers hclear hbefore
      have hends := ends_of_mode hbefore hmode
      have hrest : ¬ ∀ f ∈ rest, Clear marks special f := by grind
      cases rest with
      | nil => exact absurd (fun _ hfield => absurd hfield not_mem_nil) hrest
      | cons next rest =>
        have hlater : (({ r with field := field, mode := mode } : Reader α).endField).Before :=
          ⟨.inr rfl, rfl⟩
        rw [map_cons, map_cons, Text.joined_cons_cons, append_assoc, run_append,
          hrun, bind_some, List.cons_append, run_cons, step_comma hends] at h
        obtain ⟨other, hne, hrecs⟩ := ih hrest hlater h
        refine ⟨other, ?_, hrecs⟩
        intro hother
        refine hne ?_
        rw [hother]
        exact (append_assoc r.fields [field] _).symm
    · -- the field is written as it is, and ends at its first carriage return
      have hcr : marks.cr ∈ field := by
        by_contra hnone
        exact hclear fun hmem => absurd hmem hnone
      have hplain : ¬ ∃ c ∈ field, c ∈ special := fun hspecial => hclear fun _ => hspecial
      obtain ⟨start, behind, hfield, hstart⟩ := List.eq_append_cons_of_mem hcr
      have hstartPlain : ¬ ∃ c ∈ start, c ∈ special := by grind
      have hencoded : encodeField marks special field = (start ++ [marks.cr]) ++ behind := by
        grind [encodeField]
      have hstartEncoded : encodeField marks special start = start := if_neg hstartPlain
      have hstartClear : Clear marks special start := fun hmem => absurd hmem hstart
      obtain ⟨mode, hrun, hmode⟩ := run_encodeField hcovers hstartClear hbefore
      rw [hstartEncoded] at hrun
      rw [map_cons, hencoded, Text.joined_append_cons, append_assoc,
        append_assoc start, run_append, hrun, bind_some, List.singleton_append,
        run_cons, step_cr (ends_of_mode hbefore hmode)] at h
      refine ⟨r.fields ++ [start], ?_, records_finish h⟩
      intro hsame
      have hlast := List.append_cancel_left hsame
      rw [List.cons.injEq] at hlast
      rw [hlast.1] at hstart
      exact hstart hcr

end Reader

/-! ## Tables -/

/-- A record has a field, and more than an empty one, which could not be told from nothing. -/
def Visible (record : List (List α)) : Prop := record ≠ [] ∧ record ≠ [[]]

/-- The reader stands before a record. -/
def Reader.AtRecord (r : Reader α) : Prop := r.mode = .first ∧ r.fields = [] ∧ r.field = []

namespace Reader

variable {r : Reader α}

theorem finish_encodeRecords {table : List (List (List α))} (hcovers : Covers marks special)
    (hvisible : ∀ record ∈ table, Visible record) (hne : table ≠ []) (hat : r.AtRecord) :
    (r.run marks (encode marks special table)).bind finish = some (r.records ++ table) ↔
      ∀ record ∈ table, ∀ field ∈ record, Clear marks special field := by
  unfold encode
  induction table generalizing r with
  | nil => exact absurd rfl hne
  | cons record rest ih =>
    obtain ⟨hmode, hfields, hfield⟩ := hat
    have hbefore : r.Before := ⟨.inl hmode, hfield⟩
    have hshown := hvisible record List.mem_cons_self
    rw [List.forall_mem_cons]
    by_cases hclear : ∀ field ∈ record, Clear marks special field
    · obtain ⟨r', hrun, hends, hrecs, hrow, hfirst⟩ := run_encodeRecord hcovers hclear
        hshown.1 hbefore
      have hended : (r'.endRecord .first).records = r.records ++ [record] := by grind [endRecord]
      cases rest with
      | nil =>
        refine iff_of_true ?_ ⟨hclear, fun _ h => absurd h not_mem_nil⟩
        have hfinish : r'.finish = some (r'.endRecord .first).records := by
          unfold finish
          obtain ⟨hquoted, hafter⟩ := hends
          rcases hlast : r'.mode with _ | _ | _ | _ | _ | _
          · exact absurd (hfirst hlast).1 hshown.2
          · exact absurd hlast hafter
          · rfl
          · rfl
          · exact absurd hlast hquoted
          · rfl
        show (r.run marks (encodeRecord marks special record)).bind finish = _
        rw [hrun, bind_some, hfinish, hended]
      | cons next rest =>
        have hat' : (r'.endRecord .first).AtRecord := ⟨rfl, rfl, rfl⟩
        have hrest := ih (fun other hother => hvisible other (List.mem_cons_of_mem _ hother))
          nofun hat'
        rw [hended, append_assoc] at hrest
        rw [map_cons, map_cons, Text.joined_cons_cons, run_append, hrun,
          bind_some, run_cons, step_lf hends]
        constructor
        · intro h
          exact ⟨hclear, hrest.mp h⟩
        · rintro ⟨-, h⟩
          exact hrest.mpr h
    · -- its record comes out as another one
      refine iff_of_false ?_ fun h => hclear h.1
      intro h
      obtain ⟨text, htext⟩ : ∃ text, Text.joined marks.lf
          ((record :: rest).map (encodeRecord marks special)) =
            encodeRecord marks special record ++ text := by
        cases rest with
        | nil => exact ⟨[], (List.append_nil _).symm⟩
        | cons next rest => exact ⟨_, rfl⟩
      rw [htext] at h
      obtain ⟨other, hne, hprefixed⟩ := run_unclear hcovers hclear hbefore h
      rw [List.prefix_append_right_inj, List.cons_prefix_cons] at hprefixed
      rw [hfields] at hne
      exact hne hprefixed.1

end Reader

end Written

/-- What was written is read back exactly when each field with a carriage return is in quotes. -/
theorem parse_encode_iff {table : List (List (List α))} (hcovers : Covers marks special)
    (hvisible : ∀ record ∈ table, Visible record) :
    parse marks (encode marks special table) = some table ↔
      ∀ record ∈ table, ∀ field ∈ record, Clear marks special field := by
  by_cases hne : table = []
  · rw [hne]
    exact iff_of_true rfl fun _ h => absurd h not_mem_nil
  · exact Reader.finish_encodeRecords (r := ⟨[], [], [], .first⟩) hcovers hvisible hne
      ⟨rfl, rfl, rfl⟩

end Csv
