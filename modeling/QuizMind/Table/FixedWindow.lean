import Mathlib.Data.Int.Notation
import Mathlib.Data.Nat.Notation
import Mathlib.Logic.Function.Basic
import Mathlib.Tactic.Common

/-! # Counting in fixed windows

The first call of a key opens a window of its length; the calls of the key are counted until
the window has ended, and the next one opens another window. In one window not more calls are
allowed than the largest limit that one of them has (`allowed_le`).

A store may keep more than the windows, or drop ended ones: it `Tracks` them while it agrees on
those that have not ended.
-/

namespace FixedWindow

structure Window where
  count : ℕ
  ends : ℤ

/-- A call that asks to be counted. -/
structure Call (κ : Type) where
  key : κ
  limit : ℕ
  length : ℕ
  now : ℤ
  limit_pos : 1 ≤ limit
  length_pos : 1 ≤ length

variable {κ : Type}

/-- The window, if it has not ended. -/
def live (window : Option Window) (now : ℤ) : Option Window :=
  window.filter fun w => now < w.ends

/-- The window of a call, with the call counted. -/
def counted (window : Option Window) (call : Call κ) : Window :=
  match live window call.now with
  | some w => ⟨w.count + 1, w.ends⟩
  | none => ⟨1, call.now + call.length⟩

abbrev Windows (κ : Type) := κ → Option Window

/-! ## Windows that have ended -/

section Live

variable {window window' : Option Window} {now now' : ℤ}

@[simp] theorem live_none (now : ℤ) : live none now = none := rfl

theorem live_of_lt {w : Window} (h : now < w.ends) : live (some w) now = some w :=
  Option.filter_eq_some_iff.mpr ⟨rfl, decide_eq_true h⟩

theorem live_of_le {w : Window} (h : w.ends ≤ now) : live (some w) now = none := by
  have hended : decide (now < w.ends) = false := decide_eq_false (Int.not_lt.mpr h)
  rw [live, Option.filter_some, hended]
  rfl

theorem live_live (h : now ≤ now') : live (live window now) now' = live window now' := by
  cases window with
  | none => rfl
  | some w =>
    by_cases hlive : now < w.ends
    · rw [live_of_lt hlive]
    · have hended : w.ends ≤ now := Int.not_lt.mp hlive
      rw [live_of_le hended, live_of_le (Int.le_trans hended h), live_none]

/-- Windows that are the same now are the same later. -/
theorem live_mono (h : now ≤ now') (heq : live window now = live window' now) :
    live window now' = live window' now' := by
  rw [← live_live h, heq, live_live h]

theorem counted_congr {call : Call κ} (h : live window call.now = live window' call.now) :
    counted window call = counted window' call := by
  unfold counted
  rw [h]

theorem counted_of_none {call : Call κ} (h : live window call.now = none) :
    counted window call = ⟨1, call.now + call.length⟩ := by
  simp only [counted, h]

theorem counted_of_lt {w : Window} {call : Call κ} (h : call.now < w.ends) :
    counted (some w) call = ⟨w.count + 1, w.ends⟩ := by
  simp only [counted, live_of_lt h]

theorem count_pos (window : Option Window) (call : Call κ) : 1 ≤ (counted window call).count := by
  unfold counted
  split
  · exact Nat.succ_le_succ (Nat.zero_le _)
  · exact Nat.le_refl 1

end Live

/-! ## Stores that keep the windows -/

/-- The store has the windows that have not ended. -/
def Tracks (lookup : κ → Option Window) (windows : Windows κ) (now : ℤ) : Prop :=
  ∀ key, live (lookup key) now = live (windows key) now

theorem Tracks.mono {lookup : κ → Option Window} {windows : Windows κ} {now now' : ℤ}
    (h : Tracks lookup windows now) (hle : now ≤ now') : Tracks lookup windows now' :=
  fun key => live_mono hle (h key)

/-! ## Counting -/

variable [DecidableEq κ]

def next (windows : Windows κ) (call : Call κ) : Windows κ :=
  Function.update windows call.key (some (counted (windows call.key) call))

/-- The windows in which the calls are counted, one by one. -/
def run (windows : Windows κ) : List (Call κ) → List Window
  | [] => []
  | call :: calls => counted (windows call.key) call :: run (next windows call) calls

/-- The windows after some calls. -/
def after (windows : Windows κ) (calls : List (Call κ)) : Windows κ := calls.foldl next windows

/-- A store that counts the call and changes no other window keeps track. -/
theorem Tracks.next {lookup lookup' : κ → Option Window} {windows : Windows κ} {call : Call κ}
    (h : Tracks lookup windows call.now)
    (hcall : lookup' call.key = some (counted (lookup call.key) call))
    (hother : ∀ key, key ≠ call.key → live (lookup' key) call.now = live (lookup key) call.now) :
    Tracks lookup' (next windows call) call.now := by
  intro key
  by_cases hkey : key = call.key
  · subst hkey
    rw [hcall, FixedWindow.next, Function.update_self, counted_congr (h call.key)]
  · rw [hother key hkey, h key, FixedWindow.next, Function.update_of_ne hkey]

/-! ## How many are allowed -/

section Allowed

variable (key : κ) (ends : ℤ)

/-- The call is of the key, before the end. -/
def inside (call : Call κ) : Bool := call.key = key && call.now < ends

/-- The calls before the end that are allowed in their windows. -/
def allowedInside (windows : Windows κ) (calls : List (Call κ)) : List (Call κ × Window) :=
  (calls.zip (run windows calls)).filter fun entry =>
    inside key ends entry.1 && entry.2.count ≤ entry.1.limit

variable {key ends} {windows : Windows κ} {calls : List (Call κ)}

theorem allowedInside_cons (call : Call κ) : allowedInside key ends windows (call :: calls) =
      (if inside key ends call && (counted (windows call.key) call).count ≤ call.limit then
        [(call, counted (windows call.key) call)] else []) ++
      allowedInside key ends (next windows call) calls := by
  grind [run, allowedInside, List.zip_cons_cons]

/-- After the end nothing is inside. -/
theorem allowedInside_after (h : ∀ call ∈ calls, ends ≤ call.now) :
    allowedInside key ends windows calls = [] := by
  rw [allowedInside, List.filter_eq_nil_iff]
  rintro ⟨call, window⟩ hmem
  have hnow := h call (List.of_mem_zip hmem).1
  have hout : inside key ends call = false := by grind [inside]
  simp [hout]

/-- What is left of the limit bounds what is still allowed in a window. -/
theorem allowedInside_le {limit count : ℕ} (hwindow : windows key = some ⟨count, ends⟩)
    (htimes : (calls.map Call.now).Pairwise (· ≤ ·))
    (hlimit : ∀ call ∈ calls, inside key ends call → call.limit ≤ limit) :
    (allowedInside key ends windows calls).length ≤ limit - count := by
  induction calls generalizing windows count with
  | nil => exact Nat.zero_le _
  | cons call calls ih =>
    rw [List.map_cons, List.pairwise_cons] at htimes
    obtain ⟨hfirst, htimes⟩ := htimes
    have hrest : ∀ c ∈ calls, inside key ends c → c.limit ≤ limit :=
      fun c hc => hlimit c (List.mem_cons_of_mem _ hc)
    rw [allowedInside_cons]
    by_cases hkey : call.key = key
    · by_cases hbefore : call.now < ends
      · -- one more call is counted in the window
        have hcounted : counted (windows call.key) call = ⟨count + 1, ends⟩ := by
          rw [hkey, hwindow, counted_of_lt hbefore]
        have hnext : next windows call key = some ⟨count + 1, ends⟩ := by
          rw [next, hcounted, hkey, Function.update_self]
        by_cases hallowed : count + 1 ≤ call.limit
        all_goals grind
      · -- the window has ended, and all later calls are behind its end
        have hout : inside key ends call = false := by simp [inside, hbefore]
        have hlater : ∀ c ∈ calls, ends ≤ c.now := by grind [List.mem_map_of_mem]
        rw [hout, allowedInside_after hlater]
        simp
    · have hout : inside key ends call = false := by simp [inside, hkey]
      have hnext : next windows call key = some ⟨count, ends⟩ := by
        rw [next, Function.update_of_ne (Ne.symm hkey), hwindow]
      have hle := ih hnext htimes hrest
      rw [hout]
      simpa using hle

/-- From the call that opens a window to the end of the window, not more calls of the key are
allowed than the limit that they have. -/
theorem allowed_le {opener : Call κ} {limit : ℕ}
    (hopens : live (windows opener.key) opener.now = none)
    (htimes : ((opener :: calls).map Call.now).Pairwise (· ≤ ·))
    (hlimit : ∀ call ∈ opener :: calls,
      inside opener.key (opener.now + opener.length) call → call.limit ≤ limit) :
    (allowedInside opener.key (opener.now + opener.length) windows (opener :: calls)).length ≤
      limit := by
  have hcounted := counted_of_none hopens
  have hnext : next windows opener opener.key = some ⟨1, opener.now + opener.length⟩ := by
    rw [next, hcounted, Function.update_self]
  have hpos := opener.length_pos
  have hlimit_pos := opener.limit_pos
  have hinside : inside opener.key (opener.now + opener.length) opener = true := by grind [inside]
  have hbound := hlimit opener List.mem_cons_self hinside
  rw [List.map_cons, List.pairwise_cons] at htimes
  have hle := allowedInside_le hnext htimes.2
    fun call hcall => hlimit call (List.mem_cons_of_mem _ hcall)
  rw [allowedInside_cons, List.length_append, hcounted, hinside,
    if_pos (by simpa using hlimit_pos), List.length_singleton]
  omega

end Allowed

end FixedWindow
