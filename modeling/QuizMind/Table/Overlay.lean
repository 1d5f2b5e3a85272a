import Mathlib.Data.List.Nodup
import Mathlib.Order.Lattice

/-! # Overlays

A configuration is put together from layers, each with a rank and a partial map: under every
key the layer of the highest rank among those that set it decides. When the layers are
applied one after the other, in the order of their ranks, the last one that sets the key is
that layer (`lastValue_eq_some_iff`). Leaving layers out changes nothing exactly when each of
them is hidden by a layer above it or says what the remaining ones say (`top_filter_iff`).

Nothing here names a particular kind of layer.
-/

namespace Overlay

variable {α κ β δ : Type} [LinearOrder δ] (rank : α → δ) (sets : α → κ → Option β)

/-- The value that the last layer of the list that sets the key gives it. -/
def lastValue (layers : List α) (key : κ) : Option β :=
  layers.reverse.findSome? fun layer => sets layer key

@[simp] theorem lastValue_nil (key : κ) : lastValue sets [] key = none := rfl

theorem lastValue_cons (layer : α) (layers : List α) (key : κ) :
    lastValue sets (layer :: layers) key = (lastValue sets layers key).or (sets layer key) := by
  simp [lastValue]

/-- The layer of the highest rank among those that set the key gives it this value. -/
def Top (layers : List α) (key : κ) (value : β) : Prop :=
  ∃ layer ∈ layers, sets layer key = some value ∧
    ∀ other ∈ layers, (sets other key).isSome → rank other ≤ rank layer

/-- No two layers have the same rank. -/
def DistinctRanks (layers : List α) : Prop :=
  ∀ a ∈ layers, ∀ b ∈ layers, rank a = rank b → a = b

variable {rank sets} {layers : List α} {key : κ}

variable {value : β}

theorem Top.unique (hdist : DistinctRanks rank layers) {value' : β}
    (h : Top rank sets layers key value) (h' : Top rank sets layers key value') :
    value = value' := by
  obtain ⟨a, ha, hset, hmax⟩ := h
  obtain ⟨b, hb, hset', hmax'⟩ := h'
  have hle : rank a ≤ rank b := hmax' a ha (by simp [hset])
  have hge : rank b ≤ rank a := hmax b hb (by simp [hset'])
  have hab : a = b := hdist a ha b hb (le_antisymm hle hge)
  rw [hab, hset'] at hset
  exact (Option.some.inj hset).symm

theorem top_congr {sets' : α → κ → Option β}
    (h : ∀ layer ∈ layers, sets layer key = sets' layer key) :
    Top rank sets layers key value ↔ Top rank sets' layers key value := by
  have hone : ∀ {f g : α → κ → Option β}, (∀ layer ∈ layers, f layer key = g layer key) →
      Top rank f layers key value → Top rank g layers key value := by
    rintro f g hfg ⟨top, htop, hset, hmax⟩
    refine ⟨top, htop, (hfg top htop).symm.trans hset, ?_⟩
    intro other hother hsome
    rw [← hfg other hother] at hsome
    exact hmax other hother hsome
  exact ⟨hone h, hone fun layer hlayer => (h layer hlayer).symm⟩

/-- In a list ordered by rank the last layer that sets the key has the highest rank. -/
theorem lastValue_eq_some_iff (hsorted : layers.Pairwise fun a b => rank a < rank b) :
    lastValue sets layers key = some value ↔ Top rank sets layers key value := by
  induction layers generalizing value with
  | nil => simp [Top]
  | cons layer layers ih =>
    obtain ⟨hfirst, hrest⟩ := List.pairwise_cons.mp hsorted
    rw [lastValue_cons]
    cases hlast : lastValue sets layers key with
    | some last =>
      -- a later layer sets the key, so the first one does not count
      obtain ⟨top, htop, hset, hmax⟩ := (ih hrest).mp hlast
      constructor
      · intro hval
        have heq : last = value := by simpa using hval
        subst heq
        refine ⟨top, List.mem_cons_of_mem _ htop, hset, ?_⟩
        intro other hother hother'
        rcases List.mem_cons.mp hother with rfl | hmem
        · exact le_of_lt (hfirst top htop)
        · exact hmax other hmem hother'
      rintro ⟨top', htop', hset', hmax'⟩
      have hle : rank top ≤ rank top' :=
        hmax' top (List.mem_cons_of_mem _ htop) (by simp [hset])
      rcases List.mem_cons.mp htop' with rfl | hmem
      · exact absurd (hfirst top htop) (not_lt.mpr hle)
      have hval : lastValue sets layers key = some value :=
        (ih hrest).mpr ⟨top', hmem, hset', fun other hother =>
          hmax' other (List.mem_cons_of_mem _ hother)⟩
      rw [← hlast, hval]
      rfl
    | none =>
      have hno : ∀ other ∈ layers, sets other key = none := by
        simpa [lastValue] using hlast
      constructor
      · intro hval
        refine ⟨layer, List.mem_cons_self, by simpa using hval, ?_⟩
        intro other hother hother'
        rcases List.mem_cons.mp hother with rfl | hmem
        · exact le_rfl
        · simp [hno other hmem] at hother'
      rintro ⟨top, htop, hset, _⟩
      rcases List.mem_cons.mp htop with rfl | hmem
      · simpa using hset
      · simp [hno top hmem] at hset

/-- Of the layers that set the key one has the highest rank. -/
theorem exists_top {layer : α} (hlayer : layer ∈ layers) (hset : (sets layer key).isSome) :
    ∃ top ∈ layers, (sets top key).isSome ∧
      ∀ other ∈ layers, (sets other key).isSome → rank other ≤ rank top := by
  induction layers generalizing layer with
  | nil => cases hlayer
  | cons first layers ih =>
    by_cases hlater : ∃ later ∈ layers, (sets later key).isSome
    · grind
    -- only the first layer sets the key
    have honly : ∀ other ∈ first :: layers, (sets other key).isSome → other = first := by grind
    have heq : layer = first := honly layer hlayer hset
    refine ⟨first, List.mem_cons_self, heq ▸ hset, ?_⟩
    intro other hother hother'
    rw [honly other hother hother']

/-- Two lists with the same layers, up to how they are represented, have the same tops. -/
theorem Top.transfer {γ : Type} {rank' : γ → δ} {sets' : γ → κ → Option β} {layers' : List γ}
    (hto : ∀ a ∈ layers, ∀ value, sets a key = some value →
      ∃ b ∈ layers', sets' b key = some value ∧ rank' b = rank a)
    (hfrom : ∀ b ∈ layers', ∀ value, sets' b key = some value →
      ∃ a ∈ layers, sets a key = some value ∧ rank a = rank' b)
    (h : Top rank sets layers key value) : Top rank' sets' layers' key value := by
  obtain ⟨top, htop, hset, hmax⟩ := h
  obtain ⟨top', htop', hset', hrank⟩ := hto top htop value hset
  refine ⟨top', htop', hset', ?_⟩
  intro other' hother' hsome
  obtain ⟨value', hvalue'⟩ := Option.isSome_iff_exists.mp hsome
  obtain ⟨other, hother, hotherset, hotherrank⟩ := hfrom other' hother' value' hvalue'
  rw [hrank, ← hotherrank]
  exact hmax other hother (by simp [hotherset])

/-- Leaving out this layer does not show under the key, where it sets this value: a layer of
a higher rank sets the key, or the remaining layers give it the same value. -/
def Hidden (rank : α → δ) (sets : α → κ → Option β) (layers : List α) (keep : α → Bool)
    (layer : α) (key : κ) (value : β) : Prop :=
  (∃ higher ∈ layers, rank layer < rank higher ∧ (sets higher key).isSome) ∨
    Top rank sets (layers.filter keep) key value

/-- Leaving out layers does not change what the overlay gives the key exactly when each of
the layers left out is hidden there. -/
theorem top_filter_iff (hdist : DistinctRanks rank layers) (keep : α → Bool) :
    (∀ value, Top rank sets (layers.filter keep) key value ↔ Top rank sets layers key value) ↔
      ∀ layer ∈ layers, keep layer = false → ∀ value, sets layer key = some value →
        Hidden rank sets layers keep layer key value := by
  constructor
  · intro hsame layer hlayer _ value hset
    by_cases hhigher : ∃ higher ∈ layers, rank layer < rank higher ∧ (sets higher key).isSome
    · exact Or.inl hhigher
    right
    rw [hsame value]
    refine ⟨layer, hlayer, hset, ?_⟩
    intro other hother hother'
    by_contra hle
    exact hhigher ⟨other, hother, not_le.mp hle, hother'⟩
  intro hhidden
  -- the layer on top of all is kept, or what is kept gives the same value
  have hkept : ∀ value, Top rank sets layers key value →
      Top rank sets (layers.filter keep) key value := by
    rintro value ⟨top, htop, hset, hmax⟩
    cases hkeep : keep top with
    | true =>
      exact ⟨top, List.mem_filter.mpr ⟨htop, hkeep⟩, hset, fun other hother =>
        hmax other (List.mem_filter.mp hother).1⟩
    | false =>
      rcases hhidden top htop hkeep value hset with ⟨higher, hhigher, hlt, hsome⟩ | hsame
      · exact absurd hlt (not_lt.mpr (hmax higher hhigher hsome))
      · exact hsame
  have hdist' : DistinctRanks rank (layers.filter keep) := by
    intro a ha b hb
    exact hdist a (List.mem_filter.mp ha).1 b (List.mem_filter.mp hb).1
  intro value
  refine ⟨?_, hkept value⟩
  intro htop
  have ⟨layer, hlayer, hset, _⟩ := htop
  obtain ⟨top, hmem, hsome, hmax⟩ : ∃ top ∈ layers, (sets top key).isSome ∧
      ∀ other ∈ layers, (sets other key).isSome → rank other ≤ rank top :=
    exists_top (List.mem_filter.mp hlayer).1 (Option.isSome_of_eq_some hset)
  obtain ⟨value', hval'⟩ := Option.isSome_iff_exists.mp hsome
  have htop' : Top rank sets layers key value' := ⟨top, hmem, hval', hmax⟩
  have hval : value = value' := Top.unique hdist' htop (hkept value' htop')
  rwa [hval]

end Overlay
