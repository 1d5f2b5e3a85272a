import QuizMind.Table.Keyset

/-! # Sweeping over a table

A table is worked through batch by batch, in the order of a key: each batch has the first rows
behind the last one of the batch before, and working on a batch may change the table. What is kept
from batch to batch is an invariant over the rows that are done; as long as it leaves the rows
behind them as they were, the sweep ends with all rows done (`sweep_spec`).
-/

namespace Table

section

variable {α δ σ : Type*} [LinearOrder δ] (r : α → α → Prop) [DecidableRel r] (rank : α → δ)
  (n : ℕ) (rows : σ → List α) (step : List α → σ → σ)

/-- The rows behind a cursor; from no cursor on, all of them. -/
def behind (cursor : Option δ) (x : α) : Bool := cursor.all fun k => k < rank x

/-- The state after the last batch; `none` if the fuel runs out. -/
def sweep : ℕ → Option δ → σ → Option σ
  | 0, _, _ => none
  | fuel + 1, cursor, s =>
    let batch := select r (behind rank cursor) n (rows s)
    match batch.getLast? with
    | none => some s
    | some last => sweep fuel (some (rank last)) (step batch s)

end

section

variable {α δ σ : Type*} [LinearOrder δ] {r : α → α → Prop} [DecidableRel r] {rank : α → δ}
  {n : ℕ} {rows : σ → List α} {step : List α → σ → σ} {table : List α}

/-- The first rows behind those that are done are the next ones in their order. -/
theorem select_behind (hr : ∀ a b, r a b ↔ rank a ≤ rank b)
    (hdist : table.Pairwise fun a b => rank a ≠ rank b) {done rest : List α}
    (hsplit : table.insertionSort r = done ++ rest) :
    select r (behind rank (done.getLast?.map rank)) n table = rest.take n := by
  have hall : table.filter (fun _ => true) = table := List.filter_eq_self.mpr fun _ _ => rfl
  rcases hlast : done.getLast? with _ | k
  · have hnil : done = [] := List.getLast?_eq_none_iff.mp hlast
    have hfilt : table.filter (behind rank none) = table := hall
    unfold select
    rw [Option.map_none, hfilt, hsplit, hnil, List.nil_append]
  have hafter := select_after (p := fun _ => true) (q := behind rank (some (rank k))) hr hdist
    (by rw [hall]; exact hsplit) hlast (fun x => by simp [behind]) n
  exact hafter

/-- The rule of sweeps: what is kept by working on the next rows holds when all rows are done. A
batch that is not full is the last one. -/
theorem sweep_spec (hr : ∀ a b, r a b ↔ rank a ≤ rank b) (hn : 0 < n)
    (hdist : table.Pairwise fun a b => rank a ≠ rank b) {Inv : List α → σ → Prop} {start : σ}
    (hstart : Inv [] start)
    (hrows : ∀ done rest s, table.insertionSort r = done ++ rest → Inv done s →
      (rows s).filter (behind rank (done.getLast?.map rank)) =
        table.filter (behind rank (done.getLast?.map rank)))
    (hstep : ∀ done batch rest s, table.insertionSort r = done ++ (batch ++ rest) →
      n ∣ done.length → batch ≠ [] → (batch.length = n ∨ batch.length < n ∧ rest = []) →
      Inv done s → Inv (done ++ batch) (step batch s))
    {fuel : ℕ} (hfuel : table.length < fuel) :
    ∃ s, sweep r rank n rows step fuel none start = some s ∧ Inv (table.insertionSort r) s := by
  have hrun : ∀ (fuel : ℕ) (done rest : List α) (s : σ), table.insertionSort r = done ++ rest →
      n ∣ done.length ∨ rest = [] → Inv done s → rest.length < fuel →
      ∃ s', sweep r rank n rows step fuel (done.getLast?.map rank) s = some s' ∧
        Inv (table.insertionSort r) s' := by
    intro fuel
    induction fuel with
    | zero =>
      intro done rest s _ _ _ hfuel
      exact absurd hfuel (Nat.not_lt_zero _)
    | succ fuel ih =>
      intro done rest s hsplit hfull hinv hfuel
      have hbatch : select r (behind rank (done.getLast?.map rank)) n (rows s) = rest.take n := by
        rw [select_congr (fun _ h => h) (hrows done rest s hsplit hinv)]
        exact select_behind hr hdist hsplit
      unfold sweep
      dsimp only
      rw [hbatch]
      rcases hlast : (rest.take n).getLast? with _ | last
      · -- nothing is left
        have hnone : rest.take n = [] := List.getLast?_eq_none_iff.mp hlast
        have hrest : rest = [] := by
          rcases List.take_eq_nil_iff.mp hnone with hzero | hnil
          · omega
          · exact hnil
        rw [hrest, List.append_nil] at hsplit
        rw [hsplit]
        exact ⟨s, rfl, hinv⟩
      have hne : rest.take n ≠ [] := by
        intro hnil
        rw [hnil] at hlast
        exact absurd hlast nofun
      have hrest : rest ≠ [] := fun hnil => hne (by rw [hnil, List.take_nil])
      have hpos : 0 < rest.length := List.length_pos_iff.mpr hrest
      have hdvd : n ∣ done.length := hfull.resolve_right hrest
      have hsize : (rest.take n).length = n ∨ (rest.take n).length < n ∧ rest.drop n = [] := by
        rw [List.length_take, List.drop_eq_nil_iff]
        omega
      have hparts : table.insertionSort r = done ++ (rest.take n ++ rest.drop n) := by
        rw [List.take_append_drop]
        exact hsplit
      have hnext := hstep done (rest.take n) (rest.drop n) s hparts hdvd hne hsize hinv
      have hcursor : ((done ++ rest.take n).getLast?).map rank = some (rank last) := by
        rw [List.getLast?_append, hlast]
        rfl
      have hwhole : n ∣ (done ++ rest.take n).length ∨ rest.drop n = [] := by
        rcases hsize with hlen | ⟨-, hnil⟩
        · left
          rw [List.length_append, hlen]
          exact (Nat.dvd_add_self_right).mpr hdvd
        · exact Or.inr hnil
      have hless : (rest.drop n).length < fuel := by
        rw [List.length_drop]
        omega
      have hrun := ih (done ++ rest.take n) (rest.drop n) (step (rest.take n) s)
        (by rw [List.append_assoc]; exact hparts) hwhole hnext hless
      rw [hcursor] at hrun
      exact hrun
  have hlen := List.length_insertionSort r table
  exact hrun fuel [] (table.insertionSort r) start rfl (Or.inl (Nat.dvd_zero n)) hstart (by omega)

end

end Table
