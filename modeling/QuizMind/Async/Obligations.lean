import QuizMind.Async.Machine

/-! # What a running request will have done at its end

`Prog.Ends` is a rely–guarantee triple without failing calls: from the current
store, whatever the other requests do within `R`, the program keeps `I` and `R`
and, should it come to its end, ends in the postcondition. A call may be
restricted to the stores in which `g` allows it (`Machine.callsMeet`).

`Machine.Will` says that a property of the store holds already or that some
running request will establish it. It survives every step (`will_step`), and in
a state in which nothing runs any more it says that the property holds
(`Will.of_quiescent`).
-/

namespace Async

variable {Op : Type} {Res : Op → Type} {ε α β σ Req : Type}

namespace Prog

section Ends

variable (exec : (op : Op) → σ → Except ε (Res op) × σ) (I : σ → Prop) (R : σ → σ → Prop)
  (g : Op → σ → Bool)

/-- The program keeps `I` and `R`, and at its end `Q` holds. -/
def Ends (Q : Except ε α → σ → Prop) : Prog Op Res ε α → σ → Prop
  | .ret a, s => Q (.ok a) s
  | .throw e, s => Q (.error e) s
  | .call op k, s => ∀ s', R s s' → I s' → g op s' →
      I (exec op s').2 ∧ R s' (exec op s').2 ∧ (k (exec op s').1).Ends Q (exec op s').2

end Ends

section Rules

variable {exec : (op : Op) → σ → Except ε (Res op) × σ} {I : σ → Prop} {R : σ → σ → Prop}
  {g : Op → σ → Bool}

variable {p : Prog Op Res ε α} {Q : Except ε α → σ → Prop}

variable {s : σ}

/-- What the others do changes nothing, when the postcondition is stable. -/
theorem Ends.stable (htrans : ∀ a b c, R a b → R b c → R a c)
    (hQ : ∀ r a b, R a b → Q r a → Q r b) {s' : σ} (h : p.Ends exec I R g Q s) (hs : R s s') :
    p.Ends exec I R g Q s' := by
  cases p with
  | ret a | throw e => exact hQ _ s s' hs h
  | call op k =>
    intro t hst
    exact h t (htrans s s' t hs hst)

theorem Ends.mono {Q' : Except ε α → σ → Prop} (hQ : ∀ r s, Q r s → Q' r s)
    (h : p.Ends exec I R g Q s) : p.Ends exec I R g Q' s := by
  induction p generalizing s with
  | ret a | throw e => exact hQ _ s h
  | call op k ih =>
    intro s' hs' hI hg
    obtain ⟨hI', hR', hk⟩ := h s' hs' hI hg
    exact ⟨hI', hR', ih _ hk⟩

/-- One call followed by the rest. -/
theorem ends_await_bind {Q : Except ε β → σ → Prop} {op : Op} {f : Res op → Prog Op Res ε β}
    (h : ∀ s', R s s' → I s' → g op s' →
      I (exec op s').2 ∧ R s' (exec op s').2 ∧
        (∀ a, (exec op s').1 = .ok a → (f a).Ends exec I R g Q (exec op s').2) ∧
        ∀ e, (exec op s').1 = .error e → Q (.error e) (exec op s').2) :
    (await op >>= f).Ends exec I R g Q s := by
  intro s' hs' hI hg
  obtain ⟨hI', hR', hok, herr⟩ := h s' hs' hI hg
  refine ⟨hI', hR', ?_⟩
  cases hr : (exec op s').1 with
  | ok a => exact hok a hr
  | error e => exact herr e hr

variable {P : Except ε α → σ → Prop}

/-- Sequencing. -/
theorem ends_bind {Q : Except ε β → σ → Prop} {f : α → Prog Op Res ε β} (hp : p.Ends exec I R g P s)
    (hf : ∀ a s', P (.ok a) s' → (f a).Ends exec I R g Q s')
    (herr : ∀ e s', P (.error e) s' → Q (.error e) s') : (p >>= f).Ends exec I R g Q s := by
  induction p generalizing s with
  | ret a => exact hf a s hp
  | throw e => exact herr e s hp
  | call op k ih =>
    intro s' hs' hI hg
    obtain ⟨hI', hR', hk⟩ := hp s' hs' hI hg
    exact ⟨hI', hR', ih _ hk⟩

/-- What holds from now on holds at the end. -/
theorem Ends.stays (hrefl : ∀ s, R s s)
    (htrans : ∀ a b c, R a b → R b c → R a c) (h : p.Ends exec I R g P s)
    (hQ : ∀ r t, R s t → Q r t) : p.Ends exec I R g Q s := by
  induction p generalizing s with
  | ret a | throw e => exact hQ _ s (hrefl s)
  | call op k ih =>
    intro s' hs' hI hg
    obtain ⟨hI', hR', hk⟩ := h s' hs' hI hg
    -- `hQ` is about the stores from here on; those after the call are among them
    refine ⟨hI', hR', ih _ hk ?_⟩
    intro r t ht
    exact hQ r t (htrans _ _ _ hs' (htrans _ _ _ hR' ht))

/-- A valid program keeps to `I` and `R` until it ends. -/
theorem Valid.ends (h : p.Valid exec I R s) : p.Ends exec I R g (fun _ _ => True) s := by
  induction p generalizing s with
  | ret a | throw e => trivial
  | call op k ih =>
    intro s' hs' hI _
    obtain ⟨⟨hI', hR', hk⟩, -⟩ := h s' hs' hI
    exact ⟨hI', hR', ih _ hk⟩

end Rules

end Prog

/-- Nothing runs any more. -/
def Snapshot.quiescent (s : Snapshot Op Res ε α σ Req) : Bool :=
  s.procs.all fun q => match q.2 with
    | .call _ _ => false
    | _ => true

namespace Machine

variable (M : Machine Op Res ε α σ Req)

/-- The side condition of a run in which no call fails and every call is made
in a store in which `g` allows it. -/
def callsMeet (g : Op → σ → Bool) : Snapshot Op Res ε α σ Req → Label ε Req → Bool
  | _, .start _ => true
  | s, .step pid =>
    match s.procs[pid]? with
    | some (_, .call op _) => g op s.store
    | _ => true
  | _, .fail _ _ => false

/-- Every running request keeps to `I` and `R` and ends in its postcondition. -/
def AllEnds (I : σ → Prop) (R : σ → σ → Prop) (g : Op → σ → Bool)
    (post : Req → Except ε α → σ → Prop) (s : Snapshot Op Res ε α σ Req) : Prop :=
  I s.store ∧ ∀ q ∈ s.procs, q.2.Ends M.exec I R g (post q.1) s.store

/-- `P` holds, or some running request will make it hold. -/
def Will (I : σ → Prop) (R : σ → σ → Prop) (g : Op → σ → Bool) (P : σ → Prop)
    (s : Snapshot Op Res ε α σ Req) : Prop :=
  P s.store ∨ ∃ q ∈ s.procs, q.2.Ends M.exec I R g (fun _ => P) s.store

section Rules

variable {M} {I : σ → Prop} {R : σ → σ → Prop} {g : Op → σ → Bool}
  {post : Req → Except ε α → σ → Prop} {s s' : Snapshot Op Res ε α σ Req} {l : Label ε Req}

/-- A step is within `R`. -/
theorem AllEnds.related (hrefl : ∀ s, R s s) (h : M.AllEnds I R g post s)
    (hC : callsMeet g s l) (hnext : M.next l s = some s') : R s.store s'.store := by
  rcases M.next_cases hnext with ⟨req, rfl, rfl⟩ | ⟨pid, req, op, k, rfl, hp, rfl⟩ |
    ⟨pid, e, req, op, k, rfl, hp, rfl⟩
  · exact hrefl _
  · simp only [callsMeet, hp] at hC
    exact (h.2 _ (List.mem_of_getElem? hp) s.store (hrefl _) h.1 hC).2.1
  · cases hC

theorem AllEnds.step (hrefl : ∀ s, R s s) (htrans : ∀ a b c, R a b → R b c → R a c)
    (hpost : ∀ req r a b, R a b → post req r a → post req r b) (h : M.AllEnds I R g post s)
    (hC : callsMeet g s l) (hnext : M.next l s = some s')
    (hstart : ∀ req, l = .start req → (M.code req).Ends M.exec I R g (post req) s.store) :
    M.AllEnds I R g post s' := by
  rcases M.next_cases hnext with ⟨req, rfl, rfl⟩ | ⟨pid, req, op, k, rfl, hp, rfl⟩ |
    ⟨pid, e, req, op, k, rfl, hp, rfl⟩
  · refine ⟨h.1, ?_⟩
    intro q hq
    rcases List.mem_append.mp hq with hold | hnew
    · exact h.2 q hold
    · grind
  · simp only [callsMeet, hp] at hC
    -- the caller goes on as it has promised; what the others have promised is stable
    obtain ⟨hI', hR', hk⟩ := h.2 _ (List.mem_of_getElem? hp) s.store (hrefl _) h.1 hC
    refine ⟨hI', ?_⟩
    intro q hq
    rcases List.mem_or_eq_of_mem_set hq with hold | hnew
    · exact (h.2 q hold).stable htrans (hpost q.1) hR'
    · rw [hnew]
      exact hk
  · cases hC

/-- An obligation is met or stays an obligation. -/
theorem will_step {P : σ → Prop} (hrefl : ∀ s, R s s)
    (htrans : ∀ a b c, R a b → R b c → R a c) (hP : ∀ a b, R a b → P a → P b)
    (h : M.AllEnds I R g post s) (hC : callsMeet g s l) (hnext : M.next l s = some s')
    (hwill : M.Will I R g P s) : M.Will I R g P s' := by
  have hrelated := h.related hrefl hC hnext
  rcases hwill with hholds | ⟨q, hq, hends⟩
  · exact Or.inl (hP _ _ hrelated hholds)
  right
  rcases M.next_cases hnext with ⟨req, rfl, rfl⟩ | ⟨pid, req, op, k, rfl, hp, rfl⟩ |
    ⟨pid, e, req, op, k, rfl, hp, rfl⟩
  · exact ⟨q, List.mem_append_left _ hq, hends⟩
  · obtain ⟨i, hi⟩ := List.mem_iff_getElem?.mp hq
    by_cases hpid : i = pid
    · -- the request that owes makes a call: its continuation owes
      subst hpid
      rw [hp] at hi
      obtain rfl : (req, Prog.call op k) = q := by simpa using hi
      simp only [callsMeet, hp] at hC
      obtain ⟨-, -, hk⟩ := hends s.store (hrefl _) h.1 hC
      refine ⟨(req, k (M.exec op s.store).1), List.mem_of_getElem? (i := i) ?_, hk⟩
      have hlt : i < s.procs.length := (List.getElem?_eq_some_iff.mp hp).1
      simp [hlt]
    refine ⟨q, List.mem_of_getElem? (i := i) ?_, hends.stable htrans (fun _ => hP) hrelated⟩
    rw [List.getElem?_set_ne (Ne.symm hpid)]
    exact hi
  · cases hC

/-- In a quiescent state every obligation has been met. -/
theorem Will.of_quiescent {P : σ → Prop} (h : M.Will I R g P s) (hs : s.quiescent) : P s.store := by
  rcases h with hholds | ⟨q, hq, hends⟩
  · exact hholds
  have hended := List.all_eq_true.mp hs q hq
  cases hprog : q.2 with
  | ret a | throw e =>
    rw [hprog] at hends
    exact hends
  | call op k =>
    -- an obligation of a request that has not ended
    rw [hprog] at hended
    cases hended

end Rules

end Machine

end Async
