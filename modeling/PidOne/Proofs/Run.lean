/-!
# Runs

A system is given by its labelled steps, and a run is any number of them.
-/

namespace PidOne

universe u v

variable {State : Type u} {Event : Type v}

/-- The steps with these labels lead from one state to another. -/
inductive Run (Step : State → Event → State → Prop) : State → List Event → State → Prop
  | nil : Run Step s [] s
  | cons (step : Step s e t) (rest : Run Step t es r) : Run Step s (e :: es) r

namespace Run

variable {Step : State → Event → State → Prop} {s t r : State} {e : Event} {es fs : List Event}

@[simp] theorem nil_iff : Run Step s [] t ↔ s = t := by
  constructor
  · rintro ⟨⟩
    rfl
  · rintro rfl
    exact .nil

theorem single (h : Step s e t) : Run Step s [e] t := .cons h .nil

theorem exists_cons {P : State → Prop} (step : Step s e t) (rest : ∃ r, Run Step t es r ∧ P r) :
    ∃ r, Run Step s (e :: es) r ∧ P r := by
  obtain ⟨r, rest, hr⟩ := rest
  exact ⟨r, .cons step rest, hr⟩

theorem append (first : Run Step s es t) (second : Run Step t fs r) :
    Run Step s (es ++ fs) r := by
  induction first with
  | nil => exact second
  | cons step _ ih => exact .cons step (ih second)

theorem split (h : Run Step s (es ++ fs) r) : ∃ t, Run Step s es t ∧ Run Step t fs r := by
  induction es generalizing s with
  | nil => exact ⟨s, .nil, h⟩
  | cons e es ih =>
    cases h with
    | cons step rest =>
      obtain ⟨t, before, after⟩ := ih rest
      exact ⟨t, .cons step before, after⟩

theorem split_at (h : Run Step s (es ++ e :: fs) r) :
    ∃ t t', Run Step s es t ∧ Step t e t' ∧ Run Step t' fs r := by
  obtain ⟨t, before, after⟩ := h.split
  cases after with
  | cons step rest => exact ⟨t, _, before, step, rest⟩

/-- What each step keeps, each run keeps. -/
theorem keeps {P : State → Prop} (step : ∀ {s e t}, P s → Step s e t → P t)
    (run : Run Step s es t) (start : P s) : P t := by
  induction run with
  | nil => exact start
  | cons h _ ih => exact ih (step start h)

/-- What each step with such a label keeps, each run with such labels keeps. -/
theorem keeps_along {P : State → Prop} {Q : Event → Prop}
    (step : ∀ {s e t}, Q e → P s → Step s e t → P t) (run : Run Step s es t)
    (labels : ∀ e ∈ es, Q e) (start : P s) : P t := by
  induction run with
  | nil => exact start
  | cons h _ ih =>
    rw [List.forall_mem_cons] at labels
    exact ih labels.2 (step labels.1 start h)

/-- What each step from a state that is reached keeps, each run keeps. -/
theorem keeps_reachable {P : State → Prop} {Q : Event → Prop}
    (step : ∀ {es t e t'}, Run Step s es t → Q e → P t → Step t e t' → P t')
    (run : Run Step s es t) (labels : ∀ e ∈ es, Q e) (start : P s) : P t := by
  have both := run.keeps_along (P := fun t => (∃ es, Run Step s es t) ∧ P t) (Q := Q) ?_ labels
    ⟨⟨[], .nil⟩, start⟩
  · exact both.2
  · rintro t e t' label ⟨⟨es, reached⟩, h⟩ next
    exact ⟨⟨_, reached.append (.single next)⟩, step reached label h next⟩

theorem mono {Step' : State → Event → State → Prop} (h : ∀ {s e t}, Step s e t → Step' s e t)
    (run : Run Step s es t) : Run Step' s es t := by
  induction run with
  | nil => exact .nil
  | cons step _ ih => exact .cons (h step) ih

/-- A run of one system is seen as a run of another one. -/
theorem map {State' : Type u} {Step' : State' → Event → State' → Prop} (f : State → State')
    (h : ∀ {s e t}, Step s e t → Step' (f s) e (f t)) (run : Run Step s es t) :
    Run Step' (f s) es (f t) := by
  induction run with
  | nil => exact .nil
  | cons step _ ih => exact .cons (h step) ih

/-- A run is seen as a run of a part, which takes part in some of the steps only. -/
theorem project {Part : Type u} {Own : Type v} {Step' : Part → Own → Part → Prop}
    (f : State → Part) (g : Event → Option Own)
    (own : ∀ {s e e' t}, Step s e t → g e = some e' → Step' (f s) e' (f t))
    (other : ∀ {s e t}, Step s e t → g e = none → f t = f s) (run : Run Step s es t) :
    Run Step' (f s) (es.filterMap g) (f t) := by
  induction run with
  | nil => exact .nil
  | @cons s e t es r step _ ih =>
    cases h : g e with
    | none =>
      rw [List.filterMap_cons_none h, ← other step h]
      exact ih
    | some e' =>
      rw [List.filterMap_cons_some h]
      exact .cons (own step h) ih

/-- Where each step leads to one state only, so does each run. -/
theorem deterministic (step : ∀ {s e t t'}, Step s e t → Step s e t' → t = t')
    (first : Run Step s es t) (second : Run Step s es r) : t = r := by
  induction first with
  | nil => exact nil_iff.1 second
  | cons h _ ih =>
    cases second with
    | cons h' rest =>
      obtain rfl := step h h'
      exact ih rest

theorem step_of_mem (run : Run Step s es t) (he : e ∈ es) : ∃ r r', Step r e r' := by
  induction run with
  | nil => cases he
  | cons step _ ih =>
    rcases List.mem_cons.1 he with rfl | he
    · exact ⟨_, _, step⟩
    · exact ih he

theorem always_or_since {P : State → Prop} (run : Run Step s es r) (final : P r) :
    (P s ∧ Run (fun u e u' => P u ∧ Step u e u' ∧ P u') s es r) ∨
    ∃ before e after t t', es = before ++ e :: after ∧ Run Step s before t ∧ ¬P t ∧ Step t e t' ∧
      P t' ∧ Run (fun u e u' => P u ∧ Step u e u' ∧ P u') t' after r := by
  -- Backwards from the end: the first step of the run counts only if all of the rest has it.
  induction run with
  | nil => exact .inl ⟨final, .nil⟩
  | @cons s e t es r step rest ih =>
    rcases ih final with ⟨ht, always⟩ | ⟨before, e', after, u, u', rfl, first, since⟩
    · by_cases hs : P s
      · exact .inl ⟨hs, .cons ⟨hs, step, ht⟩ always⟩
      · exact .inr ⟨[], e, es, s, t, rfl, .nil, hs, step, ht, always⟩
    · exact .inr ⟨e :: before, e', after, u, u', rfl, .cons step first, since⟩

/-- What has come to be true did so in one of the steps, and has been true ever since. -/
theorem since {P : State → Prop} (run : Run Step s es r) (start : ¬P s) (final : P r) :
    ∃ before e after t t', es = before ++ e :: after ∧ Run Step s before t ∧ ¬P t ∧ Step t e t' ∧
      P t' ∧ Run (fun u e u' => P u ∧ Step u e u' ∧ P u') t' after r := by
  rcases run.always_or_since final with ⟨hs, _⟩ | since
  · exact absurd hs start
  · exact since

end Run

end PidOne
