import PidOne.Proofs.Reaper
import PidOne.Proofs.Table.Sweep

/-!
# The rounds of a reaper

What the task of a reaper does itself, one thing after another: a whole pass, an idle wait, what
ends the wait, and so on.
-/

namespace PidOne.Reaper

/-- The steps of the task whatever the table is. -/
inductive Activity.Turns : Activity → Event → Activity → Prop
  | pass (turn : Pass.Turns p e p') : Turns (.passing p) (.pass e) (.passing p')
  | rest : Turns (.passing (.done statuses)) (.rest now) (.idle deadline)
  | stop : Turns (.idle deadline) (.wake .stop) .ended
  | again (other : reason ≠ .stop) : Turns (.idle deadline) (.wake reason) (.passing .queued)

def Event.IsRest : Event → Prop
  | .rest _ => True
  | _ => False

variable {task : TaskId} {t t' : Table} {r r' : Reaper} {e : Event} {es : List Event}
variable {p : Pass} {a : Activity} {statuses : List ExitStatus} {deadline : Nat}

theorem Moves.turns (h : Moves task t r e r' t') : Activity.Turns r.activity e r'.activity := by
  cases h with
  | pass busy moves =>
    rw [busy]
    exact .pass ⟨task, t, t', moves⟩
  | rest busy =>
    rw [busy]
    exact .rest
  | stop idle =>
    rw [idle]
    exact .stop
  | timer idle | childEnded idle =>
    rw [idle]
    exact .again nofun

namespace Activity

theorem passes_or_rests (run : Run Turns (.passing p) es a) :
    (∃ fs p', es = fs.map .pass ∧ Run Pass.Turns p fs p' ∧ a = .passing p') ∨
    ∃ fs statuses now rest, es = fs.map .pass ++ .rest now :: rest ∧
      Run Pass.Turns p fs (.done statuses) := by
  induction es generalizing p with
  | nil =>
    cases run
    exact .inl ⟨[], p, rfl, .nil, rfl⟩
  | cons e es ih =>
    cases run with
    | cons turn run =>
      cases turn with
      | @pass _ event p' turn =>
        rcases ih run with ⟨fs, q, rfl, passes, rfl⟩ | ⟨fs, statuses, now, rest, rfl, passes⟩
        · exact .inl ⟨event :: fs, q, rfl, .cons turn passes, rfl⟩
        · exact .inr ⟨event :: fs, statuses, now, rest, rfl, .cons turn passes⟩
      | @rest statuses now => exact .inr ⟨[], statuses, now, es, rfl, .nil⟩

/-- The task cannot end before its first idle wait, and that is after a whole pass. -/
theorem course_of_ended (run : Run Turns (.passing .queued) es .ended) :
    ∃ answers now rest, WaitAnswer.Closed answers ∧
      es = (Pass.course answers).map .pass ++ .rest now :: rest := by
  rcases passes_or_rests run with ⟨_, _, _, _, same⟩ | ⟨fs, statuses, now, rest, rfl, passes⟩
  · cases same
  · obtain ⟨answers, closed, rfl⟩ := Pass.course_of_run passes
    exact ⟨answers, now, rest, closed, rfl⟩

theorem course_of_done (run : Run Turns (.passing .queued) es (.passing (.done statuses)))
    (busy : ∀ e ∈ es, ¬e.IsRest) :
    ∃ answers, WaitAnswer.Closed answers ∧ es = (Pass.course answers).map .pass := by
  rcases passes_or_rests run with ⟨fs, p', rfl, passes, same⟩ | ⟨fs, _, now, rest, rfl, _⟩
  · cases same
    obtain ⟨answers, closed, rfl⟩ := Pass.course_of_run passes
    exact ⟨answers, closed, rfl⟩
  · exact absurd trivial (busy (.rest now) (by simp))

theorem eq_nil_of_ended (run : Run Turns .ended es a) : es = [] := by
  cases run with
  | nil => rfl
  | cons turn _ => cases turn

/-- From one idle wait to the next one the task makes one whole pass. -/
theorem course_of_idle (run : Run Turns (.idle deadline) es (.passing (.done statuses)))
    (busy : ∀ e ∈ es, ¬e.IsRest) : ∃ reason answers, reason ≠ .stop ∧ WaitAnswer.Closed answers ∧
      es = .wake reason :: (Pass.course answers).map .pass := by
  cases run with
  | cons turn run =>
    cases turn with
    | stop =>
      cases run with
      | cons turn _ => cases turn
    | @again reason _ other =>
      rw [List.forall_mem_cons] at busy
      obtain ⟨answers, closed, rfl⟩ := course_of_done run busy.2
      exact ⟨reason, answers, other, closed, rfl⟩

end Activity

end PidOne.Reaper
