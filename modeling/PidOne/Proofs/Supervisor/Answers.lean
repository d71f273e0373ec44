import PidOne.Proofs.Run
import PidOne.Proofs.Supervisor

/-!
# The answers in a run

A run of a supervisor follows its script with the answers that the runner has given on the way,
whatever the kernel and the other tasks have done meanwhile. Orphans are adopted before the first
command, or not at all.
-/

namespace PidOne

namespace Script

/-- What the runner has answered to a command. -/
abbrev Answer := (Phase × Command) × Except Failure ExitStatus

def Agrees (answers : Phase → Command → Except Failure ExitStatus) (past : List Answer) : Prop :=
  ∀ x ∈ past, answers x.1.1 x.1.2 = x.2

/-- With these answers the whole script has come to this rest. -/
structure Recalls (full script : Script) (past : List Answer) : Prop where
  consistent : ∃ answers, Agrees answers past
  attempts : ∀ answers, Agrees answers past →
    (full.follow answers).attempts = past.map Prod.fst ++ (script.follow answers).attempts
  result : ∀ answers, Agrees answers past →
    (full.follow answers).result = (script.follow answers).result

/-- Orphans are not spoken of any more. -/
def Settled : Script → Prop
  | .done _ => True
  | .log _ rest | .receiveSignals rest | .startReaper _ rest | .stopReaper rest => rest.Settled
  | .adoptOrphans _ => False
  | .run _ _ rest => ∀ answer, (rest answer).Settled

variable {full script next : Script} {past : List Answer} {phase : Phase} {command : Command}
variable {rest : Except Failure ExitStatus → Script}

theorem Recalls.start (full : Script) : Recalls full full [] where
  consistent := ⟨fun _ command => .error (.spawnFailed command.program .nulByte), nofun⟩
  attempts _ _ := rfl
  result _ _ := rfl

theorem Recalls.skip (h : Recalls full script past)
    (same : ∀ answers, script.follow answers = next.follow answers) : Recalls full next past where
  consistent := h.consistent
  attempts answers agrees := by rw [h.attempts answers agrees, same]
  result answers agrees := by rw [h.result answers agrees, same]

/-- The phases differ, so that the new answer does not clash with those before. -/
theorem Recalls.answer (h : Recalls full (.run phase command rest) past)
    (once : ∀ answers, ((full.follow answers).attempts.map Prod.fst).Nodup)
    (answer : Except Failure ExitStatus) :
    Recalls full (rest answer) (past ++ [((phase, command), answer)]) where
  consistent := by
    obtain ⟨answers, agrees⟩ := h.consistent
    have distinct := once answers
    rw [h.attempts answers agrees, follow] at distinct
    simp only [Course.after, List.map_append, List.nodup_append] at distinct
    have new : ∀ x ∈ past, x.1.1 ≠ phase := fun x hx =>
      distinct.2.2 _ (List.mem_map_of_mem (List.mem_map_of_mem hx)) phase (by simp)
    refine ⟨fun p c => if p = phase then answer else answers p c, fun x hx => ?_⟩
    rcases List.mem_append.1 hx with hx | hx
    · simp [new x hx, agrees x hx]
    · obtain rfl := List.mem_singleton.1 hx
      simp
  attempts answers agrees := by
    have before : Agrees answers past := fun x hx => agrees x (List.mem_append_left _ hx)
    have mine : answers phase command = answer :=
      agrees ((phase, command), answer) (List.mem_append_right _ (.head _))
    simp [h.attempts answers before, follow, mine, Course.after]
  result answers agrees := by
    have before : Agrees answers past := fun x hx => agrees x (List.mem_append_left _ hx)
    have mine : answers phase command = answer :=
      agrees ((phase, command), answer) (List.mem_append_right _ (.head _))
    rw [h.result answers before, follow, mine, Course.after]

/-- What comes after the adoption of orphans. -/
theorem settled_rest (config : Config) :
    (Script.receiveSignals <| .startReaper config.reapInterval <| phases config fun result =>
      .stopReaper <| .log .reaperStopped <| .log (.exiting result.exitCode) <|
        .done result).Settled :=
  phases_of (fun _ _ _ => id) (phase_of (fun _ _ _ => id) fun _ _ _ => id) config fun _ => trivial

end Script

namespace Supervisor

/-- The steps of a supervisor, as a system. -/
def Steps (s : Supervisor) (e : Event) (s' : Supervisor) : Prop := s.step e = some s'

/-- Whether orphans are adopted is settled as soon as they are not spoken of any more. -/
inductive Adopting (wanted : Bool) (s : Supervisor) : Prop
  | opening (ahead : s.script = .log line (.adoptOrphans rest)) (later : rest.Settled)
    (wants : wanted = true) (notYet : s.adoptsOrphans = false)
  | asking (ahead : s.script = .adoptOrphans rest) (later : rest.Settled)
    (wants : wanted = true) (notYet : s.adoptsOrphans = false)
  | settled (ahead : s.script.Settled) (same : s.adoptsOrphans = wanted)

variable {s s' : Supervisor} {e : Event} {es : List Event} {full : Script}
variable {past : List Script.Answer} {config : Config} {version : String} {self : Pid}
variable {result : Result} {wanted : Bool}

theorem Moves.recalls (h : Script.Recalls full s.script past)
    (once : ∀ answers, ((full.follow answers).attempts.map Prod.fst).Nodup)
    (moves : Moves s e s') : ∃ past', Script.Recalls full s'.script past' := by
  cases moves with
  | log head | adoptOrphans head | receiveSignals head | startReaper head | stopped head =>
    rw [head] at h
    exact ⟨past, h.skip fun _ => rfl⟩
  | @finish _ _ _ answer _ head =>
    rw [head] at h
    exact ⟨_, h.answer once answer⟩
  | begin | requestStop | runner | reaper | signal => exact ⟨past, h⟩

theorem recalls_of_run (run : Run Steps (start config version self) es s) :
    ∃ past, Script.Recalls (Script.ofConfig config version self) s.script past := by
  refine run.keeps (P := fun s => ∃ past,
    Script.Recalls (Script.ofConfig config version self) s.script past) ?_ ⟨[], .start _⟩
  intro s e s' h step
  obtain ⟨past, h⟩ := h
  exact Moves.recalls h (fun _ => Script.nodup_follow config version self) (.of_step step)

/-- The result is what the script comes to with some answers of the runner. -/
theorem result_of_run (run : Run Steps (start config version self) es s)
    (returned : s.result? = some result) :
    ∃ answers, ((Script.ofConfig config version self).follow answers).result = result := by
  obtain ⟨past, recalls⟩ := recalls_of_run run
  obtain ⟨answers, agrees⟩ := recalls.consistent
  refine ⟨answers, ?_⟩
  rw [recalls.result answers agrees, script_of_result? returned, Script.follow]

theorem Adopting.start (config : Config) (version : String) (self : Pid) :
    (start config version self).Adopting (config.subreaper && self != 1) := by
  cases wanted : (config.subreaper && self != 1) with
  | true =>
    refine .opening (?_ : _ = Script.log (.starting version) _) (Script.settled_rest config) rfl rfl
    rw [Supervisor.start, Script.ofConfig, wanted]
    rfl
  | false =>
    refine .settled ?_ rfl
    rw [Supervisor.start, Script.ofConfig, wanted]
    exact Script.settled_rest config

theorem Adopting.moves (h : s.Adopting wanted) (moves : Moves s e s') : s'.Adopting wanted := by
  cases h with
  | opening ahead later wants notYet =>
    cases moves with
    | log head =>
      cases ahead.symm.trans head
      exact .asking rfl later wants notYet
    | reaper | signal => exact .opening ahead later wants notYet
    | _ head => cases ahead.symm.trans head
  | asking ahead later wants notYet =>
    cases moves with
    | adoptOrphans head =>
      cases ahead.symm.trans head
      exact .settled later wants.symm
    | reaper | signal => exact .asking ahead later wants notYet
    | _ head => cases ahead.symm.trans head
  | settled ahead same =>
    cases moves with
    | log head | receiveSignals head | startReaper head | stopped head =>
      rw [head] at ahead
      exact .settled ahead same
    | adoptOrphans head =>
      rw [head] at ahead
      exact ahead.elim
    | finish head =>
      rw [head] at ahead
      exact .settled (ahead _) same
    | begin | requestStop | runner | reaper | signal => exact .settled ahead same

theorem Adopting.wants (h : s.Adopting wanted) (adopts : s.adoptsOrphans = true) :
    wanted = true := by
  cases h with
  | opening _ _ wants | asking _ _ wants => exact wants
  | settled _ same => rwa [← same]

theorem Adopting.same (h : s.Adopting wanted)
    (begun : (∃ phase command rest, s.script = .run phase command rest) ∨
      s.result?.isSome = true) : s.adoptsOrphans = wanted := by
  cases h with
  | settled _ same => exact same
  | opening ahead | asking ahead =>
    rcases begun with ⟨phase, command, rest, head⟩ | returned
    · cases ahead.symm.trans head
    · simp [result?, ahead] at returned

theorem adopting_of_run (run : Run Steps (start config version self) es s) :
    s.Adopting (config.subreaper && self != 1) :=
  run.keeps (P := Adopting _) (fun h step => h.moves (.of_step step)) (.start config version self)

end Supervisor

end PidOne
