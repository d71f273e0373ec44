import PidOne.Proofs.ExitStatus
import PidOne.Proofs.Layout
import PidOne.Proofs.SignalName

/-!
# The text of a status

The display of a status that has been decoded from a word tells the exit code or the signal. So do
the texts in which it is quoted: what is said of a failed command, and the line that closes a phase.
-/

namespace PidOne

theorem Phase.display_append_inj {p p' : Phase} {rest rest' : List Char} :
    p.display.toList ++ rest = p'.display.toList ++ rest' ↔ p = p' ∧ rest = rest' := by
  constructor
  · intro h
    have same := congrArg ofText? h
    simpa only [ofText?_display, Option.some_inj, Prod.mk.injEq] using same
  · rintro ⟨rfl, rfl⟩
    rfl

theorem Failure.message_commandFailed_inj {p p' : Phase} {s s' : ExitStatus} :
    (commandFailed p s).message = (commandFailed p' s').message ↔
      p = p' ∧ s.display = s'.display := by
  rw [← String.toList_inj, toList_message_commandFailed, toList_message_commandFailed,
    Phase.display_append_inj, List.append_cancel_left_eq, String.toList_inj]

theorem Line.render_failed_inj {p p' : Phase} {f f' : Failure} :
    (failed p f).render = (failed p' f').render ↔ p = p' ∧ f.message = f'.message := by
  rw [← String.toList_inj, toList_render, toList_render]
  simp only [level, List.append_cancel_left_eq]
  rw [toList_text_failed, toList_text_failed, Phase.display_append_inj]
  constructor
  · rintro ⟨rfl, h⟩
    exact ⟨rfl, String.toList_inj.1 (List.append_cancel_left h)⟩
  · rintro ⟨rfl, h⟩
    exact ⟨rfl, congrArg _ (String.toList_inj.2 h)⟩

namespace ExitStatus

variable {pid pid' : Pid} {raw raw' : RawStatus} {s s' : ExitStatus}

/-- The exit code or the signal that a display tells. -/
def ofDisplay? (text : List Char) : Option (Option Int × Option Signal) :=
  match text.dropPrefix? "exit status ".toList with
  | some code => (String.ofList code).toInt?.map fun code => (some code, none)
  | none =>
    (text.dropPrefix? "killed by ".toList).bind fun name =>
      (Signal.ofName? name).map fun signal => (none, some signal)

theorem ofDisplay?_exited (code : Int) :
    ofDisplay? (display ⟨pid, some code, none⟩).toList = some (some code, none) := by
  have text : (display ⟨pid, some code, none⟩).toList =
      "exit status ".toList ++ code.repr.toList := by
    simp only [display, toString, String.toList_append]
  rw [text, ofDisplay?, List.dropPrefix?_append_of_beq _ BEq.rfl]
  simp only [String.ofList_toList, Int.toInt?_repr, Option.map_some]

theorem ofDisplay?_killed (signal : Signal) :
    ofDisplay? (display ⟨pid, none, some signal⟩).toList = some (none, some signal) := by
  have text : (display ⟨pid, none, some signal⟩).toList =
      "killed by ".toList ++ signal.name.toList := by
    simp only [display, toString, String.toList_append]
  have notExited : ("killed by ".toList ++ signal.name.toList).dropPrefix?
      "exit status ".toList = none := by
    simp [List.dropPrefix?]
  rw [text, ofDisplay?, notExited]
  simp only [List.dropPrefix?_append_of_beq _ BEq.rfl, Option.bind_some, Signal.ofName?_name,
    Option.map_some]

namespace Decodes

/-- All but the PID is read back. -/
theorem ofDisplay? (h : Decodes pid raw (some s)) :
    ofDisplay? s.display.toList = some (s.code, s.signal) := by
  cases h with
  | exit => exact ofDisplay?_exited _
  | kill => exact ofDisplay?_killed _

theorem display_eq_iff (h : Decodes pid raw (some s)) (h' : Decodes pid' raw' (some s')) :
    s.display = s'.display ↔ s.code = s'.code ∧ s.signal = s'.signal := by
  constructor
  · intro same
    have read := congrArg (fun text : String => ExitStatus.ofDisplay? text.toList) same
    simpa only [h.ofDisplay?, h'.ofDisplay?, Option.some_inj, Prod.mk.injEq] using read
  · rintro ⟨code, signal⟩
    rw [display, display, code, signal]

theorem of_success (h : Decodes pid raw (some s)) (success : s.success = true) :
    s.code = some 0 ∧ s.signal = none := by
  cases h with
  | exit => exact ⟨eq_of_beq success, rfl⟩
  | kill => cases success

end Decodes

theorem verdict_of_success {p : Phase} {c : Command} (h : s.success = true) :
    (Script.Report.ended s).verdict p c = .exited p := by
  rw [Script.Report.verdict, h, if_pos rfl]

theorem verdict_of_failure {p : Phase} {c : Command} (h : s.success = false) :
    (Script.Report.ended s).verdict p c = .failed p (.commandFailed p s) := by
  rw [Script.Report.verdict, h, if_neg Bool.false_ne_true]

/-- Either both lines say that all is well or they show how the commands have failed. -/
theorem Decodes.closing_eq_iff (h : Decodes pid raw (some s)) (h' : Decodes pid' raw' (some s'))
    {p p' : Phase} {c c' : Command} :
    ((Script.Report.ended s).verdict p c).render =
        ((Script.Report.ended s').verdict p' c').render ↔
      p = p' ∧ s.code = s'.code ∧ s.signal = s'.signal := by
  constructor
  · intro same
    have read := congrArg (fun text : String => recallLine text.toList) same
    simp only [recall_render, Script.verdict?_verdict, Option.some_inj, Prod.mk.injEq] at read
    obtain ⟨rfl, outcome⟩ := read
    have success : s.success = s'.success := congrArg Outcome.success outcome
    refine ⟨rfl, ?_⟩
    cases succeeded : s.success with
    | true =>
      rw [succeeded] at success
      obtain ⟨code, signal⟩ := h.of_success succeeded
      obtain ⟨code', signal'⟩ := h'.of_success success.symm
      exact ⟨code.trans code'.symm, signal.trans signal'.symm⟩
    | false =>
      rw [succeeded] at success
      rw [verdict_of_failure succeeded, verdict_of_failure success.symm, Line.render_failed_inj,
        Failure.message_commandFailed_inj] at same
      exact (h.display_eq_iff h').1 same.2.2
  · rintro ⟨rfl, same⟩
    have success : s.success = s'.success := by rw [ExitStatus.success, ExitStatus.success, same.1]
    cases succeeded : s.success with
    | true =>
      rw [succeeded] at success
      rw [verdict_of_success succeeded, verdict_of_success success.symm]
    | false =>
      rw [succeeded] at success
      rw [verdict_of_failure succeeded, verdict_of_failure success.symm, Line.render_failed_inj,
        Failure.message_commandFailed_inj]
      exact ⟨rfl, rfl, (h.display_eq_iff h').2 same⟩

/-- Which texts about the ends of two processes are the same. -/
structure ToldApart (s s' : ExitStatus) : Prop where
  display : s.display = s'.display ↔ s.code = s'.code ∧ s.signal = s'.signal
  failure : ∀ p p', (Failure.commandFailed p s).message = (Failure.commandFailed p' s').message ↔
    p = p' ∧ s.code = s'.code ∧ s.signal = s'.signal
  closing : ∀ p p' c c', ((Script.Report.ended s).verdict p c).render =
      ((Script.Report.ended s').verdict p' c').render ↔
    p = p' ∧ s.code = s'.code ∧ s.signal = s'.signal

/-- No two numbers have the same name, and no two ends the same text. -/
theorem display_identifies_status :
    (∀ s : Signal, s.Named s.name) ∧ Function.Injective Signal.name ∧
    ∀ pid pid' raw raw' s s', ofRaw? pid raw = some s → ofRaw? pid' raw' = some s' →
      ToldApart s s' := by
  refine ⟨Signal.named, Signal.name_injective, fun pid pid' raw raw' s s' read read' => ?_⟩
  have decodes : Decodes pid raw (some s) := read ▸ decodes_ofRaw? pid raw
  have decodes' : Decodes pid' raw' (some s') := read' ▸ decodes_ofRaw? pid' raw'
  exact {
    display := decodes.display_eq_iff decodes'
    failure := fun _ _ => by
      rw [Failure.message_commandFailed_inj, decodes.display_eq_iff decodes']
    closing := fun _ _ _ _ => decodes.closing_eq_iff decodes' }

/-- A real-time signal is shown the same with a core dump and a sign in the word, and not like an
exit with its number. -/
theorem display_identifies_status_of_realtime :
    ofRaw? 42 37 = some ⟨42, none, some 37⟩ ∧ ofRaw? 7 (-91) = some ⟨7, none, some 37⟩ ∧
    ofRaw? 42 0x2500 = some ⟨42, some 37, none⟩ ∧
    display ⟨42, none, some 37⟩ = display ⟨7, none, some 37⟩ ∧
    display ⟨42, none, some 37⟩ ≠ display ⟨42, some 37, none⟩ := by
  have killed : ofRaw? 42 37 = some ⟨42, none, some 37⟩ := by decide
  have dumped : ofRaw? 7 (-91) = some ⟨7, none, some 37⟩ := by decide
  have exited : ofRaw? 42 0x2500 = some ⟨42, some 37, none⟩ := by decide
  have toldApart := display_identifies_status.2.2
  have same := (toldApart 42 7 37 (-91) _ _ killed dumped).display
  have different := (toldApart 42 42 37 0x2500 _ _ killed exited).display
  refine ⟨killed, dumped, exited, same.2 ⟨rfl, rfl⟩, fun h => ?_⟩
  cases (different.1 h).1

end ExitStatus

end PidOne
