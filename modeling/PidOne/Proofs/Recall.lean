import Mathlib.Data.List.Basic
import PidOne.Log

/-!
# Reading a log

What a line says of how a phase has ended can be read off its text, whatever is quoted in it.
-/

namespace PidOne

/-- Whether the failure is that the command of this phase has exited with a code. -/
def Failure.isExitOf (p : Phase) : Failure → Bool
  | .commandFailed q status => q == p && status.exitedNormally
  | _ => false

/-- The phase that a line closes, and with which outcome. -/
def Line.verdict? : Line → Option (Phase × Outcome)
  | .exited p => some (p, ⟨true, true⟩)
  | .failed p failure => some (p, ⟨failure.isExitOf p, false⟩)
  | _ => none

/-- The phase whose name the text begins with, and the rest. -/
def Phase.ofText? (text : List Char) : Option (Phase × List Char) :=
  [preStart, main, postStop].findSome? fun p => (text.dropPrefix? p.display.toList).map (p, ·)

def recallExited (text : List Char) : Option (Phase × Outcome) :=
  match Phase.ofText? text with
  | some (p, rest) => (rest.dropPrefix? " command exited".toList).map fun _ => (p, ⟨true, true⟩)
  | none => none

/-- The phase of whose command this says that it has exited with a code. -/
def recallExit (text : List Char) : Option Phase :=
  match Phase.ofText? text with
  | some (p, rest) =>
    (rest.dropPrefix? " command failed: ".toList).bind fun status =>
      (status.dropPrefix? "exit status ".toList).map fun _ => p
  | none => none

def recallFailed (text : List Char) : Option (Phase × Outcome) :=
  match Phase.ofText? text with
  | some (p, rest) =>
    (rest.dropPrefix?
      (" command failed phase=".toList ++ (p.display.toList ++ " error=".toList))).map
      fun message => (p, ⟨recallExit message == some p, false⟩)
  | none => none

def recallLine (text : List Char) : Option (Phase × Outcome) :=
  match text.dropPrefix? "INFO ".toList with
  | some rest => recallExited rest
  | none => (text.dropPrefix? "ERROR ".toList).bind recallFailed

theorem Phase.ofText?_display (p : Phase) (rest : List Char) :
    ofText? (p.display.toList ++ rest) = some (p, rest) := by
  cases p <;> simp [ofText?, display, List.dropPrefix?]

theorem Phase.ofText?_of_head {text : List Char} (notP : text.head? ≠ some 'P')
    (notM : text.head? ≠ some 'M') : ofText? text = none := by
  cases text with
  | nil => simp [ofText?, display, List.dropPrefix?]
  | cons c rest =>
    have hP : c ≠ 'P' := by simpa using notP
    have hM : c ≠ 'M' := by simpa using notM
    simp [ofText?, display, List.dropPrefix?, hP, hM]

theorem Line.toList_render (l : Line) :
    l.render.toList = l.level.label.toList ++ (" ".toList ++ l.text.toList) := by
  unfold Line.render
  simp only [String.toList_append, toString, List.append_assoc]

theorem recall_info {l : Line} (h : l.level = .info) :
    recallLine l.render.toList = recallExited l.text.toList := by
  rw [Line.toList_render, h]
  simp [Level.label, recallLine, List.dropPrefix?]

theorem recall_error {l : Line} (h : l.level = .error) :
    recallLine l.render.toList = recallFailed l.text.toList := by
  rw [Line.toList_render, h]
  simp [Level.label, recallLine, List.dropPrefix?]

theorem ExitStatus.dropPrefix?_display (status : ExitStatus) :
    (status.display.toList.dropPrefix? "exit status ".toList).isSome = status.exitedNormally := by
  unfold ExitStatus.display ExitStatus.exitedNormally
  split
  · simp only [String.toList_append, toString, List.dropPrefix?_append_of_beq _ BEq.rfl, *]
    rfl
  · simp only [String.toList_append, toString, *]
    simp [List.dropPrefix?]
  · simp [List.dropPrefix?, *]

theorem Failure.toList_message_commandFailed (p : Phase) (status : ExitStatus) :
    (commandFailed p status).message.toList =
      p.display.toList ++ (" command failed: ".toList ++ status.display.toList) := by
  unfold Failure.message
  simp only [String.toList_append, toString, List.append_assoc]

theorem recallExit_commandFailed (p q : Phase) (status : ExitStatus) :
    (recallExit (Failure.commandFailed q status).message.toList == some p) =
      (Failure.commandFailed q status).isExitOf p := by
  rw [Failure.toList_message_commandFailed, recallExit, Phase.ofText?_display]
  simp only [List.dropPrefix?_append_of_beq _ BEq.rfl, Option.bind_some]
  rw [Failure.isExitOf, ← status.dropPrefix?_display]
  cases status.display.toList.dropPrefix? "exit status ".toList <;> simp

theorem recallExit_message (p : Phase) (failure : Failure) :
    (recallExit failure.message.toList == some p) = failure.isExitOf p := by
  cases failure with
  | commandFailed q status => exact recallExit_commandFailed p q status
  | _ =>
    rw [recallExit, Phase.ofText?_of_head]
    · rfl
    · unfold Failure.message
      simp [String.toList_append, toString]
    · unfold Failure.message
      simp [String.toList_append, toString]

theorem Line.toList_text_failed (p : Phase) (failure : Failure) :
    (failed p failure).text.toList = p.display.toList ++
      ((" command failed phase=".toList ++ (p.display.toList ++ " error=".toList)) ++
        failure.message.toList) := by
  unfold Line.text
  simp only [String.toList_append, toString, List.append_assoc]

theorem recallFailed_failed (p : Phase) (failure : Failure) :
    recallFailed (Line.failed p failure).text.toList = some (p, ⟨failure.isExitOf p, false⟩) := by
  rw [Line.toList_text_failed, recallFailed, Phase.ofText?_display]
  simp only [List.dropPrefix?_append_of_beq _ BEq.rfl, Option.map_some, recallExit_message]

theorem recallExited_exited (p : Phase) :
    recallExited (Line.exited p).text.toList = some (p, ⟨true, true⟩) := by
  have text : (Line.exited p).text.toList =
      p.display.toList ++ (" command exited phase=".toList ++ p.display.toList) := by
    unfold Line.text
    simp only [String.toList_append, toString, List.append_assoc]
  rw [text, recallExited, Phase.ofText?_display]
  simp [List.dropPrefix?]

theorem recallExited_launched (p : Phase) (c : Command) :
    recallExited (Line.launched p c).text.toList = none := by
  have text : (Line.launched p c).text.toList = p.display.toList ++
      (" command launched phase=".toList ++
        (p.display.toList ++ (" command=".toList ++ c.display.toList))) := by
    unfold Line.text
    simp only [String.toList_append, toString, List.append_assoc]
  rw [text, recallExited, Phase.ofText?_display]
  simp [List.dropPrefix?]

theorem recall_render (l : Line) : recallLine l.render.toList = l.verdict? := by
  cases l with
  | exited p =>
    rw [recall_info rfl]
    exact recallExited_exited p
  | launched p c =>
    rw [recall_info rfl]
    exact recallExited_launched p c
  | failed p failure =>
    rw [recall_error rfl]
    exact recallFailed_failed p failure
  | starting | skipped | spawned | reaperStopped | exiting =>
    rw [recall_info rfl, recallExited, Phase.ofText?_of_head]
    · rfl
    · unfold Line.text
      simp [toString]
    · unfold Line.text
      simp [toString]
  | reapingFailed | invalidConfiguration =>
    rw [recall_error rfl, recallFailed, Phase.ofText?_of_head]
    · rfl
    · unfold Line.text
      simp [toString]
    · unfold Line.text
      simp [toString]

end PidOne
