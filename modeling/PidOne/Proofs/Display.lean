import PidOne.Log
import PidOne.Proofs.Words

/-!
# The display of a command

A command is displayed with one space between its words. This is read back as the same command
just when it consists of words, as every command does that has been read from a line.
-/

namespace PidOne

namespace Text

/-- One space after each word but the last. -/
def Spacing.spaced : List (List Char) → List (List Char × List Char)
  | [] => []
  | [w] => [(w, [])]
  | w :: w' :: ws => (w, [' ']) :: spaced (w' :: ws)

namespace Spacing

variable {ws : List (List Char)} {lead : List Char}

theorem text_spaced (ws : List (List Char)) : text ⟨[], spaced ws⟩ = [' '].intercalate ws := by
  induction ws with
  | nil => rfl
  | cons w ws ih =>
    cases ws with
    | nil => simp [spaced, text]
    | cons w' ws =>
      rw [List.intercalate_cons_cons, ← ih, spaced, text_cons]
      simp [text]

theorem words_spaced (ws : List (List Char)) : words ⟨lead, spaced ws⟩ = ws := by
  induction ws with
  | nil => rfl
  | cons w ws ih =>
    cases ws with
    | nil => rfl
    | cons w' ws =>
      rw [words, spaced, List.map_cons]
      exact congrArg (w :: ·) ih

theorem isProper_spaced (h : ∀ w ∈ ws, IsWord w) (gap : IsGap lead) :
    IsProper ⟨lead, spaced ws⟩ := by
  induction ws generalizing lead with
  | nil => exact isProper_nil.2 gap
  | cons w ws ih =>
    obtain ⟨word, words⟩ := List.forall_mem_cons.1 h
    cases ws with
    | nil => exact isProper_cons.2 ⟨gap, word, fun _ => rfl, isProper_nil.2 nofun⟩
    | cons w' ws =>
      have space : IsGap [' '] := List.forall_mem_singleton.2 rfl
      exact isProper_cons.2 ⟨gap, word, nofun, ih words space⟩

end Spacing

theorem words_intercalate {ws : List (List Char)} (h : ∀ w ∈ ws, IsWord w) :
    words ([' '].intercalate ws) = ws := by
  have proper : Spacing.IsProper ⟨[], Spacing.spaced ws⟩ := Spacing.isProper_spaced h nofun
  rw [words_eq proper (Spacing.text_spaced ws), Spacing.words_spaced]

end Text

namespace Command

variable {c : Command} {line : String}

/-- The program and the arguments are not empty and without blank characters. -/
def IsPlain (c : Command) : Prop :=
  ∀ w ∈ c.program :: c.arguments, w ≠ "" ∧ ∀ x ∈ w.toList, Text.isBlank x = false

theorem isPlain_iff : c.IsPlain ↔ ∀ w ∈ c.words, Text.IsWord w := by
  simp [IsPlain, words, Text.IsWord]

theorem toList_display (c : Command) : c.display.toList = [' '].intercalate c.words := by
  rw [display, String.toList_intercalate]
  rfl

/-- What is read from a line consists of words. -/
theorem isPlain_of_ofLine (h : ofLine line = .ok c) : c.IsPlain := by
  obtain ⟨s, proper, _, hwords⟩ := Text.exists_spacing line.toList
  rw [ofLine_eq_ok_iff, ofLine?_eq_some_iff, hwords] at h
  rw [isPlain_iff, ← h]
  intro w hw
  obtain ⟨p, hp, rfl⟩ := List.mem_map.1 hw
  exact proper.words p hp

theorem ofLine_display_iff : ofLine c.display = .ok c ↔ c.IsPlain := by
  constructor
  · exact isPlain_of_ofLine
  · intro plain
    rw [ofLine_eq_ok_iff, ofLine?_eq_some_iff, toList_display,
      Text.words_intercalate (isPlain_iff.1 plain)]

/-- An empty argument is lost and a blank character splits one. -/
example : ofLine? (display ⟨"sh", ["", "a b"]⟩) = some ⟨"sh", ["a", "b"]⟩ := by decide

/-- The line by which the command on a line is displayed. -/
def normalize (line : String) : Except Failure String := (ofLine line).map display

theorem normalize_eq_ok_iff {shown : String} :
    normalize line = .ok shown ↔ ∃ c, ofLine line = .ok c ∧ c.display = shown := by
  rw [normalize]
  cases ofLine line <;> simp [Except.map]

theorem normalize_eq_error_iff {f : Failure} :
    normalize line = .error f ↔ ofLine line = .error f := by
  rw [normalize]
  cases ofLine line <;> simp [Except.map]

/-- A line is normalized to one that holds the same command and is normal. -/
theorem ofLine_of_normalize {shown : String} (h : normalize line = .ok shown) :
    ofLine shown = ofLine line ∧ normalize shown = .ok shown := by
  obtain ⟨c, read, rfl⟩ := normalize_eq_ok_iff.1 h
  have again := ofLine_display_iff.2 (isPlain_of_ofLine read)
  exact ⟨again.trans read.symm, normalize_eq_ok_iff.2 ⟨c, again, rfl⟩⟩

theorem exists_normalize (h : ¬Blank line) : ∃ shown, normalize line = .ok shown := by
  cases read : ofLine line with
  | ok c => exact ⟨_, normalize_eq_ok_iff.2 ⟨c, read, rfl⟩⟩
  | error f => exact absurd (ofLine_eq_error_iff.1 read).2 h

theorem ofLine_eq_iff {line' : String} :
    ofLine line = ofLine line' ↔ normalize line = normalize line' := by
  constructor
  · intro h
    rw [normalize, normalize, h]
  · intro h
    cases read : normalize line with
    | ok shown =>
      have read' : normalize line' = .ok shown := h.symm.trans read
      rw [← (ofLine_of_normalize read).1, (ofLine_of_normalize read').1]
    | error f =>
      have read' : normalize line' = .error f := h.symm.trans read
      rw [normalize_eq_error_iff.1 read, normalize_eq_error_iff.1 read']

end Command

/-- What a line of the log says before it shows a command. -/
def Line.untilCommand (p : Phase) : String :=
  s!"{p.display} command launched phase={p.display} command="

theorem Line.text_launched (p : Phase) (c : Command) :
    (launched p c).text = untilCommand p ++ c.display := rfl

namespace Command

/-- Commands of words are read as they are shown, and lines hold no others. -/
theorem display_inverts_ofLine :
    (∀ c : Command, ofLine c.display = .ok c ↔ c.IsPlain) ∧
    (∀ line c, ofLine line = .ok c → ∀ p : Phase, ∃ shown,
      (Line.launched p c).text = Line.untilCommand p ++ shown ∧ ofLine shown = .ok c) ∧
    (∀ line, ¬Blank line → ∃ shown, normalize line = .ok shown ∧
      ofLine shown = ofLine line ∧ normalize shown = .ok shown) ∧
    (∀ line line', ofLine line = ofLine line' ↔ normalize line = normalize line') := by
  refine ⟨fun _ => ofLine_display_iff, fun line c read p => ?logged, fun line h => ?normal,
    fun _ _ => ofLine_eq_iff⟩
  case logged =>
    exact ⟨c.display, Line.text_launched p c, ofLine_display_iff.2 (isPlain_of_ofLine read)⟩
  case normal =>
    obtain ⟨shown, h⟩ := exists_normalize h
    exact ⟨shown, h, ofLine_of_normalize h⟩

end Command

end PidOne
