import Mathlib.Logic.ExistsUnique
import PidOne.Proofs.Phases

/-!
# Words and gaps

A text is a gap, then words, each with a gap after it, in one way only. Splitting a text gives just
these words, so nothing but blank characters is lost, and no character gets into another word.
-/

namespace PidOne.Text

def IsGap (cs : List Char) : Prop := ∀ c ∈ cs, isBlank c = true

def IsWord (cs : List Char) : Prop := cs ≠ [] ∧ ∀ c ∈ cs, isBlank c = false

/-- The gap at the beginning, and the words, each with the gap after it. -/
structure Spacing where
  lead : List Char
  parts : List (List Char × List Char)

namespace Spacing

def text (s : Spacing) : List Char := s.lead ++ s.parts.flatMap fun p => p.1 ++ p.2

def words (s : Spacing) : List (List Char) := s.parts.map Prod.fst

/-- Words do not touch: only the last one may have nothing after it. -/
structure IsProper (s : Spacing) : Prop where
  lead : IsGap s.lead
  words : ∀ p ∈ s.parts, IsWord p.1
  gaps : ∀ p ∈ s.parts, IsGap p.2
  apart : ∀ p ∈ s.parts.dropLast, p.2 ≠ []

theorem text_cons (lead w g : List Char) (ps : List (List Char × List Char)) :
    text ⟨lead, (w, g) :: ps⟩ = lead ++ (w ++ text ⟨g, ps⟩) := by
  simp [text]

theorem isProper_nil {lead : List Char} : IsProper ⟨lead, []⟩ ↔ IsGap lead := by
  constructor
  · exact IsProper.lead
  · intro h
    exact ⟨h, nofun, nofun, nofun⟩

theorem isProper_cons {lead w g : List Char} {ps : List (List Char × List Char)} :
    IsProper ⟨lead, (w, g) :: ps⟩ ↔
      IsGap lead ∧ IsWord w ∧ (g = [] → ps = []) ∧ IsProper ⟨g, ps⟩ := by
  have apart : (∀ p ∈ ((w, g) :: ps).dropLast, p.2 ≠ []) ↔
      (g = [] → ps = []) ∧ ∀ p ∈ ps.dropLast, p.2 ≠ [] := by
    cases ps <;> simp
  constructor
  · rintro ⟨gap, words, gaps, h⟩
    rw [List.forall_mem_cons] at words gaps
    rw [apart] at h
    exact ⟨gap, words.1, h.1, gaps.1, words.2, gaps.2, h.2⟩
  · rintro ⟨gap, word, starts, rest⟩
    exact ⟨gap, List.forall_mem_cons.2 ⟨word, rest.words⟩,
      List.forall_mem_cons.2 ⟨rest.lead, rest.gaps⟩, apart.2 ⟨starts, rest.apart⟩⟩

/-- With one more character in front, which is not blank. -/
def lengthen (c : Char) : Spacing → Spacing
  | ⟨[], (w, g) :: ps⟩ => ⟨[], (c :: w, g) :: ps⟩
  | ⟨g, ps⟩ => ⟨[], ([c], g) :: ps⟩

def push (c : Char) (s : Spacing) : Spacing :=
  if isBlank c then { s with lead := c :: s.lead } else s.lengthen c

def ofText (cs : List Char) : Spacing := cs.foldr push ⟨[], []⟩

/-- What one more character does to a spacing. -/
inductive Pushes (c : Char) : Spacing → Spacing → Prop
  | gap (blank : isBlank c = true) : Pushes c ⟨g, ps⟩ ⟨c :: g, ps⟩
  | word (solid : isBlank c = false) : Pushes c ⟨[], (w, g) :: ps⟩ ⟨[], (c :: w, g) :: ps⟩
  /-- A character that is not followed by a word is a word. -/
  | start (solid : isBlank c = false) (starts : g = [] → ps = []) :
    Pushes c ⟨g, ps⟩ ⟨[], ([c], g) :: ps⟩

variable {s r : Spacing} {c : Char} {cs : List Char}

theorem pushes_push (c : Char) (s : Spacing) : Pushes c s (s.push c) := by
  unfold push
  split
  · exact .gap ‹_›
  · have solid : isBlank c = false := Bool.eq_false_iff.2 ‹_›
    rcases s with ⟨_ | ⟨d, lead⟩, _ | ⟨⟨w, g⟩, parts⟩⟩
    · exact .start solid fun _ => rfl
    · exact .word solid
    · exact .start solid nofun
    · exact .start solid nofun

theorem Pushes.eq (h : Pushes c s r) : s.push c = r := by
  cases h with
  | gap blank => simp [push, blank]
  | word solid => simp [push, solid, lengthen]
  | @start g ps solid starts =>
    cases g with
    | nil => simp [push, solid, lengthen, starts rfl]
    | cons d g => simp [push, solid, lengthen]

theorem Pushes.text (h : Pushes c s r) : r.text = c :: s.text := by
  cases h with
  | gap => rfl
  | word => rfl
  | start => simp [Spacing.text]

@[simp] theorem text_ofText (cs : List Char) : (ofText cs).text = cs := by
  induction cs with
  | nil => rfl
  | cons c cs ih => rw [ofText, List.foldr_cons, (pushes_push ..).text, ← ofText, ih]

theorem IsProper.push (h : s.IsProper) (pushes : Pushes c s r) : r.IsProper := by
  cases pushes with
  | gap blank => exact { h with lead := List.forall_mem_cons.2 ⟨blank, h.lead⟩ }
  | word solid =>
    obtain ⟨_, word, starts, rest⟩ := isProper_cons.1 h
    have longer : IsWord (c :: _) := ⟨nofun, List.forall_mem_cons.2 ⟨solid, word.2⟩⟩
    exact isProper_cons.2 ⟨nofun, longer, starts, rest⟩
  | start solid starts =>
    have word : IsWord [c] := ⟨nofun, by simpa using solid⟩
    exact isProper_cons.2 ⟨nofun, word, starts, h⟩

theorem isProper_ofText (cs : List Char) : (ofText cs).IsProper := by
  induction cs with
  | nil => exact isProper_nil.2 nofun
  | cons c cs ih => exact ih.push (pushes_push c _)

/-- Without its first character a proper spacing is proper still. -/
theorem IsProper.pop (h : s.IsProper) (first : s.text = c :: cs) :
    ∃ r : Spacing, r.IsProper ∧ r.text = cs ∧ Pushes c r s := by
  rcases s with ⟨_ | ⟨d, lead⟩, ps⟩
  case cons =>
    obtain ⟨blank, rest⟩ := List.forall_mem_cons.1 h.lead
    obtain ⟨rfl, rfl⟩ := List.cons.inj first
    exact ⟨⟨lead, ps⟩, { h with lead := rest }, rfl, .gap blank⟩
  case nil =>
    rcases ps with _ | ⟨⟨w, g⟩, ps⟩
    case nil => cases first
    case cons =>
      obtain ⟨_, ⟨some, solid⟩, starts, rest⟩ := isProper_cons.1 h
      rw [text_cons, List.nil_append] at first
      rcases w with _ | ⟨d, _ | ⟨d', w⟩⟩
      case nil => exact absurd rfl some
      case cons.nil =>
        obtain ⟨rfl, rfl⟩ := List.cons.inj first
        exact ⟨⟨g, ps⟩, rest, rfl, .start (solid d (by simp)) starts⟩
      case cons.cons =>
        obtain ⟨rfl, rfl⟩ := List.cons.inj first
        rw [List.forall_mem_cons] at solid
        have shorter : IsWord (d' :: w) := ⟨nofun, solid.2⟩
        exact ⟨⟨[], (d' :: w, g) :: ps⟩, isProper_cons.2 ⟨nofun, shorter, starts, rest⟩,
          text_cons .., .word solid.1⟩

theorem IsProper.eq_nil (h : s.IsProper) (none : s.text = []) : s = ⟨[], []⟩ := by
  rcases s with ⟨lead, _ | ⟨⟨w, g⟩, ps⟩⟩
  case nil =>
    obtain rfl : lead = [] := by simpa [text] using none
    rfl
  case cons =>
    obtain ⟨_, word, _⟩ := isProper_cons.1 h
    simp [text_cons, word.1] at none

/-- There is no other proper spacing of a text. -/
theorem IsProper.ofText_eq (h : s.IsProper) (spells : s.text = cs) : ofText cs = s := by
  induction cs generalizing s with
  | nil => rw [h.eq_nil spells, ofText, List.foldr_nil]
  | cons c cs ih =>
    obtain ⟨r, proper, rest, pushes⟩ := h.pop spells
    rw [ofText, List.foldr_cons, ← ofText, ih proper rest, pushes.eq]

/-- What is not blank is in a word, in the same order. -/
theorem IsProper.filter_text (h : s.IsProper) :
    s.text.filter (fun c => !isBlank c) = s.words.flatten := by
  rcases s with ⟨lead, ps⟩
  induction ps generalizing lead with
  | nil =>
    have none : lead.filter (fun c => !isBlank c) = [] := by simpa [IsGap] using h.lead
    rw [text, List.flatMap_nil, List.append_nil, none]
    rfl
  | cons p ps ih =>
    obtain ⟨w, g⟩ := p
    obtain ⟨gap, word, _, rest⟩ := isProper_cons.1 h
    have none : lead.filter (fun c => !isBlank c) = [] := by simpa [IsGap] using gap
    have all : w.filter (fun c => !isBlank c) = w := by simpa using word.2
    rw [text_cons, List.filter_append, List.filter_append, none, all, ih g rest]
    rfl

end Spacing

theorem prepend_gap {c d : Char} {cs : List Char} {ws : List (List Char)}
    (blank : isBlank d = true) : prepend c (d :: cs) ws = [c] :: ws := by
  cases ws <;> simp [prepend, blank]

theorem prepend_word {c d : Char} {cs w : List Char} {ws : List (List Char)}
    (solid : isBlank d = false) : prepend c (d :: cs) (w :: ws) = (c :: w) :: ws := by
  simp [prepend, solid]

/-- The words of a text are those of its proper spacing. -/
theorem words_eq {s : Spacing} {cs : List Char} (h : s.IsProper) (spells : s.text = cs) :
    words cs = s.words := by
  induction cs generalizing s with
  | nil =>
    rw [h.eq_nil spells]
    rfl
  | cons c cs ih =>
    obtain ⟨r, proper, rfl, pushes⟩ := h.pop spells
    have ih := ih proper rfl
    cases pushes with
    | gap blank =>
      rw [words, if_pos blank, ih]
      rfl
    | @word w g ps solid =>
      obtain ⟨_, word, _⟩ := Spacing.isProper_cons.1 proper
      obtain ⟨d, w, rfl⟩ := List.exists_cons_of_ne_nil word.1
      have front : isBlank d = false := word.2 d (by simp)
      rw [words, if_neg (Bool.eq_false_iff.1 solid), ih]
      exact prepend_word front
    | @start g ps solid starts =>
      rw [words, if_neg (Bool.eq_false_iff.1 solid), ih]
      cases g with
      | nil =>
        rw [starts rfl]
        rfl
      | cons d g => exact prepend_gap (proper.lead d (by simp))

theorem exists_spacing (cs : List Char) :
    ∃ s : Spacing, s.IsProper ∧ s.text = cs ∧ words cs = s.words := by
  have proper := Spacing.isProper_ofText cs
  have spells := Spacing.text_ofText cs
  exact ⟨_, proper, spells, words_eq proper spells⟩

end PidOne.Text

namespace PidOne.Command

open Text

/-- The program and the arguments. -/
def words (c : Command) : List (List Char) := (c.program :: c.arguments).map String.toList

theorem ofWords?_eq_some_iff {ws : List (List Char)} {c : Command} :
    ofWords? ws = some c ↔ ws = c.words := by
  constructor
  · intro h
    cases ws with
    | nil => cases h
    | cons w ws =>
      cases h
      simp [words, Function.comp_def]
  · rintro rfl
    simp [words, ofWords?, Function.comp_def]

theorem ofLine?_eq_some_iff {line : String} {c : Command} :
    ofLine? line = some c ↔ Text.words line.toList = c.words := ofWords?_eq_some_iff

theorem ofLine_eq_ok_iff {line : String} {c : Command} :
    ofLine line = .ok c ↔ ofLine? line = some c := by
  rw [ofLine]
  cases ofLine? line <;> simp

theorem ofLine_eq_error_iff {line : String} {f : Failure} :
    ofLine line = .error f ↔ f = .emptyCommand ∧ Blank line := by
  rw [ofLine, ← ofLine?_eq_none_iff]
  cases ofLine? line <;> simp [eq_comm]

/-- How a line is read as a command. -/
structure Tokenized (line : String) : Prop where
  refused : ∀ f, ofLine line = .error f ↔ f = .emptyCommand ∧ Blank line
  absent : ofLine? line = none ↔ Blank line
  present : ∀ c, ofLine? line = some c ↔ ofLine line = .ok c
  /-- The line is a gap and words with gaps after them, in one way. -/
  spaced : ∃! s : Spacing, s.IsProper ∧ s.text = line.toList
  words : ∀ c, ofLine line = .ok c ↔
    ∃ s : Spacing, s.IsProper ∧ s.text = line.toList ∧ s.words = c.words
  /-- Nothing else than blank characters is left out, and nothing is put anywhere else. -/
  kept : ∀ c, ofLine line = .ok c → c.words.flatten = line.toList.filter fun x => !isBlank x

theorem splits_at_blanks (line : String) : Tokenized line := by
  obtain ⟨s, proper, spells, hwords⟩ := exists_spacing line.toList
  have unique (r : Spacing) (h : r.IsProper ∧ r.text = line.toList) : r = s :=
    (h.1.ofText_eq h.2).symm.trans (proper.ofText_eq spells)
  have words c : ofLine line = .ok c ↔
      ∃ s : Spacing, s.IsProper ∧ s.text = line.toList ∧ s.words = c.words := by
    rw [ofLine_eq_ok_iff, ofLine?_eq_some_iff, hwords]
    constructor
    · intro h
      exact ⟨s, proper, spells, h⟩
    · rintro ⟨r, proper', spells', h⟩
      rw [← h, unique r ⟨proper', spells'⟩]
  refine ⟨fun _ => ofLine_eq_error_iff, ofLine?_eq_none_iff, fun _ => ofLine_eq_ok_iff.symm,
    ⟨s, ⟨proper, spells⟩, unique⟩, words, fun c h => ?_⟩
  obtain ⟨r, proper', spells', h⟩ := (words c).1 h
  rw [← h, ← spells', proper'.filter_text]

/-- Quotes are kept, and what only looks like a blank character is none. -/
example : ofLine? " sh\u00a0-c \"a\u200bb  c\"" = some ⟨"sh", ["-c", "\"a\u200bb", "c\""]⟩ := by
  decide

end PidOne.Command
