import Mathlib
import PidOne.Signal

/-!
# Names of signals

Every number has a name of one of four forms, and is read back from it. So no two numbers have the
same name, whether they are numbers of signals or not.
-/

namespace PidOne.Signal

/-- The form of a name goes by the number. -/
inductive Named : Signal → String → Prop
  | standard {s : Int} {text : String} (least : 1 ≤ s) (greatest : s ≤ 31)
    (known : standardName? s = some text) : Named s text
  | first : Named realtimeMin "SIGRTMIN"
  | realtime {s : Int} (above : realtimeMin < s) (inside : s ≤ realtimeMax) :
    Named s s!"SIGRTMIN+{s - realtimeMin}"
  | number {s : Int} (other : s < 1 ∨ 31 < s ∧ s < realtimeMin ∨ realtimeMax < s) :
    Named s s!"signal {s}"

theorem isStandard_natCast : ∀ n : Nat, n < 32 → 1 ≤ n → isStandard n = true := by decide

theorem isStandard_iff {s : Int} : isStandard s = true ↔ 1 ≤ s ∧ s ≤ 31 := by
  constructor
  · unfold isStandard standardName?
    -- One case for each row of the table, and the last one for all that is not in it.
    split
    case h_32 => nofun
    all_goals
      intro _
      decide
  · rintro ⟨least, greatest⟩
    obtain ⟨n, rfl⟩ := Int.eq_ofNat_of_zero_le (by omega : 0 ≤ s)
    exact isStandard_natCast n (by omega) (by omega)

theorem isRealtime_iff {s : Int} : isRealtime s = true ↔ realtimeMin ≤ s ∧ s ≤ realtimeMax := by
  rw [isRealtime, Bool.and_eq_true, decide_eq_true_iff, decide_eq_true_iff]

theorem named (s : Int) : Named s (name s) := by
  unfold name
  split
  case h_1 text known =>
    have standard : isStandard s = true := by rw [isStandard, known, Option.isSome_some]
    obtain ⟨least, greatest⟩ := isStandard_iff.1 standard
    exact .standard least greatest known
  case h_2 unknown =>
    split
    case isTrue inside =>
      obtain ⟨least, greatest⟩ := isRealtime_iff.1 inside
      split
      case isTrue first =>
        rw [first]
        exact .first
      case isFalse later => exact .realtime (lt_of_le_of_ne least (Ne.symm later)) greatest
    case isFalse outside =>
      have notStandard : ¬isStandard s = true := by rw [isStandard, unknown]; nofun
      rw [isStandard_iff] at notStandard
      rw [isRealtime_iff] at outside
      change ¬(34 ≤ s ∧ s ≤ 64) at outside
      apply Named.number
      change s < 1 ∨ 31 < s ∧ s < 34 ∨ 64 < s
      omega

/-- At the ends of the real-time range. -/
example : [33, 34, 64, 65].map name = ["signal 33", "SIGRTMIN", "SIGRTMIN+30", "signal 65"] := by
  decide +kernel

/-- The number that a name stands for. No standard name begins like one of the others. -/
def ofName? (text : List Char) : Option Signal :=
  match text.dropPrefix? "signal ".toList with
  | some number => (String.ofList number).toInt?
  | none =>
    match text.dropPrefix? "SIGRTMIN".toList with
    | some [] => some realtimeMin
    | some (_ :: offset) => (String.ofList offset).toInt?.map (realtimeMin + ·)
    | none => ((List.range 32).find? fun (n : Nat) => (name n).toList == text).map Int.ofNat

theorem ofName?_natCast : ∀ n : Nat, n < 32 → 1 ≤ n → ofName? (name n).toList = some (n : Int) := by
  decide +kernel

theorem Named.ofName? {s : Int} {text : String} (h : Named s text) :
    ofName? text.toList = some s := by
  cases h with
  | standard least greatest known =>
    have name : name s = text := by rw [name, known]
    obtain ⟨n, rfl⟩ := Int.eq_ofNat_of_zero_le (by omega : 0 ≤ s)
    rw [← name]
    exact ofName?_natCast n (by omega) (by omega)
  | first => decide +kernel
  | realtime =>
    have text : (s!"SIGRTMIN+{s - realtimeMin}").toList =
        "SIGRTMIN".toList ++ '+' :: (s - realtimeMin).repr.toList := by
      simp only [toString, String.toList_append]
      rfl
    have notNumber : ("SIGRTMIN".toList ++ '+' :: (s - realtimeMin).repr.toList).dropPrefix?
        "signal ".toList = none := by
      simp [List.dropPrefix?]
    have back : realtimeMin + (s - realtimeMin) = s := add_sub_cancel realtimeMin s
    rw [text, Signal.ofName?, notNumber]
    simp only [List.dropPrefix?_append_of_beq _ BEq.rfl, String.ofList_toList, Int.toInt?_repr,
      Option.map_some, back]
  | number =>
    have text : (s!"signal {s}").toList = "signal ".toList ++ s.repr.toList := by
      simp only [toString, String.toList_append]
    rw [text, Signal.ofName?, List.dropPrefix?_append_of_beq _ BEq.rfl]
    simp only [String.ofList_toList, Int.toInt?_repr]

theorem ofName?_name (s : Signal) : ofName? s.name.toList = some s := (named s).ofName?

theorem name_injective : Function.Injective name := by
  intro s s' h
  have same := congrArg (fun text : String => ofName? text.toList) h
  simpa only [ofName?_name, Option.some_inj] using same

end PidOne.Signal
