import PidOne.ExitStatus
import PidOne.Machine.Process

/-!
# Decoding of statuses

Of the word that the kernel reports only the low seven bits and the second byte are read. The
former tell an exit, a signal and everything else apart.
-/

namespace PidOne

namespace RawStatus

variable {raw raw' : RawStatus}

/-- The low seven bits. -/
def mark (raw : RawStatus) : BitVec 7 := raw.toBitVec.extractLsb' 0 7

/-- The bits from 8 to 15. -/
def byte (raw : RawStatus) : BitVec 8 := raw.toBitVec.extractLsb' 8 8

def bit (raw : RawStatus) (i : Nat) : Bool := raw.toBitVec.getLsbD i

theorem and_mask {w : Nat} (x : BitVec w) (k : Nat) :
    x &&& (BitVec.allOnes k).setWidth w = (x.setWidth k).setWidth w := by
  apply BitVec.eq_of_getLsbD_eq
  intro i hi
  simp [hi, Bool.and_comm]

theorem termination_eq (raw : RawStatus) :
    raw.termination = .ofBitVec (raw.mark.setWidth 32) := by
  apply Int32.toBitVec_inj.1
  rw [termination, Int32.toBitVec_and]
  exact and_mask _ 7

/-- The sign that is shifted in is above the byte. -/
theorem setWidth_shiftRight (raw : RawStatus) : (raw >>> 8).toBitVec.setWidth 8 = raw.byte := by
  have shifted : (raw >>> 8).toBitVec = raw.toBitVec.sshiftRight 8 :=
    Int32.toBitVec_shiftRight ..
  apply BitVec.eq_of_getLsbD_eq
  intro i hi
  have inside : 8 + i < 32 := by omega
  have known : ¬32 ≤ i := by omega
  simp [shifted, byte, BitVec.getLsbD_sshiftRight, hi, inside, known]

theorem exitCode_eq (raw : RawStatus) : raw.exitCode = .ofBitVec (raw.byte.setWidth 32) := by
  apply Int32.toBitVec_inj.1
  rw [exitCode, Int32.toBitVec_and, Int32.toBitVec_ofBitVec, ← setWidth_shiftRight]
  exact and_mask _ 8

theorem hasExited_iff : raw.hasExited = true ↔ raw.mark.toNat = 0 := by
  rw [hasExited, termination_eq]
  generalize raw.mark = m
  revert m
  decide +kernel

/-- After the greatest mark the signed byte is negative, and shifting keeps its sign. -/
theorem wasSignaled_iff :
    raw.wasSignaled = true ↔ 0 < raw.mark.toNat ∧ raw.mark.toNat < 127 := by
  rw [wasSignaled, termination_eq]
  generalize raw.mark = m
  revert m
  decide +kernel

theorem toInt_setWidth {k : Nat} (x : BitVec k) (short : k ≤ 8) :
    (Int32.ofBitVec (x.setWidth 32)).toInt = x.toNat := by
  have kept : (x.setWidth 32).toNat = x.toNat := BitVec.toNat_setWidth_of_le (by omega)
  have small : x.toNat < 2 ^ 8 := Nat.lt_of_lt_of_le x.isLt (Nat.pow_le_pow_right (by omega) short)
  rw [Int32.toInt_ofBitVec, BitVec.toInt_eq_toNat_of_lt (by omega), kept]

theorem toInt_termination (raw : RawStatus) : raw.termination.toInt = raw.mark.toNat := by
  rw [termination_eq, toInt_setWidth _ (by omega)]

theorem toInt_exitCode (raw : RawStatus) : raw.exitCode.toInt = raw.byte.toNat := by
  rw [exitCode_eq, toInt_setWidth _ (by omega)]

theorem mark_congr (h : ∀ i < 16, i ≠ 7 → raw.bit i = raw'.bit i) : raw.mark = raw'.mark := by
  apply BitVec.eq_of_getLsbD_eq
  intro i hi
  have same := h i (by omega) (by omega)
  simpa [mark, bit, hi] using same

theorem byte_congr (h : ∀ i < 16, i ≠ 7 → raw.bit i = raw'.bit i) : raw.byte = raw'.byte := by
  apply BitVec.eq_of_getLsbD_eq
  intro i hi
  have same := h (8 + i) (by omega) (by omega)
  simpa [byte, bit, hi] using same

end RawStatus

/-- What ends a process. -/
inductive Manner
  | exit (code : Nat) (fits : code < 256)
  | kill (signal : Nat) (isFatal : 0 < signal ∧ signal < 127) (dumpsCore : Bool)

namespace Manner

/-- The word by which the kernel tells. -/
def raw : Manner → RawStatus
  | exit code _ => Machine.exitRaw code
  | kill signal _ dumpsCore => Machine.signalRaw signal ||| if dumpsCore then 0x80 else 0

def status (pid : Pid) : Manner → ExitStatus
  | exit code _ => ⟨pid, some code, none⟩
  | kill signal _ _ => ⟨pid, none, some signal⟩

end Manner

namespace RawStatus

theorem toNat_exitRaw (code : Nat) :
    (Machine.exitRaw code).toBitVec.toNat = code % 256 * 256 := by
  rw [Machine.exitRaw, Int32.toBitVec_ofNat', BitVec.toNat_ofNat]
  omega

theorem mark_exitRaw (code : Nat) : (Machine.exitRaw code).mark.toNat = 0 := by
  rw [mark, BitVec.extractLsb'_toNat, toNat_exitRaw, Nat.shiftRight_zero]
  omega

theorem byte_exitRaw {code : Nat} (fits : code < 256) :
    (Machine.exitRaw code).byte.toNat = code := by
  rw [byte, BitVec.extractLsb'_toNat, toNat_exitRaw, Nat.shiftRight_eq_div_pow]
  omega

theorem mark_signalRaw {signal : Nat} (small : signal < 127) :
    (Machine.signalRaw signal).mark.toNat = signal := by
  rw [mark, BitVec.extractLsb'_toNat, Machine.signalRaw, Int32.toBitVec_ofInt,
    BitVec.ofInt_natCast, BitVec.toNat_ofNat, Nat.shiftRight_zero]
  omega

/-- A core dump is not marked in the low seven bits. -/
theorem mark_or_dumped (raw : RawStatus) (dumpsCore : Bool) :
    (raw ||| if dumpsCore then 0x80 else 0).mark = raw.mark := by
  have apart : (if dumpsCore then 0x80 else 0 : RawStatus).mark = 0 := by
    cases dumpsCore <;> rfl
  rw [mark] at apart
  rw [mark, Int32.toBitVec_or, BitVec.extractLsb'_or, apart, mark]
  exact BitVec.or_zero

end RawStatus

namespace ExitStatus

variable {pid : Pid} {raw raw' : RawStatus}

/-- What is made of a word, by its low seven bits. -/
inductive Decodes (pid : Pid) (raw : RawStatus) : Option ExitStatus → Prop
  | exit (zero : raw.mark.toNat = 0) : Decodes pid raw (some ⟨pid, some raw.byte.toNat, none⟩)
  | kill (pos : 0 < raw.mark.toNat) (least : raw.mark.toNat < 127) :
    Decodes pid raw (some ⟨pid, none, some raw.mark.toNat⟩)
  | other (top : raw.mark.toNat = 127) : Decodes pid raw none

theorem decodes_ofRaw? (pid : Pid) (raw : RawStatus) : Decodes pid raw (ofRaw? pid raw) := by
  unfold ofRaw?
  split
  case isTrue exited =>
    rw [RawStatus.toInt_exitCode]
    exact .exit (RawStatus.hasExited_iff.1 exited)
  case isFalse exited =>
    split
    case isTrue signaled =>
      obtain ⟨pos, least⟩ := RawStatus.wasSignaled_iff.1 signaled
      rw [RawStatus.toInt_termination]
      exact .kill pos least
    case isFalse signaled =>
      have pos : raw.mark.toNat ≠ 0 := fun h => exited (RawStatus.hasExited_iff.2 h)
      have least : ¬raw.mark.toNat < 127 := fun h =>
        signaled (RawStatus.wasSignaled_iff.2 ⟨Nat.pos_of_ne_zero pos, h⟩)
      have bound : raw.mark.toNat < 128 := raw.mark.isLt
      exact .other (by omega)

theorem ofRaw?_congr (mark : raw.mark = raw'.mark) (byte : raw.byte = raw'.byte) :
    ofRaw? pid raw = ofRaw? pid raw' := by
  simp only [ofRaw?, RawStatus.hasExited, RawStatus.wasSignaled, RawStatus.termination_eq,
    RawStatus.exitCode_eq, mark, byte]

namespace Decodes

variable {r : Option ExitStatus} {s : ExitStatus}

theorem eq_exit_iff (h : Decodes pid raw r) {code : Int} :
    r = some ⟨pid, some code, none⟩ ↔ raw.mark.toNat = 0 ∧ code = raw.byte.toNat := by
  cases h with
  | exit zero => simp [zero, eq_comm]
  | kill pos => simp [Nat.ne_of_gt pos]
  | other top => simp [top]

theorem eq_kill_iff (h : Decodes pid raw r) {signal : Signal} :
    r = some ⟨pid, none, some signal⟩ ↔
      (0 < raw.mark.toNat ∧ raw.mark.toNat < 127) ∧ signal = raw.mark.toNat := by
  cases h with
  | exit zero => simp [zero]
  | kill pos least => simp [pos, least, eq_comm]
  | other top => simp [top]

theorem eq_none_iff (h : Decodes pid raw r) : r = none ↔ raw.mark.toNat = 127 := by
  cases h with
  | exit zero => simp [zero]
  | kill _ least => simp [Nat.ne_of_lt least]
  | other top => simp [top]

theorem one (h : Decodes pid raw (some s)) :
    s.pid = pid ∧ (s.code.isSome = true ↔ s.signal = none) := by
  cases h <;> simp

theorem verdict (h : Decodes pid raw (some s)) :
    (s.outcome.exitedNormally = true ↔ raw.mark.toNat = 0) ∧
    (s.outcome.success = true ↔ raw.mark.toNat = 0 ∧ raw.byte.toNat = 0) := by
  cases h with
  | exit zero => simp [outcome, exitedNormally, success, zero]
  | kill pos => simp [outcome, exitedNormally, success, Nat.ne_of_gt pos]

end Decodes

/-- How a word is decoded. -/
structure Decoded (pid : Pid) (raw : RawStatus) : Prop where
  exit : ∀ code, ofRaw? pid raw = some ⟨pid, some code, none⟩ ↔
    raw.mark.toNat = 0 ∧ code = raw.byte.toNat
  kill : ∀ signal, ofRaw? pid raw = some ⟨pid, none, some signal⟩ ↔
    (0 < raw.mark.toNat ∧ raw.mark.toNat < 127) ∧ signal = raw.mark.toNat
  other : ofRaw? pid raw = none ↔ raw.mark.toNat = 127
  one : ∀ s, ofRaw? pid raw = some s → s.pid = pid ∧ (s.code.isSome = true ↔ s.signal = none)
  /-- Bits from 16 on and the one of the core dump make no difference. -/
  unread : ∀ raw', (∀ i < 16, i ≠ 7 → raw.bit i = raw'.bit i) → ofRaw? pid raw = ofRaw? pid raw'
  verdict : ∀ s, ofRaw? pid raw = some s →
    (s.outcome.exitedNormally = true ↔ raw.mark.toNat = 0) ∧
    (s.outcome.success = true ↔ raw.mark.toNat = 0 ∧ raw.byte.toNat = 0)

theorem decoded (pid : Pid) (raw : RawStatus) : Decoded pid raw := by
  have decodes := decodes_ofRaw? pid raw
  exact {
    exit := fun _ => decodes.eq_exit_iff
    kill := fun _ => decodes.eq_kill_iff
    other := decodes.eq_none_iff
    one := fun _ h => (h ▸ decodes).one
    unread := fun _ h => ofRaw?_congr (RawStatus.mark_congr h) (RawStatus.byte_congr h)
    verdict := fun _ h => (h ▸ decodes).verdict }

theorem ofRaw?_raw (pid : Pid) (m : Manner) : ofRaw? pid m.raw = some (m.status pid) := by
  cases m with
  | exit code fits =>
    apply (decodes_ofRaw? ..).eq_exit_iff.2
    rw [Manner.raw, RawStatus.mark_exitRaw, RawStatus.byte_exitRaw fits]
    exact ⟨rfl, rfl⟩
  | kill signal isFatal dumpsCore =>
    apply (decodes_ofRaw? ..).eq_kill_iff.2
    rw [Manner.raw, RawStatus.mark_or_dumped, RawStatus.mark_signalRaw isFatal.2]
    exact ⟨isFatal, rfl⟩

/-- Statuses are decoded by their low seven bits, and what has been encoded comes back. -/
theorem decodes_raw_statuses :
    (∀ pid raw, Decoded pid raw) ∧
    ∀ (pid : Pid) (m : Manner), ofRaw? pid m.raw = some (m.status pid) :=
  ⟨decoded, ofRaw?_raw⟩

/-- A negative word, in which the core dump is marked. -/
example : ofRaw? 42 (-121) = some ⟨42, none, some 7⟩ := by decide

end ExitStatus

end PidOne
