import Mathlib.Logic.Function.Basic
import PidOne.Table.Pass
import PidOne.Table.Spawning

/-!
# The kernel's children

Every child that the process has ever had, under a number of its own. The kernel gives out a PID
again as soon as the child that had it has been collected, so PIDs name children only for a time.
-/

namespace PidOne

/-- Whether a report is of a termination does not depend on the PID in it. -/
theorem ExitStatus.isSome_ofRaw? (pid q : Pid) (raw : RawStatus) :
    (ExitStatus.ofRaw? pid raw).isSome = (ExitStatus.ofRaw? q raw).isSome := by
  simp only [ExitStatus.ofRaw?]
  split
  · rfl
  · split <;> rfl

theorem ExitStatus.pid_of_ofRaw? {pid : Pid} {raw : RawStatus} {status : ExitStatus}
    (h : ExitStatus.ofRaw? pid raw = some status) : status.pid = pid := by
  simp only [ExitStatus.ofRaw?] at h
  split at h
  · cases h
    rfl
  · split at h <;> cases h
    rfl

namespace Kernel

abbrev ChildId := Nat

/-- A raw status with which a process can end. -/
structure Ending where
  raw : RawStatus
  isTermination : (ExitStatus.ofRaw? 0 raw).isSome

def Ending.status (e : Ending) (pid : Pid) : ExitStatus :=
  (ExitStatus.ofRaw? pid e.raw).get (ExitStatus.isSome_ofRaw? 0 pid e.raw ▸ e.isTermination)

@[simp] theorem Ending.ofRaw?_raw (e : Ending) (pid : Pid) :
    ExitStatus.ofRaw? pid e.raw = some (e.status pid) := by
  simp [Ending.status]

@[simp] theorem Ending.pid_status (e : Ending) (pid : Pid) : (e.status pid).pid = pid :=
  ExitStatus.pid_of_ofRaw? (e.ofRaw?_raw pid)

def Ending.success : Ending := ⟨0, by decide⟩

def Ending.failure : Ending := ⟨256, by decide⟩

inductive Life
  | running
  | ended (ending : Ending)
  /-- A pass has collected it. -/
  | collected (ending : Ending)
  /-- The start that forked it has collected it again. -/
  | discarded

/-- The kernel keeps the PID of a child until the child is collected. -/
def Life.isOver : Life → Bool
  | .running | .ended _ => false
  | .collected _ | .discarded => true

def Life.answer? (pid : Pid) : Life → Option (Except Failure ExitStatus)
  | .collected e => some (.ok (e.status pid))
  | _ => none

structure Child where
  pid : Pid
  /-- Whether a start has forked it. Orphans come from elsewhere. -/
  own : Bool
  life : Life

/-- The children by their numbers. A number is never used twice. -/
abbrev Children := ChildId → Option Child

def Children.set (k : Children) (i : ChildId) (c : Child) : Children :=
  Function.update k i (some c)

@[simp] theorem Children.set_self (k : Children) (i : ChildId) (c : Child) :
    k.set i c i = some c := Function.update_self ..

theorem Children.set_of_ne {i j : ChildId} (h : j ≠ i) (k : Children) (c : Child) :
    k.set i c j = k j := Function.update_of_ne h ..

theorem Children.set_apply (k : Children) (i j : ChildId) (c : Child) :
    k.set i c j = if j = i then some c else k j := Function.update_apply ..

@[simp] theorem Children.set_set (k : Children) (i : ChildId) (c d : Child) :
    (k.set i c).set i d = k.set i d := Function.update_idem ..

theorem Children.of_set {k : Children} {i j : ChildId} {c d : Child} (h : k.set i c j = some d) :
    j = i ∧ c = d ∨ j ≠ i ∧ k j = some d := by
  rw [Children.set_apply] at h
  split at h
  · exact .inl ⟨‹_›, Option.some.inj h⟩
  · exact .inr ⟨‹_›, h⟩

/-- No child that the kernel still keeps has this PID. -/
def Children.Free (k : Children) (pid : Pid) : Prop :=
  ∀ i c, k i = some c → c.pid = pid → c.life.isOver

def Children.NoneEnded (k : Children) : Prop := ∀ i c e, k i = some c → c.life ≠ .ended e

/-- What happens to the children while a start goes on, before and after whose step it has forked
the numbered child or none. -/
inductive Starts (k : Children) :
    Option ChildId → Spawning.Event → Option ChildId → Children → Prop
  | lock : Starts k child .lock child k
  | fork (fresh : k i = none) (free : k.Free pid) :
    Starts k none (.fork (.ok pid)) (some i) (k.set i ⟨pid, true, .running⟩)
  | refuse : Starts k none (.fork (.error cause)) none k
  | exec : Starts k child (.exec refusal) child k
  | discard (known : k i = some c) (ended : c.life = .ended e) :
    Starts k (some i) .discard (some i) (k.set i { c with life := .discarded })
  | register : Starts k child .register child k
  | unlock : Starts k child .unlock child k

/-- How the kernel answers a pass, and which child the pass collects with the answer. It says that
no child is ready, or that there is none, only when no child has ended. -/
inductive Answers (k : Children) : WaitAnswer → Option ChildId → Children → Prop
  | ended (known : k i = some c) (ended : c.life = .ended e) :
    Answers k (.report c.pid e.raw) (some i) (k.set i { c with life := .collected e })
  | changed (known : k i = some c) (running : c.life = .running)
    (noTermination : ExitStatus.ofRaw? c.pid raw = none) : Answers k (.report c.pid raw) none k
  | interrupted : Answers k .interrupted none k
  | noneReady (h : k.NoneEnded) : Answers k .noneReady none k
  | noChildren (h : k.NoneEnded) : Answers k .noChildren none k
  | failed : Answers k (.failed number) none k

inductive Passes (k : Children) : Pass.Event → Option ChildId → Children → Prop
  | lock : Passes k .lock none k
  | wait (h : Answers k answer child k') : Passes k (.wait answer) child k'
  | unlock : Passes k .unlock none k

/-- What the kernel does on its own: a child ends, or a child of somebody else is adopted, which
may have ended already. -/
inductive Event
  | exit (child : ChildId) (ending : Ending)
  | adopt (child : ChildId) (pid : Pid) (ending : Option Ending)

inductive Changes (k : Children) : Event → Children → Prop
  | exit (known : k i = some c) (running : c.life = .running) :
    Changes k (.exit i e) (k.set i { c with life := .ended e })
  | adopt (fresh : k i = none) (free : k.Free pid) :
    Changes k (.adopt i pid ending) (k.set i ⟨pid, false, ending.elim .running .ended⟩)

/-- Of the children that the kernel still keeps no two have the same PID. -/
def Children.Distinct (k : Children) : Prop :=
  ∀ i j c d, k i = some c → k j = some d → c.pid = d.pid → c.life.isOver = false →
    d.life.isOver = false → i = j

variable {k k' : Children} {i j : ChildId} {c : Child}

theorem Children.Distinct.set_new (h : k.Distinct) {pid : Pid} (free : k.Free pid)
    (own : Bool) (life : Life) : (k.set i ⟨pid, own, life⟩).Distinct := by
  intro a b c d ha hb hpid hc hd
  rw [Children.set_apply] at ha hb
  split at ha <;> split at hb
  · simp_all
  · cases ha
    simp [free b d hb hpid.symm] at hd
  · cases hb
    simp [free a c ha hpid] at hc
  · exact h a b c d ha hb hpid hc hd

/-- As its life goes on a child keeps its PID until it is collected. -/
theorem Children.Distinct.set_life (h : k.Distinct) (known : k i = some c)
    (kept : c.life.isOver = false) (life : Life) : (k.set i { c with life }).Distinct := by
  intro a b c' d ha hb hpid hc hd
  rw [Children.set_apply] at ha hb
  split at ha <;> split at hb
  · simp_all
  · cases ha
    subst a
    exact h i b c d known hb hpid kept hd
  · cases hb
    subst b
    exact h a i c' c ha known hpid hc kept
  · exact h a b c' d ha hb hpid hc hd

theorem Starts.distinct {child child' : Option ChildId} {event : Spawning.Event}
    (h : Starts k child event child' k') (hk : k.Distinct) : k'.Distinct := by
  cases h with
  | fork _ free => exact hk.set_new free _ _
  | discard known ended => exact hk.set_life known (by simp [ended, Life.isOver]) _
  | _ => exact hk

/-- A report of a termination collects the child that it is about. -/
theorem Answers.of_status? {answer : WaitAnswer} {collected : Option ChildId}
    {status : ExitStatus} (h : Answers k answer collected k')
    (reported : answer.status? = some status) : ∃ i c e, collected = some i ∧ k i = some c ∧
      c.life = .ended e ∧ status = e.status c.pid ∧
      k' = k.set i { c with life := .collected e } := by
  cases h with
  | @ended i c e known ended =>
    refine ⟨i, c, e, rfl, known, ended, ?_, rfl⟩
    simpa [WaitAnswer.status?, eq_comm] using reported
  | changed _ _ noTermination => simp [WaitAnswer.status?, noTermination] at reported
  | _ => cases reported

theorem Answers.of_status?_eq_none {answer : WaitAnswer} {collected : Option ChildId}
    (h : Answers k answer collected k') (nothing : answer.status? = none) :
    collected = none ∧ k' = k := by
  cases h with
  | ended => simp [WaitAnswer.status?] at nothing
  | _ => exact ⟨rfl, rfl⟩

theorem Answers.distinct {answer : WaitAnswer} {collected : Option ChildId}
    (h : Answers k answer collected k') (hk : k.Distinct) : k'.Distinct := by
  cases h with
  | ended known ended => exact hk.set_life known (by simp [ended, Life.isOver]) _
  | _ => exact hk

theorem Passes.distinct {event : Pass.Event} {child : Option ChildId}
    (h : Passes k event child k') (hk : k.Distinct) : k'.Distinct := by
  cases h with
  | wait h => exact h.distinct hk
  | _ => exact hk

theorem Passes.collects {event : Pass.Event} (h : Passes k event (some i) k') :
    ∃ c, k i = some c ∧ c.life.isOver = false := by
  cases h with
  | wait h =>
    cases h with
    | ended known ended => exact ⟨_, known, by simp [ended, Life.isOver]⟩

theorem Changes.distinct {event : Event} (h : Changes k event k') (hk : k.Distinct) :
    k'.Distinct := by
  cases h with
  | exit known running => exact hk.set_life known (by simp [running, Life.isOver]) _
  | adopt _ free => exact hk.set_new free _ _

/-- The kernel has forgotten a child that is over: nothing happens to it any more. -/
theorem Children.set_past {d : Child} (new : ∀ d, k i = some d → d.life.isOver = false)
    (known : k j = some d) (past : d.life.isOver = true) : k.set i c j = some d := by
  rw [Children.set_of_ne, known]
  rintro rfl
  exact absurd past (by simp [new d known])

theorem Starts.past {child child' : Option ChildId} {event : Spawning.Event}
    (h : Starts k child event child' k') (known : k i = some c) (past : c.life.isOver = true) :
    k' i = some c := by
  cases h with
  | fork fresh => exact Children.set_past (by simp [fresh]) known past
  | discard known' ended =>
    exact Children.set_past (by simp [known', ended, Life.isOver]) known past
  | _ => exact known

theorem Passes.past {event : Pass.Event} {child : Option ChildId}
    (h : Passes k event child k') (known : k i = some c) (past : c.life.isOver = true) :
    k' i = some c := by
  cases h with
  | lock | unlock => exact known
  | wait answers =>
    cases answers with
    | ended known' ended =>
      exact Children.set_past (by simp [known', ended, Life.isOver]) known past
    | _ => exact known

theorem Changes.past {event : Event} (h : Changes k event k') (known : k i = some c)
    (past : c.life.isOver = true) : k' i = some c := by
  cases h with
  | exit known' running =>
    exact Children.set_past (by simp [known', running, Life.isOver]) known past
  | adopt fresh => exact Children.set_past (by simp [fresh]) known past

theorem Changes.kept {event : Event} (h : Changes k event k') (known : k i = some c)
    (kept : c.life.isOver = false) :
    ∃ life, k' i = some { c with life } ∧ life.isOver = false := by
  cases h with
  | @exit j d _ known' running =>
    by_cases hj : i = j
    · subst j
      obtain rfl := Option.some.inj (known.symm.trans known')
      exact ⟨_, Children.set_self .., rfl⟩
    · exact ⟨c.life, by rw [Children.set_of_ne hj, known], kept⟩
  | @adopt j _ _ fresh =>
    have hj : i ≠ j := by
      rintro rfl
      exact nomatch fresh.symm.trans known
    exact ⟨c.life, by rw [Children.set_of_ne hj, known], kept⟩

theorem Starts.of_collected {child child' : Option ChildId} {event : Spawning.Event} {e : Ending}
    (h : Starts k child event child' k') (known : k' i = some c) (life : c.life = .collected e) :
    k i = some c := by
  cases h with
  | fork | discard =>
    rcases Children.of_set known with ⟨rfl, rfl⟩ | ⟨_, known⟩
    · cases life
    · exact known
  | _ => exact known

theorem Changes.of_collected {event : Event} {e : Ending} (h : Changes k event k')
    (known : k' i = some c) (life : c.life = .collected e) : k i = some c := by
  cases h with
  | exit =>
    rcases Children.of_set known with ⟨rfl, rfl⟩ | ⟨_, known⟩
    · cases life
    · exact known
  | @adopt _ _ ending =>
    rcases Children.of_set known with ⟨rfl, rfl⟩ | ⟨_, known⟩
    · cases ending <;> cases life
    · exact known

/-- A pass has collected a child when the kernel has reported its end to this pass. -/
theorem Passes.of_collected {event : Pass.Event} {child : Option ChildId} {e : Ending}
    (h : Passes k event child k') (known : k' i = some c) (life : c.life = .collected e) :
    k i = some c ∨ event = .wait (.report c.pid e.raw) ∧ child = some i ∧
      k i = some { c with life := .ended e } := by
  cases h with
  | lock | unlock => exact .inl known
  | wait answers =>
    cases answers with
    | @ended j d e' known' ended =>
      rcases Children.of_set known with ⟨rfl, rfl⟩ | ⟨_, known⟩
      · cases life
        refine .inr ⟨rfl, rfl, ?_⟩
        rw [known', ← ended]
      · exact .inl known
    | _ => exact .inl known

/-- Who runs has run before or has just been forked. -/
theorem Starts.of_running {child child' : Option ChildId} {event : Spawning.Event}
    (h : Starts k child event child' k') (known : k' i = some c) (running : c.life = .running) :
    k i = some c ∨ event = .fork (.ok c.pid) := by
  cases h with
  | fork =>
    rcases Children.of_set known with ⟨rfl, rfl⟩ | ⟨_, known⟩
    · exact .inr rfl
    · exact .inl known
  | discard =>
    rcases Children.of_set known with ⟨rfl, rfl⟩ | ⟨_, known⟩
    · cases running
    · exact .inl known
  | _ => exact .inl known

theorem Passes.of_running {event : Pass.Event} {child : Option ChildId}
    (h : Passes k event child k') (known : k' i = some c) (running : c.life = .running) :
    k i = some c := by
  cases h with
  | lock | unlock => exact known
  | wait answers =>
    cases answers with
    | ended =>
      rcases Children.of_set known with ⟨rfl, rfl⟩ | ⟨_, known⟩
      · cases running
      · exact known
    | _ => exact known

theorem Changes.of_running {event : Event} (h : Changes k event k') (known : k' i = some c)
    (own : c.own = true) (running : c.life = .running) : k i = some c := by
  cases h with
  | exit =>
    rcases Children.of_set known with ⟨rfl, rfl⟩ | ⟨_, known⟩
    · cases running
    · exact known
  | adopt =>
    rcases Children.of_set known with ⟨rfl, rfl⟩ | ⟨_, known⟩
    · cases own
    · exact known

/-- This child has ended, and nobody has collected it. -/
def Children.Ended (k : Children) (i : ChildId) : Prop := ∃ c e, k i = some c ∧ c.life = .ended e

def Children.Over (k : Children) (i : ChildId) : Prop := ∃ c, k i = some c ∧ c.life.isOver = true

theorem Children.NoneEnded.not_ended (h : k.NoneEnded) (i : ChildId) : ¬k.Ended i := by
  rintro ⟨c, e, known, ended⟩
  exact h i c e known ended

theorem Children.Ended.set (h : k.Ended i) (c : Child) (gone : c.life.isOver = true)
    (j : ChildId) : (k.set j c).Ended i ∨ (k.set j c).Over i := by
  by_cases hj : i = j
  · subst hj
    exact .inr ⟨c, Children.set_self .., gone⟩
  · left
    rwa [Children.Ended, Children.set_of_ne hj]

theorem Children.Ended.of_set (h : (k.set j c).Ended i) (life : ∀ e, c.life ≠ .ended e) :
    k.Ended i := by
  obtain ⟨d, e, known, ended⟩ := h
  rcases Children.of_set known with ⟨_, rfl⟩ | ⟨_, known⟩
  · exact absurd ended (life e)
  · exact ⟨d, e, known, ended⟩

theorem Children.Ended.set_of_ne (h : k.Ended i) (hj : i ≠ j) (c : Child) :
    (k.set j c).Ended i := by
  rwa [Children.Ended, Children.set_of_ne hj]

theorem Children.Ended.ne_of_fresh (h : k.Ended i) (fresh : k j = none) : i ≠ j := by
  rintro rfl
  obtain ⟨c, e, known, _⟩ := h
  exact nomatch fresh.symm.trans known

theorem Starts.ended {child child' : Option ChildId} {event : Spawning.Event}
    (h : Starts k child event child' k') (ended : k.Ended i) : k'.Ended i ∨ k'.Over i := by
  cases h with
  | fork fresh => exact .inl (ended.set_of_ne (ended.ne_of_fresh fresh) _)
  | discard => exact ended.set _ rfl _
  | _ => exact .inl ended

theorem Starts.over {child child' : Option ChildId} {event : Spawning.Event}
    (h : Starts k child event child' k') (gone : k.Over i) : k'.Over i := by
  obtain ⟨c, known, past⟩ := gone
  exact ⟨c, h.past known past, past⟩

theorem Starts.of_ended {child child' : Option ChildId} {event : Spawning.Event}
    (h : Starts k child event child' k') (ended : k'.Ended i) : k.Ended i := by
  cases h with
  | fork | discard => exact ended.of_set (by simp)
  | _ => exact ended

theorem Passes.ended {event : Pass.Event} {child : Option ChildId} (h : Passes k event child k')
    (ended : k.Ended i) : k'.Ended i ∨ k'.Over i := by
  cases h with
  | lock | unlock => exact .inl ended
  | wait answers =>
    cases answers with
    | ended => exact ended.set _ rfl _
    | _ => exact .inl ended

theorem Passes.over {event : Pass.Event} {child : Option ChildId} (h : Passes k event child k')
    (gone : k.Over i) : k'.Over i := by
  obtain ⟨c, known, past⟩ := gone
  exact ⟨c, h.past known past, past⟩

theorem Passes.of_ended {event : Pass.Event} {child : Option ChildId} (h : Passes k event child k')
    (ended : k'.Ended i) : k.Ended i := by
  cases h with
  | lock | unlock => exact ended
  | wait answers =>
    cases answers with
    | ended => exact ended.of_set (by simp)
    | _ => exact ended

/-- A child that has ended is collected by the report of its end only. -/
theorem Passes.still_or_collected {event : Pass.Event} {child : Option ChildId} {e : Ending}
    (h : Passes k event child k') (known : k i = some c) (ended : c.life = .ended e) :
    k' i = some c ∨ event = .wait (.report c.pid e.raw) ∧
      k' i = some { c with life := .collected e } := by
  cases h with
  | lock | unlock => exact .inl known
  | wait answers =>
    cases answers with
    | @ended j d e' known' ended' =>
      by_cases same : i = j
      · subst same
        obtain rfl := Option.some.inj (known.symm.trans known')
        obtain rfl := Life.ended.inj (ended.symm.trans ended')
        exact .inr ⟨rfl, Children.set_self ..⟩
      · exact .inl (by rw [Children.set_of_ne same, known])
    | _ => exact .inl known

/-- The child has been collected, or the start that forked it has collected it again. -/
def Children.Reaped (k : Children) (i : ChildId) (c : Child) (e : Ending) : Prop :=
  k i = some { c with life := .collected e } ∨ k i = some { c with life := .discarded }

theorem Children.Reaped.mono {e : Ending} (h : k.Reaped i c e)
    (past : ∀ d, k i = some d → d.life.isOver = true → k' i = some d) : k'.Reaped i c e :=
  h.imp (past _ · rfl) (past _ · rfl)

theorem Starts.still_or_reaped {child child' : Option ChildId} {event : Spawning.Event}
    {e : Ending} (h : Starts k child event child' k') (known : k i = some c)
    (ended : c.life = .ended e) : k' i = some c ∨ k'.Reaped i c e := by
  have there : k.Ended i := ⟨c, e, known, ended⟩
  cases h with
  | fork fresh => exact .inl (by rw [Children.set_of_ne (there.ne_of_fresh fresh), known])
  | @discard j d e' known' =>
    by_cases same : i = j
    · subst same
      obtain rfl := Option.some.inj (known.symm.trans known')
      exact .inr (.inr (Children.set_self ..))
    · exact .inl (by rw [Children.set_of_ne same, known])
  | _ => exact .inl known

theorem Passes.still_or_reaped {event : Pass.Event} {child : Option ChildId} {e : Ending}
    (h : Passes k event child k') (known : k i = some c) (ended : c.life = .ended e) :
    k' i = some c ∨ k'.Reaped i c e :=
  (h.still_or_collected known ended).imp_right fun collected => .inl collected.2

/-- A pass that closes without a failure leaves no child that has ended. -/
theorem Passes.noneEnded {answer : WaitAnswer} {child : Option ChildId}
    (h : Passes k (.wait answer) child k') (closes : answer.closes = true)
    (sound : ∀ number, answer ≠ .failed number) : k'.NoneEnded := by
  cases h with
  | wait answers =>
    cases answers with
    | noneReady h | noChildren h => exact h
    | failed => exact absurd rfl (sound _)
    | _ => cases closes

/-- Whose end the kernel makes known with this. -/
def Event.ends : Event → Option ChildId
  | .exit i _ => some i
  | .adopt i _ (some _) => some i
  | .adopt _ _ none => none

/-- Who has ended stays as it is until somebody collects it. -/
theorem Changes.still {event : Event} {e : Ending} (h : Changes k event k') (known : k i = some c)
    (ended : c.life = .ended e) : k' i = some c := by
  have there : k.Ended i := ⟨c, e, known, ended⟩
  cases h with
  | exit known' running =>
    rw [Children.set_of_ne, known]
    rintro rfl
    obtain rfl := Option.some.inj (known.symm.trans known')
    exact nomatch running.symm.trans ended
  | adopt fresh => rw [Children.set_of_ne (there.ne_of_fresh fresh), known]

theorem Changes.ended {event : Event} (h : Changes k event k') (ended : k.Ended i) :
    k'.Ended i := by
  obtain ⟨c, e, known, ended⟩ := ended
  exact ⟨c, e, h.still known ended, ended⟩

theorem Changes.over {event : Event} (h : Changes k event k') (gone : k.Over i) : k'.Over i := by
  obtain ⟨c, known, past⟩ := gone
  exact ⟨c, h.past known past, past⟩

theorem Changes.of_ended {event : Event} (h : Changes k event k') (ended : k'.Ended i) :
    k.Ended i ∨ event.ends = some i := by
  obtain ⟨d, e, known, ended⟩ := ended
  cases h with
  | exit =>
    rcases Children.of_set known with ⟨rfl, rfl⟩ | ⟨_, known⟩
    · exact .inr rfl
    · exact .inl ⟨d, e, known, ended⟩
  | @adopt _ _ ending =>
    rcases Children.of_set known with ⟨rfl, rfl⟩ | ⟨_, known⟩
    · cases ending with
      | none => cases ended
      | some ending => exact .inr rfl
    · exact .inl ⟨d, e, known, ended⟩

end Kernel

end PidOne
