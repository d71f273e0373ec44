import PidOne.Proofs.Kernel
import PidOne.Proofs.Runner

/-!
# Successive commands

One runner and its table, other tasks that make passes, the children and process groups of the
kernel, and the signals that arrive: each step of theirs on its own, in any order. What becomes of a
signal for which no process is left depends on who is first, the relay or the runner.
-/

namespace PidOne

open Kernel

structure Succession where
  table : Table := {}
  children : Children := fun _ => none
  /-- The processes that live in each group besides the child that leads it. -/
  members : Pid → Nat := fun _ => 0
  runner : Runner := .idle none
  child : Option ChildId := none
  passes : TaskId → Pass := fun _ => .queued

namespace Succession

def self : TaskId := 0

inductive Event
  | register
  | arrive (signal : Signal)
  | run (event : Runner.Event)
  | pass (task : TaskId) (event : Pass.Event)
  | kernel (event : Kernel.Event)
  | join (group : Pid)
  | leave (group : Pid)

/-- No process lives in this group any more. -/
def Gone (s : Succession) (group : Pid) : Prop :=
  s.members group = 0 ∧ ∀ i c, s.children i = some c → c.own = true → c.pid = group →
    c.life ≠ .running

/-- A PID is not given out again while there is a group of this number, and only where a process
lives can another one come to be. -/
inductive Step (s : Succession) : Event → Succession → Prop
  | register : Step s .register { s with runner := s.runner.register }
  | arrive : Step s (.arrive x) { s with runner := s.runner.arrive x }
  | start (moves : s.runner.step self s.table (.spawn event) = some (runner', t'))
    (kernel : Starts s.children s.child event child' k')
    (unused : ∀ pid, event = .fork (.ok pid) → s.members pid = 0) :
    Step s (.run (.spawn event))
      { s with table := t', children := k', runner := runner', child := child' }
  | run (moves : s.runner.step self s.table event = some (runner', t'))
    (other : ∀ e, event ≠ .spawn e) :
    Step s (.run event) { s with table := t', runner := runner', child := none }
  | pass (other : task ≠ self) (moves : (s.passes task).step task s.table event = some (pass', t'))
    (kernel : Passes s.children event collected k') :
    Step s (.pass task event)
      { s with table := t', children := k', passes := Function.update s.passes task pass' }
  | kernel (changes : Changes s.children event k') :
    Step s (.kernel event) { s with children := k' }
  | join (lives : ¬s.Gone group) : Step s (.join group)
    { s with members := Function.update s.members group (s.members group + 1) }
  | leave (lives : s.members group = n + 1) :
    Step s (.leave group) { s with members := Function.update s.members group n }

def Holds (s : Succession) (x : Signal) : Prop := s.runner.forwarder.Holds x

/-- The group to which signals are relayed, if there is one, is gone. -/
def NobodyLeft (s : Succession) : Prop := ∀ g, s.runner.forwarder.group? = some g → s.Gone g

def Event.Sends (x : Signal) : Event → Prop
  | .run e => e.Sends x
  | _ => False

/-- A step with which the runner does not bind its receivers to the group of another command. -/
def Lull (s : Succession) (e : Event) (s' : Succession) : Prop :=
  Step s e s' ∧ ∀ child relay, e = .run .launch → s'.runner ≠ .waiting child relay

variable {s s' : Succession} {e : Event} {es : List Event} {x : Signal} {g : Pid}

theorem Step.holds_iff (step : Step s e s') :
    s'.Holds x ↔ s.Holds x ∧ ¬e.Sends x ∨
      e = .arrive x ∧ x ∈ Signal.forwarded ∧ s.runner.forwarder ≠ .unregistered := by
  cases step with
  | register =>
    rcases s.runner.register_forwarder with same | ⟨before, after⟩
    · simp [Holds, Event.Sends, same]
    · simp [Holds, Event.Sends, before, after, Forwarder.Holds]
  | arrive => simp [Holds, Event.Sends, Runner.arrive_forwarder, Forwarder.holds_arrive_iff]
  | start moves | run moves =>
    simpa [Event.Sends, Holds] using (Runner.Moves.of_step moves).holds_iff
  | pass | kernel | join | leave => simp [Event.Sends, Holds]

theorem Step.registered (step : Step s e s') (h : s.runner.forwarder ≠ .unregistered) :
    s'.runner.forwarder ≠ .unregistered := by
  cases step with
  | register =>
    rcases s.runner.register_forwarder with same | ⟨before, _⟩
    · rwa [same]
    · exact absurd before h
  | arrive =>
    rw [Runner.arrive_forwarder]
    exact Forwarder.Moves.registered .arrive h nofun
  | start moves | run moves => exact (Runner.Moves.of_step moves).registered
  | pass | kernel | join | leave => exact h

theorem Holds.registered (h : s.Holds x) : s.runner.forwarder ≠ .unregistered := by
  intro unregistered
  rw [Holds, unregistered] at h
  exact h

theorem Step.sound (step : Step s e s') (h : s.runner.Sound) : s'.runner.Sound := by
  cases step with
  | register => exact h.register
  | arrive => exact h.arrive _
  | start moves | run moves => exact (Runner.Moves.of_step moves).sound h
  | pass | kernel | join | leave => exact h

theorem Step.waiting_of_sends (step : Step s e s') (h : s.runner.Sound) (sends : e.Sends x) :
    ∃ child relay, s.runner = .waiting child relay := by
  cases step with
  | run moves => exact (Runner.Moves.of_step moves).waiting_of_sends h sends
  | _ => cases sends

theorem sound_of_run (run : Run Step {} es s) : s.runner.Sound :=
  run.keeps (P := (·.runner.Sound)) (fun h step => step.sound h) trivial

/-- A signal that was held is so no longer if it has been sent and has not arrived again. -/
theorem Holds.iff_not_sent (run : Run Step s es s') (holds : s.Holds x)
    (hx : x ∈ Signal.forwarded) :
    s'.Holds x ↔ ¬∃ a e b, es = a ++ e :: b ∧ e.Sends x ∧ .arrive x ∉ b := by
  constructor
  · rintro after ⟨a, e, b, rfl, sends, noMore⟩
    obtain ⟨t, t', _, step, rest⟩ := run.split_at
    have cleared : ¬t'.Holds x := by
      rw [step.holds_iff]
      rintro (⟨_, spared⟩ | ⟨rfl, _⟩)
      · exact spared sends
      · exact sends
    refine rest.keeps_along (P := (¬Holds · x)) (Q := (· ≠ .arrive x)) ?_ ?_ cleared after
    · intro u e u' other released step
      rw [step.holds_iff]
      rintro (⟨held, _⟩ | ⟨arrives, _⟩)
      · exact released held
      · exact other arrives
    · rintro e he rfl
      exact noMore he
  · intro kept
    by_contra released
    -- Receivers that are registered stay so; else an arrival would not be held again.
    have registered {t es} (run : Run Step s es t) : t.runner.forwarder ≠ .unregistered :=
      run.keeps (P := (·.runner.forwarder ≠ .unregistered)) (fun h step => step.registered h)
        holds.registered
    obtain ⟨a, e, b, t, t', rfl, first, before, step, after, rest⟩ :=
      run.since (P := fun s => ¬s.Holds x ∧ s.runner.forwarder ≠ .unregistered)
        (fun h => h.1 holds) ⟨released, registered run⟩
    have held : t.Holds x := by
      by_contra h
      exact before ⟨h, registered first⟩
    refine kept ⟨a, e, b, rfl, ?_, fun arrives => ?_⟩
    · by_contra spared
      exact after.1 (step.holds_iff.2 (.inl ⟨held, spared⟩))
    · obtain ⟨u, u', before, step, after⟩ := rest.step_of_mem arrives
      exact after.1 (step.holds_iff.2 (.inr ⟨rfl, hx, before.2⟩))

/-- Nobody joins a group that is gone. -/
theorem Step.gone (step : Step s e s') (h : s.Gone g)
    (forksNot : ∀ pid, e ≠ .run (.spawn (.fork (.ok pid)))) : s'.Gone g := by
  obtain ⟨empty, leaderless⟩ := h
  cases step with
  | register | arrive | run => exact ⟨empty, leaderless⟩
  | start _ kernel =>
    refine ⟨empty, fun i c known own hpid running => ?_⟩
    rcases kernel.of_running known running with known | rfl
    · exact leaderless i c known own hpid running
    · exact forksNot _ rfl
  | pass _ _ kernel =>
    exact ⟨empty, fun i c known own hpid running =>
      leaderless i c (kernel.of_running known running) own hpid running⟩
  | kernel changes =>
    exact ⟨empty, fun i c known own hpid running =>
      leaderless i c (changes.of_running known own running) own hpid running⟩
  | @join group lives =>
    have hg : g ≠ group := by
      rintro rfl
      exact lives ⟨empty, leaderless⟩
    exact ⟨(Function.update_of_ne hg ..).trans empty, leaderless⟩
  | @leave group n lives =>
    have hg : g ≠ group := by
      rintro rfl
      simp [empty] at lives
    exact ⟨(Function.update_of_ne hg ..).trans empty, leaderless⟩

/-- In a lull the runner is bound to no other group than before, and forks only unbound. -/
theorem Lull.group? (h : Lull s e s') (bound : s'.runner.forwarder.group? = some g) :
    s.runner.forwarder.group? = some g ∧ ∀ pid, e ≠ .run (.spawn (.fork (.ok pid))) := by
  obtain ⟨step, lull⟩ := h
  cases step with
  | register =>
    rcases s.runner.register_forwarder with same | ⟨_, after⟩
    · exact ⟨same ▸ bound, nofun⟩
    · rw [after] at bound
      cases bound
  | arrive =>
    rw [Runner.arrive_forwarder, Forwarder.Moves.group?_eq .arrive id] at bound
    exact ⟨bound, nofun⟩
  | start moves =>
    rcases (Runner.Moves.of_step moves).group? bound with ⟨_, other⟩ | ⟨_, _, launches, _⟩
    · exact absurd rfl (other _)
    · cases launches
  | run moves other =>
    rcases (Runner.Moves.of_step moves).group? bound with ⟨before, _⟩ | ⟨_, _, rfl, waits⟩
    · exact ⟨before, fun pid forks => other _ (Event.run.inj forks)⟩
    · exact absurd waits (lull _ _ rfl)
  | pass | kernel | join | leave => exact ⟨bound, nofun⟩

theorem NobodyLeft.lull (h : s.NobodyLeft) (lull : Lull s e s') : s'.NobodyLeft := by
  intro g bound
  obtain ⟨before, forksNot⟩ := lull.group? bound
  exact lull.1.gone (h g before) forksNot

theorem group?_lull (run : Run Lull s es s') (bound : s'.runner.forwarder.group? = some g) :
    s.runner.forwarder.group? = some g := by
  induction run with
  | nil => exact bound
  | cons lull _ ih => exact (lull.group? (ih bound)).1

/-- In this lull the signal is sent to this group, while the runner waits for a command. -/
def SentTo (g : Pid) (s : Succession) (es : List Event) (x : Signal) : Prop :=
  ∃ a e b t child relay, es = a ++ e :: b ∧ e.Sends x ∧ Run Lull s a t ∧
    t.runner = .waiting child relay ∧ relay.group = g

theorem Lull.of_step (step : Step s e s') (other : e ≠ .run .launch) : Lull s e s' :=
  ⟨step, fun _ _ h => absurd h other⟩

/-- What is sent in a lull is sent by the one relay that there is, before its runner has taken the
status. -/
theorem sent_in_lull (run : Run Lull s es s') (h : s.runner.Sound) {a b : List Event}
    (split : es = a ++ e :: b) (sends : e.Sends x) : ∃ t child relay, Run Lull s a t ∧
      t.runner = .waiting child relay ∧ s.runner.forwarder.group? = some relay.group := by
  subst split
  obtain ⟨t, t', first, lull, _⟩ := run.split_at
  have sound := first.keeps (P := (·.runner.Sound)) (fun h lull => lull.1.sound h) h
  obtain ⟨child, relay, waits⟩ := lull.1.waiting_of_sends sound sends
  refine ⟨t, child, relay, first, waits, group?_lull first ?_⟩
  rw [waits]
  rfl

/-- A relay that holds a signal does not sleep: it has the signal sent before. -/
theorem sent_or_awake (run : Run Lull s es s') (h : s.runner.Sound) (holds : s.Holds x)
    (hx : x ∈ Signal.forwarded) (bound : s.runner.forwarder.group? = some g) :
    s.SentTo g es x ∨
      s'.Holds x ∧ ∀ child relay, s'.runner = .waiting child relay → relay.asleep = false := by
  by_cases sent : ∃ e ∈ es, e.Sends x
  · obtain ⟨e, he, sends⟩ := sent
    obtain ⟨a, b, split⟩ := List.append_of_mem he
    obtain ⟨t, child, relay, first, waiting, same⟩ := sent_in_lull run h split sends
    exact .inl ⟨a, e, b, t, child, relay, split, sends, first, waiting,
      Option.some.inj (same.symm.trans bound)⟩
  · have kept : s'.Holds x :=
      run.keeps_along (P := (Holds · x)) (Q := (¬Event.Sends x ·))
        (fun spared holds lull => lull.1.holds_iff.2 (.inl ⟨holds, spared⟩))
        (fun e he sends => sent ⟨e, he, sends⟩) holds
    refine .inr ⟨kept, fun child relay waiting => ?_⟩
    have sound := run.keeps (P := (·.runner.Sound)) (fun h lull => lull.1.sound h) h
    rw [waiting] at sound
    rw [Holds, waiting] at kept
    by_contra asleep
    obtain ⟨nothing, _⟩ := sound (by simpa using asleep)
    exact List.find?_eq_none.1 nothing x hx kept

theorem Step.launched {child : Handle} {relay : Relay} (step : Step s (.run .launch) s')
    (waits : s'.runner = .waiting child relay) : relay.group = child.pid := by
  cases step with
  | run moves =>
    obtain rfl := waits
    exact (Runner.Moves.of_step moves).launched

theorem kept_for_next_group_iff {u v w : Succession} {mid : List Event} {child : Handle}
    {relay : Relay} (run : Run Step {} es u) (hx : x ∈ Signal.forwarded) (holds : u.Holds x)
    (nobody : u.NobodyLeft) (lull : Run Lull u mid v) (launch : Step v (.run .launch) w)
    (waits : w.runner = .waiting child relay) :
    (w.Holds x ↔ ¬∃ a e b, mid = a ++ e :: b ∧ e.Sends x ∧ .arrive x ∉ b) ∧
    (∀ a e b, mid = a ++ e :: b → e.Sends x → ∃ t last relay', Run Lull u a t ∧
      t.runner = .waiting last relay' ∧ u.runner.forwarder.group? = some relay'.group ∧
      t.Gone relay'.group) ∧
    (w.Holds x → ∀ after z, Run Lull w after z → w.SentTo child.pid after x ∨
      z.Holds x ∧ ∀ child relay, z.runner = .waiting child relay → relay.asleep = false) := by
  have sound := sound_of_run run
  have sound' := lull.keeps (P := (·.runner.Sound)) (fun h lull => lull.1.sound h) sound
  have same : w.Holds x ↔ v.Holds x := by
    simp [launch.holds_iff, Event.Sends, Runner.Event.Sends]
  refine ⟨?_, fun a e b split sends => ?_, fun holds after z onward => ?_⟩
  · rw [same, holds.iff_not_sent (lull.mono And.left) hx]
  · obtain ⟨t, last, relay', first, waiting, bound⟩ := sent_in_lull lull sound split sends
    refine ⟨t, last, relay', first, waiting, bound, ?_⟩
    refine first.keeps (P := NobodyLeft) (fun h lull => h.lull lull) nobody _ ?_
    rw [waiting]
    rfl
  · refine sent_or_awake onward (launch.sound sound') holds hx ?_
    rw [waits, ← launch.launched waits]
    rfl

/-- The first command has ended, its status has been collected, and then a signal has arrived. -/
def untilNobodyLeft : List Event := [.register, .run (.begin ⟨"true", []⟩), .run (.spawn .lock),
  .run (.spawn (.fork (.ok 7))), .run (.spawn (.exec none)), .run (.spawn .register),
  .run (.spawn .unlock), .run .launch, .kernel (.exit 0 .success), .pass 1 .lock,
  .pass 1 (.wait (.report 7 0)), .pass 1 (.wait .noChildren), .pass 1 .unlock, .arrive 10]

/-- The runner takes the status and starts the next command. -/
def onward : List Event := [.run .receive, .run (.relay .stop), .run .detach, .run .return,
  .run (.begin ⟨"true", []⟩), .run (.spawn .lock), .run (.spawn (.fork (.ok 8))),
  .run (.spawn (.exec none)), .run (.spawn .register), .run (.spawn .unlock)]

structure BetweenTwo (s : Succession) (relay : Relay) : Prop where
  waits : s.runner = .waiting ⟨7, 0⟩ relay
  group : relay.group = 7
  active : relay.finished = false
  table : s.table = { slots := [.filled ⟨7, some 0, none⟩] }
  members : s.members = fun _ => 0
  children : ∀ i c, s.children i = some c → i = 0 ∧ c = ⟨7, true, .collected .success⟩

theorem BetweenTwo.nobodyLeft {relay : Relay} (h : s.BetweenTwo relay) : s.NobodyLeft := by
  intro g _
  refine ⟨by rw [h.members], fun i c known _ _ running => ?_⟩
  obtain ⟨_, rfl⟩ := h.children i c known
  cases running

theorem exists_betweenTwo : ∃ s, Run Step {} untilNobodyLeft s ∧
    s.BetweenTwo { group := 7, receivers := Receivers.arrive {} 10 } := by
  refine Run.exists_cons .register ?_
  refine Run.exists_cons (.run rfl nofun) ?_
  refine Run.exists_cons (.start rfl .lock nofun) ?_
  refine Run.exists_cons (.start rfl (.fork (i := 0) rfl nofun) fun _ _ => rfl) ?_
  refine Run.exists_cons (.start rfl .exec nofun) ?_
  refine Run.exists_cons (.start rfl .register nofun) ?_
  refine Run.exists_cons (.start rfl .unlock nofun) ?_
  refine Run.exists_cons (.run rfl nofun) ?_
  refine Run.exists_cons (.kernel (.exit rfl rfl)) ?_
  refine Run.exists_cons (.pass nofun rfl .lock) ?_
  refine Run.exists_cons (.pass nofun rfl (.wait
    (.ended (i := 0) (c := ⟨7, true, .ended .success⟩) (e := .success) rfl rfl))) ?_
  -- The kernel may say that there is no child only if it can show that none has ended.
  have only i c (known : Children.set (Children.set (Children.set (fun _ => none) 0
      ⟨7, true, .running⟩) 0 ⟨7, true, .ended .success⟩) 0 ⟨7, true, .collected .success⟩ i =
        some c) : i = 0 ∧ c = ⟨7, true, .collected .success⟩ := by
    rw [Children.set_set, Children.set_set] at known
    rcases Children.of_set known with ⟨rfl, rfl⟩ | ⟨_, known⟩
    · exact ⟨rfl, rfl⟩
    · cases known
  refine Run.exists_cons (.pass nofun rfl (.wait (.noChildren fun i c e known => ?_))) ?_
  · obtain ⟨_, rfl⟩ := only i c known
    exact nofun
  refine Run.exists_cons (.pass nofun rfl .unlock) ?_
  exact ⟨_, .single .arrive, rfl, rfl, rfl, rfl, rfl, only⟩

theorem BetweenTwo.onward {relay : Relay} (h : s.BetweenTwo relay) : ∃ t, Run Lull s onward t ∧
    ∃ s' child relay', Step t (.run .launch) s' ∧ s'.runner = .waiting child relay' ∧
      (s'.Holds x ↔ s.Holds x) := by
  obtain ⟨waits, _, active, table, members, only⟩ := h
  obtain ⟨group, receivers, watched, asleep, stopRequested, finished⟩ := relay
  obtain ⟨table, children, members, runner, child, passes⟩ := s
  subst waits table members active
  refine Run.exists_cons (.of_step (.run rfl nofun) nofun) ?_
  refine Run.exists_cons (.of_step (.run rfl nofun) nofun) ?_
  refine Run.exists_cons (.of_step (.run rfl nofun) nofun) ?_
  refine Run.exists_cons (.of_step (.run rfl nofun) nofun) ?_
  refine Run.exists_cons (.of_step (.run rfl nofun) nofun) ?_
  refine Run.exists_cons (.of_step (.start rfl .lock nofun) nofun) ?_
  refine Run.exists_cons (.of_step (.start rfl (.fork (i := 1) ?_ ?_) fun _ _ => rfl) nofun) ?_
  · by_contra known
    obtain ⟨c, known⟩ := Option.ne_none_iff_exists'.1 known
    exact absurd (only 1 c known).1 nofun
  · intro i c known _
    obtain ⟨_, rfl⟩ := only i c known
    rfl
  refine Run.exists_cons (.of_step (.start rfl .exec nofun) nofun) ?_
  refine Run.exists_cons (.of_step (.start rfl .register nofun) nofun) ?_
  refine ⟨_, .single (.of_step (.start rfl .unlock nofun) nofun), ?_⟩
  exact ⟨_, _, _, .run rfl nofun, rfl, .rfl⟩

/-- The runner is first, and the next command gets the signal. -/
theorem kept_for_next_group_if_runner_first : ∃ u v w, Run Step {} untilNobodyLeft u ∧
    u.NobodyLeft ∧ Run Lull u onward v ∧ Step v (.run .launch) w ∧ w.Holds 10 := by
  obtain ⟨u, run, between⟩ := exists_betweenTwo
  obtain ⟨v, lull, w, child, relay, launch, waits, _⟩ := between.onward (x := 10)
  have holds : u.Holds 10 := by
    rw [Holds, between.waits]
    rfl
  obtain ⟨kept, _⟩ :=
    kept_for_next_group_iff run (by decide) holds between.nobodyLeft lull launch waits
  refine ⟨u, v, w, run, between.nobodyLeft, lull, launch, kept.2 ?_⟩
  rintro ⟨a, e, b, split, sends, _⟩
  have spared : ∀ e ∈ onward, ¬e.Sends 10 := by
    simp [onward, Event.Sends, Runner.Event.Sends, Relay.Event.Sends]
  exact spared e (split ▸ List.mem_append_right a (.head b)) sends

/-- The relay is first, and the signal is used up on the group that is gone. -/
theorem wasted_if_relay_first : ∃ u v w, Run Step {} untilNobodyLeft u ∧ u.Holds 10 ∧
    u.NobodyLeft ∧ Run Lull u (.run (.relay (.send 10 .undeliverable)) :: onward) v ∧
    Step v (.run .launch) w ∧ ¬w.Holds 10 := by
  obtain ⟨u, run, between⟩ := exists_betweenTwo
  have sends : ∃ relay, u.runner.step self u.table (.relay (.send 10 .undeliverable)) =
      some (.waiting ⟨7, 0⟩ relay, u.table) ∧ relay.group = 7 ∧ relay.finished = false ∧
        relay.receivers.held 10 = false := by
    rw [between.waits]
    exact ⟨_, rfl, rfl, rfl, rfl⟩
  obtain ⟨relay, step, group, active, released⟩ := sends
  have between' : BetweenTwo { u with runner := .waiting ⟨7, 0⟩ relay, child := none } relay :=
    ⟨rfl, group, active, between.table, between.members, between.children⟩
  obtain ⟨v, lull, w, _, _, launch, _, same⟩ := between'.onward (x := 10)
  refine ⟨u, v, w, run, ?_, between.nobodyLeft, .cons (.of_step (.run step nofun) nofun) lull,
    launch, ?_⟩
  · rw [Holds, between.waits]
    rfl
  · rw [same]
    exact ne_true_of_eq_false released

end Succession

end PidOne
