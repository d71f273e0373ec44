import PidOne.Proofs.Forwarder

/-!
# The order of relaying

What a relay holds is a set, and it is relayed in the order of the forwarded signals, whatever the
order in which it has arrived.
-/

namespace PidOne

open Signal

namespace Signal

theorem nodup_forwarded : forwarded.Nodup := by decide

theorem mem_realtime {s : Int} : s ∈ realtime ↔ 34 ≤ s ∧ s ≤ 64 := by
  constructor
  · intro h
    obtain ⟨k, hk, rfl⟩ := List.mem_map.1 h
    have below := List.mem_range.1 hk
    change (34 : Int) ≤ 34 + (k : Int) ∧ 34 + (k : Int) ≤ 64
    omega
  · intro h
    refine List.mem_map.2 ⟨(s - 34).toNat, List.mem_range.2 (by omega), ?_⟩
    change 34 + ((s - 34).toNat : Int) = s
    omega

theorem pairwise_realtime : realtime.Pairwise (· < ·) := by decide

end Signal

namespace Receivers

variable {r : Receivers} {s x : Signal} {arrivals : List Signal}

/-- What is held and will be relayed, in its order. -/
def due (r : Receivers) : List Signal := forwarded.filter r.held

theorem nodup_due (r : Receivers) : r.due.Nodup := nodup_forwarded.filter _

theorem head?_due (r : Receivers) : r.due.head? = r.next? := List.head?_filter ..

theorem due_eq_nil_iff : r.due = [] ↔ r.next? = none := by
  rw [← head?_due, List.head?_eq_none_iff]

theorem due_take (r : Receivers) (s : Signal) : (r.take s).due = r.due.filter (· != s) := by
  rw [due, due, List.filter_filter]
  apply List.filter_congr
  intro x _
  simp only [take]
  by_cases hx : x = s <;> simp [hx]

theorem due_eq_cons (next : r.next? = some s) : r.due = s :: (r.take s).due := by
  cases due : r.due with
  | nil => simp [due_eq_nil_iff.1 due] at next
  | cons x rest =>
    have first : some x = some s := by
      rw [← next, ← head?_due, due]
      rfl
    cases first
    have later : s ∉ rest := (List.nodup_cons.1 (due ▸ r.nodup_due)).1
    rw [due_take, due, List.filter_cons_of_neg (by simp), List.filter_eq_self.2]
    intro y hy
    simpa using ne_of_mem_of_not_mem hy later

/-- Whatever arrives first or more than once, only what has arrived matters. -/
theorem due_arrivals (r : Receivers) (arrivals : List Signal) :
    (arrivals.foldl arrive r).due = forwarded.filter fun s => r.held s || arrivals.contains s := by
  induction arrivals generalizing r with
  | nil => simp [due]
  | cons s rest ih =>
    rw [List.foldl_cons, ih]
    apply List.filter_congr
    intro x hx
    simp only [arrive]
    by_cases same : x = s
    · simp [same ▸ hx, same]
    · simp [same]

end Receivers

namespace Relay

/-- The events with which these signals are relayed, one after another, until nothing is left. -/
inductive Drain : List Signal → List Event → Prop
  | sleep : Drain [] [.sleep]
  | send (passed : result ≠ .skipped) (rest : Drain due es) :
    Drain (s :: due) (.send s result :: es)

def Event.signal? : Event → Option Signal
  | .send s _ => some s
  | .stop | .sleep => none

theorem Drain.sent {due : List Signal} {es : List Event} (h : Drain due es) :
    es.filterMap Event.signal? = due := by
  induction h with
  | sleep => rfl
  | send _ _ ih => simp [Event.signal?, ih]

theorem Drain.length {due : List Signal} {es : List Event} (h : Drain due es) :
    es.length = due.length + 1 := by
  induction h with
  | sleep => rfl
  | send _ _ ih => rw [List.length_cons, List.length_cons, ih]

/-- The steps of a relay, as a system. -/
def Steps (r : Relay) (e : Event) (r' : Relay) : Prop := r.step e = some r'

/-- Nobody has asked the relay to stop. -/
def GoesOn (r : Relay) : Prop := r.finished = false ∧ r.stopRequested = false

variable {r r' : Relay} {e : Event} {es fs : List Event} {s : Signal}

theorem GoesOn.step (h : r.GoesOn) (step : Steps r e r') : r'.GoesOn := by
  cases step_eq_some.1 step with
  | stop _ _ requested => simp [h.2] at requested
  | send | sleep => exact h

theorem GoesOn.arrive (h : r.GoesOn) (s : Signal) : (r.arrive s).GoesOn := by
  simp only [Relay.arrive]
  split <;> exact h

theorem steps_sleep (h : r.GoesOn) (awake : r.asleep = false) (nothing : r.receivers.due = []) :
    Steps r .sleep { r with watched := forwarded, asleep := true } :=
  step_eq_some.2 (.sleep h.1 awake h.2 (Receivers.due_eq_nil_iff.1 nothing))

theorem steps_send {result : Forwarded} (h : r.GoesOn) (awake : r.asleep = false)
    (next : r.receivers.next? = some s) (passed : result ≠ .skipped) :
    Steps r (.send s result) { r with
      receivers := r.receivers.take s
      watched := r.watched ++ forwarded.takeWhile (!r.receivers.held ·) } :=
  step_eq_some.2 (.send h.1 awake h.2 next passed)

theorem eq_nil_of_asleep (asleep : r.asleep = true) (run : Run Steps r es r') :
    es = [] ∧ r' = r := by
  cases run with
  | nil => exact ⟨rfl, rfl⟩
  | cons step _ => simp [Steps, Relay.step, asleep] at step

theorem exists_run_of_drain (h : r.GoesOn) (awake : r.asleep = false)
    (drain : Drain r.receivers.due es) :
    ∃ r', Run Steps r es r' ∧ r'.asleep = true ∧ r'.receivers.due = [] := by
  generalize due : r.receivers.due = signals at drain
  induction drain generalizing r with
  | sleep => exact ⟨_, .single (steps_sleep h awake due), rfl, due⟩
  | @send result signals es s passed _ ih =>
    have next : r.receivers.next? = some s := by
      rw [← Receivers.head?_due, due]
      rfl
    have step := steps_send h awake next passed
    apply Run.exists_cons step
    apply ih (h.step step) awake
    rw [Receivers.due_eq_cons next] at due
    exact (List.cons.inj due).2

theorem exists_drain (signals : List Signal) : ∃ es, Drain signals es := by
  induction signals with
  | nil => exact ⟨_, .sleep⟩
  | cons s rest ih =>
    obtain ⟨es, drain⟩ := ih
    have passed : Forwarded.delivered ≠ .skipped := nofun
    exact ⟨_, .send passed drain⟩

/-- However far a relay has come, it is draining what it held, and it can go on to the end. -/
theorem drain_of_run (h : r.GoesOn) (awake : r.asleep = false) (run : Run Steps r es r') :
    ∃ fs r'', Drain r.receivers.due (es ++ fs) ∧ Run Steps r' fs r'' ∧ r''.asleep = true ∧
      r''.receivers.due = [] := by
  induction es generalizing r with
  | nil =>
    obtain rfl := Run.nil_iff.1 run
    obtain ⟨fs, drain⟩ := exists_drain r.receivers.due
    obtain ⟨r', run, finished⟩ := exists_run_of_drain h awake drain
    exact ⟨fs, r', drain, run, finished⟩
  | cons e es ih =>
    cases run with
    | cons step rest =>
      have goesOn := h.step step
      cases step_eq_some.1 step with
      | stop _ _ requested => simp [h.2] at requested
      | send _ _ _ next passed =>
        obtain ⟨fs, r'', drain, last⟩ := ih goesOn awake rest
        refine ⟨fs, r'', ?_, last⟩
        rw [Receivers.due_eq_cons next]
        exact .send passed drain
      | sleep _ _ _ nothing =>
        obtain ⟨rfl, rfl⟩ := eq_nil_of_asleep rfl rest
        have empty := Receivers.due_eq_nil_iff.2 nothing
        refine ⟨[], _, ?_, .nil, rfl, empty⟩
        rw [empty]
        exact .sleep

theorem drains_iff (h : r.GoesOn) (awake : r.asleep = false) :
    (∃ r', Run Steps r es r' ∧ r'.asleep = true) ↔ Drain r.receivers.due es := by
  constructor
  · intro ⟨r', run, asleep⟩
    obtain ⟨fs, r'', drain, last, _⟩ := drain_of_run h awake run
    obtain ⟨rfl, _⟩ := eq_nil_of_asleep asleep last
    rwa [List.append_nil] at drain
  · intro drain
    obtain ⟨r', run, asleep, _⟩ := exists_run_of_drain h awake drain
    exact ⟨r', run, asleep⟩

end Relay

namespace Forwarder

variable {f : Forwarder} {r r' : Relay} {e : Event} {es : List Event} {group : Pid}

/-- What happens while the forwarder is attached and nobody asks it to stop. -/
def Event.IsUndisturbed : Event → Prop
  | .arrive _ | .relay _ => True
  | _ => False

theorem run_relay_iff {events : List Relay.Event} :
    Run Steps (.attached r) (events.map .relay) f ↔
      ∃ r', f = .attached r' ∧ Run Relay.Steps r events r' := by
  induction events generalizing r with
  | nil => simp [eq_comm]
  | cons e rest ih =>
    constructor
    · intro run
      cases run with
      | cons step run =>
        cases step.moves with
        | relay moves =>
          obtain ⟨r', rfl, later⟩ := ih.1 run
          exact ⟨r', rfl, .cons (Relay.step_eq_some.2 moves) later⟩
    · rintro ⟨r', rfl, run⟩
      cases run with
      | cons step run =>
        exact .cons (steps_iff.2 (.relay (Relay.step_eq_some.1 step))) (ih.2 ⟨r', rfl, run⟩)

theorem run_arrivals {arrivals : List Signal}
    (run : Run Steps (.attached r) (arrivals.map .arrive) f) :
    f = .attached (arrivals.foldl Relay.arrive r) := by
  induction arrivals generalizing r with
  | nil => exact (Run.nil_iff.1 run).symm
  | cons s rest ih =>
    cases run with
    | cons step run =>
      cases step.moves
      exact ih run

end Forwarder

namespace Relay

variable {r : Relay} {arrivals : List Signal} {group : Pid}

theorem receivers_arrivals (r : Relay) (arrivals : List Signal) :
    (arrivals.foldl arrive r).receivers = arrivals.foldl Receivers.arrive r.receivers := by
  induction arrivals generalizing r with
  | nil => rfl
  | cons s rest ih => rw [List.foldl_cons, ih, arrive_receivers, List.foldl_cons]

theorem asleep_arrive (awake : r.asleep = false) (s : Signal) : (r.arrive s).asleep = false := by
  simp only [Relay.arrive]
  split
  · rfl
  · exact awake

theorem asleep_arrivals (awake : r.asleep = false) (arrivals : List Signal) :
    (arrivals.foldl arrive r).asleep = false := by
  induction arrivals generalizing r with
  | nil => exact awake
  | cons s rest ih => exact ih (asleep_arrive awake s)

theorem Calm.awake_arrive (h : r.Calm) {s : Signal} (hs : s ∈ forwarded) :
    (r.arrive s).asleep = false := by
  cases asleep : r.asleep with
  | false => exact asleep_arrive asleep s
  | true =>
    have watched := (h asleep).2
    simp [Relay.arrive, watched, hs]

theorem Calm.awake_arrivals (h : r.Calm) {s : Signal} (hs : s ∈ forwarded)
    (arrived : s ∈ arrivals) : (arrivals.foldl Relay.arrive r).asleep = false := by
  induction arrivals generalizing r with
  | nil => cases arrived
  | cons x rest ih =>
    cases arrived with
    | head => exact asleep_arrivals (h.awake_arrive hs) rest
    | tail _ later => exact ih (h.arrive x) later

/-- The first of the forwarded signals that is held. -/
def IsFirst (r : Relay) (s : Signal) : Prop :=
  r.receivers.held s = true ∧ ∃ before after, forwarded = before ++ s :: after ∧
    ∀ x ∈ before, r.receivers.held x = false

theorem isFirst_of_next? {s : Signal} (next : r.receivers.next? = some s) : r.IsFirst s := by
  obtain ⟨held, before, after, split, none⟩ := List.find?_eq_some_iff_append.1 next
  exact ⟨held, before, after, split, by simpa using none⟩

/-- How a relay to this group deals with what it holds. -/
structure Orderly (group : Pid) (r : Relay) : Prop where
  toGroup : r.group = group
  order : r.receivers.due.Sublist (forwardedStandard ++ realtime) ∧ r.receivers.due.Nodup ∧
    realtime.Pairwise (· < ·) ∧ ∀ s, s ∈ realtime ↔ realtimeMin ≤ s ∧ s ≤ realtimeMax
  sends : ∀ s result f, Forwarder.Steps (.attached r) (.relay (.send s result)) f →
    r.IsFirst s ∧ result ≠ .skipped ∧ ∃ r', f = .attached r' ∧
      ∀ x, r'.receivers.held x = true ↔ r.receivers.held x = true ∧ x ≠ s
  sleeps : ∀ f, Forwarder.Steps (.attached r) (.relay .sleep) f →
    (∀ s ∈ forwarded, r.receivers.held s = false) ∧
      ∃ r', f = .attached r' ∧ r'.asleep = true ∧ ∀ s ∈ forwarded, s ∈ r'.watched
  /-- While it sleeps there is nothing to relay, and whatever may come wakes it. -/
  calm : r.asleep = true → ∀ s ∈ forwarded, r.receivers.held s = false ∧ s ∈ r.watched ∧
    (r.arrive s).asleep = false
  /-- While it is awake it goes on, but it does not stop by itself. -/
  awake : r.asleep = false → (∃ e f, Forwarder.Steps (.attached r) (.relay e) f) ∧
    ∀ f, ¬Forwarder.Steps (.attached r) (.relay .stop) f
  /-- Neither the order nor the number of arrivals matters. -/
  arrivals : ∀ (arrived : List Signal) f,
    Run Forwarder.Steps (.attached r) (arrived.map .arrive) f → ∃ r', f = .attached r' ∧
      r'.receivers.due = forwarded.filter (fun s => r.receivers.held s || arrived.contains s) ∧
      ∀ s ∈ arrived, s ∈ forwarded → r'.asleep = false
  /-- Until something arrives it relays just what it holds and then sleeps. -/
  drains : r.asleep = false → ∀ es,
    (∃ r', Run Forwarder.Steps (.attached r) (es.map .relay) (.attached r') ∧
      r'.asleep = true) ↔ Drain r.receivers.due es
  once : ∀ es, Drain r.receivers.due es →
    es.filterMap Event.signal? = r.receivers.due ∧ es.length = r.receivers.due.length + 1
  /-- Whatever it has relayed of this so far, it comes to an end with nothing held. -/
  ends : r.asleep = false → ∀ es f, Run Forwarder.Steps (.attached r) (es.map .relay) f →
    ∃ fs r', Drain r.receivers.due (es ++ fs) ∧
      Run Forwarder.Steps f (fs.map .relay) (.attached r') ∧ r'.asleep = true ∧
      ∀ s ∈ forwarded, r'.receivers.held s = false

theorem not_held_of_due (nothing : r.receivers.due = []) :
    ∀ s ∈ forwarded, r.receivers.held s = false := by
  intro s hs
  have none := List.filter_eq_nil_iff.1 nothing s hs
  rwa [Bool.not_eq_true] at none

theorem Calm.orderly (h : r.Calm) (goesOn : r.GoesOn) : Orderly r.group r where
  toGroup := rfl
  order := ⟨List.filter_sublist, r.receivers.nodup_due, pairwise_realtime, fun _ => mem_realtime⟩
  sends s result f step := by
    cases step.moves with
    | relay moves =>
      cases moves with
      | send _ _ _ next passed =>
        exact ⟨isFirst_of_next? next, passed, _, rfl, fun _ => Receivers.take_held⟩
  sleeps f step := by
    cases step.moves with
    | relay moves =>
      cases moves with
      | sleep _ _ _ nothing =>
        have none := not_held_of_due (Receivers.due_eq_nil_iff.2 nothing)
        exact ⟨none, _, rfl, rfl, fun _ hs => hs⟩
  calm asleep s hs := by
    obtain ⟨nothing, watched⟩ := h asleep
    have none := not_held_of_due (Receivers.due_eq_nil_iff.2 nothing)
    exact ⟨none s hs, watched ▸ hs, h.awake_arrive hs⟩
  awake awake := by
    constructor
    · obtain ⟨es, drain⟩ := exists_drain r.receivers.due
      obtain ⟨r', run, _⟩ := exists_run_of_drain goesOn awake drain
      cases es with
      | nil => exact nomatch drain.length
      | cons e es =>
        cases run with
        | cons step _ => exact ⟨e, _, Forwarder.steps_iff.2 (.relay (step_eq_some.1 step))⟩
    · intro f step
      cases step.moves with
      | relay moves =>
        cases moves with
        | stop _ _ requested => simp [goesOn.2] at requested
  arrivals arrivals f run := by
    refine ⟨_, Forwarder.run_arrivals run, ?_, fun s arrived hs => h.awake_arrivals hs arrived⟩
    rw [receivers_arrivals, Receivers.due_arrivals]
  drains awake es := by
    rw [← drains_iff goesOn awake]
    simp [Forwarder.run_relay_iff]
  once _ drain := ⟨drain.sent, drain.length⟩
  ends awake es f run := by
    obtain ⟨r', rfl, own⟩ := Forwarder.run_relay_iff.1 run
    obtain ⟨fs, r'', drain, rest, asleep, nothing⟩ := drain_of_run goesOn awake own
    exact ⟨fs, r'', drain, Forwarder.run_relay_iff.2 ⟨r'', rfl, rest⟩, asleep,
      not_held_of_due nothing⟩

end Relay

namespace Forwarder

variable {f f' : Forwarder} {r : Relay} {e : Event} {es : List Event} {group : Pid}
variable {receivers : Receivers}

/-- Attached to this group and not asked to stop. -/
def Relays (group : Pid) (f : Forwarder) : Prop :=
  ∃ r, f = .attached r ∧ r.group = group ∧ r.GoesOn ∧ r.Calm

theorem Relays.step (h : f.Relays group) (undisturbed : e.IsUndisturbed) (step : Steps f e f') :
    f'.Relays group := by
  obtain ⟨r, rfl, same, goesOn, calm⟩ := h
  cases step.moves with
  | @arrive _ s =>
    exact ⟨r.arrive s, rfl, Relay.arrive_group.trans same, goesOn.arrive s, calm.arrive s⟩
  | @relay _ e r' moves =>
    have goesOn' := goesOn.step (Relay.step_eq_some.2 moves)
    refine ⟨r', rfl, ?_, goesOn', moves.calm⟩
    cases moves <;> exact same
  | register | requestStop | detach | drop => cases undisturbed

/-- From its attachment on, as long as nobody asks it to stop. -/
theorem relays_in_order (run : Run Steps (.attached { group, receivers }) es f)
    (undisturbed : ∀ e ∈ es, e.IsUndisturbed) :
    ∃ r, f = .attached r ∧ Relay.Orderly group r := by
  have relays : f.Relays group :=
    run.keeps_along (P := (Relays group ·)) (fun label h step => h.step label step) undisturbed
      ⟨_, rfl, rfl, ⟨rfl, rfl⟩, nofun⟩
  obtain ⟨r, rfl, rfl, goesOn, calm⟩ := relays
  exact ⟨r, rfl, calm.orderly goesOn⟩

/-- A hangup is held from before, and a termination request arrives twice, after a real-time
signal that is relayed after it. -/
def crossing : List Event :=
  [.arrive 64, .arrive 15, .arrive 15, .relay (.send 1 .delivered), .arrive 17]

theorem relays_in_order_crossing : ∃ f r,
    Run Steps (.attached { group := 7, receivers := { held := (· == 1) } }) crossing f ∧
    (∀ e ∈ crossing, e.IsUndisturbed) ∧ f = .attached r ∧ Relay.Orderly 7 r ∧
    r.receivers.due = [15, 64] := by
  have undisturbed : ∀ e ∈ crossing, e.IsUndisturbed := by simp [crossing, Event.IsUndisturbed]
  have reached : ∃ f, Run Steps (.attached { group := 7, receivers := { held := (· == 1) } })
      crossing f ∧ ∃ r, f = .attached r ∧ r.receivers.due = [15, 64] := by
    refine Run.exists_cons rfl ?_
    refine Run.exists_cons rfl ?_
    refine Run.exists_cons rfl ?_
    refine Run.exists_cons rfl ?_
    refine Run.exists_cons rfl ?_
    exact ⟨_, .nil, _, rfl, by decide⟩
  obtain ⟨f, run, r, rfl, due⟩ := reached
  obtain ⟨r', same, orderly⟩ := relays_in_order run undisturbed
  cases same
  exact ⟨_, r, run, undisturbed, rfl, orderly, due⟩

end Forwarder

end PidOne
