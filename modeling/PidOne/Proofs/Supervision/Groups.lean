import PidOne.Proofs.Supervision.Backing

/-!
# The groups of the commands

A relay is attached to the group of the command in progress only. As long as anybody is in the group
of an earlier command, its number is not given out again, so no later group is mistaken for it.
-/

namespace PidOne

open Kernel

/-- Without a fork there are the same children of one's own, and none of them comes to life
again. -/
structure Kernel.Ages (k k' : Children) : Prop where
  on : ∀ {i c}, k i = some c → ∃ life, k' i = some { c with life }
  back : ∀ {i c}, k' i = some c → c.own = true →
    ∃ life, k i = some { c with life } ∧ (life.isOver = true → c.life.isOver = true)

namespace Kernel

variable {k k' : Children} {i : ChildId} {c : Child} {pid : Pid} {life : Life}

theorem Ages.refl (k : Children) : Ages k k where
  on h := ⟨_, h⟩
  back h _ := ⟨_, h, id⟩

theorem Ages.set_life (known : k i = some c) (kept : c.life.isOver = false) (life : Life) :
    Ages k (k.set i { c with life }) where
  on {j d} h := by
    rw [Children.set_apply]
    split
    · subst j
      cases known.symm.trans h
      exact ⟨life, rfl⟩
    · exact ⟨d.life, h⟩
  back {j d} h _ := by
    rcases Children.of_set h with ⟨rfl, rfl⟩ | ⟨_, h⟩
    · exact ⟨c.life, known, fun past => absurd past (by simp [kept])⟩
    · exact ⟨d.life, h, id⟩

theorem Ages.set_foreign (fresh : k i = none) : Ages k (k.set i ⟨pid, false, life⟩) where
  on {j d} h := by
    rw [Children.set_of_ne (by rintro rfl; cases fresh.symm.trans h)]
    exact ⟨d.life, h⟩
  back {j d} h own := by
    rcases Children.of_set h with ⟨rfl, rfl⟩ | ⟨_, h⟩
    · cases own
    · exact ⟨d.life, h, id⟩

theorem Changes.ages {event : Event} (h : Changes k event k') : Ages k k' := by
  cases h with
  | exit known running => exact .set_life known (by simp [running, Life.isOver]) _
  | adopt fresh => exact .set_foreign fresh

theorem Passes.ages {event : Pass.Event} {child : Option ChildId}
    (h : Passes k event child k') : Ages k k' := by
  cases h with
  | lock | unlock => exact .refl k
  | wait answers =>
    cases answers with
    | ended known ended => exact .set_life known (by simp [ended, Life.isOver]) _
    | _ => exact .refl k

theorem Starts.ages {event : Spawning.Event} {child child' : Option ChildId}
    (h : Starts k child event child' k') (unforked : ∀ pid, event ≠ .fork (.ok pid)) :
    Ages k k' := by
  cases h with
  | fork => exact absurd rfl (unforked _)
  | discard known ended => exact .set_life known (by simp [ended, Life.isOver]) _
  | _ => exact .refl k

end Kernel

namespace Supervision

structure Grouped (s : Supervision) : Prop where
  numbered : ∀ i c, s.children i = some c → c.own = true →
    2 ≤ c.pid ∧ c.pid ≤ 2147483647 ∧ c.pid ≠ s.group
  /-- Nobody is left in an earlier group of the same number. -/
  latest : ∀ i, s.child = some i → ∃ c, s.children i = some c ∧ c.own = true ∧
    ∀ j d, s.children j = some d → d.own = true → d.pid = c.pid → j ≠ i → ¬s.Peopled j d
  attached : ∀ g, s.supervisor.runner.forwarder.group? = some g →
    ∃ i c, s.child = some i ∧ s.children i = some c ∧ c.own = true ∧ c.pid = g

variable {s s' : Supervision} {m : Shared} {e : Event}

theorem Grouped.start (config : Config) (version : String) (self group : Pid) :
    (start config version self group).Grouped := ⟨nofun, nofun, nofun⟩

theorem Grouped.ages (h : s.Grouped) (ages : Ages s.children s'.children)
    (group : s'.group = s.group) (child : ∀ i, s'.child = some i → s.child = some i)
    (entered : ∀ j d, s.children j = some d → s'.crowded j = true → s.Peopled j d)
    (attached : ∀ g, s'.supervisor.runner.forwarder.group? = some g →
      s.supervisor.runner.forwarder.group? = some g ∧ s'.child = s.child ∨
        ∃ i c, s'.child = some i ∧ s.children i = some c ∧ c.own = true ∧ c.pid = g) :
    s'.Grouped where
  numbered i c known own := by
    obtain ⟨life, before, _⟩ := ages.back known own
    rw [group]
    exact h.numbered i { c with life } before own
  latest i mine := by
    obtain ⟨c, known, own, alone⟩ := h.latest i (child i mine)
    obtain ⟨life, known'⟩ := ages.on known
    refine ⟨_, known', own, fun j d hd own' same ne peopled => ?_⟩
    obtain ⟨life', before, ended⟩ := ages.back hd own'
    -- Nobody enters a group that nobody is in, so who is in it now has been in it before.
    refine alone j _ before own' same ne ?_
    rcases peopled with kept | crowded
    · refine .inl ?_
      by_contra past
      rw [Bool.not_eq_false] at past
      cases kept.symm.trans (ended past)
    · exact entered j _ before crowded
  attached g bound := by
    obtain ⟨i, c, mine, known, own, pid⟩ : ∃ i c, s'.child = some i ∧ s.children i = some c ∧
        c.own = true ∧ c.pid = g := by
      rcases attached g bound with ⟨before, same⟩ | new
      · rw [same]
        exact h.attached g before
      · exact new
    obtain ⟨life, known'⟩ := ages.on known
    exact ⟨i, _, mine, known', own, pid⟩

theorem Grouped.fork (h : s.Grouped) {i : ChildId} {pid : Pid} (fresh : s.children i = none)
    (unused : s.Unused pid) (group : s'.group = s.group) (crowded : s'.crowded = s.crowded)
    (children : s'.children = s.children.set i ⟨pid, true, .running⟩) (child : s'.child = some i)
    (unattached : s'.supervisor.runner.forwarder.group? = none) : s'.Grouped where
  numbered j c known own := by
    rw [children] at known
    rw [group]
    rcases Children.of_set known with ⟨rfl, rfl⟩ | ⟨_, known⟩
    · exact ⟨unused.above, unused.below, unused.elsewhere⟩
    · exact h.numbered j c known own
  latest j mine := by
    cases child.symm.trans mine
    refine ⟨_, children ▸ Children.set_self .., rfl, fun j d hd own same ne => ?_⟩
    rw [children, Children.set_of_ne ne] at hd
    rw [Peopled, crowded]
    exact unused.empty j d hd own same
  attached g bound := by
    cases unattached.symm.trans bound

theorem Serves.ages {event : Supervisor.Event} {forked : Option ChildId} {k : Children}
    (h : s.Serves event forked k) (unforked : ∀ pid, event ≠ .runner (.spawn (.fork (.ok pid)))) :
    Ages s.children k := by
  cases h with
  | spawn starts => exact starts.ages fun pid same => unforked pid (by rw [same])
  | pass passes => exact passes.ages
  | _ => exact .refl _

theorem Runner.IsIdle.group? {r : Runner} (h : r.IsIdle) : r.forwarder.group? = none := by
  obtain ⟨receivers, rfl⟩ := h
  cases receivers <;> rfl

theorem unattached {s v : Supervisor} (staged : s.Staged) (moves : Supervisor.Moves s .advance v) :
    v.runner.forwarder.group? = none := by
  cases moves with
  | begin | finish => rfl
  | log head | adoptOrphans head | startReaper head | requestStop head | stopped head =>
    exact Runner.IsIdle.group? (staged.idle (by simp [head]))
  | receiveSignals head => exact Runner.IsIdle.group? (staged.idle (by simp [head])).register

theorem Serves.child {event : Supervisor.Event} {forked : Option ChildId} {k : Children}
    (h : s.Serves event forked k) (unforked : ∀ pid, event ≠ .runner (.spawn (.fork (.ok pid)))) :
    ∀ i, forked = some i → s.child = some i := by
  cases h with
  | advance => exact nofun
  | spawn starts =>
    generalize s.child = child at starts
    cases starts with
    | fork => exact absurd rfl (unforked _)
    | _ => exact fun _ => id
  | _ => exact fun _ => id

/-- The runner attaches a relay to the group of the child that it has started. -/
theorem attached_of_runner (backed : Backed s m) {x : Runner.Event} {r' : Runner} {t' : Table}
    {forked : Option ChildId} {k : Children} {g : Pid}
    (moves : Runner.Moves Supervisor.mainTask s.supervisor.table s.supervisor.runner x r' t')
    (serves : s.Serves (.runner x) forked k) (bound : r'.forwarder.group? = some g) :
    s.supervisor.runner.forwarder.group? = some g ∧ forked = s.child ∨
      ∃ i c, forked = some i ∧ s.children i = some c ∧ c.own = true ∧ c.pid = g := by
  rcases moves.group? bound with ⟨before, unspawned⟩ | ⟨handle, relay, rfl, rfl⟩
  · cases serves with
    | spawn => exact absurd rfl (unspawned _)
    | runner => exact .inl ⟨before, rfl⟩
  · generalize ready : s.supervisor.runner = r at moves
    cases moves
    cases serves
    cases bound
    exact .inr (backed.child_of_started ready)

theorem Grouped.own (h : s.Grouped) (backed : Backed s m) (staged : s.supervisor.Staged)
    {event : Supervisor.Event} {v : Supervisor} {forked : Option ChildId} {k : Children}
    {attempts : List Attempt} (moves : Supervisor.Moves s.supervisor event v)
    (serves : s.Serves event forked k) :
    Grouped { s with supervisor := v, children := k, child := forked, attempts } := by
  -- Only a fork brings a new group, and it brings one that nobody is in.
  by_cases forks : ∃ pid, event = .runner (.spawn (.fork (.ok pid)))
  · obtain ⟨pid, rfl⟩ := forks
    cases serves with
    | runner other => exact absurd rfl (other _)
    | spawn starts unused =>
      generalize s.child = child at starts
      cases starts with
      | fork fresh =>
        refine h.fork fresh (unused _ rfl) rfl rfl rfl rfl ?_
        cases moves with
        | runner _ _ moves =>
          generalize s.supervisor.runner = r at moves
          cases moves
          rfl
  · have unforked := not_exists.1 forks
    refine h.ages (serves.ages unforked) rfl (serves.child unforked) (fun _ _ _ => .inr)
      fun g bound => ?_
    cases event with
    | advance => cases (unattached staged moves).symm.trans bound
    | runner x =>
      cases moves with
      | runner _ _ moves => exact attached_of_runner backed moves serves bound
    | reaper x =>
      cases moves
      exact .inl ⟨bound, by cases serves <;> rfl⟩
    | signal x =>
      cases moves
      cases serves
      rw [Runner.arrive_forwarder, Forwarder.Moves.group?_eq .arrive id] at bound
      exact .inl ⟨bound, rfl⟩

theorem Grouped.step (h : s.Grouped) (backed : Backed s m) (staged : s.supervisor.Staged)
    (step : Step s e s') : s'.Grouped := by
  cases step with
  | kernel changes =>
    exact h.ages changes.ages rfl (fun _ => id) (fun _ _ _ => .inr) fun _ bound => .inl ⟨bound, rfl⟩
  | @crowd i c b known peopled =>
    refine h.ages (.refl _) rfl (fun _ => id) (fun j d hd crowded => ?_)
      fun _ bound => .inl ⟨bound, rfl⟩
    by_cases hj : j = i
    · subst j
      cases known.symm.trans hd
      exact peopled
    · exact .inr (by simpa [Function.update_of_ne hj] using crowded)
  | own step serves => exact h.own backed staged (.of_step step) serves

theorem grouped_of_run {config : Config} {version : String} {self group : Pid} {es : List Event}
    (run : Run Step (start config version self group) es s) : s.Grouped := by
  exact keeps_of_run (fun staged backed h step => h.step backed staged step) run
    (.start config version self group)

end Supervision

end PidOne
