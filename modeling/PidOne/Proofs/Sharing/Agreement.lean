import PidOne.Proofs.Sharing
import PidOne.Proofs.Table.Waiters

/-!
# Agreement of table, kernel and handles

The slot of a handle follows from the life of the child that was forked for it, and the table
waits for just those PIDs that the kernel keeps for such children. Every change to one of the
three keeps this agreement.
-/

namespace PidOne.Shared

open Kernel

/-- What the slot of a handle holds. A status that comes for nobody is not kept. -/
inductive Settles (pid : Pid) : Life → Custody → Slot → Prop
  | waiting (kept : life.isOver = false) (wanted : custody = .issuing ∨ custody = .held) :
    Settles pid life custody .waiting
  | unwanted (launched : life ≠ .discarded) : Settles pid life .dropped .unwanted
  | filled (h : ∀ answer, custody = .answered answer → answer = .ok (e.status pid)) :
    Settles pid (.collected e) custody (.filled (e.status pid))

theorem Settles.of_kept {pid life life' custody slot} (h : Settles pid life custody slot)
    (kept : life.isOver = false) (kept' : life'.isOver = false) :
    Settles pid life' custody slot := by
  cases h with
  | waiting _ wanted => exact .waiting kept' wanted
  | unwanted =>
    refine .unwanted ?_
    rintro rfl
    simp [Life.isOver] at kept'
  | filled => simp [Life.isOver] at kept

theorem Settles.collect {pid life custody slot} (h : Settles pid life custody slot)
    (kept : life.isOver = false) (e : Ending) :
    Settles pid (.collected e) custody (slot.fill (e.status pid)) := by
  cases h with
  | waiting _ wanted =>
    refine .filled fun answer h => ?_
    rcases wanted with rfl | rfl <;> cases h
  | unwanted => exact .unwanted nofun
  | filled => simp [Life.isOver] at kept

theorem Settles.give {pid life slot} (h : Settles pid life .issuing slot) :
    Settles pid life .held slot := by
  cases h with
  | waiting kept => exact .waiting kept (.inr rfl)
  | filled => exact .filled fun _ h => by cases h

theorem Settles.receive {pid life slot answer} (h : Settles pid life .held slot) {q : Pid}
    (answers : slot.answer? q = some answer) : Settles pid life (.answered answer) slot := by
  cases h with
  | waiting => cases answers
  | filled =>
    cases answers
    exact .filled fun _ h => by cases h; rfl

theorem Settles.answer?_eq {pid life custody slot} (h : Settles pid life custody slot)
    (kept : custody ≠ .dropped) (q : Pid) :
    slot.answer? q = life.answer? pid := by
  cases h with
  | waiting kept => cases life <;> simp_all [Life.isOver, Life.answer?, Slot.answer?]
  | unwanted => exact absurd rfl kept
  | filled => rfl

theorem Settles.answered {pid life slot answer} (h : Settles pid life (.answered answer) slot)
    (q : Pid) : slot.answer? q = some answer := by
  cases h with
  | waiting _ wanted => simp at wanted
  | filled same => rw [same answer rfl, Slot.answer?]

theorem Settles.drop {pid life slot} (h : Settles pid life .held slot) :
    Settles pid life .dropped slot.disown := by
  cases h with
  | waiting kept =>
    refine .unwanted ?_
    rintro rfl
    simp [Life.isOver] at kept
  | filled => exact .filled fun _ h => by cases h

structure Backs (t : Table) (k : Children) (n : Nat) (ticket : Ticket) (c : Child) (slot : Slot) :
    Prop where
  number : ticket.handle.slot = n
  known : k ticket.child = some c
  own : c.own = true
  pid : c.pid = ticket.handle.pid
  stands : t.slots[n]? = some slot
  settles : Settles c.pid c.life ticket.custody slot

structure Agree (t : Table) (k : Children) (tickets : List Ticket) : Prop where
  length : t.slots.length = tickets.length
  backs : ∀ n ticket, tickets[n]? = some ticket → ∃ c slot, Backs t k n ticket c slot
  waits : ∀ pid n, t.waiter? pid = some n ↔ ∃ ticket c, tickets[n]? = some ticket ∧
    ticket.handle.pid = pid ∧ k ticket.child = some c ∧ c.life.isOver = false
  distinct : ∀ (m n : Nat) (a b : Ticket), tickets[m]? = some a → tickets[n]? = some b →
    a.child = b.child → m = n

variable {t : Table} {k k' : Children} {tickets : List Ticket} {n m : Nat} {i : ChildId}
variable {c : Child} {ticket : Ticket} {pid : Pid} {life : Life} {custody : Custody}
variable {slot : Slot} {e : Ending}

namespace Agree

/-- The lives of children may change as long as the kernel keeps the same ones of those that have
handles. -/
theorem children (h : Agree t k tickets)
    (same : ∀ ticket ∈ tickets, ∀ c, k ticket.child = some c → ∃ life,
      k' ticket.child = some { c with life } ∧
        (life = c.life ∨ c.life.isOver = false ∧ life.isOver = false)) :
    Agree t k' tickets where
  length := h.length
  backs n ticket hn := by
    obtain ⟨c, slot, b⟩ := h.backs n ticket hn
    obtain ⟨life, hk, hlife⟩ := same ticket (List.mem_of_getElem? hn) c b.known
    refine ⟨_, slot, b.number, hk, b.own, b.pid, b.stands, ?_⟩
    rcases hlife with rfl | ⟨kept, kept'⟩
    · exact b.settles
    · exact b.settles.of_kept kept kept'
  waits pid n := by
    rw [h.waits]
    constructor
    · rintro ⟨ticket, c, hn, hpid, hc, kept⟩
      obtain ⟨life, hk, hlife⟩ := same ticket (List.mem_of_getElem? hn) c hc
      refine ⟨ticket, _, hn, hpid, hk, ?_⟩
      rcases hlife with rfl | ⟨_, kept'⟩
      · exact kept
      · exact kept'
    · rintro ⟨ticket, c', hn, hpid, hc', kept'⟩
      obtain ⟨c, slot, b⟩ := h.backs n ticket hn
      obtain ⟨life, hk, hlife⟩ := same ticket (List.mem_of_getElem? hn) c b.known
      obtain rfl : { c with life } = c' := Option.some.inj (hk.symm.trans hc')
      refine ⟨ticket, c, hn, hpid, b.known, ?_⟩
      rcases hlife with rfl | ⟨kept, _⟩
      · exact kept'
      · exact kept
  distinct := h.distinct

theorem hold (h : Agree t k tickets) (holder : Option TaskId) :
    Agree { t with holder } k tickets where
  length := h.length
  backs n ticket hn := by
    obtain ⟨c, slot, b⟩ := h.backs n ticket hn
    exact ⟨c, slot, b.number, b.known, b.own, b.pid, b.stands, b.settles⟩
  waits := h.waits
  distinct := h.distinct

theorem set_other (h : Agree t k tickets) (other : ∀ ticket ∈ tickets, ticket.child ≠ i)
    (c : Child) : Agree t (k.set i c) tickets :=
  h.children fun ticket hticket d hd =>
    ⟨d.life, by rw [Children.set_of_ne (other ticket hticket), hd], .inl rfl⟩

theorem ne_of_fresh (h : Agree t k tickets) (fresh : k i = none) :
    ∀ ticket ∈ tickets, ticket.child ≠ i := by
  rintro ticket hticket rfl
  obtain ⟨n, hn⟩ := List.getElem?_of_mem hticket
  obtain ⟨c, slot, b⟩ := h.backs n ticket hn
  exact nomatch fresh.symm.trans b.known

theorem exit (h : Agree t k tickets) (known : k i = some c) (kept : c.life.isOver = false)
    (kept' : life.isOver = false) : Agree t (k.set i { c with life }) tickets := by
  refine h.children fun ticket hticket d hd => ?_
  by_cases hi : ticket.child = i
  · obtain rfl : c = d := by simpa [hi, known] using hd
    exact ⟨life, by rw [hi, Children.set_self], .inr ⟨kept, kept'⟩⟩
  · exact ⟨d.life, by rw [Children.set_of_ne hi, hd], .inl rfl⟩

/-- Who waits under the PID that the kernel keeps for a child has the handle of this child. -/
theorem child_eq (h : Agree t k tickets) (hk : k.Distinct) (known : k i = some c)
    (kept : c.life.isOver = false) {d : Child} (hn : tickets[n]? = some ticket)
    (hd : k ticket.child = some d) (hpid : ticket.handle.pid = c.pid)
    (kept' : d.life.isOver = false) : ticket.child = i := by
  obtain ⟨d', slot, b⟩ := h.backs n ticket hn
  obtain rfl : d = d' := Option.some.inj (hd.symm.trans b.known)
  exact hk _ _ _ _ hd known (b.pid.trans hpid) kept' kept

theorem waiter?_eq_none (h : Agree t k tickets) (hk : k.Distinct) (known : k i = some c)
    (kept : c.life.isOver = false) (other : ∀ ticket ∈ tickets, ticket.child ≠ i) :
    t.waiter? c.pid = none := by
  by_contra hw
  obtain ⟨n, hn⟩ := Option.ne_none_iff_exists'.1 hw
  obtain ⟨ticket, d, hticket, hpid, hd, kept'⟩ := (h.waits c.pid n).1 hn
  exact other ticket (List.mem_of_getElem? hticket)
    (h.child_eq hk known kept hticket hd hpid kept')

theorem register (h : Agree t k tickets) (hk : k.Distinct) (known : k i = some c)
    (own : c.own = true) (kept : c.life.isOver = false)
    (other : ∀ ticket ∈ tickets, ticket.child ≠ i) :
    Agree (t.register c.pid).1 k (tickets ++ [⟨(t.register c.pid).2, i, .issuing⟩]) := by
  have free := h.waiter?_eq_none hk known kept other
  rw [Table.register_of_waiter?_eq_none free]
  constructor
  · simp [h.length]
  · intro n ticket hn
    rcases getElem?_concat_eq_some.1 hn with hn | ⟨rfl, rfl⟩
    · obtain ⟨d, slot, b⟩ := h.backs n ticket hn
      exact ⟨d, slot, b.number, b.known, b.own, b.pid,
        getElem?_concat_eq_some.2 (.inl b.stands), b.settles⟩
    · exact ⟨c, .waiting, h.length, known, own, rfl,
        getElem?_concat_eq_some.2 (.inr ⟨h.length.symm, rfl⟩), .waiting kept (.inl rfl)⟩
  · intro pid n
    rw [Table.waiter?_cons]
    split
    · subst pid
      constructor
      · rintro ⟨⟩
        exact ⟨_, c, getElem?_concat_eq_some.2 (.inr ⟨h.length, rfl⟩), rfl, known, kept⟩
      · rintro ⟨ticket, d, hn, hpid, hd, kept'⟩
        rcases getElem?_concat_eq_some.1 hn with hn | ⟨rfl, rfl⟩
        · have hw := (h.waits c.pid n).2 ⟨ticket, d, hn, hpid, hd, kept'⟩
          simp [free] at hw
        · rw [h.length]
    · rename_i hp
      rw [h.waits]
      constructor
      · rintro ⟨ticket, d, hn, rest⟩
        exact ⟨ticket, d, getElem?_concat_eq_some.2 (.inl hn), rest⟩
      · rintro ⟨ticket, d, hn, hpid, rest⟩
        rcases getElem?_concat_eq_some.1 hn with hn | ⟨rfl, rfl⟩
        · exact ⟨ticket, d, hn, hpid, rest⟩
        · exact absurd hpid.symm hp
  · intro m n a b ha hb hab
    rcases getElem?_concat_eq_some.1 ha with ha | ⟨rfl, rfl⟩ <;>
      rcases getElem?_concat_eq_some.1 hb with hb | ⟨rfl, rfl⟩
    · exact h.distinct m n a b ha hb hab
    · exact absurd hab (other a (List.mem_of_getElem? ha))
    · exact absurd hab.symm (other b (List.mem_of_getElem? hb))
    · rfl

/-- After the collection of a child the table waits for all other PIDs as before. -/
theorem waits_collect (h : Agree t k tickets) (hk : k.Distinct) (known : k i = some c)
    (kept : c.life.isOver = false) (e : Ending) (pid : Pid) (n : Nat) :
    (t.collect (e.status c.pid)).waiter? pid = some n ↔ ∃ ticket d, tickets[n]? = some ticket ∧
      ticket.handle.pid = pid ∧ k.set i { c with life := .collected e } ticket.child = some d ∧
        d.life.isOver = false := by
  rw [Table.waiter?_collect, Ending.pid_status]
  constructor
  · intro hw
    split at hw
    · cases hw
    · rename_i hp
      obtain ⟨ticket, d, hn, hpid, hd, kept'⟩ := (h.waits pid n).1 hw
      have hi : ticket.child ≠ i := by
        intro hi
        obtain ⟨d', slot, b⟩ := h.backs n ticket hn
        obtain rfl : c = d' := Option.some.inj (known.symm.trans (hi ▸ b.known))
        exact hp (hpid.symm.trans b.pid.symm)
      exact ⟨ticket, d, hn, hpid, by rwa [Children.set_of_ne hi], kept'⟩
  · rintro ⟨ticket, d, hn, hpid, hd, kept'⟩
    by_cases hi : ticket.child = i
    · rw [hi, Children.set_self, Option.some.injEq] at hd
      simp [← hd, Life.isOver] at kept'
    · rw [Children.set_of_ne hi] at hd
      rw [if_neg, h.waits]
      · exact ⟨ticket, d, hn, hpid, hd, kept'⟩
      · rintro rfl
        exact hi (h.child_eq hk known kept hn hd hpid kept')

/-- A pass hands the status of a child to the holder of its handle, if it has one. -/
theorem collect (h : Agree t k tickets) (hk : k.Distinct) (known : k i = some c)
    (kept : c.life.isOver = false) (e : Ending) :
    Agree (t.collect (e.status c.pid)) (k.set i { c with life := .collected e }) tickets := by
  have waits := h.waits_collect hk known kept e
  cases hw : t.waiter? c.pid with
  | none =>
    -- With a handle it would be waited for, so the child has none.
    rw [Table.collect_of_waiter?_eq_none (by simpa using hw)]
    refine h.set_other (fun ticket hticket hi => ?_) _
    obtain ⟨n, hn⟩ := List.getElem?_of_mem hticket
    obtain ⟨d, slot, b⟩ := h.backs n ticket hn
    obtain rfl : c = d := Option.some.inj (known.symm.trans (hi ▸ b.known))
    have := (h.waits c.pid n).2 ⟨ticket, c, hn, b.pid.symm, b.known, kept⟩
    simp [hw] at this
  | some m =>
    obtain ⟨mine, d, hm, hpid, hd, kept'⟩ := (h.waits c.pid m).1 hw
    have hmine := h.child_eq hk known kept hm hd hpid kept'
    rw [Table.collect_of_waiter?_eq_some (by simpa using hw)] at waits ⊢
    refine ⟨by simp [h.length], fun n ticket hn => ?_, waits, h.distinct⟩
    obtain ⟨d, slot, b⟩ := h.backs n ticket hn
    by_cases hi : ticket.child = i
    · obtain rfl := h.distinct n m ticket mine hn hm (hi.trans hmine.symm)
      obtain rfl : c = d := Option.some.inj (known.symm.trans (hi ▸ b.known))
      exact ⟨{ c with life := .collected e }, slot.fill (e.status c.pid), b.number,
        by rw [hi, Children.set_self], b.own, b.pid, by simp [b.stands],
        b.settles.collect kept e⟩
    · have hne : m ≠ n := by
        rintro rfl
        exact hi (Option.some.inj (hn.symm.trans hm) ▸ hmine)
      exact ⟨d, slot, b.number, by rw [Children.set_of_ne hi, b.known], b.own, b.pid,
        by simp [hne, b.stands], b.settles⟩

/-- A handle passes into other hands, and its slot changes with it. -/
theorem pass (h : Agree t k tickets) (given : tickets[n]? = some ticket) {custody : Custody}
    {f : Slot → Slot}
    (fits : ∀ c slot, Backs t k n ticket c slot → Settles c.pid c.life custody (f slot)) :
    Agree (t.modifySlot n f) k (tickets.modify n (.pass custody)) := by
  have same {m : Nat} {new : Ticket} (hm : (tickets.modify n (.pass custody))[m]? = some new) :
      ∃ old, tickets[m]? = some old ∧ new.handle = old.handle ∧ new.child = old.child := by
    rw [List.getElem?_modify, Option.map_eq_map, Option.map_eq_some_iff] at hm
    obtain ⟨old, hold, rfl⟩ := hm
    exact ⟨old, hold, by split <;> rfl, by split <;> rfl⟩
  constructor
  · simp [h.length]
  · intro m new hm
    rw [List.getElem?_modify] at hm
    by_cases hne : n = m
    · subst m
      obtain rfl : new = ticket.pass custody := by simpa [given, eq_comm] using hm
      obtain ⟨c, slot, b⟩ := h.backs n ticket given
      exact ⟨c, f slot, b.number, b.known, b.own, b.pid, by simp [b.stands], fits c slot b⟩
    · obtain ⟨c, slot, b⟩ := h.backs m new (by simpa [hne] using hm)
      exact ⟨c, slot, b.number, b.known, b.own, b.pid, by simp [hne, b.stands], b.settles⟩
  · intro pid m
    rw [Table.waiter?_modifySlot, h.waits]
    constructor
    · rintro ⟨old, c, hm, hpid, hc, kept⟩
      refine ⟨if n = m then old.pass custody else old, c, by simp [hm, List.getElem?_modify], ?_,
        ?_, kept⟩ <;> split <;> assumption
    · rintro ⟨new, c, hm, hpid, hc, kept⟩
      obtain ⟨old, hold, hhandle, hchild⟩ := same hm
      exact ⟨old, c, hold, hhandle ▸ hpid, hchild ▸ hc, kept⟩
  · intro a b x y ha hb hxy
    obtain ⟨x', hx', _, hx⟩ := same ha
    obtain ⟨y', hy', _, hy⟩ := same hb
    exact h.distinct a b x' y' hx' hy' (by rw [← hx, hxy, hy])

theorem give (h : Agree t k tickets) (given : tickets[n]? = some ticket)
    (issuing : ticket.custody = .issuing) : Agree t k (tickets.modify n (.pass .held)) := by
  rw [← t.modifySlot_id n]
  exact h.pass given fun c slot b => (issuing ▸ b.settles).give

theorem receive (h : Agree t k tickets) (given : tickets[n]? = some ticket)
    (held : ticket.custody = .held) {answer : Except Failure ExitStatus}
    (answers : t.poll ticket.handle = some answer) :
    Agree t k (tickets.modify n (.pass (.answered answer))) := by
  rw [← t.modifySlot_id n]
  refine h.pass given fun c slot b => (held ▸ b.settles).receive (q := ticket.handle.pid) ?_
  simpa [Table.poll, b.number, b.stands] using answers

theorem drop (h : Agree t k tickets) (given : tickets[n]? = some ticket)
    (held : ticket.custody = .held) :
    Agree (t.drop ticket.handle) k (tickets.modify n (.pass .dropped)) := by
  obtain ⟨c, slot, b⟩ := h.backs n ticket given
  rw [Table.drop, b.number]
  exact h.pass given fun c slot b => (held ▸ b.settles).drop

/-- Waiting on a handle is answered once the child has been collected, with the child's status. -/
theorem poll (h : Agree t k tickets) (given : tickets[n]? = some ticket)
    (kept : ticket.custody ≠ .dropped) : ∃ c, k ticket.child = some c ∧
      t.poll ticket.handle = c.life.answer? c.pid := by
  obtain ⟨c, slot, b⟩ := h.backs n ticket given
  refine ⟨c, b.known, ?_⟩
  rw [Table.poll, b.number, b.stands, Option.bind_some, b.settles.answer?_eq kept]

end Agree

end PidOne.Shared
