import PidOne.Table

/-!
# Tables and their clones

A table lives as long as one of its clones does, whoever holds it: a caller, a reaper or a
runner. With the last clone the table is closed.
-/

namespace PidOne

structure Registry where
  /-- The tables, each with the number of its clones. -/
  tables : List (Table × Nat) := []

namespace Registry

def create (r : Registry) : Registry × Nat :=
  ({ tables := r.tables ++ [({}, 1)] }, r.tables.length)

def get (r : Registry) (table : Nat) : Table := (r.tables[table]?.map (·.1)).getD {}

def isAlive (r : Registry) (table : Nat) : Bool := r.tables[table]?.any (·.2 > 0)

def set (r : Registry) (table : Nat) (t : Table) : Registry :=
  { tables := r.tables.modify table fun x => (t, x.2) }

def clone (r : Registry) (table : Nat) : Registry :=
  { tables := r.tables.modify table fun x => (x.1, x.2 + 1) }

def release (r : Registry) (table : Nat) : Registry :=
  { tables := r.tables.modify table fun x =>
      if x.2 ≤ 1 then (x.1.close, 0) else (x.1, x.2 - 1) }

end Registry

end PidOne
