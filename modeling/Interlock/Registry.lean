namespace Interlock

/-- Values by name, kept in the order of the names. Names are distinct and
    ascend by the code points of their characters. -/
structure Registry (α : Type) where
  entries : List (String × α) := []
  deriving Inhabited

namespace Registry

variable {α : Type}

/-- The value of a name. -/
def find? (r : Registry α) (name : String) : Option α :=
  (r.entries.find? fun e => e.1 == name).map (·.2)

/-- Whether a name has a value. -/
def contains (r : Registry α) (name : String) : Bool :=
  r.entries.any fun e => e.1 == name

/-- Puts a name into its place; a value it had is replaced. -/
def insertEntry (name : String) (a : α) : List (String × α) → List (String × α)
  | [] => [(name, a)]
  | e :: rest =>
    if e.1 == name then (name, a) :: rest
    else if name < e.1 then (name, a) :: e :: rest
    else e :: insertEntry name a rest

/-- Gives a name a value, in place of any it had. -/
def insert (r : Registry α) (name : String) (a : α) : Registry α :=
  ⟨insertEntry name a r.entries⟩

/-- Adds a name only when it is new. -/
def insertIfNew (r : Registry α) (name : String) (a : α) : Registry α :=
  if r.contains name then r else r.insert name a

/-- Changes the value of a name, if there is one. -/
def modify (r : Registry α) (name : String) (f : α → α) : Registry α :=
  ⟨r.entries.map fun e => if e.1 == name then (e.1, f e.2) else e⟩

/-- The names in order. -/
def names (r : Registry α) : List String :=
  r.entries.map (·.1)

/-- The number of names. -/
def size (r : Registry α) : Nat :=
  r.entries.length

/-- Changing the value of one name leaves the others. A name without a value
    stays without one, so nothing is asked about the name that is changed. -/
theorem find?_modify (r : Registry α) (name other : String) (f : α → α) :
    (r.modify name f).find? other =
      if other = name then (r.find? other).map f else r.find? other := by
  obtain ⟨entries⟩ := r
  simp only [find?, modify]
  induction entries with
  | nil => simp
  | cons e rest ih =>
    simp only [List.map_cons, List.find?_cons]
    by_cases hname : e.1 = name
    · by_cases hother : other = name
      · simp [hname, hother]
      · rw [if_neg hother] at ih ⊢
        simpa [hname, beq_eq_false_iff_ne.2 (Ne.symm hother)] using ih
    · by_cases hother : e.1 = other
      · simp [hname, ← hother]
      · simpa [hname, beq_eq_false_iff_ne.2 hother] using ih

/-- Changing values neither adds nor removes names. -/
theorem contains_modify (r : Registry α) (name other : String) (f : α → α) :
    (r.modify name f).contains other = r.contains other := by
  rw [contains, modify, List.any_map, contains]
  congr 1
  funext e
  rw [Function.comp_apply]
  split <;> rfl

end Registry

end Interlock
