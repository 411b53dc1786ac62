namespace Minilang

/-- Values given to names. The first entry for a name counts. -/
structure Table (α : Type) where
  entries : List (String × α)
deriving DecidableEq, Repr

namespace Table

variable {α : Type}

def empty : Table α :=
  ⟨[]⟩

def get? (table : Table α) (name : String) : Option α :=
  table.entries.lookup name

def insert (table : Table α) (name : String) (value : α) : Table α :=
  ⟨(name, value) :: table.entries⟩

def erase (table : Table α) (name : String) : Table α :=
  ⟨table.entries.filter fun entry => entry.1 != name⟩

@[simp]
theorem get?_empty (name : String) : (empty : Table α).get? name = none :=
  rfl

private theorem lookup_cons (entries : List (String × α)) (name other : String)
    (value : α) :
    ((name, value) :: entries).lookup other =
      if other = name then some value else entries.lookup other := by
  by_cases same : other = name
  · simp [same]
  · simp [List.lookup_cons, beq_eq_false_iff_ne.2 same, same]

/-- A new entry hides older ones for the same name. -/
@[simp]
theorem get?_insert (table : Table α) (name other : String) (value : α) :
    (table.insert name value).get? other =
      if other = name then some value else table.get? other := by
  exact lookup_cons table.entries name other value

@[simp]
theorem get?_erase (table : Table α) (name other : String) :
    (table.erase name).get? other = if other = name then none
    else table.get? other := by
  obtain ⟨entries⟩ := table
  simp only [get?, erase]
  induction entries with
  | nil => simp
  | cons entry rest ih =>
      obtain ⟨key, value⟩ := entry
      by_cases erased : key = name
      · subst erased
        simp only [List.filter_cons, bne_self_eq_false, Bool.false_eq_true,
          if_false, ih, lookup_cons]
        split <;> rfl
      · simp only [List.filter_cons, bne_iff_ne.2 erased, if_true,
          ih, lookup_cons]
        by_cases found : other = key
        · subst found
          simp [erased]
        · simp [found]

end Table

end Minilang
