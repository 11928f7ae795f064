import TurtleLogo.Text

/-!
# Tables

A table holds one entry per name, in the order in which the names first came.
-/

set_option autoImplicit false

namespace TurtleLogo

structure Table (α : Type) where
  entries : List (Text × α)

namespace Table

variable {α : Type}

def empty : Table α :=
  ⟨[]⟩

instance : Inhabited (Table α) :=
  ⟨empty⟩

def get? (t : Table α) (name : Text) : Option α :=
  t.entries.lookup name

def setIn (name : Text) (value : α) : List (Text × α) → List (Text × α)
  | [] => [(name, value)]
  | (key, old) :: rest =>
    if key = name then (name, value) :: rest else (key, old) :: setIn name value rest

def set (t : Table α) (name : Text) (value : α) : Table α :=
  ⟨setIn name value t.entries⟩

@[simp] theorem get?_empty (name : Text) : (empty : Table α).get? name = none :=
  rfl

theorem lookup_setIn (entries : List (Text × α)) (name other : Text) (value : α) :
    (setIn name value entries).lookup other =
      if other = name then some value else entries.lookup other := by
  induction entries with
  | nil =>
    by_cases same : other = name
    · simp [setIn, same]
    · simp [setIn, List.lookup_cons, same, beq_eq_false_iff_ne.mpr same]
  | cons entry rest ih =>
    obtain ⟨key, old⟩ := entry
    by_cases here : key = name
    · subst here
      by_cases same : other = key
      · simp [setIn, same]
      · simp [setIn, List.lookup_cons, same, beq_eq_false_iff_ne.mpr same]
    · by_cases same : other = key
      · subst same
        simp [setIn, here]
      · simp [setIn, here, List.lookup_cons, beq_eq_false_iff_ne.mpr same, ih]

@[simp] theorem get?_set (t : Table α) (name other : Text) (value : α) :
    (t.set name value).get? other = if other = name then some value else t.get? other :=
  lookup_setIn t.entries name other value

end Table

end TurtleLogo
