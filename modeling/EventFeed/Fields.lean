/-!
# Fields

A finite map from names to values that remembers the order in which names were first written.
`insertNew` keeps the value that is already there, `set` replaces it.
-/

namespace EventFeed

/-- Named values, each name at most once, in the order in which the names were first written. -/
structure Fields where
  entries : List (String × String) := []
  deriving DecidableEq, Repr, Inhabited

namespace Fields

/-- No fields at all. -/
def empty : Fields := {}

/-- The value of a name. -/
def get? (fields : Fields) (name : String) : Option String :=
  fields.entries.lookup name

/-- Whether a name has a value. -/
def contains (fields : Fields) (name : String) : Bool :=
  (fields.get? name).isSome

/-- Whether there is no field. -/
def isEmpty (fields : Fields) : Bool :=
  fields.entries.isEmpty

/-- Give a name its value unless it already has one. -/
def insertNew (fields : Fields) (name value : String) : Fields :=
  if fields.contains name then fields else ⟨fields.entries ++ [(name, value)]⟩

/-- Give a name its value, in place of the one it may have. -/
def set (fields : Fields) (name value : String) : Fields :=
  if fields.contains name then
    ⟨fields.entries.map fun entry => if entry.1 == name then (name, value) else entry⟩
  else ⟨fields.entries ++ [(name, value)]⟩

/-- The fields of a list of entries of which the first of a name counts. -/
def ofList (entries : List (String × String)) : Fields :=
  entries.foldl (fun fields entry => fields.insertNew entry.1 entry.2) empty

@[simp] theorem get?_empty (name : String) : empty.get? name = none := rfl

/-- A new name takes the value; any other name keeps what it had. -/
theorem get?_insertNew (fields : Fields) (name value other : String) :
    (fields.insertNew name value).get? other =
      (fields.get? other).or (if other = name then some value else none) := by
  have hlookup : ∀ entries : List (String × String),
      (entries ++ [(name, value)]).lookup other =
        (entries.lookup other).or (if other = name then some value else none) := by
    intro entries
    induction entries with
    | nil =>
      by_cases h : other = name
      · simp [h]
      · simp [List.lookup_cons, beq_eq_false_iff_ne.2 h, h]
    | cons entry entries ih =>
      obtain ⟨k, v⟩ := entry
      by_cases h : other = k
      · simp [h]
      · simp [List.lookup_cons, beq_eq_false_iff_ne.2 h, ih]
  unfold insertNew
  split
  · next h =>
    by_cases he : other = name
    · subst he
      obtain ⟨v, hv⟩ := Option.isSome_iff_exists.1 h
      simp [hv]
    · simp [he]
  · simpa [get?] using hlookup fields.entries

end Fields

end EventFeed
