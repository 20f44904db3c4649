/-!
# Values by name

A small dictionary from names to values, kept in the order of the names.

* `NameMap.insert`, `NameMap.get?`, `NameMap.names` : adding or replacing, looking up, listing;
* `NameMap.get?_insert` : a look-up sees the value last inserted under its name and nothing else.
-/

set_option autoImplicit false

namespace UriRouter

/-- Values by name, in the order of the names. -/
structure NameMap (α : Type) where
  entries : List (String × α) := []

namespace NameMap

variable {α : Type}

/-- Adds an entry to a list in order, or replaces the one of the same name. -/
def insertEntry (name : String) (a : α) : List (String × α) → List (String × α)
  | [] => [(name, a)]
  | (n, b) :: rest =>
    if name = n then (name, a) :: rest
    else if name < n then (name, a) :: (n, b) :: rest
    else (n, b) :: insertEntry name a rest

/-- Adds a value, or replaces the one of the same name. -/
def insert (m : NameMap α) (name : String) (a : α) : NameMap α := ⟨insertEntry name a m.entries⟩

/-- The value of the first entry with a name. -/
def findEntry (name : String) : List (String × α) → Option α
  | [] => none
  | (n, a) :: rest => if name = n then some a else findEntry name rest

/-- The value of a name. -/
def get? (m : NameMap α) (name : String) : Option α := findEntry name m.entries

/-- Whether a name has a value. -/
def contains (m : NameMap α) (name : String) : Bool := (m.get? name).isSome

/-- The names, in order. -/
def names (m : NameMap α) : List String := m.entries.map (·.1)

/-- The values, in the order of their names. -/
def values (m : NameMap α) : List α := m.entries.map (·.2)

/-- The number of entries. -/
def size (m : NameMap α) : Nat := m.entries.length

/-- The entries, inserted from left to right. -/
def ofList (entries : List (String × α)) : NameMap α :=
  entries.foldl (fun m e => m.insert e.1 e.2) {}

@[simp] theorem get?_empty (name : String) : ({} : NameMap α).get? name = none := rfl

theorem findEntry_insertEntry (name other : String) (a : α) (entries : List (String × α)) :
    findEntry other (insertEntry name a entries) =
      if other = name then some a else findEntry other entries := by
  induction entries with
  | nil => rfl
  | cons e rest ih =>
    obtain ⟨n, b⟩ := e
    unfold insertEntry
    split
    · rename_i hn
      subst hn
      by_cases h : other = name <;> simp [findEntry, h]
    · split
      · rfl
      · rename_i hn _
        by_cases h : other = n
        · have : other ≠ name := fun h' => hn (h' ▸ h)
          subst h
          simp [findEntry, this]
        · simp [findEntry, h, ih]

/-- A look-up sees the value last inserted under its name and nothing else. -/
theorem get?_insert (m : NameMap α) (name other : String) (a : α) :
    (m.insert name a).get? other = if other = name then some a else m.get? other :=
  findEntry_insertEntry name other a m.entries

end NameMap

end UriRouter
