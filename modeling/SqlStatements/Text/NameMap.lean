/-! Collections of names in alphabetical order. Names compare by their code
points, which is also the order of their UTF-8 bytes. -/
namespace SqlStatements

/-- A sorted set of names gains a name, unless it is there already. -/
def insertName (name : String) : List String → List String
  | [] => [name]
  | n :: rest =>
    if name = n then n :: rest
    else if name < n then name :: n :: rest
    else n :: insertName name rest

/-- The names in alphabetical order, each once. -/
def sortedNames (names : List String) : List String :=
  names.foldl (fun set name => insertName name set) []

/-- Values filed under names, in the order of the names. -/
structure NameMap (α : Type) where
  entries : List (String × α)
deriving DecidableEq

namespace NameMap

variable {α : Type}

def empty : NameMap α := ⟨[]⟩

instance : EmptyCollection (NameMap α) := ⟨empty⟩
instance : Inhabited (NameMap α) := ⟨empty⟩

def find? (map : NameMap α) (name : String) : Option α :=
  map.entries.lookup name

/-- Puts an entry in its place of a sorted list and drops an earlier one under
the same name. -/
def put (name : String) (value : α) : List (String × α) → List (String × α)
  | [] => [(name, value)]
  | (n, v) :: rest =>
    if name = n then (name, value) :: rest
    else if name < n then (name, value) :: (n, v) :: rest
    else (n, v) :: put name value rest

/-- Files a value; an earlier one under the same name is replaced. -/
def insert (map : NameMap α) (name : String) (value : α) : NameMap α :=
  ⟨put name value map.entries⟩

def ofList (entries : List (String × α)) : NameMap α :=
  entries.foldl (fun map (name, value) => map.insert name value) empty

def names (map : NameMap α) : List String := map.entries.map (·.1)

def size (map : NameMap α) : Nat := map.entries.length

def isEmpty (map : NameMap α) : Bool := map.entries.isEmpty

/-- What is filed under a name is found under it, and nothing under another name
is lost or moved by that. -/
theorem lookup_put (name other : String) (value : α) (entries : List (String × α)) :
    (put name value entries).lookup other =
      if other = name then some value else entries.lookup other := by
  induction entries with
  | nil => grind [put]
  | cons entry rest ih => grind [put]

/-- After filing a value the name finds it, and every other name finds what it
found before. -/
theorem find?_insert (map : NameMap α) (name other : String) (value : α) :
    (map.insert name value).find? other = if other = name then some value else map.find? other :=
  lookup_put name other value map.entries

end NameMap

end SqlStatements
