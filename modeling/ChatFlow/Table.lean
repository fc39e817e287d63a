/-
Ordered tables: names with values, in the order in which the names were first set.
-/

namespace ChatFlow

abbrev Table (α : Type) := List (String × α)

namespace Table

variable {α β : Type}

/-- The value of the first entry with a name. -/
def lookup? (name : String) : Table α → Option α
  | [] => none
  | (key, value) :: rest => if key = name then some value else lookup? name rest

/-- Sets a name: in its place when it is present, at the end otherwise. -/
def put (name : String) (value : α) : Table α → Table α
  | [] => [(name, value)]
  | (key, old) :: rest =>
      if key = name then (key, value) :: rest else (key, old) :: put name value rest

def remove (name : String) (table : Table α) : Table α :=
  table.filter fun entry => entry.1 != name

def names (table : Table α) : List String := table.map Prod.fst

def has (name : String) (table : Table α) : Bool := (lookup? name table).isSome

/-- Carries out settings in order: a repeated name keeps its first place and its last value. -/
def putAll (table : Table α) (settings : List (String × α)) : Table α :=
  settings.foldl (fun current setting => put setting.1 setting.2 current) table

def ofSettings (settings : List (String × α)) : Table α := putAll [] settings

def mapValues (change : α → β) (table : Table α) : Table β :=
  table.map fun entry => (entry.1, change entry.2)

end Table

end ChatFlow
