namespace StationLink

/-!
# Sorted maps

A `SortedMap` holds at most one value per key and lists its entries by growing
key. Small tables that are shown in order use it: interfaces by number, keysets
by number, display rows.
-/

/-- A finite map that lists its entries by growing key. -/
structure SortedMap (κ α : Type) where
  entries : List (κ × α) := []
  deriving Repr, DecidableEq

namespace SortedMap

variable {κ α : Type}

/-- The map without entries. -/
def empty : SortedMap κ α := {}

/-- The keys, growing. -/
def keys (map : SortedMap κ α) : List κ :=
  map.entries.map (·.1)

/-- The values, by growing key. -/
def values (map : SortedMap κ α) : List α :=
  map.entries.map (·.2)

/-- The value under a key. -/
def get? [DecidableEq κ] (map : SortedMap κ α) (key : κ) : Option α :=
  map.entries.lookup key

/-- Put an entry in front of the entries with larger keys, replacing one with the same key. -/
def insertEntry
    [DecidableEq κ]
    [LT κ]
    [DecidableLT κ]
    (key : κ)
    (value : α) :
    List (κ × α) → List (κ × α)
  | [] => [(key, value)]
  | entry :: rest =>
      if entry.1 = key then
        (key, value) :: rest
      else if key < entry.1 then
        (key, value) :: entry :: rest
      else
        entry :: insertEntry key value rest

/-- Put a value under a key. -/
def insert
    [DecidableEq κ]
    [LT κ]
    [DecidableLT κ]
    (map : SortedMap κ α)
    (key : κ)
    (value : α) :
    SortedMap κ α where
  entries := insertEntry key value map.entries

/-- Remove the value under a key. -/
def erase [DecidableEq κ] (map : SortedMap κ α) (key : κ) : SortedMap κ α where
  entries := map.entries.filter fun entry => entry.1 ≠ key

/-- The map that holds the last value given for each key. -/
def ofList
    [DecidableEq κ]
    [LT κ]
    [DecidableLT κ]
    (entries : List (κ × α)) :
    SortedMap κ α :=
  entries.foldl (fun map entry => map.insert entry.1 entry.2) empty

end SortedMap

end StationLink
