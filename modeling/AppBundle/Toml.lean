import AppBundle.Text

/-!
# TOML documents

A document is a table of keys. How a table came about decides what may be added to it: no header
opens a table twice, dotted keys add only to tables that dotted keys made, and nothing is added to
a table or an array that was written as a value.
-/

namespace AppBundle

namespace Toml

/-- How a table came about. -/
inductive Origin where
  /-- By a header of its own. -/
  | header
  /-- By the header of a table below it. -/
  | implied
  /-- By a dotted key. -/
  | dotted
  /-- In braces. -/
  | inline
deriving DecidableEq, Repr

/-- What a key holds. -/
inductive Item where
  | string (t : Text)
  | integer (n : Int)
  | float
  | boolean (b : Bool)
  | datetime
  | array (items : List Item)
  | table (origin : Origin) (members : List (Text × Item))
  /-- The tables of repeated headers in double brackets. -/
  | tables (rows : List (List (Text × Item)))
deriving Inhabited

/-- The keys of a table with what they hold. -/
abbrev Members := List (Text × Item)

/-- Replaces what a key holds. -/
def replace (key : Text) (item : Item) (ms : Members) : Members :=
  ms.map fun (k, v) => if k = key then (k, item) else (k, v)

/-- Changes the table that a path of keys leads to, in a table of the given origin. Tables that are
missing on the way are made; a header goes on in the last of several tables. -/
def modify (dottedKey : Bool) (change : Origin → Members → Option Members) :
    Origin → (path : List Text) → Members → Option Members
  | origin, [], ms => change origin ms
  | _, key :: path, ms =>
    match ms.lookup key with
    | none => do
      let origin := if dottedKey then Origin.dotted else .implied
      return ms ++ [(key, .table origin (← modify dottedKey change origin path []))]
    | some (.table origin inner) =>
      if origin = .inline ∨ (dottedKey ∧ origin = .header) then none
      else do return replace key (.table origin (← modify dottedKey change origin path inner)) ms
    | some (.tables rows) =>
      match rows.getLast? with
      | none => none
      | some last => do
        let last ← modify dottedKey change .header path last
        return replace key (.tables (rows.dropLast ++ [last])) ms
    | some _ => none

/-- Adds a key with what it holds to a table, which a dotted key has to have made exactly if the
key is dotted. -/
def addKey (isDotted : Bool) (key : Text) (item : Item) (origin : Origin) (ms : Members) :
    Option Members :=
  if isDotted ≠ (origin = .dotted) ∨ (ms.lookup key).isSome then none
  else some (ms ++ [(key, item)])

/-- Sets a dotted key in a table. -/
def setKey (path : List Text) (item : Item) (origin : Origin) (ms : Members) : Option Members :=
  match path.getLast? with
  | none => none
  | some key =>
    let tables := path.dropLast
    modify true (addKey (!tables.isEmpty) key item) origin tables ms

/-- Opens the table of a header. -/
def openTable (path : List Text) (root : Members) : Option Members :=
  match path.getLast? with
  | none => none
  | some key =>
    modify false (fun _ ms =>
      match ms.lookup key with
      | none => some (ms ++ [(key, .table .header [])])
      | some (.table .implied inner) => some (replace key (.table .header inner) ms)
      | some _ => none) .header path.dropLast root

/-- Adds a table under a header in double brackets. -/
def openNextTable (path : List Text) (root : Members) : Option Members :=
  match path.getLast? with
  | none => none
  | some key =>
    modify false (fun _ ms =>
      match ms.lookup key with
      | none => some (ms ++ [(key, .tables [[]])])
      | some (.tables rows) => some (replace key (.tables (rows ++ [[]])) ms)
      | some _ => none) .header path.dropLast root

/-- Sets a dotted key in the table of the header read last. -/
def setUnder (header path : List Text) (item : Item) (root : Members) : Option Members :=
  modify false (setKey path item) .header header root

end Toml

end AppBundle
