set_option autoImplicit false

/-!
TOML values, and tables as a document builds them up. A table remembers how it came about, since
that decides what may still be added to it.
-/
namespace ObservableGen.Toml

-- How a table came about.
inductive Origin where
  -- Named on the way to another table by a header.
  | passed
  -- By a header of its own.
  | headed
  -- By a dotted key.
  | dotted
  -- Between braces, complete.
  | inline
deriving DecidableEq, Repr, Inhabited

inductive Value where
  | text (value : String)
  | bool (value : Bool)
  | number (written : String)
  | time (written : String)
  | array (items : List Value)
  | table (origin : Origin) (entries : List (String × Value))
  -- Tables that headers in double brackets add one by one.
  | tables (items : List (List (String × Value)))
deriving Repr, Inhabited

namespace Value

def text? : Value → Option String
  | text value => some value
  | _ => none

def bool? : Value → Option Bool
  | bool value => some value
  | _ => none

end Value

abbrev Entries := List (String × Value)

namespace Entries

def get? (entries : Entries) (key : String) : Option Value :=
  (entries.find? fun entry => entry.1 == key).map Prod.snd

def set (entries : Entries) (key : String) (value : Value) : Entries :=
  if entries.any fun entry => entry.1 == key then
    entries.map fun entry => if entry.1 == key then (key, value) else entry
  else entries ++ [(key, value)]

def changeLast (items : List Entries) (change : Entries → Option Entries) : Option (List Entries) :=
  match items.getLast? with
  | none => none
  | some last => (change last).map fun changed => items.dropLast ++ [changed]

-- Opens a table for the header with this path. It may have been passed before, but not opened.
def openTable (entries : Entries) : List String → Option Entries
  | [] => none
  | [key] =>
    match entries.get? key with
    | none => some (entries.set key (.table .headed []))
    | some (.table .passed inner) => some (entries.set key (.table .headed inner))
    | some _ => none
  | key :: next :: rest =>
    match entries.get? key with
    | none => (openTable [] (next :: rest)).map fun inner => entries.set key (.table .passed inner)
    | some (.table .inline _) => none
    | some (.table origin inner) =>
      (openTable inner (next :: rest)).map fun inner => entries.set key (.table origin inner)
    | some (.tables items) =>
      (changeLast items fun inner => openTable inner (next :: rest)).map fun items =>
        entries.set key (.tables items)
    | some _ => none

def addTable (entries : Entries) : List String → Option Entries
  | [] => none
  | [key] =>
    match entries.get? key with
    | none => some (entries.set key (.tables [[]]))
    | some (.tables items) => some (entries.set key (.tables (items ++ [[]])))
    | some _ => none
  | key :: next :: rest =>
    match entries.get? key with
    | none => (addTable [] (next :: rest)).map fun inner => entries.set key (.table .passed inner)
    | some (.table .inline _) => none
    | some (.table origin inner) =>
      (addTable inner (next :: rest)).map fun inner => entries.set key (.table origin inner)
    | some (.tables items) =>
      (changeLast items fun inner => addTable inner (next :: rest)).map fun items =>
        entries.set key (.tables items)
    | some _ => none

-- Adds a value under a dotted key. The tables on the way must have come about by dotted keys.
def putPair (entries : Entries) (value : Value) : List String → Option Entries
  | [] => none
  | [key] => if (entries.get? key).isSome then none else some (entries.set key value)
  | key :: next :: rest =>
    match entries.get? key with
    | none =>
      (putPair [] value (next :: rest)).map fun inner => entries.set key (.table .dotted inner)
    | some (.table .dotted inner) =>
      (putPair inner value (next :: rest)).map fun inner => entries.set key (.table .dotted inner)
    | some _ => none

def changeAt (entries : Entries) (change : Entries → Option Entries) :
    List String → Option Entries
  | [] => change entries
  | key :: rest =>
    match entries.get? key with
    | some (.table origin inner) =>
      (changeAt inner change rest).map fun inner => entries.set key (.table origin inner)
    | some (.tables items) =>
      (changeLast items fun inner => changeAt inner change rest).map fun items =>
        entries.set key (.tables items)
    | _ => none

end Entries

end ObservableGen.Toml
