/-!
# Values of TOML documents

A document is a table of values. How a table came to be decides what may still be added to it: a table
that was written in braces is complete, one that a header or a dotted key brought along is not, and no
key is given twice. All functions here answer `none` where the rules are broken.
-/

set_option autoImplicit false

namespace SessionLayer.Toml

/-- How a table came to be. -/
inductive Origin where
  /-- By the header of a table below it. -/
  | implicit
  /-- By its own header. -/
  | header
  /-- By a dotted key. -/
  | dotted
  /-- In braces. -/
  | inline
  deriving DecidableEq, Repr

/-- A value; floating-point numbers and moments in time are only known to be some. -/
inductive Value where
  | text (s : String)
  /-- An integer, which may stand for no number. -/
  | integer (n : Option Int)
  | boolean (b : Bool)
  | float
  | moment
  | array (items : List Value)
  | table (origin : Origin) (entries : List (String × Value))
  /-- Tables that were given one by one under headers in double brackets. -/
  | tables (items : List (List (String × Value)))

/-- The entries of a table, in the order in which their keys came up. -/
abbrev Entries := List (String × Value)

namespace Entries

/-- The value of a key. -/
def get? (entries : Entries) (key : String) : Option Value :=
  List.lookup key entries

/-- Gives a key a value; a key that is there keeps its place. -/
def set (entries : Entries) (key : String) (value : Value) : Entries :=
  if (entries.get? key).isSome then
    entries.map fun entry => if entry.1 = key then (key, value) else entry
  else entries ++ [(key, value)]

/-- Gives a value to a dotted key. -/
def assign : (path : List String) → Value → Entries → Option Entries
  | [], _, _ => none
  | [key], value, entries =>
    if (entries.get? key).isSome then none else some (entries ++ [(key, value)])
  | key :: path, value, entries =>
    match entries.get? key with
    | none => (assign path value []).map fun inner => entries ++ [(key, .table .dotted inner)]
    | some (.table .dotted inner) =>
      (assign path value inner).map fun inner => entries.set key (.table .dotted inner)
    | some _ => none

/-- Changes the table that was opened last under a path of headers. -/
def modifyAt (change : Entries → Option Entries) : (path : List String) → Entries → Option Entries
  | [], entries => change entries
  | key :: path, entries =>
    match entries.get? key with
    | some (.table origin inner) =>
      if origin = .inline then none
      else (modifyAt change path inner).map fun inner => entries.set key (.table origin inner)
    | some (.tables items) =>
      match items.getLast? with
      | none => none
      | some inner =>
        (modifyAt change path inner).map fun inner =>
          entries.set key (.tables (items.dropLast ++ [inner]))
    | _ => none

/-- Opens a table with what `opener` does at the end of its path. -/
def descend (opener : String → Entries → Option Entries) :
    (path : List String) → Entries → Option Entries
  | [], _ => none
  | [key], entries => opener key entries
  | key :: path, entries =>
    match entries.get? key with
    | none => (descend opener path []).map fun inner => entries ++ [(key, .table .implicit inner)]
    | some (.table origin inner) =>
      if origin = .inline then none
      else (descend opener path inner).map fun inner => entries.set key (.table origin inner)
    | some (.tables items) =>
      match items.getLast? with
      | none => none
      | some inner =>
        (descend opener path inner).map fun inner =>
          entries.set key (.tables (items.dropLast ++ [inner]))
    | some _ => none

def openTable : (path : List String) → Entries → Option Entries :=
  descend fun key entries =>
    match entries.get? key with
    | none => some (entries ++ [(key, .table .header [])])
    | some (.table .implicit inner) => some (entries.set key (.table .header inner))
    | some _ => none

/-- Opens one more table under a header in double brackets. -/
def appendTable : (path : List String) → Entries → Option Entries :=
  descend fun key entries =>
    match entries.get? key with
    | none => some (entries ++ [(key, .tables [[]])])
    | some (.tables items) => some (entries.set key (.tables (items ++ [[]])))
    | some _ => none

end Entries

end SessionLayer.Toml
