import EditorBridge.Toml.Value

/-!
# Tables under construction

The rules of TOML 1.1 about defining a table: no key is defined twice (`Entries.Keeps`).

A document fills its tables piece by piece, and how a table came to be decides how it may still
grow.  A table named by a header is complete once its keys are read: it cannot be named again.  A
table that only stands on the way to another header's table may still get a header of its own.  A
table made by a dotted key grows by further dotted keys only.  Values, and with them arrays and
inline tables, never grow; an array of tables grows by one table at a time, the last of which
stands for it.
-/
namespace EditorBridge.Toml

inductive Standing where
  /-- It has a header, or is the document or an inline table itself. -/
  | named
  /-- It stands on the way to a table with a header. -/
  | implied
  /-- A dotted key made it. -/
  | dotted
  deriving DecidableEq, Repr

/-- What a key stands for while the document is being read. -/
inductive Item where
  | value (value : Value)
  | table (standing : Standing) (entries : List (String × Item))
  /-- An array of tables, the last table first. -/
  | tables (elements : List (List (String × Item)))

namespace Item

mutual

def toValue : Item → Value
  | value v => v
  | table _ entries => .table (finishEntries entries)
  | tables elements => .array (finishTables elements).reverse

def finishEntries : List (String × Item) → Table
  | [] => []
  | (key, item) :: rest => (key, item.toValue) :: finishEntries rest

/-- The finished tables of an array, in the order given. -/
def finishTables : List (List (String × Item)) → List Value
  | [] => []
  | entries :: rest => .table (finishEntries entries) :: finishTables rest

end

end Item

abbrev Entries := List (String × Item)

namespace Entries

/-- The entries with a key's item replaced, or added at the end. -/
def put (entries : Entries) (key : String) (item : Item) : Entries :=
  if (entries.lookup key).isSome then
    entries.map fun entry => if entry.1 = key then (key, item) else entry
  else entries ++ [(key, item)]

abbrev Change := Standing → Entries → Option Entries

/-- Change the table at the end of a path, making the tables on the way that are missing.  A dotted
path must not pass through a table that has a header of its own, but any path passes through the
last table of an array. -/
def descend (dotted : Bool) (change : Change) : List String → Change
  | [], standing, entries => change standing entries
  | key :: path, _, entries =>
      match entries.lookup key with
      | none => do
          let standing := if dotted then Standing.dotted else .implied
          let made ← descend dotted change path standing []
          return entries.put key (.table standing made)
      | some (.table standing inner) =>
          if dotted ∧ standing = .named then none
          else do
            let inner ← descend dotted change path standing inner
            return entries.put key (.table standing inner)
      | some (.tables (last :: before)) => do
          return entries.put key (.tables ((← descend dotted change path .named last) :: before))
      | some _ => none

def add (key : String) (value : Value) (entries : Entries) : Option Entries :=
  if (entries.lookup key).isSome then none else some (entries ++ [(key, .value value)])

/-- Add a value under a key that may be dotted.  A dotted key adds to tables that dotted keys made.
-/
def insert (path : List String) (key : String) (value : Value) : Change :=
  match path with
  | [] => fun _ entries => add key value entries
  | path =>
      descend true
        (fun standing entries => if standing = .dotted then add key value entries else none)
        path

def nameTable (path : List String) (key : String) : Change :=
  descend false (fun _ entries =>
    match entries.lookup key with
    | none => some (entries ++ [(key, .table .named [])])
    | some (.table .implied inner) => some (entries.put key (.table .named inner))
    | some _ => none) path

/-- Add a table to an array of tables. -/
def nameElement (path : List String) (key : String) : Change :=
  descend false (fun _ entries =>
    match entries.lookup key with
    | none => some (entries ++ [(key, .tables [[]])])
    | some (.tables elements) => some (entries.put key (.tables ([] :: elements)))
    | some _ => none) path

end Entries

end EditorBridge.Toml
