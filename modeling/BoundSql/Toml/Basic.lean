/-!
# TOML tables

A document is a table, and a table is keys with values.  Headers and dotted keys build tables
piece by piece, and the rules of what may be added where need each table to remember how it came
to be: a table may be *implied* by a longer path, it may be the work of a *dotted* key, and a
table or an array written as a value is closed for good.

A key that is set twice, or a table that is opened twice, makes a document invalid; the functions
that add to a table give nothing then.
-/

namespace BoundSql.Toml

/-- A value, or a table with its history. -/
inductive Node where
  | string (s : String)
  | integer (n : Int)
  | boolean (b : Bool)
  /-- A floating number or a date or time, of which nothing but its form matters here. -/
  | otherScalar
  | array (items : List Node)
  /-- A table written as a value. -/
  | inlineTable (entries : List (String × Node))
  /-- A table opened by a header or implied by a path. -/
  | table (implied dotted : Bool) (entries : List (String × Node))
  /-- An array of tables opened one by one; the last one comes first. -/
  | tables (last : List (String × Node)) (others : List (List (String × Node)))

/-- Keys with values, in the order of the text. -/
abbrev Entries := List (String × Node)

namespace Entries

/-- Change the value of a key that is there, or add the key with a first value. -/
def alter (key : String) (first : Option Node) (change : Node → Option Node) :
    Entries → Option Entries
  | [] => first.map fun node => [(key, node)]
  | (k, node) :: rest =>
    if k = key then (change node).map fun node => (k, node) :: rest
    else (alter key first change rest).map fun rest => (k, node) :: rest

/-- Go down a path of keys and change the table at its end.  A table on the way that is not
there yet is implied by the path. -/
def descend (change : Entries → Option Entries) : List String → Entries → Option Entries
  | [], entries => change entries
  | key :: path, entries =>
    alter key ((descend change path []).map (Node.table true false))
      (fun
        | .table implied dotted es => (descend change path es).map (Node.table implied dotted)
        | .tables last others => (descend change path last).map fun es => .tables es others
        | _ => none)
      entries

/-- Open the table at a path.  A table that was only implied can still be opened. -/
def openTable (path : List String) (key : String) : Entries → Option Entries :=
  descend
    (alter key (some (.table false false [])) fun
      | .table true false es => some (.table false false es)
      | _ => none)
    path

/-- Open one more table of the array at a path. -/
def openTables (path : List String) (key : String) : Entries → Option Entries :=
  descend
    (alter key (some (.tables [] [])) fun
      | .tables last others => some (.tables [] (last :: others))
      | _ => none)
    path

/-- Set a dotted key.  The dots may go through implied tables and through arrays of tables, but the
table that gets the value must be the work of a dotted key. -/
def setKey (key : String) (value : Node) : List String → Entries → Option Entries
  | [], entries => alter key (some value) (fun _ => none) entries
  | k :: path, entries =>
    alter k ((setKey key value path []).map (Node.table true true))
      (fun
        | .table true dotted es =>
          if path.isEmpty && !dotted then none
          else (setKey key value path es).map (Node.table true dotted)
        | .tables last others =>
          if path.isEmpty then none
          else (setKey key value path last).map fun es => .tables es others
        | _ => none)
      entries

end Entries

/-- The entries of a value that is a table. -/
def Node.entries? : Node → Option Entries
  | .inlineTable entries => some entries
  | .table _ _ entries => some entries
  | _ => none

/-- The value is an array or a table with nothing in it. -/
def Node.isEmptyCollection : Node → Bool
  | .array items => items.isEmpty
  | .inlineTable entries => entries.isEmpty
  | .table _ _ entries => entries.isEmpty
  | _ => false

end BoundSql.Toml
