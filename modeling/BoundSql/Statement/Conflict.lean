import BoundSql.Dialect.Basic
import BoundSql.Error
import BoundSql.Table

/-!
# Conflicts and returned columns

What an insertion does about rows that are already there, and which columns a statement gives
back.  Both are the same for one row and for many.
-/

namespace BoundSql

/-! ## Conflicts -/

/-- What is done with a row that is already there. -/
inductive ConflictAction where
  /-- It stays. -/
  | keep
  /-- These columns are overwritten with the new values. -/
  | overwrite (columns : List ColumnRef)
  /-- All inserted columns are overwritten, except those of the target. -/
  | overwriteAll
  deriving DecidableEq, Repr

/-- A conflict clause: the columns in which rows must agree to be in conflict, and the action. -/
structure Conflict where
  target : List ColumnRef
  action : ConflictAction
  deriving DecidableEq, Repr

namespace Conflict

/-- The names of the target. -/
def targetNames (c : Conflict) : List String := c.target.map ColumnRef.name

/-- The action, given the names of the inserted columns. -/
def upsertAction (c : Conflict) (inserted : List String) : UpsertAction :=
  match c.action with
  | .keep => .keep
  | .overwrite columns => .overwrite (columns.map ColumnRef.name)
  | .overwriteAll => .overwrite (inserted.filter fun name => !c.targetNames.contains name)

/-- Check the clause: the dialect has it, and an action that overwrites has a target where one is
needed and something to overwrite. -/
def check (c : Conflict) (d : Dialect) (inserted : List String) : Except QueryError Unit :=
  if !d.hasUpsert then .error (.unsupported .onConflict d.name)
  else match c.upsertAction inserted with
    | .keep => .ok ()
    | .overwrite columns =>
      if c.target.isEmpty && d.upsertNeedsTarget then
        .error (.invalidStatement .upsertWithoutTarget)
      else if columns.isEmpty then .error (.invalidStatement .upsertWithoutColumns)
      else .ok ()

/-- Check the clause, if there is one. -/
def checkOption (d : Dialect) (inserted : List String) : Option Conflict → Except QueryError Unit
  | none => .ok ()
  | some c => c.check d inserted

/-- The clause behind a blank, if there is one. -/
def clause (d : Dialect) (inserted : List String) : Option Conflict → Phrase
  | none => []
  | some c => " " :: d.upsertClause c.targetNames inserted (c.upsertAction inserted)

end Conflict

/-! ## Returned columns -/

namespace Returning

/-- Check that the dialect gives columns back, if any are asked for. -/
def check (d : Dialect) (columns : List ColumnRef) : Except QueryError Unit :=
  if !columns.isEmpty && !d.hasReturning then .error (.unsupported .returning d.name) else .ok ()

/-- The clause behind a blank, if any columns are asked for. -/
def clause (columns : List ColumnRef) : Phrase :=
  if columns.isEmpty then [] else " RETURNING " :: Phrase.names (columns.map ColumnRef.name)

end Returning

end BoundSql
