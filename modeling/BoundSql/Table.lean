import BoundSql.Fragment

/-!
# Tables and references to columns

A table may go by another name inside a statement; its columns are then qualified by that name.
A reference to a column is the qualifier and the column's name, and two references with both the
same are the same.
-/

namespace BoundSql

/-- A table, and the name it goes by if that is another one. -/
structure Table where
  name : String
  aliasName : Option String := none
  deriving DecidableEq, Repr

/-- A reference to a column. -/
structure ColumnRef where
  table : String
  name : String
  deriving DecidableEq, Repr

namespace Table

/-- The name that qualifies columns of the table. -/
def qualifier (t : Table) : String := t.aliasName.getD t.name

/-- The table under another name. -/
def withAlias (t : Table) (name : String) : Table := { t with aliasName := some name }

/-- A column of the table. -/
def columnRef (t : Table) (name : String) : ColumnRef := ⟨t.qualifier, name⟩

/-- The table where rows come from: its name, and the name it goes by. -/
def sourcePhrase (t : Table) : Phrase :=
  match t.aliasName with
  | some other => [.name t.name, " AS ", .name other]
  | none => [.name t.name]

end Table

/-- The column behind its qualifier. -/
def ColumnRef.phrase (c : ColumnRef) : Phrase := [.name c.table, ".", .name c.name]

end BoundSql
