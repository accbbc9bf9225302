import BoundSql.Query.Select
import BoundSql.Typed.Basic

/-!
# Functions

The usual aggregates, scalar functions and window functions, and `CASE`.  A function either
keeps the type of its argument or has a type of its own; where it may have no value its type is
nullable.

Numbers that say how a function works, such as the number of buckets, are part of the text.
-/

namespace BoundSql

namespace Typed

variable {α : Type}

/-- Any function by its name. -/
def call [Storable α] (function : String) (args : List Expr) : Typed α :=
  ⟨.call function args false, Storable.columnType⟩

/-- A function whose values have the type of its argument. -/
def apply (function : String) (e : Typed α) : Typed α := e.withNode (.call function [e.node] false)

/-- A number written into the text. -/
def inlined (n : UInt32) : Expr := .raw ⟨toString n.toNat, []⟩

/-! ## Aggregates -/

/-- The number of rows. -/
def countAll : Typed Int64 := ⟨Expr.countAll, .bigInt⟩

/-- The number of rows where the expression is not NULL. -/
def count (e : Expr) : Typed Int64 := call "COUNT" [e]

/-- The number of different values. -/
def countDistinct (e : Expr) : Typed Int64 := ⟨.call "COUNT" [e] true, .bigInt⟩

/-- The mean. -/
def avg (e : Expr) : Typed Float := call "AVG" [e]

/-- The sum. -/
def sum (e : Typed α) : Typed α := e.apply "SUM"

/-- The least value. -/
def min (e : Typed α) : Typed α := e.apply "MIN"

/-- The greatest value. -/
def max (e : Typed α) : Typed α := e.apply "MAX"

/-! ## Scalar functions -/

/-- Small letters. -/
def lower (e : Typed α) : Typed α := e.apply "LOWER"

/-- Capital letters. -/
def upper (e : Typed α) : Typed α := e.apply "UPPER"

/-- The first of `es` that is not NULL, or else `fallback`. -/
def coalesce (es : List Expr) (fallback : Typed α) : Typed α :=
  fallback.withNode (.coalesce (es ++ [fallback.node]))

/-! ## Window functions -/

/-- The number of the row. -/
def rowNumber : Typed Int64 := call "ROW_NUMBER" []

/-- The rank of the row, with gaps. -/
def rank : Typed Int64 := call "RANK" []

/-- The rank of the row, without gaps. -/
def denseRank : Typed Int64 := call "DENSE_RANK" []

/-- The bucket of the row. -/
def ntile (buckets : UInt32) : Typed Int64 := call "NTILE" [inlined buckets]

/-- A function of a row some way off, where there may be none. -/
def atOffset (function : String) (e : Typed α) (offset : UInt32) : Typed (Option α) :=
  ⟨.call function [e.node, inlined offset] false, e.type.nullable⟩

/-- The value in an earlier row. -/
def lag (e : Typed α) (offset : UInt32) : Typed (Option α) := e.atOffset "LAG" offset

/-- The value in a later row. -/
def lead (e : Typed α) (offset : UInt32) : Typed (Option α) := e.atOffset "LEAD" offset

/-- The value in the first row. -/
def firstValue (e : Typed α) : Typed α := e.apply "FIRST_VALUE"

/-- The value in the last row. -/
def lastValue (e : Typed α) : Typed α := e.apply "LAST_VALUE"

end Typed

/-! ## Cases -/

/-- The branches of a `CASE`, at least one, with the type of their values. -/
structure CaseOf (α : Type) where
  first : Branch
  others : List Branch := []
  type : ColumnType α

namespace CaseOf

variable {α : Type}

/-- The branches in order. -/
def branches (c : CaseOf α) : List Branch := c.first :: c.others

/-- The case of one branch. -/
def when (condition : Predicate) (value : Typed α) : CaseOf α where
  first := ⟨condition, value.node⟩
  type := value.type

/-- One more branch. -/
def orWhen (c : CaseOf α) (condition : Predicate) (value : Typed α) : CaseOf α :=
  { c with others := c.others ++ [⟨condition, value.node⟩] }

/-- With a value for rows that no branch takes. -/
def otherwise (c : CaseOf α) (value : Typed α) : Typed α :=
  ⟨.case c.branches (some value.node), c.type⟩

/-- Without one: such rows have no value. -/
def done (c : CaseOf α) : Typed (Option α) := ⟨.case c.branches none, c.type.nullable⟩

end CaseOf

end BoundSql
