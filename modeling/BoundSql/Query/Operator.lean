/-!
# Operators and fixed choices

The small closed choices that queries are made with, and their keywords.
-/

namespace BoundSql

/-! ## Operators -/

/-- Operators on values. -/
inductive ArithOp where
  | add
  | sub
  | mul
  | div
  | mod
  | concat
  deriving DecidableEq, Repr

/-- The sign of an operator. -/
def ArithOp.sign : ArithOp → String
  | add => "+"
  | sub => "-"
  | mul => "*"
  | div => "/"
  | mod => "%"
  | concat => "||"

/-- All operators. -/
def ArithOp.all : List ArithOp := [add, sub, mul, div, mod, concat]

/-- The operator with this sign. -/
def ArithOp.ofSign? (sign : String) : Option ArithOp := ArithOp.all.find? (·.sign == sign)

/-- An operator is found by its sign. -/
@[simp] theorem ArithOp.ofSign?_sign (op : ArithOp) : ArithOp.ofSign? op.sign = some op := by
  cases op <;> decide

/-- Comparisons. -/
inductive CompareOp where
  | eq
  | ne
  | lt
  | le
  | gt
  | ge
  deriving DecidableEq, Repr

/-- The sign of a comparison. -/
def CompareOp.sign : CompareOp → String
  | eq => "="
  | ne => "<>"
  | lt => "<"
  | le => "<="
  | gt => ">"
  | ge => ">="

/-- All comparisons. -/
def CompareOp.all : List CompareOp := [eq, ne, lt, le, gt, ge]

/-- The comparison with this sign. -/
def CompareOp.ofSign? (sign : String) : Option CompareOp := CompareOp.all.find? (·.sign == sign)

/-- A comparison is found by its sign. -/
@[simp] theorem CompareOp.ofSign?_sign (op : CompareOp) : CompareOp.ofSign? op.sign = some op := by
  cases op <;> decide

/-- How many rows of a subquery a comparison speaks of. -/
inductive Quantifier where
  | any
  | all
  | some
  deriving DecidableEq, Repr

/-- The keyword of a quantifier. -/
def Quantifier.keyword : Quantifier → String
  | any => "ANY"
  | all => "ALL"
  | some => "SOME"

/-! ## Order -/

/-- The direction of a sort. -/
inductive SortDir where
  | asc
  | desc
  deriving DecidableEq, Repr

/-- The keyword of a direction. -/
def SortDir.keyword : SortDir → String
  | asc => "ASC"
  | desc => "DESC"

/-- Where a sort puts rows whose key is NULL. -/
inductive NullsOrder where
  | first
  | last
  deriving DecidableEq, Repr

/-- The keywords of a place for NULL. -/
def NullsOrder.keywords : NullsOrder → String
  | first => "NULLS FIRST"
  | last => "NULLS LAST"

/-! ## Joins -/

/-- Kinds of join. -/
inductive JoinKind where
  | inner
  | left
  | right
  | full
  | cross
  deriving DecidableEq, Repr

/-- The keywords of a join. -/
def JoinKind.keywords : JoinKind → String
  | inner => "INNER JOIN"
  | left => "LEFT JOIN"
  | right => "RIGHT JOIN"
  | full => "FULL OUTER JOIN"
  | cross => "CROSS JOIN"

/-! ## Frames -/

/-- What the bounds of a frame count. -/
inductive FrameKind where
  | rows
  | range
  | groups
  deriving DecidableEq, Repr

/-- One end of a frame. -/
inductive FrameBound where
  | unboundedPreceding
  | preceding (n : UInt64)
  | currentRow
  | following (n : UInt64)
  | unboundedFollowing
  deriving DecidableEq, Repr

/-- The text of an end.  Its number is part of the text and is never bound. -/
def FrameBound.text : FrameBound → String
  | unboundedPreceding => "UNBOUNDED PRECEDING"
  | preceding n => toString n.toNat ++ " PRECEDING"
  | currentRow => "CURRENT ROW"
  | following n => toString n.toNat ++ " FOLLOWING"
  | unboundedFollowing => "UNBOUNDED FOLLOWING"

/-- The frame of a window: from `start` on, or between `start` and `stop`. -/
structure Frame where
  kind : FrameKind
  start : FrameBound
  stop : Option FrameBound := none
  deriving DecidableEq, Repr

/-- The frame of a moving window over the last `periods` rows, the current one included. -/
def Frame.rolling (periods : UInt32) : Frame where
  kind := .rows
  start := .preceding (periods - if periods = 0 then 0 else 1).toUInt64
  stop := some .currentRow

end BoundSql
