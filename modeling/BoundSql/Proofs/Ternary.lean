/-!
# Truth values of SQL

A condition of SQL holds, fails or is unknown, and the words `AND`, `OR` and `NOT` go by what is
certain whichever way the unknown turns out.

The two words that join conditions have the same laws, so they are one type (`Connective`), and
what is said of one of them is said of both.
-/

namespace BoundSql

/-! ## Values -/

/-- What may be known of a condition. -/
inductive Ternary where
  | holds
  | fails
  | unknown
  deriving DecidableEq, Repr

namespace Ternary

/-- A truth value that is known. -/
def ofBool : Bool → Ternary
  | true => holds
  | false => fails

/-- The opposite; of the unknown, nothing is known. -/
def not : Ternary → Ternary
  | holds => fails
  | fails => holds
  | unknown => unknown

/-- Both: one that fails is enough to fail. -/
def and : Ternary → Ternary → Ternary
  | fails, _ | _, fails => fails
  | holds, holds => holds
  | _, _ => unknown

/-- Either: one that holds is enough to hold. -/
def or : Ternary → Ternary → Ternary
  | holds, _ | _, holds => holds
  | fails, fails => fails
  | _, _ => unknown

end Ternary

/-! ## Connectives -/

/-- The words that join conditions. -/
inductive Connective where
  | and
  | or
  deriving DecidableEq, Repr

namespace Connective

/-- What the word makes of two values. -/
def combine : Connective → Ternary → Ternary → Ternary
  | and => Ternary.and
  | or => Ternary.or

/-- The value of no conditions joined: all of them hold, and none of them does. -/
def unit : Connective → Bool
  | and => true
  | or => false

/-- It does not matter how joined values are grouped. -/
theorem combine_assoc (c : Connective) (x y z : Ternary) :
    c.combine (c.combine x y) z = c.combine x (c.combine y z) := by
  cases c <;> cases x <;> cases y <;> cases z <;> rfl

/-- The value of no operands changes nothing. -/
theorem combine_unit (c : Connective) (x : Ternary) : c.combine x (.ofBool c.unit) = x := by
  cases c <;> cases x <;> rfl

end Connective

end BoundSql
