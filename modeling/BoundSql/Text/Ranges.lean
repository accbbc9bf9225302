/-!
# Ranges of characters

A property of characters that few words describe is a table: closed ranges of code points, in
ascending order.
-/

namespace BoundSql.Text

/-- The first and the last code point of each range. -/
abbrev Ranges := List (Nat × Nat)

/-- The character lies in one of the ranges. -/
def Ranges.has (ranges : Ranges) (c : Char) : Bool :=
  ranges.any fun r => r.1 ≤ c.toNat && c.toNat ≤ r.2

/-- No code point up to `n` lies in a range. -/
def Ranges.startAbove (ranges : Ranges) (n : Nat) : Bool := ranges.all fun r => n < r.1

/-- A character below all ranges lies in none. -/
theorem Ranges.has_eq_false {ranges : Ranges} {n : Nat} {c : Char}
    (h : ranges.startAbove n = true) (hc : c.toNat ≤ n) : ranges.has c = false := by
  simp only [startAbove, List.all_eq_true, decide_eq_true_eq] at h
  simp only [has, List.any_eq_false, Bool.and_eq_true, decide_eq_true_eq]
  intro r hr hrc
  exact absurd (h r hr) (by omega)

end BoundSql.Text
