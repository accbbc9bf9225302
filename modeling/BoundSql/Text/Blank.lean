/-!
# White space

The characters with the property White_Space, 25 in all, and trimming by them.
-/

namespace BoundSql.Text

/-- The character has the property White_Space. -/
def isBlank (c : Char) : Bool :=
  let n := c.toNat
  (0x09 ≤ n && n ≤ 0x0D) || n == 0x20 || n == 0x85 || n == 0xA0 || n == 0x1680 ||
    (0x2000 ≤ n && n ≤ 0x200A) || n == 0x2028 || n == 0x2029 || n == 0x202F || n == 0x205F ||
    n == 0x3000

/-- What core calls white space is white space. -/
theorem isBlank_of_isWhitespace {c : Char} (h : c.isWhitespace = true) : isBlank c = true := by
  simp only [Char.isWhitespace, Bool.or_eq_true, decide_eq_true_eq] at h
  rcases h with ((h | h) | h) | h <;> subst h <;> decide

/-- Drop white space from the front. -/
def trimStart (cs : List Char) : List Char := cs.dropWhile isBlank

/-- Drop white space from both ends. -/
def trim (s : String) : String :=
  String.ofList (trimStart (trimStart s.toList).reverse).reverse

/-- Small letters for the capital letters of ASCII; other characters stay. -/
def lowercase (s : String) : String := String.ofList (s.toList.map Char.toLower)

/-- Capital letters for the small letters of ASCII; other characters stay. -/
def uppercase (s : String) : String := String.ofList (s.toList.map Char.toUpper)

end BoundSql.Text
