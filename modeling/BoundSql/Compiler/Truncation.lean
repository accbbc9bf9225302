/-!
# Cutting a text to a number of bytes

A text that is too long is cut, and three dots are put there.  The limit may be inside a character,
so the place to cut at is looked for from there towards the front, byte by byte.  No text ends
inside a character: cutting there has no result (`firstBytes?`), and so it is proved here that it
is never done (`isSome_truncated?`).
-/

namespace BoundSql

/-- No character is cut in two behind byte `n`: another one begins there, or the text ends. -/
def isBoundary (text : String) (n : Nat) : Bool := (⟨n⟩ : String.Pos.Raw).isValid text

/-- The first `n` bytes of the text, which have to be whole characters. -/
def firstBytes? (text : String) (n : Nat) : Option String :=
  if h : isBoundary text n then
    some (text.sliceTo (text.pos ⟨n⟩ (String.Pos.Raw.isValid_eq_true_iff.mp h))).copy
  else none

/-- The last place, from byte `n` towards the front, where no character is cut in two. -/
def lastBoundary (text : String) : Nat → Nat
  | 0 => 0
  | n + 1 => if isBoundary text (n + 1) then n + 1 else lastBoundary text n

/-- The text, or if it has more than `limit` bytes as much of it as fits, and three dots.  There is
no such text if the search ended inside a character. -/
def truncated? (limit : Option Nat) (text : String) : Option String :=
  match limit with
  | none => some text
  | some limit =>
    if text.utf8ByteSize ≤ limit then some text
    else (firstBytes? text (lastBoundary text limit)).map (· ++ "...")

/-- The search ends where no character is cut in two, at the latest in front of all of them. -/
theorem isBoundary_lastBoundary (text : String) (n : Nat) :
    isBoundary text (lastBoundary text n) := by
  induction n with
  | zero => exact String.Pos.Raw.isValid_eq_true_iff.mpr String.Pos.Raw.isValid_zero
  | succ n ih =>
    rw [lastBoundary]
    split
    · next h => exact h
    · exact ih

/-- Up to a boundary the first bytes are a text. -/
theorem isSome_firstBytes? {text : String} {n : Nat} (h : isBoundary text n) :
    (firstBytes? text n).isSome := by
  rw [firstBytes?, dif_pos h, Option.isSome_some]

/-- Since the search ends at a boundary, there is always a text to log. -/
theorem isSome_truncated? (limit : Option Nat) (text : String) :
    (truncated? limit text).isSome := by
  rcases limit with _ | limit
  · rfl
  · rw [truncated?]
    split
    · rfl
    · rw [Option.isSome_map]
      exact isSome_firstBytes? (isBoundary_lastBoundary text limit)

/-- The text, or if it has more than `limit` bytes as much of it as fits, and three dots. -/
def truncated (limit : Option Nat) (text : String) : String :=
  (truncated? limit text).get (isSome_truncated? limit text)

end BoundSql
