import BoundSql.Calendar.Basic
import BoundSql.Numeral.Reading
import BoundSql.Text.Blank

/-!
# Reading dates and times

The reader is more generous than the printer.  White space may stand before every number and
before every separator of a day or a time, a field may have fewer digits than are written, a
year with a sign may have any number of digits, and digits of a fraction beyond the ninth are
dropped.  A point in time with an offset is moved to offset zero at once.

Each step takes its part off the front of the text and gives back the rest.
-/

namespace BoundSql.Calendar

open BoundSql.Text (trimStart isBlank)
open BoundSql.Numeral (digitsValue)

/-! ## Parts -/

/-- Take one to `most` digits, after white space. -/
def takeNumber? (most : Nat) (cs : List Char) : Option (Nat × List Char) :=
  let cs := trimStart cs
  let digits := (cs.take most).takeWhile Char.isDigit
  if digits = [] then none else some (digitsValue digits, cs.drop digits.length)

/-- Take a year: four digits at most, or a sign and any number of digits. -/
def takeYear? (cs : List Char) : Option (Int × List Char) :=
  let signed (rest : List Char) : Option (Nat × List Char) :=
    if rest.head?.any Char.isDigit then takeNumber? rest.length rest else none
  match trimStart cs with
  | '-' :: rest => (signed rest).map fun (n, rest) => (-(n : Int), rest)
  | '+' :: rest => (signed rest).map fun (n, rest) => ((n : Int), rest)
  | rest => (takeNumber? 4 rest).map fun (n, rest) => ((n : Int), rest)

/-- Take the separator `mark`, after white space. -/
def takeMark? (mark : Char) (cs : List Char) : Option (List Char) :=
  match trimStart cs with
  | c :: rest => if c = mark then some rest else none
  | [] => none

/-- Take the fraction of a second, if a point begins one. -/
def takeFraction? : List Char → Option (Nat × List Char)
  | '.' :: rest =>
    let digits := rest.takeWhile Char.isDigit
    let kept := digits.take 9
    if digits = [] then none
    else some (digitsValue kept * Nat.pow 10 (9 - kept.length), rest.dropWhile Char.isDigit)
  | cs => some (0, cs)

/-- Take year, month and day. -/
def takeDate? (cs : List Char) : Option (Date × List Char) := do
  let (year, cs) ← takeYear? cs
  let cs ← takeMark? '-' cs
  let (month, cs) ← takeNumber? 2 cs
  let cs ← takeMark? '-' cs
  let (day, cs) ← takeNumber? 2 cs
  return (← Date.ofNumbers? year month day, cs)

/-- Take hour, minute, second and fraction, and the white space after them. -/
def takeTime? (cs : List Char) : Option (Time × List Char) := do
  let (hour, cs) ← takeNumber? 2 cs
  let cs ← takeMark? ':' cs
  let (minute, cs) ← takeNumber? 2 cs
  let cs ← takeMark? ':' cs
  let (second, cs) ← takeNumber? 2 cs
  let (nano, cs) ← takeFraction? cs
  return (← Time.ofNumbers? hour minute second nano, trimStart cs)

/-- Take two digits with nothing before them. -/
def takeTwoDigits? : List Char → Option (Nat × List Char)
  | a :: b :: rest => if a.isDigit && b.isDigit then some (digitsValue [a, b], rest) else none
  | _ => none

/-- Take an offset, in minutes to the east: `Z`, `UTC`, or a sign, hours, an optional separator
of colons and white space, and minutes. -/
def takeOffset? (cs : List Char) : Option (Int × List Char) :=
  if Text.uppercase (String.ofList (cs.take 3)) = "UTC" then some (0, cs.drop 3)
  else match cs with
    | [] => none
    | sign :: rest =>
      if sign = 'Z' ∨ sign = 'z' then some (0, rest)
      else if sign = '+' ∨ sign = '-' ∨ sign = '\u2212' then do
        let (hours, rest) ← takeTwoDigits? rest
        let (minutes, rest) ← takeTwoDigits? (rest.dropWhile fun c => c == ':' || isBlank c)
        if 60 ≤ minutes ∨ 24 ≤ hours then none
        else
          let size : Int := 60 * hours + minutes
          some (if sign = '+' then size else -size, rest)
      else none

/-! ## Whole texts -/

/-- Read a day. -/
def Date.ofString? (s : String) : Option Date := do
  let (date, cs) ← takeDate? s.toList
  if (trimStart cs).isEmpty then some date else none

/-- Read a day, the letter `T` and a time. -/
def DateTime.ofString? (s : String) : Option DateTime := do
  let (date, cs) ← takeDate? s.toList
  let cs ← takeMark? 'T' cs
  let (time, cs) ← takeTime? cs
  if cs.isEmpty then some ⟨date, time⟩ else none

/-- Read a day, `T` or one blank, a time and an offset. -/
def Instant.ofString? (s : String) : Option Instant := do
  let (date, cs) ← takeDate? s.toList
  match cs with
  | [] => none
  | c :: cs =>
    if c = 'T' ∨ c = 't' ∨ c = ' ' then do
      let (time, cs) ← takeTime? cs
      let (offset, cs) ← takeOffset? cs
      if (trimStart cs).isEmpty then Instant.ofLocal? ⟨date, time⟩ offset else none
    else none

end BoundSql.Calendar
