import BoundSql.Numeral.Reading
import BoundSql.Text.Hex
import BoundSql.Toml.Basic

/-!
# TOML numbers, truth values, dates and times

A value that begins with no quote and no bracket is one word, and the word decides what it is.
-/

namespace BoundSql.Toml

open BoundSql.Numeral (takeSign digitsValue)

/-! ## Digits -/

/-- Digits with single underscores between them, as digits alone. -/
def digits? (isDigit : Char → Bool) : List Char → Option (List Char)
  | [] => none
  | [c] => if isDigit c then some [c] else none
  | c :: '_' :: rest =>
    if isDigit c then (digits? isDigit rest).map (c :: ·) else none
  | c :: rest => if isDigit c then (digits? isDigit rest).map (c :: ·) else none

/-- Digits of base ten that do not begin with a zero, except for zero itself. -/
def wholeDigits? (cs : List Char) : Option (List Char) :=
  match digits? Char.isDigit cs with
  | some ('0' :: _ :: _) => none
  | ds => ds

/-- The number with these digits in another base. -/
def inBase? (base : Nat) (cs : List Char) : Option Int := do
  let isDigit (c : Char) := (Text.hexValue? c).any (· < base)
  let ds ← digits? isDigit cs
  let n ← ds.foldlM (fun n c => (Text.hexValue? c).map (base * n + ·)) 0
  return (n : Int)

/-- A whole number, in base ten with or without a sign, or in another base. -/
def integer? (cs : List Char) : Option Int :=
  match cs with
  | '0' :: 'x' :: ds => inBase? 16 ds
  | '0' :: 'o' :: ds => inBase? 8 ds
  | '0' :: 'b' :: ds => inBase? 2 ds
  | _ =>
    let (negative, ds) := takeSign cs
    (wholeDigits? ds).map fun ds => if negative then -(digitsValue ds : Int) else digitsValue ds

/-- A floating number: whole digits with a fraction or a power of ten, or one of two words. -/
def isFloat (cs : List Char) : Bool :=
  let (_, cs) := takeSign cs
  let isPower (cs : List Char) : Bool := (digits? Char.isDigit (takeSign cs).2).isSome
  let isTail (cs : List Char) : Bool :=
    let (fraction, rest) := cs.span fun c => c.isDigit || c == '_'
    (digits? Char.isDigit fraction).isSome && match rest with
      | [] => true
      | e :: rest => (e == 'e' || e == 'E') && isPower rest
  let (whole, rest) := cs.span fun c => c.isDigit || c == '_'
  cs == "inf".toList || cs == "nan".toList ||
    ((wholeDigits? whole).isSome && match rest with
      | '.' :: rest => isTail rest
      | e :: rest => (e == 'e' || e == 'E') && isPower rest
      | [] => false)

/-! ## Dates and times -/

/-- Two digits, at most `most`. -/
def isField (most : Nat) (cs : List Char) : Bool :=
  cs.length == 2 && cs.all Char.isDigit && digitsValue cs ≤ most

/-- Four digits, two and two, with hyphens between them, that are a day. -/
def isDate (cs : List Char) : Bool :=
  match cs with
  | [y1, y2, y3, y4, '-', m1, m2, '-', d1, d2] =>
    let year := digitsValue [y1, y2, y3, y4]
    let month := digitsValue [m1, m2]
    let leap := year % 4 == 0 && (year % 100 != 0 || year % 400 == 0)
    let length := match month with
      | 2 => if leap then 29 else 28
      | 4 | 6 | 9 | 11 => 30
      | _ => 31
    [y1, y2, y3, y4].all Char.isDigit && isField 12 [m1, m2] && 1 ≤ month &&
      isField length [d1, d2] && 1 ≤ digitsValue [d1, d2]
  | _ => false

/-- Hours and minutes, and perhaps seconds with a fraction. -/
def isTime (cs : List Char) : Bool :=
  isField 23 (cs.take 2) && (cs.drop 2).head? == some ':' && isField 59 ((cs.drop 3).take 2) &&
    match cs.drop 5 with
    | [] => true
    | ':' :: rest => isField 60 (rest.take 2) && match rest.drop 2 with
      | [] => true
      | '.' :: fraction => fraction != [] && fraction.all Char.isDigit
      | _ => false
    | _ => false

/-- An offset: `Z`, or a sign with hours and minutes. -/
def isOffset (cs : List Char) : Bool :=
  match cs with
  | ['Z'] | ['z'] => true
  | sign :: a :: b :: ':' :: rest =>
    (sign == '+' || sign == '-') && isField 23 [a, b] && isField 59 rest
  | _ => false

/-- A day, a time, or both, the time perhaps with an offset. -/
def isDateTime (cs : List Char) : Bool :=
  isDate cs || isTime cs ||
    (isDate (cs.take 10) && (cs[10]?).any (fun c => c == 'T' || c == 't' || c == ' ') &&
      let (time, offset) := (cs.drop 11).span fun c => c.isDigit || c == ':' || c == '.'
      isTime time && (offset.isEmpty || isOffset offset))

/-! ## Words -/

/-- A whole number must be one of the signed or the unsigned 128-bit numbers. -/
def integerFits (n : Int) : Bool := -(Nat.pow 2 127 : Nat) ≤ n && n < (Nat.pow 2 128 : Nat)

/-- A floating number must not be too large for 64 bits, unless it is written as a word. -/
def floatFits (cs : List Char) : Bool :=
  match Numeral.ofString? (String.ofList (cs.filter (· != '_'))) with
  | some (.finite x) => (Numeral.Number.ofFloat x.toFloat).isFinite
  | _ => true

/-- What a word says. -/
def scalar? (cs : List Char) : Option Node :=
  if cs = "true".toList then some (.boolean true)
  else if cs = "false".toList then some (.boolean false)
  else match integer? cs with
    | some n => if integerFits n then some (.integer n) else none
    | none =>
      if isFloat cs then if floatFits cs then some .otherScalar else none
      else if isDateTime cs then some .otherScalar else none

end BoundSql.Toml
