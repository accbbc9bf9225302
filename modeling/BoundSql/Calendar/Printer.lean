import BoundSql.Calendar.Basic

/-!
# Writing dates and times

Fields are padded with zeros.  A year from 0 to 9999 has four digits and any other year a sign
and at least four.  A fraction of a second is written with the fewest of 3, 6 or 9 digits that
lose nothing, and not at all if it is zero.
-/

namespace BoundSql.Calendar

/-- The digits of `n`, padded with zeros to `width`. -/
def padded (width n : Nat) : String :=
  let digits := toString n
  String.ofList (List.replicate (width - digits.length) '0') ++ digits

/-- The text of a year. -/
def yearText (year : Int) : String :=
  if 0 ≤ year ∧ year ≤ 9999 then padded 4 year.toNat
  else (if year < 0 then "-" else "+") ++ padded 4 year.natAbs

/-- The text of a fraction of a second, with its point. -/
def fractionText (nano : Nat) : String :=
  if nano = 0 then ""
  else if nano % 1000000 = 0 then "." ++ padded 3 (nano / 1000000)
  else if nano % 1000 = 0 then "." ++ padded 6 (nano / 1000)
  else "." ++ padded 9 nano

/-- Year, month and day. -/
def Date.toString (d : Date) : String :=
  yearText d.year ++ "-" ++ padded 2 d.month ++ "-" ++ padded 2 d.day

/-- Hour, minute, second and fraction. -/
def Time.toString (t : Time) : String :=
  padded 2 t.hour ++ ":" ++ padded 2 t.minute ++ ":" ++ padded 2 t.second ++ fractionText t.nano

/-- Day and time with `separator` between them. -/
def DateTime.toString (separator : String) (t : DateTime) : String :=
  t.date.toString ++ separator ++ t.time.toString

end BoundSql.Calendar
