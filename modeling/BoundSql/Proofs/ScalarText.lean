import BoundSql.Calendar.Printer
import BoundSql.Calendar.Reader
import BoundSql.Proofs.Literals
import BoundSql.Uuid

/-!
# Dates, times and identifiers are read back

Dates and times are written as numbers with marks between them.  A number is padded, and the
reader takes as many digits as there may be, so it takes all that were written and no more if
there are that many, or if no digit follows (`takeNumber?_append`).  What was read is then a day or
a time because it was one before.

Main statements: `Calendar.Date.ofString?_toString`, `Calendar.DateTime.ofString?_toString`,
`Calendar.Instant.ofString?_toString` and `Uuid.ofString?_toString`.
-/

namespace BoundSql

open Prepared (Closed closed_nil closed_cons)

namespace Calendar

open Numeral (digitsFrom digitsValue)
open Text (isBlank trimStart)

/-! ## Padded numbers -/

/-- A padded number is zeros and its digits behind them. -/
theorem toList_padded (width n : Nat) :
    (padded width n).toList =
      List.replicate (width - (toString n).length) '0' ++ (toString n).toList := by
  rw [padded, String.toList_append, String.toList_ofList]

/-- A padded number is all digits. -/
theorem all_isDigit_padded (width n : Nat) : (padded width n).toList.all Char.isDigit := by
  rw [toList_padded, List.all_append, Bool.and_eq_true]
  refine ⟨List.all_eq_true.mpr fun c hc => ?_, Prepared.all_isDigit_toString n⟩
  rw [List.eq_of_mem_replicate hc]
  rfl

/-- The zeros in front add nothing to the value. -/
theorem digitsValue_padded (width n : Nat) : digitsValue (padded width n).toList = n := by
  have hzeros (k : Nat) : digitsFrom 0 (List.replicate k '0') = 0 := by
    induction k with
    | zero => rfl
    | succ k ih => exact ih
  have happend (cs ds : List Char) : digitsFrom 0 (cs ++ ds) = digitsFrom (digitsFrom 0 cs) ds :=
    List.foldl_append
  have hdigits : digitsFrom 0 (toString n).toList = n := Prepared.ofDigitChars_toString n
  rw [digitsValue, toList_padded, happend, hzeros, hdigits]

/-- A number that is not too long is padded to the width. -/
theorem length_padded {width n : Nat} (hwidth : 0 < width) (h : n < 10 ^ width) :
    (padded width n).toList.length = width := by
  have hlength : (toString n).length ≤ width := (Nat.length_repr_le_iff hwidth).mpr h
  rw [toList_padded, List.length_append, List.length_replicate, String.length_toList]
  omega

/-- However short the width, some digit is written. -/
theorem padded_ne_nil (width n : Nat) : (padded width n).toList ≠ [] := by
  rw [toList_padded]
  exact List.append_ne_nil_of_right_ne_nil _ (Prepared.toString_ne_nil n)

/-! ## White space -/

/-- A digit is no white space. -/
theorem isBlank_of_isDigit {c : Char} (h : c.isDigit) : isBlank c = false := by
  rw [Char.isDigit, Bool.and_eq_true, decide_eq_true_eq, decide_eq_true_eq] at h
  have hzero : '0'.val.toNat = 48 := rfl
  have hnine : '9'.val.toNat = 57 := rfl
  simp only [UInt32.le_iff_toNat_le, ge_iff_le] at h
  have hn : 48 ≤ c.toNat ∧ c.toNat ≤ 57 := by
    rw [Char.toNat]
    omega
  simp only [isBlank, Bool.or_eq_false_iff, Bool.and_eq_false_iff, decide_eq_false_iff_not,
    beq_eq_false_iff_ne]
  omega

/-- There is nothing to drop if no white space comes first. -/
theorem trimStart_cons {c : Char} (h : isBlank c = false) (cs : List Char) :
    trimStart (c :: cs) = c :: cs := List.dropWhile_cons_of_neg (by simp [h])

/-- There is nothing to drop in front of digits. -/
theorem trimStart_digits {ds : List Char} (hne : ds ≠ []) (hall : ds.all Char.isDigit)
    (rest : List Char) : trimStart (ds ++ rest) = ds ++ rest := by
  obtain ⟨c, ds, rfl⟩ := List.exists_cons_of_ne_nil hne
  rw [List.all_cons, Bool.and_eq_true] at hall
  exact trimStart_cons (isBlank_of_isDigit hall.1) (ds ++ rest)

/-! ## Numbers and marks -/

/-- As many digits are taken as were written. -/
theorem takeNumber?_append {most : Nat} {ds rest : List Char} (hne : ds ≠ [])
    (hall : ds.all Char.isDigit) (hlength : ds.length ≤ most)
    (hend : Closed (rest.take (most - ds.length))) :
    takeNumber? most (ds ++ rest) = some (digitsValue ds, rest) := by
  have htake : ((ds ++ rest).take most).takeWhile Char.isDigit = ds := by
    rw [List.take_append, List.take_of_length_le hlength, Prepared.takeWhile_isDigit hall hend]
  simp only [takeNumber?, trimStart_digits hne hall, htake, if_neg hne, List.drop_left]

/-- A padded number is taken as a whole. -/
theorem takeNumber?_padded {width n : Nat} (hwidth : 0 < width) (h : n < 10 ^ width)
    (rest : List Char) :
    takeNumber? width ((padded width n).toList ++ rest) = some (n, rest) := by
  have hlength := length_padded hwidth h
  rw [takeNumber?_append (padded_ne_nil width n) (all_isDigit_padded width n) hlength.le,
    digitsValue_padded]
  rw [hlength, Nat.sub_self, List.take_zero]
  exact closed_nil

/-- A mark is taken where it stands first. -/
theorem takeMark?_cons {mark : Char} (h : isBlank mark = false) (rest : List Char) :
    takeMark? mark (mark :: rest) = some rest := by
  rw [takeMark?, trimStart_cons h]
  exact if_pos rfl

/-! ## Days -/

/-- A padded number begins with a digit. -/
theorem exists_padded_append (width n : Nat) (rest : List Char) :
    ∃ c cs, (padded width n).toList ++ rest = c :: cs ∧ c.isDigit := by
  obtain ⟨c, cs, h⟩ := List.exists_cons_of_ne_nil (padded_ne_nil width n)
  have hall := all_isDigit_padded width n
  rw [h, List.all_cons, Bool.and_eq_true] at hall
  exact ⟨c, cs ++ rest, by rw [h, List.cons_append], hall.1⟩

/-- Behind a sign, all digits are taken. -/
theorem takeYear?_sign {n : Nat} {rest : List Char} (hrest : Closed rest) :
    takeYear? ('-' :: ((padded 4 n).toList ++ rest)) = some (-(n : Int), rest) ∧
      takeYear? ('+' :: ((padded 4 n).toList ++ rest)) = some ((n : Int), rest) := by
  have htake : takeNumber? ((padded 4 n).toList ++ rest).length ((padded 4 n).toList ++ rest) =
      some (n, rest) := by
    rw [takeNumber?_append (padded_ne_nil 4 n) (all_isDigit_padded 4 n) (by simp),
      digitsValue_padded]
    rw [List.length_append, Nat.add_sub_cancel_left, List.take_length]
    exact hrest
  have hhead : ((padded 4 n).toList ++ rest).head?.any Char.isDigit := by
    obtain ⟨c, cs, h, hc⟩ := exists_padded_append 4 n rest
    rw [h]
    exact hc
  have hminus : isBlank '-' = false := by decide
  have hplus : isBlank '+' = false := by decide
  constructor
  · simp only [takeYear?, trimStart_cons hminus, hhead, if_true, htake, Option.map_some]
  · simp only [takeYear?, trimStart_cons hplus, hhead, if_true, htake, Option.map_some]

/-- A year of four digits is taken without a sign. -/
theorem takeYear?_unsigned {n : Nat} (h : n < 10 ^ 4) (rest : List Char) :
    takeYear? ((padded 4 n).toList ++ rest) = some ((n : Int), rest) := by
  have htrim := trimStart_digits (padded_ne_nil 4 n) (all_isDigit_padded 4 n) rest
  obtain ⟨c, cs, hcons, hc⟩ := exists_padded_append 4 n rest
  rw [takeYear?, htrim]
  split
  · next heq =>
    obtain rfl := (List.cons.inj (hcons.symm.trans heq)).1
    cases hc
  · next heq =>
    obtain rfl := (List.cons.inj (hcons.symm.trans heq)).1
    cases hc
  · rw [takeNumber?_padded (by decide) h, Option.map_some]

/-- Every year is read back if no digit follows it. -/
theorem takeYear?_yearText (year : Int) {rest : List Char} (hrest : Closed rest) :
    takeYear? ((yearText year).toList ++ rest) = some (year, rest) := by
  have hsign := @takeYear?_sign year.natAbs rest hrest
  by_cases h : 0 ≤ year ∧ year ≤ 9999
  · have hyear : (year.toNat : Int) = year := Int.toNat_of_nonneg h.1
    rw [yearText, if_pos h, takeYear?_unsigned (by omega), hyear]
  · have hminus : "-".toList = ['-'] := by decide
    have hplus : "+".toList = ['+'] := by decide
    by_cases hneg : year < 0
    · have hyear : -(year.natAbs : Int) = year := by omega
      rw [hyear] at hsign
      rw [yearText, if_neg h, if_pos hneg, String.toList_append, hminus, List.append_assoc,
        List.singleton_append]
      exact hsign.1
    · have hyear : (year.natAbs : Int) = year := by omega
      rw [hyear] at hsign
      rw [yearText, if_neg h, if_neg hneg, String.toList_append, hplus, List.append_assoc,
        List.singleton_append]
      exact hsign.2

/-- The numbers of a day make up the day. -/
theorem Date.ofNumbers?_self (d : Date) : Date.ofNumbers? d.year d.month d.day = some d :=
  dif_pos d.isDate

/-- The months and the days of a month have two digits. -/
theorem Date.lt_hundred (d : Date) : d.month < 10 ^ 2 ∧ d.day < 10 ^ 2 := by
  obtain ⟨-, -, hpos, hday⟩ := d.isDate
  have hmonth : d.month < 10 ^ 2 := by
    by_contra hlarge
    have hnone : daysInMonth d.year d.month = 0 := by
      unfold daysInMonth
      split <;> omega
    omega
  have hlength : daysInMonth d.year d.month ≤ 31 := by
    unfold daysInMonth
    split <;> first | omega | split <;> omega
  exact ⟨hmonth, by omega⟩

/-- A day is taken from the front of a text, whatever follows it. -/
theorem takeDate?_toString (d : Date) (rest : List Char) :
    takeDate? (d.toString.toList ++ rest) = some (d, rest) := by
  have htext : d.toString.toList ++ rest = (yearText d.year).toList ++
      '-' :: ((padded 2 d.month).toList ++ '-' :: ((padded 2 d.day).toList ++ rest)) := by
    have hmark : "-".toList = ['-'] := by decide
    simp only [Date.toString, String.toList_append, hmark, List.append_assoc, List.cons_append,
      List.nil_append]
  have hblank : isBlank '-' = false := by decide
  have hclosed (cs : List Char) : Closed ('-' :: cs) := closed_cons.mpr (by decide)
  obtain ⟨hmonth, hday⟩ := d.lt_hundred
  simp only [htext, takeDate?, Option.bind_eq_bind, takeYear?_yearText d.year (hclosed _),
    Option.bind_some, takeMark?_cons hblank, takeNumber?_padded (by decide : 0 < 2) hmonth,
    takeNumber?_padded (by decide : 0 < 2) hday, Date.ofNumbers?_self]
  rfl

/-! ## Times -/

/-- Neither a digit nor a point nor white space comes first. -/
def EndsTime (cs : List Char) : Prop :=
  ∀ c ∈ cs.head?, c.isDigit = false ∧ c ≠ '.' ∧ isBlank c = false

/-- What ends a time ends a number. -/
theorem EndsTime.closed {cs : List Char} (h : EndsTime cs) : Closed cs := fun c hc => (h c hc).1

/-- There is no white space to drop where a time ends. -/
theorem EndsTime.trimStart_eq {cs : List Char} (h : EndsTime cs) : trimStart cs = cs := by
  cases cs with
  | nil => rfl
  | cons c cs => exact trimStart_cons (h c rfl).2.2 cs

/-- Up to nine digits behind the point are taken for what they are worth. -/
theorem takeFraction?_padded {width n : Nat} (hwidth : 0 < width) (hnine : width ≤ 9)
    (h : n < 10 ^ width) {rest : List Char} (hrest : Closed rest) :
    takeFraction? ('.' :: ((padded width n).toList ++ rest)) =
      some (n * 10 ^ (9 - width), rest) := by
  have hlength := length_padded hwidth h
  have hall := all_isDigit_padded width n
  have htake := Prepared.takeWhile_isDigit hall hrest
  have hdrop : ((padded width n).toList ++ rest).dropWhile Char.isDigit = rest := by
    rw [List.dropWhile_append_of_pos (List.all_eq_true.mp hall)]
    cases rest with
    | nil => rfl
    | cons c rest => exact List.dropWhile_cons_of_neg (by simp [closed_cons.mp hrest])
  have hkept : (padded width n).toList.take 9 = (padded width n).toList :=
    List.take_of_length_le (by omega)
  simp only [takeFraction?, htake, hkept, if_neg (padded_ne_nil width n), hdrop,
    digitsValue_padded, hlength]
  rfl

/-- A fraction of a second is read back, in three digits, six or nine. -/
theorem takeFraction?_fractionText {nano : Nat} (h : nano < 1000000000) {rest : List Char}
    (hrest : EndsTime rest) :
    takeFraction? ((fractionText nano).toList ++ rest) = some (nano, rest) := by
  have hpoint (text : String) : ("." ++ text).toList = '.' :: text.toList := String.toList_append
  unfold fractionText
  split
  · next hzero =>
    subst hzero
    show takeFraction? rest = some (0, rest)
    unfold takeFraction?
    split
    · exact absurd rfl (hrest '.' rfl).2.1
    · rfl
  · split
    · next hmillis =>
      have hvalue : nano / 1000000 * 10 ^ (9 - 3) = nano := by omega
      rw [hpoint, List.cons_append, takeFraction?_padded (by decide) (by decide) (by omega)
        hrest.closed, hvalue]
    · split
      · next hmicros =>
        have hvalue : nano / 1000 * 10 ^ (9 - 6) = nano := by omega
        rw [hpoint, List.cons_append, takeFraction?_padded (by decide) (by decide) (by omega)
          hrest.closed, hvalue]
      · rw [hpoint, List.cons_append, takeFraction?_padded (by decide) (by decide) h hrest.closed,
          Nat.sub_self, Nat.pow_zero, Nat.mul_one]

/-- The numbers of a time make up the time. -/
theorem Time.ofNumbers?_self (t : Time) :
    Time.ofNumbers? t.hour t.minute t.second t.nano = some t := dif_pos t.isTime

/-- A time is taken from the front of a text, if what follows ends it. -/
theorem takeTime?_toString (t : Time) {rest : List Char} (hrest : EndsTime rest) :
    takeTime? (t.toString.toList ++ rest) = some (t, rest) := by
  have htext : t.toString.toList ++ rest = (padded 2 t.hour).toList ++ ':' ::
      ((padded 2 t.minute).toList ++ ':' :: ((padded 2 t.second).toList ++
        ((fractionText t.nano).toList ++ rest))) := by
    have hmark : ":".toList = [':'] := by decide
    simp only [Time.toString, String.toList_append, hmark, List.append_assoc, List.cons_append,
      List.nil_append]
  have hblank : isBlank ':' = false := by decide
  obtain ⟨hhour, hminute, hsecond, hnano⟩ := t.isTime
  simp only [htext, takeTime?, Option.bind_eq_bind, Option.bind_some, takeMark?_cons hblank,
    takeNumber?_padded (by decide : 0 < 2) (by omega : t.hour < 10 ^ 2),
    takeNumber?_padded (by decide : 0 < 2) (by omega : t.minute < 10 ^ 2),
    takeNumber?_padded (by decide : 0 < 2) (by omega : t.second < 10 ^ 2),
    takeFraction?_fractionText hnano hrest, Time.ofNumbers?_self, hrest.trimStart_eq]
  rfl

/-! ## Whole texts -/

/-- **A day is read back.** -/
theorem Date.ofString?_toString (d : Date) : Date.ofString? d.toString = some d := by
  have htake := takeDate?_toString d []
  rw [List.append_nil] at htake
  rw [Date.ofString?, htake]
  rfl

/-- A day and a time are written as the one, a `T` and the other. -/
theorem DateTime.toList_toString (t : DateTime) (rest : List Char) :
    (t.toString "T").toList ++ rest =
      t.date.toString.toList ++ 'T' :: (t.time.toString.toList ++ rest) := by
  have hmark : "T".toList = ['T'] := by decide
  simp only [DateTime.toString, String.toList_append, hmark, List.append_assoc, List.cons_append,
    List.nil_append]

/-- **A day with a time is read back.** -/
theorem DateTime.ofString?_toString (t : DateTime) :
    DateTime.ofString? (t.toString "T") = some t := by
  have hblank : isBlank 'T' = false := by decide
  have htext := t.toList_toString []
  have hends : EndsTime [] := by simp [EndsTime]
  rw [List.append_nil] at htext
  simp only [DateTime.ofString?, htext, Option.bind_eq_bind, Option.bind_some,
    takeDate?_toString, takeMark?_cons hblank, takeTime?_toString t.time hends]
  rfl

/-- At offset zero nothing moves. -/
theorem DateTime.minusMinutes?_zero (t : DateTime) : t.minusMinutes? 0 = some t := by
  obtain ⟨hhour, hminute, -, -⟩ := t.time.isTime
  have hbefore : ¬(60 * t.time.hour + t.time.minute - 0 : Int) < 0 := by omega
  have hafter : ¬(1440 : Int) ≤ 60 * t.time.hour + t.time.minute - 0 := by omega
  have hday : ((60 * t.time.hour + t.time.minute - 0 : Int) % 1440).toNat =
      60 * t.time.hour + t.time.minute := by omega
  have hhours : (60 * t.time.hour + t.time.minute) / 60 = t.time.hour := by omega
  have hminutes : (60 * t.time.hour + t.time.minute) % 60 = t.time.minute := by omega
  simp only [DateTime.minusMinutes?, if_neg hbefore, if_neg hafter, hday, hhours, hminutes,
    Time.ofNumbers?_self]
  rfl

/-- **An instant is read back**, the letter for its offset being behind it. -/
theorem Instant.ofString?_toString (t : Instant) :
    Instant.ofString? (t.utc.toString "T" ++ "Z") = some t := by
  have htext := t.utc.toList_toString ['Z']
  have hends : EndsTime ['Z'] := by simp [EndsTime, isBlank]
  have hzulu : "Z".toList = ['Z'] := by decide
  have hoffset : takeOffset? ['Z'] = some (0, []) := by decide
  simp only [Instant.ofString?, String.toList_append, hzulu, htext, Option.bind_eq_bind,
    Option.bind_some, takeDate?_toString, takeTime?_toString t.utc.time hends, hoffset]
  simp [trimStart, Instant.ofLocal?, DateTime.minusMinutes?_zero]

end Calendar

/-! ## Identifiers -/

/-- A number has as many digits to base sixteen as are asked for. -/
theorem Text.length_hexDigits (width n : Nat) : (hexDigits width n).length = width := by
  induction width generalizing n with
  | zero => rfl
  | succ width ih => rw [hexDigits, List.length_append, ih, List.length_singleton]

namespace Uuid

/-- The 32 digits are read as the identifier. -/
theorem ofDigits?_digits (u : Uuid) : ofDigits? u.digits = some u := by
  have hlength : u.digits.length = 32 := Text.length_hexDigits 32 u.bits.toNat
  have hlt : u.bits.toNat < 16 ^ 32 := u.bits.isLt
  rw [ofDigits?, if_pos hlength, digits, Text.hexNumber?_hexDigits, Nat.mod_eq_of_lt hlt,
    Option.map_some, BitVec.ofNat_toNat, BitVec.setWidth_eq]

section

variable {group : List Char} {n : Nat}

/-- Behind a group and its hyphen comes the rest. -/
theorem drop_hyphen (h : group.length = n) (cs : List Char) :
    (group ++ '-' :: cs).drop (n + 1) = cs := by
  rw [← h, List.drop_append, Nat.add_sub_cancel_left, List.drop_of_length_le (by omega)]
  rfl

/-- Behind a group comes its hyphen. -/
theorem getElem?_hyphen (h : group.length = n) (cs : List Char) :
    (group ++ '-' :: cs)[n]? = some '-' := by
  rw [← h, List.getElem?_append_right (Nat.le_refl _), Nat.sub_self]
  rfl

end

/-- Hyphens at their places are left out. -/
theorem ofHyphenated?_groups {a b c d e : List Char} (ha : a.length = 8) (hb : b.length = 4)
    (hc : c.length = 4) (hd : d.length = 4) (he : e.length = 12) :
    ofHyphenated? (a ++ '-' :: (b ++ '-' :: (c ++ '-' :: (d ++ '-' :: e)))) =
      ofDigits? (a ++ b ++ c ++ d ++ e) := by
  generalize hcs : a ++ '-' :: (b ++ '-' :: (c ++ '-' :: (d ++ '-' :: e))) = cs
  have hlength : cs.length = 36 := by
    rw [← hcs]
    simp [ha, hb, hc, hd, he]
  have hdrop (i j : Nat) : (cs.drop i).drop j = cs.drop (i + j) := List.drop_drop
  have h9 : cs.drop 9 = b ++ '-' :: (c ++ '-' :: (d ++ '-' :: e)) := hcs ▸ drop_hyphen ha _
  have h14 : cs.drop 14 = c ++ '-' :: (d ++ '-' :: e) := by
    rw [← hdrop 9 5, h9, drop_hyphen hb]
  have h19 : cs.drop 19 = d ++ '-' :: e := by rw [← hdrop 14 5, h14, drop_hyphen hc]
  have h24 : cs.drop 24 = e := by rw [← hdrop 19 5, h19, drop_hyphen hd]
  have hget (i j : Nat) : (cs.drop i)[j]? = cs[i + j]? := List.getElem?_drop
  have hhyphens : cs[8]? = some '-' ∧ cs[13]? = some '-' ∧ cs[18]? = some '-' ∧
      cs[23]? = some '-' := by
    refine ⟨hcs ▸ getElem?_hyphen ha _, ?_, ?_, ?_⟩
    · rw [← hget 9 4, h9, getElem?_hyphen hb]
    · rw [← hget 14 4, h14, getElem?_hyphen hc]
    · rw [← hget 19 4, h19, getElem?_hyphen hd]
  obtain ⟨h8, h13, h18, h23⟩ := hhyphens
  have htake : cs.take 8 = a := hcs ▸ List.take_left' ha
  simp only [ofHyphenated?, hlength, h8, h13, h18, h23, htake, h9, h14, h19, h24,
    List.take_left' hb, List.take_left' hc, List.take_left' hd]
  exact if_pos (by decide)

/-- The groups of the hyphenated form, one behind another, are the digits. -/
theorem groups_digits (u : Uuid) :
    u.digits.take 8 ++ (u.digits.drop 8).take 4 ++ (u.digits.drop 12).take 4 ++
      (u.digits.drop 16).take 4 ++ (u.digits.drop 20).take 12 = u.digits := by
  have hlength : u.digits.length = 32 := Text.length_hexDigits 32 u.bits.toNat
  have hjoin (xs : List Char) (n k : Nat) : xs.take n ++ (xs.drop n).take k = xs.take (n + k) :=
    List.take_add.symm
  rw [hjoin _ 8 4, hjoin _ 12 4, hjoin _ 16 4, hjoin _ 20 12, List.take_of_length_le hlength.le]

/-- **An identifier is read back.** -/
theorem ofString?_toString (u : Uuid) : ofString? u.toString = some u := by
  have hlength : u.digits.length = 32 := Text.length_hexDigits 32 u.bits.toNat
  have hhyphen : "-".toList = ['-'] := by decide
  have htext : u.toString.toList = u.digits.take 8 ++ '-' :: ((u.digits.drop 8).take 4 ++ '-' ::
      ((u.digits.drop 12).take 4 ++ '-' :: ((u.digits.drop 16).take 4 ++ '-' ::
        (u.digits.drop 20).take 12))) := by
    simp [toString, String.intercalate_cons_cons, hhyphen]
  have htotal : u.toString.toList.length = 36 := by simp [htext, hlength]
  have hread := ofHyphenated?_groups (a := u.digits.take 8) (b := (u.digits.drop 8).take 4)
    (c := (u.digits.drop 12).take 4) (d := (u.digits.drop 16).take 4)
    (e := (u.digits.drop 20).take 12) (by simp [hlength]) (by simp [hlength]) (by simp [hlength])
    (by simp [hlength]) (by simp [hlength])
  rw [ofString?]
  simp only [htotal]
  rw [htext, hread, groups_digits, ofDigits?_digits]

end Uuid

end BoundSql
