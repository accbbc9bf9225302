import BoundSql.Prepared.Basic

/-!
# Reading the placeholders of finished SQL

`Prepared.placeholderCount` counts placeholders by walking over the text with a state.  Here the
same walk gives the placeholders themselves, as they are spelled (`Prepared.markers`); there are
as many as are counted (`length_markers`).

The rest is about what the walk passes over.

* A text without quotation marks, question marks and dollar signs is *calm*: a reader outside
  quoted runs stays there and meets nothing (`markersFrom_calm`).
* A quoted name is passed over whatever the name is, because only its own mark could end it and
  that one is doubled (`markersFrom_enclose`).
* A dollar sign with a number is one placeholder, provided that no digit follows
  (`markersFrom_numbered`).  What begins with no digit is called *closed* (`Closed`); behind a
  closed text it does not matter which of the states outside quoted runs the reader is in.
-/

namespace BoundSql.Prepared

/-! ## The placeholders as they are spelled -/

/-- How a placeholder is spelled: a question mark, or a dollar sign and the number that begins
with the digit `c`, given what follows. -/
def spelledAt (c : Char) (rest : List Char) : String :=
  if c.isDigit then String.ofList ('$' :: (c :: rest).takeWhile Char.isDigit) else "?"

/-- The placeholders that a text has outside quoted runs, from where the reader stands. -/
def markersFrom : Scan → List Char → List String
  | _, [] => []
  | s, c :: cs =>
    if (s.step c).2 then spelledAt c cs :: markersFrom (s.step c).1 cs
    else markersFrom (s.step c).1 cs

/-- The placeholders of a statement, in the order in which they are met. -/
def markers (p : Prepared) : List String := markersFrom .plain p.sql.toList

/-- From each state as many placeholders are met as are counted from it. -/
theorem length_markersFrom (s : Scan) (cs : List Char) :
    (markersFrom s cs).length = countFrom s cs := by
  induction cs generalizing s with
  | nil => rfl
  | cons c cs ih =>
    rw [markersFrom, countFrom]
    split
    · rw [List.length_cons, ih, Nat.add_comm]
    · rw [ih, Nat.zero_add]

/-- As many placeholders are met as are counted. -/
theorem length_markers (p : Prepared) : p.markers.length = p.placeholderCount :=
  length_markersFrom .plain p.sql.toList

/-! ## States outside quoted runs -/

/-- A reader in this state is outside quoted runs. -/
def Scan.isOutside : Scan → Bool
  | .quoted _ => false
  | _ => true

/-- No digit comes first. -/
def Closed (cs : List Char) : Prop := ∀ c ∈ cs.head?, c.isDigit = false

/-- An empty text is closed. -/
theorem closed_nil : Closed [] := by simp [Closed]

/-- Whether a text is closed depends on its first character. -/
theorem closed_cons {c : Char} {cs : List Char} : Closed (c :: cs) ↔ c.isDigit = false := by
  simp [Closed]

/-- Before a closed text all states outside quoted runs are alike. -/
theorem markersFrom_of_closed {s : Scan} {cs : List Char} (hs : s.isOutside) (h : Closed cs) :
    markersFrom s cs = markersFrom .plain cs := by
  cases cs with
  | nil => rfl
  | cons c cs =>
    have hc : c.isDigit = false := closed_cons.mp h
    have hstep : s.step c = Scan.plain.step c := by
      cases s with
      | quoted mark => simp [Scan.isOutside] at hs
      | plain => rfl
      | dollar => simp [Scan.step, hc]
      | number => simp [Scan.step, hc]
    rw [markersFrom, markersFrom, hstep]

/-! ## Digits -/

/-- A number is written in digits. -/
theorem all_isDigit_toString (n : Nat) : (toString n).toList.all Char.isDigit := by
  rw [Nat.toString_eq_repr, Nat.toList_repr, List.all_eq_true]
  intro c hc
  exact Nat.isDigit_of_mem_toDigits (by decide) (by decide) hc

/-- A number has at least one digit. -/
theorem toString_ne_nil (n : Nat) : (toString n).toList ≠ [] := by
  rw [Nat.toString_eq_repr, Nat.toList_repr]
  exact Nat.toDigits_ne_nil

/-- A number is read back from its digits. -/
theorem ofDigitChars_toString (n : Nat) : Nat.ofDigitChars 10 (toString n).toList 0 = n := by
  rw [Nat.toString_eq_repr, Nat.toList_repr]
  exact Nat.ofDigitChars_toDigits (by decide) (by decide)

/-- A number below zero has a sign and the digits of its opposite. -/
theorem toList_toString_negSucc (n : Nat) :
    (toString (Int.negSucc n)).toList = '-' :: (toString (n + 1)).toList :=
  String.toList_append

/-! ## Calm texts -/

/-- The character is no quotation mark and begins no placeholder. -/
def isCalm (c : Char) : Bool := !Quoting.isMark c && c != '?' && c != '$'

/-- No character of the text is a quotation mark or begins a placeholder. -/
def isCalmText (s : String) : Bool := s.toList.all isCalm

/-- Two texts are calm together just if each of them is. -/
theorem isCalmText_append (s t : String) :
    isCalmText (s ++ t) = (isCalmText s && isCalmText t) := by
  rw [isCalmText, String.toList_append, List.all_append, isCalmText, isCalmText]

/-- A calm character leaves the reader where it is, and is no placeholder. -/
theorem step_of_isCalm {c : Char} (h : isCalm c) : Scan.plain.step c = (.plain, false) := by
  simp only [isCalm, Bool.and_eq_true, Bool.not_eq_true', bne_iff_ne, ne_eq] at h
  simp [Scan.step, h.1.1, h.1.2, h.2]

/-- Nothing is met in a calm text. -/
theorem markersFrom_calm {cs : List Char} (h : cs.all isCalm) (rest : List Char) :
    markersFrom .plain (cs ++ rest) = markersFrom .plain rest := by
  induction cs with
  | nil => rfl
  | cons c cs ih =>
    rw [List.all_cons, Bool.and_eq_true] at h
    rw [List.cons_append, markersFrom, step_of_isCalm h.1]
    exact ih h.2

/-- A digit is calm. -/
theorem isCalm_of_isDigit {c : Char} (h : c.isDigit) : isCalm c := by
  simp only [isCalm, Quoting.isMark, Bool.and_eq_true, Bool.not_eq_true', Bool.or_eq_false_iff,
    beq_eq_false_iff_ne, bne_iff_ne, ne_eq]
  refine ⟨⟨⟨⟨?_, ?_⟩, ?_⟩, ?_⟩, ?_⟩ <;>
    · rintro rfl
      exact absurd h (by decide)

/-- Numbers are calm. -/
theorem isCalmText_toString (n : Nat) : isCalmText (toString n) := by
  rw [isCalmText, List.all_eq_true]
  intro c hc
  exact isCalm_of_isDigit (List.all_eq_true.mp (all_isDigit_toString n) c hc)

/-! ## Quoted names -/

/-- A reader who is inside a run comes out behind the mark that ends it, and has met nothing. -/
theorem markersFrom_double (mark : Char) (cs rest : List Char) (hm : Quoting.isMark mark) :
    markersFrom (.quoted mark) (Quoting.double mark cs ++ mark :: rest) =
      markersFrom .plain rest := by
  have hin : ∀ r, markersFrom (.quoted mark) (mark :: r) = markersFrom .plain r := by
    intro r
    simp [markersFrom, Scan.step]
  have hout : ∀ r, markersFrom .plain (mark :: r) = markersFrom (.quoted mark) r := by
    intro r
    simp [markersFrom, Scan.step, hm]
  induction cs with
  | nil => rw [Quoting.double_nil, List.nil_append, hin]
  | cons c cs ih =>
    rw [Quoting.double]
    split
    · -- the doubled mark ends the run and begins the next one
      rw [List.cons_append, List.cons_append, hin, hout, ih]
    · next hc =>
      rw [List.cons_append, ← ih]
      simp [markersFrom, Scan.step, hc]

/-- Nothing is met in a quoted name, whatever the name is. -/
theorem markersFrom_enclose (mark : Char) (name : String) (rest : List Char)
    (hm : Quoting.isMark mark) :
    markersFrom .plain ((Quoting.enclose mark mark name).toList ++ rest) =
      markersFrom .plain rest := by
  rw [Quoting.enclose, String.toList_ofList, List.cons_append, List.append_assoc,
    List.singleton_append, markersFrom]
  have hstep : Scan.plain.step mark = (.quoted mark, false) := by simp [Scan.step, hm]
  rw [hstep]
  exact markersFrom_double mark name.toList rest hm

/-! ## Numbered placeholders -/

/-- Digits behind a dollar sign belong to its number. -/
theorem markersFrom_digits {ds : List Char} (h : ds.all Char.isDigit) (rest : List Char) :
    markersFrom .number (ds ++ rest) = markersFrom .number rest := by
  induction ds with
  | nil => rfl
  | cons c ds ih =>
    rw [List.all_cons, Bool.and_eq_true] at h
    rw [List.cons_append, markersFrom]
    simp only [Scan.step, h.1, if_true, Bool.false_eq_true, if_false]
    exact ih h.2

/-- The digits of a number are taken up to a closed text. -/
theorem takeWhile_isDigit {ds rest : List Char} (h : ds.all Char.isDigit) (hr : Closed rest) :
    (ds ++ rest).takeWhile Char.isDigit = ds := by
  rw [List.takeWhile_append_of_pos (List.all_eq_true.mp h)]
  cases rest with
  | nil => simp
  | cons c rest => simp [closed_cons.mp hr]

/-- A numbered placeholder is a dollar sign and digits. -/
theorem toList_numbered (n : Nat) : ("$" ++ toString n).toList = '$' :: (toString n).toList := by
  have hd : "$".toList = ['$'] := by decide
  rw [String.toList_append, hd, List.singleton_append]

/-- A dollar sign with a number is one placeholder. -/
theorem markersFrom_numbered (n : Nat) {rest : List Char} (hr : Closed rest) :
    markersFrom .plain (("$" ++ toString n).toList ++ rest) =
      ("$" ++ toString n) :: markersFrom .plain rest := by
  have hall := all_isDigit_toString n
  have hspell : "$" ++ toString n = String.ofList ('$' :: (toString n).toList) := by
    rw [← toList_numbered, String.ofList_toList]
  rw [toList_numbered, hspell, List.cons_append]
  generalize hds : (toString n).toList = ds at hall
  obtain ⟨c, cs, rfl⟩ := List.exists_cons_of_ne_nil (hds ▸ toString_ne_nil n)
  have hc : c.isDigit ∧ cs.all Char.isDigit := by simpa using hall
  have hdollar : Scan.plain.step '$' = (.dollar, false) := by decide
  have hdigit : Scan.dollar.step c = (.number, true) := by simp [Scan.step, hc.1]
  rw [markersFrom, hdollar]
  simp only [Bool.false_eq_true, if_false]
  rw [List.cons_append, markersFrom, hdigit, spelledAt]
  simp only [if_true, hc.1]
  rw [← List.cons_append, takeWhile_isDigit hall hr, markersFrom_digits hc.2,
    markersFrom_of_closed rfl hr]

/-- A question mark is one placeholder. -/
theorem markersFrom_question (rest : List Char) :
    markersFrom .plain ("?".toList ++ rest) = "?" :: markersFrom .plain rest := rfl

end BoundSql.Prepared
