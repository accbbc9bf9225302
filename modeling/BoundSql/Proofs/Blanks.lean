import BoundSql.Dialect.Kind
import BoundSql.Proofs.SpacedStatement
import BoundSql.Proofs.Spelling

/-!
# Names overwritten with blanks

What a finished text says outside quoted names is seen when the names are overwritten with blanks.
There are two ways to do this.  The statement may be written in a dialect that quotes every name as
blanks, as many as there were characters (`Dialect.blanked`); this knows where the names are.  Or a
reader who knows nothing but the text overwrites everything between quotation marks, and the marks
(`Quoting.blank`).

Both come to the same wherever only names are quoted (`Fragment.Spaced.blanks`).  A quotation mark
in the SQL of the caller or in the name of a function would mislead the reader, but not the
dialect.
-/

namespace BoundSql

open Fragment (Spaced textFrom)

/-! ## Overwriting -/

/-- As many blanks as there are characters. -/
def blanksFor (cs : List Char) : List Char := cs.map fun _ => ' '

/-- The dialect that writes blanks for every quoted name. -/
def Dialect.blanked (d : Dialect) : Dialect :=
  { d with quote := fun name => String.ofList (blanksFor (d.quote name).toList) }

namespace Quoting

/-- The text with blanks for every character of a quoted run, marks included, from where the reader
stands. -/
def blank : Option Char → List Char → List Char
  | _, [] => []
  | none, c :: cs => (if isMark c then ' ' else c) :: blank (step none c) cs
  | some q, c :: cs => ' ' :: blank (step (some q) c) cs

/-- There is no quotation mark in the text. -/
def isMarkless (s : String) : Bool := s.toList.all fun c => !isMark c

variable {cs rest : List Char} {mark : Char}

/-- Outside quoted runs, a text without marks is left as it is. -/
theorem blank_markless (h : cs.all fun c => !isMark c) (rest : List Char) :
    blank none (cs ++ rest) = cs ++ blank none rest := by
  induction cs with
  | nil => rfl
  | cons c cs ih =>
    rw [List.all_cons, Bool.and_eq_true, Bool.not_eq_true'] at h
    rw [List.cons_append, blank, step_outside, h.1, if_neg Bool.false_ne_true,
      if_neg Bool.false_ne_true, ih h.2, List.cons_append]

/-- Two texts without marks make one without. -/
theorem isMarkless_append {s t : String} (hs : isMarkless s) (ht : isMarkless t) :
    isMarkless (s ++ t) := by
  rw [isMarkless, String.toList_append, List.all_append, Bool.and_eq_true]
  exact ⟨hs, ht⟩

/-- A calm text is without marks. -/
theorem isMarkless_of_isCalmText {s : String} (h : Prepared.isCalmText s) : isMarkless s := by
  rw [Prepared.isCalmText, List.all_eq_true] at h
  rw [isMarkless, List.all_eq_true]
  intro c hc
  have hcalm := h c hc
  rw [Prepared.isCalm, Bool.and_eq_true, Bool.and_eq_true] at hcalm
  exact hcalm.1.1

/-- A doubled mark leads the reader out of the run and back in, and the next single one out. -/
theorem blank_double (hm : isMark mark) (cs rest : List Char) :
    blank (some mark) (double mark cs ++ mark :: rest) =
      blanksFor (double mark cs ++ [mark]) ++ blank none rest := by
  have hin (r : List Char) : blank (some mark) (mark :: r) = ' ' :: blank none r := by
    rw [blank, step_inside, if_pos rfl]
  have hout (r : List Char) : blank none (mark :: r) = ' ' :: blank (some mark) r := by
    rw [blank, step_outside, if_pos hm, if_pos hm]
  induction cs with
  | nil => exact hin rest
  | cons c cs ih =>
    rw [double]
    split
    · rw [List.cons_append, List.cons_append, hin, hout, ih]
      rfl
    · next hc =>
      rw [List.cons_append, blank, step_inside, if_neg hc, ih]
      rfl

/-- A quoted name is overwritten as a whole, whatever the name is. -/
theorem blank_enclose (hm : isMark mark) (name : String) (rest : List Char) :
    blank none ((enclose mark mark name).toList ++ rest) =
      blanksFor (enclose mark mark name).toList ++ blank none rest := by
  rw [enclose, String.toList_ofList, List.cons_append, List.append_assoc, List.singleton_append,
    blank, step_outside, if_pos hm, if_pos hm, blank_double hm]
  rfl

end Quoting

/-- The text of a statement, its quoted runs overwritten. -/
def Prepared.blanked (p : Prepared) : String := String.ofList (Quoting.blank none p.sql.toList)

/-! ## Both ways come to the same -/

/-- A reader outside quoted runs overwrites the names in the fragment and nothing else. -/
def Fragment.Blanks (d : Dialect) (f : Fragment) : Prop :=
  ∀ (n : Nat) (rest : List Char),
    Quoting.blank none ((textFrom d n f).toList ++ rest) =
      (textFrom d.blanked n f).toList ++ Quoting.blank none rest

/-- What a reader who overwrites names relies on in a dialect. -/
structure Dialect.Blankable (d : Dialect) : Prop where
  quote (name : String) (rest : List Char) :
    Quoting.blank none ((d.quote name).toList ++ rest) =
      blanksFor (d.quote name).toList ++ Quoting.blank none rest
  placeholder (n : Nat) : Quoting.isMarkless (d.placeholder n)

namespace Fragment

variable {d : Dialect} {f : Fragment}

/-- In a spaced fragment the names are overwritten and nothing else: each word leaves the reader
outside quoted runs. -/
theorem Spaced.blanks (hd : d.Blankable) (h : Spaced (Quoting.isMarkless ·) (Blanks d) f) :
    Blanks d f := by
  induction h with
  | nil => exact fun _ _ => rfl
  | bound v =>
    intro n rest
    rw [textFrom_bound, textFrom_nil, String.append_empty,
      Quoting.blank_markless (hd.placeholder (n + 1)), textFrom_bound, textFrom_nil,
      String.append_empty]
    rfl
  | taken hf => exact hf
  | name identifier _ _ ih =>
    intro n rest
    rw [textFrom_word, Word.write_name, String.toList_append, List.append_assoc, hd.quote, ih n,
      textFrom_word, Word.write_name, String.toList_append, List.append_assoc, Dialect.blanked,
      String.toList_ofList]
  | text ht _ _ ih =>
    intro n rest
    rw [textFrom_word, Word.write_verbatim, String.toList_append, List.append_assoc,
      Quoting.blank_markless ht, ih n, textFrom_word, Word.write_verbatim, String.toList_append,
      List.append_assoc]
  | append _ _ _ ihf ihg =>
    intro n rest
    rw [textFrom_append, String.toList_append, List.append_assoc, ihf n, ihg, textFrom_append,
      String.toList_append, List.append_assoc]

/-- What is written with names overwritten is what is read with them overwritten. -/
theorem Blanks.sql_prepare_blanked (h : Blanks d f) :
    (f.prepare d.blanked).sql = (f.prepare d).blanked := by
  have hread := h 0 []
  rw [List.append_nil] at hread
  rw [Prepared.blanked, sql_prepare d, hread, sql_prepare d.blanked]
  simp [Quoting.blank]

end Fragment

/-! ## Statements and batches in the blanked dialect -/

section

variable (d : Dialect)

/-- A check does not ask how names are quoted. -/
theorem checkAll_blanked : checkAll d.blanked = checkAll d := by
  delta checkAll
  rfl

/-- Nor does the check of a statement. -/
theorem Statement.check_blanked (s : Statement) : s.check d.blanked = s.check d := by
  cases s with
  | select q => exact congrFun (checkAll_blanked d) _
  | insert i =>
    simp only [Statement.check, Insert.check, Assignments.check, checkAll_blanked]
    rfl
  | update u =>
    simp only [Statement.check, Update.check, Assignments.check, Predicate.checkOption,
      checkAll_blanked]
    rfl
  | delete x =>
    simp only [Statement.check, Delete.check, Predicate.checkOption, checkAll_blanked]
    rfl

/-- The fragment of a statement is the same however names are quoted. -/
theorem Statement.fragment_blanked (s : Statement) : s.fragment d.blanked = s.fragment d :=
  s.fragment_respelled d _ d.placeholder

/-- The rows of a batch are checked alike. -/
theorem Batch.checkRows_blanked (rows : List Assignments) :
    Batch.checkRows d.blanked rows = Batch.checkRows d rows := by
  induction rows with
  | nil => rfl
  | cons row rows ih =>
    rw [Batch.checkRows, Batch.checkRows, ih, Assignments.check, Assignments.check,
      checkAll_blanked]

/-- The batch is checked alike. -/
theorem Batch.check_blanked (b : Batch) : b.check d.blanked = b.check d := by
  rw [Batch.check, Batch.check]
  simp only [Batch.checkRows_blanked]
  rfl

/-- The fragments of a batch are the same however names are quoted. -/
theorem Batch.fragments_blanked (b : Batch) (strategy : BatchStrategy) (limit : Option Nat) :
    b.fragments d.blanked strategy limit = b.fragments d strategy limit := by
  have htuple : tuple d.blanked = tuple d := tuple_respelled d _ d.placeholder
  simp only [Batch.fragments, Batch.tuples, htuple]
  rfl

end

end BoundSql
