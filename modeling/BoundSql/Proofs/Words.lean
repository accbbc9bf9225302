import BoundSql.Proofs.Markers
import Mathlib.Data.List.Infix

/-!
# The words of a text

A word is a longest run of letters, digits and underscores; letters beyond ASCII count as well.  A
reader who does not care for the case of letters folds every word into capital letters.

The words of two texts in a row are those of the one and then those of the other, unless a word
runs across the seam (`wordsOf_append`).  So whoever puts texts together has to look at the seams
only.

A feature that a dialect may lack is asked for by phrases (`Capability.phrases`).  Each phrase has a
word in it that nothing else needs (`Capability.marks`).  A text without these words has none of the
phrases (`Capability.not_infix_of_not_in`), and this is easier to follow through a statement, for a
phrase may run across a seam where no word does.
-/

namespace BoundSql

/-! ## Words -/

/-- A character that words are made of. -/
def isWordChar (c : Char) : Bool := c.isAlphanum || c == '_' || decide (128 ≤ c.toNat)

/-- Words are made of digits too. -/
theorem isWordChar_of_isDigit {c : Char} (h : c.isDigit) : isWordChar c := by
  simp [isWordChar, Char.isAlphanum, h]

/-- A word as it is read. -/
def foldWord (caseless : Bool) (cs : List Char) : String :=
  String.ofList (if caseless then cs.map Char.toUpper else cs)

/-- The words of a text, in order. -/
def wordsOf (caseless : Bool) (cs : List Char) : List String :=
  ((cs.splitOnP fun c => !isWordChar c).filter fun w => !w.isEmpty).map (foldWord caseless)

/-- The text does not begin inside a word. -/
def BeginsApart (cs : List Char) : Prop := ∀ c ∈ cs.head?, isWordChar c = false

/-- The text does not end inside a word. -/
def EndsApart (cs : List Char) : Prop := ∀ c ∈ cs.getLast?, isWordChar c = false

/-- To look at the character that there may be is the same as to look at it if it is there. -/
theorem all_not_isWordChar_iff (o : Option Char) :
    (o.all fun c => !isWordChar c) = true ↔ ∀ c ∈ o, isWordChar c = false := by
  cases o with
  | none => simp
  | some c => simp

/-- Whether a text begins apart can be computed. -/
instance (cs : List Char) : Decidable (BeginsApart cs) :=
  decidable_of_iff _ (all_not_isWordChar_iff cs.head?)

/-- Whether a text ends apart can be computed. -/
instance (cs : List Char) : Decidable (EndsApart cs) :=
  decidable_of_iff _ (all_not_isWordChar_iff cs.getLast?)

section

variable {caseless : Bool} {c : Char} {cs xs ys : List Char}

/-- An empty text has no words. -/
@[simp] theorem wordsOf_nil : wordsOf caseless [] = [] := rfl

/-- A character that belongs to no word comes between the words before it and those behind it. -/
theorem wordsOf_append_cons (xs ys : List Char) (hc : isWordChar c = false) :
    wordsOf caseless (xs ++ c :: ys) = wordsOf caseless xs ++ wordsOf caseless ys := by
  have hsplit : (xs ++ c :: ys).splitOnP (fun c => !isWordChar c) =
      xs.splitOnP (fun c => !isWordChar c) ++ ys.splitOnP (fun c => !isWordChar c) :=
    List.splitOnP_append_cons xs ys (by simp [hc])
  rw [wordsOf, hsplit, List.filter_append, List.map_append]
  rfl

/-- A character that belongs to no word may be dropped from the front. -/
theorem wordsOf_cons (hc : isWordChar c = false) :
    wordsOf caseless (c :: cs) = wordsOf caseless cs := wordsOf_append_cons [] cs hc

/-- It may be dropped from the end as well. -/
theorem wordsOf_concat (hc : isWordChar c = false) :
    wordsOf caseless (cs ++ [c]) = wordsOf caseless cs := by
  rw [wordsOf_append_cons cs [] hc, wordsOf_nil, List.append_nil]

/-- Where no word runs across the seam, the words of two texts are those of the one and then those
of the other. -/
theorem wordsOf_append (h : EndsApart xs ∨ BeginsApart ys) :
    wordsOf caseless (xs ++ ys) = wordsOf caseless xs ++ wordsOf caseless ys := by
  rcases h with hends | hbegins
  · -- the character at the end of the first text is in no word
    rcases xs.eq_nil_or_concat' with rfl | ⟨xs, c, rfl⟩
    · rfl
    · have hc : isWordChar c = false := hends c (by rw [List.getLast?_concat]; rfl)
      rw [List.append_assoc, List.singleton_append, wordsOf_append_cons xs ys hc, wordsOf_concat hc]
  · -- the character at the front of the second text is in no word
    cases ys with
    | nil => rw [List.append_nil, wordsOf_nil, List.append_nil]
    | cons c ys =>
      have hc : isWordChar c = false := hbegins c rfl
      rw [wordsOf_append_cons xs ys hc, wordsOf_cons hc]

/-- Where every character belongs to a word, there is no other word than the whole. -/
theorem eq_foldWord_of_mem_wordsOf (h : cs.all isWordChar) {w : String}
    (hw : w ∈ wordsOf caseless cs) : w = foldWord caseless cs := by
  rw [List.all_eq_true] at h
  have hsplit : cs.splitOnP (fun c => !isWordChar c) = [cs] :=
    List.splitOnP_eq_singleton fun c hc => by simp [h c hc]
  rw [wordsOf, hsplit] at hw
  obtain ⟨x, hx, rfl⟩ := List.mem_map.mp hw
  rw [List.mem_singleton.mp (List.mem_of_mem_filter hx)]

/-- In a text of blanks there are no words. -/
theorem wordsOf_eq_nil (h : ∀ c ∈ cs, isWordChar c = false) : wordsOf caseless cs = [] := by
  induction cs with
  | nil => rfl
  | cons c cs ih =>
    rw [List.forall_mem_cons] at h
    rw [wordsOf_cons h.1, ih h.2]

end

/-! ## Features -/

/-- The features that a dialect may have or lack. -/
inductive Capability where
  | forUpdate
  | returning
  | upsert
  | iLike
  | nullsOrdering
  | groupsFrame
  deriving DecidableEq, Repr

namespace Capability

/-- The phrases by which a feature is asked for. -/
def phrases : Capability → List (List String)
  | forUpdate => [["FOR", "UPDATE"]]
  | returning => [["RETURNING"]]
  | upsert => [["ON", "CONFLICT"], ["ON", "DUPLICATE", "KEY"]]
  | iLike => [["ILIKE"]]
  | nullsOrdering => [["NULLS", "FIRST"], ["NULLS", "LAST"]]
  | groupsFrame => [["GROUPS"]]

/-- Words that stand in no statement but for the feature. -/
def marks : Capability → List String
  | forUpdate => ["FOR"]
  | returning => ["RETURNING"]
  | upsert => ["CONFLICT", "DUPLICATE"]
  | iLike => ["ILIKE"]
  | nullsOrdering => ["NULLS"]
  | groupsFrame => ["GROUPS"]

/-- All features. -/
def all : List Capability := [forUpdate, returning, upsert, iLike, nullsOrdering, groupsFrame]

/-- No feature is left out of the list. -/
theorem mem_all (f : Capability) : f ∈ all := by
  cases f <;> decide

/-- Every phrase has a mark in it, and every mark is in a phrase. -/
theorem marks_of_phrases (f : Capability) :
    (∀ phrase ∈ f.phrases, ∃ w ∈ phrase, w ∈ f.marks) ∧
      ∀ w ∈ f.marks, ∃ phrase ∈ f.phrases, w ∈ phrase := by
  cases f <;> decide

/-- The text has a mark of the feature among its words. -/
def In (f : Capability) (caseless : Bool) (cs : List Char) : Prop :=
  ∃ w ∈ wordsOf caseless cs, w ∈ f.marks

/-- Whether a mark is in a text can be computed. -/
instance (f : Capability) (caseless : Bool) (cs : List Char) : Decidable (f.In caseless cs) :=
  inferInstanceAs (Decidable (∃ w ∈ wordsOf caseless cs, w ∈ f.marks))

variable {f : Capability} {caseless : Bool} {cs xs ys : List Char}

/-- A text without the marks of a feature has none of its phrases. -/
theorem not_infix_of_not_in (h : ¬f.In caseless cs) {phrase : List String}
    (hphrase : phrase ∈ f.phrases) : ¬phrase <:+: wordsOf caseless cs := by
  intro hinfix
  obtain ⟨w, hw, hmark⟩ := f.marks_of_phrases.1 phrase hphrase
  exact h ⟨w, hinfix.subset hw, hmark⟩

/-- A mark is in two texts if it is in one of them, unless a word runs across the seam. -/
theorem in_append_iff (h : EndsApart xs ∨ BeginsApart ys) :
    f.In caseless (xs ++ ys) ↔ f.In caseless xs ∨ f.In caseless ys := by
  unfold In
  rw [wordsOf_append h]
  simp only [List.mem_append, or_and_right, exists_or]

/-- A text of blanks has no mark in it. -/
theorem not_in_of_blank (h : ∀ c ∈ cs, isWordChar c = false) : ¬f.In caseless cs := by
  rintro ⟨w, hw, -⟩
  rw [wordsOf_eq_nil h] at hw
  cases hw

/-- A digit is the same in capital letters. -/
theorem toUpper_of_isDigit {c : Char} (h : c.isDigit) : c.toUpper = c := by
  rw [Char.isDigit, Bool.and_eq_true, decide_eq_true_eq, decide_eq_true_eq] at h
  have hlower : ¬('a'.val ≤ c.val ∧ c.val ≤ 'z'.val) := by
    have hnine : '9'.val.toNat = 57 := rfl
    have ha : 'a'.val.toNat = 97 := rfl
    simp only [UInt32.le_iff_toNat_le] at h ⊢
    omega
  exact dif_neg hlower

/-- Nothing is asked for by a number. -/
theorem not_in_digits (h : cs.all Char.isDigit) : ¬f.In caseless cs := by
  rintro ⟨w, hw, hmark⟩
  have hdigits : ∀ c ∈ cs, c.isDigit := List.all_eq_true.mp h
  have hword : cs.all isWordChar :=
    List.all_eq_true.mpr fun c hc => isWordChar_of_isDigit (hdigits c hc)
  have hfold : foldWord caseless cs = String.ofList cs := by
    have hmap : cs.map Char.toUpper = cs := by
      rw [List.map_congr_left fun c hc => toUpper_of_isDigit (hdigits c hc), List.map_id']
    rw [foldWord, hmap, ite_self]
  have hmarks : ∀ m ∈ f.marks, m.toList.all Char.isDigit = false := by cases f <;> decide
  have hnot := hmarks w hmark
  rw [eq_foldWord_of_mem_wordsOf hword hw, hfold, String.toList_ofList, h] at hnot
  cases hnot

end Capability

/-! ## Plain texts -/

/-- No word of the text is the mark of a feature, whether or not the case of letters matters. -/
def asksNothing (s : String) : Bool :=
  [true, false].all fun caseless =>
    (wordsOf caseless s.toList).all fun w => Capability.all.all fun f => !f.marks.contains w

/-- What asks for nothing has no mark of any feature in it, however it is read. -/
theorem not_in_of_asksNothing {s : String} (h : asksNothing s) (f : Capability)
    (caseless : Bool) : ¬f.In caseless s.toList := by
  rintro ⟨w, hw, hmark⟩
  rw [asksNothing, List.all_eq_true] at h
  have hwords := h caseless (by cases caseless <;> decide)
  rw [List.all_eq_true] at hwords
  have hmarks := List.all_eq_true.mp (hwords w hw) f f.mem_all
  rw [Bool.not_eq_true', List.contains_iff_mem.mpr hmark] at hmarks
  cases hmarks

/-- The text is calm and asks for no feature. -/
def isPlainText (s : String) : Bool := Prepared.isCalmText s && asksNothing s

/-- A plain text is calm. -/
theorem isCalmText_of_isPlainText {s : String} (h : isPlainText s) : Prepared.isCalmText s := by
  rw [isPlainText, Bool.and_eq_true] at h
  exact h.1

/-- A plain text asks for nothing. -/
theorem asksNothing_of_isPlainText {s : String} (h : isPlainText s) : asksNothing s := by
  rw [isPlainText, Bool.and_eq_true] at h
  exact h.2

/-- The text is plain and does not end inside a word. -/
def isClosing (s : String) : Bool := isPlainText s && decide (EndsApart s.toList)

/-- A text that closes is plain. -/
theorem isPlainText_of_isClosing {s : String} (h : isClosing s) : isPlainText s := by
  rw [isClosing, Bool.and_eq_true] at h
  exact h.1

/-- A text that closes leaves no word open behind it. -/
theorem endsApart_of_isClosing {s : String} (h : isClosing s) : EndsApart s.toList := by
  rw [isClosing, Bool.and_eq_true, decide_eq_true_eq] at h
  exact h.2

/-- The text is plain, and a character that belongs to no word stands at either end of it. -/
def isSeparator (s : String) : Bool := isClosing s && s.toList.head?.any fun c => !isWordChar c

/-- A separator closes what is in front of it. -/
theorem isClosing_of_isSeparator {s : String} (h : isSeparator s) : isClosing s := by
  rw [isSeparator, Bool.and_eq_true] at h
  exact h.1

/-- A separator begins with a character that belongs to no word. -/
theorem head?_of_isSeparator {s : String} (h : isSeparator s) :
    s.toList.head?.any fun c => !isWordChar c := by
  rw [isSeparator, Bool.and_eq_true] at h
  exact h.2

end BoundSql
