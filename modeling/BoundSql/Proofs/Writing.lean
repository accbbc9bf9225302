import BoundSql.Prepared.Basic

/-!
# The text of a fragment

Writing threads a draft from piece to piece, so the text and the parameters grow side by side.
For proofs the two are taken apart again.

* `Fragment.textFrom` is the text alone, given how many values are bound already.  Writing gives
  this text (`sql_write`) and appends the values of the fragment (`params_write`).
* `Fragment.segments` are the parts of the text between the placeholders.  They depend on
  neither the number nor the spelling of a placeholder, and the text is `weave` of the segments
  and the placeholders (`textFrom_eq_weave`).
* `Fragment.spell` is the text with each value spelled out in its place instead of a placeholder.
  It is woven from the same segments (`spell_eq_weave`).
-/

namespace BoundSql

/-- A text in parentheses. -/
def inParens (text : String) : String := "(" ++ text ++ ")"

/-- Segments with a filling between each two of them. -/
def weave : List String → List String → String
  | s :: ss, t :: ts => s ++ t ++ weave ss ts
  | ss, _ => String.join ss

/-- Each filling stands behind its segment. -/
@[simp] theorem weave_cons_cons (s t : String) (ss ts : List String) :
    weave (s :: ss) (t :: ts) = s ++ t ++ weave ss ts := rfl

/-- Without fillings, segments are joined. -/
@[simp] theorem weave_nil_right (ss : List String) : weave ss [] = String.join ss := by
  cases ss <;> rfl

/-- A list with separators, each entry mapped. -/
theorem map_intercalate {α β : Type} (g : α → β) (separator : List α) (xs : List (List α)) :
    (List.intercalate separator xs).map g =
      List.intercalate (separator.map g) (xs.map (List.map g)) := by
  induction xs with
  | nil => rfl
  | cons x xs ih =>
    rcases xs with _ | ⟨y, ys⟩
    · simp
    · rw [List.intercalate_cons_cons, List.map_append, List.map_append, ih]
      exact (List.intercalate_cons_cons ..).symm

/-- Phrases with commas between them are written one by one. -/
theorem Dialect.write_comma (d : Dialect) (ps : List Phrase) :
    d.write (Phrase.comma ps) = ", ".intercalate (ps.map d.write) := by
  induction ps with
  | nil => rfl
  | cons p ps ih =>
    cases ps with
    | nil => simp [Phrase.comma]
    | cons p' ps =>
      have happend (q r : Phrase) : d.write (q ++ r) = d.write q ++ d.write r := by
        simp [Dialect.write, Phrase.write]
      have hseparator : d.write [", "] = ", " := by simp [Dialect.write, Phrase.write]
      rw [Phrase.comma] at ih ⊢
      rw [List.intercalate_cons_cons, happend, happend, ih, hseparator]
      simp [String.append_assoc]

/-- Names with commas between them, quoted one by one. -/
theorem Dialect.quoteList_eq_intercalate (d : Dialect) (names : List String) :
    d.quoteList names = ", ".intercalate (names.map d.quote) := by
  rw [Dialect.quoteList, Phrase.names, Dialect.write_comma, List.map_map]
  simp [Dialect.write, Phrase.write, Function.comp_def]

namespace Fragment

/-! ## Values of fragments put together -/

/-- A phrase binds nothing. -/
@[simp] theorem values_ofPhrase (p : Phrase) : values (ofPhrase p) = [] := by
  induction p with
  | nil => rfl
  | cons w p ih =>
    rw [ofPhrase] at ih ⊢
    rw [List.map_cons, values_word, ih]

/-- The values of fragments one behind another are those of each, in order. -/
theorem values_concat (fs : List Fragment) : values (concat fs) = fs.flatMap values := by
  induction fs with
  | nil => rfl
  | cons f fs ih =>
    rw [concat] at ih ⊢
    rw [List.flatten_cons, values_append, ih, List.flatMap_cons]

/-- Separators bind nothing. -/
theorem values_sepBy (separator : String) (fs : List Fragment) :
    values (sepBy separator fs) = fs.flatMap values := by
  induction fs with
  | nil => rfl
  | cons f fs ih =>
    cases fs with
    | nil => simp [sepBy]
    | cons f' fs =>
      rw [sepBy] at ih ⊢
      rw [List.intercalate_cons_cons, values_append, values_append, ih, List.flatMap_cons]
      simp

/-! ## The text from a number on -/

/-- The text of a fragment behind `n` values that are already bound. -/
def textFrom (d : Dialect) : Nat → Fragment → String
  | _, [] => ""
  | n, .word w :: f => w.write d.quote ++ textFrom d n f
  | n, .bound _ :: f => d.placeholder (n + 1) ++ textFrom d (n + 1) f

variable (d : Dialect)

/-- An empty fragment has no text. -/
@[simp] theorem textFrom_nil (n : Nat) : textFrom d n [] = "" := rfl

/-- A word at the front is written first, and takes no number. -/
@[simp] theorem textFrom_word (n : Nat) (w : Word) (f : Fragment) :
    textFrom d n (.word w :: f) = w.write d.quote ++ textFrom d n f := rfl

/-- A value at the front is written as the next placeholder. -/
@[simp] theorem textFrom_bound (n : Nat) (v : Value) (f : Fragment) :
    textFrom d n (.bound v :: f) = d.placeholder (n + 1) ++ textFrom d (n + 1) f := rfl

/-- What stands behind a fragment is numbered on from its values. -/
theorem textFrom_append (n : Nat) (f g : Fragment) :
    textFrom d n (f ++ g) = textFrom d n f ++ textFrom d (n + f.values.length) g := by
  induction f generalizing n with
  | nil => simp
  | cons p f ih =>
    cases p with
    | word w => simp [ih, String.append_assoc]
    | bound v =>
      have hn : n + 1 + (values f).length = n + ((values f).length + 1) := by omega
      simp [ih, String.append_assoc, hn]

/-- A draft grows by the text of the fragment. -/
theorem sql_addAll (draft : Draft) (f : Fragment) :
    (draft.addAll d f).sql = draft.sql ++ textFrom d draft.params.size f := by
  induction f generalizing draft with
  | nil => simp
  | cons p f ih =>
    rw [Draft.addAll_cons, ih]
    cases p with
    | word w => simp [Draft.add, String.append_assoc]
    | bound v => simp [Draft.add, String.append_assoc]

/-- The text that is written. -/
theorem sql_write (params : Array Value) (f : Fragment) :
    (f.write d params).sql = textFrom d params.size f := by
  rw [write, sql_addAll, String.empty_append]

/-- The parameters that there are when a fragment is written. -/
theorem params_write (params : Array Value) (f : Fragment) :
    (f.write d params).params.toList = params.toList ++ f.values :=
  Draft.toList_params_addAll d { params } f

/-- A prepared statement has the text of its fragment, numbered from one on. -/
theorem sql_prepare (f : Fragment) : (f.prepare d).sql = textFrom d 0 f := sql_write d #[] f

/-- A prepared statement binds the values of its fragment. -/
theorem params_prepare (f : Fragment) : (f.prepare d).params = f.values := params_write d #[] f

/-! ## Texts one behind another -/

/-- A phrase has the same text wherever it stands. -/
theorem textFrom_ofPhrase (n : Nat) (p : Phrase) : textFrom d n (ofPhrase p) = d.write p := by
  induction p with
  | nil => rfl
  | cons w p ih =>
    rw [ofPhrase] at ih ⊢
    rw [List.map_cons, textFrom_word, ih]
    simp [Dialect.write, Phrase.write]

/-- The texts of fragments that stand one behind another, the first of them behind `n` values that
are bound already. -/
def textsFrom : Nat → List Fragment → List String
  | _, [] => []
  | n, f :: fs => textFrom d n f :: textsFrom (n + f.values.length) fs

/-- A list is its entries with commas between them, each numbered on from the ones before. -/
theorem textFrom_comma (n : Nat) (fs : List Fragment) :
    textFrom d n (comma fs) = ", ".intercalate (textsFrom d n fs) := by
  induction fs generalizing n with
  | nil => rfl
  | cons f fs ih =>
    cases fs with
    | nil => simp [comma, sepBy, textsFrom]
    | cons f' fs =>
      have hrest := ih (n + f.values.length)
      rw [comma, sepBy] at hrest ⊢
      rw [List.intercalate_cons_cons, textFrom_append, textFrom_append, values_append]
      simp [hrest, textsFrom]

/-- Fragments with nothing between them have the texts that they have one behind another. -/
theorem textFrom_concat (n : Nat) (fs : List Fragment) :
    textFrom d n (concat fs) = String.join (textsFrom d n fs) := by
  induction fs generalizing n with
  | nil => rfl
  | cons f fs ih =>
    have hconcat : concat (f :: fs) = f ++ concat fs := rfl
    rw [hconcat, textFrom_append, ih, textsFrom, String.join_cons]

/-! ## Segments -/

/-- The parts of the text between placeholders, names quoted by `quote`. -/
def segments (quote : String → String) : Fragment → List String
  | [] => [""]
  | .word w :: f =>
    match segments quote f with
    | [] => [w.write quote]
    | s :: ss => (w.write quote ++ s) :: ss
  | .bound _ :: f => "" :: segments quote f

/-- There is one segment more than there are values. -/
theorem length_segments (quote : String → String) (f : Fragment) :
    (segments quote f).length = f.values.length + 1 := by
  induction f with
  | nil => rfl
  | cons p f ih =>
    cases p with
    | word w =>
      rw [segments, values_word, ← ih]
      split
      · next h => simp [h] at ih
      · next h => rw [h, List.length_cons, List.length_cons]
    | bound v => simp [segments, ih]

/-- Text in front of a fragment is text in front of its first segment. -/
theorem weave_segments_word (quote : String → String) (w : Word) (f : Fragment)
    (ts : List String) :
    weave (segments quote (.word w :: f)) ts = w.write quote ++ weave (segments quote f) ts := by
  obtain ⟨s, ss, h⟩ := List.exists_cons_of_length_eq_add_one (length_segments quote f)
  rw [segments, h]
  cases ts with
  | nil => simp [String.append_assoc]
  | cons t ts => simp [String.append_assoc]

/-- The text is woven from the segments and the placeholders, numbered one after another. -/
theorem textFrom_eq_weave (n : Nat) (f : Fragment) :
    textFrom d n f =
      weave (segments d.quote f) ((List.range' (n + 1) f.values.length).map d.placeholder) := by
  induction f generalizing n with
  | nil => simp [segments]
  | cons p f ih =>
    cases p with
    | word w => rw [textFrom_word, values_word, weave_segments_word, ih]
    | bound v => simp [segments, ih, List.range'_succ]

/-! ## Values in their places -/

/-- The text of a fragment with each value spelled out by `g` where it stands. -/
def spell (d : Dialect) (g : Value → String) : Fragment → String
  | [] => ""
  | .word w :: f => w.write d.quote ++ spell d g f
  | .bound v :: f => g v ++ spell d g f

variable (g : Value → String)

/-- An empty fragment is spelled as nothing. -/
@[simp] theorem spell_nil : spell d g [] = "" := rfl

/-- A word is spelled as it is written. -/
@[simp] theorem spell_word (w : Word) (f : Fragment) :
    spell d g (.word w :: f) = w.write d.quote ++ spell d g f := rfl

/-- A value is spelled out in its place. -/
@[simp] theorem spell_bound (v : Value) (f : Fragment) :
    spell d g (.bound v :: f) = g v ++ spell d g f := rfl

/-- A choice between two texts is spelled as the chosen one. -/
@[simp] theorem spell_ite_cons (condition : Prop) [Decidable condition] (s t : String)
    (f : Fragment) :
    spell d g ((if condition then (s : Piece) else (t : Piece)) :: f) =
      (if condition then s else t) ++ spell d g f := by
  split <;> rfl

/-- The text with values in their places is woven from the same segments. -/
theorem spell_eq_weave (f : Fragment) :
    spell d g f = weave (segments d.quote f) (f.values.map g) := by
  induction f with
  | nil => simp [segments]
  | cons p f ih =>
    cases p with
    | word w => rw [spell_word, values_word, weave_segments_word, ih]
    | bound v => simp [segments, ih]

/-- Two fragments are spelled one behind the other: in this text nothing is numbered. -/
@[simp] theorem spell_append (f f' : Fragment) :
    spell d g (f ++ f') = spell d g f ++ spell d g f' := by
  induction f with
  | nil => simp
  | cons p f ih => cases p <;> simp [ih, String.append_assoc]

/-- So are any number of them. -/
@[simp] theorem spell_concat (fs : List Fragment) :
    spell d g (concat fs) = String.join (fs.map (spell d g)) := by
  induction fs with
  | nil => rfl
  | cons f fs ih =>
    rw [concat] at ih ⊢
    rw [List.flatten_cons, spell_append, ih, List.map_cons, String.join_cons]

/-- Parentheses are spelled around what they enclose. -/
@[simp] theorem spell_parens (f : Fragment) : spell d g f.parens = inParens (spell d g f) := by
  simp [parens, inParens, String.append_assoc]

/-- Separators are spelled between the fragments. -/
@[simp] theorem spell_sepBy (separator : String) (fs : List Fragment) :
    spell d g (sepBy separator fs) = separator.intercalate (fs.map (spell d g)) := by
  induction fs with
  | nil => rfl
  | cons f fs ih =>
    cases fs with
    | nil => simp [sepBy]
    | cons f' fs =>
      rw [sepBy] at ih ⊢
      rw [List.intercalate_cons_cons, spell_append, spell_append, ih]
      simp

/-- A list is spelled with commas between its entries. -/
@[simp] theorem spell_comma (fs : List Fragment) :
    spell d g (comma fs) = ", ".intercalate (fs.map (spell d g)) := spell_sepBy d g ", " fs

/-- A phrase is written as it would be by itself. -/
@[simp] theorem spell_ofPhrase (p : Phrase) : spell d g (ofPhrase p) = d.write p := by
  induction p with
  | nil => rfl
  | cons w p ih =>
    rw [ofPhrase] at ih ⊢
    rw [List.map_cons, spell_word, ih]
    simp [Dialect.write, Phrase.write]

/-- A name is spelled in its quotes. -/
@[simp] theorem spell_name (identifier : String) :
    spell d g (name identifier) = d.quote identifier := by
  simp [name]

end Fragment

end BoundSql
