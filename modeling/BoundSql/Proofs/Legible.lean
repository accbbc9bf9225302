import BoundSql.Dialect.Kind
import BoundSql.Proofs.CallerText
import BoundSql.Proofs.Writing

/-!
# Fragments that are read as they were written

A reader of finished SQL knows nothing of fragments.  It walks over the text, toggles at quotation
marks and takes the digits behind a dollar sign for the number of a placeholder.  A fragment is
*legible* (`Fragment.Legible`) if such a reader, coming to it from outside quoted runs, meets
exactly the placeholders of its values and is outside quoted runs again behind it.

Two things could go wrong at a seam.  A quotation mark could be left open, and a digit could stand
right behind a number.  The first is ruled out by legibility itself.  For the second, whatever
stands behind a legible fragment must begin with something else than a digit
(`Fragment.SetOff`), and in every statement it does: a keyword, a sign, a comma or a parenthesis.

* `Dialect.Legible` says what is asked of a dialect.
* `Legible.append`, `Legible.word` and `Legible.words` put fragments together.
* `Template.legible_fragment` is about the SQL of the caller, character by character.
-/

namespace BoundSql

open Prepared (Closed Scan isCalm isCalmText markersFrom)

/-! ## Words -/

/-- Nothing is met in the text. -/
def Quiet (text : String) : Prop :=
  ∀ rest, markersFrom .plain (text.toList ++ rest) = markersFrom .plain rest

/-- A calm text is quiet: it has neither a mark nor a placeholder. -/
theorem quiet_of_isCalmText {text : String} (h : isCalmText text) : Quiet text :=
  fun rest => Prepared.markersFrom_calm h rest

/-- The word is a name or a calm text. -/
def Word.isCalm : Word → Bool
  | .verbatim text => isCalmText text
  | .name _ => true

/-- The word begins with something else than a digit. -/
def Word.opens : Word → Bool
  | .verbatim text => text.toList.head?.any fun c => !c.isDigit
  | .name _ => false

/-- What a reader of placeholders relies on in a dialect. -/
structure Dialect.Legible (d : Dialect) : Prop where
  /-- Nothing is met in a quoted name. -/
  quote (name : String) : Quiet (d.quote name)
  /-- A placeholder does not begin with a digit. -/
  placeholder_closed (k : Nat) (rest : List Char) : Closed ((d.placeholder k).toList ++ rest)
  /-- A placeholder is met as it is spelled, provided that no digit follows. -/
  placeholder_met (k : Nat) {rest : List Char} (hr : Closed rest) :
    markersFrom .plain ((d.placeholder k).toList ++ rest) =
      d.placeholder k :: markersFrom .plain rest
  /-- The current time is a calm text. -/
  now : isCalmText d.currentTimestamp
  /-- The clause for limit and offset is a calm text. -/
  limitOffset {limit offset : Option UInt64} {clause : String} :
    d.limitOffset limit offset = some clause → isCalmText clause
  /-- The upsert clause is made of calm words. -/
  upsert (target columns : List String) (action : UpsertAction) :
    (d.upsertClause target columns action).all Word.isCalm

/-- A calm word is written as a quiet text, be it a name or not. -/
theorem Word.quiet {d : Dialect} (hd : d.Legible) {w : Word} (hw : w.isCalm) :
    Quiet (w.write d.quote) := by
  cases w with
  | verbatim text => exact quiet_of_isCalmText hw
  | name identifier => exact hd.quote identifier

/-! ## Fragments -/

namespace Fragment

/-- A reader who comes to the text of the fragment, and finds no digit right behind it, meets the
placeholders of its values one after another, and then what comes behind. -/
def Legible (d : Dialect) (f : Fragment) : Prop :=
  ∀ (n : Nat) {rest : List Char}, Closed rest →
    markersFrom .plain ((textFrom d n f).toList ++ rest) =
      (List.range' (n + 1) f.values.length).map d.placeholder ++ markersFrom .plain rest

/-- The text of the fragment does not begin with a digit, and if it is empty it may stand where
what follows may stand. -/
def SetOff (d : Dialect) (f : Fragment) : Prop :=
  ∀ (n : Nat) {rest : List Char}, Closed rest → Closed ((textFrom d n f).toList ++ rest)

variable {d : Dialect} {f g : Fragment}

/-- The empty fragment is legible. -/
theorem legible_nil : Legible d [] := fun _ _ _ => by simp

/-- The empty fragment begins with nothing, so with no digit. -/
theorem setOff_nil : SetOff d [] := fun _ _ hr => by simpa using hr

/-- What follows a fragment must not begin with a digit. -/
theorem Legible.append (hf : Legible d f) (hg : Legible d g) (hs : SetOff d g) :
    Legible d (f ++ g) := by
  intro n rest hr
  rw [textFrom_append, String.toList_append, List.append_assoc, hf n (hs _ hr), hg _ hr,
    ← List.append_assoc, ← List.map_append, values_append, List.length_append,
    ← List.range'_append_1]
  congr 4
  omega

/-- Behind a calm word a fragment is read as it would be by itself. -/
theorem Legible.word (hd : d.Legible) {w : Word} (hf : Legible d f) (hw : w.isCalm) :
    Legible d (.word w :: f) := by
  intro n rest hr
  rw [textFrom_word, String.toList_append, List.append_assoc, Word.quiet hd hw, hf n hr,
    values_word]

/-- A word that begins with something else than a digit sets off what is behind it. -/
theorem setOff_word {w : Word} (hw : w.opens) : SetOff d (.word w :: f) := by
  intro n rest _
  cases w with
  | name identifier => simp [Word.opens] at hw
  | verbatim text =>
    rw [textFrom_word, Word.write_verbatim, String.toList_append, List.append_assoc]
    rw [Word.opens] at hw
    cases htext : text.toList with
    | nil => simp [htext] at hw
    | cons c cs =>
      rw [htext] at hw
      rw [List.cons_append, Prepared.closed_cons]
      simpa using hw

/-- A bound value is legible: it is met as one placeholder. -/
theorem legible_bound (hd : d.Legible) (v : Value) : Legible d [.bound v] := by
  intro n rest hr
  rw [textFrom_bound, textFrom_nil, String.append_empty, hd.placeholder_met _ hr]
  rfl

/-- Calm words may stand in front of a legible fragment. -/
theorem Legible.words (hd : d.Legible) {ws : Phrase} (hw : ws.all Word.isCalm)
    (hf : Legible d f) : Legible d (ofPhrase ws ++ f) := by
  induction ws with
  | nil => exact hf
  | cons w ws ih =>
    rw [List.all_cons, Bool.and_eq_true] at hw
    exact (ih hw.2).word hd hw.1

/-- A phrase of calm words is legible, and has no placeholder. -/
theorem legible_ofPhrase (hd : d.Legible) {p : Phrase} (hp : p.all Word.isCalm) :
    Legible d (ofPhrase p) := by
  have h := legible_nil.words hd hp
  rwa [List.append_nil] at h

end Fragment

/-! ## Templates -/

section

variable {d : Dialect}

/-- The state of a reader of finished SQL who stands relative to the quotes as a reader of
templates does. -/
def Template.scanOf : Option Char → Scan
  | none => .plain
  | some q => .quoted q

/-- Inside a quoted run, both readers look for the mark that ends it. -/
theorem Template.markersFrom_inside (q c : Char) (rest : List Char) :
    markersFrom (.quoted q) (c :: rest) =
      markersFrom (Template.scanOf (Quoting.step (some q) c)) rest := by
  by_cases h : c = q
  · simp [markersFrom, Scan.step, Template.scanOf, h]
  · simp [markersFrom, Scan.step, Template.scanOf, h]

/-- Outside of one they go alike, but for a question mark and for a dollar sign with a digit behind
it. -/
theorem Template.markersFrom_outside {c : Char} {rest : List Char} (hc : c ≠ '?')
    (hr : c = '$' → Closed rest) :
    markersFrom .plain (c :: rest) =
      markersFrom (Template.scanOf (Quoting.step none c)) rest := by
  by_cases hm : Quoting.isMark c
  · simp [markersFrom, Scan.step, Template.scanOf, hm]
  · by_cases hd : c = '$'
    · subst hd
      exact Prepared.markersFrom_of_closed rfl (hr rfl)
    · simp [markersFrom, Scan.step, Template.scanOf, hm, hd, hc]

/-- What begins with no digit in the template begins with none when it is written. -/
theorem Template.closed_pieces (hd : d.Legible) (n : Nat) (vs : List Value) {cs rest : List Char}
    (hcs : Closed cs) (hr : Closed rest) :
    Closed ((Fragment.textFrom d n (Template.pieces none vs cs)).toList ++ rest) := by
  fun_cases Template.pieces none vs cs with
  | case1 => simpa using hr
  | case2 v vs cs =>
    rw [Fragment.textFrom_bound, String.toList_append, List.append_assoc]
    exact hd.placeholder_closed (n + 1) _
  | case3 c cs _ =>
    rw [Fragment.textFrom_word, Word.write_verbatim, String.toList_append, String.toList_singleton]
    exact hcs

/-- Behind an unquoted dollar sign or question mark of a neat template no digit stands. -/
theorem Template.closed_of_setOff {c : Char} {cs : List Char} (hc : c = '$' ∨ c = '?')
    (h : Quoting.setOff none (c :: cs)) : Closed cs := by
  cases cs with
  | nil => exact Prepared.closed_nil
  | cons c' cs =>
    rw [Prepared.closed_cons]
    rw [Quoting.setOff, Bool.and_eq_true] at h
    rcases hc with rfl | rfl
    · simpa using h.1
    · simpa using h.1

/-- From wherever the reader stands in a neat template, what is left of it is read as written. -/
theorem Template.legible_pieces (hd : d.Legible) (quote : Option Char) (vs : List Value)
    (cs : List Char) (hends : cs.foldl Quoting.step quote = none)
    (hfilled : (Quoting.unquoted quote cs).count '?' = vs.length)
    (hset : Quoting.setOff quote cs) (n : Nat) {rest : List Char} (hr : Closed rest) :
    markersFrom (Template.scanOf quote)
        ((Fragment.textFrom d n (Template.pieces quote vs cs)).toList ++ rest) =
      (List.range' (n + 1) vs.length).map d.placeholder ++ markersFrom .plain rest := by
  fun_induction Template.pieces quote vs cs generalizing n with
  | case1 quote vs =>
    obtain rfl : quote = none := hends
    obtain rfl : vs = [] := List.length_eq_zero_iff.mp hfilled.symm
    rfl
  | case2 v vs cs ih =>
    -- a live marker: the placeholder of the next value stands there
    have hstep : Quoting.step none '?' = none := by decide
    rw [List.foldl_cons, hstep] at hends
    rw [Quoting.unquoted, hstep, List.count_cons_self, List.length_cons, Nat.add_right_cancel_iff]
      at hfilled
    have hcs : Closed cs := Template.closed_of_setOff (.inr rfl) hset
    rw [Quoting.setOff, hstep, Bool.and_eq_true] at hset
    rw [Fragment.textFrom_bound, String.toList_append, List.append_assoc, Template.scanOf,
      hd.placeholder_met _ (Template.closed_pieces hd (n + 1) vs hcs hr)]
    have := ih hends hfilled hset.2 (n + 1)
    rw [Template.scanOf] at this
    rw [this, List.length_cons, List.range'_succ, List.map_cons, List.cons_append]
  | case3 quote vs c cs hlive ih =>
    -- any other character is copied
    rw [List.foldl_cons] at hends
    rw [Fragment.textFrom_word, Word.write_verbatim, String.toList_append, String.toList_singleton,
      List.append_assoc, List.singleton_append]
    cases quote with
    | some q =>
      rw [Template.scanOf, Template.markersFrom_inside]
      exact ih hends hfilled hset n
    | none =>
      rw [Quoting.unquoted] at hfilled
      have hset' := hset
      rw [Quoting.setOff, Bool.and_eq_true] at hset'
      -- a live marker would have been given its value, for there are as many values
      have hc : c ≠ '?' := by
        rintro rfl
        rw [List.count_cons_self] at hfilled
        obtain ⟨v, vs', rfl⟩ := List.exists_cons_of_length_eq_add_one hfilled.symm
        exact hlive v vs' rfl rfl rfl
      rw [List.count_cons_of_ne hc] at hfilled
      rw [Template.scanOf, Template.markersFrom_outside hc ?_]
      · exact ih hends hfilled hset'.2 n
      · rintro rfl
        exact Template.closed_pieces hd n vs (Template.closed_of_setOff (.inl rfl) hset) hr

/-- A neat template is read as written. -/
theorem Template.legible_fragment (hd : d.Legible) {t : Template} (ht : t.Neat) :
    Fragment.Legible d t.fragment := by
  intro n rest hr
  have hvalues : t.fragment.values = t.params := by
    rw [Template.fragment, Template.values_pieces, ht.filled, List.take_length]
  rw [hvalues]
  exact Template.legible_pieces hd none t.params t.sql.toList ht.ends ht.filled ht.setOff n hr

end

end BoundSql
