import BoundSql.Proofs.Writing
import BoundSql.Template

/-!
# What a template is made of

A template is read character by character.  Three things are said of that reading here.

* With its values spelled out (`Template.spell`) a template is what its fragment spells.
* It binds as many of its values as it has live markers, the first ones (`values_pieces`).
* It does not confuse a reader of placeholders (`Template.Neat`) if it ends the quoted runs that
  it begins, has a value for every live marker, and sets dollar signs and question marks off from
  the digits behind them.
-/

namespace BoundSql

/-! ## Values spelled out -/

/-- Reading a template from where the reader stands: a live marker is a value as long as there
are values, and everything else is copied. -/
def Template.spellFrom (g : Value → String) : Option Char → List Value → List Char → String
  | _, _, [] => ""
  | none, v :: vs, '?' :: cs => g v ++ Template.spellFrom g none vs cs
  | quote, vs, c :: cs =>
    String.singleton c ++ Template.spellFrom g (Quoting.step quote c) vs cs

/-- A template with its values spelled out. -/
def Template.spell (g : Value → String) (t : Template) : String :=
  Template.spellFrom g none t.params t.sql.toList

section

variable (d : Dialect) (g : Value → String)

/-- The pieces of a template are spelled as the template is, from where the reader stands. -/
theorem Template.spell_pieces (quote : Option Char) (vs : List Value) (cs : List Char) :
    (Template.pieces quote vs cs).spell d g = Template.spellFrom g quote vs cs := by
  fun_induction Template.pieces quote vs cs with
  | case1 quote vs => simp [Template.spellFrom]
  | case2 v vs cs ih => rw [Template.spellFrom, Fragment.spell_bound, ih]
  | case3 quote vs c cs h ih =>
    rw [Template.spellFrom, Fragment.spell_word, ih, Word.write_verbatim]
    exact h

/-- A fragment of the caller is spelled as its template. -/
theorem Template.spell_fragment (t : Template) : t.fragment.spell d g = t.spell g :=
  Template.spell_pieces d g none t.params t.sql.toList

end

/-! ## Live markers -/

namespace Quoting

/-- The characters of a text that a reader meets outside quoted runs, marks included that open
one, from where the reader stands. -/
def unquoted : Option Char → List Char → List Char
  | _, [] => []
  | none, c :: cs => c :: unquoted (step none c) cs
  | some q, c :: cs => unquoted (step (some q) c) cs

/-- Whether every dollar sign and every question mark outside quoted runs is followed by something
else than a digit, from where the reader stands. -/
def setOff : Option Char → List Char → Bool
  | _, [] => true
  | none, c :: cs =>
    (!(c == '$' || c == '?') || !cs.head?.any Char.isDigit) && setOff (step none c) cs
  | some q, c :: cs => setOff (step (some q) c) cs

/-- Inside a quoted run, a reader who does not meet the mark stays inside. -/
theorem foldl_step_inside {cs : List Char} {mark : Char} (h : mark ∉ cs) :
    cs.foldl step (some mark) = some mark := by
  induction cs with
  | nil => rfl
  | cons c cs ih =>
    rw [List.mem_cons, not_or] at h
    rw [List.foldl_cons, step_inside, if_neg (Ne.symm h.1), ih h.2]

end Quoting

/-- A template binds as many of its values as it has live markers, the first ones. -/
theorem Template.values_pieces (quote : Option Char) (vs : List Value) (cs : List Char) :
    Fragment.values (Template.pieces quote vs cs) =
      vs.take ((Quoting.unquoted quote cs).count '?') := by
  fun_induction Template.pieces quote vs cs with
  | case1 quote vs => simp [Quoting.unquoted]
  | case2 v vs cs ih =>
    have hstep : Quoting.step none '?' = none := by decide
    rw [Fragment.values_bound, ih, Quoting.unquoted, hstep, List.count_cons_self,
      List.take_succ_cons]
  | case3 quote vs c cs hlive ih =>
    rw [Fragment.values_word, ih]
    cases quote with
    | some q => rw [Quoting.unquoted]
    | none =>
      by_cases hc : c = '?'
      · subst hc
        cases vs with
        | nil => rw [List.take_nil, List.take_nil]
        | cons v vs => exact absurd rfl (hlive v vs rfl rfl)
      · rw [Quoting.unquoted, List.count_cons_of_ne hc]

/-- A template without values is copied. -/
theorem Template.textFrom_pieces_nil (d : Dialect) (n : Nat) (quote : Option Char)
    (cs : List Char) :
    Fragment.textFrom d n (Template.pieces quote [] cs) = String.ofList cs := by
  induction cs generalizing quote with
  | nil => rfl
  | cons c cs ih =>
    have hpieces : Template.pieces quote [] (c :: cs) =
        (String.singleton c : Piece) :: Template.pieces (Quoting.step quote c) [] cs := by
      cases quote <;> simp [Template.pieces]
    rw [hpieces, Fragment.textFrom_word, Word.write_verbatim, ih]
    exact String.toList_inj.mp (by simp)

/-! ## Templates that do not confuse a reader -/

/-- A template that does not confuse a reader of placeholders. -/
structure Template.Neat (t : Template) : Prop where
  /-- Every quoted run that the text begins it ends as well. -/
  ends : t.sql.toList.foldl Quoting.step none = none
  /-- There is a value for every live marker, and no other. -/
  filled : (Quoting.unquoted none t.sql.toList).count '?' = t.params.length
  /-- No digit stands right behind an unquoted dollar sign or question mark. -/
  setOff : Quoting.setOff none t.sql.toList

end BoundSql
