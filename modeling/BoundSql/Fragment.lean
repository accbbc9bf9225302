import BoundSql.Dialect.Basic
import BoundSql.Value.Basic

/-!
# Fragments

A fragment is SQL with the values that it binds at the places where it binds them.  It does not
know its place in a statement: placeholders get their numbers when the fragment is written, one
after another from where the parameters already bound end.

So a placeholder and its value are one piece until both are written, and they are written in the
same step (`Draft.add`).  Their orders cannot come apart.
-/

namespace BoundSql

/-- A word or a bound value. -/
inductive Piece where
  | word (w : Word)
  | bound (v : Value)

instance : Coe Word Piece := ⟨.word⟩
instance : Coe String Piece := ⟨fun s => .word s⟩

/-- Pieces in a row, with nothing between them. -/
abbrev Fragment := List Piece

namespace Fragment

/-! ## Putting fragments together -/

/-- A phrase is a fragment that binds nothing. -/
def ofPhrase (p : Phrase) : Fragment := p.map .word

/-- A name. -/
def name (identifier : String) : Fragment := [Word.name identifier]

/-- Fragments in a row, with nothing between them. -/
def concat (fs : List Fragment) : Fragment := fs.flatten

/-- Fragments with `separator` between them. -/
def sepBy (separator : String) (fs : List Fragment) : Fragment :=
  List.intercalate [separator] fs

/-- Fragments with commas between them. -/
def comma (fs : List Fragment) : Fragment := sepBy ", " fs

/-- A fragment in parentheses. -/
def parens (f : Fragment) : Fragment := .concat [["("], f, [")"]]

/-! ## What a fragment binds -/

/-- The value that a piece binds. -/
def valueOf : Piece → Option Value
  | .word _ => none
  | .bound v => some v

/-- The values that a fragment binds, in order. -/
def values (f : Fragment) : List Value := f.filterMap valueOf

/-- An empty fragment binds nothing. -/
@[simp] theorem values_nil : values [] = [] := rfl

/-- Two fragments bind the values of the one and then of the other. -/
@[simp] theorem values_append (f g : Fragment) : values (f ++ g) = values f ++ values g := by
  simp [values]

/-- A word binds nothing. -/
@[simp] theorem values_word (w : Word) (f : Fragment) : values (.word w :: f) = values f := rfl

/-- A bound value comes before those behind it. -/
@[simp] theorem values_bound (v : Value) (f : Fragment) :
    values (.bound v :: f) = v :: values f := rfl

end Fragment

/-! ## Writing -/

/-- Text written so far and the values bound in it. -/
structure Draft where
  sql : String := ""
  params : Array Value := #[]

namespace Draft

/-- Write one more piece.  A bound value takes the next number. -/
def add (d : Dialect) (draft : Draft) : Piece → Draft
  | .word w => { draft with sql := draft.sql ++ w.write d.quote }
  | .bound v =>
    { sql := draft.sql ++ d.placeholder (draft.params.size + 1), params := draft.params.push v }

/-- Write a fragment. -/
def addAll (d : Dialect) (draft : Draft) (f : Fragment) : Draft := f.foldl (add d) draft

/-- To write nothing leaves the draft as it is. -/
@[simp] theorem addAll_nil (d : Dialect) (draft : Draft) : draft.addAll d [] = draft := rfl

/-- A fragment is written piece by piece. -/
@[simp] theorem addAll_cons (d : Dialect) (draft : Draft) (p : Piece) (f : Fragment) :
    draft.addAll d (p :: f) = (draft.add d p).addAll d f := rfl

/-- Two fragments are written one after the other. -/
@[simp] theorem addAll_append (d : Dialect) (draft : Draft) (f g : Fragment) :
    draft.addAll d (f ++ g) = (draft.addAll d f).addAll d g := by
  simp [addAll]

/-- Writing appends exactly the values that the fragment binds. -/
theorem toList_params_addAll (d : Dialect) (draft : Draft) (f : Fragment) :
    (draft.addAll d f).params.toList = draft.params.toList ++ f.values := by
  induction f generalizing draft with
  | nil => simp
  | cons p f ih => cases p <;> simp [ih, add]

end Draft

namespace Fragment

/-- Write a fragment behind parameters that are already bound: its text, and all parameters. -/
def write (d : Dialect) (params : Array Value) (f : Fragment) : Draft :=
  Draft.addAll d { params } f

/-- The text of a fragment on its own. -/
def sql (d : Dialect) (f : Fragment) : String := (f.write d #[]).sql

end Fragment

end BoundSql
