import BoundSql.Fragment
import BoundSql.Text.Quoting

/-!
# Templates

A template is SQL written by the caller, with a question mark for each value.  A question mark
inside a quoted run is part of the quoted text.  The others are live: they take the values in
order as long as there are values, and are copied after that, as is everything else.
-/

namespace BoundSql

/-- SQL written by the caller, and the values for its markers. -/
structure Template where
  sql : String
  params : List Value := []

namespace Template

/-- The pieces of a template, character by character: where the reader stands relative to the
quotes, the values still to be placed, and the text still to be read. -/
def pieces : Option Char → List Value → List Char → Fragment
  | _, _, [] => []
  | none, v :: vs, '?' :: cs => .bound v :: pieces none vs cs
  | quote, vs, c :: cs => (String.singleton c : Piece) :: pieces (Quoting.step quote c) vs cs

/-- The fragment of a template. -/
def fragment (t : Template) : Fragment := pieces none t.params t.sql.toList

/-- Equality. -/
def same (s t : Template) : Bool := s.sql == t.sql && s.params == t.params

end Template

end BoundSql
