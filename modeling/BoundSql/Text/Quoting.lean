/-!
# Quotation marks

SQL text has three marks that open a quoted run: the apostrophe, the double quote and the grave
accent.  A run ends at the next mark of the same kind, and a mark that belongs to the quoted
text is written twice, so that a reader who only ever toggles reads the pair as an end and a new
beginning and is back inside.

`Quoting.step` is that reader, one character at a time; `Quoting.enclose` is the writer.
-/

namespace BoundSql.Quoting

/-! ## Reading -/

/-- The marks that open a quoted run. -/
def isMark (c : Char) : Bool := c == '\x27' || c == '\x22' || c == '\x60'

/-- Where a reader stands after one more character.  `none` is outside every quoted run, and
`some q` is inside a run that the mark `q` will end. -/
def step : Option Char → Char → Option Char
  | some q, c => if c = q then none else some q
  | none, c => if isMark c then some c else none

/-- In a quoted run, only the mark that ends it counts. -/
@[simp] theorem step_inside (q c : Char) : step (some q) c = if c = q then none else some q := rfl

/-- Outside of one, any mark begins a run. -/
@[simp] theorem step_outside (c : Char) : step none c = if isMark c then some c else none := rfl

/-! ## Writing -/

/-- Write every `mark` twice. -/
def double (mark : Char) : List Char → List Char
  | [] => []
  | c :: rest => if c = mark then mark :: mark :: double mark rest else c :: double mark rest

/-- There is nothing to double in an empty text. -/
@[simp] theorem double_nil (mark : Char) : double mark [] = [] := rfl

/-- Put `text` between two marks.  Only the closing mark could end it early, so only that one is
doubled inside. -/
def enclose (opening closing : Char) (text : String) : String :=
  String.ofList (opening :: (double closing text.toList ++ [closing]))

/-- A name in double quotes. -/
def ansi (name : String) : String := enclose '\x22' '\x22' name

/-- A name in grave accents. -/
def grave (name : String) : String := enclose '\x60' '\x60' name

/-- A text literal. -/
def apostrophes (text : String) : String := enclose '\x27' '\x27' text

end BoundSql.Quoting
