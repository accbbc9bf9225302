/-!
# Phrases

A phrase is a piece of SQL that binds no values: verbatim text and names.  A name is kept as the
name it is until the phrase is written, because only the dialect knows how a name is quoted.
Whoever puts phrases together therefore cannot forget to quote one.
-/

namespace BoundSql

/-- Verbatim text or a name. -/
inductive Word where
  | verbatim (text : String)
  | name (identifier : String)
  deriving DecidableEq, Repr

instance : Coe String Word := ⟨.verbatim⟩

/-- The text of a word, with names quoted by `quote`. -/
def Word.write (quote : String → String) : Word → String
  | verbatim text => text
  | name identifier => quote identifier

/-- A text is written as it is. -/
@[simp] theorem Word.write_verbatim (quote : String → String) (text : String) :
    (Word.verbatim text).write quote = text := rfl

/-- A name is written in its quotes. -/
@[simp] theorem Word.write_name (quote : String → String) (identifier : String) :
    (Word.name identifier).write quote = quote identifier := rfl

/-- Words in a row, with nothing between them. -/
abbrev Phrase := List Word

namespace Phrase

/-- The text of a phrase. -/
def write (quote : String → String) (p : Phrase) : String :=
  String.join (p.map (Word.write quote))

/-- Phrases in a row, with nothing between them. -/
def concat (ps : List Phrase) : Phrase := ps.flatten

/-- Phrases with commas between them. -/
def comma (ps : List Phrase) : Phrase := List.intercalate [", "] ps

/-- Names with commas between them. -/
def names (ns : List String) : Phrase := comma (ns.map fun n => [Word.name n])

/-- A phrase, or nothing if the condition fails. -/
def when (condition : Bool) (p : Phrase) : Phrase := if condition then p else []

end Phrase

end BoundSql
