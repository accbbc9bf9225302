import BoundSql.Proofs.Spacing

/-!
# The lexemes of a fragment

Someone who reads a fragment sees characters, and between them names and bound values.  In whatever
way a dialect writes them, a name and a value are each one thing; the characters are words, quoted
runs, brackets and other signs.  Two kinds of bracket matter: parentheses, and `CASE` with its
`END`.

Where no word runs across the seam, the lexemes of two fragments in a row are those of the one and
then those of the other (`Fragment.lexemes_append`).  The part in front must not end inside a quoted
run either (`Fragment.Settled`).
-/

namespace BoundSql

/-! ## What is read -/

/-- One thing that a reader sees. -/
inductive Symbol where
  | char (c : Char)
  | name (identifier : String)
  | value (v : Value)

/-- The symbols of a text. -/
def symbolsOf (text : String) : List Symbol := text.toList.map .char

/-- The symbols of a piece. -/
def Piece.symbols : Piece → List Symbol
  | .word (.verbatim text) => symbolsOf text
  | .word (.name identifier) => [.name identifier]
  | .bound v => [.value v]

/-- The symbols of a fragment. -/
def Fragment.symbols (f : Fragment) : List Symbol := f.flatMap Piece.symbols

/-- What is read as a whole and is no bracket.  Letters of words are read as capital ones. -/
inductive Atom where
  | word (w : String)
  | quoted (mark : Char) (run : List Char)
  | name (identifier : String)
  | value (v : Value)
  | sign (c : Char)

/-- Kinds of bracket. -/
inductive Bracket where
  | parens
  | case
  deriving DecidableEq

/-- An atom, or a bracket that opens or closes. -/
inductive Lexeme where
  | atom (a : Atom)
  | opening (b : Bracket)
  | closing (b : Bracket)

/-- What a word is read as. -/
def Lexeme.ofWord (cs : List Char) : Lexeme :=
  let w := foldWord true cs
  if w = "CASE" then .opening .case
  else if w = "END" then .closing .case
  else .atom (.word w)

/-! ## Reading -/

/-- Where a reader stands: apart, in a word or in a quoted run. -/
inductive Lexer where
  | apart
  | word (cs : List Char)
  | quoted (mark : Char) (run : List Char)

namespace Lexer

/-- What is pending is read. -/
def flush : Lexer → List Lexeme
  | word cs => [.ofWord cs]
  | _ => []

/-- A character that belongs to nothing in front of it: what is read, and where the reader stands
behind it. -/
def begin (c : Char) : List Lexeme × Lexer :=
  if Quoting.isMark c then ([], quoted c [])
  else if isWordChar c then ([], word [c])
  else if c.isWhitespace then ([], apart)
  else if c = '(' then ([.opening .parens], apart)
  else if c = ')' then ([.closing .parens], apart)
  else ([.atom (.sign c)], apart)

/-- One more symbol.  A run is quoted up to the next mark of its kind. -/
def step : Lexer → Symbol → List Lexeme × Lexer
  | quoted mark run, .char c =>
    if c = mark then ([.atom (.quoted mark run)], apart) else ([], quoted mark (run ++ [c]))
  | quoted mark run, _ => ([], quoted mark run)
  | word cs, .char c =>
    if isWordChar c then ([], word (cs ++ [c])) else (.ofWord cs :: (begin c).1, (begin c).2)
  | apart, .char c => begin c
  | l, .name identifier => (l.flush ++ [.atom (.name identifier)], apart)
  | l, .value v => (l.flush ++ [.atom (.value v)], apart)

/-- Everything that is read, up to the end. -/
def read : Lexer → List Symbol → List Lexeme
  | l, [] => l.flush
  | l, s :: ss => (l.step s).1 ++ (l.step s).2.read ss

/-- What is read and no longer pending. -/
def emitted : Lexer → List Symbol → List Lexeme
  | _, [] => []
  | l, s :: ss => (l.step s).1 ++ (l.step s).2.emitted ss

/-- Where the reader stands in the end. -/
def after (l : Lexer) (ss : List Symbol) : Lexer := ss.foldl (fun l s => (l.step s).2) l

/-- The reader is in no quoted run. -/
def isSettled : Lexer → Bool
  | quoted .. => false
  | _ => true

variable {l : Lexer} {ss ts : List Symbol}

/-- Symbols are read on from where those in front have left the reader. -/
theorem read_append (l : Lexer) (ss ts : List Symbol) :
    l.read (ss ++ ts) = l.emitted ss ++ (l.after ss).read ts := by
  induction ss generalizing l with
  | nil => rfl
  | cons s ss ih =>
    rw [List.cons_append, read, ih, emitted, List.append_assoc]
    rfl

/-- What is read is what is no longer pending, and then what is. -/
theorem read_eq (l : Lexer) (ss : List Symbol) :
    l.read ss = l.emitted ss ++ (l.after ss).flush := by
  have happend := read_append l ss []
  rwa [List.append_nil] at happend

/-- A reader goes through two rows of symbols one after the other. -/
theorem after_append (l : Lexer) (ss ts : List Symbol) :
    l.after (ss ++ ts) = (l.after ss).after ts := List.foldl_append

/-- A reader in a word stays in it as long as it goes on. -/
theorem word_of_isWordChar (ds : List Char) {cs : List Char} (h : ∀ c ∈ cs, isWordChar c) :
    (word ds).emitted (cs.map .char) = [] ∧ (word ds).after (cs.map .char) = word (ds ++ cs) := by
  induction cs generalizing ds with
  | nil => exact ⟨rfl, congrArg word (List.append_nil ds).symm⟩
  | cons c cs ih =>
    rw [List.forall_mem_cons] at h
    have hstep : (word ds).step (.char c) = ([], word (ds ++ [c])) := by rw [step, if_pos h.1]
    obtain ⟨hemitted, hafter⟩ := ih (ds ++ [c]) h.2
    rw [List.append_assoc] at hafter
    rw [List.map_cons, emitted, after, List.foldl_cons, hstep]
    exact ⟨hemitted, hafter⟩

/-- The symbols do not begin inside a word. -/
def Breaks (ss : List Symbol) : Prop := ∀ c, ss.head? = some (.char c) → isWordChar c = false

/-- A symbol that continues no word ends the one that is pending. -/
theorem step_of_breaks (hl : l.isSettled) {s : Symbol} (hs : Breaks (s :: ss)) :
    l.step s = (l.flush ++ (apart.step s).1, (apart.step s).2) := by
  cases l with
  | quoted mark run => cases hl
  | apart => cases s <;> rfl
  | word cs =>
    cases s with
    | char c =>
      have hc : isWordChar c = false := hs c rfl
      rw [step, hc]
      rfl
    | name identifier => rfl
    | value v => rfl

/-- In front of what begins apart, the reader may as well stand apart. -/
theorem read_of_breaks (hl : l.isSettled) (hs : Breaks ss) :
    l.read ss = l.flush ++ apart.read ss := by
  cases ss with
  | nil => exact (List.append_nil _).symm
  | cons s ss =>
    rw [read, step_of_breaks hl hs, read, List.append_assoc]

/-- Behind what begins apart it does not matter whether a word was pending in front. -/
theorem after_of_breaks (hl : l.isSettled) (hs : Breaks ss) (hne : ss ≠ []) :
    l.after ss = apart.after ss := by
  cases ss with
  | nil => exact absurd rfl hne
  | cons s ss =>
    rw [after, List.foldl_cons, step_of_breaks hl hs]
    rfl

/-- Where no word runs across the seam, what is read of two rows of symbols is read of the one and
then of the other. -/
theorem read_append_of_breaks (hl : (l.after ss).isSettled)
    (h : l.after ss = apart ∨ Breaks ts) : l.read (ss ++ ts) = l.read ss ++ apart.read ts := by
  rw [read_append, read_eq l ss, List.append_assoc]
  rcases h with hapart | hbreaks
  · rw [hapart]
    rfl
  · rw [read_of_breaks hl hbreaks]

end Lexer

open Lexer (Breaks apart)

/-! ## Fragments -/

namespace Fragment

/-- The lexemes of a fragment. -/
def lexemes (f : Fragment) : List Lexeme := apart.read f.symbols

/-- The fragment does not end inside a quoted run. -/
def Settled (f : Fragment) : Prop := (apart.after f.symbols).isSettled

variable {f g : Fragment}

/-- Two fragments have the symbols of the one and then of the other. -/
theorem symbols_append (f g : Fragment) : (f ++ g).symbols = f.symbols ++ g.symbols :=
  List.flatMap_append

/-- A text in front has its symbols in front. -/
theorem symbols_text (t : String) (f : Fragment) :
    symbols (.word (.verbatim t) :: f) = symbolsOf t ++ f.symbols := List.flatMap_cons

/-- A text is the same whether it is written in one piece or in two. -/
theorem symbols_text_append (s t : String) (f : Fragment) :
    symbols (.word (.verbatim (s ++ t)) :: f) =
      symbols (.word (.verbatim s) :: .word (.verbatim t) :: f) := by
  simp only [symbols_text, symbolsOf, String.toList_append, List.map_append, List.append_assoc]

/-- A fragment that begins apart has no symbol in front that a word could go on with. -/
theorem breaks_of_opens (h : f.opens) : Breaks f.symbols := by
  intro c hc
  cases f with
  | nil => cases hc
  | cons p f =>
    rcases p with (t | identifier) | v
    · have hopens : (t.toList.head?.any fun c => !isWordChar c) = true := h
      rw [symbols_text, symbolsOf] at hc
      cases htext : t.toList with
      | nil =>
        rw [htext] at hopens
        cases hopens
      | cons c' cs =>
        rw [htext] at hopens hc
        cases hc
        simpa using hopens
    · cases h
    · cases h

/-- Where no word runs across the seam, lexemes stand in a row as the fragments do. -/
theorem lexemes_append (hf : f.Settled) (hg : g.opens) :
    (f ++ g).lexemes = f.lexemes ++ g.lexemes := by
  rw [lexemes, symbols_append, Lexer.read_append_of_breaks hf (.inr (breaks_of_opens hg))]
  rfl

/-- The same where the reader stands apart behind the first. -/
theorem lexemes_append_of_apart (hf : apart.after f.symbols = apart) (g : Fragment) :
    (f ++ g).lexemes = f.lexemes ++ g.lexemes := by
  have hsettled : (apart.after f.symbols).isSettled := by
    rw [hf]
    rfl
  rw [lexemes, symbols_append, Lexer.read_append_of_breaks hsettled (.inl hf)]
  rfl

end Fragment

end BoundSql
