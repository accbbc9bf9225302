import BoundSql.Proofs.Relabeling
import BoundSql.Proofs.Spacing

/-!
# Reading quoted names back

An engine that is given a text cuts it into names and the characters outside them.  It knows one
thing about names: they stand between two marks, and a mark that belongs to the name is written
twice.  `Quoting.tokens` is this reader.  It has to look one character beyond the closing mark, for
a second mark would mean that the name goes on.

Main statement: `Fragment.Spaced.tokens_textFrom`.  In the text of a spaced fragment the reader
meets exactly the names that the fragment has, whole and undoubled, and outside them exactly the
fragment's other texts (`Fragment.tokens`).  The names may be anything.  What has to be shown is
that quoting and reading are inverse (`Quoting.tokensFrom_enclose`), and that no name is followed
by a mark; that is the seam which a spaced fragment keeps behind every name.
-/

namespace BoundSql

namespace Quoting

/-! ## The reader -/

/-- What a reader of quoted names meets. -/
inductive NameToken where
  /-- A name that was quoted. -/
  | name (identifier : String)
  /-- A character outside quoted names. -/
  | outside (c : Char)
  /-- What stands behind a mark that is never closed. -/
  | unclosed (text : String)
  deriving DecidableEq, Repr

/-- The token with its name replaced. -/
def NameToken.rename (r : String → String) : NameToken → NameToken
  | .name identifier => .name (r identifier)
  | .outside c => .outside c
  | .unclosed text => .unclosed text

/-- Where a reader of quoted names stands. -/
inductive Reader where
  /-- Outside quoted names. -/
  | outside
  /-- Inside a name, of which so much has been read. -/
  | inside (read : List Char)
  /-- Behind a mark.  It closed the name, unless another one follows. -/
  | behind (read : List Char)

/-- The tokens of a text whose names stand between marks, from where the reader stands. -/
def tokensFrom (mark : Char) : Reader → List Char → List NameToken
  | .outside, [] => []
  | .inside read, [] => [.unclosed (String.ofList read)]
  | .behind read, [] => [.name (String.ofList read)]
  | .outside, c :: cs =>
    if c = mark then tokensFrom mark (.inside []) cs
    else .outside c :: tokensFrom mark .outside cs
  | .inside read, c :: cs =>
    if c = mark then tokensFrom mark (.behind read) cs
    else tokensFrom mark (.inside (read ++ [c])) cs
  | .behind read, c :: cs =>
    if c = mark then tokensFrom mark (.inside (read ++ [mark])) cs
    else .name (String.ofList read) :: .outside c :: tokensFrom mark .outside cs

/-- The tokens of a text. -/
def tokens (mark : Char) (sql : String) : List NameToken := tokensFrom mark .outside sql.toList

example : tokens '\x22' "\x22a\x22\x22b\x22.c" =
    [.name "a\x22b", .outside '.', .outside 'c'] := by decide

/-! ## Reading what was written -/

variable {mark : Char} {cs rest : List Char}

/-- Characters other than the mark are met one by one. -/
theorem tokensFrom_outside (h : mark ∉ cs) (rest : List Char) :
    tokensFrom mark .outside (cs ++ rest) =
      cs.map .outside ++ tokensFrom mark .outside rest := by
  induction cs with
  | nil => rfl
  | cons c cs ih =>
    rw [List.mem_cons, not_or] at h
    rw [List.cons_append, tokensFrom, if_neg (Ne.symm h.1), ih h.2]
    rfl

/-- The name is complete if no mark follows. -/
theorem tokensFrom_behind (read : List Char) (h : rest.head? ≠ some mark) :
    tokensFrom mark (.behind read) rest =
      .name (String.ofList read) :: tokensFrom mark .outside rest := by
  rcases rest with _ | ⟨c, rest⟩
  · rfl
  · have hc : c ≠ mark := fun heq => h (congrArg some heq)
    rw [tokensFrom, tokensFrom, if_neg hc, if_neg hc]

/-- Inside a name, a doubled mark is read as the mark, and every other character as itself. -/
theorem tokensFrom_double (read cs rest : List Char) :
    tokensFrom mark (.inside read) (double mark cs ++ mark :: rest) =
      tokensFrom mark (.behind (read ++ cs)) rest := by
  induction cs generalizing read with
  | nil => rw [double_nil, List.nil_append, tokensFrom, if_pos rfl, List.append_nil]
  | cons c cs ih =>
    have hread := ih (read ++ [c])
    rw [List.append_assoc, List.singleton_append] at hread
    rw [double]
    split
    · next hc =>
      subst hc
      rw [List.cons_append, List.cons_append, tokensFrom, if_pos rfl, tokensFrom, if_pos rfl, hread]
    · next hc => rw [List.cons_append, tokensFrom, if_neg hc, hread]

/-- **A quoted name is read back**, whatever the name is, provided that no mark follows. -/
theorem tokensFrom_enclose (name : String) (h : rest.head? ≠ some mark) :
    tokensFrom mark .outside ((enclose mark mark name).toList ++ rest) =
      .name name :: tokensFrom mark .outside rest := by
  rw [enclose, String.toList_ofList, List.cons_append, List.append_assoc, List.singleton_append,
    tokensFrom, if_pos rfl, tokensFrom_double, List.nil_append, tokensFrom_behind _ h,
    String.ofList_toList]

end Quoting

open Quoting (NameToken)

/-- What a reader of quoted names relies on in a dialect. -/
structure Dialect.Marks (d : Dialect) (mark : Char) : Prop where
  quote (name : String) : d.quote name = Quoting.enclose mark mark name
  placeholder (n : Nat) : mark ∉ (d.placeholder n).toList

namespace Fragment

variable {d : Dialect} {mark : Char} {f g : Fragment}

/-! ## The tokens of a fragment -/

/-- The tokens that a fragment is meant to have behind `n` values that are already bound. -/
def tokens (d : Dialect) : Nat → Fragment → List NameToken
  | _, [] => []
  | n, .word (.verbatim text) :: f => text.toList.map .outside ++ tokens d n f
  | n, .word (.name identifier) :: f => .name identifier :: tokens d n f
  | n, .bound _ :: f => (d.placeholder (n + 1)).toList.map .outside ++ tokens d (n + 1) f

/-- Two fragments have the tokens of the one and then of the other, placeholders numbered on. -/
theorem tokens_append (n : Nat) (f g : Fragment) :
    tokens d n (f ++ g) = tokens d n f ++ tokens d (n + f.values.length) g := by
  induction f generalizing n with
  | nil => rfl
  | cons p f ih =>
    rcases p with (text | identifier) | v
    · rw [List.cons_append, tokens, tokens, ih, List.append_assoc]
      rfl
    · rw [List.cons_append, tokens, tokens, ih]
      rfl
    · have hn : n + 1 + (values f).length = n + ((values f).length + 1) := by omega
      rw [List.cons_append, tokens, tokens, ih, List.append_assoc, hn]
      rfl

/-- A relabeled fragment is meant to have the renamed tokens. -/
theorem tokens_relabel (m : Relabeling) (n : Nat) (f : Fragment) :
    tokens d n (f.relabel m) = (tokens d n f).map (NameToken.rename m.name) := by
  have houtside (cs : List Char) :
      (cs.map NameToken.outside).map (NameToken.rename m.name) = cs.map .outside := by
    rw [List.map_map]
    rfl
  induction f generalizing n with
  | nil => rfl
  | cons p f ih =>
    rcases p with (text | identifier) | v
    · rw [relabel_verbatim, tokens, tokens, List.map_append, houtside, ih]
    · rw [relabel_name, tokens, tokens, List.map_cons, ih]
      rfl
    · rw [relabel_bound, tokens, tokens, List.map_append, houtside, ih]

/-! ## Relabeled fragments are spaced -/

/-- A renamed fragment begins apart just if the fragment does. -/
theorem opens_relabel (m : Relabeling) (f : Fragment) : (f.relabel m).opens = f.opens := by
  rcases f with _ | ⟨(text | identifier) | v, f⟩ <;> rfl

/-- Names and values do not matter to the seams of a fragment. -/
theorem Spaced.relabel {admits : String → Prop} {whole : Fragment → Prop} (m : Relabeling)
    (hwhole : ∀ {f}, whole f → whole (f.relabel m)) (h : Spaced admits whole f) :
    Spaced admits whole (f.relabel m) := by
  induction h with
  | nil => exact .nil
  | bound v => exact .bound (m.value v)
  | taken hf => exact .taken (hwhole hf)
  | @name f identifier hopens _ ih =>
    rw [← f.opens_relabel m] at hopens
    exact .name (m.name identifier) hopens ih
  | @text t f ht hseam _ ih =>
    rw [← f.opens_relabel m] at hseam
    exact .text ht hseam ih
  | @append f g _ _ hopens ihf ihg =>
    rw [← g.opens_relabel m] at hopens
    rw [relabel_append]
    exact ihf.append ihg hopens

/-! ## The tokens of the text -/

/-- Every text is without the mark, and nothing is taken whole. -/
abbrev Quoted (mark : Char) : Fragment → Prop :=
  Spaced (fun t => mark ∉ t.toList) fun _ => False

/-- What begins apart does not begin with a mark. -/
theorem Spaced.head?_textFrom (h : Quoted mark f) (hopens : f.opens) (n : Nat) {rest : List Char}
    (hrest : rest.head? ≠ some mark) :
    ((textFrom d n f).toList ++ rest).head? ≠ some mark := by
  induction h generalizing n rest with
  | nil => exact hrest
  | bound v => cases hopens
  | taken hf => exact hf.elim
  | name identifier _ _ _ => cases hopens
  | @text t f ht _ _ _ =>
    rw [opens, Option.any_eq_true] at hopens
    obtain ⟨c, hc, -⟩ := hopens
    obtain ⟨cs, hcs⟩ := List.head?_eq_some_iff.mp hc
    rw [textFrom_word, Word.write_verbatim, String.toList_append, hcs]
    rintro heq
    cases heq
    rw [hcs] at ht
    exact ht List.mem_cons_self
  | @append f g _ _ hgopens ihf ihg =>
    rw [textFrom_append, String.toList_append, List.append_assoc]
    -- where nothing stands in front, the text begins as what is behind it
    rcases f with _ | ⟨p, f⟩
    · exact ihg hgopens _ hrest
    · refine ihf ?_ n (ihg hgopens _ hrest)
      rcases p with (text | identifier) | v
      · exact hopens
      · cases hopens
      · cases hopens

/-- A reader behind whom no mark follows meets the tokens that the fragment is meant to have. -/
theorem Spaced.tokensFrom_textFrom (hd : d.Marks mark) (h : Quoted mark f) (n : Nat)
    {rest : List Char} (hrest : rest.head? ≠ some mark) :
    Quoting.tokensFrom mark .outside ((textFrom d n f).toList ++ rest) =
      f.tokens d n ++ Quoting.tokensFrom mark .outside rest := by
  induction h generalizing n rest with
  | nil => rfl
  | bound v =>
    rw [textFrom_bound, textFrom_nil, String.append_empty,
      Quoting.tokensFrom_outside (hd.placeholder (n + 1)), tokens, tokens, List.append_nil]
  | taken hf => exact hf.elim
  | @name f identifier hopens hf ih =>
    have hbehind := hf.head?_textFrom (d := d) hopens n hrest
    rw [textFrom_word, Word.write_name, hd.quote, String.toList_append, List.append_assoc,
      Quoting.tokensFrom_enclose identifier hbehind, ih n hrest, tokens]
    rfl
  | text ht _ _ ih =>
    rw [textFrom_word, Word.write_verbatim, String.toList_append, List.append_assoc,
      Quoting.tokensFrom_outside ht, ih n hrest, tokens, List.append_assoc]
  | append _ hg hopens ihf ihg =>
    have hbehind := fun k => hg.head?_textFrom (d := d) hopens k hrest
    rw [textFrom_append, String.toList_append, List.append_assoc, ihf n (hbehind _),
      ihg _ hrest, tokens_append, List.append_assoc]

/-- **Names are read back.**  The text of the fragment has the tokens that it is meant to have. -/
theorem Spaced.tokens_textFrom (hd : d.Marks mark) (h : Quoted mark f) (n : Nat) :
    Quoting.tokens mark (textFrom d n f) = f.tokens d n := by
  have hnone : ([] : List Char).head? ≠ some mark := by rintro ⟨⟩
  have hread := h.tokensFrom_textFrom hd n hnone
  rwa [List.append_nil, Quoting.tokensFrom, List.append_nil] at hread

/-- In the text of a relabeled fragment the names are replaced, and nothing else is. -/
theorem Spaced.tokens_relabel (hd : d.Marks mark) (h : Quoted mark f) (m : Relabeling) (n : Nat) :
    Quoting.tokens mark (textFrom d n (f.relabel m)) =
      (Quoting.tokens mark (textFrom d n f)).map (NameToken.rename m.name) := by
  have hrelabel : Quoted mark (f.relabel m) := h.relabel m False.elim
  rw [hrelabel.tokens_textFrom hd, h.tokens_textFrom hd, Fragment.tokens_relabel]

end Fragment

end BoundSql
