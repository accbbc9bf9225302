import BoundSql.Proofs.Parts
import BoundSql.Proofs.Words
import BoundSql.Proofs.Writing
import BoundSql.Query.Fragment

/-!
# How the pieces of a fragment stand beside each other

Whatever is asked of a finished text, the seams between its pieces are where it could go wrong: a
word could run from one piece into the next, or a digit could follow a number.  A fragment is
*spaced* (`Fragment.Spaced`) if it is put together so that this does not happen, from texts that are
admitted and from fragments that are taken whole.  What is admitted and what is taken whole depends
on the question; how fragments are put together does not.

Main statement: `Node.spaced`.  The fragment of everything in a query is spaced, as long as the
dialect speaks in admitted texts (`Dialect.Speaks`) and so does whatever the node holds
(`Node.Admitted`).  There is a lemma for each way to put fragments together and a case for each kind
of node, and one induction over what a node holds.  A reader of finished texts is dealt with by an
induction over `Fragment.Spaced` alone.
-/

namespace BoundSql

namespace Fragment

/-! ## Spaced fragments -/

/-- The fragment is empty, or begins with a text that does not begin inside a word. -/
def opens : Fragment → Bool
  | [] => true
  | .word (.verbatim t) :: _ => t.toList.head?.any fun c => !isWordChar c
  | _ => false

/-- Admitted texts, names, placeholders and fragments that are taken whole, put together so that no
word runs across a seam. -/
inductive Spaced (admits : String → Prop) (whole : Fragment → Prop) : Fragment → Prop where
  | nil : Spaced admits whole []
  | bound (v : Value) : Spaced admits whole [.bound v]
  | taken {f : Fragment} (hf : whole f) : Spaced admits whole f
  /-- A name in front of what begins apart, so that no quotation mark follows the closing one. -/
  | name {f : Fragment} (identifier : String) (hopens : f.opens) (hf : Spaced admits whole f) :
      Spaced admits whole (.word (.name identifier) :: f)
  /-- Either the text ends apart or what follows begins apart. -/
  | text {t : String} {f : Fragment} (ht : admits t) (hseam : EndsApart t.toList ∨ f.opens)
      (hf : Spaced admits whole f) : Spaced admits whole (.word (.verbatim t) :: f)
  | append {f g : Fragment} (hf : Spaced admits whole f) (hg : Spaced admits whole g)
      (hopens : g.opens) : Spaced admits whole (f ++ g)

end Fragment

open Fragment (Spaced)

/-- What a dialect itself writes is admitted, as far as it is asked to write it. -/
structure Dialect.Speaks (d : Dialect) (admits : String → Prop) : Prop where
  /-- Plain texts are admitted. -/
  plain {t : String} : isPlainText t → admits t
  now : admits d.currentTimestamp
  limitOffset {limit offset : Option UInt64} {clause : String} :
    d.limitOffset limit offset = some clause → admits clause
  frame (f : Frame) : admits (f.text d)
  iLike : d.hasILike → admits "ILIKE "
  nulls (place : NullsOrder) : d.hasNullsOrdering → admits place.keywords

/-- A dialect that speaks in these texts speaks in more texts as well. -/
theorem Dialect.Speaks.mono {d : Dialect} {admits admits' : String → Prop} (hd : d.Speaks admits)
    (h : ∀ {t}, admits t → admits' t) : d.Speaks admits' where
  plain ht := h (hd.plain ht)
  now := h hd.now
  limitOffset hclause := h (hd.limitOffset hclause)
  frame f := h (hd.frame f)
  iLike hhas := h (hd.iLike hhas)
  nulls place hhas := h (hd.nulls place hhas)

namespace Fragment

variable {d : Dialect} {admits : String → Prop} {whole : Fragment → Prop} {f g : Fragment}

/-- A text that is set off on both sides begins apart, whatever follows. -/
theorem opens_word {t : String} (ht : isSeparator t) (f : Fragment) :
    opens (.word (.verbatim t) :: f) := head?_of_isSeparator ht

/-- If both fragments begin apart, so do they in a row, also when the first one is empty. -/
theorem opens_append (hf : f.opens) (hg : g.opens) : (f ++ g).opens := by
  cases f with
  | nil => exact hg
  | cons p f =>
    cases p with
    | word w =>
      cases w with
      | verbatim t => exact hf
      | name identifier => cases hf
    | bound v => cases hf

/-- Nothing behind a fragment is no seam. -/
theorem Spaced.append_nil (hf : Spaced admits whole f) : Spaced admits whole (f ++ []) := by
  rwa [List.append_nil]

section

variable (hd : d.Speaks admits)

include hd

/-- A plain text that ends apart, in front of anything. -/
theorem Spaced.word {t : String} (hf : Spaced admits whole f) (ht : isClosing t) :
    Spaced admits whole (.word (.verbatim t) :: f) :=
  .text (hd.plain (isPlainText_of_isClosing ht)) (.inl (endsApart_of_isClosing ht)) hf

/-- A plain text in front of what begins apart. -/
theorem Spaced.before {t : String} (hf : Spaced admits whole f) (hopens : f.opens)
    (ht : isPlainText t) : Spaced admits whole (.word (.verbatim t) :: f) :=
  .text (hd.plain ht) (.inr hopens) hf

/-- A plain text is spaced by itself. -/
theorem spaced_text {t : String} (ht : isPlainText t) :
    Spaced admits whole [.word (.verbatim t)] := Spaced.nil.before hd rfl ht

/-- The usual case: a fragment, and behind it a text that is set off on both sides. -/
theorem Spaced.then {t : String} (hf : Spaced admits whole f) (hg : Spaced admits whole g)
    (ht : isSeparator t) : Spaced admits whole (f ++ .word (.verbatim t) :: g) :=
  hf.append (hg.word hd (isClosing_of_isSeparator ht)) (opens_word ht g)

/-- Parentheses are set off on both sides, so nothing runs into them. -/
theorem Spaced.parens (hf : Spaced admits whole f) : Spaced admits whole f.parens :=
  (hf.then hd .nil (by decide)).word hd (by decide)

/-- A separator is set off on both sides, and so are the fragments around it. -/
theorem spaced_sepBy {separator : String} {fs : List Fragment}
    (h : ∀ f ∈ fs, Spaced admits whole f) (ht : isSeparator separator) :
    Spaced admits whole (sepBy separator fs) := by
  induction fs with
  | nil => exact .nil
  | cons f fs ih =>
    rw [List.forall_mem_cons] at h
    cases fs with
    | nil => simpa [sepBy] using h.1
    | cons f' fs =>
      have hrest := ih h.2
      rw [sepBy] at hrest ⊢
      rw [List.intercalate_cons_cons, List.append_assoc]
      exact h.1.then hd hrest ht

/-- The same for commas. -/
theorem spaced_comma {fs : List Fragment} (h : ∀ f ∈ fs, Spaced admits whole f) :
    Spaced admits whole (comma fs) := spaced_sepBy hd h (by decide)

end

/-! ### Fragments that may stand behind any other -/

/-- A spaced fragment that may stand behind any other. -/
structure Trailing (admits : String → Prop) (whole : Fragment → Prop) (f : Fragment) : Prop where
  spaced : Spaced admits whole f
  opens : f.opens

/-- Nothing trails what is in front of it. -/
theorem trailing_nil : Trailing admits whole [] := ⟨.nil, rfl⟩

/-- Clauses that trail one another trail together. -/
theorem Trailing.append (hf : Trailing admits whole f) (hg : Trailing admits whole g) :
    Trailing admits whole (f ++ g) :=
  ⟨hf.spaced.append hg.spaced hg.opens, opens_append hf.opens hg.opens⟩

/-- The same for any number of clauses. -/
theorem trailing_concat {fs : List Fragment} (h : ∀ f ∈ fs, Trailing admits whole f) :
    Trailing admits whole (concat fs) := by
  induction fs with
  | nil => exact trailing_nil
  | cons f fs ih =>
    rw [List.forall_mem_cons] at h
    exact h.1.append (ih h.2)

/-- What trails can follow any spaced fragment. -/
theorem Spaced.appendTrailing (hf : Spaced admits whole f) (hg : Trailing admits whole g) :
    Spaced admits whole (f ++ g) := hf.append hg.spaced hg.opens

/-- A clause trails if it begins with a keyword that is set off on both sides. -/
theorem trailing_word (hd : d.Speaks admits) {t : String} (hf : Spaced admits whole f)
    (ht : isSeparator t) : Trailing admits whole (.word (.verbatim t) :: f) :=
  ⟨hf.word hd (isClosing_of_isSeparator ht), opens_word ht f⟩

end Fragment

open Fragment (Trailing spaced_text spaced_comma spaced_sepBy trailing_nil trailing_word
  trailing_concat)

/-! ## Parts without subqueries -/

/-- Phrases with commas are fragments with commas. -/
theorem ofPhrase_comma (ps : List Phrase) :
    Fragment.ofPhrase (Phrase.comma ps) = Fragment.comma (ps.map .ofPhrase) := by
  rw [Phrase.comma, Fragment.ofPhrase, map_intercalate]
  rfl

section

variable {d : Dialect} {admits : String → Prop} {whole : Fragment → Prop} {f g : Fragment}
  (hd : d.Speaks admits)

include hd

/-- A list of phrases with commas, each of them spaced. -/
theorem spaced_phrases {ps : List Phrase} (h : ∀ p ∈ ps, Spaced admits whole (.ofPhrase p)) :
    Spaced admits whole (.ofPhrase (Phrase.comma ps)) := by
  rw [ofPhrase_comma]
  refine spaced_comma hd fun f hf => ?_
  obtain ⟨p, hp, rfl⟩ := List.mem_map.mp hf
  exact h p hp

/-- A list with an entry for each name is spaced if its entries are. -/
theorem spaced_entries {entry : String → Phrase} (names : List String)
    (h : ∀ n, Spaced admits whole (.ofPhrase (entry n))) :
    Spaced admits whole (.ofPhrase (Phrase.comma (names.map entry))) := by
  refine spaced_phrases hd fun p hp => ?_
  obtain ⟨n, _, rfl⟩ := List.mem_map.mp hp
  exact h n

/-- Names in a list have commas between them, so no two quotation marks meet. -/
theorem spaced_names (names : List String) : Spaced admits whole (.ofPhrase (.names names)) :=
  spaced_entries hd names fun n => .name n rfl .nil

/-- A list behind its keyword, or nothing if the list is empty. -/
theorem spaced_listClause {keyword : String} {fs : List Fragment}
    (h : ∀ f ∈ fs, Spaced admits whole f) (ht : isClosing keyword) :
    Spaced admits whole (listClause keyword fs) := by
  rw [listClause]
  split
  · exact .nil
  · exact (spaced_comma hd h).word hd ht

/-- A list trails if its keyword does. -/
theorem trailing_listClause {keyword : String} {fs : List Fragment}
    (h : ∀ f ∈ fs, Spaced admits whole f) (ht : isSeparator keyword) :
    Trailing admits whole (listClause keyword fs) := by
  refine ⟨spaced_listClause hd h (isClosing_of_isSeparator ht), ?_⟩
  rw [listClause]
  split
  · rfl
  · exact Fragment.opens_word ht _

/-- `NOT ` or nothing may stand in front of anything. -/
theorem spaced_notIf (negated : Bool) (hf : Spaced admits whole f) :
    Spaced admits whole (.word (.verbatim (notIf negated)) :: f) := by
  cases negated with
  | false => exact hf.word hd (by decide)
  | true => exact hf.word hd (by decide)

/-- The word for a direction, in front of what begins apart. -/
theorem spaced_sortDir (dir : SortDir) (hf : Spaced admits whole f) (ho : f.opens) :
    Spaced admits whole (.word (.verbatim dir.keyword) :: f) := by
  cases dir with
  | asc => exact hf.before hd ho (by decide)
  | desc => exact hf.before hd ho (by decide)

/-- The sign of an arithmetic operator, which has blanks around it. -/
theorem spaced_arithSign (op : ArithOp) (hf : Spaced admits whole f) :
    Spaced admits whole (.word (.verbatim op.sign) :: f) := by
  cases op <;> exact hf.word hd (by decide)

/-- The sign of a comparison, which has blanks around it. -/
theorem spaced_compareSign (op : CompareOp) (hf : Spaced admits whole f) :
    Spaced admits whole (.word (.verbatim op.sign) :: f) := by
  cases op <;> exact hf.word hd (by decide)

/-- The word of a quantifier, in front of what begins apart. -/
theorem spaced_quantifier (q : Quantifier) (hf : Spaced admits whole f) (ho : f.opens) :
    Spaced admits whole (.word (.verbatim q.keyword) :: f) := by
  cases q <;> exact hf.before hd ho (by decide)

/-- The words of a join, in front of what begins apart. -/
theorem spaced_joinKind (kind : JoinKind) (hf : Spaced admits whole f) (ho : f.opens) :
    Spaced admits whole (.word (.verbatim kind.keywords) :: f) := by
  cases kind <;> exact hf.before hd ho (by decide)

/-- A table and its alias, in front of what begins apart. -/
theorem spaced_sourcePhrase (t : Table) (hf : Spaced admits whole f) (ho : f.opens) :
    Spaced admits whole (.ofPhrase t.sourcePhrase ++ f) := by
  rw [Table.sourcePhrase]
  split
  · exact .name _ rfl ((hf.name _ ho).word hd (by decide))
  · exact hf.name _ ho

/-- A sort key, in both of the ways in which NULLs are put in their place. -/
theorem spaced_sortKey (hf : Spaced admits whole f) (dir : SortDir) (nulls : Option NullsOrder) :
    Spaced admits whole (sortKey d f dir nulls) := by
  have hkey : Spaced admits whole (f ++ ([" ", dir.keyword] : Fragment)) :=
    hf.then hd (spaced_sortDir hd dir .nil rfl) (by decide)
  unfold sortKey
  split
  · exact hkey
  · next place =>
    split
    · next hnulls =>
      have hplace : Spaced admits whole [.word (.verbatim place.keywords)] :=
        .text (hd.nulls place hnulls) (.inr rfl) .nil
      exact hf.then hd (spaced_sortDir hd dir (hplace.word hd (by decide)) rfl) (by decide)
    · cases place with
      | first => exact (hf.then hd hkey (by decide)).word hd (by decide)
      | last => exact (hf.then hd hkey (by decide)).word hd (by decide)

/-- A comparison by a pattern, in both of the ways in which the case of letters is passed over. -/
theorem spaced_likeFragment (hf : Spaced admits whole f) (hg : Spaced admits whole g)
    (negated caseless : Bool) : Spaced admits whole (likeFragment d f g negated caseless) := by
  rw [likeFragment]
  split
  · have hpattern : Spaced admits whole (g ++ ([")"] : Fragment)) := hg.then hd .nil (by decide)
    have hlowered : Spaced admits whole (f ++ .word (.verbatim ") ") ::
        .word (.verbatim (notIf negated)) :: .word (.verbatim "LIKE LOWER(") ::
          (g ++ ([")"] : Fragment))) :=
      hf.then hd (spaced_notIf hd negated (hpattern.word hd (by decide))) (by decide)
    exact hlowered.word hd (by decide)
  · next hlacks =>
    refine hf.then hd (spaced_notIf hd negated ?_) (by decide)
    cases caseless with
    | false => exact hg.append_nil.word hd (by decide)
    | true =>
      have hiLike : d.hasILike := by simpa using hlacks
      exact .text (hd.iLike hiLike) (.inl (by decide)) hg.append_nil

/-- What a window consists of, whichever of its parts there are. -/
theorem spaced_windowParts {partitionKeys order : List Fragment}
    (hp : ∀ f ∈ partitionKeys, Spaced admits whole f) (ho : ∀ f ∈ order, Spaced admits whole f)
    (frame : Option Frame) : Spaced admits whole (windowParts d partitionKeys order frame) := by
  rw [windowParts]
  refine spaced_sepBy hd (fun f hf => ?_) (by decide)
  rcases List.mem_append.mp hf with hf | hf
  · have hmem := (List.mem_filter.mp hf).1
    rcases List.mem_cons.mp hmem with rfl | hmem
    · exact spaced_listClause hd hp (by decide)
    · rw [List.mem_singleton.mp hmem]
      exact spaced_listClause hd ho (by decide)
  · obtain ⟨frame, _, rfl⟩ := List.mem_map.mp hf
    exact .text (hd.frame frame) (.inr rfl) .nil

/-- An operand is spaced, with or without parentheses. -/
theorem Operand.spaced_grouped {o : Operand} (h : Spaced admits whole o.fragment) :
    Spaced admits whole o.grouped := by
  rw [Operand.grouped]
  split
  · exact h.parens hd
  · exact h

/-- Operands are spaced with a word between them, and so is the constant that stands for none. -/
theorem Operand.spaced_join {word empty : String} {os : List Operand}
    (h : ∀ o ∈ os, Spaced admits whole o.fragment) (ht : isSeparator word)
    (hempty : isPlainText empty) :
    Spaced admits whole (Operand.join word empty os) := by
  match os with
  | [] => exact spaced_text hd hempty
  | [o] => exact h o (by simp)
  | o :: o' :: os =>
    refine spaced_sepBy hd (fun f hf => ?_) ht
    obtain ⟨o, hmem, rfl⟩ := List.mem_map.mp hf
    exact Operand.spaced_grouped hd (h o hmem)

/-- An operand of an operator is spaced, with or without parentheses. -/
theorem Expr.spaced_operand (e : Expr) (h : Spaced admits whole f) :
    Spaced admits whole (e.operand f) := by
  rw [Expr.operand]
  split
  · exact h.parens hd
  · exact h

end

/-! ## Everything in a query -/

namespace Node

/-- The fragment of a node. -/
def fragment (d : Dialect) : Node → Fragment
  | expr e => e.fragment d
  | predicate p => p.fragment d
  | branch b => b.fragment d
  | orderItem o => o.fragment d
  | window w => w.fragment d
  | source s => s.fragment d
  | join j => j.fragment d
  | select q => q.fragment d

/-- What the caller wrote into the node itself, and the lock if it is a locking query, is
admitted. -/
def Admitted (admits : String → Prop) (whole : Fragment → Prop) : Node → Prop
  | expr (.raw t) | predicate (.raw t) => whole t.fragment
  | expr (.call function _ _) => admits function
  | select q => q.forUpdate → admits " FOR UPDATE"
  | _ => True

end Node

/-! ### Lists of fragments -/

section

variable (d : Dialect)

/-- The fragments of expressions are those of nodes. -/
theorem Expr.fragments_eq (es : List Expr) :
    Expr.fragments d es = (es.map Node.expr).map (Node.fragment d) := by
  induction es with
  | nil => rfl
  | cons e es ih => rw [Expr.fragments, ih, List.map_cons, List.map_cons, Node.fragment]

/-- The fragments of branches are those of nodes. -/
theorem Branch.fragments_eq (bs : List Branch) :
    Branch.fragments d bs = (bs.map Node.branch).map (Node.fragment d) := by
  induction bs with
  | nil => rfl
  | cons b bs ih => rw [Branch.fragments, ih, List.map_cons, List.map_cons, Node.fragment]

/-- The fragments of sort keys are those of nodes. -/
theorem OrderItem.fragments_eq (os : List OrderItem) :
    OrderItem.fragments d os = (os.map Node.orderItem).map (Node.fragment d) := by
  induction os with
  | nil => rfl
  | cons o os ih => rw [OrderItem.fragments, ih, List.map_cons, List.map_cons, Node.fragment]

/-- The fragments of joins are those of nodes. -/
theorem Join.fragments_eq (js : List Join) :
    Join.fragments d js = (js.map Node.join).map (Node.fragment d) := by
  induction js with
  | nil => rfl
  | cons j js ih => rw [Join.fragments, ih, List.map_cons, List.map_cons, Node.fragment]

/-- The fragments of operands are those of nodes; whether they are grouped is said besides. -/
theorem Predicate.operands_eq (ps : List Predicate) :
    (Predicate.operands d ps).map Operand.fragment =
      (ps.map Node.predicate).map (Node.fragment d) := by
  induction ps with
  | nil => rfl
  | cons p ps ih => rw [Predicate.operands, List.map_cons, ih, List.map_cons, List.map_cons,
      Node.fragment]

end

/-! ### One node

A node is spaced if its parts are. -/

section

variable {d : Dialect} {admits : String → Prop} {whole : Fragment → Prop}

/-- What is known of nodes, said of the expressions in a list. -/
theorem spaced_fragments {es : List Expr}
    (h : ∀ k ∈ es.map Node.expr, Spaced admits whole (k.fragment d)) :
    ∀ f ∈ Expr.fragments d es, Spaced admits whole f := by
  rw [Expr.fragments_eq, List.forall_mem_map]
  exact h

/-- What is known of nodes, said of the sort keys in a list. -/
theorem spaced_orderFragments {os : List OrderItem}
    (h : ∀ k ∈ os.map Node.orderItem, Spaced admits whole (k.fragment d)) :
    ∀ f ∈ OrderItem.fragments d os, Spaced admits whole f := by
  rw [OrderItem.fragments_eq, List.forall_mem_map]
  exact h

variable (hd : d.Speaks admits)

include hd

/-- A condition trails behind its keyword, and so does the lack of one. -/
theorem trailing_clause {keyword : String} {p : Option Predicate}
    (h : ∀ k ∈ p.toList.map Node.predicate, Spaced admits whole (k.fragment d))
    (ht : isSeparator keyword) :
    Trailing admits whole (Predicate.clause d keyword p) := by
  cases p with
  | none => exact trailing_nil
  | some p => exact trailing_word hd (h (.predicate p) (by simp)) ht

/-- Conditions with a word between them are spaced if they are so by themselves. -/
theorem spaced_join {word empty : String} {ps : List Predicate}
    (h : ∀ k ∈ ps.map Node.predicate, Spaced admits whole (k.fragment d))
    (ht : isSeparator word) (hempty : isPlainText empty) :
    Spaced admits whole (Operand.join word empty (Predicate.operands d ps)) := by
  refine Operand.spaced_join hd (fun o ho => ?_) ht hempty
  have hmem : o.fragment ∈ (Predicate.operands d ps).map Operand.fragment :=
    List.mem_map_of_mem ho
  rw [Predicate.operands_eq] at hmem
  obtain ⟨k, hk, heq⟩ := List.mem_map.mp hmem
  rw [← heq]
  exact h k hk

/-- An expression is spaced if its parts are. -/
theorem Expr.spaced_of_parts {e : Expr} (hown : (Node.expr e).Admitted admits whole)
    (h : ∀ k ∈ e.parts, Spaced admits whole (k.fragment d)) :
    Spaced admits whole (e.fragment d) := by
  cases e with
  | column c => exact .name _ rfl ((Spaced.nil.name _ rfl).word hd (by decide))
  | literal v => exact .bound v
  | raw t => exact .taken hown
  | star => exact spaced_text hd (by decide)
  | call function args distinct =>
    have hlist := spaced_comma hd (spaced_fragments h)
    have htail : Spaced admits whole (.comma (Expr.fragments d args) ++ ([")"] : Fragment)) :=
      hlist.then hd .nil (by decide)
    rw [Expr.fragment]
    cases distinct with
    | false => exact .text hown (.inr rfl) ((htail.word hd (by decide)).word hd (by decide))
    | true => exact .text hown (.inr rfl) ((htail.word hd (by decide)).word hd (by decide))
  | binary left op right =>
    have hl := left.spaced_operand hd (h (.expr left) (by simp [Expr.parts]))
    have hr := right.spaced_operand hd (h (.expr right) (by simp [Expr.parts]))
    rw [Expr.fragment]
    exact hl.then hd (spaced_arithSign hd op (hr.append_nil.word hd (by decide))) (by decide)
  | aliased e name =>
    have he := h (.expr e) (by simp [Expr.parts])
    rw [Expr.fragment]
    exact he.then hd (.name name rfl .nil) (by decide)
  | case branches otherwise =>
    rw [Expr.parts, List.forall_mem_append] at h
    have hbranches : Trailing admits whole (.concat (Branch.fragments d branches)) := by
      refine trailing_concat fun f hf => ?_
      rw [Branch.fragments_eq] at hf
      obtain ⟨k, hk, rfl⟩ := List.mem_map.mp hf
      obtain ⟨b, _, rfl⟩ := List.mem_map.mp hk
      refine ⟨h.1 _ hk, ?_⟩
      cases b with
      | mk condition value => rfl
    have helse : Trailing admits whole (Expr.elseFragment d otherwise) := by
      cases otherwise with
      | none => exact trailing_nil
      | some e => exact trailing_word hd (h.2 (.expr e) (by simp)) (by decide)
    have hend : Trailing admits whole ([" END"] : Fragment) := ⟨spaced_text hd (by decide), rfl⟩
    have hrest := hbranches.append (helse.append hend)
    rw [Expr.fragment]
    exact hrest.spaced.before hd hrest.opens (by decide)
  | coalesce args =>
    have hlist := spaced_comma hd (spaced_fragments h)
    rw [Expr.fragment]
    exact (hlist.then hd .nil (by decide)).word hd (by decide)
  | subquery q => exact (h (.select q) (by simp [Expr.parts])).parens hd
  | window function w =>
    have hfunction := h (.expr function) (by simp [Expr.parts])
    have hw := (h (.window w) (by simp [Expr.parts])).parens hd
    rw [Expr.fragment]
    exact hfunction.then hd hw.append_nil (by decide)
  | now => exact .text hd.now (.inr rfl) .nil
  | truth p => exact (h (.predicate p) (by simp [Expr.parts])).parens hd

/-- A condition is spaced if its parts are. -/
theorem Predicate.spaced_of_parts {p : Predicate}
    (hown : (Node.predicate p).Admitted admits whole)
    (h : ∀ k ∈ p.parts, Spaced admits whole (k.fragment d)) :
    Spaced admits whole (p.fragment d) := by
  cases p with
  | compare left op right =>
    have hleft := h (.expr left) (by simp [Predicate.parts])
    have hright := h (.expr right) (by simp [Predicate.parts])
    rw [Predicate.fragment]
    have hrest := spaced_compareSign hd op (hright.append_nil.word hd (t := " ") (by decide))
    exact hleft.then hd hrest (by decide)
  | isNull e negated =>
    have he := h (.expr e) (by simp [Predicate.parts])
    rw [Predicate.fragment]
    cases negated with
    | false => exact he.append (spaced_text hd (by decide)) rfl
    | true => exact he.append (spaced_text hd (by decide)) rfl
  | inList e values negated =>
    rw [Predicate.parts, List.forall_mem_cons] at h
    rw [Predicate.fragment]
    -- a list without values is written as a constant condition
    split
    · cases negated with
      | false => exact spaced_text hd (by decide)
      | true => exact spaced_text hd (by decide)
    · have hlist := spaced_comma hd (spaced_fragments h.2)
      have htail : Spaced admits whole (.comma (Expr.fragments d values) ++ ([")"] : Fragment)) :=
        hlist.then hd .nil (by decide)
      exact h.1.then hd (spaced_notIf hd negated (htail.word hd (by decide))) (by decide)
  | inQuery e q negated =>
    have he := h (.expr e) (by simp [Predicate.parts])
    have hq := (h (.select q) (by simp [Predicate.parts])).parens hd
    rw [Predicate.fragment]
    exact he.then hd (spaced_notIf hd negated (hq.append_nil.word hd (by decide))) (by decide)
  | between e low high negated =>
    have he := h (.expr e) (by simp [Predicate.parts])
    have hlow := h (.expr low) (by simp [Predicate.parts])
    have hhigh := h (.expr high) (by simp [Predicate.parts])
    have hbounds : Spaced admits whole
        (low.fragment d ++ (([" AND "] : Fragment) ++ (high.fragment d ++ []))) :=
      hlow.then hd hhigh.append_nil (by decide)
    rw [Predicate.fragment]
    exact he.then hd (spaced_notIf hd negated (hbounds.word hd (by decide))) (by decide)
  | like e pattern negated caseless =>
    have he := h (.expr e) (by simp [Predicate.parts])
    have hpattern := h (.expr pattern) (by simp [Predicate.parts])
    rw [Predicate.fragment]
    exact spaced_likeFragment hd he hpattern negated caseless
  | conj ps =>
    rw [Predicate.fragment]
    exact spaced_join hd h (by decide) (by decide)
  | disj ps =>
    rw [Predicate.fragment]
    exact spaced_join hd h (by decide) (by decide)
  | neg p => exact ((h (.predicate p) (by simp [Predicate.parts])).parens hd).word hd (by decide)
  | existence q negated =>
    have hq := (h (.select q) (by simp [Predicate.parts])).parens hd
    rw [Predicate.fragment]
    exact spaced_notIf hd negated (hq.append_nil.word hd (by decide))
  | quantified left op quantifier q =>
    have hleft := h (.expr left) (by simp [Predicate.parts])
    have hq := (h (.select q) (by simp [Predicate.parts])).parens hd
    have hquery :=
      spaced_quantifier hd quantifier (hq.append_nil.word hd (t := " ") (by decide)) rfl
    rw [Predicate.fragment]
    exact hleft.then hd (spaced_compareSign hd op (hquery.word hd (by decide))) (by decide)
  | raw t => exact .taken hown
  | always => exact spaced_text hd (by decide)
  | never => exact spaced_text hd (by decide)

/-- A query is spaced if its parts are: the columns come first, and every clause trails them. -/
theorem Select.spaced_of_parts {q : Select} (hown : (Node.select q).Admitted admits whole)
    (h : ∀ k ∈ q.parts, Spaced admits whole (k.fragment d)) :
    Spaced admits whole (q.fragment d) := by
  cases q with
  | mk distinct projection source joins condition groups having order limit offset forUpdate =>
    simp only [Select.parts, List.forall_mem_append] at h
    obtain ⟨⟨⟨⟨⟨⟨hprojection, hgroups⟩, hsource⟩, hjoins⟩, hcondition⟩, hhaving⟩, horder⟩ := h
    have hcolumns : Spaced admits whole
        (if projection.isEmpty then ["*"] else .comma (Expr.fragments d projection)) := by
      split
      · exact spaced_text hd (by decide)
      · exact spaced_comma hd (spaced_fragments hprojection)
    have hfrom : Trailing admits whole (Source.clause d source) := by
      cases source with
      | none => exact trailing_nil
      | some s => exact trailing_word hd (hsource (.source s) (by simp)) (by decide)
    have hjoined : Trailing admits whole (.concat (Join.fragments d joins)) := by
      refine trailing_concat fun f hf => ?_
      rw [Join.fragments_eq] at hf
      obtain ⟨k, hk, rfl⟩ := List.mem_map.mp hf
      obtain ⟨j, _, rfl⟩ := List.mem_map.mp hk
      refine ⟨hjoins _ hk, ?_⟩
      cases j with
      | mk kind target on => rfl
    have hlimits : Trailing admits whole
        ((d.limitOffset limit offset).elim [] fun clause => [" ", clause]) := by
      cases hclause : d.limitOffset limit offset with
      | none => exact trailing_nil
      | some clause =>
        exact trailing_word hd (.text (hd.limitOffset hclause) (.inr rfl) .nil) (by decide)
    have hlock : Trailing admits whole (if forUpdate then [" FOR UPDATE"] else []) := by
      split
      · next hforUpdate => exact ⟨.text (hown hforUpdate) (.inr rfl) .nil, rfl⟩
      · exact trailing_nil
    have hclauses : Trailing admits whole (.concat [
        Source.clause d source,
        .concat (Join.fragments d joins),
        Predicate.clause d " WHERE " condition,
        listClause " GROUP BY " (Expr.fragments d groups),
        Predicate.clause d " HAVING " having,
        listClause " ORDER BY " (OrderItem.fragments d order),
        (d.limitOffset limit offset).elim [] fun clause => [" ", clause],
        if forUpdate then [" FOR UPDATE"] else []]) := by
      refine trailing_concat ?_
      simp only [List.forall_mem_cons, List.not_mem_nil, false_implies, implies_true, and_true]
      exact ⟨hfrom, hjoined, trailing_clause hd hcondition (by decide),
        trailing_listClause hd (spaced_fragments hgroups) (by decide),
        trailing_clause hd hhaving (by decide),
        trailing_listClause hd (spaced_orderFragments horder) (by decide), hlimits, hlock⟩
    -- all clauses begin apart, so it does not matter which of them are there
    have hbody := hcolumns.appendTrailing hclauses
    rw [Select.fragment]
    cases distinct with
    | false => exact (hbody.word hd (by decide)).word hd (by decide)
    | true => exact (hbody.word hd (by decide)).word hd (by decide)

/-- A node is spaced if its parts are. -/
theorem Node.spaced_of_parts (n : Node) (hown : n.Admitted admits whole)
    (h : ∀ k ∈ n.parts, Spaced admits whole (k.fragment d)) :
    Spaced admits whole (n.fragment d) := by
  cases n with
  | expr e => exact Expr.spaced_of_parts hd hown h
  | predicate p => exact Predicate.spaced_of_parts hd hown h
  | branch b =>
    cases b with
    | mk condition value =>
      have hcondition := h (.predicate condition) (by simp [Node.parts])
      have hvalue := h (.expr value) (by simp [Node.parts])
      rw [Node.fragment, Branch.fragment]
      exact Spaced.word hd (hcondition.then hd hvalue.append_nil (by decide)) (by decide)
  | orderItem o =>
    cases o with
    | mk key dir nulls =>
      rw [Node.fragment, OrderItem.fragment]
      exact spaced_sortKey hd (h (.expr key) (by simp [Node.parts])) dir nulls
  | window w =>
    cases w with
    | mk partitionKeys order frame =>
      rw [Node.parts, List.forall_mem_append] at h
      rw [Node.fragment, Window.fragment]
      exact spaced_windowParts hd (spaced_fragments h.1) (spaced_orderFragments h.2) frame
  | source s =>
    cases s with
    | table t =>
      have htable : Spaced admits whole (Fragment.ofPhrase t.sourcePhrase ++ []) :=
        spaced_sourcePhrase hd t .nil rfl
      rw [List.append_nil] at htable
      exact htable
    | query q name =>
      have hq := (h (.select q) (by simp [Node.parts])).parens hd
      rw [Node.fragment, Source.fragment]
      exact hq.then hd (.name name rfl .nil) (by decide)
  | join j =>
    cases j with
    | mk kind target on =>
      rw [Node.parts, List.forall_mem_cons] at h
      have hclause : Trailing admits whole (Predicate.clause d " ON " on ++ []) :=
        (trailing_clause hd h.2 (by decide)).append trailing_nil
      have hjoined : Spaced admits whole
          (target.fragment d ++ (Predicate.clause d " ON " on ++ [])) :=
        h.1.appendTrailing hclause
      rw [Node.fragment, Join.fragment]
      have hkind := spaced_joinKind hd kind (hjoined.word hd (t := " ") (by decide)) rfl
      exact hkind.word hd (by decide)
  | select q => exact Select.spaced_of_parts hd hown h

/-- **Every node is spaced** if whatever it holds is admitted. -/
theorem Node.spaced (n : Node) (h : ∀ m, n.Holds m → m.Admitted admits whole) :
    Spaced admits whole (n.fragment d) := by
  refine n.spaced_of_parts hd (h n (.self n)) fun k hk => ?_
  have := Node.sizeOf_lt_of_mem_parts hk
  exact Node.spaced k fun m hm => h m (.part hk hm)
termination_by sizeOf n

end

end BoundSql
