import BoundSql.Proofs.Precedence
import BoundSql.Query.Fragment

/-!
# Conditions are read as they were meant

A condition is a tree, and its text is a row of leaves with words and parentheses between them.
Whether the text says what the tree means depends on the parentheses being where precedence would
go astray.

Main statement: `Predicate.read_as_meant`.  The text of a condition consists of the tokens
`Predicate.tokens`.  They have exactly one reading by precedence, its leaves are those of the tree
in order, and its value is that of the tree whatever the leaves are worth.  A condition that the
caller wrote, whose text may have any words in it, is never next to one of ours: it is all there
is, or it stands in parentheses of its own.

Three facts about every condition carry the proof, each an induction over the tree: its tokens
read as `Predicate.formula`, as an operand unless it needs grouping (`Predicate.reads_tokens`);
the formula has the leaves of the tree (`Predicate.leaves_formula`); and it has its value
(`Predicate.value_formula`).
-/

namespace BoundSql

/-! ## What a tree means -/

/-- A leaf of a condition: a condition that joins no others, or the comparison that stands for a
group without members. -/
inductive Leaf where
  | condition (p : Predicate)
  | constant (b : Bool)

/-- What leaf number `k` is worth.  Any condition may be worth anything, and a comparison that
stands for an empty group is known. -/
def Leaf.value (v : Nat → Ternary) (k : Nat) : Leaf → Ternary
  | .condition _ => v k
  | .constant b => .ofBool b

mutual

/-- The leaves of a condition, from left to right. -/
def Predicate.leaves : Predicate → List Leaf
  | .conj ps => Predicate.leavesOfGroup .and ps
  | .disj ps => Predicate.leavesOfGroup .or ps
  | .neg p => p.leaves
  | p => [.condition p]

/-- The leaves of conditions joined by a word. -/
def Predicate.leavesOfGroup (c : Connective) : List Predicate → List Leaf
  | [] => [.constant c.unit]
  | p :: ps => p.leaves ++ Predicate.leavesOfAll ps

/-- The leaves of conditions. -/
def Predicate.leavesOfAll : List Predicate → List Leaf
  | [] => []
  | p :: ps => p.leaves ++ Predicate.leavesOfAll ps

end

mutual

/-- The value of a condition whose first leaf is leaf number `k`. -/
def Predicate.value (v : Nat → Ternary) : Nat → Predicate → Ternary
  | k, .conj ps => Predicate.valueOfAll v .and k ps
  | k, .disj ps => Predicate.valueOfAll v .or k ps
  | k, .neg p => (p.value v k).not
  | k, _ => v k

/-- The value of conditions joined by a word. -/
def Predicate.valueOfAll (v : Nat → Ternary) (c : Connective) : Nat → List Predicate → Ternary
  | _, [] => .ofBool c.unit
  | k, p :: ps => c.combine (p.value v k) (Predicate.valueOfAll v c (k + p.leaves.length) ps)

end

/-! ## What its text consists of -/

/-- Tokens in parentheses if the condition holds. -/
def Token.groupIf {α : Type} (condition : Bool) (ts : List (Token α)) : List (Token α) :=
  if condition then .opening :: (ts ++ [.closing]) else ts

mutual

/-- The tokens of a condition. -/
def Predicate.tokens : Predicate → List (Token Leaf)
  | .conj ps => Predicate.tokensOfGroup .and ps
  | .disj ps => Predicate.tokensOfGroup .or ps
  | .neg p => .not :: Token.groupIf true p.tokens
  | p => [.leaf (.condition p)]

/-- The tokens of conditions joined by a word. -/
def Predicate.tokensOfGroup (c : Connective) : List Predicate → List (Token Leaf)
  | [] => [.leaf (.constant c.unit)]
  | [p] => p.tokens
  | p :: q :: ps => Token.groupIf p.needsGrouping p.tokens ++ Predicate.tokensBehind c (q :: ps)

/-- The tokens of conditions, the word in front of each. -/
def Predicate.tokensBehind (c : Connective) : List Predicate → List (Token Leaf)
  | [] => []
  | p :: ps =>
    .word c :: (Token.groupIf p.needsGrouping p.tokens ++ Predicate.tokensBehind c ps)

end

/-- The word as it is written. -/
def Connective.keyword : Connective → String
  | .and => " AND "
  | .or => " OR "

/-- What is written if there is nothing to join. -/
def Connective.empty : Connective → String
  | .and => "1 = 1"
  | .or => "1 = 0"

/-- How a token is written. -/
def Token.fragment (d : Dialect) : Token Leaf → Fragment
  | .leaf (.condition p) => p.fragment d
  | .leaf (.constant b) => [if b then "1 = 1" else "1 = 0"]
  | .word c => [c.keyword]
  | .not => ["NOT "]
  | .opening => ["("]
  | .closing => [")"]

/-- How tokens are written. -/
def Token.fragments (d : Dialect) (ts : List (Token Leaf)) : Fragment :=
  ts.flatMap (Token.fragment d)

section

variable (d : Dialect)

/-- Tokens one behind another are written one behind another. -/
theorem Token.fragments_append (ts us : List (Token Leaf)) :
    Token.fragments d (ts ++ us) = Token.fragments d ts ++ Token.fragments d us :=
  List.flatMap_append

/-- A token in front is written in front. -/
theorem Token.fragments_cons (t : Token Leaf) (ts : List (Token Leaf)) :
    Token.fragments d (t :: ts) = t.fragment d ++ Token.fragments d ts :=
  List.flatMap_cons

/-- Tokens in parentheses are written in parentheses. -/
theorem Token.fragments_groupIf (condition : Bool) (ts : List (Token Leaf)) :
    Token.fragments d (Token.groupIf condition ts) =
      if condition then (Token.fragments d ts).parens else Token.fragments d ts := by
  cases condition with
  | false => rfl
  | true =>
    rw [Token.groupIf, if_pos rfl, Token.fragments_cons, Token.fragments_append]
    rfl

/-- Fragments with a word between them are the first one and the word in front of each other. -/
theorem Fragment.sepBy_cons (separator : String) (f : Fragment) (fs : List Fragment) :
    Fragment.sepBy separator (f :: fs) = f ++ fs.flatMap fun g => (separator : Piece) :: g := by
  induction fs generalizing f with
  | nil => simp [Fragment.sepBy]
  | cons g fs ih =>
    unfold Fragment.sepBy at ih ⊢
    rw [List.intercalate_cons_cons, ih, List.append_assoc, List.flatMap_cons]
    rfl

mutual

/-- The text of a condition consists of its tokens. -/
theorem Predicate.fragments_tokens (p : Predicate) : Token.fragments d p.tokens = p.fragment d := by
  cases p with
  | conj ps => exact Predicate.fragments_tokensOfGroup .and ps
  | disj ps => exact Predicate.fragments_tokensOfGroup .or ps
  | neg p =>
    rw [Predicate.tokens, Token.fragments_cons, Token.fragments_groupIf, if_pos rfl,
      p.fragments_tokens, Predicate.fragment]
    rfl
  | _ => exact List.append_nil _

/-- The text of a group consists of its tokens, also if it has one member or none. -/
theorem Predicate.fragments_tokensOfGroup (c : Connective) (ps : List Predicate) :
    Token.fragments d (Predicate.tokensOfGroup c ps) =
      Operand.join c.keyword c.empty (Predicate.operands d ps) := by
  match ps with
  | [] => cases c <;> rfl
  | [p] => exact p.fragments_tokens
  | p :: q :: ps =>
    have hjoin : Operand.join c.keyword c.empty (Predicate.operands d (p :: q :: ps)) =
        Fragment.sepBy c.keyword ((Operand.grouped ⟨p.fragment d, p.needsGrouping⟩) ::
          (Predicate.operands d (q :: ps)).map Operand.grouped) := rfl
    rw [hjoin, Predicate.tokensOfGroup, Token.fragments_append, Token.fragments_groupIf,
      p.fragments_tokens, Predicate.fragments_tokensBehind c (q :: ps), Fragment.sepBy_cons]
    rfl

/-- So does the text behind the first member, a word in front of each further one. -/
theorem Predicate.fragments_tokensBehind (c : Connective) (ps : List Predicate) :
    Token.fragments d (Predicate.tokensBehind c ps) =
      ((Predicate.operands d ps).map Operand.grouped).flatMap fun f =>
        (c.keyword : Piece) :: f := by
  match ps with
  | [] => rfl
  | p :: ps =>
    rw [Predicate.tokensBehind, Token.fragments_cons, Token.fragments_append,
      Token.fragments_groupIf, p.fragments_tokens, Predicate.fragments_tokensBehind c ps,
      Predicate.operands, List.map_cons, List.flatMap_cons]
    rfl

end

end

/-! ## What is read from it -/

mutual

/-- The formula that the tokens of a condition read as. -/
def Predicate.formula : Predicate → Formula Leaf
  | .conj ps => Predicate.formulaOfGroup .and ps
  | .disj ps => Predicate.formulaOfGroup .or ps
  | .neg p => .not p.formula
  | p => .leaf (.condition p)

/-- The formula of conditions joined by a word, taken from the left. -/
def Predicate.formulaOfGroup (c : Connective) : List Predicate → Formula Leaf
  | [] => .leaf (.constant c.unit)
  | p :: ps => (Predicate.formulas ps).foldl (.join c) p.formula

/-- The formulas of conditions. -/
def Predicate.formulas : List Predicate → List (Formula Leaf)
  | [] => []
  | p :: ps => p.formula :: Predicate.formulas ps

end

/-- Operands joined by the word are at this level. -/
def Connective.level : Connective → Level
  | .and => .conjunction
  | .or => .disjunction

section

variable {ts us : List (Token Leaf)} {φ ψ : Formula Leaf} {c : Connective}

/-- An operand is a chain of one. -/
theorem Reads.chain (h : Reads .operand ts φ) : Reads c.level ts φ := by
  cases c with
  | and => exact h.conjunct
  | or => exact h.conjunct.disjunct

/-- A chain of operands goes on with one more. -/
theorem Reads.chain_join (h : Reads c.level ts φ) (h' : Reads .operand us ψ) :
    Reads c.level (ts ++ .word c :: us) (.join c φ ψ) := by
  cases c with
  | and => exact h.and h'
  | or => exact h.or h'.conjunct

/-- A chain of operands reads on every level above, whichever word is in it. -/
theorem Reads.disjunction_of_chain (h : Reads c.level ts φ) : Reads .disjunction ts φ := by
  cases c with
  | and => exact h.disjunct
  | or => exact h

/-- Where parentheses are needed, they make an operand of what they enclose. -/
theorem Reads.groupIf {needed : Bool} (h : Reads .disjunction ts φ)
    (h' : needed = false → Reads .operand ts φ) : Reads .operand (Token.groupIf needed ts) φ := by
  cases needed with
  | false => exact h' rfl
  | true => exact h.group

end

mutual

/-- The tokens of a condition read as its formula, even as an operand of anything unless the
condition needs grouping. -/
theorem Predicate.reads_tokens (p : Predicate) :
    Reads .disjunction p.tokens p.formula ∧
      (p.needsGrouping = false → Reads .operand p.tokens p.formula) := by
  have hop {ts : List (Token Leaf)} {φ : Formula Leaf} {needed : Prop}
      (h : Reads .operand ts φ) : Reads .disjunction ts φ ∧ (needed → Reads .operand ts φ) :=
    ⟨h.conjunct.disjunct, fun _ => h⟩
  cases p with
  | conj ps => exact Predicate.reads_tokensOfGroup .and ps
  | disj ps => exact Predicate.reads_tokensOfGroup .or ps
  | neg p => exact hop p.reads_tokens.1.group.not
  | _ => exact hop (.leaf _)

/-- Several conditions with a word between them are no operand; one is if it would be by itself. -/
theorem Predicate.reads_tokensOfGroup (c : Connective) (ps : List Predicate) :
    Reads .disjunction (Predicate.tokensOfGroup c ps) (Predicate.formulaOfGroup c ps) ∧
      (Predicate.groupNeedsGrouping ps = false →
        Reads .operand (Predicate.tokensOfGroup c ps) (Predicate.formulaOfGroup c ps)) := by
  match ps with
  | [] => exact ⟨(Reads.leaf _).conjunct.disjunct, fun _ => .leaf _⟩
  | [p] => exact p.reads_tokens
  | p :: q :: ps =>
    have hp : Reads .operand (Token.groupIf p.needsGrouping p.tokens) p.formula :=
      p.reads_tokens.1.groupIf p.reads_tokens.2
    refine ⟨(Predicate.reads_tokensBehind c (q :: ps) hp.chain).disjunction_of_chain, fun h => ?_⟩
    simp [Predicate.groupNeedsGrouping] at h

/-- A chain of operands goes on with conditions behind it. -/
theorem Predicate.reads_tokensBehind (c : Connective) (ps : List Predicate)
    {ts : List (Token Leaf)} {φ : Formula Leaf} (h : Reads c.level ts φ) :
    Reads c.level (ts ++ Predicate.tokensBehind c ps)
      ((Predicate.formulas ps).foldl (.join c) φ) := by
  match ps with
  | [] =>
    rw [Predicate.tokensBehind, List.append_nil]
    exact h
  | p :: ps =>
    have hp : Reads .operand (Token.groupIf p.needsGrouping p.tokens) p.formula :=
      p.reads_tokens.1.groupIf p.reads_tokens.2
    have hps := Predicate.reads_tokensBehind c ps (h.chain_join hp)
    rw [List.append_assoc] at hps
    exact hps

end

mutual

/-- The formula has the leaves of the condition. -/
theorem Predicate.leaves_formula (p : Predicate) : p.formula.leaves = p.leaves := by
  cases p with
  | conj ps => exact Predicate.leaves_formulaOfGroup .and ps
  | disj ps => exact Predicate.leaves_formulaOfGroup .or ps
  | neg p => exact p.leaves_formula
  | _ => rfl

/-- The leaves of a group are those of its members. -/
theorem Predicate.leaves_formulaOfGroup (c : Connective) (ps : List Predicate) :
    (Predicate.formulaOfGroup c ps).leaves = Predicate.leavesOfGroup c ps := by
  match ps with
  | [] => rfl
  | p :: ps =>
    rw [Predicate.formulaOfGroup, Predicate.leaves_foldl c ps, p.leaves_formula,
      Predicate.leavesOfGroup]

/-- Joining from the left keeps the leaves in order. -/
theorem Predicate.leaves_foldl (c : Connective) (ps : List Predicate) (φ : Formula Leaf) :
    ((Predicate.formulas ps).foldl (.join c) φ).leaves =
      φ.leaves ++ Predicate.leavesOfAll ps := by
  match ps with
  | [] => exact (List.append_nil _).symm
  | p :: ps =>
    rw [Predicate.formulas, List.foldl_cons, Predicate.leaves_foldl c ps, Formula.leaves,
      p.leaves_formula, Predicate.leavesOfAll, List.append_assoc]

end

mutual

/-- The formula has the value of the condition. -/
theorem Predicate.value_formula (v : Nat → Ternary) (p : Predicate) (k : Nat) :
    p.formula.value (Leaf.value v) k = p.value v k := by
  cases p with
  | conj ps => exact Predicate.value_formulaOfGroup v .and ps k
  | disj ps => exact Predicate.value_formulaOfGroup v .or ps k
  | neg p => exact congrArg Ternary.not (p.value_formula v k)
  | _ => rfl

/-- A group has the value of its members joined by its word. -/
theorem Predicate.value_formulaOfGroup (v : Nat → Ternary) (c : Connective) (ps : List Predicate)
    (k : Nat) :
    (Predicate.formulaOfGroup c ps).value (Leaf.value v) k = Predicate.valueOfAll v c k ps := by
  match ps with
  | [] => rfl
  | p :: ps =>
    rw [Predicate.formulaOfGroup, Predicate.value_foldl v c ps, p.value_formula v k,
      p.leaves_formula, Predicate.valueOfAll]

/-- Joining from the left gives the value of joining from the right. -/
theorem Predicate.value_foldl (v : Nat → Ternary) (c : Connective) (ps : List Predicate)
    (φ : Formula Leaf) (k : Nat) :
    ((Predicate.formulas ps).foldl (.join c) φ).value (Leaf.value v) k =
      c.combine (φ.value (Leaf.value v) k)
        (Predicate.valueOfAll v c (k + φ.leaves.length) ps) := by
  match ps with
  | [] => exact (c.combine_unit _).symm
  | p :: ps =>
    rw [Predicate.formulas, List.foldl_cons, Predicate.value_foldl v c ps, Formula.value,
      Connective.combine_assoc, Formula.leaves, List.length_append, p.value_formula v,
      p.leaves_formula, Predicate.valueOfAll, Nat.add_assoc]

end

/-! ## SQL of the caller -/

/-- Wherever the tokens have SQL of the caller, parentheses stand directly around it. -/
def Enclosed (ts : List (Token Leaf)) : Prop :=
  ∀ before t after, ts = before ++ .leaf (.condition (.raw t)) :: after →
    before.getLast? = some .opening ∧ after.head? = some .closing

section

variable {ts us : List (Token Leaf)}

/-- In no tokens there is nothing to enclose. -/
theorem enclosed_nil : Enclosed [] := by
  intro before t after h
  simp at h

/-- In a token that is not raw there is nothing to enclose. -/
theorem enclosed_singleton {x : Token Leaf} (hx : ∀ t, x ≠ .leaf (.condition (.raw t))) :
    Enclosed [x] := by
  intro before t after h
  have hmem : Token.leaf (.condition (.raw t)) ∈ [x] := by simp [h]
  exact absurd (List.mem_singleton.mp hmem).symm (hx t)

/-- What is enclosed in two rows of tokens is enclosed in both together: no text of the caller
stands at the seam. -/
theorem Enclosed.append (hts : Enclosed ts) (hus : Enclosed us) : Enclosed (ts ++ us) := by
  intro before t after h
  rcases List.append_eq_append_iff.mp h with ⟨bs, rfl, hbs⟩ | ⟨as, has, hafter⟩
  · obtain ⟨hlast, hhead⟩ := hus bs t after hbs
    exact ⟨by rw [List.getLast?_append, hlast]; rfl, hhead⟩
  · cases as with
    | nil =>
      -- the text of the caller would begin `us`, with nothing in front of it there
      have hlast := (hus [] t after hafter.symm).1
      simp at hlast
    | cons x as =>
      rw [List.cons_append] at hafter
      obtain ⟨rfl, rfl⟩ := List.cons.inj hafter
      obtain ⟨hlast, hhead⟩ := hts before t as has
      exact ⟨hlast, by rw [List.head?_append, hhead]; rfl⟩

/-- One more token that is not raw may stand in front. -/
theorem Enclosed.cons (hus : Enclosed us) {x : Token Leaf}
    (hx : ∀ t, x ≠ .leaf (.condition (.raw t))) : Enclosed (x :: us) :=
  (enclosed_singleton hx).append hus

/-- The tokens are SQL of the caller and nothing else, or all of it is enclosed. -/
def AloneOrEnclosed (ts : List (Token Leaf)) : Prop :=
  (∃ t, ts = [.leaf (.condition (.raw t))]) ∨ Enclosed ts

/-- Parentheses enclose what stands alone in them. -/
theorem AloneOrEnclosed.parens (h : AloneOrEnclosed ts) : Enclosed (Token.groupIf true ts) := by
  rcases h with ⟨t, rfl⟩ | h
  · intro before t' after heq
    rw [Token.groupIf, if_pos rfl] at heq
    rcases before with _ | ⟨x, _ | ⟨y, _ | ⟨z, before⟩⟩⟩
    · simp at heq
    · simp only [List.cons_append, List.nil_append, List.cons.injEq] at heq
      obtain ⟨rfl, -, rfl⟩ := heq
      exact ⟨rfl, rfl⟩
    · simp at heq
    · simp at heq
  · exact (h.append (enclosed_singleton (by simp))).cons (by simp)

/-- Where parentheses are needed, they enclose what stands alone. -/
theorem AloneOrEnclosed.groupIf {needed : Bool} (h : AloneOrEnclosed ts)
    (h' : needed = false → Enclosed ts) : Enclosed (Token.groupIf needed ts) := by
  cases needed with
  | false => exact h' rfl
  | true => exact h.parens

end

mutual

/-- SQL of the caller that is not enclosed is the whole of a condition that needs grouping. -/
theorem Predicate.enclosed_tokens (p : Predicate) :
    AloneOrEnclosed p.tokens ∧ (p.needsGrouping = false → Enclosed p.tokens) := by
  have hin {ts : List (Token Leaf)} {needed : Prop} (h : Enclosed ts) :
      AloneOrEnclosed ts ∧ (needed → Enclosed ts) := ⟨.inr h, fun _ => h⟩
  cases p with
  | conj ps => exact Predicate.enclosed_tokensOfGroup .and ps
  | disj ps => exact Predicate.enclosed_tokensOfGroup .or ps
  | neg p => exact hin (p.enclosed_tokens.1.parens.cons (by simp))
  | raw t => exact ⟨.inl ⟨t, rfl⟩, fun h => by simp [Predicate.needsGrouping] at h⟩
  | _ => exact hin (enclosed_singleton (by simp))

/-- In a group of several the members are enclosed one by one, and in a group of one it is up to
that one. -/
theorem Predicate.enclosed_tokensOfGroup (c : Connective) (ps : List Predicate) :
    AloneOrEnclosed (Predicate.tokensOfGroup c ps) ∧
      (Predicate.groupNeedsGrouping ps = false → Enclosed (Predicate.tokensOfGroup c ps)) := by
  match ps with
  | [] =>
    have h : Enclosed [.leaf (.constant c.unit)] := enclosed_singleton (by simp)
    exact ⟨.inr h, fun _ => h⟩
  | [p] => exact p.enclosed_tokens
  | p :: q :: ps =>
    have hp : Enclosed (Token.groupIf p.needsGrouping p.tokens) :=
      p.enclosed_tokens.1.groupIf p.enclosed_tokens.2
    have h := hp.append (Predicate.enclosed_tokensBehind c (q :: ps))
    exact ⟨.inr h, fun _ => h⟩

/-- Behind the first member, each further one is enclosed where it needs to be. -/
theorem Predicate.enclosed_tokensBehind (c : Connective) (ps : List Predicate) :
    Enclosed (Predicate.tokensBehind c ps) := by
  match ps with
  | [] => exact enclosed_nil
  | p :: ps =>
    have hp : Enclosed (Token.groupIf p.needsGrouping p.tokens) :=
      p.enclosed_tokens.1.groupIf p.enclosed_tokens.2
    exact (hp.append (Predicate.enclosed_tokensBehind c ps)).cons (by simp)

end

/-! ## The whole -/

/-- **Conditions are read as they were meant.**  In every dialect the text of a condition is that
of its tokens.  The tokens have exactly one reading by precedence; its leaves are those of the
condition, in order, and it has the value of the condition whatever they are worth.  SQL of the
caller is the only token, or has parentheses directly around it. -/
theorem Predicate.read_as_meant (p : Predicate) :
    (∀ d, p.fragment d = Token.fragments d p.tokens) ∧
    (∃ φ, Reads .disjunction p.tokens φ ∧ (∀ ψ, Reads .disjunction p.tokens ψ → ψ = φ) ∧
      φ.leaves = p.leaves ∧
      ∀ v : Nat → Ternary, φ.value (Leaf.value v) 0 = p.value v 0) ∧
    ∀ before t after, p.tokens = before ++ .leaf (.condition (.raw t)) :: after →
      before = [] ∧ after = [] ∨
        before.getLast? = some .opening ∧ after.head? = some .closing := by
  refine ⟨fun d => (p.fragments_tokens d).symm, ?_, ?_⟩
  · have hreads := p.reads_tokens.1
    exact ⟨p.formula, hreads, fun ψ hψ => hψ.unique hreads, p.leaves_formula,
      fun v => p.value_formula v 0⟩
  · intro before t after h
    rcases p.enclosed_tokens.1 with ⟨t', halone⟩ | henclosed
    · rw [halone, List.singleton_eq_append_iff] at h
      rcases h with ⟨hbefore, hafter⟩ | ⟨_, hafter⟩
      · exact .inl ⟨hbefore, (List.cons.inj hafter).2⟩
      · cases hafter
    · exact .inr (henclosed before t after h)

/-- A group of one is not seen in the text, but what it contains is still grouped. -/
example (s t : Template) :
    (Predicate.conj [.disj [.raw s, .always], .conj [.raw t]]).tokens =
      [.opening, .opening, .leaf (.condition (.raw s)), .closing, .word .or,
        .leaf (.condition .always), .closing, .word .and, .opening,
        .leaf (.condition (.raw t)), .closing] := rfl

end BoundSql
