import BoundSql.Proofs.Brackets

/-!
# Reading operators and their operands

An expression of operators is written in one line, and whoever reads it has to find out which
operator takes what.  How tightly an operator binds, and from which side operators that bind alike
are taken, differs from engine to engine (`Precedence`); here a reader may go by any such rules
(`ReadsArith`).  What is taken as an operand is a unit: a name, a value, a text, a call, or terms in
brackets (`IsUnit`).

If every operator below another one is put in parentheses (`Arith.write`), there is one operator to
be found at each place, and the rules make no difference.  What is written reads as the tree
(`Arith.exists_readsArith`), and every other reading agrees with this one: it takes terms in
parentheses as a whole, or goes on inside an operand (`Arith.agrees_of_readsArith`).
-/

namespace BoundSql

/-! ## Trees of operators -/

/-- Operands and the operators between them. -/
inductive Arith (α : Type) where
  | operand (x : α)
  | node (left : Arith α) (op : ArithOp) (right : Arith α)

namespace Arith

variable {α β : Type}

/-- Something else for each operand. -/
def map (f : α → β) : Arith α → Arith β
  | operand x => operand (f x)
  | node left op right => node (left.map f) op (right.map f)

/-- The operands from left to right. -/
def operands : Arith α → List α
  | operand x => [x]
  | node left _ right => left.operands ++ right.operands

/-- To put something else for each operand keeps their order. -/
theorem operands_map (f : α → β) (t : Arith α) : (t.map f).operands = t.operands.map f := by
  induction t with
  | operand x => rfl
  | node left op right ihl ihr => rw [map, operands, ihl, ihr, operands, List.map_append]

end Arith

/-- The operators of an expression as far down as they go, and what is below them. -/
def Expr.arith : Expr → Arith Expr
  | .binary left op right => .node left.arith op right.arith
  | e => .operand e

/-! ## The grammar -/

/-- The sign of an operator as it is read. -/
def ArithOp.mark (op : ArithOp) : List Term := op.sign.toList.map fun c => .atom (.sign c)

/-- Terms that read as a name.  Behind `NOT` something else is expected. -/
inductive IsName : List Term → Prop where
  | word {w : String} (h : w ≠ "NOT") : IsName [.atom (.word w)]
  | name (identifier : String) : IsName [.atom (.name identifier)]
  /-- A quoted name, in several runs if there are quotation marks in it. -/
  | quoted {mark : Char} {runs : List (List Char)} (hmark : mark ≠ '\x27') (hruns : runs ≠ []) :
    IsName (runs.map fun run => .atom (.quoted mark run))
  | dotted {ts us : List Term} (hts : IsName ts) (hus : IsName us) :
    IsName (ts ++ .atom (.sign '.') :: us)

/-- Terms that read as one operand, whatever operators stand beside them. -/
inductive IsUnit : List Term → Prop where
  | name {ts : List Term} (h : IsName ts) : IsUnit ts
  | value (v : Value) : IsUnit [.atom (.value v)]
  | text {mark : Char} {runs : List (List Char)} (hruns : runs ≠ []) :
    IsUnit (runs.map fun run => .atom (.quoted mark run))
  | group (b : Bracket) (ts : List Term) : IsUnit [.group b ts]
  | call {ts : List Term} (h : IsName ts) (us : List Term) : IsUnit (ts ++ [.group .parens us])
  | windowed {ts : List Term} (h : IsUnit ts) (us : List Term) :
    IsUnit (ts ++ [.atom (.word "OVER"), .group .parens us])

/-- How tightly operators bind. -/
structure Precedence where
  /-- Operators of a higher level bind more tightly. -/
  level : ArithOp → Nat
  /-- The operators of this level are taken from the left. -/
  leftward : Nat → Bool

namespace Precedence

variable (P : Precedence)

/-- What has this operator outermost, or none outside parentheses, may stand to the left of `op`. -/
def LeftOf (inner : Option ArithOp) (op : ArithOp) : Prop :=
  ∀ o ∈ inner, P.level op < P.level o ∨ P.level op = P.level o ∧ P.leftward (P.level op)

/-- The same for the right of `op`. -/
def RightOf (inner : Option ArithOp) (op : ArithOp) : Prop :=
  ∀ o ∈ inner, P.level op < P.level o ∨ P.level op = P.level o ∧ !P.leftward (P.level op)

end Precedence

/-- The terms read as the tree, with this operator outermost if there is one outside parentheses. -/
inductive ReadsArith (P : Precedence) : Option ArithOp → List Term → Arith (List Term) → Prop where
  | unit {ts : List Term} (h : IsUnit ts) : ReadsArith P none ts (.operand ts)
  | group {top : Option ArithOp} {ts : List Term} {t : Arith (List Term)}
    (h : ReadsArith P top ts t) : ReadsArith P none [.group .parens ts] t
  | node {op : ArithOp} {inner inner' : Option ArithOp} {ts us : List Term}
    {l r : Arith (List Term)} (hl : ReadsArith P inner ts l) (hr : ReadsArith P inner' us r)
    (hleft : P.LeftOf inner op) (hright : P.RightOf inner' op) :
    ReadsArith P (some op) (ts ++ (op.mark ++ us)) (.node l op r)

/-! ## Signs of operators -/

/-- The term is a sign that may be one of an operator. -/
def Term.isOperatorSign : Term → Bool
  | .atom (.sign c) => c != '.'
  | _ => false

/-- The mark of an operator consists of signs, and none of them is a point. -/
theorem isOperatorSign_of_mem_mark {op : ArithOp} {x : Term} (h : x ∈ op.mark) :
    x.isOperatorSign := by
  rw [ArithOp.mark, List.mem_map] at h
  obtain ⟨c, hc, rfl⟩ := h
  have hall : op.sign.toList.all (· != '.') := by cases op <;> decide
  exact List.all_eq_true.mp hall c hc

/-- Every operator has a mark. -/
theorem mark_ne_nil (op : ArithOp) : op.mark ≠ [] := by
  cases op <;> exact List.cons_ne_nil _ _

/-- Two operators have no sign in common. -/
theorem eq_of_mem_mark {op op' : ArithOp} {x : Term} (h : x ∈ op.mark) (h' : x ∈ op'.mark) :
    op = op' := by
  have hfound (op : ArithOp) (c : Char) (hc : c ∈ op.sign.toList) :
      ArithOp.all.find? (·.sign.toList.contains c) = some op := by
    have hall : op.sign.toList.all fun c =>
        ArithOp.all.find? (·.sign.toList.contains c) == some op := by
      cases op <;> decide
    exact beq_iff_eq.mp (List.all_eq_true.mp hall c hc)
  rw [ArithOp.mark, List.mem_map] at h h'
  obtain ⟨c, hc, rfl⟩ := h
  obtain ⟨c', hc', heq⟩ := h'
  cases heq
  exact Option.some.inj ((hfound op c hc).symm.trans (hfound op' c hc'))

/-- There are no signs of operators among the terms. -/
def Signless (ts : List Term) : Prop := ∀ t ∈ ts, t.isOperatorSign = false

/-- No sign of an operator comes from putting terms together. -/
theorem Signless.append {ts us : List Term} (hts : Signless ts) (hus : Signless us) :
    Signless (ts ++ us) := List.forall_mem_append.mpr ⟨hts, hus⟩

/-- Quoted runs have no sign of an operator outside them. -/
theorem signless_quoted (mark : Char) (runs : List (List Char)) :
    Signless (runs.map fun run => .atom (.quoted mark run)) := by
  intro t ht
  obtain ⟨run, _, rfl⟩ := List.mem_map.mp ht
  rfl

/-- Nor do brackets, whatever is between them. -/
theorem signless_group (b : Bracket) (ts : List Term) : Signless [.group b ts] := by
  intro t ht
  rw [List.mem_singleton.mp ht]
  rfl

/-- No operator stands in a name: what joins the parts of it is a point. -/
theorem IsName.signless {ts : List Term} (h : IsName ts) : Signless ts := by
  induction h with
  | word _ | name _ =>
    intro t ht
    rw [List.mem_singleton.mp ht]
    rfl
  | quoted _ _ => exact signless_quoted _ _
  | dotted _ _ ihts ihus => exact ihts.append (List.forall_mem_cons.mpr ⟨rfl, ihus⟩)

/-- No operator stands in a unit, unless it is in brackets. -/
theorem IsUnit.signless {ts : List Term} (h : IsUnit ts) : Signless ts := by
  induction h with
  | name h => exact h.signless
  | value v =>
    intro t ht
    rw [List.mem_singleton.mp ht]
    rfl
  | text _ => exact signless_quoted _ _
  | group b ts => exact signless_group b ts
  | call h us => exact h.signless.append (signless_group .parens us)
  | windowed _ us ih => exact ih.append (List.forall_mem_cons.mpr ⟨rfl, signless_group .parens us⟩)

/-- Where an operator stands between terms without signs, it can be taken for no other one, nor can
the terms on either side. -/
theorem eq_of_append_mark_eq {op op' : ArithOp} {ts us ts' us' : List Term} (hts : Signless ts)
    (hus : Signless us) (h : ts' ++ (op'.mark ++ us') = ts ++ (op.mark ++ us)) :
    ts' = ts ∧ op' = op ∧ us' = us := by
  have hnone {vs : List Term} (hvs : Signless vs) : vs.filter Term.isOperatorSign = [] :=
    List.filter_eq_nil_iff.mpr fun t ht => by rw [hvs t ht]; exact Bool.false_ne_true
  have hmark (op : ArithOp) : op.mark.filter Term.isOperatorSign = op.mark :=
    List.filter_eq_self.mpr fun t ht => isOperatorSign_of_mem_mark ht
  have hfilter := congrArg (List.filter Term.isOperatorSign) h
  simp only [List.filter_append, hnone hts, hnone hus, hmark, List.nil_append,
    List.append_nil] at hfilter
  obtain ⟨x, hx⟩ := List.exists_mem_of_ne_nil _ (mark_ne_nil op')
  have hop : op' = op := by
    refine eq_of_mem_mark hx ?_
    rw [← hfilter]
    exact List.mem_append_right _ (List.mem_append_left _ hx)
  subst hop
  -- nothing is left of the signs for the terms on either side
  have hlength := congrArg List.length hfilter
  simp only [List.length_append] at hlength
  have hts' : Signless ts' := by
    have hnil : ts'.filter Term.isOperatorSign = [] := List.eq_nil_of_length_eq_zero (by omega)
    intro t ht
    exact Bool.eq_false_iff.mpr (List.filter_eq_nil_iff.mp hnil t ht)
  have htake {vs : List Term} (ws : List Term) (hvs : Signless vs) :
      (vs ++ (op'.mark ++ ws)).takeWhile (fun t => !t.isOperatorSign) = vs := by
    rw [List.takeWhile_append_of_pos fun t ht => by rw [hvs t ht]; rfl]
    obtain ⟨y, ys, hys⟩ := List.exists_cons_of_ne_nil (mark_ne_nil op')
    have hy : y.isOperatorSign := isOperatorSign_of_mem_mark (hys ▸ List.mem_cons_self)
    rw [hys, List.cons_append, List.takeWhile_cons_of_neg (by rw [hy]; exact Bool.false_ne_true),
      List.append_nil]
  have hleft : ts' = ts := by
    rw [← htake us' hts', h, htake us hts]
  subst hleft
  exact ⟨rfl, rfl, List.append_cancel_left (List.append_cancel_left h)⟩

/-! ## Writing and reading -/

namespace Arith

/-- A tree as an operand, given its terms: in parentheses if it has an operator. -/
def asOperand : Arith (List Term) → List Term → List Term
  | operand _, ts => ts
  | node .., ts => [.group .parens ts]

/-- The terms of a tree, given those of its operands. -/
def write : Arith (List Term) → List Term
  | operand ts => ts
  | node left op right =>
    left.asOperand left.write ++ (op.mark ++ right.asOperand right.write)

variable {P : Precedence} {t : Arith (List Term)}

/-- No operator stands in an operand outside parentheses. -/
theorem signless_asOperand (h : ∀ ts ∈ t.operands, IsUnit ts) :
    Signless (t.asOperand t.write) := by
  cases t with
  | operand ts => exact (h ts (List.mem_singleton_self ts)).signless
  | node left op right => exact signless_group .parens _

/-- What is written reads as the tree. -/
theorem exists_readsArith (P : Precedence) (h : ∀ ts ∈ t.operands, IsUnit ts) :
    (∃ top, ReadsArith P top t.write t) ∧ ReadsArith P none (t.asOperand t.write) t := by
  induction t with
  | operand ts =>
    have hunit := ReadsArith.unit (P := P) (h ts (List.mem_singleton_self ts))
    exact ⟨⟨none, hunit⟩, hunit⟩
  | node left op right ihl ihr =>
    rw [operands, List.forall_mem_append] at h
    have hread : ReadsArith P (some op) (node left op right).write (.node left op right) :=
      .node (ihl h.1).2 (ihr h.2).2 nofun nofun
    exact ⟨⟨some op, hread⟩, .group hread⟩

/-- A reading agrees with a tree: it may take terms in parentheses as a whole, and it may go on
inside an operand. -/
inductive Agrees (P : Precedence) : Arith (List Term) → Arith (List Term) → Prop where
  | whole (t : Arith (List Term)) : Agrees P (.operand (t.asOperand t.write)) t
  | within {ts : List Term} {r : Arith (List Term)} (h : ReadsArith P none ts r) :
    Agrees P r (.operand ts)
  | node {op : ArithOp} {l l' r r' : Arith (List Term)} (hl : Agrees P l l')
    (hr : Agrees P r r') : Agrees P (.node l op r) (.node l' op r')

/-- In terms without signs no operator is read. -/
theorem top_eq_none {top : Option ArithOp} {ts : List Term} {r : Arith (List Term)}
    (h : ReadsArith P top ts r) (hts : Signless ts) : top = none := by
  cases h with
  | unit _ => rfl
  | group _ => rfl
  | @node op =>
    obtain ⟨x, hx⟩ := List.exists_mem_of_ne_nil _ (mark_ne_nil op)
    have hsign := hts x (List.mem_append_right _ (List.mem_append_left _ hx))
    rw [isOperatorSign_of_mem_mark hx] at hsign
    cases hsign

/-- Whatever is read from what is written agrees with the tree. -/
theorem agrees_of_readsArith (h : ∀ ts ∈ t.operands, IsUnit ts) :
    (∀ {top r}, ReadsArith P top t.write r → Agrees P r t) ∧
      ∀ {top r}, ReadsArith P top (t.asOperand t.write) r → Agrees P r t := by
  induction t with
  | operand ts =>
    have hunit := h ts (List.mem_singleton_self ts)
    -- a unit shows no sign, so no operator is read on top of it
    have hagrees {top : Option ArithOp} {r : Arith (List Term)} (hr : ReadsArith P top ts r) :
        Agrees P r (.operand ts) := by
      obtain rfl := top_eq_none hr hunit.signless
      exact .within hr
    exact ⟨hagrees, hagrees⟩
  | node left op right ihl ihr =>
    rw [operands, List.forall_mem_append] at h
    have hl := signless_asOperand h.1
    have hr := signless_asOperand h.2
    have hagrees {top : Option ArithOp} {r : Arith (List Term)}
        (hread : ReadsArith P top (node left op right).write r) :
        Agrees P r (.node left op right) := by
      have hwrite : (node left op right).write =
        left.asOperand left.write ++ (op.mark ++ right.asOperand right.write) := rfl
      obtain ⟨x, hx⟩ := List.exists_mem_of_ne_nil _ (mark_ne_nil op)
      have hmem : x ∈ (node left op right).write :=
        List.mem_append_right _ (List.mem_append_left _ hx)
      -- an operator stands there, so the terms are neither a unit nor a group
      have hsigned {ts : List Term} (hts : ts = (node left op right).write) : ¬Signless ts := by
        intro hnone
        have hsign := hnone x (hts ▸ hmem)
        rw [isOperatorSign_of_mem_mark hx] at hsign
        cases hsign
      generalize hts : (node left op right).write = ts at hread
      cases hread with
      | unit hunit => exact absurd hunit.signless (hsigned hts.symm)
      | group _ => exact absurd (signless_group .parens _) (hsigned hts.symm)
      | node hread hread' _ _ =>
        obtain ⟨rfl, rfl, rfl⟩ := eq_of_append_mark_eq hl hr (hts.symm.trans hwrite)
        exact .node ((ihl h.1).2 hread) ((ihr h.2).2 hread')
    refine ⟨hagrees, fun {top r} hread => ?_⟩
    generalize hts : (node left op right).asOperand (node left op right).write = ts at hread
    cases hread with
    | unit _ =>
      rw [← hts]
      exact .whole _
    | group hread =>
      cases hts
      exact hagrees hread
    | node hread hread' hleft hright =>
      have htop := top_eq_none (.node hread hread' hleft hright)
        (hts ▸ signless_group .parens _)
      cases htop

end Arith

/-- The operands of a reading are units. -/
theorem ReadsArith.isUnit_of_mem_operands {P : Precedence} {top : Option ArithOp} {ts : List Term}
    {t : Arith (List Term)} (h : ReadsArith P top ts t) : ∀ us ∈ t.operands, IsUnit us := by
  induction h with
  | unit h => exact fun us hus => (List.mem_singleton.mp hus) ▸ h
  | group _ ih => exact ih
  | node _ _ _ _ ihl ihr => exact List.forall_mem_append.mpr ⟨ihl, ihr⟩

end BoundSql
