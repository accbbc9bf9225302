import BoundSql.Batch
import BoundSql.Query.Contained
import BoundSql.Statement.Basic
import Mathlib.Data.List.Basic

/-!
# What a query is made of

Everything in a statement that may have a query in it is a `Node`.  A node has parts, and these are
told here for each kind of node without recursion: the arguments of a function, both sides of a
comparison, the clauses of a query.  A node holds itself, its parts and whatever those hold
(`Node.Holds`).

Main statement: `Node.holds_select_iff`.  The queries that a node holds are exactly those that are
listed for it.  The list is made by one recursion over all kinds of node, so a part forgotten in
one of its cases would be a query held and not listed.
-/

namespace BoundSql

/-- Anything in a statement that may have a query in it. -/
inductive Node where
  | expr (e : Expr)
  | predicate (p : Predicate)
  | branch (b : Branch)
  | orderItem (o : OrderItem)
  | window (w : Window)
  | source (s : Source)
  | join (j : Join)
  | select (q : Select)

/-! ## Parts -/

/-- The parts of an expression. -/
def Expr.parts : Expr → List Node
  | .column _ | .literal _ | .raw _ | .star | .now => []
  | .call _ args _ | .coalesce args => args.map .expr
  | .binary left _ right => [.expr left, .expr right]
  | .aliased e _ => [.expr e]
  | .case branches otherwise => branches.map .branch ++ otherwise.toList.map .expr
  | .subquery q => [.select q]
  | .window function w => [.expr function, .window w]
  | .truth p => [.predicate p]

/-- The parts of a condition. -/
def Predicate.parts : Predicate → List Node
  | .compare left _ right => [.expr left, .expr right]
  | .isNull e _ => [.expr e]
  | .inList e values _ => .expr e :: values.map .expr
  | .inQuery e q _ => [.expr e, .select q]
  | .between e low high _ => [.expr e, .expr low, .expr high]
  | .like e pattern _ _ => [.expr e, .expr pattern]
  | .conj ps | .disj ps => ps.map .predicate
  | .neg p => [.predicate p]
  | .existence q _ => [.select q]
  | .quantified left _ _ q => [.expr left, .select q]
  | .raw _ | .always | .never => []

/-- The parts of a query: every expression, condition and source in any of its clauses. -/
def Select.parts (q : Select) : List Node :=
  q.projection.map .expr ++ q.groups.map .expr ++ q.source.toList.map .source ++
    q.joins.map .join ++ q.condition.toList.map .predicate ++ q.having.toList.map .predicate ++
    q.order.map .orderItem

namespace Node

/-- The parts of a node. -/
def parts : Node → List Node
  | expr e => e.parts
  | predicate p => p.parts
  | branch b => [predicate b.condition, expr b.value]
  | orderItem o => [expr o.key]
  | window w => w.partitionKeys.map expr ++ w.order.map orderItem
  | source (.table _) => []
  | source (.query q _) => [select q]
  | join j => source j.target :: j.on.toList.map predicate
  | select q => q.parts

/-- A node holds itself, and what its parts hold. -/
inductive Holds : Node → Node → Prop where
  | self (n : Node) : Holds n n
  | part {n k m : Node} (hk : k ∈ n.parts) (hm : Holds k m) : Holds n m

/-- The queries listed for a node. -/
def queries : Node → List Select
  | expr e => e.queries
  | predicate p => p.queries
  | branch b => b.condition.queries ++ b.value.queries
  | orderItem o => o.queries
  | window w => w.queries
  | source s => s.queries
  | join j => j.target.queries ++ Predicate.queriesOfOption j.on
  | select q => q.queries

end Node

/-! ## Statements -/

/-- What a statement has in it: of an insertion or an update the values assigned, and of an update
or a deletion the condition. -/
def Statement.nodes : Statement → List Node
  | .select q => [.select q]
  | .insert i => i.assignments.values.map .expr
  | .update u => u.assignments.values.map .expr ++ u.condition.toList.map .predicate
  | .delete x => x.condition.toList.map .predicate

/-- What a batch has in it: the values of all rows. -/
def Batch.nodes (b : Batch) : List Node := b.rows.flatMap fun row => row.values.map .expr

/-! ## Lists of queries -/

/-- The queries in a list of expressions are those of each, in order. -/
theorem Expr.queriesOfAll_eq (es : List Expr) :
    Expr.queriesOfAll es = es.flatMap Expr.queries := by
  induction es with
  | nil => rfl
  | cons e es ih => rw [Expr.queriesOfAll, ih, List.flatMap_cons]

/-- The queries in an expression that may be missing are those of the one that there may be. -/
theorem Expr.queriesOfOption_eq (e : Option Expr) :
    Expr.queriesOfOption e = e.toList.flatMap Expr.queries := by
  cases e with
  | none => rfl
  | some e => simp [Expr.queriesOfOption]

/-- The queries in a list of conditions are those of each, in order. -/
theorem Predicate.queriesOfAll_eq (ps : List Predicate) :
    Predicate.queriesOfAll ps = ps.flatMap Predicate.queries := by
  induction ps with
  | nil => rfl
  | cons p ps ih => rw [Predicate.queriesOfAll, ih, List.flatMap_cons]

/-- The queries in a condition that may be missing are those of the one that there may be. -/
theorem Predicate.queriesOfOption_eq (p : Option Predicate) :
    Predicate.queriesOfOption p = p.toList.flatMap Predicate.queries := by
  cases p with
  | none => rfl
  | some p => simp [Predicate.queriesOfOption]

/-- The queries in a list of sort keys are those of each, in order. -/
theorem OrderItem.queriesOfAll_eq (os : List OrderItem) :
    OrderItem.queriesOfAll os = os.flatMap OrderItem.queries := by
  induction os with
  | nil => rfl
  | cons o os ih => rw [OrderItem.queriesOfAll, ih, List.flatMap_cons]

/-- The queries in a source that may be missing are those of the one that there may be. -/
theorem Source.queriesOfOption_eq (s : Option Source) :
    Source.queriesOfOption s = s.toList.flatMap Source.queries := by
  cases s with
  | none => rfl
  | some s => simp [Source.queriesOfOption]

/-- The queries in a branch are those of its condition and of its value. -/
theorem Branch.queriesOfAll_eq (bs : List Branch) :
    Branch.queriesOfAll bs = bs.flatMap fun b => b.condition.queries ++ b.value.queries := by
  induction bs with
  | nil => rfl
  | cons b bs ih =>
    cases b with
    | mk condition value => rw [Branch.queriesOfAll, ih, List.flatMap_cons, List.append_assoc]

/-- The queries in a join are those of what is joined and of the condition behind it. -/
theorem Join.queriesOfAll_eq (js : List Join) :
    Join.queriesOfAll js =
      js.flatMap fun j => j.target.queries ++ Predicate.queriesOfOption j.on := by
  induction js with
  | nil => rfl
  | cons j js ih =>
    cases j with
    | mk kind target on => rw [Join.queriesOfAll, ih, List.flatMap_cons, List.append_assoc]

namespace Node

/-- The node itself, if it is a query. -/
def own : Node → List Select
  | select q => [q]
  | _ => []

/-- The queries in an expression are those in its parts: it is none itself. -/
theorem queries_expr (e : Expr) : e.queries = e.parts.flatMap queries := by
  cases e with
  | call function args distinct =>
    simp [Expr.queries, Expr.parts, Expr.queriesOfAll_eq, List.flatMap_map, queries]
  | case branches otherwise =>
    simp [Expr.queries, Expr.parts, Expr.queriesOfOption_eq, Branch.queriesOfAll_eq,
      List.flatMap_map, queries]
  | coalesce args =>
    simp [Expr.queries, Expr.parts, Expr.queriesOfAll_eq, List.flatMap_map, queries]
  | _ => simp [Expr.queries, Expr.parts, queries]

/-- The queries in a condition are those in its parts. -/
theorem queries_predicate (p : Predicate) : p.queries = p.parts.flatMap queries := by
  cases p with
  | inList e values negated =>
    simp [Predicate.queries, Predicate.parts, Expr.queriesOfAll_eq, List.flatMap_map, queries]
  | conj ps =>
    simp [Predicate.queries, Predicate.parts, Predicate.queriesOfAll_eq, List.flatMap_map, queries]
  | disj ps =>
    simp [Predicate.queries, Predicate.parts, Predicate.queriesOfAll_eq, List.flatMap_map, queries]
  | _ => simp [Predicate.queries, Predicate.parts, queries]

/-- The queries in a query are the query and those in its parts. -/
theorem queries_select (q : Select) : q.queries = q :: q.parts.flatMap queries := by
  cases q with
  | mk distinct projection source joins condition groups having order limit offset forUpdate =>
    simp [Select.queries, Select.parts, Expr.queriesOfAll_eq, Source.queriesOfOption_eq,
      Join.queriesOfAll_eq, Predicate.queriesOfOption_eq, OrderItem.queriesOfAll_eq,
      List.flatMap_map, queries]

/-- The queries of a node are the node itself, if it is one, and those of its parts. -/
theorem queries_eq (n : Node) : n.queries = n.own ++ n.parts.flatMap queries := by
  cases n with
  | expr e => exact queries_expr e
  | predicate p => exact queries_predicate p
  | branch b =>
    cases b with
    | mk condition value => simp [queries, own, parts]
  | orderItem o =>
    cases o with
    | mk key dir nulls => simp [queries, own, parts, OrderItem.queries]
  | window w =>
    cases w with
    | mk partitionKeys order frame =>
      simp [queries, own, parts, Window.queries, Expr.queriesOfAll_eq, OrderItem.queriesOfAll_eq,
        List.flatMap_map]
  | source s =>
    cases s with
    | table t => simp [queries, own, parts, Source.queries]
    | query q name => simp [queries, own, parts, Source.queries]
  | join j =>
    cases j with
    | mk kind target on =>
      simp [queries, own, parts, Predicate.queriesOfOption_eq, List.flatMap_map]
  | select q => exact queries_select q

/-! ## Parts are smaller

So what holds of the parts of every node may be used for the node itself. -/

section

variable {α : Type} [SizeOf α] {make : α → Node} {k : Node}

/-- A part from a list is no larger than the list. -/
theorem sizeOf_le_of_mem_map {as : List α} (hmake : ∀ a, sizeOf (make a) = 1 + sizeOf a)
    (h : k ∈ as.map make) : sizeOf k ≤ sizeOf as := by
  obtain ⟨a, ha, rfl⟩ := List.mem_map.mp h
  have hlt := List.sizeOf_lt_of_mem ha
  rw [hmake]
  omega

/-- A part that may be missing is no larger than the place for it. -/
theorem sizeOf_le_of_mem_toList_map {o : Option α} (hmake : ∀ a, sizeOf (make a) = 1 + sizeOf a)
    (h : k ∈ o.toList.map make) : sizeOf k ≤ sizeOf o := by
  cases o with
  | none => cases h
  | some a =>
    have hsome : sizeOf (some a) = 1 + sizeOf a := Option.some.sizeOf_spec a
    rw [List.mem_singleton.mp h, hmake]
    exact Nat.le_of_eq hsome.symm

/-- A part of an expression fits into it, and the constructor around it comes on top. -/
theorem sizeOf_le_of_mem_exprParts {e : Expr} (h : k ∈ e.parts) : sizeOf k ≤ sizeOf e := by
  cases e with
  | call function args distinct =>
    have hle := sizeOf_le_of_mem_map expr.sizeOf_spec h
    rw [Expr.call.sizeOf_spec]
    omega
  | coalesce args =>
    have hle := sizeOf_le_of_mem_map expr.sizeOf_spec h
    rw [Expr.coalesce.sizeOf_spec]
    omega
  | case branches otherwise =>
    rw [Expr.case.sizeOf_spec]
    rcases List.mem_append.mp h with h | h
    · have hle := sizeOf_le_of_mem_map branch.sizeOf_spec h
      omega
    · have hle := sizeOf_le_of_mem_toList_map expr.sizeOf_spec h
      omega
  | _ =>
    simp only [Expr.parts, List.mem_cons, List.not_mem_nil, or_false] at h <;>
      rcases h with rfl | rfl <;> simp <;> omega

/-- A part of a condition fits into it. -/
theorem sizeOf_le_of_mem_predicateParts {p : Predicate} (h : k ∈ p.parts) :
    sizeOf k ≤ sizeOf p := by
  cases p with
  | inList e values negated =>
    rw [Predicate.inList.sizeOf_spec]
    rcases List.mem_cons.mp h with rfl | h
    · rw [expr.sizeOf_spec]
      omega
    · have hle := sizeOf_le_of_mem_map expr.sizeOf_spec h
      omega
  | conj ps =>
    have hle := sizeOf_le_of_mem_map predicate.sizeOf_spec h
    rw [Predicate.conj.sizeOf_spec]
    omega
  | disj ps =>
    have hle := sizeOf_le_of_mem_map predicate.sizeOf_spec h
    rw [Predicate.disj.sizeOf_spec]
    omega
  | _ =>
    simp only [Predicate.parts, List.mem_cons, List.not_mem_nil, or_false] at h <;>
      rcases h with rfl | rfl | rfl <;> simp <;> omega

/-- A part of a query fits into it. -/
theorem sizeOf_le_of_mem_selectParts {q : Select} (h : k ∈ q.parts) : sizeOf k ≤ sizeOf q := by
  cases q with
  | mk distinct projection source joins condition groups having order limit offset forUpdate =>
    rw [Select.mk.sizeOf_spec]
    simp only [Select.parts, List.mem_append] at h
    obtain (((((h | h) | h) | h) | h) | h) | h := h
    · have hle := sizeOf_le_of_mem_map expr.sizeOf_spec h
      omega
    · have hle := sizeOf_le_of_mem_map expr.sizeOf_spec h
      omega
    · have hle := sizeOf_le_of_mem_toList_map Node.source.sizeOf_spec h
      omega
    · have hle := sizeOf_le_of_mem_map join.sizeOf_spec h
      omega
    · have hle := sizeOf_le_of_mem_toList_map predicate.sizeOf_spec h
      omega
    · have hle := sizeOf_le_of_mem_toList_map predicate.sizeOf_spec h
      omega
    · have hle := sizeOf_le_of_mem_map orderItem.sizeOf_spec h
      omega

/-- **A part is smaller than the node.** -/
theorem sizeOf_lt_of_mem_parts {n : Node} (h : k ∈ n.parts) : sizeOf k < sizeOf n := by
  cases n with
  | expr e =>
    have hle := sizeOf_le_of_mem_exprParts h
    rw [expr.sizeOf_spec]
    omega
  | predicate p =>
    have hle := sizeOf_le_of_mem_predicateParts h
    rw [predicate.sizeOf_spec]
    omega
  | branch b =>
    cases b with
    | mk condition value =>
      simp only [parts, List.mem_cons, List.not_mem_nil, or_false] at h
      rw [branch.sizeOf_spec, Branch.mk.sizeOf_spec]
      rcases h with rfl | rfl
      · rw [predicate.sizeOf_spec]
        omega
      · rw [expr.sizeOf_spec]
        omega
  | orderItem o =>
    cases o with
    | mk key dir nulls =>
      have hkey : k = expr key := List.mem_singleton.mp h
      rw [hkey, orderItem.sizeOf_spec, OrderItem.mk.sizeOf_spec, expr.sizeOf_spec]
      omega
  | window w =>
    cases w with
    | mk partitionKeys order frame =>
      have h : k ∈ partitionKeys.map expr ++ order.map orderItem := h
      rw [window.sizeOf_spec, Window.mk.sizeOf_spec]
      rcases List.mem_append.mp h with h | h
      · have hle := sizeOf_le_of_mem_map expr.sizeOf_spec h
        omega
      · have hle := sizeOf_le_of_mem_map orderItem.sizeOf_spec h
        omega
  | source s =>
    cases s with
    | table t => cases h
    | query q name =>
      rw [List.mem_singleton.mp h, source.sizeOf_spec, Source.query.sizeOf_spec,
        select.sizeOf_spec]
      omega
  | join j =>
    cases j with
    | mk kind target on =>
      have h : k ∈ source target :: on.toList.map predicate := h
      rw [join.sizeOf_spec, Join.mk.sizeOf_spec]
      rcases List.mem_cons.mp h with rfl | h
      · rw [source.sizeOf_spec]
        omega
      · have hle := sizeOf_le_of_mem_toList_map predicate.sizeOf_spec h
        omega
  | select q =>
    have hle := sizeOf_le_of_mem_selectParts h
    rw [select.sizeOf_spec]
    omega

end

/-! ## Held and listed -/

/-- The queries listed for what a node holds are listed for the node. -/
theorem mem_queries_of_holds {n m : Node} (h : n.Holds m) {q : Select} (hq : q ∈ m.queries) :
    q ∈ n.queries := by
  induction h with
  | self n => exact hq
  | part hk _ ih =>
    rw [queries_eq]
    exact List.mem_append_right _ (List.mem_flatMap.mpr ⟨_, hk, ih hq⟩)

/-- A query that is listed for a node is held by it. -/
theorem holds_of_mem_queries (n : Node) {q : Select} (h : q ∈ n.queries) :
    n.Holds (.select q) := by
  rw [queries_eq, List.mem_append] at h
  rcases h with hown | hpart
  · cases n with
    | select r =>
      rw [own, List.mem_singleton] at hown
      rw [hown]
      exact .self _
    | _ => cases hown
  -- listed for a part, which is smaller than the node
  · obtain ⟨k, hk, hq⟩ := List.mem_flatMap.mp hpart
    have := sizeOf_lt_of_mem_parts hk
    exact .part hk (holds_of_mem_queries k hq)
termination_by sizeOf n

/-- The queries that a node holds are those that are listed for it. -/
theorem holds_select_iff {n : Node} {q : Select} : n.Holds (.select q) ↔ q ∈ n.queries := by
  constructor
  · intro h
    refine mem_queries_of_holds h ?_
    rw [queries_eq]
    exact List.mem_append_left _ (List.mem_singleton_self q)
  · exact holds_of_mem_queries n

end Node

end BoundSql
