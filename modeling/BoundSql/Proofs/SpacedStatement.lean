import BoundSql.Proofs.Assignments
import BoundSql.Proofs.Build
import BoundSql.Proofs.CallerText
import BoundSql.Proofs.Spacing

/-!
# Statements are spaced

What is left to show behind `Node.spaced`: a statement is spaced if the nodes in it are, and so is
every statement that a batch becomes.  Whether a node is admitted depends on the texts that the
caller wrote into it and on whether it is a locking query, and on nothing else
(`Node.spaced_of_callerTexts`).
-/

namespace BoundSql

open Fragment (Spaced Trailing spaced_comma trailing_nil)

/-! ## What the caller wrote -/

/-- A text of the caller is admitted. -/
def CallerText.Admitted (admits : String → Prop) (whole : Fragment → Prop) : CallerText → Prop
  | .template t => whole t.fragment
  | .function name => admits name

namespace Node

/-- The texts of the caller in a node. -/
def callerTexts : Node → List CallerText
  | expr e => e.callerTexts
  | predicate p => p.callerTexts
  | branch b => b.callerTexts
  | orderItem o => o.callerTexts
  | window w => w.callerTexts
  | source s => s.callerTexts
  | join j => j.callerTexts
  | select q => q.callerTexts

end Node

/-! ### Lists of texts -/

/-- The texts in a list of expressions are those of its nodes. -/
theorem Expr.callerTextsOfAll_eq (es : List Expr) :
    Expr.callerTextsOfAll es = (es.map Node.expr).flatMap Node.callerTexts := by
  rw [Expr.callerTextsOfAll_eq_flatMap, List.flatMap_map]
  rfl

/-- The texts in an expression that may be missing are those of the node that there may be. -/
theorem Expr.callerTextsOfOption_eq (e : Option Expr) :
    Expr.callerTextsOfOption e = (e.toList.map Node.expr).flatMap Node.callerTexts := by
  cases e with
  | none => rfl
  | some e => simp [Expr.callerTextsOfOption, Node.callerTexts]

/-- The texts in a list of conditions are those of its nodes. -/
theorem Predicate.callerTextsOfAll_eq (ps : List Predicate) :
    Predicate.callerTextsOfAll ps = (ps.map Node.predicate).flatMap Node.callerTexts := by
  induction ps with
  | nil => rfl
  | cons p ps ih => rw [Predicate.callerTextsOfAll, ih, List.map_cons, List.flatMap_cons,
      Node.callerTexts]

/-- The texts in a condition that may be missing are those of the node that there may be. -/
theorem Predicate.callerTextsOfOption_eq (p : Option Predicate) :
    Predicate.callerTextsOfOption p = (p.toList.map Node.predicate).flatMap Node.callerTexts := by
  cases p with
  | none => rfl
  | some p => simp [Predicate.callerTextsOfOption, Node.callerTexts]

/-- The texts in the branches of a `CASE` are those of their nodes. -/
theorem Branch.callerTextsOfAll_eq (bs : List Branch) :
    Branch.callerTextsOfAll bs = (bs.map Node.branch).flatMap Node.callerTexts := by
  induction bs with
  | nil => rfl
  | cons b bs ih => rw [Branch.callerTextsOfAll, ih, List.map_cons, List.flatMap_cons,
      Node.callerTexts]

/-- The texts in a list of sort keys are those of its nodes. -/
theorem OrderItem.callerTextsOfAll_eq (os : List OrderItem) :
    OrderItem.callerTextsOfAll os = (os.map Node.orderItem).flatMap Node.callerTexts := by
  induction os with
  | nil => rfl
  | cons o os ih => rw [OrderItem.callerTextsOfAll, ih, List.map_cons, List.flatMap_cons,
      Node.callerTexts]

/-- The texts in a source that may be missing are those of the node that there may be. -/
theorem Source.callerTextsOfOption_eq (s : Option Source) :
    Source.callerTextsOfOption s = (s.toList.map Node.source).flatMap Node.callerTexts := by
  cases s with
  | none => rfl
  | some s => simp [Source.callerTextsOfOption, Node.callerTexts]

/-- The texts in the joins of a query are those of their nodes. -/
theorem Join.callerTextsOfAll_eq (js : List Join) :
    Join.callerTextsOfAll js = (js.map Node.join).flatMap Node.callerTexts := by
  induction js with
  | nil => rfl
  | cons j js ih => rw [Join.callerTextsOfAll, ih, List.map_cons, List.flatMap_cons,
      Node.callerTexts]

namespace Node

/-- The texts in the parts of an expression are texts of the expression, which may be a function
name besides. -/
theorem flatMap_parts_expr (e : Expr) : e.parts.flatMap callerTexts ⊆ e.callerTexts := by
  cases e with
  | call function args distinct =>
    rw [Expr.parts, Expr.callerTexts, Expr.callerTextsOfAll_eq]
    exact List.subset_cons_self _ _
  | case branches otherwise =>
    rw [Expr.parts, Expr.callerTexts, List.flatMap_append, Branch.callerTextsOfAll_eq,
      Expr.callerTextsOfOption_eq]
    exact List.Subset.refl _
  | coalesce args =>
    rw [Expr.parts, Expr.callerTexts, Expr.callerTextsOfAll_eq]
    exact List.Subset.refl _
  | _ => simp [Expr.parts, Expr.callerTexts, callerTexts]

/-- The texts in the parts of a condition are texts of the condition. -/
theorem flatMap_parts_predicate (p : Predicate) :
    p.parts.flatMap callerTexts ⊆ p.callerTexts := by
  cases p with
  | inList e values negated =>
    rw [Predicate.parts, Predicate.callerTexts, List.flatMap_cons, Expr.callerTextsOfAll_eq]
    exact List.Subset.refl _
  | conj ps | disj ps =>
    rw [Predicate.parts, Predicate.callerTexts, Predicate.callerTextsOfAll_eq]
    exact List.Subset.refl _
  | _ => simp [Predicate.parts, Predicate.callerTexts, callerTexts]

/-- The texts of a query are listed in the order in which it has them, and its parts in the order
in which they are checked. -/
theorem flatMap_parts_select (q : Select) : q.parts.flatMap callerTexts ⊆ q.callerTexts := by
  cases q with
  | mk distinct projection source joins condition groups having order limit offset forUpdate =>
    intro x hx
    simp only [Select.parts, List.flatMap_append, List.mem_append] at hx
    simp only [Select.callerTexts, Expr.callerTextsOfAll_eq, Source.callerTextsOfOption_eq,
      Join.callerTextsOfAll_eq, Predicate.callerTextsOfOption_eq, OrderItem.callerTextsOfAll_eq,
      List.mem_append]
    tauto

/-- The texts of the parts are texts of the node. -/
theorem flatMap_parts (n : Node) : n.parts.flatMap callerTexts ⊆ n.callerTexts := by
  cases n with
  | expr e => exact flatMap_parts_expr e
  | predicate p => exact flatMap_parts_predicate p
  | branch b =>
    cases b with
    | mk condition value => simp [parts, callerTexts, Branch.callerTexts]
  | orderItem o =>
    cases o with
    | mk key dir nulls => simp [parts, callerTexts, OrderItem.callerTexts]
  | window w =>
    cases w with
    | mk partitionKeys order frame =>
      rw [parts, callerTexts, Window.callerTexts, List.flatMap_append, Expr.callerTextsOfAll_eq,
        OrderItem.callerTextsOfAll_eq]
      exact List.Subset.refl _
  | source s =>
    cases s with
    | table t => simp [parts]
    | query q name => simp [parts, callerTexts, Source.callerTexts]
  | join j =>
    cases j with
    | mk kind target on =>
      rw [parts, callerTexts, Join.callerTexts, List.flatMap_cons,
        Predicate.callerTextsOfOption_eq]
      exact List.Subset.refl _
  | select q => exact flatMap_parts_select q

/-- What is held brings no other texts than its holder. -/
theorem callerTexts_subset_of_holds {n m : Node} (h : n.Holds m) :
    m.callerTexts ⊆ n.callerTexts := by
  induction h with
  | self n => exact List.Subset.refl _
  | part hk _ ih =>
    intro x hx
    exact flatMap_parts _ (List.mem_flatMap.mpr ⟨_, hk, ih hx⟩)

variable {d : Dialect} {admits : String → Prop} {whole : Fragment → Prop} {n : Node}

/-- A node is admitted if its texts are, and if it locks no rows where that is not admitted. -/
theorem admitted_of_callerTexts (h : ∀ x ∈ n.callerTexts, x.Admitted admits whole)
    (hlocks : ∀ q, n = .select q → q.forUpdate → admits " FOR UPDATE") :
    n.Admitted admits whole := by
  cases n with
  | expr e =>
    cases e with
    | raw t => exact h _ List.mem_cons_self
    | call function args distinct => exact h (.function function) List.mem_cons_self
    | _ => trivial
  | predicate p =>
    cases p with
    | raw t => exact h _ List.mem_cons_self
    | _ => trivial
  | select q => exact hlocks q rfl
  | _ => trivial

/-- A node is spaced if the texts of the caller in it are admitted, and locking as far as it holds
locking queries. -/
theorem spaced_of_callerTexts (hd : d.Speaks admits)
    (h : ∀ x ∈ n.callerTexts, x.Admitted admits whole)
    (hlocks : ∀ q, n.Holds (.select q) → q.forUpdate → admits " FOR UPDATE") :
    Spaced admits whole (n.fragment d) := by
  refine n.spaced hd fun m hm => admitted_of_callerTexts (fun x hx => ?_) fun q hq => ?_
  · exact h x (callerTexts_subset_of_holds hm hx)
  · rw [hq] at hm
    exact hlocks q hm

end Node

/-! ### In statements -/

/-- The texts of a statement are those of the nodes in it. -/
theorem Statement.callerTexts_eq (s : Statement) :
    s.callerTexts = s.nodes.flatMap Node.callerTexts := by
  cases s with
  | select q => exact (List.append_nil _).symm
  | insert i => exact Expr.callerTextsOfAll_eq _
  | update u =>
    rw [Statement.callerTexts, Statement.nodes, List.flatMap_append, Expr.callerTextsOfAll_eq,
      Predicate.callerTextsOfOption_eq]
  | delete x => exact Predicate.callerTextsOfOption_eq _

/-- The texts of a batch are those of the values in its rows. -/
theorem Batch.callerTexts_eq (b : Batch) :
    b.callerTexts = b.nodes.flatMap Node.callerTexts := by
  rw [Batch.callerTexts, Batch.nodes, List.flatMap_assoc]
  simp only [Expr.callerTextsOfAll_eq]

/-! ## Statements -/

/-- The conflict clause of a statement. -/
def Statement.conflict : Statement → Option Conflict
  | .insert i => i.conflict
  | .select _ | .update _ | .delete _ => none

/-- The columns that a statement gives back. -/
def Statement.returning : Statement → List ColumnRef
  | .select _ => []
  | .insert i => i.returning
  | .update u => u.returning
  | .delete x => x.returning

/-- The clauses that insertions, updates and deletions may end in are admitted if they are there. -/
structure ClausesAdmitted (d : Dialect) (admits : String → Prop) (whole : Fragment → Prop)
    (conflict : Option Conflict) (returning : List ColumnRef) : Prop where
  upsert : conflict ≠ none → ∀ (target columns : List String) (action : UpsertAction),
    Spaced admits whole (.ofPhrase (d.upsertClause target columns action))
  returning : returning ≠ [] → admits " RETURNING "

/-- An insertion has its words, its tuples and its clauses from left to right. -/
theorem insertion_eq (d : Dialect) (table : Table) (names : List String) (tuples : List Fragment)
    (conflict : Option Conflict) (returning : List ColumnRef) :
    insertion d table names tuples conflict returning =
      ("INSERT INTO " : Piece) :: .word (.name table.name) :: (" (" : Piece) ::
        (Fragment.ofPhrase (.names names) ++ (") VALUES " : Piece) :: (Fragment.comma tuples ++
          (Fragment.ofPhrase (Conflict.clause d names conflict) ++
            Fragment.ofPhrase (Returning.clause returning)))) := by
  simp [insertion, Fragment.concat, Fragment.ofPhrase, Phrase.concat]

section

variable {d : Dialect} {admits : String → Prop} {whole : Fragment → Prop} (hd : d.Speaks admits)
  {conflict : Option Conflict} {returning : List ColumnRef}

include hd

/-- An upsert clause, or none, may stand behind the rows. -/
theorem trailing_conflictClause (h : ClausesAdmitted d admits whole conflict returning)
    (names : List String) :
    Trailing admits whole (.ofPhrase (Conflict.clause d names conflict)) := by
  cases conflict with
  | none => exact trailing_nil
  | some c =>
    have hupsert := h.upsert (Option.some_ne_none c) c.targetNames names (c.upsertAction names)
    exact Fragment.trailing_word hd hupsert (by decide)

/-- The columns given back, or none, may stand behind everything else. -/
theorem trailing_returningClause (h : ClausesAdmitted d admits whole conflict returning) :
    Trailing admits whole (.ofPhrase (Returning.clause returning)) := by
  unfold Returning.clause
  split
  · exact trailing_nil
  · next hsome =>
    have hne : returning ≠ [] := fun hnil => hsome (by rw [hnil]; rfl)
    have hnames : Spaced admits whole (Fragment.ofPhrase (.names (returning.map ColumnRef.name))) :=
      spaced_names hd _
    exact ⟨.text (h.returning hne) (.inl (by decide)) hnames, rfl⟩

/-- A tuple of values is spaced if the values are. -/
theorem spaced_tuple {values : List Expr}
    (h : ∀ e ∈ values, Spaced admits whole (e.fragment d)) :
    Spaced admits whole (tuple d values) := by
  refine (spaced_comma hd (spaced_fragments fun k hk => ?_)).parens hd
  obtain ⟨e, he, rfl⟩ := List.mem_map.mp hk
  exact h e he

/-- An insertion is spaced if its tuples are and the clauses behind them are admitted. -/
theorem spaced_insertion (table : Table) (names : List String) {tuples : List Fragment}
    (h : ∀ f ∈ tuples, Spaced admits whole f)
    (hclauses : ClausesAdmitted d admits whole conflict returning) :
    Spaced admits whole (insertion d table names tuples conflict returning) := by
  have htail := (trailing_conflictClause hd hclauses names).append
    (trailing_returningClause hd hclauses)
  have hvalues := (spaced_comma hd h).appendTrailing htail
  have hcolumns := (spaced_names hd names).then hd hvalues (t := ") VALUES ") (by decide)
  rw [insertion_eq]
  exact Spaced.word hd (.name table.name rfl (hcolumns.word hd (by decide))) (by decide)

/-- What stands at the end of an update or a deletion. -/
theorem trailing_clauses {condition : Option Predicate}
    (h : ∀ k ∈ condition.toList.map Node.predicate, Spaced admits whole (k.fragment d))
    (hclauses : ClausesAdmitted d admits whole conflict returning) :
    Trailing admits whole
      (Predicate.clause d " WHERE " condition ++
        (Fragment.ofPhrase (Returning.clause returning) ++ [])) := by
  have hreturning := (trailing_returningClause hd hclauses).append trailing_nil
  exact (trailing_clause hd h (by decide)).append hreturning

/-- An assignment is spaced if its value is. -/
theorem Update.spaced_assignment {entry : ColumnRef × Expr}
    (h : Spaced admits whole (entry.2.fragment d)) :
    Spaced admits whole (Update.assignment d entry) :=
  .name _ rfl (h.append_nil.word hd (by decide))

/-- A statement is spaced if the nodes in it are and its clauses are admitted. -/
theorem Statement.spaced (s : Statement) (h : ∀ n ∈ s.nodes, Spaced admits whole (n.fragment d))
    (hclauses : ClausesAdmitted d admits whole s.conflict s.returning) :
    Spaced admits whole (s.fragment d) := by
  cases s with
  | select q => exact h _ List.mem_cons_self
  | insert i =>
    have htuple := spaced_tuple hd fun e he => h (.expr e) (List.mem_map_of_mem he)
    refine spaced_insertion hd i.table i.assignments.names ?_ hclauses
    rwa [List.forall_mem_singleton]
  | update u =>
    rw [Statement.nodes, List.forall_mem_append] at h
    have hassignments : Spaced admits whole
        (.comma (u.assignments.entries.map (Update.assignment d))) := by
      refine spaced_comma hd fun f hf => ?_
      obtain ⟨entry, hentry, rfl⟩ := List.mem_map.mp hf
      have hvalue : entry.2 ∈ u.assignments.values := List.mem_map_of_mem hentry
      exact Update.spaced_assignment hd (h.1 (.expr entry.2) (List.mem_map_of_mem hvalue))
    have hset := (hassignments.appendTrailing (trailing_clauses hd h.2 hclauses)).word hd
      (t := " SET ") (by decide)
    exact (spaced_sourcePhrase hd u.table hset rfl).word hd (by decide)
  | delete x =>
    have hclause := trailing_clauses hd h hclauses
    exact (spaced_sourcePhrase hd x.table hclause.spaced hclause.opens).word hd (by decide)

/-- The tuples of a batch are spaced if the nodes in it are. -/
theorem Batch.spaced_of_mem_tuples {b : Batch}
    (h : ∀ n ∈ b.nodes, Spaced admits whole (n.fragment d)) {columns : List ColumnRef}
    {f : Fragment} (hf : f ∈ b.tuples d columns) : Spaced admits whole f := by
  obtain ⟨row, hrow, rfl⟩ := List.mem_map.mp hf
  refine spaced_tuple hd fun e he => h (.expr e) ?_
  obtain ⟨c, _, hc⟩ := List.mem_filterMap.mp he
  have hvalue : e ∈ row.values := Assignments.mem_values_iff.mpr ⟨c, hc⟩
  exact List.mem_flatMap.mpr ⟨row, hrow, List.mem_map_of_mem hvalue⟩

/-- The fragments of a batch are spaced if the nodes in it are. -/
theorem Batch.spaced_of_mem_fragments {b : Batch} {strategy : BatchStrategy} {limit : Option Nat}
    (h : ∀ n ∈ b.nodes, Spaced admits whole (n.fragment d))
    (hclauses : ClausesAdmitted d admits whole b.conflict b.returning) {f : Fragment}
    (hf : f ∈ b.fragments d strategy limit) : Spaced admits whole f := by
  obtain ⟨columns, names, tuples, rfl, htuples⟩ := Batch.exists_of_mem_fragments hf
  exact spaced_insertion hd b.table names
    (fun t ht => Batch.spaced_of_mem_tuples hd h (htuples t ht)) hclauses

end

end BoundSql
