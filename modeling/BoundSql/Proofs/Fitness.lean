import BoundSql.Proofs.Parts
import BoundSql.Proofs.RowByRow

/-!
# Statements that are fit for a dialect

What a dialect asks of a statement, told without a check.  Of every query that the statement has in
it, at whatever depth and whether or not the part it stands in is written: it selects something,
and it locks rows only where they can be locked (`Select.Fit`).  Of the statement itself: it assigns
something, its rows agree in their columns, its conflict clause is one that the dialect has and can
be carried out, and it gives columns back only where that can be done.

Main statement: `builds_iff_fit`.  Exactly the fit statements are built.  Whatever is not built
fails because the statement is malformed or because the dialect lacks something, and never for both
reasons at once.
-/

namespace BoundSql

variable {d : Dialect}

/-! ## Queries -/

/-- A query by itself is fit for a dialect. -/
structure Select.Fit (d : Dialect) (q : Select) : Prop where
  /-- There is something to select. -/
  selects : q.projection ≠ [] ∨ q.source ≠ none
  /-- Rows are locked only where they can be. -/
  locks : q.forUpdate → d.hasForUpdate

/-- A check that fails on a condition and goes on otherwise. -/
theorem ite_error_eq_ok_iff {condition : Prop} [Decidable condition] {e : QueryError}
    {x : Except QueryError Unit} :
    (if condition then .error e else x) = .ok () ↔ ¬condition ∧ x = .ok () := by
  by_cases h : condition <;> simp [h]

/-- The check of a query by itself passes just the queries that fit. -/
theorem Select.checkSelf_eq_ok_iff {q : Select} : q.checkSelf d = .ok () ↔ q.Fit d := by
  have hselects : ¬(q.projection.isEmpty ∧ q.source.isNone) ↔
      q.projection ≠ [] ∨ q.source ≠ none := by
    rw [List.isEmpty_iff, Option.isNone_iff_eq_none]
    exact Decidable.not_and_iff_not_or_not
  have hlocks : ¬(q.forUpdate ∧ ¬d.hasForUpdate) ↔ (q.forUpdate → d.hasForUpdate) :=
    Decidable.not_and_not_right
  rw [Select.checkSelf, ite_error_eq_ok_iff, ite_error_eq_ok_iff, hselects, hlocks]
  constructor
  · rintro ⟨hs, hl, -⟩
    exact ⟨hs, hl⟩
  · rintro ⟨hs, hl⟩
    exact ⟨hs, hl, rfl⟩

/-- All queries that some nodes hold are fit. -/
def Node.AllFit (d : Dialect) (nodes : List Node) : Prop :=
  ∀ n ∈ nodes, ∀ q, n.Holds (.select q) → q.Fit d

/-- Everything in two lists of nodes fits if everything in each does. -/
theorem Node.allFit_append {ns ms : List Node} :
    AllFit d (ns ++ ms) ↔ AllFit d ns ∧ AllFit d ms := List.forall_mem_append

/-- All nodes fit just if the check passes the queries in them. -/
theorem Node.allFit_iff {nodes : List Node} :
    AllFit d nodes ↔ checkAll d (nodes.flatMap queries) = .ok () := by
  rw [checkAll_eq_ok_iff]
  unfold AllFit
  simp only [holds_select_iff, Select.checkSelf_eq_ok_iff, List.mem_flatMap]
  constructor
  · rintro h q ⟨n, hn, hq⟩
    exact h n hn q hq
  · intro h n hn q hq
    exact h q ⟨n, hn, hq⟩

/-- The check of a query passes just if everything in it fits, queries inside others included. -/
theorem Select.check_eq_ok_iff {q : Select} :
    q.check d = .ok () ↔ Node.AllFit d [.select q] := by
  rw [Node.allFit_iff, List.flatMap_singleton]
  rfl

/-! ## Clauses -/

/-- A conflict clause overwrites the column of this name. -/
def Conflict.Overwrites (c : Conflict) (inserted : List String) (name : String) : Prop :=
  match c.action with
  | .keep => False
  | .overwrite columns => ∃ k ∈ columns, k.name = name
  | .overwriteAll => name ∈ inserted ∧ ∀ k ∈ c.target, k.name ≠ name

/-- A conflict clause is fit for a dialect, given the columns that are inserted. -/
structure Conflict.Fit (d : Dialect) (inserted : List String) (c : Conflict) : Prop where
  /-- The dialect has such clauses. -/
  supported : d.hasUpsert
  /-- If rows are overwritten, there is a target where one is needed. -/
  aimed : c.action ≠ .keep → d.upsertNeedsTarget → c.target ≠ []
  /-- If rows are overwritten, some column is. -/
  effective : c.action ≠ .keep → ∃ name, c.Overwrites inserted name

/-- Columns are given back only where that can be done. -/
def Returning.Fit (d : Dialect) (columns : List ColumnRef) : Prop :=
  columns ≠ [] → d.hasReturning

namespace Conflict

variable {c : Conflict} {inserted columns : List String}

/-- What a conflict does by the columns inserted is nothing just where it was to do nothing. -/
theorem upsertAction_eq_keep_iff : c.upsertAction inserted = .keep ↔ c.action = .keep := by
  unfold upsertAction
  split <;> simp_all

/-- The columns that the clause lists are those that it overwrites. -/
theorem mem_columns_iff (h : c.upsertAction inserted = .overwrite columns) (name : String) :
    name ∈ columns ↔ c.Overwrites inserted name := by
  obtain ⟨target, action⟩ := c
  cases action with
  | keep => cases h
  | overwrite ks =>
    cases h
    exact List.mem_map
  | overwriteAll =>
    cases h
    simp [Overwrites, targetNames]

/-- The check of an upsert clause passes just the clauses that fit. -/
theorem check_eq_ok_iff : c.check d inserted = .ok () ↔ c.Fit d inserted := by
  have hkeep : c.upsertAction inserted = .keep ↔ c.action = .keep := upsertAction_eq_keep_iff
  have hsupported : ¬(!d.hasUpsert) = true ↔ d.hasUpsert := by simp
  rw [check, ite_error_eq_ok_iff, hsupported]
  cases haction : c.upsertAction inserted with
  | keep =>
    have hstays := hkeep.mp haction
    constructor
    · rintro ⟨hupsert, -⟩
      exact ⟨hupsert, fun h => absurd hstays h, fun h => absurd hstays h⟩
    · intro h
      exact ⟨h.supported, rfl⟩
  | overwrite columns =>
    have hmoves : c.action ≠ .keep := fun h => by
      rw [hkeep.mpr h] at haction
      cases haction
    have haimed : ¬(c.target.isEmpty && d.upsertNeedsTarget) = true ↔
        (d.upsertNeedsTarget → c.target ≠ []) := by
      rw [Bool.and_eq_true, List.isEmpty_iff]
      exact not_and'
    have heffective : ¬columns.isEmpty = true ↔ ∃ name, c.Overwrites inserted name := by
      simp only [← mem_columns_iff haction]
      rw [Bool.not_eq_true, List.isEmpty_eq_false_iff_exists_mem]
    rw [ite_error_eq_ok_iff, ite_error_eq_ok_iff, haimed, heffective]
    constructor
    · rintro ⟨hupsert, htarget, hsome, -⟩
      exact ⟨hupsert, fun _ => htarget, fun _ => hsome⟩
    · intro h
      exact ⟨h.supported, h.aimed hmoves, h.effective hmoves, rfl⟩

/-- It does so where there may be no clause at all. -/
theorem checkOption_eq_ok_iff {conflict : Option Conflict} :
    checkOption d inserted conflict = .ok () ↔ ∀ c ∈ conflict, c.Fit d inserted := by
  cases conflict with
  | none => simp [checkOption]
  | some c => simp [checkOption, check_eq_ok_iff]

end Conflict

/-- The check of what comes back passes just if the dialect can return columns. -/
theorem Returning.check_eq_ok_iff {columns : List ColumnRef} :
    Returning.check d columns = .ok () ↔ Returning.Fit d columns := by
  unfold Returning.check Returning.Fit
  cases columns with
  | nil => simp
  | cons c columns => cases h : d.hasReturning <;> simp

/-! ## Statements -/

/-- An insertion meets the rules of a dialect. -/
structure Insert.Fit (d : Dialect) (i : Insert) : Prop where
  /-- Something is assigned. -/
  assigns : i.assignments.columns ≠ []
  /-- The conflict clause is fit. -/
  conflict : ∀ c ∈ i.conflict, c.Fit d i.assignments.names
  /-- Columns are given back only where that can be done. -/
  returning : Returning.Fit d i.returning

/-- An update meets the rules of a dialect. -/
structure Update.Fit (d : Dialect) (u : Update) : Prop where
  /-- Something is assigned. -/
  assigns : u.assignments.columns ≠ []
  /-- Columns are given back only where that can be done. -/
  returning : Returning.Fit d u.returning

/-- A statement meets the rules for its kind.  A query has none beyond what is asked of every
query. -/
def Statement.Fit (d : Dialect) : Statement → Prop
  | .select _ => True
  | .insert i => i.Fit d
  | .update u => u.Fit d
  | .delete x => Returning.Fit d x.returning

/-- A batch meets the rules of a dialect. -/
structure Batch.Fit (d : Dialect) (b : Batch) : Prop where
  /-- In every row something is assigned. -/
  assigns : ∀ row ∈ b.rows, row.columns ≠ []
  /-- All rows assign the same columns. -/
  agree : ∀ row ∈ b.rows, ∀ other ∈ b.rows, ∀ c, c ∈ row.columns ↔ c ∈ other.columns
  /-- The conflict clause is fit for each row. -/
  conflict : ∀ row ∈ b.rows, ∀ c ∈ b.conflict, c.Fit d row.names
  /-- Columns are given back only where that can be done. -/
  returning : Returning.Fit d b.returning

/-! ### Checked statements are fit -/

/-- Assignments pass their check just if everything in their values fits. -/
theorem Assignments.check_eq_ok_iff_allFit {as : Assignments} :
    as.check d = .ok () ↔ Node.AllFit d (as.values.map .expr) := by
  rw [Node.allFit_iff, List.flatMap_map, Assignments.check, Expr.queriesOfAll_eq]
  rfl

/-- A condition passes its check just if everything in it fits, and so does its absence. -/
theorem Predicate.checkOption_eq_ok_iff {p : Option Predicate} :
    Predicate.checkOption d p = .ok () ↔ Node.AllFit d (p.toList.map .predicate) := by
  rw [Node.allFit_iff, List.flatMap_map, Predicate.checkOption, Predicate.queriesOfOption_eq]
  rfl

/-- Something is assigned just if columns are. -/
theorem Assignments.isEmpty_eq_false_iff_ne_nil {as : Assignments} :
    as.isEmpty = false ↔ as.columns ≠ [] := by
  rw [Assignments.isEmpty_eq_false_iff, ← List.isEmpty_eq_false_iff_exists_mem,
    List.isEmpty_eq_false_iff]

/-- An insert passes its check just if its values and its clauses fit. -/
theorem Insert.check_eq_ok_iff_fit {i : Insert} :
    i.check d = .ok () ↔ Node.AllFit d (i.assignments.values.map .expr) ∧ i.Fit d := by
  rw [Insert.check_eq_ok_iff, Assignments.isEmpty_eq_false_iff_ne_nil,
    Assignments.check_eq_ok_iff_allFit, Conflict.checkOption_eq_ok_iff, Returning.check_eq_ok_iff]
  constructor
  · rintro ⟨hassigns, hvalues, hconflict, hreturning⟩
    exact ⟨hvalues, hassigns, hconflict, hreturning⟩
  · rintro ⟨hvalues, hassigns, hconflict, hreturning⟩
    exact ⟨hassigns, hvalues, hconflict, hreturning⟩

/-- An update passes its check just if its values, its condition and its clauses fit. -/
theorem Update.check_eq_ok_iff_fit {u : Update} :
    u.check d = .ok () ↔ Node.AllFit d (Statement.update u).nodes ∧ u.Fit d := by
  have h : u.check d = ((if u.assignments.isEmpty then throw (.emptyAssignments .update)
      else pure ()) >>= fun _ => u.assignments.check d >>= fun _ =>
        Predicate.checkOption d u.condition >>= fun _ => Returning.check d u.returning) := by
    rw [Update.check]
    split <;> rfl
  rw [h, throwIf_eq_ok_iff, andThen_eq_ok_iff, andThen_eq_ok_iff,
    Assignments.isEmpty_eq_false_iff_ne_nil, Assignments.check_eq_ok_iff_allFit,
    Predicate.checkOption_eq_ok_iff, Returning.check_eq_ok_iff, Statement.nodes,
    Node.allFit_append]
  constructor
  · rintro ⟨hassigns, hvalues, hcondition, hreturning⟩
    exact ⟨⟨hvalues, hcondition⟩, hassigns, hreturning⟩
  · rintro ⟨⟨hvalues, hcondition⟩, hassigns, hreturning⟩
    exact ⟨hassigns, hvalues, hcondition, hreturning⟩

/-- A statement passes its check exactly if it is fit. -/
theorem Statement.check_eq_ok_iff_fit {s : Statement} :
    s.check d = .ok () ↔ Node.AllFit d s.nodes ∧ s.Fit d := by
  cases s with
  | select q => exact Select.check_eq_ok_iff.trans (and_iff_left trivial).symm
  | insert i => exact Insert.check_eq_ok_iff_fit
  | update u => exact Update.check_eq_ok_iff_fit
  | delete x =>
    show (Predicate.checkOption d x.condition >>= fun _ => Returning.check d x.returning) =
      .ok () ↔ _
    rw [andThen_eq_ok_iff, Predicate.checkOption_eq_ok_iff, Returning.check_eq_ok_iff]
    rfl

/-- A batch with a row passes its check exactly if it is fit. -/
theorem Batch.check_eq_ok_iff_fit {b : Batch} (hrows : b.rows ≠ []) :
    b.check d = .ok () ↔ Node.AllFit d b.nodes ∧ b.Fit d := by
  obtain ⟨first, rest, hcons⟩ := List.exists_cons_of_ne_nil hrows
  have hfirst : first ∈ b.rows := by
    rw [hcons]
    exact List.mem_cons_self
  have hnodes : Node.AllFit d b.nodes ↔
      ∀ row ∈ b.rows, Node.AllFit d (row.values.map .expr) := by
    unfold Node.AllFit Batch.nodes
    simp only [List.mem_flatMap]
    exact ⟨fun h row hrow n hn => h n ⟨row, hrow, hn⟩, fun h n ⟨row, hrow, hn⟩ => h row hrow n hn⟩
  rw [check_eq_ok_iff_insertOf hcons, hnodes]
  simp only [Insert.check_eq_ok_iff_fit]
  constructor
  · intro h
    refine ⟨fun row hrow => (h row hrow).2.1, ?_, ?_, ?_, (h first hfirst).2.2.returning⟩
    · exact fun row hrow => (h row hrow).2.2.assigns
    · exact fun row hrow other hother c =>
        ((h row hrow).1 c).trans ((h other hother).1 c).symm
    · exact fun row hrow => (h row hrow).2.2.conflict
  · rintro ⟨hvalues, hfit⟩ row hrow
    exact ⟨hfit.agree row hrow first hfirst, hvalues row hrow, hfit.assigns row hrow,
      hfit.conflict row hrow, hfit.returning⟩

/-! ## Why a check fails -/

/-- If this fails, then either the statement is at fault or the dialect is. -/
def BlamesOne {α : Type} (x : Except QueryError α) : Prop :=
  ∀ e, x = .error e → e.isStructural ≠ e.isUnsupported

namespace BlamesOne

variable {α β : Type} {x y : Except QueryError α} {f : α → Except QueryError β} {e : QueryError}

/-- A success blames nothing. -/
theorem ok (a : α) : BlamesOne (.ok a) := fun _ h => by cases h

/-- An error blames one thing if it is of one of the two classes and not of both. -/
theorem error (h : e.isStructural ≠ e.isUnsupported) : BlamesOne (.error e : Except _ α) := by
  intro e' he
  cases he
  exact h

/-- A feature the dialect lacks is to blame on the dialect alone. -/
theorem unsupported (feature : Feature) (dialect : String) :
    BlamesOne (.error (.unsupported feature dialect) : Except _ α) := error nofun

/-- A fault of the statement is to blame on the statement alone. -/
theorem invalidStatement (fault : Fault) :
    BlamesOne (.error (.invalidStatement fault) : Except _ α) := error nofun

/-- Checks in a row blame one thing if each of them does, for the first to fail is the last to run.
-/
theorem bind (hx : BlamesOne x) (hf : ∀ a, BlamesOne (f a)) : BlamesOne (x >>= f) := by
  cases x with
  | error e => exact error (hx e rfl)
  | ok a => exact hf a

/-- A check by cases blames one thing if both cases do. -/
theorem ite {condition : Prop} [Decidable condition] (hx : BlamesOne x) (hy : BlamesOne y) :
    BlamesOne (if condition then x else y) := by
  split
  · exact hx
  · exact hy

/-- A check of queries blames one thing. -/
theorem queries (d : Dialect) (qs : List Select) : BlamesOne (checkAll d qs) := by
  induction qs with
  | nil => exact ok ()
  | cons q qs ih =>
    have hself : BlamesOne (q.checkSelf d) :=
      ite (invalidStatement _) (ite (unsupported _ _) (ok ()))
    exact hself.bind fun _ => ih

/-- A check of an upsert clause blames one thing. -/
theorem conflict (d : Dialect) (inserted : List String) (c : Option Conflict) :
    BlamesOne (Conflict.checkOption d inserted c) := by
  cases c with
  | none => exact ok ()
  | some c =>
    refine ite (unsupported _ _) ?_
    cases c.upsertAction inserted with
    | keep => exact ok ()
    | overwrite columns =>
      exact ite (invalidStatement _) (ite (invalidStatement _) (ok ()))

/-- A check of what comes back blames one thing. -/
theorem returning (d : Dialect) (columns : List ColumnRef) :
    BlamesOne (Returning.check d columns) := ite (unsupported _ _) (ok ())

/-- Whatever is behind it: no columns are assigned. -/
theorem assigned (as : Assignments) (kind : StatementKind) (hx : BlamesOne x) :
    BlamesOne (if as.isEmpty then .error (.emptyAssignments kind) else x) :=
  ite (error nofun) hx

/-- **A check of a statement blames one thing.** -/
theorem statement (s : Statement) (d : Dialect) : BlamesOne (s.check d) := by
  cases s with
  | select q => exact queries d _
  | insert i =>
    have hrest : BlamesOne (i.assignments.check d >>= fun _ =>
        Conflict.checkOption d i.assignments.names i.conflict >>= fun _ =>
          Returning.check d i.returning) :=
      (queries d _).bind fun _ => (conflict d _ _).bind fun _ => returning d _
    exact assigned i.assignments .insert hrest
  | update u =>
    have hrest : BlamesOne (u.assignments.check d >>= fun _ =>
        Predicate.checkOption d u.condition >>= fun _ => Returning.check d u.returning) :=
      (queries d _).bind fun _ => (queries d _).bind fun _ => returning d _
    exact assigned u.assignments .update hrest
  | delete x => exact (queries d _).bind fun _ => returning d _

/-- A comparison of the columns of rows blames one thing. -/
theorem columns (first : Assignments) (index : Nat) (rows : List Assignments) :
    BlamesOne (Batch.checkColumns first index rows) := by
  induction rows generalizing index with
  | nil => exact ok ()
  | cons row rows ih => exact ite (ih (index + 1)) (error nofun)

/-- A check of the values of rows blames one thing. -/
theorem rows (d : Dialect) (rows : List Assignments) : BlamesOne (Batch.checkRows d rows) := by
  induction rows with
  | nil => exact ok ()
  | cons row rows ih => exact (queries d _).bind fun _ => ih

/-- **A check of a batch blames one thing.** -/
theorem batch (b : Batch) (d : Dialect) : BlamesOne (b.check d) := by
  rw [Batch.check]
  split
  · exact ok ()
  · next first rest hrows =>
    have hrest : BlamesOne (Batch.checkColumns first 1 rest >>= fun _ =>
        Batch.checkRows d b.rows >>= fun _ =>
          Conflict.checkOption d first.names b.conflict >>= fun _ =>
            Returning.check d b.returning) :=
      (columns first 1 rest).bind fun _ => (rows d _).bind fun _ =>
        (conflict d _ _).bind fun _ => returning d _
    exact assigned first .insert hrest

end BlamesOne

/-! ## What is built -/

/-- A statement is written just if its check passes. -/
theorem Statement.exists_build_iff {s : Statement} :
    (∃ p, s.build d = .ok p) ↔ s.check d = .ok () := by
  simp only [Statement.build_eq_ok_iff]
  constructor
  · rintro ⟨_, h, _⟩
    exact h
  · intro h
    exact ⟨_, h, rfl⟩

/-- A batch with rows is written just if its check passes, whatever the strategy and the limit. -/
theorem Batch.exists_buildWith_iff {b : Batch} {strategy : BatchStrategy} {limit : Option Nat}
    (hrows : b.rows ≠ []) :
    (∃ ps, b.buildWith d strategy limit = .ok ps) ↔ b.check d = .ok () := by
  obtain ⟨first, rest, hcons⟩ := List.exists_cons_of_ne_nil hrows
  simp only [Batch.buildWith_eq_ok_iff]
  constructor
  · rintro ⟨_, spans, h, _⟩
    exact Batch.check_eq_ok_of_buildSpans h
  · intro h
    exact ⟨_, _, Batch.buildSpans_of_check_eq_ok hcons h, rfl⟩

/-- **Exactly what is fit is built.**  A statement is built if every query in it is fit for the
dialect, whether or not the part it stands in is written, and the statement itself meets the rules
for its kind; and only then.  The same holds of a batch with a row, however it is cut.  Whatever is
not built has one thing said against it: that it is malformed, or that the dialect lacks a
feature. -/
theorem builds_iff_fit (d : Dialect) :
    (∀ s : Statement,
      ((∃ p, s.build d = .ok p) ↔
        (∀ n ∈ s.nodes, ∀ q, n.Holds (.select q) → q.Fit d) ∧ s.Fit d) ∧
      ∀ e, s.build d = .error e → e.isStructural ≠ e.isUnsupported) ∧
    ∀ b : Batch, b.rows ≠ [] → ∀ (strategy : BatchStrategy) (limit : Option Nat),
      ((∃ ps, b.buildWith d strategy limit = .ok ps) ↔
        (∀ n ∈ b.nodes, ∀ q, n.Holds (.select q) → q.Fit d) ∧ b.Fit d) ∧
      ∀ e, b.buildWith d strategy limit = .error e → e.isStructural ≠ e.isUnsupported := by
  constructor
  · intro s
    refine ⟨Statement.exists_build_iff.trans Statement.check_eq_ok_iff_fit, ?_⟩
    have hbuild : BlamesOne (s.build d) :=
      (BlamesOne.statement s d).bind fun _ => .ok _
    exact hbuild
  · intro b hrows strategy limit
    refine ⟨(Batch.exists_buildWith_iff hrows).trans (Batch.check_eq_ok_iff_fit hrows), ?_⟩
    have hspans : BlamesOne (b.buildSpans d strategy limit) := by
      refine (BlamesOne.batch b d).bind fun _ => ?_
      split
      · exact .ok _
      · exact .ok _
    have hbuild : BlamesOne (b.buildWith d strategy limit) := hspans.bind fun _ => .ok _
    exact hbuild

/-- A query that locks rows. -/
def lockingQuery : Select := { source := some (.table { name := "u" }), forUpdate := true }

/-- A row with a locking query that is never written: it is looked for in an empty list. -/
def unwrittenLock : Batch where
  table := { name := "t" }
  rows := [⟨[(⟨"t", "n"⟩, .truth (.inList (.subquery lockingQuery) [] false))], by decide⟩]

/-- A batch whose values ask for a lock is written for MySQL, and never for SQLite. -/
theorem builds_iff_fit_unwrittenLock :
    unwrittenLock.rows ≠ [] ∧ (∃ ps, unwrittenLock.buildWith .mysql .multiRow none = .ok ps) ∧
      ¬∃ ps, unwrittenLock.buildWith .sqlite .multiRow none = .ok ps := by
  have hrows : unwrittenLock.rows ≠ [] := by simp [unwrittenLock]
  have hcheck : unwrittenLock.check .mysql = .ok () := rfl
  obtain ⟨hqueries, hfit⟩ := (Batch.check_eq_ok_iff_fit hrows).mp hcheck
  refine ⟨hrows, ((builds_iff_fit .mysql).2 _ hrows _ _).1.mpr ⟨hqueries, hfit⟩, fun h => ?_⟩
  obtain ⟨hqueries, -⟩ := ((builds_iff_fit .sqlite).2 _ hrows _ _).1.mp h
  have hlock := hqueries _ List.mem_cons_self lockingQuery (Node.holds_select_iff.mpr (by
    simp [Node.queries, Expr.queries, Predicate.queries, lockingQuery, Select.queries]))
  exact absurd (hlock.locks rfl) (by decide)

end BoundSql
