import BoundSql.Proofs.Checks
import BoundSql.Proofs.MultiRow
import BoundSql.Proofs.Parts
import BoundSql.Proofs.Relabeling

/-!
# Relabeled statements and batches

A relabeled statement passes its check exactly if the statement does, with the same error
otherwise, and its fragment is the relabeled fragment (`Statement.build_relabel`).  A relabeled
batch is rejected for the same reason, only that a row which assigns other columns than the first
one is reported with the new names; otherwise it is cut in the same places, and each span becomes
the relabeled fragment (`Batch.buildSpans_relabel`).

Of a dialect this asks one thing: the upsert clause, which is given names and nothing else, puts
them into places that do not depend on them (`Dialect.Relabels`).
-/

namespace BoundSql

variable {m : Relabeling} {d : Dialect}

/-! ## Queries that are contained -/

/-- A node with its names and values replaced. -/
def Node.relabel (m : Relabeling) : Node → Node
  | expr e => expr (e.relabel m)
  | predicate p => predicate (p.relabel m)
  | branch b => branch (b.relabel m)
  | orderItem o => orderItem (o.relabel m)
  | window w => window (w.relabel m)
  | source s => source (s.relabel m)
  | join j => join (j.relabel m)
  | select q => select (q.relabel m)

namespace Node

/-- The parts of a relabeled expression are its parts relabeled. -/
theorem parts_relabel_expr (e : Expr) : (e.relabel m).parts = e.parts.map (relabel m) := by
  cases e with
  | call function args distinct | coalesce args =>
    simp [Expr.relabel, Expr.parts, Expr.relabelAll_eq, relabel]
  | case branches otherwise =>
    simp [Expr.relabel, Expr.parts, Branch.relabelAll_eq, Expr.relabelOption_eq, Option.toList_map,
      Function.comp_def, relabel]
  | _ => rfl

/-- The parts of a relabeled condition are its parts relabeled. -/
theorem parts_relabel_predicate (p : Predicate) :
    (p.relabel m).parts = p.parts.map (relabel m) := by
  cases p with
  | inList e values negated =>
    simp [Predicate.relabel, Predicate.parts, Expr.relabelAll_eq, relabel]
  | conj ps | disj ps =>
    simp [Predicate.relabel, Predicate.parts, Predicate.relabelAll_eq, relabel]
  | _ => rfl

/-- The parts of a relabeled query are its parts relabeled, clause by clause. -/
theorem parts_relabel_select (q : Select) : (q.relabel m).parts = q.parts.map (relabel m) := by
  obtain ⟨distinct, projection, source, joins, condition, groups, having, order, limit, offset,
    forUpdate⟩ := q
  simp [Select.relabel, Select.parts, Expr.relabelAll_eq, Source.relabelOption_eq,
    Join.relabelAll_eq, Predicate.relabelOption_eq, OrderItem.relabelAll_eq, Option.toList_map,
    Function.comp_def, relabel]

/-- The parts of a relabeled node are the relabeled parts. -/
theorem parts_relabel (n : Node) : (n.relabel m).parts = n.parts.map (relabel m) := by
  cases n with
  | expr e => exact parts_relabel_expr e
  | predicate p => exact parts_relabel_predicate p
  | branch b =>
    obtain ⟨condition, value⟩ := b
    rfl
  | orderItem o =>
    obtain ⟨key, dir, nulls⟩ := o
    rfl
  | window w =>
    obtain ⟨partitionKeys, order, frame⟩ := w
    simp [relabel, parts, Window.relabel, Expr.relabelAll_eq, OrderItem.relabelAll_eq,
      Function.comp_def]
  | source s =>
    rcases s with t | ⟨q, name⟩ <;> rfl
  | join j =>
    obtain ⟨kind, target, on⟩ := j
    simp [relabel, parts, Join.relabel, Predicate.relabelOption_eq, Option.toList_map]
  | select q => exact parts_relabel_select q

/-- A relabeled node contains the relabeled queries. -/
theorem queries_relabel (n : Node) : (n.relabel m).queries = n.queries.map (Select.relabel m) := by
  have hown : (n.relabel m).own = n.own.map (Select.relabel m) := by
    cases n <;> rfl
  have hparts : ∀ k ∈ n.parts, (k.relabel m).queries = k.queries.map (Select.relabel m) := by
    intro k hk
    have := sizeOf_lt_of_mem_parts hk
    exact k.queries_relabel
  rw [queries_eq, queries_eq, parts_relabel, hown, List.map_append, List.flatMap_map,
    List.map_flatMap]
  exact congrArg _ (List.flatMap_congr hparts)
termination_by sizeOf n

end Node

/-- What a query is checked for by itself is a matter of which clauses it has. -/
theorem Select.checkSelf_relabel (q : Select) : (q.relabel m).checkSelf d = q.checkSelf d := by
  obtain ⟨distinct, projection, source, joins, condition, groups, having, order, limit, offset,
    forUpdate⟩ := q
  have hprojection : (Expr.relabelAll m projection).isEmpty = projection.isEmpty := by
    rw [Expr.relabelAll_eq, List.isEmpty_map]
  have hsource : (Source.relabelOption m source).isNone = source.isNone := by
    rw [Source.relabelOption_eq, Option.isNone_map]
  unfold Select.relabel Select.checkSelf
  rw [hprojection, hsource]

/-- Queries pass their checks before and after, and the first one to fail is the same. -/
theorem checkAll_relabel (qs : List Select) :
    checkAll d (qs.map (Select.relabel m)) = checkAll d qs := by
  induction qs with
  | nil => rfl
  | cons q qs ih => rw [List.map_cons, checkAll, checkAll, q.checkSelf_relabel, ih]

/-- A query passes its check before and after, the queries in it included. -/
theorem Select.check_relabel (q : Select) : (q.relabel m).check d = q.check d := by
  have hqueries : (q.relabel m).queries = q.queries.map (Select.relabel m) :=
    (Node.select q).queries_relabel
  rw [Select.check, Select.check, hqueries, checkAll_relabel]

/-- The same for a condition that may be missing. -/
theorem Predicate.checkOption_relabel (p : Option Predicate) :
    Predicate.checkOption d (Predicate.relabelOption m p) = Predicate.checkOption d p := by
  have hqueries : Predicate.queriesOfOption (Predicate.relabelOption m p) =
      (Predicate.queriesOfOption p).map (Select.relabel m) := by
    rcases p with _ | p
    · rfl
    · exact (Node.predicate p).queries_relabel
  rw [Predicate.checkOption, Predicate.checkOption, hqueries, checkAll_relabel]

/-! ## Assignments -/

namespace Assignments

variable (as : Assignments)

/-- The columns that are set are the relabeled ones, in the same order. -/
theorem columns_relabel : (as.relabel m).columns = as.columns.map (ColumnRef.relabel m) :=
  map_fst_relabelEntry m as.entries

/-- The names that are set are the new names, in the same order. -/
theorem names_relabel : (as.relabel m).names = as.names.map m.name := by
  rw [names, names, relabel, List.map_map, List.map_map]
  rfl

/-- The expressions that are assigned are the relabeled ones, in the same order. -/
theorem values_relabel : (as.relabel m).values = as.values.map (Expr.relabel m) := by
  rw [values, values, relabel, List.map_map, List.map_map]
  rfl

/-- Something is set before and after, or nothing is. -/
theorem isEmpty_relabel : (as.relabel m).isEmpty = as.isEmpty := List.isEmpty_map

/-- As many columns are set as before. -/
theorem size_relabel : (as.relabel m).size = as.size := List.length_map _

/-- Under a new name is found what was found under the old one. -/
theorem get?_relabel (c : ColumnRef) :
    (as.relabel m).get? (c.relabel m) = (as.get? c).map (Expr.relabel m) := by
  have hkey : ((fun entry : ColumnRef × Expr => entry.1 == c.relabel m) ∘ relabelEntry m) =
      fun entry : ColumnRef × Expr => entry.1 == c := by
    funext entry
    show (entry.1.relabel m == c.relabel m) = (entry.1 == c)
    rw [Bool.eq_iff_iff, beq_iff_eq, beq_iff_eq, (ColumnRef.relabel_injective m).eq_iff]
  rw [get?, get?, relabel, List.find?_map, hkey, Option.map_map, Option.map_map]
  rfl

/-- The expressions that are assigned pass their checks before and after. -/
theorem check_relabel : (as.relabel m).check d = as.check d := by
  have hqueries : Expr.queriesOfAll (as.values.map (Expr.relabel m)) =
      (Expr.queriesOfAll as.values).map (Select.relabel m) := by
    rw [Expr.queriesOfAll_eq, Expr.queriesOfAll_eq, List.flatMap_map, List.map_flatMap]
    exact List.flatMap_congr fun e _ => (Node.expr e).queries_relabel
  rw [check, check, values_relabel, hqueries, checkAll_relabel]

end Assignments

/-! ## Clauses -/

/-- The upsert clause has names where it was given them, whatever they are. -/
def Dialect.Relabels (d : Dialect) (m : Relabeling) : Prop :=
  ∀ (target columns : List String) (action : UpsertAction),
    d.upsertClause (target.map m.name) (columns.map m.name) (action.relabel m) =
      (d.upsertClause target columns action).relabel m

/-- The names of relabeled columns are the new names. -/
theorem map_name_relabel (cs : List ColumnRef) :
    (cs.map (ColumnRef.relabel m)).map ColumnRef.name = (cs.map ColumnRef.name).map m.name := by
  rw [List.map_map, List.map_map]
  rfl

namespace Conflict

variable (c : Conflict) (inserted : List String)

/-- The names in the target of a conflict are the new names. -/
theorem targetNames_relabel : (c.relabel m).targetNames = c.targetNames.map m.name :=
  map_name_relabel c.target

/-- Here names are compared: all inserted columns are overwritten, except those of the target. -/
theorem upsertAction_relabel :
    (c.relabel m).upsertAction (inserted.map m.name) = (c.upsertAction inserted).relabel m := by
  obtain ⟨target, action⟩ := c
  rcases action with _ | columns | _
  · rfl
  · exact congrArg UpsertAction.overwrite (map_name_relabel columns)
  · have hkeep : ((fun n => !((targetNames ⟨target, .overwriteAll⟩).map m.name).contains n) ∘
        m.name) = fun n => !(targetNames ⟨target, .overwriteAll⟩).contains n := by
      funext n
      show (!((targetNames ⟨target, .overwriteAll⟩).map m.name).contains (m.name n)) = _
      rw [Bool.not_inj_iff, Bool.eq_iff_iff, List.contains_iff_mem, List.contains_iff_mem,
        List.mem_map_of_injective m.injective]
    show UpsertAction.overwrite _ = UpsertAction.overwrite _
    rw [targetNames_relabel, List.filter_map, hkeep]

/-- A conflict passes its check before and after, if what is inserted gets its new names too. -/
theorem check_relabel : (c.relabel m).check d (inserted.map m.name) = c.check d inserted := by
  have htarget : (c.relabel m).target.isEmpty = c.target.isEmpty := List.isEmpty_map
  unfold Conflict.check
  rw [upsertAction_relabel, htarget]
  rcases c.upsertAction inserted with _ | columns
  · rfl
  · simp only [UpsertAction.relabel, List.isEmpty_map]

/-- The same for a conflict that may be missing. -/
theorem checkOption_relabel (conflict : Option Conflict) :
    checkOption d (inserted.map m.name) (conflict.map (Conflict.relabel m)) =
      checkOption d inserted conflict := by
  rcases conflict with _ | c
  · rfl
  · exact c.check_relabel inserted

/-- The clause of a relabeled conflict is the relabeled clause, and none stays none. -/
theorem clause_relabel (hd : d.Relabels m) (conflict : Option Conflict) :
    clause d (inserted.map m.name) (conflict.map (Conflict.relabel m)) =
      (clause d inserted conflict).relabel m := by
  rcases conflict with _ | c
  · rfl
  · rw [Option.map_some, clause, clause, targetNames_relabel, upsertAction_relabel, hd]
    rfl

end Conflict

namespace Returning

variable (columns : List ColumnRef)

/-- Whether columns can be given back does not depend on which. -/
theorem check_relabel : check d (columns.map (ColumnRef.relabel m)) = check d columns := by
  unfold check
  rw [List.isEmpty_map]

/-- The clause of relabeled columns to give back is the relabeled clause. -/
theorem clause_relabel :
    clause (columns.map (ColumnRef.relabel m)) = (clause columns).relabel m := by
  unfold clause
  rw [List.isEmpty_map, map_name_relabel]
  split
  · rfl
  · rw [← Phrase.relabel_names]
    rfl

end Returning

/-! ## Statements -/

/-- The tuple of relabeled values is the relabeled tuple. -/
theorem tuple_relabel (values : List Expr) :
    tuple d (values.map (Expr.relabel m)) = (tuple d values).relabel m := by
  rw [tuple, tuple, ← Expr.relabelAll_eq, Expr.fragments_relabel, Fragment.relabel_parens,
    Fragment.relabel_comma]

/-- An insertion of relabeled rows is the relabeled insertion. -/
theorem insertion_relabel (hd : d.Relabels m) (table : Table) (names : List String)
    (tuples : List Fragment) (conflict : Option Conflict) (returning : List ColumnRef) :
    insertion d (table.relabel m) (names.map m.name) (tuples.map (Fragment.relabel m))
        (conflict.map (Conflict.relabel m)) (returning.map (ColumnRef.relabel m)) =
      (insertion d table names tuples conflict returning).relabel m := by
  have hopening : Phrase.relabel m
      (.concat [["INSERT INTO ", .name table.name, " ("], .names names, [") VALUES "]]) =
      .concat [["INSERT INTO ", .name (m.name table.name), " ("], .names (names.map m.name),
        [") VALUES "]] := by
    rw [Phrase.relabel_concat, List.map_cons, List.map_cons, Phrase.relabel_names]
    rfl
  simp only [insertion, Conflict.clause_relabel names hd, Returning.clause_relabel,
    Fragment.relabel_concat, List.map_cons, List.map_nil, Fragment.relabel_ofPhrase, hopening,
    Fragment.relabel_comma, Table.relabel]

/-- An insertion passes its check before and after. -/
theorem Insert.check_relabel (i : Insert) : (i.relabel m).check d = i.check d := by
  simp only [Insert.check, Insert.relabel, Assignments.isEmpty_relabel, Assignments.check_relabel,
    Assignments.names_relabel, Conflict.checkOption_relabel, Returning.check_relabel]

/-- A relabeled insertion is written as its fragment, relabeled. -/
theorem Insert.fragment_relabel (hd : d.Relabels m) (i : Insert) :
    (i.relabel m).fragment d = (i.fragment d).relabel m := by
  rw [Insert.fragment, Insert.fragment, ← insertion_relabel hd, List.map_singleton,
    ← tuple_relabel, ← Assignments.names_relabel, ← Assignments.values_relabel]
  rfl

/-- An update passes its check before and after. -/
theorem Update.check_relabel (u : Update) : (u.relabel m).check d = u.check d := by
  simp only [Update.check, Update.relabel, Assignments.isEmpty_relabel, Assignments.check_relabel,
    Predicate.checkOption_relabel, Returning.check_relabel]

/-- A relabeled assignment is written as its fragment, relabeled. -/
theorem Update.assignment_relabel (entry : ColumnRef × Expr) :
    Update.assignment d (Assignments.relabelEntry m entry) =
      (Update.assignment d entry).relabel m := by
  obtain ⟨c, e⟩ := entry
  simp [Update.assignment, Assignments.relabelEntry, Fragment.name, ColumnRef.relabel,
    e.fragment_relabel]

/-- A relabeled update is written as its fragment, relabeled. -/
theorem Update.fragment_relabel (u : Update) :
    (u.relabel m).fragment d = (u.fragment d).relabel m := by
  have hset : (u.assignments.entries.map (Assignments.relabelEntry m)).map (Update.assignment d) =
      (u.assignments.entries.map (Update.assignment d)).map (Fragment.relabel m) := by
    rw [List.map_map, List.map_map]
    exact List.map_congr_left fun entry _ => Update.assignment_relabel entry
  simp only [Update.fragment, Update.relabel, Assignments.relabel, hset, Table.sourcePhrase_relabel,
    Predicate.clause_relabel, Returning.clause_relabel, Fragment.relabel_concat, List.map_cons,
    List.map_nil, Fragment.relabel_verbatim, Fragment.relabel_nil, Fragment.relabel_ofPhrase,
    Fragment.relabel_comma]

/-- A deletion passes its check before and after. -/
theorem Delete.check_relabel (x : Delete) : (x.relabel m).check d = x.check d := by
  simp only [Delete.check, Delete.relabel, Predicate.checkOption_relabel, Returning.check_relabel]

/-- A relabeled deletion is written as its fragment, relabeled. -/
theorem Delete.fragment_relabel (x : Delete) :
    (x.relabel m).fragment d = (x.fragment d).relabel m := by
  simp only [Delete.fragment, Delete.relabel, Table.sourcePhrase_relabel, Predicate.clause_relabel,
    Returning.clause_relabel, Fragment.relabel_concat, List.map_cons, List.map_nil,
    Fragment.relabel_verbatim, Fragment.relabel_nil, Fragment.relabel_ofPhrase]

/-- A statement passes its check before and after. -/
theorem Statement.check_relabel (s : Statement) : (s.relabel m).check d = s.check d := by
  cases s with
  | select q => exact q.check_relabel
  | insert i => exact i.check_relabel
  | update u => exact u.check_relabel
  | delete x => exact x.check_relabel

/-- The fragment of a relabeled statement, for a dialect whose clauses only write the names that
they get. -/
theorem Statement.fragment_relabel (hd : d.Relabels m) (s : Statement) :
    (s.relabel m).fragment d = (s.fragment d).relabel m := by
  cases s with
  | select q => exact q.fragment_relabel d
  | insert i => exact i.fragment_relabel hd
  | update u => exact u.fragment_relabel
  | delete x => exact x.fragment_relabel

/-- A statement is checked and then written, and writing does not fail. -/
theorem Statement.build_eq_map (s : Statement) :
    s.build d = (s.check d).map fun _ => (s.fragment d).prepare d := by
  rw [Statement.build]
  cases s.check d <;> rfl

/-- A relabeled statement is built from the relabeled fragment. -/
theorem Statement.build_relabel (hd : d.Relabels m) (s : Statement) :
    (s.relabel m).build d = (s.check d).map fun _ => ((s.fragment d).relabel m).prepare d := by
  rw [Statement.build_eq_map, s.check_relabel, s.fragment_relabel hd]

/-! ## Errors without names

Rows that assign other columns than the first one are reported with names.  No other check does
that, so the errors of the others are not changed by a relabeling. -/

section

variable (m)

/-- Errors of two checks in a row are renamed in each of the two. -/
theorem mapError_bind (f : QueryError → QueryError) (x y : Except QueryError Unit) :
    (x >>= fun _ => y).mapError f = x.mapError f >>= fun _ => y.mapError f := by
  cases x <;> rfl

/-- A check that looks at a condition first has the errors of its branches. -/
theorem mapError_ite {condition : Prop} [Decidable condition] {x y : Except QueryError Unit}
    (hx : x.mapError (QueryError.relabel m) = x) (hy : y.mapError (QueryError.relabel m) = y) :
    (if condition then x else y).mapError (QueryError.relabel m) =
      if condition then x else y := by
  split
  · exact hx
  · exact hy

/-- No error of a query has a name in it. -/
theorem mapError_checkAll (qs : List Select) :
    (checkAll d qs).mapError (QueryError.relabel m) = checkAll d qs := by
  have hself (q : Select) : (q.checkSelf d).mapError (QueryError.relabel m) = q.checkSelf d :=
    mapError_ite m rfl (mapError_ite m rfl rfl)
  induction qs with
  | nil => rfl
  | cons q qs ih => rw [checkAll, mapError_bind, hself, ih]

/-- No error of a conflict has a name in it. -/
theorem mapError_checkOption (names : List String) (conflict : Option Conflict) :
    (Conflict.checkOption d names conflict).mapError (QueryError.relabel m) =
      Conflict.checkOption d names conflict := by
  rcases conflict with _ | c
  · rfl
  · show (c.check d names).mapError (QueryError.relabel m) = c.check d names
    unfold Conflict.check
    refine mapError_ite m rfl ?_
    rcases c.upsertAction names with _ | columns
    · rfl
    · exact mapError_ite m rfl (mapError_ite m rfl rfl)

/-- No error of the columns to give back has a name in it. -/
theorem mapError_returning (columns : List ColumnRef) :
    (Returning.check d columns).mapError (QueryError.relabel m) = Returning.check d columns :=
  mapError_ite m rfl rfl

/-- No error of the values of a row has a name in it. -/
theorem mapError_checkRows (rows : List Assignments) :
    (Batch.checkRows d rows).mapError (QueryError.relabel m) = Batch.checkRows d rows := by
  induction rows with
  | nil => rfl
  | cons row rows ih =>
    rw [Batch.checkRows, mapError_bind, Assignments.check, mapError_checkAll, ih]

end

/-! ## Batches -/

namespace Batch

/-! ### Checking -/

/-- Columns are compared by their names, and different names stay different. -/
theorem sameColumns_relabel (first row : Assignments) :
    sameColumns (first.relabel m) (row.relabel m) = sameColumns first row := by
  unfold sameColumns
  rw [Assignments.size_relabel, Assignments.size_relabel, Assignments.columns_relabel,
    List.all_map]
  simp only [Function.comp_def, Assignments.get?_relabel, Option.isSome_map]

/-- Rows that agree in their columns still do, and if one does not, the error lists the new names of
both. -/
theorem checkColumns_relabel (first : Assignments) (index : Nat) (rows : List Assignments) :
    checkColumns (first.relabel m) index (rows.map (Assignments.relabel m)) =
      (checkColumns first index rows).mapError (QueryError.relabel m) := by
  induction rows generalizing index with
  | nil => rfl
  | cons row rows ih =>
    rw [List.map_cons, checkColumns, checkColumns, sameColumns_relabel]
    split
    · exact ih (index + 1)
    · rw [Assignments.names_relabel, Assignments.names_relabel]
      rfl

/-- The values of the rows pass their checks before and after. -/
theorem checkRows_relabel (rows : List Assignments) :
    checkRows d (rows.map (Assignments.relabel m)) = checkRows d rows := by
  induction rows with
  | nil => rfl
  | cons row rows ih => rw [List.map_cons, checkRows, checkRows, row.check_relabel, ih]

/-- A relabeled batch is rejected for the same reason, if at all. -/
theorem check_relabel (b : Batch) :
    (b.relabel m).check d = (b.check d).mapError (QueryError.relabel m) := by
  rcases hrows : b.rows with _ | ⟨first, rest⟩
  · have hrows' : (b.relabel m).rows = [] := by rw [relabel, hrows, List.map_nil]
    rw [check, check, hrows, hrows']
    rfl
  · have hrows' : (b.relabel m).rows = first.relabel m :: rest.map (Assignments.relabel m) := by
      rw [relabel, hrows, List.map_cons]
    rw [check_of_rows hrows', check_of_rows hrows, mapError_bind, mapError_bind, mapError_bind,
      mapError_bind, mapError_ite m rfl rfl, mapError_checkRows, mapError_checkOption,
      mapError_returning, ← checkColumns_relabel, first.isEmpty_relabel, first.names_relabel]
    simp only [relabel, checkRows_relabel, Conflict.checkOption_relabel, Returning.check_relabel]

/-! ### Cutting -/

/-- Looked up under the relabeled columns, a relabeled row has the relabeled values. -/
theorem valuesIn_relabel (columns : List ColumnRef) (row : Assignments) :
    valuesIn (columns.map (ColumnRef.relabel m)) (row.relabel m) =
      (valuesIn columns row).map (Expr.relabel m) := by
  rw [valuesIn, valuesIn, List.filterMap_map, List.map_filterMap]
  exact List.filterMap_congr fun c _ => row.get?_relabel c

/-- A relabeled batch has the relabeled columns, in the same order. -/
theorem columns_relabel (b : Batch) :
    (b.relabel m).columns = b.columns.map (ColumnRef.relabel m) := by
  rcases hrows : b.rows with _ | ⟨first, rest⟩
  · simp [columns, relabel, hrows]
  · simpa [columns, relabel, hrows] using first.columns_relabel

/-- A relabeled batch has the new names, in the same order. -/
theorem names_relabel (b : Batch) : (b.relabel m).names = b.names.map m.name := by
  rcases hrows : b.rows with _ | ⟨first, rest⟩
  · simp [names, relabel, hrows]
  · simpa [names, relabel, hrows] using first.names_relabel

/-- The tuples of a relabeled batch are the relabeled tuples, row by row. -/
theorem tuples_relabel (b : Batch) :
    (b.relabel m).tuples d (b.relabel m).columns =
      (b.tuples d b.columns).map (Fragment.relabel m) := by
  rw [tuples, tuples, columns_relabel, relabel, List.map_map, List.map_map]
  refine List.map_congr_left fun row _ => ?_
  show tuple d (valuesIn _ (row.relabel m)) = (tuple d (valuesIn _ row)).relabel m
  rw [valuesIn_relabel, tuple_relabel]

/-- What a row costs does not depend on its names and values. -/
theorem costs_relabel (b : Batch) : (b.relabel m).costs d = b.costs d := by
  rw [costs, costs, tuples_relabel, List.map_map]
  refine List.map_congr_left fun f _ => ?_
  show cost (f.relabel m) = cost f
  rw [cost, cost, Fragment.values_relabel, List.length_map]

/-- A batch is cut into the same spans, since a row binds as many values as before. -/
theorem spans_relabel (b : Batch) (strategy : BatchStrategy) (limit : Option Nat) :
    (b.relabel m).spans d strategy limit = b.spans d strategy limit := by
  have hempty : (b.relabel m).rows.isEmpty = b.rows.isEmpty := List.isEmpty_map
  rw [spans, spans, hempty, costs_relabel]

/-! ### Building -/

/-- The fragment of the statement that inserts the rows of a span. -/
def spanFragment (b : Batch) (d : Dialect) (s : Span) : Fragment :=
  insertion d b.table b.names (s.slice (b.tuples d b.columns)) b.conflict b.returning

/-- The statement for a span of a relabeled batch is the relabeled statement for that span. -/
theorem spanFragment_relabel (hd : d.Relabels m) (b : Batch) (s : Span) :
    (b.relabel m).spanFragment d s = (b.spanFragment d s).relabel m := by
  rw [spanFragment, spanFragment, tuples_relabel, names_relabel, Span.slice_map,
    ← insertion_relabel hd]
  rfl

/-- A batch is checked, cut and written, and only the check can fail. -/
theorem buildSpans_eq_map (b : Batch) (strategy : BatchStrategy) (limit : Option Nat) :
    b.buildSpans d strategy limit =
      (b.check d).map fun _ => (b.spans d strategy limit).map fun s =>
        (s, (b.spanFragment d s).prepare d) := by
  rcases hcheck : b.check d with e | _
  · exact buildSpans_of_check_eq_error hcheck
  · exact buildSpans_eq hcheck

/-- A relabeled batch is cut in the same places, and each span becomes the relabeled fragment. -/
theorem buildSpans_relabel (hd : d.Relabels m) (b : Batch) (strategy : BatchStrategy)
    (limit : Option Nat) :
    (b.relabel m).buildSpans d strategy limit =
      ((b.check d).map fun _ => (b.spans d strategy limit).map fun s =>
        (s, ((b.spanFragment d s).relabel m).prepare d)).mapError (QueryError.relabel m) := by
  rw [buildSpans_eq_map, check_relabel, spans_relabel]
  simp only [spanFragment_relabel hd]
  cases b.check d <;> rfl

end Batch

end BoundSql
