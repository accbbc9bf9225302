import BoundSql.Dialect.Kind
import BoundSql.Proofs.Slots
import BoundSql.Proofs.Writing
import BoundSql.Statement.Basic

/-!
# The order of calls

A query is written clause by clause, in the order of the grammar, and each slot belongs to one
clause (`Select.Slot.clause`).  The order in which the clauses were called for leaves no trace: a
clause has the text that the calls on its slots alone would give it, and it is there exactly if
there is such a call.

Main statement: `call_order_immaterial`.
-/

namespace BoundSql

/-- There is a clause for a limit or an offset, and for nothing else. -/
def Dialect.Paginates (d : Dialect) : Prop :=
  ∀ limit offset, (d.limitOffset limit offset).isSome = (limit.isSome || offset.isSome)

/-- Each of the four dialects writes a page just for a limit or an offset. -/
theorem DialectKind.paginates (kind : DialectKind) : kind.dialect.Paginates := by
  intro limit offset
  cases kind <;> cases limit <;> cases offset <;> rfl

namespace Select

/-! ## Clauses -/

/-- The clauses of a query. -/
inductive Clause where
  | select
  | source
  | joins
  | condition
  | groups
  | having
  | order
  | pagination
  | lock
  deriving DecidableEq

/-- The clause that a slot belongs to. -/
def Slot.clause : Slot → Clause
  | projection | distinct => .select
  | source => .source
  | joins => .joins
  | condition => .condition
  | groups => .groups
  | having => .having
  | order => .order
  | pagination => .pagination
  | lock => .lock

namespace Clause

/-- All clauses, in the order of the grammar. -/
def all : List Clause :=
  [select, source, joins, condition, groups, having, order, pagination, lock]

/-- The clause is there. -/
def isPresent (d : Dialect) (q : Select) : Clause → Bool
  | select => true
  | source => q.source.isSome
  | joins => !q.joins.isEmpty
  | condition => q.condition.isSome
  | groups => !q.groups.isEmpty
  | having => q.having.isSome
  | order => !q.order.isEmpty
  | pagination => (d.limitOffset q.limit q.offset).isSome
  | lock => q.forUpdate

/-- What is written for a clause. -/
def fragment (d : Dialect) (q : Select) : Clause → Fragment
  | select =>
    .concat [["SELECT ", if q.distinct then "DISTINCT " else ""],
      if q.projection.isEmpty then ["*"] else .comma (Expr.fragments d q.projection)]
  | source => Source.clause d q.source
  | joins => .concat (Join.fragments d q.joins)
  | condition => Predicate.clause d " WHERE " q.condition
  | groups => listClause " GROUP BY " (Expr.fragments d q.groups)
  | having => Predicate.clause d " HAVING " q.having
  | order => listClause " ORDER BY " (OrderItem.fragments d q.order)
  | pagination => (d.limitOffset q.limit q.offset).elim [] fun clause => [" ", clause]
  | lock => if q.forUpdate then [" FOR UPDATE"] else []

variable (d : Dialect)

/-! ## Writing clauses -/

/-- Nothing is written for a clause that is not there. -/
theorem fragment_of_absent {q : Select} {c : Clause} (h : c.isPresent d q = false) :
    c.fragment d q = [] := by
  cases c with
  | select => cases h
  | source | condition | having | pagination =>
    rw [isPresent, Option.isSome_eq_false_iff, Option.isNone_iff_eq_none] at h
    rw [fragment, h]
    rfl
  | joins | groups | order =>
    rw [isPresent, Bool.not_eq_false', List.isEmpty_iff] at h
    rw [fragment, h]
    rfl
  | lock =>
    rw [isPresent] at h
    rw [fragment, h]
    rfl

/-- Leaving out what is not there leaves out nothing. -/
theorem concat_filter_isPresent (q : Select) (cs : List Clause) :
    Fragment.concat ((cs.filter (isPresent d q)).map (fragment d q)) =
      Fragment.concat (cs.map (fragment d q)) := by
  unfold Fragment.concat
  induction cs with
  | nil => rfl
  | cons c cs ih =>
    rw [List.map_cons, List.flatten_cons, ← ih]
    cases h : c.isPresent d q with
    | true => rw [List.filter_cons_of_pos h, List.map_cons, List.flatten_cons]
    | false =>
      rw [List.filter_cons_of_neg (by simp [h]), fragment_of_absent d h, List.nil_append]

/-- A query is written as the clauses that are there, each once, in the order of the grammar. -/
theorem fragment_eq_concat (q : Select) :
    q.fragment d = Fragment.concat ((all.filter (isPresent d q)).map (fragment d q)) := by
  rw [concat_filter_isPresent]
  obtain ⟨distinct, projection, source, joins, condition, groups, having, order, limit, offset,
    forUpdate⟩ := q
  simp [all, Select.fragment, fragment, Fragment.concat]

/-- What is written for clauses in a row. -/
def fragments (q : Select) (cs : List Clause) : Fragment :=
  Fragment.concat (cs.map (fragment d q))

/-- Two rows of clauses are written one behind the other. -/
theorem fragments_append (q : Select) (cs cs' : List Clause) :
    fragments d q (cs ++ cs') = fragments d q cs ++ fragments d q cs' := by
  rw [fragments, List.map_append]
  exact List.flatten_append

/-- Whatever is there or not, all clauses make the query. -/
theorem fragment_eq_fragments (q : Select) : q.fragment d = fragments d q all := by
  rw [fragment_eq_concat, concat_filter_isPresent, fragments]

/-! ## Clauses and calls -/

/-- The query with nothing but the slots of one clause. -/
def only : Clause → Select → Select
  | select, q => { distinct := q.distinct, projection := q.projection }
  | source, q => q.only .source
  | joins, q => q.only .joins
  | condition, q => q.only .condition
  | groups, q => q.only .groups
  | having, q => q.only .having
  | order, q => q.only .order
  | pagination, q => q.only .pagination
  | lock, q => q.only .lock

/-- A slot of a query is found again in the query with its clause alone. -/
theorem only_only (k : Slot) (q : Select) : (k.clause.only q).only k = q.only k := by
  cases k <;> rfl

/-- Each call fills the slots of one clause and no others. -/
def slots : Slots Clause call where
  slot a := a.slot.clause
  only := only
  ext q r h := by
    apply eq_of_only
    intro k
    rw [← only_only, h, only_only]
  only_call_own q a := by cases a <;> rfl
  only_call_other q a c h := by
    cases a <;> cases c <;> first | rfl | exact absurd rfl h

/-- A clause is written from its own slots. -/
theorem fragment_only (c : Clause) (q : Select) : c.fragment d (c.only q) = c.fragment d q := by
  cases c <;> rfl

/-- Whether a clause is there depends on its own slots. -/
theorem isPresent_only (c : Clause) (q : Select) : c.isPresent d (c.only q) = c.isPresent d q := by
  cases c <;> rfl

/-- A clause is left to the calls on its slots. -/
theorem only_run (c : Clause) (q : Select) (calls : List Call) :
    c.only (q.run calls) = (c.only q).run (calls.filter fun a => a.slot.clause = c) :=
  slots.only_foldl c q calls

/-- The calls on its slots alone give a clause its text. -/
theorem fragment_run (c : Clause) (q : Select) (calls : List Call) :
    c.fragment d (q.run calls) =
      c.fragment d (q.run (calls.filter fun a => a.slot.clause = c)) := by
  rw [← fragment_only, only_run, ← fragment_only d c (q.run (calls.filter _)), only_run,
    List.filter_filter]
  simp only [Bool.and_self]

/-- Whatever call there is on its slots makes a clause be there. -/
theorem isPresent_call (q : Select) (a : Call) (hd : a.slot.clause = .pagination → d.Paginates) :
    a.slot.clause.isPresent d (q.call a) = true := by
  have hlist {α : Type} (xs : List α) (x : α) : (!(xs ++ [x]).isEmpty) = true := by simp
  have hand (c : Condition) (p : Predicate) : (c.and p).isSome = true := by cases c <;> rfl
  have hor (c : Condition) (p : Predicate) : (c.or p).isSome = true := by cases c <;> rfl
  cases a with
  | join kind t on => exact hlist _ _
  | joinQuery kind sub name on => exact hlist _ _
  | crossJoin t => exact hlist _ _
  | groupBy e => exact hlist _ _
  | orderBy o => exact hlist _ _
  | andWhere p => exact hand _ _
  | orWhere p => exact hor _ _
  | andHaving p => exact hand _ _
  | withLimit n => exact hd rfl _ _
  | withOffset n => exact (hd rfl _ _).trans (Bool.or_true _)
  | page page size => exact hd rfl _ _
  | _ => rfl

/-- Besides the first clause, those are there that were called for. -/
theorem isPresent_run_iff (c : Clause) (calls : List Call) (hd : c = .pagination → d.Paginates) :
    c.isPresent d (Select.run {} calls) = true ↔
      c = .select ∨ ∃ a ∈ calls, a.slot.clause = c := by
  have hempty : c.isPresent d {} = true ↔ c = .select := by
    cases c with
    | pagination => simp [isPresent, hd rfl none none]
    | _ => simp [isPresent]
  have honly : c.only {} = {} := by cases c <;> rfl
  have hfilter : (∃ a ∈ calls, a.slot.clause = c) ↔
      calls.filter (fun a => a.slot.clause = c) ≠ [] := by simp [List.filter_eq_nil_iff]
  rw [← isPresent_only, only_run, honly, hfilter]
  have hslots : ∀ a ∈ calls.filter fun a => a.slot.clause = c, a.slot.clause = c := by
    intro a ha
    simpa using (List.mem_filter.mp ha).2
  rcases List.eq_nil_or_concat (calls.filter fun a => a.slot.clause = c) with h | ⟨as, a, h⟩
  · rw [h]
    simpa [Select.run] using hempty
  · rw [h] at hslots ⊢
    obtain rfl := hslots a (by simp)
    rw [run, List.concat_eq_append, List.foldl_append, List.foldl_cons, List.foldl_nil,
      isPresent_call d _ a hd]
    simp

/-- No clause is there twice. -/
theorem nodup_all : all.Nodup := by decide

/-- The text of a statement is the texts of its clauses. -/
theorem sql_prepare (q : Select) :
    ((q.fragment d).prepare d).sql =
      String.join (Fragment.textsFrom d 0 ((all.filter (isPresent d q)).map (fragment d q))) := by
  rw [Fragment.sql_prepare, fragment_eq_concat, Fragment.textFrom_concat]

/-- The parameters of a statement are the values of its clauses. -/
theorem params_prepare (q : Select) :
    ((q.fragment d).prepare d).params =
      (all.filter (isPresent d q)).flatMap fun c => (c.fragment d q).values := by
  rw [Fragment.params_prepare, fragment_eq_concat, Fragment.values_concat, List.flatMap_map]

end Clause

end Select

/-! ## Statements -/

/-- **Calls on different slots may change places.**  Two rows of calls that agree slot by slot put
the same statement together, so every dialect finds the same fault in it or writes the same.  A
query is written as the clauses that were called for, each once, in the order of the grammar, and
each as the calls on its own slots alone would have it. -/
theorem call_order_immaterial :
    (∀ (calls calls' : List Select.Call) (q : Select), SameBySlot Select.Call.slot calls calls' →
      q.run calls = q.run calls' ∧
        ∀ d, (Statement.select (q.run calls)).build d = (Statement.select (q.run calls')).build d) ∧
    (∀ (calls calls' : List Insert.Call) (i : Insert), SameBySlot Insert.Call.slot calls calls' →
      i.run calls = i.run calls' ∧
        ∀ d, (Statement.insert (i.run calls)).build d = (Statement.insert (i.run calls')).build d) ∧
    (∀ (calls calls' : List Update.Call) (u : Update), SameBySlot Update.Call.slot calls calls' →
      u.run calls = u.run calls' ∧
        ∀ d, (Statement.update (u.run calls)).build d = (Statement.update (u.run calls')).build d) ∧
    (∀ (calls calls' : List Delete.Call) (x : Delete), SameBySlot Delete.Call.slot calls calls' →
      x.run calls = x.run calls' ∧
        ∀ d, (Statement.delete (x.run calls)).build d = (Statement.delete (x.run calls')).build d) ∧
    (∀ (calls calls' : List Batch.Call) (b : Batch), SameBySlot Batch.Call.slot calls calls' →
      b.run calls = b.run calls' ∧
        ∀ d, (b.run calls).build d = (b.run calls').build d) ∧
    (∀ (d : Dialect) (calls : List Select.Call),
      let q := Select.run {} calls
      let present := Select.Clause.all.filter (Select.Clause.isPresent d q)
      let prepared := (q.fragment d).prepare d
      Select.Clause.all.Nodup ∧
      prepared.sql =
        String.join (Fragment.textsFrom d 0 (present.map (Select.Clause.fragment d q))) ∧
      prepared.params = present.flatMap (fun c => (c.fragment d q).values) ∧
      (∀ c : Select.Clause, c.fragment d q =
        c.fragment d (Select.run {} (calls.filter fun a => a.slot.clause = c))) ∧
      ∀ c : Select.Clause, (c = .pagination → d.Paginates) →
        (c.isPresent d q ↔ c = .select ∨ ∃ a ∈ calls, a.slot.clause = c)) ∧
    ∀ kind : DialectKind, kind.dialect.Paginates := by
  refine ⟨fun calls calls' q h => ?_, fun calls calls' i h => ?_, fun calls calls' u h => ?_,
    fun calls calls' x h => ?_, fun calls calls' b h => ?_, fun d calls => ?_,
    DialectKind.paginates⟩
  · have hrun : q.run calls = q.run calls' := Select.slots.foldl_eq_foldl h q
    exact ⟨hrun, fun d => by rw [hrun]⟩
  · have hrun : i.run calls = i.run calls' := Insert.slots.foldl_eq_foldl h i
    exact ⟨hrun, fun d => by rw [hrun]⟩
  · have hrun : u.run calls = u.run calls' := Update.slots.foldl_eq_foldl h u
    exact ⟨hrun, fun d => by rw [hrun]⟩
  · have hrun : x.run calls = x.run calls' := Delete.slots.foldl_eq_foldl h x
    exact ⟨hrun, fun d => by rw [hrun]⟩
  · have hrun : b.run calls = b.run calls' := Batch.slots.foldl_eq_foldl h b
    exact ⟨hrun, fun d => by rw [hrun]⟩
  · exact ⟨Select.Clause.nodup_all, Select.Clause.sql_prepare d _, Select.Clause.params_prepare d _,
      fun c => Select.Clause.fragment_run d c {} calls,
      fun c hd => Select.Clause.isPresent_run_iff d c calls hd⟩

/-- Calls for a report, in the order of the grammar. -/
def reportCalls : List Select.Call :=
  [.column (.column ⟨"t", "a"⟩), .fromTable { name := "t" }, .withWhere .always, .orWhere .never,
    .andWhere .always, .withLimit 5, .page 3 20, .lockRows]

/-- The same calls in another order. -/
def reshuffledCalls : List Select.Call :=
  [.withLimit 5, .lockRows, .withWhere .always, .page 3 20, .orWhere .never,
    .fromTable { name := "t" }, .andWhere .always, .column (.column ⟨"t", "a"⟩)]

/-- The report is the same query when its calls are reshuffled, as the calls on each slot keep their
order. -/
theorem call_order_immaterial_report :
    SameBySlot Select.Call.slot reportCalls reshuffledCalls ∧
    Select.run {} reportCalls = Select.run {} reshuffledCalls ∧
    Select.Clause.isPresent DialectKind.mysql.dialect (Select.run {} reportCalls) .pagination := by
  have hsame : SameBySlot Select.Call.slot reportCalls reshuffledCalls := by
    intro k
    cases k <;> rfl
  obtain ⟨hselect, -, -, -, -, hclauses, hpaginates⟩ := call_order_immaterial
  obtain ⟨-, -, -, -, hpresent⟩ := hclauses DialectKind.mysql.dialect reportCalls
  exact ⟨hsame, (hselect _ _ {} hsame).1,
    (hpresent .pagination fun _ => hpaginates .mysql).mpr (.inr ⟨.page 3 20, by simp [reportCalls],
      rfl⟩)⟩

end BoundSql
