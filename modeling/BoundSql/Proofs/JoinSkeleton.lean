import BoundSql.Proofs.CallOrder
import BoundSql.Proofs.Fitness

/-!
# The skeleton of joins

What stands between the columns of a query and its conditions is a row of sources with words
between them.  Grammar asks three things of the words: joins stand behind a first source, a cross
join has no condition, and a join of any other kind has one (`SourceClause`).

Whoever puts a query together by calls (`Select.Made`) cannot leave a condition out where there
must be one.  The other two rules are not looked after: a join of any kind takes a condition, and
nothing asks for a first source if columns are named.  Which calls keep to them is told by
`Select.sourceClause_run_iff`.

Main statement: `Select.sourceClause_iff_of_made`, for the queries at every depth.
`ungrammatical_joins` are two queries that pass the check and have no grammatical skeleton.
-/

namespace BoundSql

/-! ## Skeletons -/

/-- A word between sources, or what stands between the words. -/
inductive SourceToken where
  | fromWord
  | joinWord (kind : JoinKind)
  | onWord
  | source (s : Source)
  | condition (p : Predicate)

/-- How a token is written. -/
def SourceToken.fragment (d : Dialect) : SourceToken → Fragment
  | fromWord => [" FROM "]
  | joinWord .inner => [" ", "INNER JOIN", " "]
  | joinWord .left => [" ", "LEFT JOIN", " "]
  | joinWord .right => [" ", "RIGHT JOIN", " "]
  | joinWord .full => [" ", "FULL OUTER JOIN", " "]
  | joinWord .cross => [" ", "CROSS JOIN", " "]
  | onWord => [" ON "]
  | source s => s.fragment d
  | condition p => p.fragment d

/-- The tokens of a join. -/
def Join.tokens (j : Join) : List SourceToken :=
  [.joinWord j.kind, .source j.target] ++ j.on.toList.flatMap fun p => [.onWord, .condition p]

/-- The tokens of a query between its columns and its conditions. -/
def Select.sourceTokens (q : Select) : List SourceToken :=
  (q.source.toList.flatMap fun s => [.fromWord, .source s]) ++ q.joins.flatMap Join.tokens

/-- Joins one behind another. -/
inductive JoinChain : List SourceToken → Prop where
  | nil : JoinChain []
  | cross {s : Source} {ts : List SourceToken} :
    JoinChain ts → JoinChain (.joinWord .cross :: .source s :: ts)
  | on {kind : JoinKind} {s : Source} {p : Predicate} {ts : List SourceToken} :
    kind ≠ .cross → JoinChain ts →
      JoinChain (.joinWord kind :: .source s :: .onWord :: .condition p :: ts)

/-- No source at all, or a first source and joins behind it. -/
inductive SourceClause : List SourceToken → Prop where
  | nothing : SourceClause []
  | first {s : Source} {ts : List SourceToken} :
    JoinChain ts → SourceClause (.fromWord :: .source s :: ts)

/-! ## Writing -/

/-- A join is written as its tokens. -/
theorem Join.fragment_eq_tokens (d : Dialect) (j : Join) :
    j.fragment d = j.tokens.flatMap (SourceToken.fragment d) := by
  obtain ⟨kind, target, on⟩ := j
  cases on with
  | none =>
    cases kind <;>
      simp [Join.fragment, JoinKind.keywords, tokens, SourceToken.fragment, Predicate.clause,
        Fragment.concat]
  | some p =>
    cases kind <;>
      simp [Join.fragment, JoinKind.keywords, tokens, SourceToken.fragment, Predicate.clause,
        Fragment.concat]

/-- Joins one behind another are written as their tokens. -/
theorem Join.concat_fragments (d : Dialect) (js : List Join) :
    Fragment.concat (Join.fragments d js) =
      (js.flatMap Join.tokens).flatMap (SourceToken.fragment d) := by
  induction js with
  | nil => rfl
  | cons j js ih =>
    rw [List.flatMap_cons, List.flatMap_append, ← ih, ← Join.fragment_eq_tokens]
    rfl

/-- The tokens are what is written between columns and conditions. -/
theorem Select.fragment_eq_around_tokens (d : Dialect) (q : Select) :
    q.fragment d =
      Clause.fragment d q .select ++ q.sourceTokens.flatMap (SourceToken.fragment d) ++
        Clause.fragments d q [.condition, .groups, .having, .order, .pagination, .lock] := by
  have hsource : Source.clause d q.source =
      (q.source.toList.flatMap fun s => [.fromWord, .source s]).flatMap
        (SourceToken.fragment d) := by
    cases q.source <;> simp [Source.clause, SourceToken.fragment]
  have hsplit : Clause.fragments d q Clause.all =
      Clause.fragment d q .select ++
        (Source.clause d q.source ++ Fragment.concat (Join.fragments d q.joins)) ++
        Clause.fragments d q [.condition, .groups, .having, .order, .pagination, .lock] := by
    simp [Clause.fragments, Clause.all, Fragment.concat, Clause.fragment]
  rw [Clause.fragment_eq_fragments, hsplit, hsource, Join.concat_fragments, ← List.flatMap_append]
  rfl

/-! ## Grammar -/

/-- A chain of joins begins with the word of a join. -/
theorem JoinChain.head {t : SourceToken} {ts : List SourceToken} (h : JoinChain (t :: ts)) :
    ∃ kind, t = .joinWord kind := by
  cases h with
  | cross => exact ⟨_, rfl⟩
  | on => exact ⟨_, rfl⟩

/-- One more join in front, unless a condition of its own is still to come. -/
theorem joinChain_append_iff (j : Join) {ts : List SourceToken}
    (hts : ∀ us, ts ≠ .onWord :: us) :
    JoinChain (j.tokens ++ ts) ↔ (j.on = none ↔ j.kind = .cross) ∧ JoinChain ts := by
  obtain ⟨kind, target, on⟩ := j
  cases on with
  | none =>
    constructor
    · intro h
      have h : JoinChain (.joinWord kind :: .source target :: ts) := h
      cases h with
      | cross h => exact ⟨iff_of_true rfl rfl, h⟩
      | on => exact absurd rfl (hts _)
    · rintro ⟨hkind, h⟩
      obtain rfl : kind = .cross := hkind.mp rfl
      exact .cross h
  | some p =>
    constructor
    · intro h
      have h : JoinChain (.joinWord kind :: .source target :: .onWord :: .condition p :: ts) := h
      cases h with
      | cross h =>
        obtain ⟨_, hword⟩ := h.head
        cases hword
      | on hkind h => exact ⟨iff_of_false (fun hon => by cases hon) hkind, h⟩
    · rintro ⟨hkind, h⟩
      refine .on (fun hcross => ?_) h
      cases hkind.mpr hcross

/-- Tokens of joins do not begin with a condition. -/
theorem Join.flatMap_tokens_ne (js : List Join) (us : List SourceToken) :
    js.flatMap tokens ≠ .onWord :: us := by
  cases js with
  | nil => simp
  | cons j js => simp [tokens]

/-- Joins are chained as they should be if exactly those have no condition that are crossed. -/
theorem joinChain_iff (js : List Join) :
    JoinChain (js.flatMap Join.tokens) ↔ ∀ j ∈ js, j.on = none ↔ j.kind = .cross := by
  induction js with
  | nil => exact iff_of_true .nil (by simp)
  | cons j js ih =>
    rw [List.flatMap_cons, joinChain_append_iff j (Join.flatMap_tokens_ne js), ih,
      List.forall_mem_cons]

/-- A query has a grammatical source clause just if its joins have something to join to and
conditions where they should. -/
theorem Select.sourceClause_iff (q : Select) :
    SourceClause q.sourceTokens ↔
      (q.joins ≠ [] → q.source.isSome) ∧ ∀ j ∈ q.joins, j.on = none ↔ j.kind = .cross := by
  rw [← joinChain_iff, sourceTokens]
  cases q.source with
  | some s =>
    constructor
    · intro h
      have h : SourceClause (.fromWord :: .source s :: q.joins.flatMap Join.tokens) := h
      cases h with
      | first h => exact ⟨fun _ => rfl, h⟩
    · rintro ⟨-, h⟩
      exact .first h
  | none =>
    cases hjoins : q.joins with
    | nil => exact iff_of_true .nothing ⟨fun h => absurd rfl h, .nil⟩
    | cons j js =>
      refine iff_of_false (fun h => ?_) (fun h => ?_)
      · have h : SourceClause (.joinWord j.kind :: _) := h
        cases h
      · exact absurd (h.1 (List.cons_ne_nil j js)) (by simp)

/-! ## Queries put together by calls -/

namespace Select

/-- What a call is given that may have queries in it. -/
def Call.args : Call → List Node
  | fromTable _ | distinctRows | crossJoin _ | withLimit _ | withOffset _ | page .. | lockRows => []
  | fromQuery sub _ => [.select sub]
  | column e | groupBy e => [.expr e]
  | columns es => es.map .expr
  | join _ _ on => [.predicate on]
  | joinQuery _ sub _ on => [.select sub, .predicate on]
  | withWhere p | andWhere p | orWhere p | withHaving p | andHaving p => [.predicate p]
  | orderBy o => [.orderItem o]

/-- The query is put together by calls, and so is every query that a call is given, at whatever
depth.  To count is a call as well. -/
inductive Made : Select → Prop where
  | new : Made {}
  | call {q : Select} (a : Call) : Made q →
    (∀ n ∈ a.args, ∀ r, n.Holds (.select r) → Made r) → Made (q.call a)
  | count {q : Select} : Made q → Made q.count

/-- Calls keep a query put together by calls, whatever number of them are made. -/
theorem Made.run {q : Select} (hq : q.Made) {calls : List Call}
    (hargs : ∀ a ∈ calls, ∀ n ∈ a.args, ∀ r, n.Holds (.select r) → r.Made) :
    (q.run calls).Made := by
  induction calls generalizing q with
  | nil => exact hq
  | cons a calls ih =>
    obtain ⟨ha, hcalls⟩ := List.forall_mem_cons.mp hargs
    exact ih (hq.call a ha) hcalls

/-- Calls that are given no query at all make one. -/
theorem Made.run_of_queries_eq_nil {calls : List Call}
    (h : (calls.flatMap Call.args).flatMap Node.queries = []) : (Select.run {} calls).Made := by
  refine Made.new.run fun a ha n hn r hr => ?_
  have hmem : r ∈ (calls.flatMap Call.args).flatMap Node.queries :=
    List.mem_flatMap.mpr ⟨n, List.mem_flatMap.mpr ⟨a, ha, hn⟩, Node.holds_select_iff.mp hr⟩
  rw [h] at hmem
  cases hmem

/-- The queries in a slot. -/
def Slot.queries (q : Select) : Slot → List Select
  | projection => Expr.queriesOfAll q.projection
  | source => Source.queriesOfOption q.source
  | joins => Join.queriesOfAll q.joins
  | condition => Predicate.queriesOfOption q.condition
  | groups => Expr.queriesOfAll q.groups
  | having => Predicate.queriesOfOption q.having
  | order => OrderItem.queriesOfAll q.order
  | distinct | pagination | lock => []

/-- Below a query are the queries in its slots. -/
theorem mem_queries_iff {q r : Select} : r ∈ q.queries ↔ r = q ∨ ∃ k : Slot, r ∈ k.queries q := by
  have hlisted : q.queries = q :: (Slot.projection.queries q ++ (Slot.groups.queries q ++
      (Slot.source.queries q ++ (Slot.joins.queries q ++ (Slot.condition.queries q ++
        (Slot.having.queries q ++ Slot.order.queries q)))))) := by
    cases q
    rfl
  rw [hlisted]
  simp only [List.mem_cons, List.mem_append]
  refine or_congr_right ⟨?_, ?_⟩
  · rintro (h | h | h | h | h | h | h) <;> exact ⟨_, h⟩
  · rintro ⟨k, h⟩
    cases k with
    | distinct | pagination | lock => cases h
    | _ => simp only [h, true_or, or_true]

/-- The queries in a slot are in the query that has this slot alone. -/
theorem Slot.queries_only (k : Slot) (q : Select) : k.queries (q.only k) = k.queries q := by
  cases k <;> rfl

/-- What is in a condition with one more was in one of the two. -/
theorem queries_and (c : Condition) (p : Predicate) :
    Predicate.queriesOfOption (c.and p) = Predicate.queriesOfOption c ++ p.queries := by
  cases c with
  | none => rfl
  | some c =>
    cases c <;> simp [Condition.and, Predicate.and, Predicate.queriesOfOption, Predicate.queries,
      Predicate.queriesOfAll_eq]

/-- What is in a condition with an alternative was in one of the two. -/
theorem queries_or (c : Condition) (p : Predicate) :
    Predicate.queriesOfOption (c.or p) = Predicate.queriesOfOption c ++ p.queries := by
  cases c with
  | none => rfl
  | some c =>
    cases c <;> simp [Condition.or, Predicate.or, Predicate.queriesOfOption, Predicate.queries,
      Predicate.queriesOfAll_eq]

/-- A call puts into its slot what it is given, behind what was there or in its place. -/
theorem queries_call_own (q : Select) (a : Call) :
    a.slot.queries (q.call a) = a.slot.queries q ++ a.args.flatMap Node.queries ∨
      a.slot.queries (q.call a) = a.args.flatMap Node.queries := by
  cases a with
  | fromTable | fromQuery | withWhere | withHaving =>
    right
    simp [Slot.queries, Call.slot, Call.args, call, fromTable, fromQuery, withWhere, withHaving,
      Source.queriesOfOption, Source.queries, Predicate.queriesOfOption, Node.queries]
  | andWhere p =>
    left
    rw [Call.args, List.flatMap_singleton]
    exact queries_and q.condition p
  | orWhere p =>
    left
    rw [Call.args, List.flatMap_singleton]
    exact queries_or q.condition p
  | andHaving p =>
    left
    rw [Call.args, List.flatMap_singleton]
    exact queries_and q.having p
  | distinctRows | withLimit | withOffset | page | lockRows => exact .inl rfl
  | column | columns | groupBy | orderBy | join | joinQuery | crossJoin =>
    left
    simp [Slot.queries, Call.slot, Call.args, call, column, columns, groupBy, orderBy, Select.join,
      joinQuery, crossJoin, Expr.queriesOfAll_eq, OrderItem.queriesOfAll_eq, Join.queriesOfAll_eq,
      Source.queries, Predicate.queriesOfOption, Node.queries, List.flatMap_map]

/-- Behind a call, a query was there before or has been given to the call. -/
theorem mem_queries_call {q r : Select} {a : Call} {k : Slot} (h : r ∈ k.queries (q.call a)) :
    r ∈ k.queries q ∨ r ∈ a.args.flatMap Node.queries := by
  by_cases hk : a.slot = k
  · subst hk
    rcases queries_call_own q a with heq | heq
    · exact List.mem_append.mp (heq ▸ h)
    · exact .inr (heq ▸ h)
  · have hother : (q.call a).only k = q.only k := slots.only_call_other q a k hk
    rw [← Slot.queries_only, hother, Slot.queries_only] at h
    exact .inl h

/-! ### Counting -/

/-- To leave out the order behind a call is to make the call without, or not to make it. -/
theorem unordered_call (q : Select) (a : Call) :
    (q.call a).unordered = q.unordered.call a ∨ (q.call a).unordered = q.unordered := by
  cases a with
  | orderBy | withLimit | withOffset | page | lockRows => exact .inr rfl
  | _ => exact .inl rfl

/-- A query that counts has no order to leave out. -/
theorem unordered_count (q : Select) : q.count.unordered = q.count := by
  unfold count
  split <;> rfl

/-- To leave out order, limit, offset and lock is to leave out calls. -/
theorem Made.unordered {q : Select} (h : q.Made) : q.unordered.Made := by
  induction h with
  | new => exact .new
  | @call q a hq hargs ih =>
    rcases unordered_call q a with heq | heq
    · rw [heq]
      exact .call a ih fun n hn r hr => hargs n hn r hr
    · rw [heq]
      exact ih
  | @count q hq _ =>
    rw [unordered_count]
    exact .count hq

/-- Without order, a query has nothing in its slots that was not there. -/
theorem queries_unordered_subset {q r : Select} {k : Slot} (h : r ∈ k.queries q.unordered) :
    r ∈ k.queries q := by
  cases k with
  | order => cases h
  | _ => exact h

/-- What a counting query has in its slots is the query it counts, or was in that one. -/
theorem mem_queries_count {q r : Select} {k : Slot} (h : r ∈ k.queries q.count) :
    r = q.unordered ∨ ∃ k : Slot, r ∈ k.queries q.unordered := by
  unfold Select.count at h
  split at h
  · cases k with
    | source => exact mem_queries_iff.mp h
    | _ => cases h
  · refine .inr ⟨k, ?_⟩
    cases k with
    | projection => cases h
    | _ => exact h

/-- Every query in a query that is put together by calls is put together by calls. -/
theorem Made.of_mem_slot {q : Select} (h : q.Made) {r : Select} {k : Slot}
    (hr : r ∈ k.queries q) : r.Made := by
  induction h generalizing k with
  | new => cases k <;> cases hr
  | @call q a hq hargs ih hinner =>
    rcases mem_queries_call hr with hr | hr
    · exact ih hr
    · obtain ⟨n, hn, hr⟩ := List.mem_flatMap.mp hr
      exact hargs n hn r (Node.holds_of_mem_queries n hr)
  | @count q hq ih =>
    rcases mem_queries_count hr with rfl | ⟨k', hr⟩
    · exact hq.unordered
    · exact ih (queries_unordered_subset hr)

/-- So is every query at whatever depth. -/
theorem Made.of_holds {q r : Select} (h : q.Made) (hr : (Node.select q).Holds (.select r)) :
    r.Made := by
  rcases mem_queries_iff.mp (Node.holds_select_iff.mp hr) with rfl | ⟨k, hk⟩
  · exact h
  · exact h.of_mem_slot hk

/-! ### Joins that calls put in -/

/-- The joins that a call adds. -/
def Call.joins : Call → List Join
  | .join kind t on => [⟨kind, .table t, some on⟩]
  | .joinQuery kind sub name on => [⟨kind, .query sub name, some on⟩]
  | .crossJoin t => [⟨.cross, .table t, none⟩]
  | _ => []

/-- A call puts its joins behind those that are there. -/
theorem joins_call (q : Select) (a : Call) : (q.call a).joins = q.joins ++ a.joins := by
  cases a with
  | join | joinQuery | crossJoin => rfl
  | _ => exact (List.append_nil q.joins).symm

/-- The joins of a query are those of its calls, in order. -/
theorem joins_run (q : Select) (calls : List Call) :
    (q.run calls).joins = q.joins ++ calls.flatMap Call.joins := by
  induction calls generalizing q with
  | nil => exact (List.append_nil q.joins).symm
  | cons a calls ih =>
    rw [List.flatMap_cons, ← List.append_assoc, ← joins_call]
    exact ih (q.call a)

/-- To count adds no join. -/
theorem joins_count_subset {q : Select} {j : Join} (h : j ∈ q.count.joins) : j ∈ q.joins := by
  unfold Select.count at h
  split at h
  · cases h
  · exact h

/-- Where a call leaves the condition out, the join is a cross join. -/
theorem Call.on_ne_none {a : Call} {j : Join} (hj : j ∈ a.joins) (hkind : j.kind ≠ .cross) :
    j.on ≠ none := by
  cases a with
  | join | joinQuery =>
    rw [List.mem_singleton.mp hj]
    exact Option.some_ne_none _
  | crossJoin =>
    rw [List.mem_singleton.mp hj] at hkind
    exact absurd rfl hkind
  | _ => cases hj

/-- No join but a cross join is without a condition. -/
theorem Made.on_ne_none {q : Select} (h : q.Made) :
    ∀ j ∈ q.joins, j.kind ≠ .cross → j.on ≠ none := by
  induction h with
  | new =>
    intro j hj
    cases hj
  | @call q a hq hargs ih hinner =>
    intro j hj
    rw [joins_call] at hj
    rcases List.mem_append.mp hj with hj | hj
    · exact ih j hj
    · exact a.on_ne_none hj
  | @count q hq ih =>
    intro j hj
    exact ih j (joins_count_subset hj)

/-- The kind of the join that a call takes a condition for. -/
def Call.kindWithOn : Call → Option JoinKind
  | .join kind _ _ | .joinQuery kind _ _ _ => some kind
  | _ => none

/-- A call puts joins in as they should be unless it takes a condition for a cross join. -/
theorem Call.forall_joins_iff (a : Call) :
    (∀ j ∈ a.joins, j.on = none ↔ j.kind = .cross) ↔ a.kindWithOn ≠ some .cross := by
  cases a <;> simp [joins, kindWithOn]

/-- Which calls put a grammatical skeleton together: there is one for a first source if there is
one for a join, and none takes a condition for a cross join. -/
theorem sourceClause_run_iff (calls : List Call) :
    SourceClause (run {} calls).sourceTokens ↔
      ((∃ a ∈ calls, a.slot = .joins) → ∃ a ∈ calls, a.slot = .source) ∧
      ∀ a ∈ calls, a.kindWithOn ≠ some .cross := by
  have hsource : (run {} calls).source.isSome ↔ ∃ a ∈ calls, a.slot = .source := by
    have hclause (k : Slot) : k.clause = .source ↔ k = .source := by cases k <;> simp [Slot.clause]
    simpa [Clause.isPresent, hclause] using
      Clause.isPresent_run_iff Dialect.generic .source calls (by simp)
  have hjoins : (run {} calls).joins ≠ [] ↔ ∃ a ∈ calls, a.slot = .joins := by
    have hclause (k : Slot) : k.clause = .joins ↔ k = .joins := by cases k <;> simp [Slot.clause]
    simpa [Clause.isPresent, hclause] using
      Clause.isPresent_run_iff Dialect.generic .joins calls (by simp)
  rw [sourceClause_iff, hsource, hjoins, joins_run]
  refine and_congr_right fun _ => ?_
  simp only [List.nil_append, List.mem_flatMap, forall_exists_index, and_imp]
  constructor
  · intro h a ha
    exact a.forall_joins_iff.mp fun j hj => h j a ha hj
  · intro h j a ha
    exact a.forall_joins_iff.mpr (h a ha) j

end Select

/-- **Conditions of joins are looked after, but not where they stand.**  In a query that is put
together by calls and passes the check, and in every query in it, each join has a condition if it
needs one, and without a first source columns are named.  Its skeleton is what is written between
columns and conditions, and is grammatical if joins stand behind a first source and no cross join
has a condition; and only then. -/
theorem Select.sourceClause_iff_of_made {d : Dialect} {q r : Select} (hq : q.Made)
    (hcheck : q.check d = .ok ()) (hr : (Node.select q).Holds (.select r)) :
    r.fragment d =
      Clause.fragment d r .select ++ r.sourceTokens.flatMap (SourceToken.fragment d) ++
        Clause.fragments d r [.condition, .groups, .having, .order, .pagination, .lock] ∧
    (∀ j ∈ r.joins, j.kind ≠ .cross → j.on ≠ none) ∧
    (r.source = none → r.projection ≠ []) ∧
    (SourceClause r.sourceTokens ↔
      (r.joins ≠ [] → r.source ≠ none) ∧ ∀ j ∈ r.joins, j.kind = .cross → j.on = none) := by
  have hon := (hq.of_holds hr).on_ne_none
  have hfit : r.Fit d := Select.check_eq_ok_iff.mp hcheck _ (List.mem_singleton_self _) r hr
  refine ⟨fragment_eq_around_tokens d r, hon, fun hsource => ?_, ?_⟩
  · exact hfit.selects.resolve_right fun h => h hsource
  · rw [sourceClause_iff, Option.isSome_iff_ne_none]
    refine and_congr_right fun _ => forall₂_congr fun j hj => ?_
    exact ⟨Iff.mpr, fun h => ⟨not_imp_not.mp (hon j hj), h⟩⟩

/-- The same identifier in two tables. -/
def sameId (left right : String) : Predicate :=
  .compare (.column ⟨left, "id"⟩) .eq (.column ⟨right, "id"⟩)

/-- A cross join with a condition. -/
def crossedOn : List Select.Call :=
  [.fromTable { name := "a" }, .join .cross { name := "b" } (sameId "a" "b")]

/-- A join with nothing in front. -/
def joinedToNothing : List Select.Call :=
  [.column (.column ⟨"b", "id"⟩), .join .inner { name := "b" } (sameId "b" "b")]

/-- A query from the cross join, joined with a table as it should be. -/
def aroundCrossedOn : List Select.Call :=
  [.fromQuery (Select.run {} crossedOn) "x", .join .left { name := "c" } (sameId "x" "c")]

/-- A query around a bad join is checked and well formed itself, and the theorem finds the fault
within it. -/
theorem Select.sourceClause_iff_of_made_aroundCrossedOn :
    let q := Select.run {} aroundCrossedOn
    let r := Select.run {} crossedOn
    q.Made ∧ q.check .postgres = .ok () ∧ (Node.select q).Holds (.select r) ∧
      SourceClause q.sourceTokens ∧ ¬SourceClause r.sourceTokens := by
  intro q r
  have hr : r.Made := .run_of_queries_eq_nil rfl
  have hq : q.Made := by
    refine Made.new.run (List.forall_mem_cons.mpr ⟨?_, ?_⟩)
    · intro n hn s hs
      obtain rfl := List.mem_singleton.mp hn
      exact hr.of_holds hs
    · intro a ha n hn s hs
      obtain rfl := List.mem_singleton.mp ha
      obtain rfl := List.mem_singleton.mp hn
      cases Node.holds_select_iff.mp hs
  have hcheck : q.check .postgres = .ok () := rfl
  have hholds : (Node.select q).Holds (.select r) :=
    .part List.mem_cons_self (.part (List.mem_singleton_self _) (.self _))
  refine ⟨hq, hcheck, hholds, ?_, ?_⟩
  · obtain ⟨-, -, -, hiff⟩ := sourceClause_iff_of_made hq hcheck (.self _)
    refine hiff.mpr ⟨fun _ => Option.some_ne_none _, fun j hj hkind => ?_⟩
    obtain rfl := List.mem_singleton.mp hj
    cases hkind
  · obtain ⟨-, -, -, hiff⟩ := sourceClause_iff_of_made hq hcheck hholds
    intro h
    cases (hiff.mp h).2 _ (List.mem_singleton_self _) rfl

/-- The calls and the check let both faults pass, in every dialect. -/
theorem ungrammatical_joins :
    let crossed := Select.run {} crossedOn
    let orphan := Select.run {} joinedToNothing
    (crossed.Made ∧ (∀ kind : DialectKind, crossed.check kind.dialect = .ok ()) ∧
      ((crossed.fragment .postgres).prepare .postgres).sql =
        "SELECT * FROM \"a\" CROSS JOIN \"b\" ON \"a\".\"id\" = \"b\".\"id\"" ∧
      ¬SourceClause crossed.sourceTokens) ∧
    orphan.Made ∧ (∀ kind : DialectKind, orphan.check kind.dialect = .ok ()) ∧
      ((orphan.fragment .postgres).prepare .postgres).sql =
        "SELECT \"b\".\"id\" INNER JOIN \"b\" ON \"b\".\"id\" = \"b\".\"id\"" ∧
      ¬SourceClause orphan.sourceTokens := by
  intro crossed orphan
  refine ⟨⟨.run_of_queries_eq_nil rfl, fun kind => by cases kind <;> rfl, by decide +kernel, ?_⟩,
    .run_of_queries_eq_nil rfl, fun kind => by cases kind <;> rfl, by decide +kernel, ?_⟩
  · intro h
    have hcross := ((Select.sourceClause_iff _).mp h).2 _ (List.mem_singleton_self _)
    cases hcross.mpr rfl
  · intro h
    cases ((Select.sourceClause_iff _).mp h).1 (List.cons_ne_nil _ _)

end BoundSql
