import BoundSql.Proofs.CallOrder
import BoundSql.Proofs.Counting
import BoundSql.Proofs.Fitness

/-!
# The clauses that a count keeps

The query for the number of rows is made from the query itself, and some of its clauses go.  Behind
a clause that goes placeholders have other numbers, and a value that stayed without its placeholder
would shift all values behind it.

Main statement: `Select.count_keeps_clauses`.  What the count has of the query is the text of some
of its clauses, in order and numbered from one, with the values that are bound there and no others.
If the query is fit for a dialect, so is its count.
-/

namespace BoundSql

/-! ## No page -/

/-- What a dialect writes where there is neither a limit nor an offset. -/
def Dialect.unpaged (d : Dialect) : Fragment :=
  (d.limitOffset none none).elim [] fun clause => [" ", clause]

/-- A dialect that writes pages for limits and offsets only writes nothing. -/
theorem Dialect.Paginates.unpaged_eq {d : Dialect} (h : d.Paginates) : d.unpaged = [] := by
  have hnone : d.limitOffset none none = none :=
    Option.not_isSome_iff_eq_none.mp (by rw [h]; decide)
  rw [unpaged, hnone]
  rfl

/-- Where there is no page nothing is bound for it. -/
theorem Dialect.values_unpaged (d : Dialect) : d.unpaged.values = [] := by
  unfold unpaged
  cases d.limitOffset none none <;> rfl

/-- So its text is the same wherever it stands. -/
theorem Dialect.textFrom_unpaged (d : Dialect) (n : Nat) :
    d.unpaged.textFrom d n = d.unpaged.textFrom d 0 := by
  unfold unpaged
  cases d.limitOffset none none <;> rfl

namespace Select

variable (d : Dialect) (q : Select)

/-! ## What is kept -/

namespace Clause

/-- The clauses that give the rows that are counted. -/
def counted : List Clause :=
  if q.mergesRows then [select, source, joins, condition, groups, having]
  else [source, joins, condition]

/-- The clauses in front of them. -/
def uncounted : List Clause := if q.mergesRows then [] else [select]

/-- The clauses behind them. -/
def trailing : List Clause := [order, pagination, lock]

end Clause

/-- The query is written as the clauses that are counted, with the others around them. -/
theorem fragment_eq_around_counted :
    q.fragment d =
      Clause.fragments d q (Clause.uncounted q) ++ Clause.fragments d q (Clause.counted q) ++
        Clause.fragments d q Clause.trailing := by
  rw [Clause.fragment_eq_fragments, ← Clause.fragments_append, ← Clause.fragments_append]
  cases h : q.mergesRows with
  | true =>
    rw [Clause.uncounted, Clause.counted, h]
    rfl
  | false =>
    obtain ⟨-, hgroups, hhaving⟩ := mergesRows_eq_false_iff.mp h
    have hnothing : Clause.fragments d q [.groups, .having] = [] := by
      simp [Clause.fragments, Clause.fragment, Fragment.concat, hgroups, hhaving,
        Expr.fragments, listClause, Predicate.clause]
    have hall : Clause.all = [.select, .source, .joins, .condition] ++
        ([.groups, .having] ++ Clause.trailing) := rfl
    rw [Clause.uncounted, Clause.counted, h, hall, Clause.fragments_append,
      Clause.fragments_append, hnothing, List.nil_append, ← Clause.fragments_append]
    rfl

/-! ## What is written -/

/-- What every count begins with. -/
def countHead : Fragment := ["SELECT ", "", "COUNT", "(", "", "*", ")"]

/-- What is written in front of a query that is counted as it is. -/
def derivedHead : Fragment := .concat [countHead, [" FROM ", "("]]

/-- What is written behind such a query. -/
def derivedTail : Fragment := [")", " AS ", Word.name "t"]

/-- `COUNT(*)` as it is written. -/
theorem comma_countAll : Fragment.comma [Expr.countAll.fragment d] =
    ["COUNT", "(", "", "*", ")"] := rfl

/-- Where rows are not merged, a count is written as its head and the clauses that are counted. -/
theorem fragment_count_of_not_mergesRows (h : q.mergesRows = false) :
    q.count.fragment d =
      countHead ++ Clause.fragments d q (Clause.counted q) ++ d.unpaged := by
  obtain ⟨hdistinct, hgroups, hhaving⟩ := mergesRows_eq_false_iff.mp h
  have hcount : q.count = { q.unordered with projection := [Expr.countAll] } :=
    if_neg (by simp [h])
  rw [hcount, Clause.counted, h]
  simp [Select.fragment, unordered, hdistinct, hgroups, hhaving, Clause.fragments,
    Clause.fragment, Fragment.concat, countHead, Dialect.unpaged, comma_countAll, Expr.fragments,
    OrderItem.fragments, listClause, Predicate.clause]

/-- Where they are, the query without order is written as the clauses that are counted. -/
theorem fragment_unordered_of_mergesRows (h : q.mergesRows = true) :
    q.unordered.fragment d = Clause.fragments d q (Clause.counted q) ++ d.unpaged := by
  rw [Clause.counted, h]
  simp [Select.fragment, unordered, Clause.fragments, Clause.fragment, Fragment.concat,
    Dialect.unpaged, OrderItem.fragments, listClause]

/-- A count of it is that query between parentheses. -/
theorem fragment_count_of_mergesRows (h : q.mergesRows = true) :
    q.count.fragment d =
      derivedHead ++ (Clause.fragments d q (Clause.counted q) ++ d.unpaged) ++
        derivedTail ++ d.unpaged := by
  have hcount : q.count = (({} : Select).column Expr.countAll).fromQuery q.unordered "t" :=
    if_pos h
  rw [← fragment_unordered_of_mergesRows d q h, hcount]
  simp [Select.fragment, fromQuery, column, Fragment.concat, countHead, derivedHead, derivedTail,
    Dialect.unpaged, comma_countAll, Expr.fragments, OrderItem.fragments, Join.fragments,
    listClause, Predicate.clause, Source.clause, Source.fragment, Fragment.parens]

/-- A count binds what the clauses bind that are counted. -/
theorem params_count :
    ((q.count.fragment d).prepare d).params =
      (Clause.fragments d q (Clause.counted q)).values := by
  rw [Fragment.params_prepare]
  cases h : q.mergesRows with
  | true =>
    rw [fragment_count_of_mergesRows d q h]
    simp [d.values_unpaged, countHead, derivedHead, derivedTail, Fragment.concat]
  | false =>
    rw [fragment_count_of_not_mergesRows d q h]
    simp [d.values_unpaged, countHead]

/-- The text of a count where rows are not merged. -/
theorem sql_count_of_not_mergesRows (h : q.mergesRows = false) :
    ((q.count.fragment d).prepare d).sql =
      "SELECT COUNT(*)" ++ (Clause.fragments d q (Clause.counted q)).textFrom d 0 ++
        d.unpaged.textFrom d 0 := by
  have hhead : countHead.textFrom d 0 = "SELECT COUNT(*)" := rfl
  rw [Fragment.sql_prepare, fragment_count_of_not_mergesRows d q h, Fragment.textFrom_append,
    Fragment.textFrom_append, hhead, d.textFrom_unpaged]
  rfl

/-- The text of a count where they are. -/
theorem sql_count_of_mergesRows (h : q.mergesRows = true) :
    ((q.count.fragment d).prepare d).sql =
      "SELECT COUNT(*) FROM (" ++ ((Clause.fragments d q (Clause.counted q)).textFrom d 0 ++
        d.unpaged.textFrom d 0) ++ ") AS " ++ d.quote "t" ++ d.unpaged.textFrom d 0 := by
  have hhead : derivedHead.textFrom d 0 = "SELECT COUNT(*) FROM (" := rfl
  have htail (n : Nat) : derivedTail.textFrom d n = ") AS " ++ d.quote "t" := by
    simp [derivedTail, ← String.append_assoc]
  rw [Fragment.sql_prepare, fragment_count_of_mergesRows d q h, Fragment.textFrom_append,
    Fragment.textFrom_append, Fragment.textFrom_append, Fragment.textFrom_append, hhead, htail,
    d.textFrom_unpaged, d.textFrom_unpaged (0 + _), ← String.append_assoc]
  rfl

/-! ## Fitness -/

variable {d q}

/-- The queries in a part of a fit query are fit. -/
theorem checkAll_of_mem_parts (h : q.check d = .ok ()) {n : Node} (hn : n ∈ q.parts) :
    checkAll d n.queries = .ok () := by
  rw [check, Node.queries_select, checkAll_eq_ok_iff, List.forall_mem_cons] at h
  rw [checkAll_eq_ok_iff]
  exact fun r hr => h.2 r (List.mem_flatMap_of_mem hn hr)

/-- A query is fit if it is by itself and the queries in its parts are. -/
theorem check_of_parts (hself : q.checkSelf d = .ok ())
    (hparts : ∀ n ∈ q.parts, checkAll d n.queries = .ok ()) : q.check d = .ok () := by
  rw [check, Node.queries_select, checkAll_eq_ok_iff, List.forall_mem_cons]
  refine ⟨hself, fun r hr => ?_⟩
  obtain ⟨n, hn, hr⟩ := List.mem_flatMap.mp hr
  exact (checkAll_eq_ok_iff d n.queries).mp (hparts n hn) r hr

/-- A query that passes its check is fit. -/
theorem fit_of_check (h : q.check d = .ok ()) : q.Fit d := by
  rw [check, Node.queries_select, checkAll_eq_ok_iff, List.forall_mem_cons] at h
  exact checkSelf_eq_ok_iff.mp h.1

/-- Without order, page and lock a fit query is still fit. -/
theorem check_unordered (h : q.check d = .ok ()) : q.unordered.check d = .ok () := by
  have hfit : q.unordered.Fit d := ⟨(fit_of_check h).selects, fun hlock => by cases hlock⟩
  refine check_of_parts (checkSelf_eq_ok_iff.mpr hfit) fun n hn => checkAll_of_mem_parts h ?_
  have hparts : q.parts = q.unordered.parts ++ q.order.map .orderItem := by
    simp [parts, unordered]
  rw [hparts]
  exact List.mem_append_left _ hn

/-- The count of a fit query is fit. -/
theorem check_count (h : q.check d = .ok ()) : q.count.check d = .ok () := by
  have hunordered := check_unordered h
  unfold count
  split
  -- the rows of a query within are counted
  · refine check_of_parts rfl fun n hn => ?_
    simp only [parts, column, fromQuery, List.nil_append, List.map_cons, List.map_nil,
      List.append_nil, Option.toList_some, Option.toList_none, List.cons_append, List.mem_cons,
      List.not_mem_nil, or_false] at hn
    rcases hn with rfl | rfl
    · rfl
    · exact hunordered
  -- only the columns change, so every other part is one of the query
  · have hself : ({ q.unordered with projection := [Expr.countAll] } : Select).checkSelf d =
        .ok () := rfl
    have hprojection (es : List Expr) : ({ q.unordered with projection := es } : Select).parts =
        es.map .expr ++ ({ q.unordered with projection := [] } : Select).parts := by
      simp [parts]
    have hparts : q.unordered.parts = q.projection.map .expr ++ _ := hprojection q.projection
    refine check_of_parts hself fun n hn => ?_
    rw [hprojection, List.mem_append] at hn
    rcases hn with hn | hn
    · rw [List.mem_singleton.mp hn]
      rfl
    · refine checkAll_of_mem_parts hunordered ?_
      rw [hparts]
      exact List.mem_append_right _ hn

/-! ## The whole -/

/-- **A count keeps what it counts, and nothing else.**  The count of a fit query is fit.  The query
is written as the clauses that are counted, behind the ones that are not.  If no rows are merged,
the count is written as `COUNT(*)` and those clauses, and if they are, as `COUNT(*)` from a query of
those clauses.  In both cases they are numbered from one, and what they bind is all that is bound.
A dialect could add something of its own only where it wrote a page for no limit and no offset. -/
theorem count_keeps_clauses (d : Dialect) (q : Select) :
    let before := Clause.fragments d q (Clause.uncounted q)
    let kept := Clause.fragments d q (Clause.counted q)
    let behind := Clause.fragments d q [.order, .pagination, .lock]
    let own := (q.fragment d).prepare d
    let count := (q.count.fragment d).prepare d
    let page := d.unpaged.textFrom d 0
    (q.check d = .ok () → q.count.check d = .ok ()) ∧
    own.sql = before.textFrom d 0 ++ kept.textFrom d before.values.length ++
      behind.textFrom d (before.values.length + kept.values.length) ∧
    own.params = before.values ++ kept.values ++ behind.values ∧
    count.params = kept.values ∧
    (q.distinct = false → q.groups = [] → q.having = none →
      Clause.counted q = [.source, .joins, .condition] ∧
      count.sql = "SELECT COUNT(*)" ++ kept.textFrom d 0 ++ page) ∧
    (q.distinct = true ∨ q.groups ≠ [] ∨ q.having ≠ none →
      Clause.counted q = [.select, .source, .joins, .condition, .groups, .having] ∧
      count.sql = "SELECT COUNT(*) FROM (" ++ (kept.textFrom d 0 ++ page) ++ ") AS " ++
        d.quote "t" ++ page) ∧
    (d.Paginates → page = "") ∧
    ∀ kind : DialectKind, kind.dialect.Paginates := by
  intro before kept behind own count page
  have hown : q.fragment d = before ++ kept ++ behind := fragment_eq_around_counted d q
  refine ⟨check_count, ?_, ?_, params_count d q, ?_, ?_, ?_, DialectKind.paginates⟩
  · rw [Fragment.sql_prepare, hown, Fragment.textFrom_append, Fragment.textFrom_append,
      Fragment.values_append, List.length_append, Nat.zero_add, Nat.zero_add]
  · rw [Fragment.params_prepare, hown, Fragment.values_append, Fragment.values_append]
  · intro hdistinct hgroups hhaving
    have h : q.mergesRows = false := mergesRows_eq_false_iff.mpr ⟨hdistinct, hgroups, hhaving⟩
    refine ⟨?_, sql_count_of_not_mergesRows d q h⟩
    rw [Clause.counted, if_neg (by simp [h])]
  · intro hmerges
    have h : q.mergesRows = true := by
      rw [← Bool.not_eq_false, mergesRows_eq_false_iff]
      rintro ⟨hdistinct, hgroups, hhaving⟩
      rcases hmerges with hmerges | hmerges | hmerges
      · rw [hdistinct] at hmerges
        cases hmerges
      · exact hmerges hgroups
      · exact hmerges hhaving
    exact ⟨if_pos h, sql_count_of_mergesRows d q h⟩
  · intro hd
    exact congrArg (Fragment.textFrom d 0) hd.unpaged_eq

/-- Adults, the oldest ten, with something bound in front of the age and behind it. -/
def oldestAdults : Select where
  projection := [.literal (.bool true), .column ⟨"users", "name"⟩]
  source := some (.table { name := "users" })
  condition := some (.compare (.column ⟨"users", "age"⟩) .ge (.literal (.bigInt 18)))
  order := [⟨.binary (.column ⟨"users", "age"⟩) .add (.literal (.bigInt 1)), .desc, some .last⟩]
  limit := some 10

/-- Adults are counted whatever their order and limit.  What was bound in front of the age is left
out, so the age takes the first number. -/
theorem count_keeps_clauses_oldestAdults :
    let count := (oldestAdults.count.fragment Dialect.postgres).prepare Dialect.postgres
    let distinct := oldestAdults.distinctRows
    let countDistinct := (distinct.count.fragment Dialect.postgres).prepare Dialect.postgres
    oldestAdults.count.check Dialect.postgres = .ok () ∧
    count.sql = "SELECT COUNT(*) FROM \"users\" WHERE \"users\".\"age\" >= $1" ∧
    count.params = [.bigInt 18] ∧
    countDistinct.sql = "SELECT COUNT(*) FROM (SELECT DISTINCT $1, \"users\".\"name\" " ++
      "FROM \"users\" WHERE \"users\".\"age\" >= $2) AS \"t\"" ∧
    countDistinct.params = [.bool true, .bigInt 18] := by
  intro count distinct countDistinct
  obtain ⟨hcheck, -, -, hparams, hplain, -⟩ := count_keeps_clauses Dialect.postgres oldestAdults
  obtain ⟨-, -, -, hparams', -, hmerged, -⟩ := count_keeps_clauses Dialect.postgres distinct
  exact ⟨hcheck rfl, (hplain rfl rfl rfl).2.trans (by decide +kernel), hparams,
    (hmerged (.inl rfl)).2.trans (by decide +kernel), hparams'⟩

end Select

end BoundSql
