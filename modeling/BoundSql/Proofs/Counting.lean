import BoundSql.Dialect.Kind
import BoundSql.Proofs.ResultRows
import BoundSql.Query.Check

/-!
# What counting counts

`Select.count` is meant to give the number of rows of a query.  If rows are merged, it counts the
rows of the query as it is, and if they are not, it counts the rows of the sources.  That the rows
of sources and of the query are as many is taken for granted there, but an aggregate in the
projection makes one row of all of them.

Main statement: `Select.count_eq_length_iff`.  The count is right for queries that merge rows and
for queries without an aggregate, and else only if there happens to be one row.
`count_of_total` is a query whose count is wrong.
-/

namespace BoundSql

namespace Select

variable (S : Store) (q : Select)

/-- The number that counting the rows of the query gives. -/
def counted : Nat := if q.mergesRows then (q.unordered.results S).length else (q.kept S).length

variable {S q}

/-- Nothing merges rows but a word, a list of groups or a condition on them. -/
theorem mergesRows_eq_false_iff :
    q.mergesRows = false ↔ q.distinct = false ∧ q.groups = [] ∧ q.having = none := by
  simp [mergesRows, and_assoc]

/-- Where rows are not merged, the bunches are all rows or single ones. -/
theorem bunches_of_not_mergesRows (h : q.mergesRows = false) (rows : List S.Row) :
    q.bunches S rows = if q.aggregates S then [rows] else rows.map fun r => [r] := by
  obtain ⟨-, hgroups, hhaving⟩ := mergesRows_eq_false_iff.mp h
  rw [bunches, hgroups, hhaving]
  rfl

/-- Where rows are not merged, an aggregate makes one row of all, and else they stay as many. -/
theorem length_results_of_not_mergesRows (h : q.mergesRows = false) :
    (q.unordered.results S).length = if q.aggregates S then 1 else (q.kept S).length := by
  obtain ⟨hdistinct, -, -⟩ := mergesRows_eq_false_iff.mp h
  rw [results_unordered, bunches_of_not_mergesRows h, hdistinct]
  cases q.aggregates S with
  | true => rfl
  | false => simp

/-- A query for `COUNT(*)` that does not merge rows gives the number of those it keeps. -/
theorem results_countAll (h : q.mergesRows = false) (hprojection : q.projection = [Expr.countAll]) :
    q.unordered.results S = [[S.number (q.kept S).length]] := by
  obtain ⟨hdistinct, -, -⟩ := mergesRows_eq_false_iff.mp h
  have haggregates : q.aggregates S = true := by
    rw [aggregates, hprojection]
    rfl
  rw [results_unordered, bunches_of_not_mergesRows h, hdistinct, haggregates]
  simp [cells, hprojection, S.eval_countAll]

/-- Where rows are merged, the rows of the query itself are counted. -/
theorem results_count_of_mergesRows (h : q.mergesRows = true) :
    q.count.results S = [[S.number (q.unordered.results S).length]] := by
  have hcount : q.count = (({} : Select).column Expr.countAll).fromQuery q.unordered "t" :=
    if_pos h
  have hkept : (q.count.kept S).length = (q.unordered.results S).length := by
    rw [hcount, ← S.length_derived "t"]
    exact congrArg List.length (List.filter_eq_self.mpr fun _ _ => rfl)
  have hunordered : q.count.unordered = q.count := by rw [hcount]; rfl
  rw [← hunordered, results_countAll (by rw [hcount]; rfl) (by rw [hcount]; rfl), hkept]

/-- Where they are not, the rows of its sources are counted that meet its conditions. -/
theorem results_count_of_not_mergesRows (h : q.mergesRows = false) :
    q.count.results S = [[S.number (q.kept S).length]] := by
  have hcount : q.count = { q.unordered with projection := [Expr.countAll] } :=
    if_neg (by simp [h])
  have hmerges : q.count.mergesRows = false := by rw [hcount]; exact h
  have hkept : q.count.kept S = q.kept S := by rw [hcount]; rfl
  have hunordered : q.count.unordered = q.count := by rw [hcount]; rfl
  rw [← hunordered, results_countAll hmerges (by rw [hcount]), hkept]

/-- **Counting counts the rows of the query, or those of its sources.**  What it gives is one row
with one number.  The number is that of the rows of the query if rows are merged or no aggregate is
in the projection; an aggregate that stands where nothing merges rows makes it wrong, unless the
sources have one row. -/
theorem count_eq_length_iff (S : Store) (q : Select) :
    (∀ n, q.count.results S = [[S.number n]] ↔ n = q.counted S) ∧
      (q.counted S = (q.unordered.results S).length ↔
        q.mergesRows = true ∨ q.aggregates S = false ∨ (q.kept S).length = 1) := by
  have hnumber (m n : Nat) : [[S.number m]] = [[S.number n]] ↔ n = m := by
    simp only [List.cons.injEq, and_true]
    exact ⟨fun h => (S.number_inj h).symm, fun h => h ▸ rfl⟩
  cases h : q.mergesRows with
  | true =>
    have hcounted : q.counted S = (q.unordered.results S).length := if_pos h
    rw [results_count_of_mergesRows h, hcounted]
    exact ⟨fun n => hnumber _ n, iff_of_true rfl (.inl rfl)⟩
  | false =>
    have hcounted : q.counted S = (q.kept S).length := if_neg (by simp [h])
    rw [results_count_of_not_mergesRows h, hcounted, length_results_of_not_mergesRows h]
    refine ⟨fun n => hnumber _ n, ?_⟩
    cases q.aggregates S <;> simp

end Select

/-- Amounts together. -/
def totalAmount (amounts : List Nat) : Nat := amounts.foldl (· + ·) 0

/-- A store with two orders in every table, of which columns hold amounts. -/
def twoOrders : Store where
  Row := Nat
  Cell := Nat
  number := id
  number_inj := id
  aggregates _ := false
  void := 0
  scan _ := [30, 40]
  derived _ rows := rows.map totalAmount
  length_derived _ _ := List.length_map _
  joined _ _ rows _ := rows
  holds _ _ := true
  grouped _ rows := rows.map fun r => [r]
  holdsFor _ _ := true
  columns := id
  eval _ bunch e :=
    match e with
    | .call "COUNT" _ _ => bunch.length
    | _ => totalAmount bunch
  eval_countAll _ _ := rfl
  distinct := List.eraseDups
  sorted _ := id

/-- The total of all orders. -/
def totalOfOrders : Select where
  projection := [.call "SUM" [.column ⟨"orders", "amount"⟩] false]
  source := some (.table { name := "orders" })

/-- **The total of two orders is one row, and is counted as two.** -/
theorem count_of_total :
    (∀ kind : DialectKind, totalOfOrders.check kind.dialect = .ok ()) ∧
      totalOfOrders.unordered.results twoOrders = [[twoOrders.number 70]] ∧
      totalOfOrders.count.results twoOrders = [[twoOrders.number 2]] ∧
      totalOfOrders.counted twoOrders ≠ (totalOfOrders.unordered.results twoOrders).length := by
  refine ⟨fun kind => ?_, rfl, rfl, by decide⟩
  cases kind <;> rfl

end BoundSql
