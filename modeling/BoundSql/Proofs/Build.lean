import BoundSql.Batch
import BoundSql.Statement.Basic

/-!
# What is built

A statement that passes its check is built without fail, and so is a batch.  The rows of a batch
are put into the order of the first one (`Batch.tuples`), cut into spans, and each span is written
as one statement.
-/

namespace BoundSql

/-- A statement that passes its check is written. -/
theorem Statement.build_eq_ok_iff {d : Dialect} {s : Statement} {p : Prepared} :
    s.build d = .ok p ↔ s.check d = .ok () ∧ (s.fragment d).prepare d = p := by
  rw [Statement.build]
  cases s.check d with
  | error e => simp [bind, Except.bind]
  | ok _ => simp [bind, Except.bind, pure, Except.pure]

namespace Batch

variable {b : Batch} {d : Dialect} {strategy : BatchStrategy} {limit : Option Nat}

/-- The tuples of the rows, values in the order of `columns`. -/
def tuples (b : Batch) (d : Dialect) (columns : List ColumnRef) : List Fragment :=
  b.rows.map fun row => tuple d (valuesIn columns row)

/-- A batch that fails its check is not cut. -/
theorem buildSpans_of_check_eq_error {e : QueryError} (h : b.check d = .error e) :
    b.buildSpans d strategy limit = .error e := by
  rw [buildSpans, h]
  rfl

/-- A batch without rows becomes no statement. -/
theorem buildSpans_of_rows_eq_nil (hrows : b.rows = []) :
    b.buildSpans d strategy limit = .ok [] := by
  have hcheck : b.check d = .ok () := by rw [check, hrows]
  rw [buildSpans, hcheck, hrows]
  rfl

/-- A batch that passes its check is cut, and each span becomes one statement. -/
theorem buildSpans_of_check_eq_ok {first : Assignments} {rest : List Assignments}
    (hrows : b.rows = first :: rest) (h : b.check d = .ok ()) :
    b.buildSpans d strategy limit =
      .ok ((cut strategy limit ((b.tuples d first.columns).map cost)).map fun span =>
        (span, b.statement d first.names
          ((b.tuples d first.columns).toArray.extract span.start span.stop).toList)) := by
  rw [buildSpans, h, tuples, hrows]
  rfl

/-- Only a batch that passes its check is built. -/
theorem check_eq_ok_of_buildSpans {spans : List (Span × Prepared)}
    (h : b.buildSpans d strategy limit = .ok spans) : b.check d = .ok () := by
  cases hcheck : b.check d with
  | ok _ => rfl
  | error e =>
    rw [buildSpans_of_check_eq_error hcheck] at h
    cases h

/-- The statements of a batch are those of its spans. -/
theorem buildWith_eq_ok_iff {ps : List Prepared} :
    b.buildWith d strategy limit = .ok ps ↔
      ∃ spans, b.buildSpans d strategy limit = .ok spans ∧ spans.map Prod.snd = ps := by
  rw [buildWith]
  cases b.buildSpans d strategy limit with
  | error e => simp [bind, Except.bind]
  | ok spans => simp [bind, Except.bind, pure, Except.pure]

/-! ## The fragments of a batch -/

/-- The fragments that the statements of a batch are written from. -/
def fragments (b : Batch) (d : Dialect) (strategy : BatchStrategy) (limit : Option Nat) :
    List Fragment :=
  match b.rows with
  | [] => []
  | first :: _ =>
    (cut strategy limit ((b.tuples d first.columns).map cost)).map fun span =>
      insertion d b.table first.names
        ((b.tuples d first.columns).toArray.extract span.start span.stop).toList b.conflict
        b.returning

/-- A batch that passes its check is written, fragment by fragment. -/
theorem buildWith_eq_ok_iff_fragments {ps : List Prepared} :
    b.buildWith d strategy limit = .ok ps ↔
      b.check d = .ok () ∧ (b.fragments d strategy limit).map (Fragment.prepare d) = ps := by
  cases hcheck : b.check d with
  | error e =>
    rw [buildWith, buildSpans_of_check_eq_error hcheck]
    simp [bind, Except.bind]
  | ok _ =>
    rw [buildWith_eq_ok_iff]
    cases hrows : b.rows with
    | nil =>
      rw [buildSpans_of_rows_eq_nil hrows, fragments, hrows]
      simp
    | cons first rest =>
      rw [buildSpans_of_check_eq_ok hrows hcheck, fragments, hrows]
      simp only [Except.ok.injEq, exists_eq_left', List.map_map, true_and]
      rfl

/-- Every fragment of a batch is the insertion of tuples of its rows. -/
theorem exists_of_mem_fragments {f : Fragment} (hf : f ∈ b.fragments d strategy limit) :
    ∃ columns names ts, f = insertion d b.table names ts b.conflict b.returning ∧
      ∀ t ∈ ts, t ∈ b.tuples d columns := by
  rw [fragments] at hf
  split at hf
  · cases hf
  · next first rest _ =>
    obtain ⟨span, _, rfl⟩ := List.mem_map.mp hf
    refine ⟨first.columns, first.names, _, rfl, fun t ht => ?_⟩
    rw [Array.toList_extract, List.extract_eq_take_drop] at ht
    exact List.mem_of_mem_drop (List.mem_of_mem_take ht)

/-- Every statement of a built batch is written from one of its fragments. -/
theorem exists_of_mem_buildSpans {spans : List (Span × Prepared)}
    (h : b.buildSpans d strategy limit = .ok spans) {s : Span × Prepared} (hs : s ∈ spans) :
    ∃ f ∈ b.fragments d strategy limit, f.prepare d = s.2 := by
  have hbuild : b.buildWith d strategy limit = .ok (spans.map Prod.snd) :=
    buildWith_eq_ok_iff.mpr ⟨spans, h, rfl⟩
  obtain ⟨-, heq⟩ := buildWith_eq_ok_iff_fragments.mp hbuild
  have hmem : s.2 ∈ spans.map Prod.snd := List.mem_map_of_mem hs
  rw [← heq] at hmem
  exact List.mem_map.mp hmem

end Batch

end BoundSql
