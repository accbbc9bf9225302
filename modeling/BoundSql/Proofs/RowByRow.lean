import BoundSql.Dialect.BuiltIn
import BoundSql.Proofs.Build
import BoundSql.Proofs.Checks

/-!
# Row by row, a batch is insertions of its rows

An insertion is checked and written in two places, once for one row and once for many.  Main
statement: `Batch.row_by_row`.  A batch passes its check exactly if its rows set the same columns
and the insertion of each row by itself passes; and row by row, it becomes the statements that
these insertions become, each row in the column order of the first.

The batch checks its conflict clause against the first row only, and that is enough because the
clause does not depend on the order of the columns (`Conflict.checkOption_congr`).
-/

namespace BoundSql

/-- What is found in assignments determines what is asked of them. -/
theorem Assignments.check_congr {d : Dialect} {as bs : Assignments}
    (h : ∀ c, as.get? c = bs.get? c) : as.check d = .ok () ↔ bs.check d = .ok () := by
  simp only [Assignments.check_eq_ok_iff, Assignments.mem_values_iff, h]

namespace Batch

/-- The insertion of a row by itself. -/
def insertOf (b : Batch) (as : Assignments) : Insert := ⟨b.table, as, b.conflict, b.returning⟩

variable {b : Batch} {d : Dialect} {first row as bs : Assignments} {rest : List Assignments}

/-- Rows that set the same columns have the same names. -/
theorem mem_names_congr (h : ∀ c, c ∈ as.columns ↔ c ∈ bs.columns) (n : String) :
    n ∈ as.names ↔ n ∈ bs.names := by
  rw [Assignments.names_eq_map, Assignments.names_eq_map, List.mem_map, List.mem_map]
  simp only [h]

/-- A batch passes its check exactly if its rows agree in their columns and each of them passes by
itself. -/
theorem check_eq_ok_iff_insertOf (hrows : b.rows = first :: rest) :
    b.check d = .ok () ↔ ∀ row ∈ b.rows,
      (∀ c, c ∈ row.columns ↔ c ∈ first.columns) ∧ (b.insertOf row).check d = .ok () := by
  -- some things are asked of the first row only, and rows of the same columns pass them alike
  rw [check_eq_ok_iff hrows]
  constructor
  · rintro ⟨hempty, hsame, hvalues, hconflict, hreturning⟩ row hrow
    have hcolumns : ∀ c, c ∈ row.columns ↔ c ∈ first.columns := by
      rw [hrows] at hrow
      rcases List.mem_cons.mp hrow with rfl | hrest
      · exact fun _ => Iff.rfl
      · exact sameColumns_iff.mp (hsame row hrest)
    refine ⟨hcolumns, Insert.check_eq_ok_iff.mpr ⟨?_, hvalues row hrow, ?_, hreturning⟩⟩
    · rw [Assignments.isEmpty_eq_false_iff] at hempty ⊢
      obtain ⟨c, hc⟩ := hempty
      exact ⟨c, (hcolumns c).mpr hc⟩
    · have hnames : Conflict.checkOption d row.names b.conflict =
          Conflict.checkOption d first.names b.conflict :=
        Conflict.checkOption_congr (mem_names_congr hcolumns)
      exact hnames.trans hconflict
  · intro h
    have hall : ∀ row ∈ b.rows, _ := fun row hrow => Insert.check_eq_ok_iff.mp (h row hrow).2
    have hfirst : first ∈ b.rows := by
      rw [hrows]
      exact List.mem_cons_self
    obtain ⟨hempty, -, hconflict, hreturning⟩ := hall first hfirst
    refine ⟨hempty, fun row hrow => ?_, fun row hrow => (hall row hrow).2.1, hconflict, hreturning⟩
    have hmem : row ∈ b.rows := by
      rw [hrows]
      exact List.mem_cons_of_mem first hrow
    exact sameColumns_iff.mpr (h row hmem).1

/-- An insertion of the same values under the same columns passes as well. -/
theorem insertOf_check_congr (h : ∀ c, as.get? c = bs.get? c) :
    (b.insertOf as).check d = .ok () ↔ (b.insertOf bs).check d = .ok () := by
  have hcolumns : ∀ c, c ∈ as.columns ↔ c ∈ bs.columns := by
    simp only [Assignments.mem_columns_iff, h, implies_true]
  have hconflict : Conflict.checkOption d as.names b.conflict =
      Conflict.checkOption d bs.names b.conflict :=
    Conflict.checkOption_congr (mem_names_congr hcolumns)
  simp only [Insert.check_eq_ok_iff, insertOf, Assignments.isEmpty_eq_false_iff,
    Assignments.check_congr h, hcolumns, hconflict]

/-- The insertion of a row in the order of the first one is the statement of its tuple. -/
theorem prepare_insertOf_arranged (hrow : ∀ c, c ∈ row.columns ↔ c ∈ first.columns) :
    ((b.insertOf (row.arranged first.columns)).fragment d).prepare d =
      b.statement d first.names [tuple d (valuesIn first.columns row)] := by
  have hcolumns := Assignments.columns_arranged first.columns_nodup fun c hc => (hrow c).mpr hc
  have hnames : (row.arranged first.columns).names = first.names := by
    rw [Assignments.names_eq_map, hcolumns, Assignments.names_eq_map]
  rw [Insert.fragment, insertOf, hnames, Assignments.values_arranged first.columns_nodup]
  rfl

/-- Where one row is taken out of a list, it is the row at that place. -/
theorem toList_extract_one {α : Type} {xs : List α} {i : Nat} {x : α} (h : xs[i]? = some x) :
    (xs.toArray.extract i (i + 1)).toList = [x] := by
  obtain ⟨hi, rfl⟩ := List.getElem?_eq_some_iff.mp h
  rw [Array.toList_extract, List.extract_eq_take_drop, Nat.add_sub_cancel_left,
    List.drop_eq_getElem_cons hi]
  rfl

/-- Row by row, each row has a statement of its own. -/
theorem buildSpans_perRow (hrows : b.rows = first :: rest) (h : b.check d = .ok ())
    (limit : Option Nat) :
    ∃ spans : List (Span × Prepared),
      b.buildSpans d .perRow limit = .ok spans ∧ spans.length = b.rows.length ∧
      ∀ (i : Nat) (row : Assignments), b.rows[i]? = some row →
        spans[i]? = some (⟨i, i + 1⟩,
          b.statement d first.names [tuple d (valuesIn first.columns row)]) := by
  refine ⟨_, buildSpans_of_check_eq_ok hrows h, ?_, ?_⟩
  · simp [cut, tuples]
  · intro i row hrow
    obtain ⟨hi, -⟩ := List.getElem?_eq_some_iff.mp hrow
    have htuple : (b.tuples d first.columns)[i]? =
        some (tuple d (valuesIn first.columns row)) := by
      rw [tuples, List.getElem?_map, hrow]
      rfl
    have hlength : ((b.tuples d first.columns).map cost).length = b.rows.length := by
      rw [List.length_map, tuples, List.length_map]
    rw [cut, hlength, List.getElem?_map, List.getElem?_map, List.getElem?_range hi,
      Option.map_some, Option.map_some, toList_extract_one htuple]

/-- **Row by row, a batch is insertions of its rows.**  It passes its check exactly if the rows set
the columns of the first one and the insertion of each row passes.  Then statement number `i` is
of row number `i`, and it is what the insertion of this row becomes, its assignments in the column
order of the first. -/
theorem row_by_row (hrows : b.rows = first :: rest) (d : Dialect) :
    (b.check d = .ok () ↔ ∀ row ∈ b.rows,
      (∀ c, c ∈ row.columns ↔ c ∈ first.columns) ∧ (b.insertOf row).check d = .ok ()) ∧
    (b.check d = .ok () → ∀ limit, ∃ spans : List (Span × Prepared),
      b.buildSpans d .perRow limit = .ok spans ∧ spans.length = b.rows.length ∧
      ∀ (i : Nat) (row : Assignments), b.rows[i]? = some row →
        ∃ (as : Assignments) (prepared : Prepared),
          as.columns = first.columns ∧ (∀ c, as.get? c = row.get? c) ∧
          (Statement.insert (b.insertOf as)).build d = .ok prepared ∧
          spans[i]? = some (⟨i, i + 1⟩, prepared)) := by
  refine ⟨check_eq_ok_iff_insertOf hrows, fun hcheck limit => ?_⟩
  obtain ⟨spans, hbuild, hlength, hspans⟩ := buildSpans_perRow hrows hcheck limit
  refine ⟨spans, hbuild, hlength, fun i row hrow => ?_⟩
  have hmem : row ∈ b.rows := List.mem_of_getElem? hrow
  obtain ⟨hcolumns, hinsert⟩ := (check_eq_ok_iff_insertOf hrows).mp hcheck row hmem
  have hget := Assignments.get?_arranged_of_mem_iff first.columns_nodup hcolumns
  have hchecked : (b.insertOf (row.arranged first.columns)).check d = .ok () :=
    (insertOf_check_congr hget).mpr hinsert
  have hbuilt : (Statement.insert (b.insertOf (row.arranged first.columns))).build d =
      .ok (b.statement d first.names [tuple d (valuesIn first.columns row)]) :=
    Statement.build_eq_ok_iff.mpr ⟨hchecked, prepare_insertOf_arranged hcolumns⟩
  exact ⟨row.arranged first.columns, _,
    Assignments.columns_arranged first.columns_nodup fun c hc => (hcolumns c).mpr hc, hget, hbuilt,
    hspans i row hrow⟩

/-- Two rows with the same columns in different orders, and an upsert. -/
def turnedRow : Batch where
  table := { name := "t" }
  rows := [⟨[(⟨"t", "id"⟩, .literal (.int 1)), (⟨"t", "n"⟩, .now)], by decide⟩,
    ⟨[(⟨"t", "n"⟩, .literal .null), (⟨"t", "id"⟩, .literal (.int 2))], by decide⟩]
  conflict := some ⟨[⟨"t", "id"⟩], .overwriteAll⟩
  returning := [⟨"t", "n"⟩]

/-- The row that is turned round becomes the insertion of the row in the order of the first one. -/
theorem row_by_row_turnedRow :
    turnedRow.check .postgres = .ok () ∧ ∃ spans : List (Span × Prepared),
      turnedRow.buildSpans .postgres .perRow none = .ok spans ∧ spans.length = 2 ∧
      ∃ (as : Assignments) (prepared : Prepared),
        as.columns = [⟨"t", "id"⟩, ⟨"t", "n"⟩] ∧
        (Statement.insert (turnedRow.insertOf as)).build .postgres = .ok prepared ∧
        spans[1]? = some (⟨1, 2⟩, prepared) := by
  have hcheck : turnedRow.check .postgres = .ok () := rfl
  have h := row_by_row (b := turnedRow) rfl .postgres
  obtain ⟨spans, hbuild, hlength, hspans⟩ := h.2 hcheck none
  obtain ⟨as, prepared, hcolumns, -, hinsert, hspan⟩ := hspans 1 _ rfl
  exact ⟨hcheck, spans, hbuild, hlength, as, prepared, hcolumns, hinsert, hspan⟩

end Batch

end BoundSql
