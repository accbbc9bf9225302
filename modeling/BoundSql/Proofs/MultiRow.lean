import BoundSql.Dialect.BuiltIn
import BoundSql.Proofs.Build
import BoundSql.Proofs.Tiling
import BoundSql.Proofs.Writing

/-!
# Many rows in one statement

A statement of a batch is an opening, the tuples of its rows with commas between them, and a
closing.  The opening and the closing do not depend on the rows, and a tuple depends on the rows
before it in the statement only through the number of values that they bind
(`Batch.statement_eq`).

Main statement: `Batch.nothing_lost`.  With many rows at a time the spans tile the rows, and a
statement says and binds what the statements of its rows by themselves say and bind, the
placeholders numbered on from tuple to tuple.  So all statements together bind the same values in
the same order, however the batch is cut.
-/

namespace BoundSql

namespace Batch

variable {b : Batch} {d : Dialect} {strategy : BatchStrategy} {limit : Option Nat}

/-- The columns that the batch sets, in the order in which they are written. -/
def columns (b : Batch) : List ColumnRef := b.rows.head?.elim [] Assignments.columns

/-- Their names. -/
def names (b : Batch) : List String := b.rows.head?.elim [] Assignments.names

/-- What a statement of the batch has before its tuples. -/
def opening (b : Batch) (d : Dialect) : String :=
  "INSERT INTO " ++ d.quote b.table.name ++ " (" ++ d.quoteList b.names ++ ") VALUES "

/-- What a statement of the batch has behind its tuples. -/
def closing (b : Batch) (d : Dialect) : String :=
  d.write (Conflict.clause d b.names b.conflict) ++ d.write (Returning.clause b.returning)

/-- A statement of the batch has its tuples, numbered from one on, between the opening and the
closing, and binds their values. -/
theorem statement_eq (ts : List Fragment) :
    b.statement d b.names ts =
      ⟨b.opening d ++ ", ".intercalate (Fragment.textsFrom d 0 ts) ++ b.closing d,
        ts.flatMap Fragment.values⟩ := by
  have hopening : d.write (.concat [["INSERT INTO ", .name b.table.name, " ("], .names b.names,
      [") VALUES "]]) = b.opening d := by
    simp [opening, Dialect.write, Dialect.quoteList, Phrase.write, Phrase.concat,
      String.append_assoc]
  have hsql : Fragment.textFrom d 0 (insertion d b.table b.names ts b.conflict b.returning) =
      b.opening d ++ ", ".intercalate (Fragment.textsFrom d 0 ts) ++ b.closing d := by
    simp only [insertion, Fragment.concat, List.flatten_cons, List.flatten_nil, List.append_nil,
      Fragment.textFrom_append, Fragment.textFrom_ofPhrase, Fragment.textFrom_comma, hopening,
      Fragment.values_ofPhrase, List.length_nil, Nat.add_zero, closing, String.append_assoc]
  have hvalues : (insertion d b.table b.names ts b.conflict b.returning).values =
      ts.flatMap Fragment.values := by
    rw [insertion, Fragment.values_concat]
    simp [Fragment.comma, Fragment.values_sepBy]
  rw [statement, Fragment.prepare]
  simp only [Fragment.sql_write, Fragment.params_write, List.size_toArray, List.length_nil, hsql,
    hvalues, List.nil_append]

/-- The batch of one row. -/
def ofInsert (i : Insert) : Batch where
  table := i.table
  rows := [i.assignments]
  conflict := i.conflict
  returning := i.returning

/-- The statement of one row is that of a batch which has no other. -/
theorem prepare_insert (i : Insert) (d : Dialect) :
    (i.fragment d).prepare d =
      (ofInsert i).statement d (ofInsert i).names [tuple d i.assignments.values] := rfl

/-! ## Statements of spans -/

/-- The statement that inserts the rows of a span. -/
def chunk (b : Batch) (d : Dialect) (s : Span) : Prepared :=
  b.statement d b.names (s.slice (b.tuples d b.columns))

/-- What the rows cost. -/
def costs (b : Batch) (d : Dialect) : List Nat := (b.tuples d b.columns).map cost

/-- The spans into which the batch is cut. -/
def spans (b : Batch) (d : Dialect) (strategy : BatchStrategy) (limit : Option Nat) : List Span :=
  if b.rows.isEmpty then [] else cut strategy limit (b.costs d)

/-- There is one tuple for each row. -/
theorem length_tuples (columns : List ColumnRef) : (b.tuples d columns).length = b.rows.length :=
  List.length_map _

/-- There is one cost for each row. -/
theorem length_costs : (b.costs d).length = b.rows.length := by
  rw [costs, List.length_map, length_tuples]

/-- A batch with rows has costs. -/
theorem costs_ne_nil (h : ¬b.rows.isEmpty) : b.costs d ≠ [] := by
  intro hnil
  have hlength := length_costs (b := b) (d := d)
  rw [hnil, List.length_nil] at hlength
  exact h (List.isEmpty_iff.mpr (List.length_eq_zero_iff.mp hlength.symm))

/-- A batch that passes its check is cut into spans, and each span becomes a statement. -/
theorem buildSpans_eq (h : b.check d = .ok ()) :
    b.buildSpans d strategy limit =
      .ok ((b.spans d strategy limit).map fun s => (s, b.chunk d s)) := by
  cases hrows : b.rows with
  | nil =>
    rw [buildSpans_of_rows_eq_nil hrows, spans, hrows, List.isEmpty_nil, if_pos rfl, List.map_nil]
  | cons first rest =>
    have hcolumns : b.columns = first.columns := by rw [columns, hrows]; rfl
    have hnames : b.names = first.names := by rw [names, hrows]; rfl
    rw [buildSpans_of_check_eq_ok hrows h, spans, hrows, costs, hcolumns]
    simp only [chunk, hcolumns, hnames, Array.toList_extract]
    rfl

/-- A batch that passes its check becomes the statements of its spans. -/
theorem buildWith_eq (h : b.check d = .ok ()) :
    b.buildWith d strategy limit = .ok ((b.spans d strategy limit).map (b.chunk d)) := by
  rw [buildWith_eq_ok_iff]
  exact ⟨_, buildSpans_eq h, by rw [List.map_map]; rfl⟩

/-- The spans tile the rows. -/
theorem tile_spans (b : Batch) (d : Dialect) (strategy : BatchStrategy) (limit : Option Nat) :
    Span.Tile 0 (b.spans d strategy limit) b.rows.length := by
  rw [spans]
  split
  · next hrows => rw [List.isEmpty_iff.mp hrows]; rfl
  · next hrows =>
    have htile := tile_cut strategy limit (costs_ne_nil (d := d) hrows)
    rwa [length_costs] at htile

/-- The statement of a span binds what its tuples bind. -/
theorem params_chunk (s : Span) :
    (b.chunk d s).params = (s.slice (b.tuples d b.columns)).flatMap Fragment.values := by
  rw [chunk, statement_eq]

/-- The statements of all spans together bind the values of the tuples, in order. -/
theorem flatMap_params_chunk (strategy : BatchStrategy) (limit : Option Nat) :
    ((b.spans d strategy limit).map (b.chunk d)).flatMap Prepared.params =
      (b.tuples d b.columns).flatMap Fragment.values := by
  have htile := b.tile_spans d strategy limit
  rw [← length_tuples (d := d) b.columns] at htile
  calc ((b.spans d strategy limit).map (b.chunk d)).flatMap Prepared.params
      = (b.spans d strategy limit).flatMap fun s =>
          (s.slice (b.tuples d b.columns)).flatMap Fragment.values := by
        rw [List.flatMap_map]
        simp only [params_chunk]
    _ = ((b.spans d strategy limit).map fun s => s.slice (b.tuples d b.columns)).flatten.flatMap
          Fragment.values := by
        rw [← List.flatMap_def, List.flatMap_assoc]
    _ = (b.tuples d b.columns).flatMap Fragment.values := by
        rw [htile.flatten_slice_length]

/-- The statement that a tuple has by itself. -/
def alone (b : Batch) (d : Dialect) (t : Fragment) : Prepared :=
  ⟨b.opening d ++ Fragment.textFrom d 0 t ++ b.closing d, t.values⟩

/-- Row by row, each tuple has a statement by itself. -/
theorem map_chunk_perRow (limit : Option Nat) :
    (b.spans d .perRow limit).map (b.chunk d) = (b.tuples d b.columns).map (b.alone d) := by
  have hone (t : Fragment) : b.statement d b.names [t] = b.alone d t := by
    rw [statement_eq]
    simp [alone, Fragment.textsFrom]
  cases hrows : b.rows with
  | nil => simp [spans, tuples, hrows]
  | cons first rest =>
    have hlength : (b.costs d).length = (b.tuples d b.columns).length := List.length_map _
    have hslices := Span.map_slice_range (b.tuples d b.columns)
    have hchunks := congrArg (List.map (b.statement d b.names)) hslices
    rw [spans, hrows, List.isEmpty_cons, if_neg Bool.false_ne_true, cut, hlength, List.map_map]
    simpa only [List.map_map, Function.comp_def, hone, chunk] using hchunks

/-! ## Nothing is lost -/

/-- **Many rows at a time, nothing is lost, repeated or moved.**  Row by row, each tuple stands
alone between the opening and the closing.  With many rows at a time and any limit, the spans tile
the rows; the statement of a span binds what the statements of its rows bind, in order; and it is
the statement of its first row with that tuple replaced by the tuples of all its rows, numbered on
from one to the next.  However a batch is cut, its statements bind the same values in the same
order. -/
theorem nothing_lost (h : b.check d = .ok ()) :
    ∃ single : List Prepared,
      single = (b.tuples d b.columns).map (b.alone d) ∧
      (∀ limit, b.buildWith d .perRow limit = .ok single) ∧
      (∀ limit, ∃ spans : List (Span × Prepared), b.buildSpans d .multiRow limit = .ok spans ∧
        Span.Tile 0 (spans.map Prod.fst) b.rows.length ∧
        ∀ s ∈ spans,
          s.2.params = (s.1.slice single).flatMap Prepared.params ∧
          s.2.sql = b.opening d ++
            ", ".intercalate (Fragment.textsFrom d 0 (s.1.slice (b.tuples d b.columns))) ++
            b.closing d) ∧
      ∀ strategy limit, ∃ ps, b.buildWith d strategy limit = .ok ps ∧
        ps.flatMap Prepared.params = single.flatMap Prepared.params := by
  refine ⟨_, rfl, fun limit => ?_, fun limit => ⟨_, buildSpans_eq h, ?_, ?_⟩,
    fun strategy limit => ⟨_, buildWith_eq h, ?_⟩⟩
  · rw [buildWith_eq h, map_chunk_perRow]
  · have hspans : ((b.spans d .multiRow limit).map fun s => (s, b.chunk d s)).map Prod.fst =
        b.spans d .multiRow limit := by
      rw [List.map_map]
      exact List.map_id _
    rw [hspans]
    exact b.tile_spans d .multiRow limit
  · intro s hs
    obtain ⟨span, -, rfl⟩ := List.mem_map.mp hs
    refine ⟨?_, ?_⟩
    · rw [params_chunk, Span.slice_map, List.flatMap_map]
      rfl
    · show (b.chunk d span).sql = _
      rw [chunk, statement_eq]
  · rw [flatMap_params_chunk, List.flatMap_map]
    rfl

/-- Three rows that bind one value, two and none; the last is in another order. -/
def unevenRows : Batch where
  table := { name := "t" }
  rows := [⟨[(⟨"t", "id"⟩, .literal (.int 3)), (⟨"t", "n"⟩, .now)], by decide⟩,
    ⟨[(⟨"t", "id"⟩, .literal (.int 2)), (⟨"t", "n"⟩, .literal .null)], by decide⟩,
    ⟨[(⟨"t", "n"⟩, .now), (⟨"t", "id"⟩, .now)], by decide⟩]

/-- The uneven rows are cut at two values for each statement, and the spans tile the three rows. -/
theorem nothing_lost_unevenRows :
    unevenRows.check .postgres = .ok () ∧ ∃ spans : List (Span × Prepared),
      unevenRows.buildSpans .postgres .multiRow (some 2) = .ok spans ∧
      Span.Tile 0 (spans.map Prod.fst) 3 := by
  have hcheck : unevenRows.check .postgres = .ok () := rfl
  obtain ⟨single, -, -, hmulti, -⟩ := nothing_lost hcheck
  obtain ⟨spans, hbuild, htile, -⟩ := hmulti (some 2)
  exact ⟨hcheck, spans, hbuild, htile⟩

end Batch

end BoundSql
