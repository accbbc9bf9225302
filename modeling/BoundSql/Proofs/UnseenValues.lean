import BoundSql.Proofs.RelabeledStatement
import BoundSql.Proofs.RowByRow

/-!
# Bound values are never looked at

A value has its place among the parameters and no other effect: not on the check, not on the text,
not on where a batch is cut.  Main statement: `values_unseen`.  It compares two runs, one before and
one after all values are replaced by a function of them: in expressions, in the rows of a batch and
in the templates of the caller.  Both fail with the same error, or both give the same texts and
spans, and the function is all that the parameters of one differ from those of the other by.

So two rows of a batch that differ in their values alone have one text between them
(`Assignments.Alike`), whatever is in them.
-/

namespace BoundSql

variable {d : Dialect}

/-- The same text with other values bound. -/
def Prepared.revalue (h : Value → Value) (p : Prepared) : Prepared :=
  { p with params := p.params.map h }

/-! ## Other values under the same names -/

section

variable (h : Value → Value)

/-- There is no value in a phrase to change. -/
theorem Phrase.relabel_values (p : Phrase) : p.relabel (.values h) = p := by
  have hword (w : Word) : w.relabel (.values h) = w := by
    rcases w with text | identifier <;> rfl
  rw [Phrase.relabel, List.map_congr_left fun w _ => hword w, List.map_id']

/-- There is none in what an upsert does. -/
theorem UpsertAction.relabel_values (action : UpsertAction) :
    action.relabel (.values h) = action := by
  rcases action with _ | columns
  · rfl
  · exact congrArg UpsertAction.overwrite (List.map_id columns)

/-- No upsert clause is given values, so none depends on them. -/
theorem Dialect.relabels_values (d : Dialect) : d.Relabels (.values h) := by
  intro target columns action
  rw [Phrase.relabel_values, UpsertAction.relabel_values]
  show d.upsertClause (target.map id) (columns.map id) action = _
  rw [List.map_id, List.map_id]

/-- There is none in an error. -/
theorem QueryError.relabel_values (e : QueryError) : e.relabel (.values h) = e := by
  cases e with
  | heterogeneousBatch row expected found =>
    show heterogeneousBatch row (expected.map id) (found.map id) = _
    rw [List.map_id, List.map_id]
  | _ => rfl

/-- So a check that fails does so with the same error. -/
theorem mapError_relabel_values {α : Type} (x : Except QueryError α) :
    x.mapError (QueryError.relabel (.values h)) = x := by
  rcases x with e | a
  · exact congrArg Except.error (e.relabel_values h)
  · rfl

namespace Fragment

/-- The text of a fragment has a placeholder for each value, whatever the value is. -/
theorem textFrom_relabel_values (n : Nat) (f : Fragment) :
    textFrom d n (f.relabel (.values h)) = textFrom d n f := by
  induction f generalizing n with
  | nil => rfl
  | cons p f ih =>
    rcases p with (text | identifier) | v
    · exact congrArg (text ++ ·) (ih n)
    · exact congrArg (d.quote identifier ++ ·) (ih n)
    · exact congrArg (d.placeholder (n + 1) ++ ·) (ih (n + 1))

/-- A statement with other values is the statement, with other values in its parameters. -/
theorem prepare_relabel_values (f : Fragment) :
    (f.relabel (.values h)).prepare d = (f.prepare d).revalue h := by
  have hsql : ((f.relabel (.values h)).prepare d).sql = (f.prepare d).sql := by
    rw [sql_prepare, sql_prepare, textFrom_relabel_values]
  have hparams : ((f.relabel (.values h)).prepare d).params = (f.prepare d).params.map h := by
    rw [params_prepare, params_prepare, values_relabel]
    rfl
  exact congrArg₂ Prepared.mk hsql hparams

end Fragment

end

/-! ## Rows that differ in their values alone -/

/-- Everything bound is NULL. -/
def Relabeling.forget : Relabeling := .values fun _ => .null

/-- The rows differ in their values alone: values forgotten, the same is found under each column. -/
def Assignments.Alike (r s : Assignments) : Prop :=
  ∀ c, (r.get? c).map (Expr.relabel .forget) = (s.get? c).map (Expr.relabel .forget)

/-- Rows that are alike without their values are alike. -/
theorem Assignments.alike_of_relabel_eq {r s : Assignments}
    (h : r.relabel .forget = s.relabel .forget) : r.Alike s := by
  intro c
  rw [← get?_relabel, ← get?_relabel, h]

/-- The insertions of two such rows have the same text. -/
theorem Batch.sql_statement_of_alike {r s : Assignments} (h : r.Alike s) (b : Batch)
    (names : List String) (columns : List ColumnRef) :
    (b.statement d names [tuple d (valuesIn columns r)]).sql =
      (b.statement d names [tuple d (valuesIn columns s)]).sql := by
  have hvalues : (valuesIn columns r).map (Expr.relabel .forget) =
      (valuesIn columns s).map (Expr.relabel .forget) := by
    rw [valuesIn, valuesIn, List.map_filterMap, List.map_filterMap]
    exact List.filterMap_congr fun c _ => h c
  have htext (values : List Expr) :
      (b.statement d names [tuple d values]).sql =
        Fragment.textFrom d 0 (insertion d (b.table.relabel .forget) (names.map id)
          [tuple d (values.map (Expr.relabel .forget))]
          (b.conflict.map (Conflict.relabel .forget))
          (b.returning.map (ColumnRef.relabel .forget))) := by
    rw [statement, Fragment.sql_prepare, tuple_relabel,
      ← Fragment.textFrom_relabel_values fun _ => .null]
    exact congrArg _ (insertion_relabel (d.relabels_values _) _ _ [_] _ _).symm
  rw [htext, htext, hvalues]

/-! ## Two runs -/

/-- **Values are unseen.**  Replace every value by a function of it, in all expressions, rows and
templates.  Then a statement, and a batch with any strategy and any limit, gives the same error; or
the same texts and the same spans, with the values replaced among the parameters.  And row by row,
two rows that differ in their values alone have the same text. -/
theorem values_unseen (d : Dialect) (strategy : BatchStrategy) (limit : Option Nat) :
    (∀ (h : Value → Value) (s : Statement),
      (s.relabel (.values h)).build d = (s.build d).map (Prepared.revalue h)) ∧
    (∀ (h : Value → Value) (b : Batch),
      (b.relabel (.values h)).buildSpans d strategy limit =
        (b.buildSpans d strategy limit).map (List.map fun s => (s.1, s.2.revalue h))) ∧
    ∀ (b : Batch) (spans : List (Span × Prepared)), b.buildSpans d .perRow limit = .ok spans →
      ∀ (i j : Nat) (r s : Assignments), b.rows[i]? = some r → b.rows[j]? = some s → r.Alike s →
        ∃ p q : Prepared, spans[i]? = some (⟨i, i + 1⟩, p) ∧ spans[j]? = some (⟨j, j + 1⟩, q) ∧
          p.sql = q.sql := by
  refine ⟨fun h s => ?_, fun h b => ?_, fun b spans hbuild i j r s hi hj halike => ?_⟩
  · rw [Statement.build_relabel (d.relabels_values h), Statement.build_eq_map,
      Fragment.prepare_relabel_values]
    cases s.check d <;> rfl
  · rw [Batch.buildSpans_relabel (d.relabels_values h), mapError_relabel_values,
      Batch.buildSpans_eq_map]
    simp only [Fragment.prepare_relabel_values]
    rcases b.check d with e | _
    · rfl
    · refine congrArg Except.ok ?_
      rw [List.map_map]
      rfl
  · rcases hrows : b.rows with _ | ⟨first, rest⟩
    · rw [hrows] at hi
      cases hi
    · have hcheck := Batch.check_eq_ok_of_buildSpans hbuild
      obtain ⟨spans', hbuild', -, hspans⟩ := Batch.buildSpans_perRow hrows hcheck limit
      cases hbuild.symm.trans hbuild'
      exact ⟨_, _, hspans i r hi, hspans j s hj, Batch.sql_statement_of_alike halike b _ _⟩

/-- Two rows that differ in their values alone: one has NULL where the other has text that looks
like the end of a statement, and so do the templates. -/
def hostileRows : Batch where
  table := { name := "t" }
  rows := [⟨[(⟨"t", "id"⟩, .literal .null), (⟨"t", "n"⟩, .raw ⟨"coalesce(?, '?')", [.int 0]⟩)],
      by decide⟩,
    ⟨[(⟨"t", "id"⟩, .literal (.text "'); DROP TABLE t; --")),
      (⟨"t", "n"⟩, .raw ⟨"coalesce(?, '?')", [.text "?"]⟩)], by decide⟩]

/-- The hostile rows become statements of one text. -/
theorem values_unseen_hostileRows :
    ∃ spans : List (Span × Prepared), hostileRows.buildSpans .postgres .perRow none = .ok spans ∧
      ∃ p q : Prepared, spans[0]? = some (⟨0, 1⟩, p) ∧ spans[1]? = some (⟨1, 2⟩, q) ∧
        p.sql = q.sql := by
  have hcheck : hostileRows.check .postgres = .ok () := rfl
  obtain ⟨spans, hbuild, -, -⟩ := Batch.buildSpans_perRow (b := hostileRows) rfl hcheck none
  refine ⟨spans, hbuild, ?_⟩
  obtain ⟨-, -, hrows⟩ := values_unseen .postgres .perRow none
  exact hrows hostileRows spans hbuild 0 1 _ _ rfl rfl (Assignments.alike_of_relabel_eq rfl)

end BoundSql
