import BoundSql.Dialect.Kind
import BoundSql.Proofs.Fitness
import BoundSql.Proofs.MultiRow

/-!
# Upsert clauses

What is to be done about rows that are already there is checked in one place and written in
another, and each works out for itself which columns are to be overwritten.  That the two agree is
what `Conflict.complete_of_check` says, for each of the three dialects that have such clauses: a
clause that passes its check is written with everything it needs.  Nowhere is there an empty list
of assignments, and where a target is needed there is one.

Main statement: `upserts_complete`.  It speaks of whole statements, for one row and for many.  The
names that the check sees are those that the statement inserts under, although the rows of a batch
may have them in different orders; and if all columns are to be overwritten, these are the inserted
ones that are not in the target.
-/

namespace BoundSql

namespace Conflict

/-! ## Complete clauses -/

/-- The clause overwrites these columns, in this order, given the names of the inserted ones. -/
def Assigns (c : Conflict) (inserted assigned : List String) : Prop :=
  match c.action with
  | .keep => False
  | .overwrite columns => assigned = columns.map ColumnRef.name
  | .overwriteAll => assigned = inserted.filter fun name => name ∉ c.targetNames

/-- A clause with nothing missing, as a dialect spells it, and the columns that are assigned in
it. -/
inductive Complete (c : Conflict) (inserted : List String) :
    DialectKind → List String → String → Prop
  /-- Rows stay: nothing is assigned, and there may be no target. -/
  | stays {k : DialectKind} (hk : k = .postgres ∨ k = .sqlite) (haction : c.action = .keep) :
    Complete c inserted k []
      ("ON CONFLICT" ++
        (if c.target = [] then "" else " (" ++ k.dialect.quoteList c.targetNames ++ ")") ++
        " DO NOTHING")
  /-- Rows that agree in the target are overwritten. -/
  | overwrites {k : DialectKind} {assigned : List String} (hk : k = .postgres ∨ k = .sqlite)
    (htarget : c.target ≠ []) (hassigned : assigned ≠ []) (h : c.Assigns inserted assigned) :
    Complete c inserted k assigned
      ("ON CONFLICT (" ++ k.dialect.quoteList c.targetNames ++ ") DO UPDATE SET " ++
        ", ".intercalate (assigned.map fun name =>
          k.dialect.quote name ++ " = EXCLUDED." ++ k.dialect.quote name))
  /-- Rows stay: one column is assigned to itself. -/
  | itself {name : String} (haction : c.action = .keep)
    (hname : (c.targetNames ++ inserted).head? = some name) :
    Complete c inserted .mysql [name]
      ("ON DUPLICATE KEY UPDATE " ++ Dialect.mysql.quote name ++ " = " ++
        Dialect.mysql.quote name)
  /-- Rows that agree in any key are overwritten. -/
  | overwritesAny {assigned : List String} (hassigned : assigned ≠ [])
    (h : c.Assigns inserted assigned) :
    Complete c inserted .mysql assigned
      ("ON DUPLICATE KEY UPDATE " ++
        ", ".intercalate (assigned.map fun name =>
          Dialect.mysql.quote name ++ " = VALUES(" ++ Dialect.mysql.quote name ++ ")"))

variable {c : Conflict} {inserted assigned : List String} {k : DialectKind} {clause : String}

/-- If all columns are overwritten, those of the target are not. -/
theorem Assigns.not_mem_target (h : c.Assigns inserted assigned)
    (haction : c.action = .overwriteAll) {name : String} (hname : name ∈ assigned) :
    name ∉ c.targetNames := by
  rw [Assigns, haction] at h
  subst h
  simpa using (List.mem_filter.mp hname).2

/-- The columns that the action carries are those that the clause overwrites. -/
theorem assigns_of_upsertAction (h : c.upsertAction inserted = .overwrite assigned) :
    c.Assigns inserted assigned := by
  obtain ⟨target, action⟩ := c
  cases action with
  | keep => cases h
  | overwrite columns =>
    cases h
    rfl
  | overwriteAll =>
    cases h
    simp [Assigns]

/-- A complete clause that overwrites rows assigns what it should. -/
theorem Complete.assigns (h : c.Complete inserted k assigned clause) (hmoves : c.action ≠ .keep) :
    c.Assigns inserted assigned := by
  cases h with
  | stays hk haction => exact absurd haction hmoves
  | overwrites hk htarget hassigned h => exact h
  | itself haction hname => exact absurd haction hmoves
  | overwritesAny hassigned h => exact h

/-! ## What is checked is complete -/

/-- In standard SQL a clause that keeps rows is written with its target, if there is one. -/
theorem write_standard_keep (d : Dialect) (target inserted : List String) :
    d.write (Standard.upsertClause target inserted .keep) =
      "ON CONFLICT" ++ (if target = [] then "" else " (" ++ d.quoteList target ++ ")") ++
        " DO NOTHING" := by
  cases target with
  | nil => simp [Standard.upsertClause, Dialect.write, Phrase.write]
  | cons name target =>
    simp [Standard.upsertClause, Dialect.write, Dialect.quoteList, Phrase.write, Phrase.concat,
      String.append_assoc]

/-- A clause that overwrites rows takes each column from the row that was to be inserted. -/
theorem write_standard_overwrite (d : Dialect) {target : List String} (htarget : target ≠ [])
    (inserted assigned : List String) :
    d.write (Standard.upsertClause target inserted (.overwrite assigned)) =
      "ON CONFLICT (" ++ d.quoteList target ++ ") DO UPDATE SET " ++
        ", ".intercalate
          (assigned.map fun name => d.quote name ++ " = EXCLUDED." ++ d.quote name) := by
  have hsets : d.write (Phrase.comma (assigned.map fun name =>
      [.name name, " = EXCLUDED.", .name name])) = ", ".intercalate (assigned.map fun name =>
        d.quote name ++ " = EXCLUDED." ++ d.quote name) := by
    rw [Dialect.write_comma, List.map_map]
    simp [Dialect.write, Phrase.write, Function.comp_def, String.append_assoc]
  have hopen (s : String) : "ON CONFLICT" ++ (" (" ++ s) = "ON CONFLICT (" ++ s := by
    rw [← String.append_assoc]
    rfl
  have hclose (s : String) : ")" ++ (" DO UPDATE SET " ++ s) = ") DO UPDATE SET " ++ s := by
    rw [← String.append_assoc]
    rfl
  rw [← hsets]
  simp [Standard.upsertClause, htarget, Dialect.write, Dialect.quoteList, Phrase.write,
    Phrase.concat, String.append_assoc, hopen, hclose]

/-- MySQL keeps a row by setting a column to itself. -/
theorem write_mysql_keep {target : List String} {name : String}
    (h : (target ++ inserted).head? = some name) :
    Dialect.mysql.write (Dialect.mysqlUpsert target inserted .keep) =
      "ON DUPLICATE KEY UPDATE " ++ Dialect.mysql.quote name ++ " = " ++
        Dialect.mysql.quote name := by
  obtain ⟨names, hnames⟩ := List.head?_eq_some_iff.mp h
  simp [Dialect.mysqlUpsert, hnames, Phrase.comma, Dialect.write, Phrase.write,
    String.append_assoc]

/-- It overwrites a row by the values that were to be inserted. -/
theorem write_mysql_overwrite (target inserted assigned : List String) :
    Dialect.mysql.write (Dialect.mysqlUpsert target inserted (.overwrite assigned)) =
      "ON DUPLICATE KEY UPDATE " ++ ", ".intercalate (assigned.map fun name =>
        Dialect.mysql.quote name ++ " = VALUES(" ++ Dialect.mysql.quote name ++ ")") := by
  have hsets : Dialect.mysql.write (Phrase.comma (assigned.map fun name =>
      [.name name, " = VALUES(", .name name, ")"])) = ", ".intercalate (assigned.map fun name =>
        Dialect.mysql.quote name ++ " = VALUES(" ++ Dialect.mysql.quote name ++ ")") := by
    rw [Dialect.write_comma, List.map_map]
    simp [Dialect.write, Phrase.write, Function.comp_def, String.append_assoc]
  rw [← hsets]
  simp [Dialect.mysqlUpsert, Dialect.write, Phrase.write]

/-- A clause that overwrites and passes its check has a list of columns, and a target where one is
needed. -/
theorem nonempty_of_check {d : Dialect} (h : c.check d inserted = .ok ())
    (haction : c.upsertAction inserted = .overwrite assigned) :
    assigned ≠ [] ∧ (d.upsertNeedsTarget → c.target ≠ []) := by
  have hfit := check_eq_ok_iff.mp h
  have hmoves : c.action ≠ .keep := by
    intro hkeep
    rw [upsertAction_eq_keep_iff.mpr hkeep] at haction
    cases haction
  obtain ⟨name, hname⟩ := hfit.effective hmoves
  exact ⟨List.ne_nil_of_mem ((mem_columns_iff haction name).mpr hname), hfit.aimed hmoves⟩

/-- **A clause that passes its check is complete.** -/
theorem complete_of_check (hk : k ≠ .generic) (hinserted : inserted ≠ [])
    (h : c.check k.dialect inserted = .ok ()) :
    ∃ assigned, c.Complete inserted k assigned (k.dialect.write
      (k.dialect.upsertClause c.targetNames inserted (c.upsertAction inserted))) := by
  have htarget : c.targetNames = [] ↔ c.target = [] := List.map_eq_nil_iff
  -- PostgreSQL and SQLite have the standard clause and need a target
  have hstandard (hk : k = .postgres ∨ k = .sqlite)
      (hclause : k.dialect.upsertClause = Standard.upsertClause)
      (hneeds : k.dialect.upsertNeedsTarget = true) :
      ∃ assigned, c.Complete inserted k assigned (k.dialect.write
        (k.dialect.upsertClause c.targetNames inserted (c.upsertAction inserted))) := by
    rw [hclause]
    cases haction : c.upsertAction inserted with
    | keep =>
      have hstays : c.Complete inserted k [] _ := .stays hk (upsertAction_eq_keep_iff.mp haction)
      simp only [← htarget, ← write_standard_keep k.dialect c.targetNames inserted] at hstays
      exact ⟨[], hstays⟩
    | overwrite assigned =>
      obtain ⟨hassigned, haimed⟩ := nonempty_of_check h haction
      rw [write_standard_overwrite k.dialect (mt htarget.mp (haimed hneeds))]
      exact ⟨assigned, .overwrites hk (haimed hneeds) hassigned (assigns_of_upsertAction haction)⟩
  cases k with
  | generic => exact absurd rfl hk
  | postgres => exact hstandard (.inl rfl) rfl rfl
  | sqlite => exact hstandard (.inr rfl) rfl rfl
  | mysql =>
    show ∃ assigned, c.Complete inserted .mysql assigned (Dialect.mysql.write
      (Dialect.mysqlUpsert c.targetNames inserted (c.upsertAction inserted)))
    cases haction : c.upsertAction inserted with
    | keep =>
      have hsome : c.targetNames ++ inserted ≠ [] := List.append_ne_nil_of_right_ne_nil _ hinserted
      have hhead := List.head?_eq_some_head hsome
      rw [write_mysql_keep hhead]
      exact ⟨_, .itself (upsertAction_eq_keep_iff.mp haction) hhead⟩
    | overwrite assigned =>
      obtain ⟨hassigned, -⟩ := nonempty_of_check h haction
      rw [write_mysql_overwrite]
      exact ⟨assigned, .overwritesAny hassigned (assigns_of_upsertAction haction)⟩

end Conflict

/-! ## Statements -/

/-- A statement that inserts tuples under these names, with a conflict clause.  The clause passes
its check against the names, and it is complete; if it overwrites all columns, none of them is in
the target. -/
structure Upserted (k : DialectKind) (table : Table) (names : List String) (tuples : List Fragment)
    (c : Conflict) (returning : List ColumnRef) (sql : String) : Prop where
  checked : c.check k.dialect names = .ok ()
  written : ∃ assigned clause, c.Complete names k assigned clause ∧
    (c.action = .overwriteAll → ∀ name ∈ assigned, name ∉ c.targetNames) ∧
    sql = "INSERT INTO " ++ k.dialect.quote table.name ++ " (" ++ k.dialect.quoteList names ++
      ") VALUES " ++ ", ".intercalate (Fragment.textsFrom k.dialect 0 tuples) ++ " " ++ clause ++
        k.dialect.write (Returning.clause returning)

/-- A row in which something is set has a name. -/
theorem Assignments.names_ne_nil {as : Assignments} (h : as.isEmpty = false) : as.names ≠ [] := by
  rw [names_eq_map]
  exact mt List.map_eq_nil_iff.mp (isEmpty_eq_false_iff_ne_nil.mp h)

namespace Batch

variable {k : DialectKind} {b : Batch} {c : Conflict}

/-- **Each statement of a checked batch is upserted**, in the three dialects with a syntax of their
own. -/
theorem upserted_statement (hk : k ≠ .generic) (hconflict : b.conflict = some c)
    (hnames : b.names ≠ []) (hcheck : c.check k.dialect b.names = .ok ()) (ts : List Fragment) :
    Upserted k b.table b.names ts c b.returning (b.statement k.dialect b.names ts).sql := by
  obtain ⟨assigned, hcomplete⟩ := Conflict.complete_of_check hk hnames hcheck
  refine ⟨hcheck, assigned, _, hcomplete, ?_, ?_⟩
  · intro haction name hname
    have hmoves : c.action ≠ .keep := by
      rw [haction]
      exact nofun
    exact (hcomplete.assigns hmoves).not_mem_target haction hname
  · have hclause : k.dialect.write (Conflict.clause k.dialect b.names b.conflict) =
        " " ++ k.dialect.write (k.dialect.upsertClause c.targetNames b.names
          (c.upsertAction b.names)) := by
      rw [hconflict]
      simp [Conflict.clause, Dialect.write, Phrase.write]
    rw [statement_eq, closing, hclause, opening]
    simp only [String.append_assoc]

/-- Rows that agree in their columns have the same names. -/
theorem names_perm {first row : Assignments} (h : sameColumns first row = true) :
    row.names.Perm first.names := by
  rw [Assignments.names_eq_map, Assignments.names_eq_map]
  exact ((List.perm_ext_iff_of_nodup row.columns_nodup first.columns_nodup).mpr
    (sameColumns_iff.mp h)).map _

end Batch

/-- **Upsert clauses are complete and leave the target alone.**  On the three dialects that have
them, every insertion with a conflict clause and every statement of a batch with one has the clause
written out in full, for the names under which it inserts and against which the clause was checked.
All rows of a batch have these names, in whatever order, and the clause passes its check against
any of them. -/
theorem upserts_complete {k : DialectKind} (hk : k ≠ .generic) (c : Conflict) :
    (∀ (i : Insert) (p : Prepared), i.conflict = some c →
      (Statement.insert i).build k.dialect = .ok p →
      Upserted k i.table i.assignments.names [tuple k.dialect i.assignments.values] c i.returning
        p.sql) ∧
    ∀ (b : Batch) (first : Assignments) (rest : List Assignments) (strategy : BatchStrategy)
      (limit : Option Nat) (ps : List Prepared), b.conflict = some c → b.rows = first :: rest →
      b.buildWith k.dialect strategy limit = .ok ps →
      (∀ p ∈ ps, ∃ span : Span, Upserted k b.table first.names
        (span.slice (b.tuples k.dialect first.columns)) c b.returning p.sql) ∧
      ∀ row ∈ b.rows, row.names.Perm first.names ∧ c.check k.dialect row.names = .ok () := by
  constructor
  · intro i p hconflict hbuild
    obtain ⟨hcheck, rfl⟩ := Statement.build_eq_ok_iff.mp hbuild
    obtain ⟨hempty, -, hclause, -⟩ := Insert.check_eq_ok_iff.mp hcheck
    rw [hconflict] at hclause
    exact Batch.upserted_statement (b := Batch.ofInsert i) hk hconflict
      (Assignments.names_ne_nil hempty) hclause _
  · intro b first rest strategy limit ps hconflict hrows hbuild
    obtain ⟨spans, hspans, -⟩ := Batch.buildWith_eq_ok_iff.mp hbuild
    have hcheck := Batch.check_eq_ok_of_buildSpans hspans
    obtain ⟨hempty, hsame, -, hclause, -⟩ := (Batch.check_eq_ok_iff hrows).mp hcheck
    rw [hconflict] at hclause
    have hcolumns : b.columns = first.columns := by
      rw [Batch.columns, hrows]
      rfl
    have hnames : b.names = first.names := by
      rw [Batch.names, hrows]
      rfl
    constructor
    · intro p hp
      rw [Batch.buildWith_eq hcheck] at hbuild
      cases hbuild
      obtain ⟨span, -, rfl⟩ := List.mem_map.mp hp
      rw [← hnames] at hclause ⊢
      rw [← hcolumns]
      refine ⟨span, Batch.upserted_statement hk hconflict ?_ hclause _⟩
      rw [hnames]
      exact Assignments.names_ne_nil hempty
    · intro row hrow
      have hperm : row.names.Perm first.names := by
        rw [hrows] at hrow
        rcases List.mem_cons.mp hrow with rfl | hrest
        · exact .refl _
        · exact Batch.names_perm (hsame row hrest)
      have hcongr : Conflict.checkOption k.dialect row.names (some c) =
          Conflict.checkOption k.dialect first.names (some c) :=
        Conflict.checkOption_congr fun _ => hperm.mem_iff
      exact ⟨hperm, hcongr.trans hclause⟩

/-- An insertion that leaves rows alone. -/
def keptRow : Insert where
  table := { name := "t" }
  assignments := ⟨[(⟨"t", "id"⟩, .literal (.int 21)), (⟨"t", "n"⟩, .now)], by decide⟩
  conflict := some ⟨[], .keep⟩

/-- MySQL leaves a row alone by an assignment to itself; and a batch whose second row is in another
order has each of its statements with the clause. -/
theorem upserts_complete_turnedRow :
    (∃ p, (Statement.insert keptRow).build .mysql = .ok p ∧
      Upserted .mysql keptRow.table ["id", "n"] [tuple .mysql keptRow.assignments.values]
        ⟨[], .keep⟩ [] p.sql) ∧
    ∃ ps, Batch.turnedRow.buildWith .postgres .perRow none = .ok ps ∧ ps.length = 2 ∧
      ∀ p ∈ ps, ∃ span : Span, Upserted .postgres Batch.turnedRow.table ["id", "n"]
        (span.slice (Batch.turnedRow.tuples .postgres [⟨"t", "id"⟩, ⟨"t", "n"⟩]))
        ⟨[⟨"t", "id"⟩], .overwriteAll⟩ [⟨"t", "n"⟩] p.sql := by
  constructor
  · have hbuild := Statement.build_eq_ok_iff.mpr
      ⟨(rfl : (Statement.insert keptRow).check .mysql = .ok ()), rfl⟩
    exact ⟨_, hbuild, (upserts_complete (k := .mysql) nofun _).1 keptRow _ rfl hbuild⟩
  · have hcheck : Batch.turnedRow.check .postgres = .ok () := rfl
    have hbuild : Batch.turnedRow.buildWith .postgres .perRow none = .ok _ :=
      Batch.buildWith_eq hcheck
    exact ⟨_, hbuild, rfl,
      ((upserts_complete (k := .postgres) nofun _).2 Batch.turnedRow _ _ _ _ _ rfl rfl hbuild).1⟩

end BoundSql
