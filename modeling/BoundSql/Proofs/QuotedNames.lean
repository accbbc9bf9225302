import BoundSql.Dialect.Schema
import BoundSql.Proofs.Capabilities
import BoundSql.Proofs.NameTokens
import BoundSql.Proofs.RelabeledStatement

/-!
# Names stay inside their quotes

A name may be any text: full of quotation marks, semicolons and SQL.  Main statement:
`names_stay_quoted`.  Give every name of a statement, a batch or a schema change a new one, so that
different names stay different.  Then an engine that reads the finished text meets the same tokens
as before, with the new names in place of the old ones and everything outside the quotes unchanged.
A name that could get out of its quotes, or that was written without them somewhere, would show.

This is for the four dialects, and for statements without SQL of the caller in them, where function
names are free of the mark that quotes names.

What is left to show here is that the few clauses a dialect writes by itself, and the statements
that change a schema, keep their names apart from marks as well.
-/

namespace BoundSql

open Fragment (Spaced Trailing Quoted spaced_text spaced_comma trailing_nil trailing_concat)
open Quoting (NameToken isMarkless)

/-! ## The four dialects -/

/-- A text without marks is free of each single one of them. -/
theorem Quoting.notMem_of_isMarkless {mark : Char} {s : String} (hm : isMark mark)
    (h : isMarkless s) : mark ∉ s.toList := by
  intro hmem
  rw [isMarkless, List.all_eq_true] at h
  have hmark := h mark hmem
  rw [hm] at hmark
  cases hmark

namespace DialectKind

variable (k : DialectKind)

/-- The mark that quotes names. -/
def mark : DialectKind → Char
  | mysql => '\x60'
  | generic | postgres | sqlite => '\x22'

/-- The names in a text and the characters outside them. -/
def tokens (sql : String) : List NameToken := Quoting.tokens k.mark sql

/-- A text without marks does not hold the one that quotes the names of this dialect. -/
theorem notMem_of_isMarkless {s : String} (h : isMarkless s) : k.mark ∉ s.toList := by
  refine Quoting.notMem_of_isMarkless ?_ h
  cases k <;> rfl

/-- Each dialect quotes a name by its own mark, which none of its placeholders holds. -/
theorem marks : k.dialect.Marks k.mark where
  quote name := by cases k <;> rfl
  placeholder n := k.notMem_of_isMarkless (k.isMarkless_placeholder n)

/-- A dialect writes no mark except around names. -/
theorem speaks : k.dialect.Speaks fun t => k.mark ∉ t.toList :=
  k.legible.speaks.mono fun h => k.notMem_of_isMarkless (Quoting.isMarkless_of_isCalmText h)

/-- The words for a column that counts by itself hold no mark. -/
theorem isMarkless_autoIncrement : isMarkless k.dialect.autoIncrement := by
  cases k <;> decide

end DialectKind

/-! ### Names of types -/

/-- A length in parentheses brings no mark into the name of a type. -/
theorem Standard.isMarkless_sized {type : String} (h : isMarkless type) (length : UInt32) :
    isMarkless (Standard.sized type length) := by
  have hlength : isMarkless (toString length.toNat) :=
    Quoting.isMarkless_of_isCalmText (Prepared.isCalmText_toString _)
  exact Quoting.isMarkless_append
    (Quoting.isMarkless_append (Quoting.isMarkless_append h (by decide)) hlength) (by decide)

/-- Neither do the two numbers of a decimal type. -/
theorem Standard.isMarkless_scaled {type : String} (h : isMarkless type)
    (precision scale : UInt32) : isMarkless (Standard.scaled type precision scale) := by
  have hnumber (n : UInt32) : isMarkless (toString n.toNat) :=
    Quoting.isMarkless_of_isCalmText (Prepared.isCalmText_toString _)
  have hopened := Quoting.isMarkless_append (Quoting.isMarkless_append h (t := "(") (by decide))
    (hnumber precision)
  have hboth := Quoting.isMarkless_append (Quoting.isMarkless_append hopened (t := ", ")
    (by decide)) (hnumber scale)
  exact Quoting.isMarkless_append hboth (by decide)

/-- The names of types in standard SQL hold no mark. -/
theorem Standard.isMarkless_typeName (t : SqlType) : isMarkless (Standard.typeName t) := by
  cases t with
  | decimal precision scale => exact isMarkless_scaled (by decide) precision scale
  | varchar length => exact isMarkless_sized (by decide) length
  | _ => decide

/-- In no dialect does the name of a type hold a mark. -/
theorem DialectKind.isMarkless_typeName (k : DialectKind) (t : SqlType) :
    isMarkless (k.dialect.typeName t) := by
  cases k with
  | generic => exact Standard.isMarkless_typeName t
  | postgres =>
    cases t with
    | decimal precision scale => exact Standard.isMarkless_scaled (by decide) precision scale
    | varchar length => exact Standard.isMarkless_sized (by decide) length
    | _ => decide
  | sqlite =>
    have hnumeric : isMarkless "NUMERIC" := by decide
    have htext : isMarkless "TEXT" := by decide
    cases t with
    | decimal precision scale => exact hnumeric
    | varchar length => exact htext
    | _ => decide
  | mysql =>
    cases t with
    | decimal precision scale => exact Standard.isMarkless_scaled (by decide) precision scale
    | varchar length => exact Standard.isMarkless_sized (by decide) length
    | _ => decide

/-! ### Upsert clauses -/

/-- An upsert clause of standard SQL for renamed columns is the clause with its names renamed. -/
theorem Standard.upsertClause_relabel (m : Relabeling) (target columns : List String)
    (action : UpsertAction) :
    Standard.upsertClause (target.map m.name) (columns.map m.name) (action.relabel m) =
      (Standard.upsertClause target columns action).relabel m := by
  have htarget : (if (target.map m.name).isEmpty then []
        else Phrase.concat [[" ("], .names (target.map m.name), [")"]]) =
      Phrase.relabel m
        (if target.isEmpty then [] else .concat [[" ("], .names target, [")"]]) := by
    rw [List.isEmpty_map]
    split
    · rfl
    · rw [Phrase.relabel_concat, List.map_cons, List.map_cons, Phrase.relabel_names]
      rfl
  unfold Standard.upsertClause
  rw [htarget, Phrase.relabel_verbatim, Phrase.relabel_append]
  rcases action with _ | updated
  · rfl
  · simp only [UpsertAction.relabel]
    rw [Phrase.relabel_verbatim, Phrase.relabel_list fun _ => rfl]

/-- The clause of MySQL follows a renaming in the same way. -/
theorem Dialect.mysqlUpsert_relabel (m : Relabeling) (target columns : List String)
    (action : UpsertAction) :
    Dialect.mysqlUpsert (target.map m.name) (columns.map m.name) (action.relabel m) =
      (Dialect.mysqlUpsert target columns action).relabel m := by
  unfold Dialect.mysqlUpsert
  rw [Phrase.relabel_verbatim]
  rcases action with _ | updated
  · simp only [UpsertAction.relabel]
    rw [← List.map_append, ← List.map_take, Phrase.relabel_list fun _ => rfl]
  · simp only [UpsertAction.relabel]
    rw [Phrase.relabel_list fun _ => rfl]

/-- What the four dialects write by themselves follows a renaming. -/
theorem DialectKind.relabels (k : DialectKind) (m : Relabeling) : k.dialect.Relabels m := by
  cases k with
  | generic => exact Standard.upsertClause_relabel m
  | postgres => exact Standard.upsertClause_relabel m
  | sqlite => exact Standard.upsertClause_relabel m
  | mysql => exact Dialect.mysqlUpsert_relabel m

/-! ## Statements and batches -/

/-- The text of the caller is the name of a function, without the mark. -/
def CallerText.IsPlainName (mark : Char) : CallerText → Prop
  | .template _ => False
  | .function name => mark ∉ name.toList

section

variable {k : DialectKind}

/-- A function name without the mark is a text that may stand where names are quoted. -/
theorem CallerText.IsPlainName.admitted {x : CallerText} (h : x.IsPlainName k.mark) :
    x.Admitted (fun t => k.mark ∉ t.toList) fun _ => False := by
  cases x with
  | template t => exact h
  | function name => exact h

/-- Where function names are all that the caller brings, the names of every node are quoted. -/
theorem quoted_of_callerTexts {nodes : List Node}
    (h : ∀ x ∈ nodes.flatMap Node.callerTexts, x.IsPlainName k.mark) :
    ∀ n ∈ nodes, Quoted k.mark (n.fragment k.dialect) := by
  rw [List.forall_mem_flatMap] at h
  intro n hn
  exact Node.spaced_of_callerTexts k.speaks (fun x hx => (h n hn x hx).admitted)
    fun _ _ _ => k.notMem_of_isMarkless (by decide)

/-- The upsert and `RETURNING` clauses of the dialects bring no mark of their own. -/
theorem clausesAdmitted_quoted (k : DialectKind) (conflict : Option Conflict)
    (returning : List ColumnRef) :
    ClausesAdmitted k.dialect (fun t => k.mark ∉ t.toList) (fun _ => False) conflict
      returning where
  upsert _ := k.spaced_upsertClause k.speaks (k.notMem_of_isMarkless (by decide))
    (k.notMem_of_isMarkless (by decide))
  returning _ := k.notMem_of_isMarkless (by decide)

/-- A statement without SQL of the caller writes its names in quotes. -/
theorem Statement.quoted (s : Statement) (h : ∀ x ∈ s.callerTexts, x.IsPlainName k.mark) :
    Quoted k.mark (s.fragment k.dialect) := by
  rw [Statement.callerTexts_eq] at h
  exact s.spaced k.speaks (quoted_of_callerTexts h) (clausesAdmitted_quoted k _ _)

/-- A batch does so in every one of its statements. -/
theorem Batch.quoted_spanFragment (b : Batch) (h : ∀ x ∈ b.callerTexts, x.IsPlainName k.mark)
    (s : Span) : Quoted k.mark (b.spanFragment k.dialect s) := by
  rw [Batch.callerTexts_eq] at h
  have hnodes := quoted_of_callerTexts h
  refine spaced_insertion k.speaks b.table b.names (fun t ht => ?_) (clausesAdmitted_quoted k _ _)
  have hmem : t ∈ b.tuples k.dialect b.columns := List.mem_of_mem_drop (List.mem_of_mem_take ht)
  exact Batch.spaced_of_mem_tuples k.speaks hnodes hmem

end

/-! ## Changes of a schema -/

section

variable (m : Relabeling)

/-- A column of a new table under another name. -/
def ColumnDef.relabel (c : ColumnDef) : ColumnDef := { c with name := m.name c.name }

/-- A new table under other names. -/
def TableDef.relabel (t : TableDef) : TableDef where
  name := m.name t.name
  columns := t.columns.map (ColumnDef.relabel m)
  primaryKey := t.primaryKey.map m.name

/-- A new index under other names. -/
def IndexDef.relabel (i : IndexDef) : IndexDef where
  name := m.name i.name
  table := m.name i.table
  columns := i.columns.map m.name
  unique := i.unique

end

/-! ### Renamed phrases -/

section

variable (m : Relabeling)

/-- A default is a value, and a renaming leaves it alone. -/
theorem Standard.defaultClause_relabel (c : ColumnDef) :
    (Standard.defaultClause c).relabel m = Standard.defaultClause c := by
  unfold Standard.defaultClause
  split <;> rfl

/-- The definition of a renamed column is the definition with its name renamed. -/
theorem Standard.columnDefinition_relabel (typeName : SqlType → String) (autoIncrement : String)
    (c : ColumnDef) :
    Standard.columnDefinition typeName autoIncrement (c.relabel m) =
      (Standard.columnDefinition typeName autoIncrement c).relabel m := by
  rw [Standard.columnDefinition, Standard.columnDefinition, Phrase.relabel_concat]
  simp only [List.map_cons, List.map_nil, Phrase.relabel_when, Standard.defaultClause_relabel]
  rfl

/-- SQLite puts its attributes in another order, and its definitions are renamed alike. -/
theorem Dialect.sqliteColumn_relabel (c : ColumnDef) :
    Dialect.sqliteColumn (c.relabel m) = (Dialect.sqliteColumn c).relabel m := by
  rw [Dialect.sqliteColumn, Dialect.sqliteColumn, Phrase.relabel_concat]
  simp only [List.map_cons, List.map_nil, Phrase.relabel_when, Standard.defaultClause_relabel]
  rfl

variable (k : DialectKind)

/-- In every dialect the definition of a column follows a renaming. -/
theorem DialectKind.columnDefinition_relabel (c : ColumnDef) :
    k.dialect.columnDefinition (c.relabel m) = (k.dialect.columnDefinition c).relabel m := by
  cases k with
  | sqlite => exact Dialect.sqliteColumn_relabel m c
  | _ => exact Standard.columnDefinition_relabel m _ _ c

/-- A renamed table is created by the renamed statement: its own name, its columns, its key. -/
theorem DialectKind.createTable_relabel (t : TableDef) :
    k.dialect.createTable (t.relabel m) = (k.dialect.createTable t).relabel m := by
  have hcolumns : (t.columns.map (ColumnDef.relabel m)).map k.dialect.columnDefinition =
      (t.columns.map k.dialect.columnDefinition).map (Phrase.relabel m) := by
    rw [List.map_map, List.map_map]
    exact List.map_congr_left fun c _ => k.columnDefinition_relabel m c
  have hkey : (if (t.primaryKey.map m.name).isEmpty then []
        else [.concat [["PRIMARY KEY ("], .names (t.primaryKey.map m.name), [")"]]]) =
      (if t.primaryKey.isEmpty then []
        else [.concat [["PRIMARY KEY ("], .names t.primaryKey, [")"]]]).map
          (Phrase.relabel m) := by
    rw [List.isEmpty_map]
    split
    · rfl
    · rw [List.map_singleton, Phrase.relabel_concat, List.map_cons, List.map_cons,
        Phrase.relabel_names]
      rfl
  unfold Dialect.createTable TableDef.relabel
  simp only [hcolumns, hkey, Phrase.relabel_concat, Phrase.relabel_comma, List.map_cons,
    List.map_nil, List.map_append, Phrase.relabel_verbatim, Phrase.relabel_name]
  rfl

/-- A renamed index is created by the renamed statement. -/
theorem Dialect.createIndex_relabel (d : Dialect) (i : IndexDef) :
    d.createIndex (i.relabel m) = (d.createIndex i).relabel m := by
  unfold Dialect.createIndex
  simp only [Phrase.relabel_concat, List.map_cons, List.map_nil, Phrase.relabel_when,
    Phrase.relabel_names]
  rfl

/-- It is dropped by the renamed statement too, with the table MySQL asks for. -/
theorem DialectKind.dropIndex_relabel (i : IndexDef) :
    k.dialect.dropIndex (i.relabel m) = (k.dialect.dropIndex i).relabel m := by
  cases k <;> rfl

end

/-! ### Quoted phrases -/

/-- Phrases one behind another make up fragments one behind another. -/
theorem ofPhrase_concat (ps : List Phrase) :
    Fragment.ofPhrase (.concat ps) = .concat (ps.map Fragment.ofPhrase) := List.map_flatten

section

variable {d : Dialect} {admits : String → Prop} {whole : Fragment → Prop}

/-- A column without a default has nothing in the place of it. -/
theorem trailing_defaultClause {c : ColumnDef} (hc : c.default = none) :
    Trailing admits whole (.ofPhrase (Standard.defaultClause c)) := by
  rw [Standard.defaultClause, hc]
  exact trailing_nil

variable (hd : d.Speaks admits)

include hd

/-- An attribute of a column, if it has it. -/
theorem trailing_attribute (condition : Bool) {text : String} (ht : isPlainText text)
    (hopens : text.toList.head?.any fun c => !isWordChar c) :
    Trailing admits whole (.ofPhrase (.when condition [text])) := by
  rcases condition with _ | _
  · exact trailing_nil
  · exact ⟨spaced_text hd ht, hopens⟩

/-- A column: its name, its type and attributes behind them. -/
theorem spaced_column (name : String) {type : String} (htype : admits type)
    {attributes : List Phrase} (h : ∀ p ∈ attributes, Trailing admits whole (.ofPhrase p)) :
    Spaced admits whole
      (.ofPhrase (.concat ([.name name, " ", .verbatim type] :: attributes))) := by
  have hattributes : Trailing admits whole (.concat (attributes.map Fragment.ofPhrase)) := by
    refine trailing_concat fun f hf => ?_
    obtain ⟨p, hp, rfl⟩ := List.mem_map.mp hf
    exact h p hp
  rw [ofPhrase_concat]
  exact .name name rfl (.word hd (.text htype (.inr hattributes.opens) hattributes.spaced)
    (by decide))

/-- In standard SQL the definition of a column keeps its name apart from what stands around it. -/
theorem Standard.spaced_columnDefinition {typeName : SqlType → String} {autoIncrement : String}
    (htype : ∀ t, admits (typeName t)) (hauto : admits autoIncrement) {c : ColumnDef}
    (hc : c.default = none) :
    Spaced admits whole (.ofPhrase (Standard.columnDefinition typeName autoIncrement c)) := by
  have hgenerated : Trailing admits whole (.ofPhrase
      (.when c.autoIncrement [" ", .verbatim autoIncrement])) := by
    rcases c.autoIncrement with _ | _
    · exact trailing_nil
    · exact Fragment.trailing_word hd (.text hauto (.inr rfl) .nil) (by decide)
  refine spaced_column hd c.name (htype c.sqlType) ?_
  simp only [List.forall_mem_cons, List.not_mem_nil, false_implies, implies_true, and_true]
  exact ⟨trailing_attribute hd _ (by decide) (by decide), hgenerated,
    trailing_defaultClause hc, trailing_attribute hd _ (by decide) (by decide),
    trailing_attribute hd _ (by decide) (by decide)⟩

/-- In SQLite it does so too. -/
theorem Dialect.spaced_sqliteColumn (htype : ∀ t, admits (Dialect.sqliteType t)) {c : ColumnDef}
    (hc : c.default = none) : Spaced admits whole (.ofPhrase (Dialect.sqliteColumn c)) := by
  refine spaced_column hd c.name (htype c.sqlType) ?_
  simp only [List.forall_mem_cons, List.not_mem_nil, false_implies, implies_true, and_true]
  exact ⟨trailing_attribute hd _ (by decide) (by decide), trailing_defaultClause hc,
    trailing_attribute hd _ (by decide) (by decide),
    trailing_attribute hd _ (by decide) (by decide),
    trailing_attribute hd _ (by decide) (by decide)⟩

/-- Names and the parenthesis that closes their list. -/
theorem spaced_closedNames (names : List String) :
    Spaced admits whole (Fragment.ofPhrase (.names names) ++ ([")"] : Fragment)) :=
  (spaced_names hd names).then hd .nil (by decide)

/-- If columns keep their names apart, so does the statement that creates their table. -/
theorem spaced_createTable {t : TableDef}
    (h : ∀ c ∈ t.columns, Spaced admits whole (.ofPhrase (d.columnDefinition c))) :
    Spaced admits whole (.ofPhrase (d.createTable t)) := by
  have hparts : ∀ p ∈ t.columns.map d.columnDefinition ++ (if t.primaryKey.isEmpty then []
      else [.concat [["PRIMARY KEY ("], .names t.primaryKey, [")"]]]),
      Spaced admits whole (.ofPhrase p) := by
    intro p hp
    rcases List.mem_append.mp hp with hp | hp
    · obtain ⟨c, hc, rfl⟩ := List.mem_map.mp hp
      exact h c hc
    · split at hp
      · cases hp
      · rw [List.mem_singleton.mp hp]
        rw [ofPhrase_concat]
        exact (spaced_closedNames hd t.primaryKey).word hd (by decide)
  have hlist := (spaced_phrases hd hparts).then hd .nil (t := ")") (by decide)
  unfold Dialect.createTable
  rw [ofPhrase_concat]
  exact Spaced.word hd (.name t.name rfl (hlist.word hd (by decide))) (by decide)

/-- An index is created with every name of it apart from the words around. -/
theorem spaced_createIndex (i : IndexDef) :
    Spaced admits whole (.ofPhrase (d.createIndex i)) := by
  have hlist : Spaced admits whole _ := spaced_closedNames hd i.columns
  have hon := Spaced.name i.name rfl
    (Spaced.word hd (.name i.table rfl (hlist.word hd (t := " (") (by decide))) (t := " ON ")
      (by decide))
  have hindex := hon.word hd (t := "INDEX ") (by decide)
  unfold Dialect.createIndex
  rw [ofPhrase_concat]
  rcases i.unique with _ | _
  · exact hindex.word hd (by decide)
  · exact (hindex.word hd (by decide)).word hd (by decide)

end

/-! ## Names stay quoted -/

section

variable (k : DialectKind)

/-- In the four dialects no mark stands in a column definition but around its name. -/
theorem DialectKind.quoted_columnDefinition {c : ColumnDef} (hc : c.default = none) :
    Quoted k.mark (.ofPhrase (k.dialect.columnDefinition c)) := by
  have htype (t : SqlType) : k.mark ∉ (k.dialect.typeName t).toList :=
    k.notMem_of_isMarkless (k.isMarkless_typeName t)
  have hauto : k.mark ∉ k.dialect.autoIncrement.toList :=
    k.notMem_of_isMarkless k.isMarkless_autoIncrement
  cases k with
  | sqlite => exact Dialect.spaced_sqliteColumn DialectKind.sqlite.speaks htype hc
  | generic => exact Standard.spaced_columnDefinition DialectKind.generic.speaks htype hauto hc
  | postgres => exact Standard.spaced_columnDefinition DialectKind.postgres.speaks htype hauto hc
  | mysql => exact Standard.spaced_columnDefinition DialectKind.mysql.speaks htype hauto hc

/-- Nor is there one in the statement that drops an index, except around names. -/
theorem DialectKind.quoted_dropIndex (i : IndexDef) :
    Quoted k.mark (.ofPhrase (k.dialect.dropIndex i)) := by
  have hdrop : Quoted k.mark (.ofPhrase ["DROP INDEX ", .name i.name]) :=
    .word k.speaks (.name i.name rfl .nil) (by decide)
  cases k with
  | mysql =>
    have hd := DialectKind.mysql.speaks
    exact .word hd (.name i.name rfl (.word hd (.name i.table rfl .nil) (by decide))) (by decide)
  | _ => exact hdrop

/-- The tokens of a written fragment, its names replaced. -/
theorem DialectKind.tokens_prepare_relabel {f : Fragment} (h : Quoted k.mark f) (m : Relabeling) :
    k.tokens ((f.relabel m).prepare k.dialect).sql =
      (k.tokens (f.prepare k.dialect).sql).map (NameToken.rename m.name) := by
  rw [Fragment.sql_prepare, Fragment.sql_prepare]
  exact h.tokens_relabel k.marks m 0

/-- The tokens of a written phrase, its names replaced. -/
theorem DialectKind.tokens_write_relabel {p : Phrase} (h : Quoted k.mark (.ofPhrase p))
    (m : Relabeling) :
    k.tokens (k.dialect.write (p.relabel m)) =
      (k.tokens (k.dialect.write p)).map (NameToken.rename m.name) := by
  rw [← Fragment.textFrom_ofPhrase k.dialect 0, ← Fragment.textFrom_ofPhrase k.dialect 0 p,
    ← Fragment.relabel_ofPhrase]
  exact h.tokens_relabel k.marks m 0

end

/-- **Names stay quoted.**  Give every name a new one, any text at all, so that different names
stay different.  Then the tokens of each statement of one of the four dialects are the same as
before, with the new names for the old ones: of statements and batches without SQL of the caller,
in which function names are free of the mark that quotes names, and of changes of a schema without
defaults.  The same statements and batches are rejected, and these are cut in the same places. -/
theorem names_stay_quoted (k : DialectKind) (r : String → String) (hr : Function.Injective r) :
    (∀ s : Statement, (∀ x ∈ s.callerTexts, x.IsPlainName k.mark) →
      ((s.relabel (.names r hr)).build k.dialect).map (fun p => k.tokens p.sql) =
        (s.build k.dialect).map fun p => (k.tokens p.sql).map (NameToken.rename r)) ∧
    (∀ (b : Batch) (strategy : BatchStrategy) (limit : Option Nat),
      (∀ x ∈ b.callerTexts, x.IsPlainName k.mark) →
      ((b.relabel (.names r hr)).buildSpans k.dialect strategy limit).map
          (List.map fun s => (s.1, k.tokens s.2.sql)) =
        ((b.buildSpans k.dialect strategy limit).map
          (List.map fun s => (s.1, (k.tokens s.2.sql).map (NameToken.rename r)))).mapError
            (QueryError.relabel (.names r hr))) ∧
    (∀ t : TableDef, (∀ c ∈ t.columns, c.default = none) →
      k.tokens (k.dialect.write (k.dialect.createTable (t.relabel (.names r hr)))) =
        (k.tokens (k.dialect.write (k.dialect.createTable t))).map (NameToken.rename r)) ∧
    (∀ name : String, k.tokens (k.dialect.write (k.dialect.dropTable (r name))) =
      (k.tokens (k.dialect.write (k.dialect.dropTable name))).map (NameToken.rename r)) ∧
    (∀ i : IndexDef, k.tokens (k.dialect.write (k.dialect.createIndex (i.relabel (.names r hr)))) =
      (k.tokens (k.dialect.write (k.dialect.createIndex i))).map (NameToken.rename r)) ∧
    ∀ i : IndexDef, k.tokens (k.dialect.write (k.dialect.dropIndex (i.relabel (.names r hr)))) =
      (k.tokens (k.dialect.write (k.dialect.dropIndex i))).map (NameToken.rename r) := by
  -- check and writer go along with the renaming, so it remains to rename the tokens of one text
  refine ⟨fun s hs => ?_, fun b strategy limit hb => ?_, fun t ht => ?_, fun name => ?_,
    fun i => ?_, fun i => ?_⟩
  · have htokens := k.tokens_prepare_relabel (s.quoted hs) (.names r hr)
    rw [Statement.build_relabel (k.relabels _), Statement.build_eq_map]
    rcases s.check k.dialect with e | _
    · rfl
    · exact congrArg Except.ok htokens
  · have htokens := fun s => k.tokens_prepare_relabel (b.quoted_spanFragment hb s) (.names r hr)
    rw [Batch.buildSpans_relabel (k.relabels _), Batch.buildSpans_eq_map]
    rcases b.check k.dialect with e | _
    · rfl
    · refine congrArg Except.ok ?_
      rw [List.map_map, List.map_map]
      exact List.map_congr_left fun s _ => congrArg (Prod.mk s) (htokens s)
  · rw [k.createTable_relabel]
    exact k.tokens_write_relabel
      (spaced_createTable k.speaks fun c hc => k.quoted_columnDefinition (ht c hc)) _
  · have hdrop : Quoted k.mark (.ofPhrase (k.dialect.dropTable name)) :=
      .word k.speaks (.name name rfl .nil) (by decide)
    exact k.tokens_write_relabel hdrop (.names r hr)
  · rw [Dialect.createIndex_relabel]
    exact k.tokens_write_relabel (spaced_createIndex k.speaks i) _
  · rw [k.dropIndex_relabel]
    exact k.tokens_write_relabel (k.quoted_dropIndex i) _

/-- Every name with the end of a name and of a statement behind it. -/
def escaping (name : String) : String := name ++ "\x60; DROP TABLE t; --"

/-- Different names are different after `escaping`, for only an end is added. -/
theorem escaping_injective : Function.Injective escaping := by
  intro a b h
  exact (String.append_left_inj _).mp h

/-- An insertion into a table whose name has a mark in it, with an upsert. -/
def trickyNames : Insert where
  table := { name := "t\x60" }
  assignments := ⟨[(⟨"t", "id"⟩, .literal (.int 1)),
    (⟨"t", "\x60\x60"⟩, .call "lower" [.literal (.text "\x60")] false)], by decide⟩
  conflict := some ⟨[⟨"t", "id"⟩], .overwriteAll⟩

/-- A table and a query whose names are full of marks keep their tokens under a renaming that writes
more of them. -/
theorem names_stay_quoted_escaping :
    (((Statement.insert trickyNames).relabel (.names escaping escaping_injective)).build
        DialectKind.mysql.dialect).map (fun p => DialectKind.mysql.tokens p.sql) =
      ((Statement.insert trickyNames).build DialectKind.mysql.dialect).map (fun p =>
        (DialectKind.mysql.tokens p.sql).map (NameToken.rename escaping)) ∧
    DialectKind.mysql.tokens (Dialect.mysql.write (Dialect.mysql.createTable
        (TableDef.relabel (.names escaping escaping_injective)
          { name := "t", columns := [{ name := "id", sqlType := .integer }] }))) =
      (DialectKind.mysql.tokens (Dialect.mysql.write (Dialect.mysql.createTable
        { name := "t", columns := [{ name := "id", sqlType := .integer }] }))).map
          (NameToken.rename escaping) := by
  obtain ⟨hstatements, -, htables, -⟩ := names_stay_quoted .mysql escaping escaping_injective
  refine ⟨hstatements (.insert trickyNames) ?_, htables _ ?_⟩
  · show ∀ x ∈ [CallerText.function "lower"], x.IsPlainName '\x60'
    rw [List.forall_mem_singleton]
    show '\x60' ∉ "lower".toList
    decide
  · rw [List.forall_mem_singleton]

end BoundSql
