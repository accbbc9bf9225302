import BoundSql.Dialect.BuiltIn
import BoundSql.Proofs.Checks
import BoundSql.Proofs.MultiRow
import BoundSql.Proofs.Slots
import Mathlib.Data.List.Induction
import Mathlib.Data.List.Nodup

/-!
# The columns that a statement sets

Calls set columns, some of them more than once.  What counts of the calls are their settings: a
column, and what it is set to.  The assignments of a statement have the columns in the order in
which they are set first (`Assignments.columns_setAll`), each with what it is set to last
(`Assignments.get?_setAll`).

Main statement: `settings_listed`.  An insertion, an update and every statement of a batch list
these columns by their names, with one value for each.  A column is told by its qualifier and its
name, but only the name is written; so no name is written twice exactly if columns that are set
under one name have one qualifier.  A table that goes by two names has columns for which this fails
(`name_listed_twice`).
-/

namespace BoundSql

/-! ## Settings -/

/-- A column, and what it is set to. -/
abbrev Setting := ColumnRef × Expr

namespace Setting

variable {settings : List Setting} {c k : ColumnRef} {e : Expr}

/-- The columns that are set, in the order in which they are set first. -/
def columns (settings : List Setting) : List ColumnRef := (settings.map Prod.fst).eraseDups

/-- What a column is set to last. -/
def last (settings : List Setting) (c : ColumnRef) : Option Expr := settings.reverse.lookup c

/-- The values of the columns, one for each: what it is set to last. -/
def Values (settings : List Setting) (columns : List ColumnRef) (values : List Expr) : Prop :=
  List.Forall₂ (fun c e => last settings c = some e) columns values

/-- Columns that are set under one name have one qualifier. -/
def NamesTell (settings : List Setting) : Prop :=
  ∀ s ∈ settings, ∀ s' ∈ settings, s.1.name = s'.1.name → s.1.table = s'.1.table

/-- The columns set are those of the settings. -/
theorem mem_columns_iff : c ∈ columns settings ↔ ∃ e, (c, e) ∈ settings := by
  rw [columns, List.mem_eraseDups, List.mem_map]
  constructor
  · rintro ⟨⟨k, e⟩, hmem, rfl⟩
    exact ⟨e, hmem⟩
  · rintro ⟨e, hmem⟩
    exact ⟨_, hmem, rfl⟩

/-- One more setting: a column that is set already stays where it is. -/
theorem columns_concat (settings : List Setting) (c : ColumnRef) (e : Expr) :
    columns (settings ++ [(c, e)]) =
      if c ∈ columns settings then columns settings else columns settings ++ [c] := by
  have hmem : c ∈ columns settings ↔ c ∈ settings.map Prod.fst := List.mem_eraseDups
  rw [columns, List.map_append, List.eraseDups_append, ← columns, List.map_singleton]
  by_cases h : c ∈ columns settings
  · rw [if_pos h, List.removeAll, List.filter_cons_of_neg (by simpa using hmem.mp h)]
    exact List.append_nil _
  · rw [if_neg h, List.removeAll, List.filter_cons_of_pos (by simpa using mt hmem.mpr h)]
    rfl

/-- One more setting is the last for its own column and for no other. -/
theorem last_concat (settings : List Setting) (k : ColumnRef) (e : Expr) (c : ColumnRef) :
    last (settings ++ [(k, e)]) c = if k = c then some e else last settings c := by
  rw [last, List.reverse_append, List.reverse_singleton, List.singleton_append, List.lookup_cons]
  by_cases h : k = c
  · simp [h]
  · rw [if_neg h, beq_eq_false_iff_ne.mpr (Ne.symm h)]
    rfl

end Setting

open Setting

/-! ## Assignments -/

namespace Assignments

variable {as row : Assignments} {c k : ColumnRef} {e : Expr} {settings : List Setting}

/-- Settings one after another. -/
def setAll (as : Assignments) (settings : List Setting) : Assignments :=
  settings.foldl (fun as s => as.set s.1 s.2) as

/-- One more setting is made on what the others have left. -/
theorem setAll_concat (as : Assignments) (settings : List Setting) (s : Setting) :
    as.setAll (settings ++ [s]) = (as.setAll settings).set s.1 s.2 := by
  rw [setAll, List.foldl_append]
  rfl

/-- The columns are those that are set. -/
theorem columns_setAll (settings : List Setting) :
    (none.setAll settings).columns = Setting.columns settings := by
  induction settings using List.reverseRecOn with
  | nil => rfl
  | append_singleton settings s ih =>
    obtain ⟨c, e⟩ := s
    have hkeys := keys_setIn c e (none.setAll settings).entries
    rw [setAll_concat, columns_concat, ← ih]
    exact hkeys

/-- Once a column is set it has what it was set to, and the others have what they had. -/
theorem get?_set : (as.set k e).get? c = if k = c then some e else as.get? c := by
  obtain ⟨entries, hnodup⟩ := as
  show ((setIn k e entries).find? fun entry => entry.1 == c).map Prod.snd =
    if k = c then some e else (entries.find? fun entry => entry.1 == c).map Prod.snd
  -- holds of any list of entries; that the keys differ would only be in the way
  clear hnodup
  induction entries with
  | nil => by_cases h : k = c <;> simp [setIn, h]
  | cons entry entries ih =>
    obtain ⟨k', v⟩ := entry
    rw [setIn]
    by_cases hk : k' = k
    · subst hk
      by_cases h : k' = c <;> simp [h]
    · rw [if_neg hk]
      by_cases h : k' = c
      · have hne : k ≠ c := fun hkc => hk (h.trans hkc.symm)
        simp [h, hne]
      · rw [List.find?_cons_of_neg (by simpa using h), List.find?_cons_of_neg (by simpa using h),
          ih]

/-- Each column has what it is set to last. -/
theorem get?_setAll (settings : List Setting) (c : ColumnRef) :
    (none.setAll settings).get? c = last settings c := by
  induction settings using List.reverseRecOn with
  | nil => rfl
  | append_singleton settings s ih =>
    obtain ⟨k, e⟩ := s
    rw [setAll_concat, get?_set, last_concat, ih]

/-- **A column that is set again has its value replaced where it stands.** -/
theorem entries_set_of_mem (h : c ∈ as.columns) :
    (as.set c e).entries = as.entries.map fun entry => if entry.1 = c then (c, e) else entry := by
  obtain ⟨entries, hnodup⟩ := as
  show setIn c e entries = _
  replace h : c ∈ entries.map Prod.fst := h
  induction entries with
  | nil => cases h
  | cons entry entries ih =>
    obtain ⟨k, v⟩ := entry
    rw [List.map_cons, List.nodup_cons] at hnodup
    rw [setIn, List.map_cons]
    by_cases hk : k = c
    · -- the column is not among the others, so these stay as they are
      subst hk
      rw [if_pos rfl, if_pos rfl]
      have hrest : ∀ entry ∈ entries, (if entry.1 = k then (k, e) else entry) = entry := by
        intro entry hentry
        apply if_neg
        exact fun hk => hnodup.1 (List.mem_map.mpr ⟨entry, hentry, hk⟩)
      rw [List.map_congr_left hrest, List.map_id']
    · rw [if_neg hk, if_neg hk]
      congr 1
      apply ih hnodup.2
      rw [List.map_cons, List.mem_cons] at h
      exact h.resolve_left (Ne.symm hk)

/-- The values stand in the order of the columns. -/
theorem forall₂_values (as : Assignments) :
    List.Forall₂ (fun c e => as.get? c = some e) as.columns as.values := by
  rw [columns, values, List.forall₂_map_left_iff, List.forall₂_map_right_iff, List.forall₂_same]
  intro entry hentry
  exact get?_eq_some_iff.mpr hentry

/-- The calls that put a row of a batch together. -/
inductive Call : Type 1 where
  | value {α : Type} (c : Column α) (a : α)
  | valueOf {α : Type} (c : Column α) (e : Typed α)

/-- One call. -/
def call (as : Assignments) : Call → Assignments
  | .value c a => as.set c.ref (c.typed.value a)
  | .valueOf c e => as.set c.ref e.node

/-- Calls one after another, on a row in which nothing is set. -/
def run (calls : List Call) : Assignments := calls.foldl call none

/-- The setting of a call. -/
def Call.setting : Call → Setting
  | value c a => (c.ref, c.typed.value a)
  | valueOf c e => (c.ref, e.node)

/-- The settings of calls. -/
def settingsOf (calls : List Call) : List Setting := calls.map Call.setting

/-- Calls make their settings one after another. -/
theorem run_eq_setAll (calls : List Call) : run calls = none.setAll (settingsOf calls) := by
  have hcall : call = fun as a => as.set (Call.setting a).1 (Call.setting a).2 := by
    funext as a
    cases a <;> rfl
  rw [run, setAll, settingsOf, List.foldl_map, hcall]

end Assignments

/-! ## Builders -/

/-- The setting of a call, if it has one. -/
def Insert.Call.setting : Insert.Call → Option Setting
  | value c a => some (c.ref, c.typed.value a)
  | valueOption c a => a.map fun a => (c.ref, c.typed.value a)
  | valueOf c e => some (c.ref, e.node)
  | onConflict .. | returnColumn _ => none

/-- The setting of a call, if it has one. -/
def Update.Call.setting : Update.Call → Option Setting
  | set c a => some (c.ref, c.typed.value a)
  | setNull c => some (c.ref, .literal .null)
  | setOf c e => some (c.ref, e.node)
  | increment c a => some (c.ref, (c.typed.arith .add a).node)
  | decrement c a => some (c.ref, (c.typed.arith .sub a).node)
  | withWhere _ | andWhere _ | orWhere _ | returnColumn _ => none

/-- The calls on an insertion set what their settings say, those without a setting nothing. -/
theorem Insert.assignments_run (i : Insert) (calls : List Insert.Call) :
    (i.run calls).assignments = i.assignments.setAll (calls.filterMap Call.setting) :=
  stored_foldl (fun i a => by rcases a with _ | ⟨c, _ | a⟩ | _ | _ | _ <;> rfl) i calls

/-- The calls on an update do so too. -/
theorem Update.assignments_run (u : Update) (calls : List Update.Call) :
    (u.run calls).assignments = u.assignments.setAll (calls.filterMap Call.setting) :=
  stored_foldl (fun u a => by cases a <;> rfl) u calls

/-! ## Texts -/

/-- The text of an insertion of rows of values under the names of these columns. -/
def insertionText (d : Dialect) (table : Table) (columns : List ColumnRef)
    (rows : List (List Expr)) (conflict : Option Conflict) (returning : List ColumnRef) : String :=
  "INSERT INTO " ++ d.quote table.name ++
    " (" ++ ", ".intercalate (columns.map fun c => d.quote c.name) ++ ") VALUES " ++
    ", ".intercalate (Fragment.textsFrom d 0 (rows.map (tuple d))) ++
    d.write (Conflict.clause d (columns.map ColumnRef.name) conflict) ++
    d.write (Returning.clause returning)

/-- The text of an update that sets the names of these columns to values, one by one. -/
def updateText (d : Dialect) (table : Table) (columns : List ColumnRef) (values : List Expr)
    (condition : Condition) (returning : List ColumnRef) : String :=
  "UPDATE " ++ d.write table.sourcePhrase ++ " SET " ++
    ", ".intercalate (List.zipWith (fun c value => d.quote c.name ++ " = " ++ value) columns
      (Fragment.textsFrom d 0 (Expr.fragments d values))) ++
    Fragment.textFrom d (values.flatMap fun e => (e.fragment d).values).length
      (Predicate.clause d " WHERE " condition) ++
    d.write (Returning.clause returning)

variable {d : Dialect}

/-- The names of a batch are those of its columns. -/
theorem Batch.names_eq_map (b : Batch) : b.names = b.columns.map ColumnRef.name := by
  rw [names, columns]
  cases b.rows.head? with
  | none => rfl
  | some first => exact Assignments.names_eq_map first

/-- A statement of a batch is an insertion under the names of its columns. -/
theorem Batch.sql_statement {b : Batch} (rows : List (List Expr)) :
    (b.statement d b.names (rows.map (tuple d))).sql =
      insertionText d b.table b.columns rows b.conflict b.returning := by
  have hnames : d.quoteList b.names = ", ".intercalate (b.columns.map fun c => d.quote c.name) := by
    rw [Dialect.quoteList_eq_intercalate, names_eq_map, List.map_map]
    rfl
  have hsql := congrArg Prepared.sql (statement_eq (b := b) (d := d) (rows.map (tuple d)))
  unfold insertionText
  rw [hsql]
  unfold opening closing
  rw [hnames]
  simp only [String.append_assoc, names_eq_map]

/-- The names in a list of assignments bind nothing, so the values are numbered as they are by
themselves. -/
theorem textsFrom_assignments (n : Nat) (entries : List (ColumnRef × Expr)) :
    Fragment.textsFrom d n (entries.map (Update.assignment d)) =
      List.zipWith (fun c value => d.quote c.name ++ " = " ++ value) (entries.map Prod.fst)
        (Fragment.textsFrom d n (Expr.fragments d (entries.map Prod.snd))) := by
  induction entries generalizing n with
  | nil => rfl
  | cons entry entries ih =>
    have hvalues : (Update.assignment d entry).values = (entry.2.fragment d).values := by
      simp [Update.assignment, Fragment.concat, Fragment.name]
    have htext : Fragment.textFrom d n (Update.assignment d entry) =
        d.quote entry.1.name ++ " = " ++ Fragment.textFrom d n (entry.2.fragment d) := by
      simp [Update.assignment, Fragment.concat, Fragment.name, String.append_assoc]
    rw [List.map_cons, List.map_cons, List.map_cons, Expr.fragments, Fragment.textsFrom,
      Fragment.textsFrom, List.zipWith_cons_cons, hvalues, htext, ih]

/-- An update sets the names of its columns to their values. -/
theorem Update.sql_fragment (u : Update) :
    ((u.fragment d).prepare d).sql = updateText d u.table u.assignments.columns
      u.assignments.values u.condition u.returning := by
  have hvalues : (Fragment.comma (u.assignments.entries.map (assignment d))).values =
      u.assignments.values.flatMap fun e => (e.fragment d).values := by
    rw [Fragment.comma, Fragment.values_sepBy, Assignments.values, List.flatMap_map,
      List.flatMap_map]
    refine List.flatMap_congr fun entry _ => ?_
    simp [assignment, Fragment.concat, Fragment.name]
  have hlist : Fragment.textFrom d 0 (.comma (u.assignments.entries.map (assignment d))) =
      ", ".intercalate (List.zipWith (fun c value => d.quote c.name ++ " = " ++ value)
        u.assignments.columns (Fragment.textsFrom d 0 (Expr.fragments d u.assignments.values))) :=
    by rw [Fragment.textFrom_comma, textsFrom_assignments]; rfl
  rw [Fragment.sql_prepare, fragment, updateText, ← hlist, ← hvalues]
  simp [Fragment.concat, Fragment.textFrom_append, Fragment.textFrom_ofPhrase,
    String.append_assoc]

/-! ## What is listed -/

/-- No name is listed twice exactly if the names tell the columns apart. -/
theorem Setting.nodup_names_iff {settings : List Setting} :
    ((columns settings).map ColumnRef.name).Nodup ↔ NamesTell settings := by
  have hnodup : (columns settings).Nodup := by
    rw [← Assignments.columns_setAll]
    exact Assignments.columns_nodup _
  rw [List.nodup_map_iff_inj_on hnodup]
  constructor
  · intro h s hs s' hs' hname
    have hsame := h s.1 (mem_columns_iff.mpr ⟨s.2, hs⟩) s'.1 (mem_columns_iff.mpr ⟨s'.2, hs'⟩) hname
    rw [hsame]
  · intro h c hc c' hc' hname
    obtain ⟨e, he⟩ := mem_columns_iff.mp hc
    obtain ⟨e', he'⟩ := mem_columns_iff.mp hc'
    have htable := h _ he _ he' hname
    obtain ⟨table, name⟩ := c
    obtain ⟨table', name'⟩ := c'
    cases htable
    cases hname
    rfl

/-- The values stored are those of the columns: each has what it was set to last. -/
theorem Assignments.values_setAll (settings : List Setting) :
    Values settings (Setting.columns settings) (none.setAll settings).values := by
  have h := forall₂_values (none.setAll settings)
  rw [columns_setAll] at h
  simpa only [Values, get?_setAll] using h

/-- The statement of an insertion into which settings were made. -/
theorem Insert.listed {i : Insert} {settings : List Setting}
    (h : i.assignments = Assignments.none.setAll settings) :
    ∃ values, Values settings (columns settings) values ∧
      ((i.fragment d).prepare d).sql =
        insertionText d i.table (columns settings) [values] i.conflict i.returning := by
  have hcolumns : (Batch.ofInsert i).columns = columns settings := by
    rw [← Assignments.columns_setAll, ← h]
    rfl
  refine ⟨i.assignments.values, ?_, ?_⟩
  · rw [h]
    exact Assignments.values_setAll settings
  · rw [Batch.prepare_insert, ← hcolumns]
    exact Batch.sql_statement [i.assignments.values]

/-- The statement of an update into which settings were made. -/
theorem Update.listed {u : Update} {settings : List Setting}
    (h : u.assignments = Assignments.none.setAll settings) :
    ∃ values, Values settings (columns settings) values ∧
      ((u.fragment d).prepare d).sql =
        updateText d u.table (columns settings) values u.condition u.returning := by
  refine ⟨u.assignments.values, ?_, ?_⟩
  · rw [h]
    exact Assignments.values_setAll settings
  · rw [u.sql_fragment, h, Assignments.columns_setAll]

/-- Where a row sets all of the columns, it has a value for each of them. -/
theorem Batch.forall₂_valuesIn {columns : List ColumnRef} {row : Assignments}
    (h : ∀ c ∈ columns, c ∈ row.columns) :
    List.Forall₂ (fun c e => row.get? c = some e) columns (valuesIn columns row) := by
  induction columns with
  | nil => exact .nil
  | cons c columns ih =>
    rw [List.forall_mem_cons] at h
    obtain ⟨e, he⟩ := Assignments.mem_columns_iff.mp h.1
    rw [valuesIn, List.filterMap_cons_some he]
    exact .cons he (ih h.2)

/-- All rows of a batch that passes its check set its columns. -/
theorem Batch.mem_columns_of_check {b : Batch} (h : b.check d = .ok ()) {row : Assignments}
    (hrow : row ∈ b.rows) {c : ColumnRef} (hc : c ∈ b.columns) : c ∈ row.columns := by
  obtain ⟨first, rest, hrows⟩ := List.exists_cons_of_ne_nil (List.ne_nil_of_mem hrow)
  obtain ⟨-, hsame, -⟩ := (check_eq_ok_iff hrows).mp h
  have hcolumns : b.columns = first.columns := by
    rw [columns, hrows]
    rfl
  rw [hcolumns] at hc
  rw [hrows] at hrow
  rcases List.mem_cons.mp hrow with rfl | hrest
  · exact hc
  · exact (sameColumns_iff.mp (hsame row hrest) c).mpr hc

/-- The statement of a batch for a span of its rows, put together by calls. -/
theorem Batch.listed {b : Batch} {first : List Assignments.Call}
    {rest : List (List Assignments.Call)} (hrows : b.rows = (first :: rest).map Assignments.run)
    {strategy : BatchStrategy} {limit : Option Nat} {spans : List (Span × Prepared)}
    (h : b.buildSpans d strategy limit = .ok spans) {s : Span × Prepared} (hs : s ∈ spans) :
    ∃ rows, List.Forall₂
        (fun settings => Values settings (Setting.columns (Assignments.settingsOf first)))
        (s.1.slice ((first :: rest).map Assignments.settingsOf)) rows ∧
      s.2.sql = insertionText d b.table (Setting.columns (Assignments.settingsOf first)) rows
        b.conflict b.returning := by
  have hcheck := check_eq_ok_of_buildSpans h
  rw [buildSpans_eq hcheck] at h
  cases h
  obtain ⟨span, -, rfl⟩ := List.mem_map.mp hs
  have hcolumns : b.columns = Setting.columns (Assignments.settingsOf first) := by
    rw [columns, hrows, List.map_cons, List.head?_cons, Option.elim_some,
      Assignments.run_eq_setAll, Assignments.columns_setAll]
  have hassignments : b.rows =
      ((first :: rest).map Assignments.settingsOf).map Assignments.none.setAll := by
    rw [hrows, List.map_map]
    exact List.map_congr_left fun calls _ => Assignments.run_eq_setAll calls
  have htuples : span.slice (b.tuples d b.columns) =
      ((span.slice ((first :: rest).map Assignments.settingsOf)).map fun settings =>
        valuesIn b.columns (Assignments.none.setAll settings)).map (tuple d) := by
    rw [tuples, hassignments, List.map_map, Span.slice_map, List.map_map]
    rfl
  rw [← hcolumns]
  refine ⟨(span.slice ((first :: rest).map Assignments.settingsOf)).map fun settings =>
    valuesIn b.columns (Assignments.none.setAll settings), ?_, ?_⟩
  · rw [List.forall₂_map_right_iff, List.forall₂_same]
    intro settings hmem
    have hrow : Assignments.none.setAll settings ∈ b.rows := by
      rw [hassignments]
      exact List.mem_map_of_mem (List.mem_of_mem_drop (List.mem_of_mem_take hmem))
    have hvalues := forall₂_valuesIn fun c hc => mem_columns_of_check hcheck hrow hc
    simpa only [Values, Assignments.get?_setAll] using hvalues
  · show (b.chunk d span).sql = _
    rw [chunk, htuples]
    exact sql_statement _

/-- **What is set is listed, name by name, with one value for each.**  Of any calls on an insertion,
on an update or on the rows of a batch, a statement that is built lists the names of the columns
that are set, in the order in which they are set first; and in every tuple, each column has the
value that it is set to last.  No name is listed twice exactly if the columns that are set under one
name have one qualifier.  A column that is set again has its value replaced where it stands. -/
theorem settings_listed (d : Dialect) :
    (∀ (t : Table) (calls : List Insert.Call) (p : Prepared),
      (Statement.insert (Insert.run { table := t } calls)).build d = .ok p →
      ∃ values, Values (calls.filterMap Insert.Call.setting)
          (columns (calls.filterMap Insert.Call.setting)) values ∧
        p.sql = insertionText d (Insert.run { table := t } calls).table
          (columns (calls.filterMap Insert.Call.setting)) [values]
          (Insert.run { table := t } calls).conflict
          (Insert.run { table := t } calls).returning) ∧
    (∀ (t : Table) (calls : List Update.Call) (p : Prepared),
      (Statement.update (Update.run { table := t } calls)).build d = .ok p →
      ∃ values, Values (calls.filterMap Update.Call.setting)
          (columns (calls.filterMap Update.Call.setting)) values ∧
        p.sql = updateText d (Update.run { table := t } calls).table
          (columns (calls.filterMap Update.Call.setting)) values
          (Update.run { table := t } calls).condition
          (Update.run { table := t } calls).returning) ∧
    (∀ (b : Batch) (first : List Assignments.Call) (rest : List (List Assignments.Call))
      (strategy : BatchStrategy) (limit : Option Nat) (spans : List (Span × Prepared)),
      b.rows = (first :: rest).map Assignments.run →
      b.buildSpans d strategy limit = .ok spans → ∀ s ∈ spans,
      ∃ rows,
        List.Forall₂ (fun settings => Values settings (columns (Assignments.settingsOf first)))
          (s.1.slice ((first :: rest).map Assignments.settingsOf)) rows ∧
        s.2.sql = insertionText d b.table (columns (Assignments.settingsOf first)) rows
          b.conflict b.returning) ∧
    (∀ settings : List Setting,
      ((columns settings).map ColumnRef.name).Nodup ↔ NamesTell settings) ∧
    ∀ (as : Assignments) (c : ColumnRef) (e : Expr), c ∈ as.columns →
      (as.set c e).entries =
        as.entries.map fun entry => if entry.1 = c then (c, e) else entry := by
  refine ⟨?_, ?_, ?_, fun _ => Setting.nodup_names_iff, fun _ _ _ h =>
    Assignments.entries_set_of_mem h⟩
  · intro t calls p hbuild
    obtain ⟨-, rfl⟩ := Statement.build_eq_ok_iff.mp hbuild
    exact Insert.listed (Insert.assignments_run { table := t } calls)
  · intro t calls p hbuild
    obtain ⟨-, rfl⟩ := Statement.build_eq_ok_iff.mp hbuild
    exact Update.listed (Update.assignments_run { table := t } calls)
  · intro b first rest strategy limit spans hrows hbuild s hs
    exact Batch.listed hrows hbuild hs

/-- A table. -/
def users : Table := { name := "users" }

/-- The name of a user, of the table as it is called. -/
def userName : Column String := users.column "name" .text

/-- The name of a user, of the table under another name. -/
def aliasedName : Column String := (users.withAlias "u").column "name" .text

/-- A column that is set twice is listed once, with the value that it is set to last. -/
theorem settings_listed_userName :
    ∃ p, (Statement.update (Update.run { table := users }
        [.set userName "a", .set userName "b"])).build .postgres = .ok p ∧
      p.sql = updateText .postgres users [userName.ref] [userName.typed.value "b"] none [] := by
  have hbuild := Statement.build_eq_ok_iff.mpr
    ⟨(rfl : (Statement.update (Update.run { table := users }
      [.set userName "a", .set userName "b"])).check .postgres = .ok ()), rfl⟩
  obtain ⟨values, hvalues, hsql⟩ := (settings_listed .postgres).2.1 users _ _ hbuild
  have hlast : values = [userName.typed.value "b"] := by
    rcases hvalues with _ | ⟨hlast, _ | _⟩
    cases hlast
    rfl
  subst hlast
  exact ⟨_, hbuild, hsql⟩

/-- **A table that goes by two names has a name listed twice**: set for the column of each, it is
kept as two columns, and both are written alike. -/
theorem name_listed_twice :
    (∃ p, (Statement.insert (Insert.run { table := users }
        [.value userName "a", .value aliasedName "b"])).build .postgres = .ok p ∧
      p.sql = "INSERT INTO \"users\" (\"name\", \"name\") VALUES ($1, $2)") ∧
    (∃ p, (Statement.update (Update.run { table := users }
        [.set userName "a", .set aliasedName "b"])).build .postgres = .ok p ∧
      p.sql = "UPDATE \"users\" SET \"name\" = $1, \"name\" = $2") ∧
    ∃ p, Batch.build { table := users, rows := [Assignments.run
        [.value userName "a", .value aliasedName "b"]] } .postgres = .ok [p] ∧
      p.sql = "INSERT INTO \"users\" (\"name\", \"name\") VALUES ($1, $2)" := by
  refine ⟨⟨_, rfl, ?_⟩, ⟨_, rfl, ?_⟩, ⟨_, rfl, ?_⟩⟩
  · decide +kernel
  · decide +kernel
  · decide +kernel

end BoundSql
