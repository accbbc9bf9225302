import BoundSql.Proofs.Spacing
import BoundSql.Proofs.TargetColumns
import Mathlib.Data.Finset.Card

/-!
# Assignments are a map in the order of insertion

A history of settings is replayed on assignments that are empty at first.  What comes out is told
here from the history alone, without replaying it.

* The columns are those that were set, each once, and one stands in front of another exactly if it
  was set first (`Setting.pairwise_columns`).
* What is found under a column is what the history has for it last (`Setting.last_eq_some_iff`).
* Columns, names and values are listings of the same entries, so the name at any place is that of
  the column whose value is written at that place (`Assignments.aligned`).

Main statement: `Assignments.in_order_of_insertion`.
-/

namespace BoundSql

/-! ## Histories -/

namespace Setting

variable {settings : List Setting} {c k : ColumnRef} {e : Expr}

/-- Where in a history the column is set first. -/
def firstSet (settings : List Setting) (c : ColumnRef) : Nat := (settings.map Prod.fst).idxOf c

/-- The history sets the column to this, and never again after that. -/
def SetLast (settings : List Setting) (c : ColumnRef) (e : Expr) : Prop :=
  ∃ before after, settings = before ++ (c, e) :: after ∧ ∀ s ∈ after, s.1 ≠ c

/-- A later setting does not matter to where a column is set first. -/
theorem firstSet_concat_of_mem (h : c ∈ columns settings) (s : Setting) :
    firstSet (settings ++ [s]) c = firstSet settings c := by
  have hmem : c ∈ settings.map Prod.fst := List.mem_eraseDups.mp h
  rw [firstSet, List.map_append, List.idxOf_append_of_mem hmem]
  rfl

/-- A column that is set is set first at one of the settings. -/
theorem firstSet_lt (h : c ∈ columns settings) : firstSet settings c < settings.length := by
  have hmem : c ∈ settings.map Prod.fst := List.mem_eraseDups.mp h
  have hlt := List.idxOf_lt_length_of_mem hmem
  rwa [List.length_map] at hlt

/-- A column set for the first time by the last setting is set first there. -/
theorem firstSet_concat_self (h : c ∉ columns settings) (e : Expr) :
    firstSet (settings ++ [(c, e)]) c = settings.length := by
  have hmem : c ∉ settings.map Prod.fst := mt List.mem_eraseDups.mpr h
  rw [firstSet, List.map_append, List.idxOf_append_of_notMem hmem, List.length_map,
    List.map_singleton, List.idxOf_cons_self, Nat.add_zero]

/-- **The columns stand in the order in which they are set first.** -/
theorem pairwise_columns (settings : List Setting) :
    (columns settings).Pairwise fun c k => firstSet settings c < firstSet settings k := by
  induction settings using List.reverseRecOn with
  | nil => exact .nil
  | append_singleton settings s ih =>
    obtain ⟨c, e⟩ := s
    have hold : (columns settings).Pairwise fun k k' =>
        firstSet (settings ++ [(c, e)]) k < firstSet (settings ++ [(c, e)]) k' := by
      refine ih.imp_of_mem fun hk hk' hlt => ?_
      rwa [firstSet_concat_of_mem hk, firstSet_concat_of_mem hk']
    rw [columns_concat]
    by_cases h : c ∈ columns settings
    · rwa [if_pos h]
    · rw [if_neg h, List.pairwise_append]
      refine ⟨hold, List.pairwise_singleton _ _, fun k hk k' hk' => ?_⟩
      obtain rfl := List.mem_singleton.mp hk'
      rw [firstSet_concat_of_mem hk, firstSet_concat_self h]
      exact firstSet_lt hk

/-- What is set first at one place is one column. -/
theorem nodup_columns (settings : List Setting) : (columns settings).Nodup :=
  (pairwise_columns settings).imp fun hlt heq => absurd (heq ▸ hlt) (lt_irrefl _)

/-- There are as many columns as there are different ones among the settings. -/
theorem length_columns (settings : List Setting) :
    (columns settings).length = (settings.map Prod.fst).toFinset.card := by
  rw [← List.toFinset_card_of_nodup (nodup_columns settings)]
  congr 1
  ext c
  rw [List.mem_toFinset, List.mem_toFinset, columns, List.mem_eraseDups]

/-- What is found last is what the column was set to last. -/
theorem last_eq_some_iff : last settings c = some e ↔ SetLast settings c e := by
  rw [last, List.lookup_eq_some_iff]
  constructor
  · rintro ⟨after, before, heq, hafter⟩
    refine ⟨before.reverse, after.reverse, ?_, fun s hs => ?_⟩
    · have hreverse := congrArg List.reverse heq
      rwa [List.reverse_reverse, List.reverse_append, List.reverse_cons, List.append_assoc,
        List.singleton_append] at hreverse
    · have hne := hafter s (List.mem_reverse.mp hs)
      exact Ne.symm (by simpa using hne)
  · rintro ⟨before, after, rfl, hafter⟩
    refine ⟨after.reverse, before.reverse, ?_, fun s hs => ?_⟩
    · rw [List.reverse_append, List.reverse_cons, List.append_assoc, List.singleton_append]
    · have hne := hafter s (List.mem_reverse.mp hs)
      simpa using Ne.symm hne

/-- Nothing is found last just if the column was never set. -/
theorem last_eq_none_iff : last settings c = none ↔ ∀ s ∈ settings, s.1 ≠ c := by
  rw [last, List.lookup_eq_none_iff]
  constructor
  · intro h s hs
    exact Ne.symm (by simpa using h s (List.mem_reverse.mpr hs))
  · intro h s hs
    simpa using Ne.symm (h s (List.mem_reverse.mp hs))

end Setting

/-! ## Listings -/

/-- The text at a place is that of the fragment at that place, behind the values of those in front
of it. -/
theorem Fragment.getElem?_textsFrom (d : Dialect) (n : Nat) (fs : List Fragment) (k : Nat) :
    (textsFrom d n fs)[k]? =
      fs[k]?.map fun f => textFrom d (n + ((fs.take k).flatMap values).length) f := by
  induction fs generalizing n k with
  | nil => rfl
  | cons f fs ih =>
    cases k with
    | zero => rfl
    | succ k =>
      have hsum : n + f.values.length + ((fs.take k).flatMap values).length =
          n + (f.values ++ (fs.take k).flatMap values).length := by
        rw [List.length_append, Nat.add_assoc]
      rw [textsFrom, List.getElem?_cons_succ, ih, List.getElem?_cons_succ, List.take_succ_cons,
        List.flatMap_cons, hsum]

/-- A list of expressions is written as the expressions. -/
theorem Expr.fragments_eq_map (d : Dialect) (es : List Expr) :
    Expr.fragments d es = es.map (Expr.fragment d) := by
  rw [Expr.fragments_eq, List.map_map]
  rfl

namespace Assignments

variable {as : Assignments} {c : ColumnRef} {e : Expr} {k : Nat}

/-- The texts of the values, numbered on from one to the next. -/
def texts (d : Dialect) (as : Assignments) : List String :=
  Fragment.textsFrom d 0 (Expr.fragments d as.values)

/-- The number of values that are bound in front of the one at this place. -/
def boundBefore (d : Dialect) (as : Assignments) (k : Nat) : Nat :=
  ((as.values.take k).flatMap fun e => (e.fragment d).values).length

/-- What all listings have at the place of an entry. -/
structure Aligned (d : Dialect) (as : Assignments) (k : Nat) (c : ColumnRef) (e : Expr) :
    Prop where
  column : as.columns[k]? = some c
  name : as.names[k]? = some c.name
  value : as.values[k]? = some e
  found : as.get? c = some e
  text : (as.texts d)[k]? = some (Fragment.textFrom d (as.boundBefore d k) (e.fragment d))

/-- **All listings have the entries in one order.** -/
theorem aligned (d : Dialect) (h : as.entries[k]? = some (c, e)) : as.Aligned d k c e where
  column := by rw [columns, List.getElem?_map, h]; rfl
  name := by rw [names, List.getElem?_map, h]; rfl
  value := by rw [values, List.getElem?_map, h]; rfl
  found := get?_eq_some_iff.mpr (List.mem_of_getElem? h)
  text := by
    have hvalue : as.values[k]? = some e := by rw [values, List.getElem?_map, h]; rfl
    rw [texts, Fragment.getElem?_textsFrom, Expr.fragments_eq_map, List.getElem?_map, hvalue,
      ← List.map_take, List.flatMap_map, Nat.zero_add]
    rfl

/-- There is one text for each column. -/
theorem length_texts (d : Dialect) (as : Assignments) : (as.texts d).length = as.size := by
  have hlength (n : Nat) (fs : List Fragment) : (Fragment.textsFrom d n fs).length = fs.length := by
    induction fs generalizing n with
    | nil => rfl
    | cons f fs ih => rw [Fragment.textsFrom, List.length_cons, ih, List.length_cons]
  rw [texts, hlength, Expr.fragments_eq_map, List.length_map, values, List.length_map, size]

end Assignments

/-! ## Statements -/

/-- The text of an insertion of a row: its names, and its values in the same order. -/
theorem Insert.sql_row (d : Dialect) (i : Insert) :
    ((i.fragment d).prepare d).sql =
      "INSERT INTO " ++ d.quote i.table.name ++
        " (" ++ ", ".intercalate (i.assignments.names.map d.quote) ++
        ") VALUES (" ++ ", ".intercalate (i.assignments.texts d) ++ ")" ++
        d.write (Conflict.clause d i.assignments.names i.conflict) ++
        d.write (Returning.clause i.returning) := by
  have hrow : ", ".intercalate (Fragment.textsFrom d 0 [tuple d i.assignments.values]) =
      "(" ++ ", ".intercalate (i.assignments.texts d) ++ ")" := by
    simp [tuple, Fragment.parens, Fragment.concat, Fragment.textFrom_append, Fragment.textsFrom,
      Fragment.textFrom_comma, Assignments.texts, String.append_assoc]
  have hsql := congrArg Prepared.sql
    (Batch.statement_eq (b := .ofInsert i) (d := d) [tuple d i.assignments.values])
  have hopening : ") VALUES (" = ") VALUES " ++ "(" := rfl
  rw [Batch.prepare_insert, hsql, hrow, hopening, ← Dialect.quoteList_eq_intercalate]
  unfold Batch.opening Batch.closing
  simp only [String.append_assoc, -String.reduceAppend]
  rfl

/-- The text of an update: its names, each with its value. -/
theorem Update.sql_row (d : Dialect) (u : Update) :
    ((u.fragment d).prepare d).sql =
      "UPDATE " ++ d.write u.table.sourcePhrase ++
        " SET " ++ ", ".intercalate (List.zipWith (fun name text => d.quote name ++ " = " ++ text)
          u.assignments.names (u.assignments.texts d)) ++
        Fragment.textFrom d
          (u.assignments.values.flatMap fun e => (e.fragment d).values).length
          (Predicate.clause d " WHERE " u.condition) ++
        d.write (Returning.clause u.returning) := by
  rw [Update.sql_fragment, updateText, Assignments.names_eq_map, List.zipWith_map_left]
  rfl

/-! ## The map -/

namespace Assignments

open Setting (firstSet SetLast)

/-- **Assignments are a map in the order of insertion.**  After any settings the columns are those
that were set, each once, in the order in which they were set first; under a column is found what it
was set to last, and nothing if it was not set; and there are as many as there are different columns
in the history.  All listings have the entries in this order, so in an insertion and in an update
the name at a place is that of the column whose value is written at that place. -/
theorem in_order_of_insertion (d : Dialect) (settings : List Setting) :
    let as := none.setAll settings
    as.columns.Nodup ∧
    (∀ c, c ∈ as.columns ↔ ∃ e, (c, e) ∈ settings) ∧
    (as.columns.Pairwise fun c k => firstSet settings c < firstSet settings k) ∧
    (∀ c e, as.get? c = some e ↔ SetLast settings c e) ∧
    (∀ c, as.get? c = Option.none ↔ ∀ s ∈ settings, s.1 ≠ c) ∧
    as.size = (settings.map Prod.fst).toFinset.card ∧
    (as.columns.length = as.size ∧ as.names.length = as.size ∧ as.values.length = as.size ∧
      (as.texts d).length = as.size) ∧
    (∀ k c e, as.entries[k]? = some (c, e) → as.Aligned d k c e) ∧
    (∀ table conflict returning,
      ((Insert.fragment d ⟨table, as, conflict, returning⟩).prepare d).sql =
        "INSERT INTO " ++ d.quote table.name ++
          " (" ++ ", ".intercalate (as.names.map d.quote) ++
          ") VALUES (" ++ ", ".intercalate (as.texts d) ++ ")" ++
          d.write (Conflict.clause d as.names conflict) ++ d.write (Returning.clause returning)) ∧
    ∀ table condition returning,
      ((Update.fragment d ⟨table, as, condition, returning⟩).prepare d).sql =
        "UPDATE " ++ d.write table.sourcePhrase ++
          " SET " ++ ", ".intercalate (List.zipWith (fun name text => d.quote name ++ " = " ++ text)
            as.names (as.texts d)) ++
          Fragment.textFrom d (as.values.flatMap fun e => (e.fragment d).values).length
            (Predicate.clause d " WHERE " condition) ++
          d.write (Returning.clause returning) := by
  intro as
  have hcolumns : as.columns = Setting.columns settings := columns_setAll settings
  have hsize : as.size = (Setting.columns settings).length := by
    rw [← hcolumns, columns, List.length_map]
    rfl
  refine ⟨?_, fun c => ?_, ?_, fun c e => ?_, fun c => ?_, ?_, ⟨?_, ?_, ?_, length_texts d as⟩,
    fun k c e h => aligned d h, fun _ _ _ => Insert.sql_row d _, fun _ _ _ => Update.sql_row d _⟩
  · rw [hcolumns]
    exact Setting.nodup_columns settings
  · rw [hcolumns, Setting.mem_columns_iff]
  · rw [hcolumns]
    exact Setting.pairwise_columns settings
  · rw [get?_setAll, Setting.last_eq_some_iff]
  · rw [get?_setAll, Setting.last_eq_none_iff]
  · rw [hsize, Setting.length_columns]
  · rw [columns, List.length_map]
    rfl
  · rw [names, List.length_map]
    rfl
  · rw [values, List.length_map]
    rfl

/-- An address is set, then a name, then the address again. -/
def addressAgain : List Setting :=
  [(⟨"users", "email"⟩, .literal (.text "old")), (⟨"users", "name"⟩, .literal (.text "alice")),
    (⟨"users", "email"⟩, .literal (.text "new"))]

/-- The address keeps the first place and has the later value. -/
theorem in_order_of_insertion_addressAgain :
    (none.setAll addressAgain).entries[0]? =
      some (⟨"users", "email"⟩, .literal (.text "new")) ∧
    (none.setAll addressAgain).Aligned .postgres 0 ⟨"users", "email"⟩
      (.literal (.text "new")) := by
  obtain ⟨-, -, -, -, -, -, -, haligned, -⟩ := in_order_of_insertion .postgres addressAgain
  have hentry : (none.setAll addressAgain).entries[0]? =
      some (⟨"users", "email"⟩, .literal (.text "new")) := rfl
  exact ⟨hentry, haligned 0 _ _ hentry⟩

end Assignments

end BoundSql
