import BoundSql.Statement.Assignments
import Mathlib.Data.List.Basic

/-!
# Looking into assignments

No column is set twice, so what is found under a column is the one entry that it has
(`get?_eq_some_iff`).  Assignments may therefore be put into any order of their columns without
changing what is found in them (`arranged`).
-/

namespace BoundSql.Assignments

variable {as row : Assignments} {c : ColumnRef} {e : Expr} {columns : List ColumnRef}

/-- The names of a row are those of its columns. -/
theorem names_eq_map (as : Assignments) : as.names = as.columns.map ColumnRef.name := by
  rw [names, columns, List.map_map]
  rfl

/-- A row is not empty just if some column is set. -/
theorem isEmpty_eq_false_iff : as.isEmpty = false ↔ ∃ c, c ∈ as.columns := by
  have h : as.isEmpty = as.columns.isEmpty := List.isEmpty_map.symm
  rw [h, List.isEmpty_eq_false_iff_exists_mem]

/-- No column is set twice. -/
theorem columns_nodup (as : Assignments) : as.columns.Nodup := as.nodup

/-- What is found under a column is its entry. -/
theorem get?_eq_some_iff : as.get? c = some e ↔ (c, e) ∈ as.entries := by
  obtain ⟨entries, hnodup⟩ := as
  show (entries.find? fun entry => entry.1 == c).map Prod.snd = some e ↔ (c, e) ∈ entries
  induction entries with
  | nil => simp
  | cons entry entries ih =>
    obtain ⟨k, x⟩ := entry
    rw [List.map_cons, List.nodup_cons] at hnodup
    by_cases hk : k = c
    · subst hk
      have hnot : (k, e) ∉ entries := fun h =>
        hnodup.1 (List.mem_map.mpr ⟨(k, e), h, rfl⟩)
      simp [hnot, eq_comm]
    · have hne : (c, e) ≠ (k, x) := fun h => hk (congrArg Prod.fst h).symm
      rw [List.find?_cons_of_neg (by simpa using hk), ih hnodup.2, List.mem_cons]
      exact ⟨.inr, fun h => h.resolve_left hne⟩

/-- A column is set just if something is found under it. -/
theorem mem_columns_iff : c ∈ as.columns ↔ ∃ e, as.get? c = some e := by
  constructor
  · intro h
    obtain ⟨⟨k, x⟩, hmem, rfl⟩ := List.mem_map.mp h
    exact ⟨x, get?_eq_some_iff.mpr hmem⟩
  · rintro ⟨e, h⟩
    exact List.mem_map_of_mem (get?_eq_some_iff.mp h)

/-- Whether something is found under a column is whether it is set. -/
theorem isSome_get?_iff : (as.get? c).isSome ↔ c ∈ as.columns := by
  rw [Option.isSome_iff_exists, mem_columns_iff]

/-- The values of a row are what is found under its columns. -/
theorem mem_values_iff : e ∈ as.values ↔ ∃ c, as.get? c = some e := by
  constructor
  · intro h
    obtain ⟨⟨k, x⟩, hmem, rfl⟩ := List.mem_map.mp h
    exact ⟨k, get?_eq_some_iff.mpr hmem⟩
  · rintro ⟨c, h⟩
    exact List.mem_map.mpr ⟨(c, e), get?_eq_some_iff.mp h, rfl⟩

/-! ## Another order -/

/-- Set the columns, one after another, to what they are in the row. -/
def arranged (row : Assignments) (columns : List ColumnRef) : Assignments :=
  columns.foldl (fun as c => (row.get? c).elim as (as.set c)) {}

/-- A column that is not there yet goes to the end. -/
theorem setIn_of_not_mem {entries : List (ColumnRef × Expr)}
    (h : c ∉ entries.map Prod.fst) : setIn c e entries = entries ++ [(c, e)] := by
  induction entries with
  | nil => rfl
  | cons entry entries ih =>
    rw [List.map_cons, List.mem_cons, not_or] at h
    rw [setIn, if_neg (Ne.symm h.1), ih h.2, List.cons_append]

/-- Columns that are not there yet are added in order, as far as the row has them. -/
theorem entries_foldl (hc : columns.Nodup) (hnew : ∀ c ∈ columns, c ∉ as.columns) :
    (columns.foldl (fun as c => (row.get? c).elim as (as.set c)) as).entries =
      as.entries ++ columns.filterMap fun c => (row.get? c).map (c, ·) := by
  induction columns generalizing as with
  | nil => rw [List.foldl_nil, List.filterMap_nil, List.append_nil]
  | cons c columns ih =>
    rw [List.nodup_cons] at hc
    rw [List.forall_mem_cons] at hnew
    rw [List.foldl_cons]
    cases hget : row.get? c with
    | none =>
      rw [List.filterMap_cons_none (by rw [hget]; rfl)]
      exact ih hc.2 hnew.2
    | some e =>
      have hset : (as.set c e).entries = as.entries ++ [(c, e)] := setIn_of_not_mem hnew.1
      rw [List.filterMap_cons_some (by rw [hget]; rfl), Option.elim_some, ih hc.2 ?_, hset,
        List.append_assoc]
      · rfl
      · intro c' hc' hmem
        rw [Assignments.columns, hset, List.map_append, List.mem_append] at hmem
        rcases hmem with hmem | hmem
        · exact hnew.2 c' hc' hmem
        · rw [List.map_singleton, List.mem_singleton] at hmem
          subst hmem
          exact hc.1 hc'

/-- The entries of an arranged row are those of the row, in the order of the columns. -/
theorem entries_arranged (hc : columns.Nodup) :
    (row.arranged columns).entries = columns.filterMap fun c => (row.get? c).map (c, ·) :=
  entries_foldl hc fun _ _ => List.not_mem_nil

/-- The columns are in the new order. -/
theorem columns_arranged (hc : columns.Nodup) (hrow : ∀ c ∈ columns, c ∈ row.columns) :
    (row.arranged columns).columns = columns := by
  rw [Assignments.columns, entries_arranged hc, List.map_filterMap]
  have hkey : ∀ c ∈ columns, ((row.get? c).map (c, ·)).map Prod.fst = some c := by
    intro c hmem
    obtain ⟨e, he⟩ := mem_columns_iff.mp (hrow c hmem)
    rw [he]
    rfl
  rw [List.filterMap_congr hkey, List.filterMap_some]

/-- Under each of the columns the same is found as before. -/
theorem get?_arranged (hc : columns.Nodup) (hmem : c ∈ columns) :
    (row.arranged columns).get? c = row.get? c := by
  refine Option.ext fun e => ?_
  rw [get?_eq_some_iff, entries_arranged hc, List.mem_filterMap]
  constructor
  · rintro ⟨k, _, hk⟩
    obtain ⟨x, hx, heq⟩ := Option.map_eq_some_iff.mp hk
    cases heq
    exact hx
  · intro he
    exact ⟨c, hmem, by rw [he]; rfl⟩

/-- If the columns are those of the row, everything is found as before. -/
theorem get?_arranged_of_mem_iff (hc : columns.Nodup)
    (hrow : ∀ c, c ∈ row.columns ↔ c ∈ columns) (c : ColumnRef) :
    (row.arranged columns).get? c = row.get? c := by
  by_cases hmem : c ∈ columns
  · exact get?_arranged hc hmem
  · have hnone (as : Assignments) (has : c ∉ as.columns) : as.get? c = none := by
      rwa [← isSome_get?_iff, Option.not_isSome_iff_eq_none] at has
    have hcolumns := columns_arranged hc fun k hk => (hrow k).mpr hk
    rw [hnone row (mt (hrow c).mp hmem), hnone (row.arranged columns) (by rwa [hcolumns])]

/-- The values are those of the row in the new order. -/
theorem values_arranged (hc : columns.Nodup) :
    (row.arranged columns).values = columns.filterMap row.get? := by
  rw [Assignments.values, entries_arranged hc, List.map_filterMap]
  refine List.filterMap_congr fun c _ => ?_
  rw [Option.map_map]
  exact Option.map_id'

end BoundSql.Assignments
