import BoundSql.Batch
import BoundSql.Proofs.Assignments
import Mathlib.Data.List.Perm.Subperm

/-!
# What it means to pass a check

Each check is a chain of smaller ones and passes if all of them do.  Here the chains of insertions
and batches are taken apart, and what a check asks is said without the order in which it asks.
-/

namespace BoundSql

/-- One check behind another passes exactly if both do. -/
theorem andThen_eq_ok_iff {x y : Except QueryError Unit} :
    (x >>= fun _ => y) = .ok () ↔ x = .ok () ∧ y = .ok () := by
  cases x with
  | error e => simp [bind, Except.bind]
  | ok _ => simp [bind, Except.bind]

/-! ## Assignments -/

/-- A query is listed for expressions if it is for one of them. -/
theorem Expr.mem_queriesOfAll_iff {es : List Expr} {q : Select} :
    q ∈ Expr.queriesOfAll es ↔ ∃ e ∈ es, q ∈ e.queries := by
  induction es with
  | nil => simp [Expr.queriesOfAll]
  | cons e es ih => simp [Expr.queriesOfAll, ih]

/-- Assignments pass if each of their values does. -/
theorem Assignments.check_eq_ok_iff {d : Dialect} {as : Assignments} :
    as.check d = .ok () ↔ ∀ e ∈ as.values, e.check d = .ok () := by
  unfold Assignments.check Expr.check
  simp only [checkAll_eq_ok_iff, Expr.mem_queriesOfAll_iff]
  constructor
  · intro h e he q hq
    exact h q ⟨e, he, hq⟩
  · rintro h q ⟨e, he, hq⟩
    exact h e he q hq

/-! ## Conflicts -/

/-- Only which columns are inserted matters to a conflict clause, not their order. -/
theorem Conflict.checkOption_congr {d : Dialect} {conflict : Option Conflict}
    {names names' : List String} (h : ∀ n, n ∈ names ↔ n ∈ names') :
    Conflict.checkOption d names conflict = Conflict.checkOption d names' conflict := by
  cases conflict with
  | none => rfl
  | some c =>
    obtain ⟨target, action⟩ := c
    cases action with
    | keep => rfl
    | overwrite columns => rfl
    | overwriteAll =>
      have hempty (keep : String → Bool) :
          (names.filter keep).isEmpty = (names'.filter keep).isEmpty := by
        rw [Bool.eq_iff_iff, List.isEmpty_iff, List.isEmpty_iff, List.filter_eq_nil_iff,
          List.filter_eq_nil_iff]
        simp only [h]
      simp only [Conflict.checkOption, Conflict.check, Conflict.upsertAction, hempty]

/-! ## One row -/

/-- A condition that must not hold, and a check behind it. -/
theorem throwIf_eq_ok_iff {condition : Bool} {e : QueryError} {y : Except QueryError Unit} :
    ((if condition then throw e else pure ()) >>= fun _ => y) = .ok () ↔
      condition = false ∧ y = .ok () := by
  cases condition with
  | false => exact ⟨fun h => ⟨rfl, h⟩, fun h => h.2⟩
  | true => simp [throw, throwThe, MonadExceptOf.throw, bind, Except.bind]

/-- The checks of an insertion, all of which have to pass. -/
theorem Insert.check_eq_ok_iff {d : Dialect} {i : Insert} :
    i.check d = .ok () ↔ i.assignments.isEmpty = false ∧ i.assignments.check d = .ok () ∧
      Conflict.checkOption d i.assignments.names i.conflict = .ok () ∧
      Returning.check d i.returning = .ok () := by
  have h : i.check d = ((if i.assignments.isEmpty then throw (.emptyAssignments .insert)
      else pure ()) >>= fun _ => i.assignments.check d >>= fun _ =>
        Conflict.checkOption d i.assignments.names i.conflict >>= fun _ =>
          Returning.check d i.returning) := by
    rw [Insert.check]
    split <;> rfl
  rw [h, throwIf_eq_ok_iff, andThen_eq_ok_iff, andThen_eq_ok_iff]

/-! ## Many rows -/

namespace Batch

variable {d : Dialect} {first row : Assignments}

/-- Two rows compare as the same if they set the same columns. -/
theorem sameColumns_iff :
    sameColumns first row = true ↔ ∀ c, c ∈ row.columns ↔ c ∈ first.columns := by
  have hsize (as : Assignments) : as.size = as.columns.length := (List.length_map _).symm
  rw [sameColumns, Bool.and_eq_true, beq_iff_eq, hsize, hsize, List.all_eq_true]
  simp only [Assignments.isSome_get?_iff]
  constructor
  · rintro ⟨hlength, hsub⟩
    have hsubperm := first.columns_nodup.subperm hsub
    have hperm := hsubperm.perm_of_length_le (Nat.le_of_eq hlength)
    exact fun c => hperm.mem_iff.symm
  · intro h
    have hperm := (List.perm_ext_iff_of_nodup row.columns_nodup first.columns_nodup).mpr h
    exact ⟨hperm.length_eq, fun c hc => (h c).mpr hc⟩

/-- Rows agree in their columns if each of them agrees with the first one. -/
theorem checkColumns_eq_ok_iff {rows : List Assignments} {index : Nat} :
    checkColumns first index rows = .ok () ↔ ∀ row ∈ rows, sameColumns first row = true := by
  induction rows generalizing index with
  | nil => simp [checkColumns]
  | cons row rows ih =>
    rw [checkColumns, List.forall_mem_cons]
    split
    · next h => rw [ih, and_iff_right h]
    · next h => simp [h]

/-- The values of rows pass their check if those of each row do. -/
theorem checkRows_eq_ok_iff {rows : List Assignments} :
    checkRows d rows = .ok () ↔ ∀ row ∈ rows, row.check d = .ok () := by
  induction rows with
  | nil => simp [checkRows]
  | cons row rows ih => rw [checkRows, andThen_eq_ok_iff, ih, List.forall_mem_cons]

/-- A batch with a first row is checked by five checks, one behind another. -/
theorem check_of_rows {b : Batch} {rest : List Assignments} (hrows : b.rows = first :: rest) :
    b.check d = ((if first.isEmpty then throw (.emptyAssignments .insert) else pure ()) >>=
      fun _ => checkColumns first 1 rest >>= fun _ => checkRows d b.rows >>= fun _ =>
        Conflict.checkOption d first.names b.conflict >>= fun _ =>
          Returning.check d b.returning) := by
  rw [check]
  split
  · next hnil => rw [hnil] at hrows; cases hrows
  · next hcons =>
    rw [hcons] at hrows
    cases hrows
    split <;> rfl

/-- The checks of a batch of at least one row, all of which have to pass. -/
theorem check_eq_ok_iff {b : Batch} {rest : List Assignments} (hrows : b.rows = first :: rest) :
    b.check d = .ok () ↔ first.isEmpty = false ∧ (∀ row ∈ rest, sameColumns first row = true) ∧
      (∀ row ∈ b.rows, row.check d = .ok ()) ∧
      Conflict.checkOption d first.names b.conflict = .ok () ∧
      Returning.check d b.returning = .ok () := by
  rw [check_of_rows hrows, throwIf_eq_ok_iff, andThen_eq_ok_iff, andThen_eq_ok_iff,
    andThen_eq_ok_iff, checkColumns_eq_ok_iff, checkRows_eq_ok_iff]

end Batch

end BoundSql
