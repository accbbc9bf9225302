import BoundSql.Query.Equality

/-!
# Assignments

The columns that a statement sets, each with its value, in the order in which they were first
set.  Setting a column again replaces its value where it stands, so no column occurs twice; that
is part of the type.
-/

namespace BoundSql

/-- Columns with their values, no column twice. -/
structure Assignments where
  entries : List (ColumnRef × Expr) := []
  nodup : (entries.map Prod.fst).Nodup := by simp

namespace Assignments

/-! ## Setting -/

/-- Set a column in a list of entries. -/
def setIn (c : ColumnRef) (e : Expr) : List (ColumnRef × Expr) → List (ColumnRef × Expr)
  | [] => [(c, e)]
  | (k, v) :: rest => if k = c then (k, e) :: rest else (k, v) :: setIn c e rest

/-- A column that is there stays where it is, and a new one goes to the end. -/
theorem keys_setIn (c : ColumnRef) (e : Expr) (entries : List (ColumnRef × Expr)) :
    (setIn c e entries).map Prod.fst =
      if c ∈ entries.map Prod.fst then entries.map Prod.fst else entries.map Prod.fst ++ [c] := by
  induction entries with
  | nil => simp [setIn]
  | cons entry rest ih =>
    obtain ⟨k, v⟩ := entry
    by_cases h : k = c
    · simp [setIn, h]
    · have h' : c ≠ k := fun hc => h hc.symm
      simp only [setIn, h, if_false, List.map_cons, ih, List.mem_cons, h', false_or]
      split <;> simp

/-- To set a column keeps the columns different. -/
theorem nodup_keys_setIn {c : ColumnRef} {e : Expr} {entries : List (ColumnRef × Expr)}
    (h : (entries.map Prod.fst).Nodup) : ((setIn c e entries).map Prod.fst).Nodup := by
  rw [keys_setIn]
  split
  · exact h
  · next hc =>
    rw [List.nodup_append]
    refine ⟨h, by simp, ?_⟩
    intro a ha b hb
    simp only [List.mem_singleton] at hb
    subst hb
    exact fun hab => hc (hab ▸ ha)

/-- Set a column. -/
def set (as : Assignments) (c : ColumnRef) (e : Expr) : Assignments :=
  ⟨setIn c e as.entries, nodup_keys_setIn as.nodup⟩

/-! ## Looking -/

/-- The value of a column, if it is set. -/
def get? (as : Assignments) (c : ColumnRef) : Option Expr :=
  (as.entries.find? fun entry => entry.1 == c).map Prod.snd

/-- Nothing is set. -/
def isEmpty (as : Assignments) : Bool := as.entries.isEmpty

/-- The number of columns set. -/
def size (as : Assignments) : Nat := as.entries.length

/-- The columns set, in order. -/
def columns (as : Assignments) : List ColumnRef := as.entries.map Prod.fst

/-- Their names, in order. -/
def names (as : Assignments) : List String := as.entries.map fun entry => entry.1.name

/-- Their values, in order. -/
def values (as : Assignments) : List Expr := as.entries.map Prod.snd

/-- Equality of lists of entries. -/
def sameEntries : List (ColumnRef × Expr) → List (ColumnRef × Expr) → Bool
  | [], [] => true
  | (c, e) :: as, (d, f) :: bs => c == d && e == f && sameEntries as bs
  | _, _ => false

/-- Equality: the same columns with the same values in the same order. -/
def same (as bs : Assignments) : Bool := sameEntries as.entries bs.entries

end Assignments

end BoundSql
