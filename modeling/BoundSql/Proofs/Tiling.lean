import BoundSql.Batch
import Mathlib.Data.List.Basic

/-!
# Spans that tile the rows

The spans of a batch are cut one behind another: each begins where the one before it ends, none is
empty, and together they reach from the first row to the last (`Span.Tile`).  So reading a list
span by span is reading it from front to back (`Tile.flatten_slice`): nothing is left out, nothing
is read twice and nothing changes its place.

However a batch is cut, its spans tile its rows (`Batch.tile_cut`).  Where rows are cut greedily
the invariant is that the open span begins at or before the next row.
-/

namespace BoundSql

namespace Span

variable {α β : Type}

/-- The spans stand one behind another from `start` to `stop`, and none of them is empty. -/
def Tile : (start : Nat) → List Span → (stop : Nat) → Prop
  | start, [], stop => start = stop
  | start, s :: ss, stop => s.start = start ∧ s.start < s.stop ∧ Tile s.stop ss stop

variable {start stop : Nat} {s : Span} {ss : List Span}

/-- No spans tile no rows. -/
@[simp] theorem tile_nil : Tile start [] stop ↔ start = stop := Iff.rfl

/-- A tiling ends no further to the front than it starts. -/
theorem Tile.le (h : Tile start ss stop) : start ≤ stop := by
  induction ss generalizing start with
  | nil => exact Nat.le_of_eq h
  | cons s ss ih =>
    obtain ⟨hstart, hlt, hrest⟩ := h
    have hle := ih hrest
    omega

/-- A span of a tiling is not empty and lies within its ends. -/
theorem Tile.bounds (h : Tile start ss stop) (hs : s ∈ ss) :
    start ≤ s.start ∧ s.start < s.stop ∧ s.stop ≤ stop := by
  induction ss generalizing start with
  | nil => cases hs
  | cons t ss ih =>
    obtain ⟨hstart, hlt, hrest⟩ := h
    rcases List.mem_cons.mp hs with rfl | hs
    · exact ⟨by omega, hlt, hrest.le⟩
    · obtain ⟨hle, hmem⟩ := ih hrest hs
      exact ⟨by omega, hmem⟩

/-! ## What stands in a span -/

/-- The entries of a list whose places are in the span. -/
def slice (s : Span) (xs : List α) : List α := (xs.drop s.start).take (s.stop - s.start)

/-- A span of a mapped list has the mapped entries. -/
theorem slice_map (f : α → β) (s : Span) (xs : List α) :
    s.slice (xs.map f) = (s.slice xs).map f := by
  rw [slice, slice, List.map_take, List.map_drop]

/-- Within a list, a span has as many entries as it is long. -/
theorem length_slice {xs : List α} (h : s.stop ≤ xs.length) :
    (s.slice xs).length = s.stop - s.start := by
  rw [slice, List.length_take, List.length_drop]
  omega

/-- Across the end of a list it has no more than that. -/
theorem length_slice_le (s : Span) (xs : List α) : (s.slice xs).length ≤ s.stop - s.start :=
  List.length_take_le _ _

/-- What stands in two spans one behind the other stands in the span that they make up. -/
theorem slice_append {a b c : Nat} (hab : a ≤ b) (hbc : b ≤ c) (xs : List α) :
    slice ⟨a, b⟩ xs ++ slice ⟨b, c⟩ xs = slice ⟨a, c⟩ xs := by
  have hlength : c - a = (b - a) + (c - b) := by omega
  have hdrop : a + (b - a) = b := by omega
  simp only [slice]
  rw [hlength, List.take_add, List.drop_drop, hdrop]

/-- Span by span, a list is read from front to back. -/
theorem Tile.flatten_slice (h : Tile start ss stop) (xs : List α) :
    (ss.map fun s => s.slice xs).flatten = slice ⟨start, stop⟩ xs := by
  induction ss generalizing start with
  | nil =>
    rw [tile_nil] at h
    simp [slice, h]
  | cons s ss ih =>
    obtain ⟨rfl, hlt, hrest⟩ := h
    rw [List.map_cons, List.flatten_cons, ih hrest]
    exact slice_append (Nat.le_of_lt hlt) hrest.le xs

/-- Spans that tile a whole list give it back. -/
theorem Tile.flatten_slice_length {xs : List α} (h : Tile 0 ss xs.length) :
    (ss.map fun s => s.slice xs).flatten = xs := by
  rw [h.flatten_slice, slice, List.drop_zero, Nat.sub_zero, List.take_length]

/-- Row by row, a list is read entry by entry. -/
theorem map_slice_range (xs : List α) :
    (List.range xs.length).map (fun i => slice ⟨i, i + 1⟩ xs) = xs.map fun x => [x] := by
  apply List.ext_getElem
  · rw [List.length_map, List.length_map, List.length_range]
  · intro i hi hi'
    have hlt : i < xs.length := by simpa using hi'
    simp only [List.getElem_map, List.getElem_range, slice, Nat.add_sub_cancel_left]
    rw [List.drop_eq_getElem_cons hlt]
    rfl

end Span

namespace Batch

open BoundSql.Span (Tile)

/-! ## However rows are cut -/

/-- Spans of one row each stand one behind another. -/
theorem tile_single (start count : Nat) :
    Tile start ((List.range' start count).map fun i => ⟨i, i + 1⟩) (start + count) := by
  induction count generalizing start with
  | zero => rfl
  | succ count ih =>
    rw [List.range'_succ, List.map_cons, Nat.add_comm count, ← Nat.add_assoc]
    exact ⟨rfl, Nat.lt_succ_self start, ih (start + 1)⟩

/-- Cut greedily, the spans reach from the beginning of the open one to the last row, provided that
there is a row in it or one to come. -/
theorem tile_cutFrom {limit start next used : Nat} {costs : List Nat} (hle : start ≤ next)
    (hrow : start < next ∨ costs ≠ []) :
    Tile start (cutFrom limit start next used costs) (next + costs.length) := by
  induction costs generalizing start next used with
  | nil =>
    have hlt : start < next := hrow.resolve_right fun h => h rfl
    exact ⟨rfl, hlt, rfl⟩
  | cons cost costs ih =>
    have hlength : next + (cost :: costs).length = next + 1 + costs.length := by
      rw [List.length_cons]
      omega
    rw [hlength, cutFrom]
    split
    · next hcut => exact ⟨rfl, hcut.1, ih (Nat.le_succ next) (.inl (Nat.lt_succ_self next))⟩
    · exact ih (by omega) (.inl (by omega))

/-- However rows are cut, the spans tile them. -/
theorem tile_cut (strategy : BatchStrategy) (limit : Option Nat) {costs : List Nat}
    (h : costs ≠ []) : Tile 0 (cut strategy limit costs) costs.length := by
  have hpos : 0 < costs.length := List.length_pos_iff.mpr h
  cases strategy with
  | perRow =>
    have hsingle := tile_single 0 costs.length
    rw [Nat.zero_add, ← List.range_eq_range'] at hsingle
    exact hsingle
  | multiRow =>
    cases limit with
    | none => exact ⟨rfl, hpos, rfl⟩
    | some limit =>
      have hgreedy : Tile 0 (cutFrom limit 0 0 0 costs) (0 + costs.length) :=
        tile_cutFrom (Nat.le_refl 0) (.inr h)
      rw [Nat.zero_add] at hgreedy
      exact hgreedy

end Batch

end BoundSql
