import BoundSql.Proofs.MultiRow
import Mathlib.Algebra.GroupWithZero.Nat

/-!
# Cutting greedily is best

With a limit on parameters, rows are taken into a span as long as the limit allows.  Main
statement: `Batch.fewest_statements`.  A statement binds no more values than the limit, unless it
inserts one row only, and no other way to cut the rows that keeps to this needs fewer statements.

The argument is that the greedy cutter stays ahead of any rival (`Batch.ahead`).  Both read the
costs of the rows from front to back.  As long as both have begun equally many spans, the open span
of the greedy one is no larger than the rival's, so whenever the greedy one has to begin a new span
the rival has to as well.  Once the rival has begun one span more, the greedy one may still have to
begin its next span, but then it has caught up, and with a smaller span.
-/

namespace BoundSql.Batch

open BoundSql.Span (Tile)

variable {b : Batch} {d : Dialect} {limit : Nat}

/-! ## What a span may hold -/

/-- Rows with these costs may stand in one span. -/
def Fits (limit : Nat) (costs : List Nat) : Prop := costs.length ≤ 1 ∨ costs.sum ≤ limit

/-- Every span that is cut greedily holds what it may hold.  The invariant is that the open span
does, and that `used` is what its rows cost. -/
theorem fits_cutFrom {all costs : List Nat} {start next used : Nat} (hle : start ≤ next)
    (hcosts : all.drop next = costs) (hused : (Span.slice ⟨start, next⟩ all).sum = used)
    (hopen : Fits limit (Span.slice ⟨start, next⟩ all)) :
    ∀ s ∈ cutFrom limit start next used costs, Fits limit (s.slice all) := by
  induction costs generalizing start next used with
  | nil =>
    rw [cutFrom, List.forall_mem_singleton]
    exact hopen
  | cons cost costs ih =>
    have hrest : all.drop (next + 1) = costs := by
      rw [← List.drop_drop, hcosts]
      rfl
    have hnext : Span.slice ⟨next, next + 1⟩ all = [cost] := by
      rw [Span.slice, hcosts, Nat.add_sub_cancel_left]
      rfl
    rw [cutFrom]
    split
    -- a new span begins, with this row alone in it
    · rw [List.forall_mem_cons]
      refine ⟨hopen, ih (Nat.le_succ next) hrest ?_ ?_⟩
      · rw [hnext, List.sum_singleton]
      · rw [hnext]
        exact .inl (Nat.le_refl 1)
    · next hcut =>
      -- the row joins the open span, as it fits there or is the first in it
      have hgrown : (Span.slice ⟨start, next + 1⟩ all).sum = used + cost := by
        rw [← Span.slice_append hle (Nat.le_succ next), List.sum_append, hused, hnext,
          List.sum_singleton]
      refine ih (Nat.le_succ_of_le hle) hrest hgrown ?_
      by_cases hrow : start < next
      · refine .inr ?_
        rw [hgrown]
        omega
      · have hlength := Span.length_slice_le ⟨start, next + 1⟩ all
        refine .inl (Nat.le_trans hlength ?_)
        show next + 1 - start ≤ 1
        omega

/-! ## Staying ahead -/

/-- A rival is going to put the costs `left` into its open span and cuts the others into `rest`.
What is said is how many spans the greedy cutter needs for the same costs, its open span included.
-/
structure Ahead (limit : Nat) (left : List Nat) (rest : List (List Nat)) : Prop where
  /-- If the rival's open span has `count` rows that cost `total`, and the greedy cutter's has no
  more rows and costs no more, it needs no more spans than the rival. -/
  level : ∀ {start next used count total : Nat}, next ≤ start + count → used ≤ total →
    count + left.length ≤ 1 ∨ total + left.sum ≤ limit →
    (cutFrom limit start next used (left ++ rest.flatten)).length ≤ rest.length + 1
  /-- Whatever its open span is, it needs at most one more. -/
  late : ∀ {start next used : Nat}, Fits limit left →
    (cutFrom limit start next used (left ++ rest.flatten)).length ≤ rest.length + 2

/-- With nothing left to cut, no cutter needs another span. -/
theorem ahead_nil : Ahead limit [] [] where
  level _ _ _ := Nat.le_refl 1
  late _ := Nat.le_succ 1

/-- Where the rival begins a new span, the greedy cutter is one span ahead. -/
theorem Ahead.begin {costs : List Nat} {rest : List (List Nat)} (h : Ahead limit costs rest)
    (hfits : Fits limit costs) : Ahead limit [] (costs :: rest) where
  level _ _ _ := h.late hfits
  late _ := Nat.le_succ_of_le (h.late hfits)

/-- Both read one more cost. -/
theorem Ahead.cons {cost : Nat} {left : List Nat} {rest : List (List Nat)}
    (h : Ahead limit left rest) : Ahead limit (cost :: left) rest := by
  constructor
  · intro start next used count total hrows hused hfits
    rw [List.length_cons, List.sum_cons] at hfits
    rw [List.cons_append, cutFrom]
    -- what does not fit for the greedy cutter does not fit for the rival either
    rw [if_neg (by omega)]
    have hrows' : next + 1 ≤ start + (count + 1) := by omega
    have hused' : used + cost ≤ total + cost := by omega
    exact h.level hrows' hused' (by omega)
  · intro start next used hfits
    rw [Fits, List.length_cons, List.sum_cons] at hfits
    rw [List.cons_append, cutFrom]
    split
    -- with the span that begins here, the greedy cutter is level with the rival again
    · have hrows : next + 1 ≤ next + 1 := Nat.le_refl _
      have hused : cost ≤ cost := Nat.le_refl _
      have hlevel := h.level hrows hused (by omega)
      rw [List.length_cons]
      omega
    · refine h.late ?_
      rw [Fits]
      omega

/-- The greedy cutter stays ahead of every rival whose spans hold what they may. -/
theorem ahead {rest : List (List Nat)} (hrest : ∀ costs ∈ rest, Fits limit costs)
    (left : List Nat) : Ahead limit left rest := by
  -- by the rival's spans, and within each by the costs left for the open one
  induction rest generalizing left with
  | nil =>
    induction left with
    | nil => exact ahead_nil
    | cons cost left ih => exact ih.cons
  | cons costs rest ihrest =>
    rw [List.forall_mem_cons] at hrest
    induction left with
    | nil => exact (ihrest hrest.2 costs).begin hrest.1
    | cons cost left ih => exact ih.cons

/-- No way to cut costs into spans that hold what they may needs fewer spans. -/
theorem length_cutFrom_le {costs : List Nat} {other : List Span} (hcosts : costs ≠ [])
    (htile : Tile 0 other costs.length) (hfits : ∀ s ∈ other, Fits limit (s.slice costs)) :
    (cutFrom limit 0 0 0 costs).length ≤ other.length := by
  have hflat := htile.flatten_slice_length
  cases other with
  | nil =>
    rw [Span.tile_nil] at htile
    exact absurd (List.length_eq_zero_iff.mp htile.symm) hcosts
  | cons s ss =>
    rw [List.forall_mem_cons] at hfits
    have hrest : ∀ part ∈ ss.map fun s => s.slice costs, Fits limit part := by
      intro part hpart
      obtain ⟨t, ht, rfl⟩ := List.mem_map.mp hpart
      exact hfits.2 t ht
    have hrows : 0 ≤ 0 + 0 := Nat.le_refl 0
    have hused : 0 ≤ 0 := Nat.le_refl 0
    have hlevel := (ahead hrest (s.slice costs)).level hrows hused
    rw [List.map_cons, List.flatten_cons] at hflat
    rw [hflat, List.length_map, Nat.zero_add, Nat.zero_add] at hlevel
    exact hlevel hfits.1

/-! ## Statements under a limit -/

/-- Behind whatever is bound already, a tuple binds as many values as it costs. -/
theorem size_params_write (t : Fragment) (params : Array Value) :
    (t.write d params).params.size = params.size + cost t := by
  have h := congrArg List.length (Fragment.params_write d params t)
  rwa [List.length_append, Array.length_toList, Array.length_toList] at h

/-- A statement binds as many values as its rows cost. -/
theorem length_params_chunk (s : Span) :
    (b.chunk d s).params.length = (s.slice (b.costs d)).sum := by
  rw [params_chunk, List.length_flatMap, costs, Span.slice_map]
  rfl

/-- The statement of a span of rows keeps to the limit or inserts one row only, exactly if the
span holds what it may hold. -/
theorem fits_iff {s : Span} (hlt : s.start < s.stop) (hle : s.stop ≤ b.rows.length) :
    Fits limit (s.slice (b.costs d)) ↔
      (b.chunk d s).params.length ≤ limit ∨ s.stop = s.start + 1 := by
  have hlength : (s.slice (b.costs d)).length = s.stop - s.start := by
    apply Span.length_slice
    rwa [length_costs]
  rw [Fits, hlength, length_params_chunk]
  omega

/-- **As few statements as the limit allows.**  With many rows at a time and a limit, every
statement binds no more values than the limit or inserts exactly one row, and no other way to cut
the rows into spans whose statements do so has fewer spans.  The number of values that a row is
counted for is the number that it binds, written by itself as well as behind other rows. -/
theorem fewest_statements (h : b.check d = .ok ()) (limit : Nat) :
    ∃ spans : List (Span × Prepared), b.buildSpans d .multiRow (some limit) = .ok spans ∧
      (∀ s ∈ spans, s.2.params.length ≤ limit ∨ s.1.stop = s.1.start + 1) ∧
      (∀ other : List Span, Tile 0 other b.rows.length →
        (∀ s ∈ other, (b.chunk d s).params.length ≤ limit ∨ s.stop = s.start + 1) →
        spans.length ≤ other.length) ∧
      (∀ s ∈ spans, s.2 = b.chunk d s.1 ∧ s.2.params.length = (s.1.slice (b.costs d)).sum) ∧
      ∀ t ∈ b.tuples d b.columns, (t.write d #[]).params.size = cost t ∧
        ∀ params : Array Value, (t.write d params).params.size = params.size + cost t := by
  have htile := b.tile_spans d .multiRow (some limit)
  refine ⟨_, buildSpans_eq h, ?_, ?_, ?_, ?_⟩
  · intro s hs
    obtain ⟨span, hspan, rfl⟩ := List.mem_map.mp hs
    obtain ⟨-, hlt, hle⟩ := htile.bounds hspan
    refine (fits_iff hlt hle).mp ?_
    rw [spans] at hspan
    split at hspan
    · cases hspan
    · exact fits_cutFrom (Nat.le_refl 0) rfl rfl (.inl (Nat.zero_le 1)) span hspan
  · intro other hother hlimit
    rw [List.length_map, spans]
    split
    · exact Nat.zero_le _
    · next hrows =>
      rw [← length_costs (d := d)] at hother
      refine length_cutFrom_le (costs_ne_nil hrows) hother fun s hs => ?_
      obtain ⟨-, hlt, hle⟩ := hother.bounds hs
      rw [length_costs] at hle
      exact (fits_iff hlt hle).mpr (hlimit s hs)
  · intro s hs
    obtain ⟨span, -, rfl⟩ := List.mem_map.mp hs
    exact ⟨rfl, length_params_chunk span⟩
  · intro t _
    exact ⟨by rw [size_params_write, Array.size_empty, Nat.zero_add], size_params_write t⟩

/-- The three uneven rows, at most two values in a statement, and a rival who cuts behind every
row. -/
theorem fewest_statements_unevenRows :
    unevenRows.check .postgres = .ok () ∧ ∃ spans : List (Span × Prepared),
      unevenRows.buildSpans .postgres .multiRow (some 2) = .ok spans ∧
      spans.map Prod.fst = [⟨0, 1⟩, ⟨1, 3⟩] ∧
      (∀ s ∈ spans, s.2.params.length ≤ 2 ∨ s.1.stop = s.1.start + 1) ∧
      spans.length ≤ [(⟨0, 1⟩ : Span), ⟨1, 2⟩, ⟨2, 3⟩].length := by
  have hcheck : unevenRows.check .postgres = .ok () := rfl
  obtain ⟨spans, hbuild, hlimit, hbest, -, -⟩ := fewest_statements hcheck 2
  have hrival : Tile 0 [⟨0, 1⟩, ⟨1, 2⟩, ⟨2, 3⟩] unevenRows.rows.length := by
    refine ⟨rfl, by decide, rfl, by decide, rfl, by decide, rfl⟩
  refine ⟨hcheck, spans, hbuild, ?_, hlimit, hbest _ hrival ?_⟩
  · have hcut : unevenRows.spans .postgres .multiRow (some 2) = [⟨0, 1⟩, ⟨1, 3⟩] := rfl
    rw [buildSpans_eq hcheck, hcut] at hbuild
    cases hbuild
    rfl
  · simp

end BoundSql.Batch
