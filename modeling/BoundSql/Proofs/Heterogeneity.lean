import BoundSql.Proofs.MultiRow
import BoundSql.Proofs.RowByRow

/-!
# Rows that set other columns

All rows of a batch have to set the columns of the first one, in whatever order.  The check compares
lengths and looks the columns of the first row up in the other one; that this decides whether the
two sets are equal is due to no row setting a column twice (`Batch.sameColumns_iff`).

Main statement: `Batch.heterogeneity_exact`.  The first row that departs from the first one is
reported, by its number and with the names of both, and nothing else that is wrong with the batch
comes before it.  Among rows that agree the order of the columns does not show: whatever is looked
up is found in any order (`Assignments.get?_perm`), so the tuples are the same and with them the
spans and the statements.
-/

namespace BoundSql

/-! ## The same columns -/

/-- The two rows set the same columns. -/
def Assignments.SetsSame (as bs : Assignments) : Prop := ∀ c, c ∈ as.columns ↔ c ∈ bs.columns

/-- The entries of one row in another order are found as before. -/
theorem Assignments.get?_perm {as bs : Assignments} (h : as.entries.Perm bs.entries)
    (c : ColumnRef) : as.get? c = bs.get? c := by
  apply Option.ext
  intro e
  rw [get?_eq_some_iff, get?_eq_some_iff]
  exact h.mem_iff

/-- A row with its entries in another order sets the same columns. -/
theorem Assignments.setsSame_of_perm {as bs : Assignments} (h : as.entries.Perm bs.entries) :
    as.SetsSame bs := by
  intro c
  rw [mem_columns_iff, mem_columns_iff]
  simp only [get?_perm h]

/-- Rows that set the columns of a third row set the same ones. -/
theorem Assignments.SetsSame.trans {as bs cs : Assignments} (h : as.SetsSame bs)
    (h' : bs.SetsSame cs) : as.SetsSame cs := fun c => (h c).trans (h' c)

namespace Batch

/-- Row number `i` is the first one that does not set the columns of the first row. -/
structure Departs (b : Batch) (first : Assignments) (i : Nat) (row : Assignments) : Prop where
  row_eq : b.rows[i]? = some row
  differs : ¬row.SetsSame first
  least (j : Nat) (before : Assignments) : j < i → b.rows[j]? = some before → before.SetsSame first

variable {b : Batch} {d : Dialect} {first : Assignments} {rest rest' : List Assignments}
  {e : QueryError}

/-! ## What is reported -/

/-- Rows compared one after another: the error is that of the first row which differs. -/
theorem checkColumns_eq_error_iff {rows : List Assignments} {start : Nat} :
    checkColumns first start rows = .error e ↔
      ∃ k row, rows[k]? = some row ∧ ¬row.SetsSame first ∧
        (∀ j before, j < k → rows[j]? = some before → before.SetsSame first) ∧
        e = .heterogeneousBatch (start + k) first.names row.names := by
  -- `start` is the place of the first of `rows`, and moves on with every row that agrees
  induction rows generalizing start with
  | nil => simp [checkColumns]
  | cons row rows ih =>
    rw [checkColumns]
    by_cases hsame : sameColumns first row = true
    · have hrow : row.SetsSame first := sameColumns_iff.mp hsame
      rw [if_pos hsame, ih]
      constructor
      · rintro ⟨k, other, hother, hdiffers, hleast, rfl⟩
        refine ⟨k + 1, other, hother, hdiffers, ?_, by rw [Nat.add_right_comm, Nat.add_assoc]⟩
        intro j before hj hbefore
        cases j with
        | zero =>
          cases hbefore
          exact hrow
        | succ j => exact hleast j before (Nat.lt_of_succ_lt_succ hj) hbefore
      · rintro ⟨k, other, hother, hdiffers, hleast, rfl⟩
        cases k with
        | zero =>
          cases hother
          exact absurd hrow hdiffers
        | succ k =>
          refine ⟨k, other, hother, hdiffers, ?_, by rw [Nat.add_right_comm, Nat.add_assoc]⟩
          intro j before hj hbefore
          exact hleast (j + 1) before (Nat.succ_lt_succ hj) hbefore
    · have hrow : ¬row.SetsSame first := mt sameColumns_iff.mpr hsame
      rw [if_neg hsame]
      constructor
      · intro h
        cases h
        exact ⟨0, row, rfl, hrow, fun j _ hj => absurd hj (Nat.not_lt_zero j), rfl⟩
      · rintro ⟨k, other, hother, -, hleast, rfl⟩
        cases k with
        | zero =>
          cases hother
          rfl
        | succ k => exact absurd (hleast 0 row (Nat.succ_pos k) rfl) hrow

/-- The error does not say that rows differ. -/
def SparesColumns (x : Except QueryError Unit) : Prop :=
  ∀ i expected found, x ≠ .error (.heterogeneousBatch i expected found)

section

variable {x y : Except QueryError Unit}

/-- A success says nothing of the rows. -/
theorem sparesColumns_ok : SparesColumns (.ok ()) := fun _ _ _ h => nomatch h

/-- Checks in a row spare the columns if each of them does. -/
theorem SparesColumns.andThen (hx : SparesColumns x) (hy : SparesColumns y) :
    SparesColumns (x >>= fun _ => y) := by
  cases x with
  | error e => exact hx
  | ok _ => exact hy

/-- A check by cases spares the columns if both cases do. -/
theorem SparesColumns.ite {condition : Prop} [Decidable condition] (hx : SparesColumns x)
    (hy : SparesColumns y) : SparesColumns (if condition then x else y) := by
  by_cases h : condition
  · rwa [if_pos h]
  · rwa [if_neg h]

/-- A feature that the dialect lacks has nothing to do with the columns. -/
theorem sparesColumns_unsupported (feature : Feature) (dialect : String) :
    SparesColumns (.error (.unsupported feature dialect)) := fun _ _ _ h => nomatch h

/-- A fault of the statement is not that its rows differ. -/
theorem sparesColumns_invalid (fault : Fault) :
    SparesColumns (.error (.invalidStatement fault)) := fun _ _ _ h => nomatch h

/-- A check of queries spares the columns. -/
theorem sparesColumns_checkAll (d : Dialect) (qs : List Select) :
    SparesColumns (checkAll d qs) := by
  induction qs with
  | nil => exact sparesColumns_ok
  | cons q qs ih =>
    have hself : SparesColumns (q.checkSelf d) :=
      (sparesColumns_invalid _).ite ((sparesColumns_unsupported _ _).ite sparesColumns_ok)
    exact hself.andThen ih

/-- A check of the values of rows spares the columns. -/
theorem sparesColumns_checkRows (d : Dialect) (rows : List Assignments) :
    SparesColumns (checkRows d rows) := by
  induction rows with
  | nil => exact sparesColumns_ok
  | cons row rows ih => exact (sparesColumns_checkAll d _).andThen ih

/-- A check of an upsert clause spares the columns. -/
theorem sparesColumns_conflict (d : Dialect) (names : List String) (conflict : Option Conflict) :
    SparesColumns (Conflict.checkOption d names conflict) := by
  cases conflict with
  | none => exact sparesColumns_ok
  | some c =>
    apply (sparesColumns_unsupported _ _).ite
    cases c.upsertAction names with
    | keep => exact sparesColumns_ok
    | overwrite columns =>
      exact (sparesColumns_invalid _).ite ((sparesColumns_invalid _).ite sparesColumns_ok)

/-- A check of what comes back spares the columns. -/
theorem sparesColumns_returning (d : Dialect) (columns : List ColumnRef) :
    SparesColumns (Returning.check d columns) :=
  (sparesColumns_unsupported _ _).ite sparesColumns_ok

end

/-- The columns are compared before anything else is checked. -/
theorem check_eq_heterogeneous_iff (hrows : b.rows = first :: rest) (hfirst : first.isEmpty = false)
    {i : Nat} {expected found : List String} :
    b.check d = .error (.heterogeneousBatch i expected found) ↔
      checkColumns first 1 rest = .error (.heterogeneousBatch i expected found) := by
  have hothers : SparesColumns (checkRows d b.rows >>= fun _ =>
      Conflict.checkOption d first.names b.conflict >>= fun _ => Returning.check d b.returning) :=
    (sparesColumns_checkRows d _).andThen
      ((sparesColumns_conflict d _ _).andThen (sparesColumns_returning d _))
  rw [check_of_rows hrows, hfirst]
  show (checkColumns first 1 rest >>= fun _ => _) = _ ↔ _
  cases hcolumns : checkColumns first 1 rest with
  | error e => exact Iff.rfl
  | ok _ => exact iff_of_false (hothers i expected found) nofun

/-- A row behind the first one differs exactly if it does so in the batch. -/
theorem departs_succ_iff (hrows : b.rows = first :: rest) {k : Nat} {row : Assignments} :
    b.Departs first (k + 1) row ↔ rest[k]? = some row ∧ ¬row.SetsSame first ∧
      ∀ j before, j < k → rest[j]? = some before → before.SetsSame first := by
  constructor
  · rintro ⟨hrow, hdiffers, hleast⟩
    rw [hrows] at hrow hleast
    exact ⟨hrow, hdiffers, fun j before hj => hleast (j + 1) before (Nat.succ_lt_succ hj)⟩
  · rintro ⟨hrow, hdiffers, hleast⟩
    refine ⟨by rw [hrows]; exact hrow, hdiffers, fun j before hj hbefore => ?_⟩
    rw [hrows] at hbefore
    cases j with
    | zero =>
      cases hbefore
      exact fun _ => Iff.rfl
    | succ j => exact hleast j before (Nat.lt_of_succ_lt_succ hj) hbefore

/-- The first row does not differ from itself. -/
theorem not_departs_zero (hrows : b.rows = first :: rest) {row : Assignments} :
    ¬b.Departs first 0 row := by
  rintro ⟨hrow, hdiffers, -⟩
  rw [hrows] at hrow
  cases hrow
  exact hdiffers fun _ => Iff.rfl

/-- **What is reported is the first row that departs**, with the columns of the first row and its
own. -/
theorem reported_iff_departs (hrows : b.rows = first :: rest) (hfirst : first.isEmpty = false)
    {i : Nat} {expected found : List String} :
    b.check d = .error (.heterogeneousBatch i expected found) ↔
      ∃ row, b.Departs first i row ∧ expected = first.names ∧ found = row.names := by
  rw [check_eq_heterogeneous_iff hrows hfirst, checkColumns_eq_error_iff]
  constructor
  · rintro ⟨k, row, hrow, hdiffers, hleast, heq⟩
    rw [Nat.add_comm] at heq
    cases heq
    exact ⟨row, (departs_succ_iff hrows).mpr ⟨hrow, hdiffers, hleast⟩, rfl, rfl⟩
  · rintro ⟨row, hdeparts, rfl, rfl⟩
    cases i with
    | zero => exact absurd hdeparts (not_departs_zero hrows)
    | succ k =>
      obtain ⟨hrow, hdiffers, hleast⟩ := (departs_succ_iff hrows).mp hdeparts
      exact ⟨k, row, hrow, hdiffers, hleast, by rw [Nat.add_comm]⟩

/-- If some row differs, one is reported. -/
theorem exists_reported_iff (hrows : b.rows = first :: rest) (hfirst : first.isEmpty = false) :
    (∃ i expected found, b.check d = .error (.heterogeneousBatch i expected found)) ↔
      ∃ row ∈ b.rows, ¬row.SetsSame first := by
  constructor
  · rintro ⟨i, expected, found, herror⟩
    obtain ⟨row, hdeparts, -, -⟩ := (reported_iff_departs hrows hfirst).mp herror
    exact ⟨row, List.mem_of_getElem? hdeparts.row_eq, hdeparts.differs⟩
  · rintro ⟨row, hmem, hdiffers⟩
    cases hcolumns : checkColumns first 1 rest with
    | error e =>
      obtain ⟨k, other, -, -, -, rfl⟩ := checkColumns_eq_error_iff.mp hcolumns
      exact ⟨_, _, _, (check_eq_heterogeneous_iff hrows hfirst).mpr hcolumns⟩
    | ok _ =>
      -- then no row differs, neither the first one nor one behind it
      have hall := checkColumns_eq_ok_iff.mp hcolumns
      rw [hrows] at hmem
      rcases List.mem_cons.mp hmem with rfl | hrest
      · exact absurd (fun _ => Iff.rfl) hdiffers
      · exact absurd (sameColumns_iff.mp (hall row hrest)) hdiffers

/-! ## Rows in another order -/

/-- The batch with its rows behind the first one replaced. -/
def withRest (b : Batch) (first : Assignments) (rest : List Assignments) : Batch :=
  { b with rows := first :: rest }

/-- Rows whose entries are in another order, one by one. -/
abbrev Reordered (rest rest' : List Assignments) : Prop :=
  List.Forall₂ (fun row row' => row.entries.Perm row'.entries) rest rest'

/-- What is the same for a row and for the row in another order is the same all along. -/
theorem Reordered.map_eq {α : Type} {g : Assignments → α} (h : Reordered rest rest')
    (hg : ∀ row row' : Assignments, row.entries.Perm row'.entries → g row = g row') :
    rest.map g = rest'.map g := by
  induction h with
  | nil => rfl
  | cons hrow _ ih => rw [List.map_cons, List.map_cons, hg _ _ hrow, ih]

/-- What holds of all rows holds of them in another order. -/
theorem Reordered.forall {Q : Assignments → Prop} (h : Reordered rest rest')
    (hQ : ∀ row row' : Assignments, row.entries.Perm row'.entries → Q row → Q row')
    (hall : ∀ row ∈ rest, Q row) : ∀ row ∈ rest', Q row := by
  induction h with
  | nil => exact fun _ hmem => nomatch hmem
  | cons hrow _ ih =>
    rw [List.forall_mem_cons] at hall ⊢
    exact ⟨hQ _ _ hrow hall.1, ih hall.2⟩

/-- The values of a row in the order of the first one do not depend on its own order. -/
theorem valuesIn_perm {columns : List ColumnRef} {row row' : Assignments}
    (h : row.entries.Perm row'.entries) : valuesIn columns row = valuesIn columns row' := by
  rw [valuesIn, valuesIn]
  exact List.filterMap_congr fun c _ => Assignments.get?_perm h c

/-- A batch passes its check with its rows in another order. -/
theorem check_withRest (hrows : b.rows = first :: rest) (hreordered : Reordered rest rest')
    (hcheck : b.check d = .ok ()) : (b.withRest first rest').check d = .ok () := by
  obtain ⟨hempty, hsame, hvalues, hconflict, hreturning⟩ := (check_eq_ok_iff hrows).mp hcheck
  rw [hrows, List.forall_mem_cons] at hvalues
  rw [check_eq_ok_iff (b := b.withRest first rest') rfl]
  refine ⟨hempty, ?_, List.forall_mem_cons.mpr ⟨hvalues.1, ?_⟩, hconflict, hreturning⟩
  · apply hreordered.forall _ hsame
    intro row row' hperm hrow
    rw [sameColumns_iff] at hrow ⊢
    exact (Assignments.setsSame_of_perm hperm.symm).trans hrow
  · apply hreordered.forall _ hvalues.2
    intro row row' hperm hrow
    exact (Assignments.check_congr (Assignments.get?_perm hperm)).mp hrow

/-- The tuples are the same, for they are put in the order of the first row. -/
theorem tuples_withRest (hrows : b.rows = first :: rest) (hreordered : Reordered rest rest')
    (columns : List ColumnRef) :
    (b.withRest first rest').tuples d columns = b.tuples d columns := by
  have hrest := hreordered.map_eq (g := fun row => tuple d (valuesIn columns row))
    fun _ _ hperm => by rw [valuesIn_perm hperm]
  rw [tuples, tuples, hrows, withRest, List.map_cons, List.map_cons, hrest]

/-- Rows in another order become the same spans and the same statements. -/
theorem buildSpans_withRest (hrows : b.rows = first :: rest) (hreordered : Reordered rest rest')
    (hcheck : b.check d = .ok ()) (strategy : BatchStrategy) (limit : Option Nat) :
    (b.withRest first rest').buildSpans d strategy limit = b.buildSpans d strategy limit := by
  rw [buildSpans_of_check_eq_ok hrows hcheck,
    buildSpans_of_check_eq_ok (b := b.withRest first rest') rfl
      (check_withRest hrows hreordered hcheck), tuples_withRest hrows hreordered]
  rfl

/-! ## The whole -/

/-- **Rows that set other columns are found, and nothing else is taken for them.**  The check says
that rows differ exactly if some row does not set the columns of the first one.  The row reported is
the first of these, with the names of the first row and its own, whatever else is wrong with the
batch.  If nothing is wrong, the other rows may have their columns in any order: the batch still
passes and becomes the same spans and statements. -/
theorem heterogeneity_exact (hrows : b.rows = first :: rest) (hfirst : first.isEmpty = false)
    (d : Dialect) :
    ((∃ i expected found, b.check d = .error (.heterogeneousBatch i expected found)) ↔
      ∃ row ∈ b.rows, ¬∀ c, c ∈ row.columns ↔ c ∈ first.columns) ∧
    (∀ i expected found, b.check d = .error (.heterogeneousBatch i expected found) ↔
      ∃ row, b.Departs first i row ∧ expected = first.names ∧ found = row.names) ∧
    (b.check d = .ok () → ∀ rest', Reordered rest rest' →
      (b.withRest first rest').check d = .ok () ∧ ∀ strategy limit,
        (b.withRest first rest').buildSpans d strategy limit =
          b.buildSpans d strategy limit) := by
  refine ⟨exists_reported_iff hrows hfirst,
    fun i expected found => reported_iff_departs hrows hfirst, ?_⟩
  intro hcheck rest' hreordered
  exact ⟨check_withRest hrows hreordered hcheck, buildSpans_withRest hrows hreordered hcheck⟩

/-- Four rows: the second one is in another order, the third and the fourth set other columns.  A
column is to be given back, which not every dialect does. -/
def raggedRows : Batch where
  table := { name := "t" }
  rows := [⟨[(⟨"t", "id"⟩, .literal (.int 11)), (⟨"t", "n"⟩, .now)], by decide⟩,
    ⟨[(⟨"t", "n"⟩, .literal .null), (⟨"t", "id"⟩, .literal (.int 12))], by decide⟩,
    ⟨[(⟨"t", "m"⟩, .now), (⟨"t", "id"⟩, .literal (.int 13))], by decide⟩,
    ⟨[(⟨"t", "id"⟩, .literal (.int 14))], by decide⟩]
  returning := [⟨"t", "id"⟩]

/-- Two rows in the same order. -/
def straightRows : Batch where
  table := { name := "t" }
  rows := [⟨[(⟨"t", "id"⟩, .literal (.int 15)), (⟨"t", "n"⟩, .now)], by decide⟩,
    ⟨[(⟨"t", "id"⟩, .literal (.int 16)), (⟨"t", "n"⟩, .literal .null)], by decide⟩]

/-- The rows of `straightRows`, the second one turned round. -/
def crossedRows : Batch :=
  straightRows.withRest ⟨[(⟨"t", "id"⟩, .literal (.int 15)), (⟨"t", "n"⟩, .now)], by decide⟩
    [⟨[(⟨"t", "n"⟩, .literal .null), (⟨"t", "id"⟩, .literal (.int 16))], by decide⟩]

/-- The third row of the four is reported, although the column cannot be given back either.  A
batch that is in order becomes the same statements with its second row turned round. -/
theorem heterogeneity_exact_raggedRows :
    raggedRows.check .mysql = .error (.heterogeneousBatch 2 ["id", "n"] ["m", "id"]) ∧
      straightRows.check .postgres = .ok () ∧ crossedRows.check .postgres = .ok () ∧
      crossedRows.buildSpans .postgres .multiRow (some 3) =
        straightRows.buildSpans .postgres .multiRow (some 3) := by
  have hcheck : straightRows.check .postgres = .ok () := rfl
  obtain ⟨-, hreported, -⟩ := heterogeneity_exact (b := raggedRows) rfl rfl .mysql
  obtain ⟨-, -, hturned⟩ := heterogeneity_exact (b := straightRows) rfl rfl .postgres
  obtain ⟨hcrossed, hspans⟩ := hturned hcheck crossedRows.rows.tail
    (.cons (List.Perm.swap _ _ []) .nil)
  refine ⟨(hreported _ _ _).mpr ⟨_, ⟨rfl, ?_, ?_⟩, rfl, rfl⟩, hcheck, hcrossed, hspans _ _⟩
  · intro hsame
    exact absurd ((hsame ⟨"t", "m"⟩).mp (by decide)) (by decide)
  · intro j before hj hbefore
    apply sameColumns_iff.mp
    match j, hj with
    | 0, _ =>
      cases hbefore
      decide
    | 1, _ =>
      cases hbefore
      decide

end Batch

end BoundSql
