import BoundSql.Batch
import BoundSql.Statement.Delete
import BoundSql.Statement.Update
import BoundSql.Query.Select

/-!
# Calls and the slots they fill

Statements are put together by calls, and each call fills or extends one slot: the projection,
say, or the condition.  Calls have `Slots` if each looks at no slot but its own and leaves the
others alone.

What a row of calls puts into a slot is then what the calls on that slot put there by themselves
(`Slots.only_foldl`), and two rows of calls come to the same if, slot by slot, they have the same
calls in the same order (`Slots.foldl_eq_foldl`).

The calls of the five builders follow, each with its slots.
-/

namespace BoundSql

universe u v

/-! ## Slots -/

/-- Two rows of calls have the same calls on each slot, in the same order.  One is then the other
put into another order, in which calls on one slot have not changed places. -/
def SameBySlot {α : Type u} {κ : Type} [DecidableEq κ] (slot : α → κ) (calls calls' : List α) :
    Prop :=
  ∀ k, (calls.filter fun a => slot a = k) = calls'.filter fun a => slot a = k

/-- The slots that calls fill.  A slot is spoken of through the thing that has the same there and
nothing in its other slots (`only`). -/
structure Slots {α : Type u} {σ : Type} (κ : Type) (call : σ → α → σ) where
  /-- The slot that a call fills. -/
  slot : α → κ
  /-- Nothing but what is in one slot. -/
  only : κ → σ → σ
  /-- There is nothing outside the slots. -/
  ext (s t : σ) : (∀ k, only k s = only k t) → s = t
  /-- A call looks at its own slot only. -/
  only_call_own (s : σ) (a : α) : only (slot a) (call s a) = call (only (slot a) s) a
  /-- A call leaves other slots alone. -/
  only_call_other (s : σ) (a : α) (k : κ) : slot a ≠ k → only k (call s a) = only k s

namespace Slots

variable {α : Type u} {σ κ : Type} [DecidableEq κ] {call : σ → α → σ}

/-- **What is in a slot was put there by the calls on it**, whatever calls there were between
them. -/
theorem only_foldl (S : Slots κ call) (k : κ) (s : σ) (calls : List α) :
    S.only k (calls.foldl call s) =
      (calls.filter fun a => S.slot a = k).foldl call (S.only k s) := by
  induction calls generalizing s with
  | nil => rfl
  | cons a calls ih =>
    rw [List.foldl_cons, ih]
    by_cases ha : S.slot a = k
    · subst ha
      rw [List.filter_cons_of_pos (by simp), S.only_call_own, List.foldl_cons]
    · rw [List.filter_cons_of_neg (by simpa using ha), S.only_call_other s a k ha]

/-- **The order of calls on different slots does not matter.** -/
theorem foldl_eq_foldl (S : Slots κ call) {calls calls' : List α}
    (h : SameBySlot S.slot calls calls') (s : σ) : calls.foldl call s = calls'.foldl call s := by
  apply S.ext
  intro k
  rw [S.only_foldl k s calls, S.only_foldl k s calls', h k]

end Slots

/-- What a builder stores is made by some of its calls, each of which amounts to an act on what is
stored so far; the others leave it alone. -/
theorem stored_foldl {α : Type u} {β : Type v} {σ τ : Type} {call : σ → α → σ} {act : τ → β → τ}
    {stored : σ → τ} {view : α → Option β}
    (h : ∀ s a, stored (call s a) = (view a).elim (stored s) (act (stored s)))
    (s : σ) (calls : List α) :
    stored (calls.foldl call s) = (calls.filterMap view).foldl act (stored s) := by
  induction calls generalizing s with
  | nil => rfl
  | cons a calls ih =>
    rw [List.foldl_cons, ih, h]
    cases hview : view a with
    | none => rw [List.filterMap_cons_none hview, Option.elim_none]
    | some b => rw [List.filterMap_cons_some hview, Option.elim_some, List.foldl_cons]

/-! ## Queries -/

namespace Select

/-- The slots of a query. -/
inductive Slot where
  | projection
  | distinct
  | source
  | joins
  | condition
  | groups
  | having
  | order
  | pagination
  | lock
  deriving DecidableEq

/-- The calls that put a query together. -/
inductive Call where
  | fromTable (t : Table)
  | fromQuery (sub : Select) (name : String)
  | column (e : Expr)
  | columns (es : List Expr)
  | distinctRows
  | join (kind : JoinKind) (t : Table) (on : Predicate)
  | joinQuery (kind : JoinKind) (sub : Select) (name : String) (on : Predicate)
  | crossJoin (t : Table)
  | withWhere (p : Predicate)
  | andWhere (p : Predicate)
  | orWhere (p : Predicate)
  | groupBy (e : Expr)
  | withHaving (p : Predicate)
  | andHaving (p : Predicate)
  | orderBy (o : OrderItem)
  | withLimit (n : UInt64)
  | withOffset (n : UInt64)
  | page (page size : UInt64)
  | lockRows

/-- The slot that a call fills. -/
def Call.slot : Call → Slot
  | column _ | columns _ => .projection
  | distinctRows => .distinct
  | fromTable _ | fromQuery .. => .source
  | join .. | joinQuery .. | crossJoin _ => .joins
  | withWhere _ | andWhere _ | orWhere _ => .condition
  | groupBy _ => .groups
  | withHaving _ | andHaving _ => .having
  | orderBy _ => .order
  | withLimit _ | withOffset _ | page .. => .pagination
  | lockRows => .lock

/-- One call. -/
def call (q : Select) : Call → Select
  | .fromTable t => q.fromTable t
  | .fromQuery sub name => q.fromQuery sub name
  | .column e => q.column e
  | .columns es => q.columns es
  | .distinctRows => q.distinctRows
  | .join kind t on => q.join kind t on
  | .joinQuery kind sub name on => q.joinQuery kind sub name on
  | .crossJoin t => q.crossJoin t
  | .withWhere p => q.withWhere p
  | .andWhere p => q.andWhere p
  | .orWhere p => q.orWhere p
  | .groupBy e => q.groupBy e
  | .withHaving p => q.withHaving p
  | .andHaving p => q.andHaving p
  | .orderBy o => q.orderBy o
  | .withLimit n => q.withLimit n
  | .withOffset n => q.withOffset n
  | .page page size => q.page page size
  | .lockRows => q.lockRows

/-- The query with nothing but what is in one slot. -/
def only : Slot → Select → Select
  | .projection, q => { projection := q.projection }
  | .distinct, q => { distinct := q.distinct }
  | .source, q => { source := q.source }
  | .joins, q => { joins := q.joins }
  | .condition, q => { condition := q.condition }
  | .groups, q => { groups := q.groups }
  | .having, q => { having := q.having }
  | .order, q => { order := q.order }
  | .pagination, q => { limit := q.limit, offset := q.offset }
  | .lock, q => { forUpdate := q.forUpdate }

/-- There is nothing outside the slots of a query. -/
theorem eq_of_only (q r : Select) (h : ∀ k, q.only k = r.only k) : q = r := by
  cases q
  cases r
  rw [Select.mk.injEq]
  exact ⟨congrArg Select.distinct (h .distinct), congrArg Select.projection (h .projection),
    congrArg Select.source (h .source), congrArg Select.joins (h .joins),
    congrArg Select.condition (h .condition), congrArg Select.groups (h .groups),
    congrArg Select.having (h .having), congrArg Select.order (h .order),
    congrArg Select.limit (h .pagination), congrArg Select.offset (h .pagination),
    congrArg Select.forUpdate (h .lock)⟩

/-- Calls one after another. -/
def run (q : Select) (calls : List Call) : Select := calls.foldl call q

/-- Each call fills its slot and nothing else. -/
def slots : Slots Slot call where
  slot := Call.slot
  only := only
  ext := eq_of_only
  only_call_own q a := by cases a <;> rfl
  only_call_other q a k h := by
    cases a <;> cases k <;> first | rfl | exact absurd rfl h

end Select

/-! ## Statements that change rows -/

/-- No column is set. -/
def Assignments.none : Assignments := ⟨[], List.nodup_nil⟩

namespace Insert

/-- The slots of an insertion. -/
inductive Slot where
  | assignments
  | conflict
  | returning
  deriving DecidableEq

/-- The calls that put an insertion together. -/
inductive Call : Type 1 where
  | value {α : Type} (c : Column α) (a : α)
  | valueOption {α : Type} (c : Column α) (a : Option α)
  | valueOf {α : Type} (c : Column α) (e : Typed α)
  | onConflict (target : List ColumnRef) (action : ConflictAction)
  | returnColumn (c : ColumnRef)

/-- The slot that a call fills. -/
def Call.slot : Call → Slot
  | value .. | valueOption .. | valueOf .. => .assignments
  | onConflict .. => .conflict
  | returnColumn _ => .returning

/-- One call. -/
def call (i : Insert) : Call → Insert
  | .value c a => i.value c a
  | .valueOption c a => i.valueOption c a
  | .valueOf c e => i.valueOf c e
  | .onConflict target action => i.onConflict target action
  | .returnColumn c => i.returnColumn c

/-- The insertion with nothing but what is in one slot. -/
def only : Slot → Insert → Insert
  | .assignments, i => { table := i.table, assignments := i.assignments }
  | .conflict, i => { table := i.table, assignments := .none, conflict := i.conflict }
  | .returning, i => { table := i.table, assignments := .none, returning := i.returning }

/-- Calls one after another. -/
def run (i : Insert) (calls : List Call) : Insert := calls.foldl call i

/-- Each call fills its slot and nothing else. -/
def slots : Slots Slot call where
  slot := Call.slot
  only := only
  ext i j h := by
    cases i
    cases j
    rw [Insert.mk.injEq]
    exact ⟨congrArg Insert.table (h .assignments), congrArg Insert.assignments (h .assignments),
      congrArg Insert.conflict (h .conflict), congrArg Insert.returning (h .returning)⟩
  only_call_own i a := by
    rcases a with _ | ⟨c, _ | a⟩ | _ | _ | _ <;> rfl
  only_call_other i a k h := by
    rcases a with _ | ⟨c, _ | a⟩ | _ | _ | _ <;> cases k <;> first | rfl | exact absurd rfl h

end Insert

namespace Update

/-- The slots of an update. -/
inductive Slot where
  | assignments
  | condition
  | returning
  deriving DecidableEq

/-- The calls that put an update together. -/
inductive Call : Type 1 where
  | set {α : Type} (c : Column α) (a : α)
  | setNull {α : Type} (c : Column (Option α))
  | setOf {α : Type} (c : Column α) (e : Typed α)
  | increment {α : Type} (c : Column α) (a : α)
  | decrement {α : Type} (c : Column α) (a : α)
  | withWhere (p : Predicate)
  | andWhere (p : Predicate)
  | orWhere (p : Predicate)
  | returnColumn (c : ColumnRef)

/-- The slot that a call fills. -/
def Call.slot : Call → Slot
  | set .. | setNull _ | setOf .. | increment .. | decrement .. => .assignments
  | withWhere _ | andWhere _ | orWhere _ => .condition
  | returnColumn _ => .returning

/-- One call. -/
def call (u : Update) : Call → Update
  | .set c a => u.set c a
  | .setNull c => u.setNull c
  | .setOf c e => u.setOf c e
  | .increment c a => u.increment c a
  | .decrement c a => u.decrement c a
  | .withWhere p => u.withWhere p
  | .andWhere p => u.andWhere p
  | .orWhere p => u.orWhere p
  | .returnColumn c => u.returnColumn c

/-- The update with nothing but what is in one slot. -/
def only : Slot → Update → Update
  | .assignments, u => { table := u.table, assignments := u.assignments }
  | .condition, u => { table := u.table, assignments := .none, condition := u.condition }
  | .returning, u => { table := u.table, assignments := .none, returning := u.returning }

/-- Calls one after another. -/
def run (u : Update) (calls : List Call) : Update := calls.foldl call u

/-- Each call fills its slot and nothing else. -/
def slots : Slots Slot call where
  slot := Call.slot
  only := only
  ext u v h := by
    cases u
    cases v
    rw [Update.mk.injEq]
    exact ⟨congrArg Update.table (h .assignments), congrArg Update.assignments (h .assignments),
      congrArg Update.condition (h .condition), congrArg Update.returning (h .returning)⟩
  only_call_own u a := by cases a <;> rfl
  only_call_other u a k h := by
    cases a <;> cases k <;> first | rfl | exact absurd rfl h

end Update

namespace Delete

/-- The slots of a deletion. -/
inductive Slot where
  | condition
  | returning
  deriving DecidableEq

/-- The calls that put a deletion together. -/
inductive Call where
  | withWhere (p : Predicate)
  | andWhere (p : Predicate)
  | orWhere (p : Predicate)
  | returnColumn (c : ColumnRef)

/-- The slot that a call fills. -/
def Call.slot : Call → Slot
  | withWhere _ | andWhere _ | orWhere _ => .condition
  | returnColumn _ => .returning

/-- One call. -/
def call (x : Delete) : Call → Delete
  | .withWhere p => x.withWhere p
  | .andWhere p => x.andWhere p
  | .orWhere p => x.orWhere p
  | .returnColumn c => x.returnColumn c

/-- The deletion with nothing but what is in one slot. -/
def only : Slot → Delete → Delete
  | .condition, x => { table := x.table, condition := x.condition }
  | .returning, x => { table := x.table, returning := x.returning }

/-- Calls one after another. -/
def run (x : Delete) (calls : List Call) : Delete := calls.foldl call x

/-- Each call fills its slot and nothing else. -/
def slots : Slots Slot call where
  slot := Call.slot
  only := only
  ext x y h := by
    cases x
    cases y
    rw [Delete.mk.injEq]
    exact ⟨congrArg Delete.table (h .condition), congrArg Delete.condition (h .condition),
      congrArg Delete.returning (h .returning)⟩
  only_call_own x a := by cases a <;> rfl
  only_call_other x a k h := by
    cases a <;> cases k <;> first | rfl | exact absurd rfl h

end Delete

namespace Batch

/-- The slots of a batch. -/
inductive Slot where
  | rows
  | conflict
  | returning
  | strategy
  deriving DecidableEq

/-- The calls that put a batch together. -/
inductive Call where
  | row (r : Assignments)
  | addRows (rs : List Assignments)
  | onConflict (target : List ColumnRef) (action : ConflictAction)
  | returnColumn (c : ColumnRef)
  | withStrategy (s : BatchStrategy)

/-- The slot that a call fills. -/
def Call.slot : Call → Slot
  | row _ | addRows _ => .rows
  | onConflict .. => .conflict
  | returnColumn _ => .returning
  | withStrategy _ => .strategy

/-- One call. -/
def call (b : Batch) : Call → Batch
  | .row r => b.row r
  | .addRows rs => b.addRows rs
  | .onConflict target action => b.onConflict target action
  | .returnColumn c => b.returnColumn c
  | .withStrategy s => b.withStrategy s

/-- The batch with nothing but what is in one slot. -/
def only : Slot → Batch → Batch
  | .rows, b => { table := b.table, rows := b.rows }
  | .conflict, b => { table := b.table, conflict := b.conflict }
  | .returning, b => { table := b.table, returning := b.returning }
  | .strategy, b => { table := b.table, strategy := b.strategy }

/-- Calls one after another. -/
def run (b : Batch) (calls : List Call) : Batch := calls.foldl call b

/-- Each call fills its slot and nothing else. -/
def slots : Slots Slot call where
  slot := Call.slot
  only := only
  ext a b h := by
    cases a
    cases b
    rw [Batch.mk.injEq]
    exact ⟨congrArg Batch.table (h .rows), congrArg Batch.rows (h .rows),
      congrArg Batch.conflict (h .conflict), congrArg Batch.returning (h .returning),
      congrArg Batch.strategy (h .strategy)⟩
  only_call_own b a := by cases a <;> rfl
  only_call_other b a k h := by
    cases a <;> cases k <;> first | rfl | exact absurd rfl h

end Batch

end BoundSql
