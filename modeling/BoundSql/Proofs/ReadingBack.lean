import BoundSql.Numeral.Reading
import BoundSql.Proofs.Markers
import BoundSql.Proofs.Widening
import BoundSql.Typed.Function

/-!
# Reading back what was stored

A column type stores host values and reads them back.  Nothing is lost by this as long as there is
one way to have no value.  But types become nullable again and again: the earlier value of a
nullable column may be missing as a row or as a value.  There is one NULL for all of these, so it is
read as what is missing first.

* `Layered t k u` says that `u` came from `t` by being made nullable `k` times, in whatever way.
* `Layered.readsBack` is for any `t` that reads back what it stores and neither stores nor reads
  NULL (`ColumnType.RoundTrips`).  It is by induction on the layers: a layer adds a value for NULL
  and leaves everything else to the layers below it.
* `Layered.readsStored` is for the types of the library.  They read what they store and narrower
  numbers, and nothing else.

Main statement: `reads_back_at_any_depth`.
-/

namespace BoundSql

open Numeral (Number)

/-! ## Layers of options -/

/-- The host type with as many options around it. -/
def Layers (α : Type) : Nat → Type
  | 0 => α
  | k + 1 => Option (Layers α k)

variable {α : Type} {k : Nat}

/-- A host value that is there, as often as there are options. -/
def somes : (k : Nat) → α → Layers α k
  | 0, a => a
  | k + 1, a => some (somes k a)

/-- The value is there, whatever option is asked. -/
def IsThere (v : Layers α k) : Prop := ∃ a, v = somes k a

/-- The outermost option has nothing in it. -/
def IsNothing : {k : Nat} → Layers α k → Prop
  | 0, _ => False
  | _ + 1, v => v = none

/-- Without options around it a value is there. -/
theorem isThere_zero (a : α) : IsThere (k := 0) a := ⟨a, rfl⟩

/-- What is nothing on top is not there. -/
theorem not_isThere_none : ¬ IsThere (k := k + 1) (none : Option (Layers α k)) := by
  rintro ⟨a, h⟩
  cases h

/-- Behind an option a value is there just if it is there below. -/
theorem isThere_some_iff {v : Layers α k} :
    IsThere (k := k + 1) (some v : Option (Layers α k)) ↔ IsThere v := by
  constructor
  · rintro ⟨a, h⟩
    exact ⟨a, Option.some.inj h⟩
  · rintro ⟨a, rfl⟩
    exact ⟨a, rfl⟩

/-! ## Narrower numbers -/

/-- The one is a narrower number than the other, and the same. -/
inductive Value.Widens : Value → Value → Prop where
  | smallIntInt {m : Int16} {n : Int32} (h : m.toInt = n.toInt) : Widens (.smallInt m) (.int n)
  | smallIntBigInt {m : Int16} {n : Int64} (h : m.toInt = n.toInt) :
    Widens (.smallInt m) (.bigInt n)
  | intBigInt {m : Int32} {n : Int64} (h : m.toInt = n.toInt) : Widens (.int m) (.bigInt n)
  | realDouble {x : Float32} {y : Float} (h : (Number.ofFloat32 x).Same (.ofFloat y)) :
    Widens (.real x) (.double y)

namespace ColumnType

variable {t : ColumnType α}

/-! ## What a type should do -/

/-- The type reads back what it stores, and has nothing to do with NULL. -/
structure RoundTrips (t : ColumnType α) : Prop where
  read_store (a : α) : t.fromStore (t.toStore a) = .ok a
  store_ne_null (a : α) : t.toStore a ≠ .null
  read_null_ne (a : α) : t.fromStore .null ≠ .ok a

/-- What was stored is read back if it was there, and otherwise as nothing.  It is stored as NULL in
the second case only. -/
structure ReadsBack (u : ColumnType (Layers α k)) : Prop where
  there {v : Layers α k} (h : IsThere v) : u.fromStore (u.toStore v) = .ok v
  missing {v : Layers α k} (h : ¬ IsThere v) :
    ∃ w, IsNothing w ∧ u.fromStore (u.toStore v) = .ok w
  null_iff (v : Layers α k) : u.toStore v = .null ↔ ¬ IsThere v

/-- A value is read if it is the stored form of what is read, or a narrower number and the same.
Every other value is one of the wrong kind. -/
def ReadsStored (u : ColumnType α) : Prop :=
  ∀ w, (∃ v, u.fromStore w = .ok v ∧ (w = u.toStore v ∨ w.Widens (u.toStore v))) ∨
    u.fromStore w = mismatch u.sqlType w ∧
      ∀ v, w ≠ u.toStore v ∧ ¬ w.Widens (u.toStore v)

/-! ## Ways to become nullable -/

/-- The type was made from `t` by making it nullable so many times: by itself, as the type of an
earlier or a later row, of a `CASE` without an `ELSE`, or as the usual type of an option. -/
inductive Layered (t : ColumnType α) : (k : Nat) → ColumnType (Layers α k) → Prop where
  | self : Layered t 0 t
  | nullable {k : Nat} {u : ColumnType (Layers α k)} (h : Layered t k u) :
    Layered t (k + 1) u.nullable
  | lag {k : Nat} (e : Typed (Layers α k)) (offset : UInt32) (h : Layered t k e.type) :
    Layered t (k + 1) (e.lag offset).type
  | lead {k : Nat} (e : Typed (Layers α k)) (offset : UInt32) (h : Layered t k e.type) :
    Layered t (k + 1) (e.lead offset).type
  | caseDone {k : Nat} (c : CaseOf (Layers α k)) (h : Layered t k c.type) :
    Layered t (k + 1) c.done.type
  | usual {k : Nat} [s : Storable (Layers α k)] (h : Layered t k s.columnType) :
    Layered t (k + 1) (@Storable.columnType (Option (Layers α k)) _)

namespace Layered

variable {u : ColumnType (Layers α k)}

/-- Whichever way it is, a layer is a layer. -/
theorem induction {motive : ∀ k, ColumnType (Layers α k) → Prop} (self : motive 0 t)
    (nullable : ∀ k (u : ColumnType (Layers α k)), motive k u → motive (k + 1) u.nullable)
    (h : Layered t k u) : motive k u := by
  induction h with
  | self => exact self
  | nullable _ ih | lag _ _ _ ih | lead _ _ _ ih | caseDone _ _ ih | usual _ ih =>
    exact nullable _ _ ih

end Layered

/-! ## One layer more -/

/-- A layer has NULL to itself, and leaves all other values to the type below. -/
theorem fromStore_nullable_of_ne_null (t : ColumnType α) {w : Value} (h : w ≠ .null) :
    t.nullable.fromStore w = (t.fromStore w).map some := by
  cases w with
  | null => exact absurd rfl h
  | _ => rfl

/-- A type that reads back what it stores does so with no options around it. -/
theorem RoundTrips.readsBack (h : t.RoundTrips) : ReadsBack (k := 0) t where
  there _ := h.read_store _
  missing hv := absurd (isThere_zero _) hv
  null_iff a := iff_of_false (h.store_ne_null a) (not_not_intro (isThere_zero a))

/-- **One layer more reads back as well.**  What is missing below is stored as NULL already, so it
comes back as what is missing on top. -/
theorem ReadsBack.nullable {u : ColumnType (Layers α k)} (h : u.ReadsBack) :
    ReadsBack (k := k + 1) u.nullable where
  there {v} hv := by
    rcases v with _ | v
    · exact absurd hv not_isThere_none
    · have hthere := isThere_some_iff.mp hv
      have hne : u.toStore v ≠ .null := fun hnull => (h.null_iff v).mp hnull hthere
      show u.nullable.fromStore (u.toStore v) = .ok (some v)
      rw [u.fromStore_nullable_of_ne_null hne, h.there hthere]
      rfl
  missing {v} hv := by
    have hnull : u.nullable.toStore v = .null := by
      rcases v with _ | v
      · rfl
      · exact (h.null_iff v).mpr (mt isThere_some_iff.mpr hv)
    exact ⟨none, rfl, by rw [hnull]; rfl⟩
  null_iff v := by
    rcases v with _ | v
    · exact iff_of_true rfl not_isThere_none
    · exact (h.null_iff v).trans (not_congr isThere_some_iff.symm)

/-- One layer more reads NULL, and besides what is stored below. -/
theorem ReadsStored.nullable {u : ColumnType α} (h : u.ReadsStored) : u.nullable.ReadsStored := by
  intro w
  by_cases hw : w = .null
  · exact .inl ⟨none, by rw [hw]; rfl, .inl hw⟩
  · have hread := u.fromStore_nullable_of_ne_null hw
    rcases h w with ⟨v, hv, hstored⟩ | ⟨hrefused, hnot⟩
    · exact .inl ⟨some v, by rw [hread, hv]; rfl, hstored⟩
    · refine .inr ⟨by rw [hread, hrefused]; rfl, fun v => ?_⟩
      rcases v with _ | v
      · exact ⟨hw, nofun⟩
      · exact hnot v

/-! ## Any number of layers -/

namespace Layered

variable {u : ColumnType (Layers α k)}

/-- **A layered type reads back what it stores**, if the type below it does. -/
theorem readsBack (ht : t.RoundTrips) (h : Layered t k u) : u.ReadsBack :=
  h.induction (motive := fun _ u => u.ReadsBack) ht.readsBack fun _ _ ih => ih.nullable

/-- **A layered type reads nothing but what is stored**, if the type below it does. -/
theorem readsStored (ht : t.ReadsStored) (h : Layered t k u) : u.ReadsStored :=
  h.induction (motive := fun _ u => u.ReadsStored) ht fun _ _ ih => ih.nullable

/-- NULL is read as nothing as soon as there is a layer. -/
theorem fromStore_null (h : Layered t k u) (hk : 0 < k) :
    ∃ v, IsNothing v ∧ u.fromStore .null = .ok v :=
  h.induction (motive := fun k u => 0 < k → ∃ v, IsNothing v ∧ u.fromStore .null = .ok v)
    (fun hk => absurd hk (lt_irrefl 0)) (fun _ _ _ _ => ⟨none, rfl, rfl⟩) hk

/-- All other values are left to the type at the bottom. -/
theorem fromStore_eq (h : Layered t k u) {w : Value} (hw : w ≠ .null ∨ k = 0) :
    u.fromStore w = (t.fromStore w).map (somes k) := by
  refine h.induction (motive := fun k u => w ≠ .null ∨ k = 0 →
    u.fromStore w = (t.fromStore w).map (somes k)) (fun _ => ?_) (fun k u ih hw => ?_) hw
  · cases t.fromStore w <;> rfl
  · have hne := hw.resolve_right k.succ_ne_zero
    rw [u.fromStore_nullable_of_ne_null hne, ih (.inl hne)]
    cases t.fromStore w <;> rfl

/-- What is stored is there, or it is NULL. -/
theorem toStore_somes (h : Layered t k u) (a : α) : u.toStore (somes k a) = t.toStore a :=
  h.induction (motive := fun k u => u.toStore (somes k a) = t.toStore a) rfl fun _ _ ih => ih

/-- If the type at the bottom reads nothing but what it stores, the same holds on top. -/
theorem stored_of_read (ht : ∀ w a, t.fromStore w = .ok a → w = t.toStore a) (h : Layered t k u)
    {w : Value} {v : Layers α k} (hv : u.fromStore w = .ok v) : w = u.toStore v := by
  refine h.induction (motive := fun k u => ∀ v : Layers α k, u.fromStore w = .ok v →
    w = u.toStore v) (fun v => ht w v) (fun k u ih v hv => ?_) v hv
  by_cases hw : w = .null
  · rw [hw] at hv ⊢
    cases hv
    rfl
  · rw [u.fromStore_nullable_of_ne_null hw] at hv
    cases hread : u.fromStore w with
    | error e =>
      rw [hread] at hv
      cases hv
    | ok v' =>
      rw [hread] at hv
      cases hv
      exact ih v' hread

end Layered

/-! ## The types of the library -/

/-- The types that the library has. -/
inductive BuiltIn : {α : Type} → ColumnType α → Prop where
  | bool : BuiltIn .bool
  | smallInt : BuiltIn .smallInt
  | int : BuiltIn .int
  | bigInt : BuiltIn .bigInt
  | real : BuiltIn .real
  | double : BuiltIn .double
  | text : BuiltIn .text
  | varchar (length : UInt32) : BuiltIn (.varchar length)
  | bytes : BuiltIn .bytes
  | date : BuiltIn .date
  | timestamp : BuiltIn .timestamp
  | timestampTz : BuiltIn .timestampTz
  | uuid : BuiltIn .uuid
  | json : BuiltIn .json

/-- The types of the library read back what they store. -/
theorem BuiltIn.roundTrips (h : t.BuiltIn) : t.RoundTrips := by
  cases h <;> exact ⟨fun _ => rfl, fun _ => nofun, fun _ => nofun⟩

/-- What is read was stored, or it is a narrower number and the same. -/
theorem BuiltIn.stored_of_read (h : t.BuiltIn) {w : Value} {a : α} (ha : t.fromStore w = .ok a) :
    w = t.toStore a ∨ w.Widens (t.toStore a) := by
  cases h with
  | int =>
    cases w with
    | int n => cases ha; exact .inl rfl
    | smallInt n => cases ha; exact .inr (.smallIntInt (Int16.toInt_toInt32 n).symm)
    | _ => cases ha
  | bigInt =>
    cases w with
    | bigInt n => cases ha; exact .inl rfl
    | int n => cases ha; exact .inr (.intBigInt (Int32.toInt_toInt64 n).symm)
    | smallInt n => cases ha; exact .inr (.smallIntBigInt (Int16.toInt_toInt64 n).symm)
    | _ => cases ha
  | double =>
    cases w with
    | double x => cases ha; exact .inl rfl
    | real x => cases ha; exact .inr (.realDouble (Numeral.widen_same x))
    | _ => cases ha
  | _ =>
    cases w <;> cases ha
    exact .inl rfl

/-- What is not read is of the wrong kind, and so neither a stored form nor a narrower number. -/
theorem BuiltIn.refused (h : t.BuiltIn) {w : Value} {e : QueryError}
    (he : t.fromStore w = .error e) :
    t.fromStore w = mismatch t.sqlType w ∧ ∀ a, w ≠ t.toStore a ∧ ¬ w.Widens (t.toStore a) := by
  cases h <;> cases w <;> cases he <;> exact ⟨rfl, fun _ => ⟨nofun, nofun⟩⟩

/-- The types of the library read nothing but what is stored, and narrower numbers. -/
theorem BuiltIn.readsStored (h : t.BuiltIn) : t.ReadsStored := by
  intro w
  cases hread : t.fromStore w with
  | ok a => exact .inl ⟨a, rfl, h.stored_of_read hread⟩
  | error e =>
    rw [← hread]
    exact .inr (h.refused hread)

/-! ## Reading back at any depth -/

/-- **What was stored is read back, however often a type was made nullable.**  A value that is there
comes back as it was; one that is missing in any of the layers is stored as NULL, and comes back as
missing in the outermost one.

A type of the library reads nothing but stored forms and narrower numbers, which stay the same, and
tells every other value to be of the wrong kind.  A type of the caller may read more than it stores.
What it reads and how it fails are the same in all layers, except that NULL is nothing; and if it
reads no more than it stores, neither does a layer. -/
theorem reads_back_at_any_depth :
    (∀ {α : Type} {t : ColumnType α} {k : Nat} {u : ColumnType (Layers α k)},
      t.BuiltIn → Layered t k u →
        u.ReadsBack ∧ (∀ a, u.toStore (somes k a) = t.toStore a) ∧ u.ReadsStored) ∧
    ∀ {α : Type} (sqlType : SqlType) (toStore : α → Value)
      (fromStore : Value → Except QueryError α) {k : Nat} {u : ColumnType (Layers α k)},
      (custom sqlType toStore fromStore).RoundTrips →
      Layered (custom sqlType toStore fromStore) k u →
        u.ReadsBack ∧ (∀ a, u.toStore (somes k a) = toStore a) ∧
        (0 < k → ∃ v, IsNothing v ∧ u.fromStore .null = .ok v) ∧
        (∀ w, w ≠ .null ∨ k = 0 → u.fromStore w = (fromStore w).map (somes k)) ∧
        ((∀ w a, fromStore w = .ok a → w = toStore a) →
          ∀ w v, u.fromStore w = .ok v → w = u.toStore v) := by
  refine ⟨fun ht h => ?_, fun sqlType toStore fromStore _ _ ht h => ?_⟩
  · exact ⟨h.readsBack ht.roundTrips, h.toStore_somes, h.readsStored ht.readsStored⟩
  · exact ⟨h.readsBack ht, h.toStore_somes, h.fromStore_null, fun _ => h.fromStore_eq,
      fun hstored _ _ => h.stored_of_read hstored⟩

/-- The age in the row before, in a column that may have no age. -/
def ageBefore : Typed (Option (Option Int32)) :=
  Typed.lag ⟨.column ⟨"users", "age"⟩, ColumnType.int.nullable⟩ 1

/-- A row before that has no age is read as if there were no row before. -/
example : ageBefore.type.fromStore (ageBefore.type.toStore (some none)) = .ok none := rfl

/-! ## A type of the caller -/

/-- Digits behind a sign are read as their number. -/
theorem intOfString?_of_takeSign {s : String} {negative : Bool} {m : Nat}
    (h : Numeral.takeSign s.toList = (negative, (toString m).toList)) :
    Numeral.intOfString? s = some (if negative then -(m : Int) else m) := by
  have hvalue : Numeral.digitsValue (toString m).toList = m := Prepared.ofDigitChars_toString m
  unfold Numeral.intOfString?
  rw [h]
  dsimp only
  rw [if_pos ⟨Prepared.toString_ne_nil m, Prepared.all_isDigit_toString m⟩, hvalue]

/-- A whole number is read back from its digits. -/
theorem intOfString?_toString (n : Int) : Numeral.intOfString? (toString n) = some n := by
  rcases n with m | m
  · refine @intOfString?_of_takeSign _ false m ?_
    have hdigits := List.all_eq_true.mp (Prepared.all_isDigit_toString m)
    show Numeral.takeSign (toString m).toList = _
    unfold Numeral.takeSign
    split
    · next heq => cases hdigits '-' (heq ▸ List.mem_cons_self)
    · next heq => cases hdigits '+' (heq ▸ List.mem_cons_self)
    · rfl
  · refine @intOfString?_of_takeSign _ true (m + 1) ?_
    rw [Prepared.toList_toString_negSucc, Numeral.takeSign]

/-- Amounts of money, stored as the digits of their cents.  A number is read with or without a
sign. -/
def cents : ColumnType Int64 :=
  .custom (.decimal 12 2) (fun n => .text (toString n.toInt)) fun
    | .text s =>
      match (Numeral.intOfString? s).filter fun n => -2 ^ 63 ≤ n && n < 2 ^ 63 with
      | some n => .ok (Int64.ofInt n)
      | none => .error (.decode "cents" s)
    | v => .error (.decode "cents" v.typeName)

/-- Amounts of money are read back: the range of their digits is that of the numbers stored. -/
theorem cents_roundTrips : cents.RoundTrips where
  read_store n := by
    have hrange : (-2 ^ 63 ≤ n.toInt && n.toInt < 2 ^ 63) = true := by
      rw [Bool.and_eq_true, decide_eq_true_iff, decide_eq_true_iff]
      exact ⟨n.le_toInt, n.toInt_lt⟩
    simp only [cents, custom, intOfString?_toString, Option.filter_some, hrange, if_true,
      Int64.ofInt_toInt]
  store_ne_null _ := nofun
  read_null_ne _ := nofun

/-- A type of the caller may read more than it stores: five cents are read from a text that no
amount is stored as. -/
theorem cents_read_unstored :
    cents.RoundTrips ∧ cents.fromStore (.text "+5") = .ok 5 ∧ ¬ cents.ReadsStored := by
  have hread : cents.fromStore (.text "+5") = .ok 5 := rfl
  refine ⟨cents_roundTrips, hread, fun h => ?_⟩
  rcases h (.text "+5") with ⟨n, hn, hstored | hwidens⟩ | ⟨hrefused, -⟩
  · rw [hread] at hn
    cases hn
    exact absurd (Value.text.inj hstored) (by decide)
  · cases hwidens
  · rw [hread] at hrefused
    cases hrefused

/-- The age in the row before, and amounts that may be missing. -/
theorem reads_back_at_any_depth_ageBefore :
    (@ReadsBack Int32 2 ageBefore.type ∧ ageBefore.type.ReadsStored) ∧
    @ReadsBack Int64 1 cents.nullable ∧
    cents.nullable.fromStore (.text "+5") = .ok (some 5) := by
  obtain ⟨hlibrary, hcaller⟩ := reads_back_at_any_depth
  have hlayers : Layered .int 2 ageBefore.type :=
    @Layered.lag Int32 .int 1 ⟨.column ⟨"users", "age"⟩, ColumnType.int.nullable⟩ 1
      (.nullable .self)
  obtain ⟨hback, -, hstored⟩ := hlibrary .int hlayers
  obtain ⟨hcents, -, -, hread, -⟩ := hcaller (.decimal 12 2) _ _ cents_roundTrips (.nullable .self)
  exact ⟨⟨hback, hstored⟩, hcents, hread (.text "+5") (.inl nofun)⟩

end ColumnType

end BoundSql
