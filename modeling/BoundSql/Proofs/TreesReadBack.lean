import BoundSql.Prepared.Json
import BoundSql.Proofs.Documents
import BoundSql.Proofs.ScalarText

/-!
# Trees are read back

Statements, tables and indexes have trees, and each is read back from its own tree.  There is one
exception: JSON has no numeral for an infinity or for not-a-number, so a statement that binds one is
not read back, neither as itself nor as any other statement.

Main statement: `trees_read_back`.

Whatever has members is read as a record (`Json.members?_object`), and lists are read item by item
(`Json.listOf?_map`).  What is left for each kind of thing is to read its parts.
-/

namespace BoundSql

open Calendar (Date DateTime Instant)
open Numeral (Number)

namespace Json

/-! ## Records and lists -/

/-- In a record of different keys there is one member under each. -/
theorem filter_key_eq_singleton {members : List (String × Json)}
    (hnodup : (members.map Prod.fst).Nodup) {m : String × Json} (hm : m ∈ members) :
    members.filter (fun n => n.1 == m.1) = [m] := by
  induction members with
  | nil => cases hm
  | cons n members ih =>
    rw [List.map_cons, List.nodup_cons] at hnodup
    obtain ⟨hnew, hnodup⟩ := hnodup
    rcases List.mem_cons.mp hm with rfl | hm
    · have hnone : members.filter (fun n => n.1 == m.1) = [] := by
        rw [List.filter_eq_nil_iff]
        intro n hn heq
        exact hnew (List.mem_map.mpr ⟨n, hn, beq_iff_eq.mp heq⟩)
      rw [List.filter_cons, if_pos (beq_self_eq_true m.1), hnone]
    · have hne : ¬(n.1 == m.1) = true := by
        intro heq
        exact hnew (List.mem_map.mpr ⟨m, hm, (beq_iff_eq.mp heq).symm⟩)
      rw [List.filter_cons, if_neg hne, ih hnodup hm]

/-- A list of items that are read one by one is read as a whole. -/
theorem mapM_map_eq_some {α β γ : Type} {f : α → γ} {g : γ → Option β} {k : α → β} {xs : List α}
    (h : ∀ x ∈ xs, g (f x) = some (k x)) : (xs.map f).mapM g = some (xs.map k) := by
  induction xs with
  | nil => rfl
  | cons x xs ih =>
    rw [List.forall_mem_cons] at h
    rw [List.map_cons, List.mapM_cons, h.1, ih h.2]
    rfl

/-- A record with different keys is taken apart into its members. -/
theorem members?_object {members : List (String × Json)} (h : (members.map Prod.fst).Nodup) :
    (Json.object members).members? (members.map Prod.fst) =
      some (members.map fun m => some m.2) := by
  refine mapM_map_eq_some fun m hm => ?_
  rw [filter_key_eq_singleton h hm]

/-- A list is read back if each item that passes is read back and no other item is read. -/
theorem listOf?_map {α : Type} {f : α → Json} {item? : Json → Option α} {passes : α → Bool}
    {xs : List α} (h : ∀ x ∈ xs, item? (f x) = if passes x then some x else none) :
    (Json.array (xs.map f)).listOf? item? = if xs.all passes then some xs else none := by
  have hlist : (Json.array (xs.map f)).listOf? item? = (xs.map f).mapM item? := rfl
  rw [hlist]
  induction xs with
  | nil => rfl
  | cons x xs ih =>
    rw [List.forall_mem_cons] at h
    rw [List.map_cons, List.mapM_cons, h.1, ih h.2 rfl, List.all_cons]
    cases passes x <;> cases xs.all passes <;> rfl

/-- A list whose items are all read back is read back. -/
theorem listOf?_map_of_forall {α : Type} {f : α → Json} {item? : Json → Option α} {xs : List α}
    (h : ∀ x ∈ xs, item? (f x) = some x) :
    (Json.array (xs.map f)).listOf? item? = some xs := by
  have hall : xs.all (fun _ => true) = true := List.all_eq_true.mpr fun _ _ => rfl
  rw [@listOf?_map α f item? (fun _ => true) xs h, if_pos hall]

/-- A list of texts is read back. -/
theorem listOf?_strings (texts : List String) :
    (Json.array (texts.map .string)).listOf? Json.string? = some texts :=
  listOf?_map_of_forall fun _ _ => rfl

/-- A number within its bounds is read as it is. -/
theorem intBetween?_number {least greatest n : Int} (hl : least ≤ n) (hg : n ≤ greatest) :
    (Json.number (.int n)).intBetween? least greatest = some n := if_pos ⟨hl, hg⟩

/-- A number of 32 bits is read back. -/
theorem uint32?_number (n : UInt32) : (Json.number (.int n.toNat)).uint32? = some n := by
  have hlt : n.toNat < UInt32.size := n.toNat_lt
  rw [uint32?, intBetween?_number (by omega) (by omega)]
  simp

/-- A byte is read back. -/
theorem byte?_ofInt (b : UInt8) : (Json.ofInt b.toNat).byte? = some b := by
  have hlt := b.toNat_lt
  rw [byte?, ofInt, intBetween?_number (by omega) (by omega)]
  simp

end Json

/-! ## Values -/

namespace Value

/-- If the value is a JSON value, it is a document. -/
def HoldsDocument : Value → Prop
  | json document => document.IsDocument
  | _ => True

/-- The value is no infinity and not not-a-number. -/
def isFinite : Value → Bool
  | real x => (Number.ofFloat32 x).isFinite
  | double x => (Number.ofFloat x).isFinite
  | _ => true

/-- The members of a tree of a value are its word and its contents. -/
theorem ofJson?_members (word : String) (c : Json) :
    ofJson? (.object [("type", .string word), ("value", c)]) = ofContents? word c := by
  have hmembers : (Json.object [("type", .string word), ("value", c)]).members? ["type", "value"] =
      some [some (.string word), some c] := Json.members?_object (by simp)
  rw [ofJson?, hmembers]
  rfl

/-- The contents of a value are read back unless there is no numeral for them. -/
theorem ofContents?_contents {v : Value} {c : Json} (h : v.HoldsDocument)
    (hc : v.contents? = some c) : ofContents? v.word c = if v.isFinite then some v else none := by
  -- only a number without a numeral is lost: it is written as `null`, and no number is read from
  -- that
  cases v with
  | null => cases hc
  | bool b =>
    obtain rfl := Option.some.inj hc
    rfl
  | smallInt n =>
    obtain rfl := Option.some.inj hc
    rw [word, ofContents?, Json.ofInt, Json.intBetween?_number n.minValue_le_toInt n.toInt_le,
      Option.map_some, Int16.ofInt_toInt]
    rfl
  | int n =>
    obtain rfl := Option.some.inj hc
    rw [word, ofContents?, Json.ofInt, Json.intBetween?_number n.minValue_le_toInt n.toInt_le,
      Option.map_some, Int32.ofInt_toInt]
    rfl
  | bigInt n =>
    obtain rfl := Option.some.inj hc
    rw [word, ofContents?, Json.ofInt, Json.intBetween?_number n.minValue_le_toInt n.toInt_le,
      Option.map_some, Int64.ofInt_toInt]
    rfl
  | real x =>
    obtain rfl := Option.some.inj hc
    rw [word, ofContents?, Json.ofFloat32, isFinite]
    split <;> rfl
  | double x =>
    obtain rfl := Option.some.inj hc
    rw [word, ofContents?, Json.ofFloat, isFinite]
    split <;> rfl
  | text s =>
    obtain rfl := Option.some.inj hc
    rw [word, ofContents?]
    rfl
  | bytes bs =>
    obtain rfl := Option.some.inj hc
    rw [word, ofContents?, Json.listOf?_map_of_forall fun b _ => Json.byte?_ofInt b]
    rfl
  | date d =>
    obtain rfl := Option.some.inj hc
    rw [word, ofContents?, Json.string?, Option.bind_some, Date.ofString?_toString]
    rfl
  | timestamp t =>
    obtain rfl := Option.some.inj hc
    rw [word, ofContents?, Json.string?, Option.bind_some, DateTime.ofString?_toString]
    rfl
  | timestampTz t =>
    obtain rfl := Option.some.inj hc
    rw [word, ofContents?, Json.string?, Option.bind_some, Instant.ofString?_toString]
    rfl
  | uuid u =>
    obtain rfl := Option.some.inj hc
    rw [word, ofContents?, Json.string?, Option.bind_some, Uuid.ofString?_toString]
    rfl
  | json document =>
    obtain rfl := Option.some.inj hc
    rw [word, ofContents?, Json.document?_eq_self h]
    rfl

/-- A value is read back unless there is no numeral for it. -/
theorem ofJson?_toJson {v : Value} (h : v.HoldsDocument) :
    ofJson? v.toJson = if v.isFinite then some v else none := by
  cases hc : v.contents? with
  | some c =>
    have htree : v.toJson = .object [("type", .string v.word), ("value", c)] := by
      rw [toJson, hc]
      rfl
    rw [htree, ofJson?_members, ofContents?_contents h hc]
  | none =>
    cases v with
    | null => rfl
    | _ => cases hc

end Value

/-! ## Statements -/

/-- **A statement is read back**, unless it binds a number that has no tree. -/
theorem Prepared.ofJson?_toJson {p : Prepared} (h : ∀ v ∈ p.params, v.HoldsDocument) :
    Prepared.ofJson? p.toJson = if p.params.all Value.isFinite then some p else none := by
  have hmembers : p.toJson.members? ["sql", "params"] =
      some [some (.string p.sql), some (.array (p.params.map Value.toJson))] :=
    Json.members?_object (by simp)
  have hparams := Json.listOf?_map fun v hv => Value.ofJson?_toJson (h v hv)
  rw [Prepared.ofJson?, hmembers]
  simp only [Option.bind_eq_bind, Option.bind_some, Json.string?, hparams]
  split <;> rfl

/-! ## Definitions -/

/-- The type of a column is read back. -/
theorem SqlType.ofJson?_toJson (t : SqlType) : SqlType.ofJson? t.toJson = some t := by
  cases t with
  | decimal precision scale =>
    have hmembers : (Json.object [("precision", .number (.int precision.toNat)),
        ("scale", .number (.int scale.toNat))]).members? ["precision", "scale"] =
        some [some (.number (.int precision.toNat)), some (.number (.int scale.toNat))] :=
      Json.members?_object (by simp)
    rw [toJson, ofJson?, hmembers]
    show (Option.bind (Json.uint32? _) fun precision =>
      Option.bind (Json.uint32? _) fun scale => some (decimal precision scale)) = _
    rw [Json.uint32?_number, Json.uint32?_number]
    rfl
  | varchar length =>
    rw [toJson, ofJson?, Json.uint32?_number]
    rfl
  | _ => rfl

/-- The definition of a column is read back. -/
theorem ColumnDef.ofJson?_toJson (c : ColumnDef) : ColumnDef.ofJson? c.toJson = some c := by
  obtain ⟨name, sqlType, nullable, primaryKey, autoIncrement, unique, default⟩ := c
  have hmembers : (toJson ⟨name, sqlType, nullable, primaryKey, autoIncrement, unique,
      default⟩).members?
        ["name", "sql_type", "nullable", "primary_key", "auto_increment", "unique", "default"] =
      some [some (.string name), some sqlType.toJson, some (.bool nullable),
        some (.bool primaryKey), some (.bool autoIncrement), some (.bool unique),
        some (default.elim .null .string)] := Json.members?_object (by simp)
  simp only [ofJson?, hmembers, Option.bind_eq_bind, Option.bind_some, Json.string?,
    SqlType.ofJson?_toJson, Json.bool?]
  cases default <;> rfl

/-- **The definition of a table is read back.** -/
theorem TableDef.ofJson?_toJson (t : TableDef) : TableDef.ofJson? t.toJson = some t := by
  have hmembers : t.toJson.members? ["name", "columns", "primary_key"] =
      some [some (.string t.name), some (.array (t.columns.map ColumnDef.toJson)),
        some (.array (t.primaryKey.map .string))] := Json.members?_object (by simp)
  have hcolumns : (Json.array (t.columns.map ColumnDef.toJson)).listOf? ColumnDef.ofJson? =
      some t.columns := Json.listOf?_map_of_forall fun c _ => c.ofJson?_toJson
  simp only [ofJson?, hmembers, Option.bind_eq_bind, Option.bind_some, Json.string?, hcolumns,
    Json.listOf?_strings]
  rfl

/-- **The definition of an index is read back.** -/
theorem IndexDef.ofJson?_toJson (i : IndexDef) : IndexDef.ofJson? i.toJson = some i := by
  have hmembers : i.toJson.members? ["name", "table", "columns", "unique"] =
      some [some (.string i.name), some (.string i.table),
        some (.array (i.columns.map .string)), some (.bool i.unique)] :=
    Json.members?_object (by simp)
  simp only [ofJson?, hmembers, Option.bind_eq_bind, Option.bind_some, Json.string?,
    Json.listOf?_strings, Json.bool?]
  rfl

/-- **Trees are read back.**  A statement whose JSON values are documents is read back from its
tree if it binds no infinity and no not-a-number, and else its tree is not that of a statement.  A
table and an index are always read back. -/
theorem trees_read_back :
    (∀ p : Prepared, (∀ v ∈ p.params, v.HoldsDocument) →
      Prepared.ofJson? p.toJson = if p.params.all Value.isFinite then some p else none) ∧
    (∀ t : TableDef, TableDef.ofJson? t.toJson = some t) ∧
    ∀ i : IndexDef, IndexDef.ofJson? i.toJson = some i :=
  ⟨fun _ h => Prepared.ofJson?_toJson h, TableDef.ofJson?_toJson, IndexDef.ofJson?_toJson⟩

/-- A statement that binds NULL, the document `null`, and a document with objects in it. -/
def nestedStatement : Prepared where
  sql := "SELECT $1, $2, $3"
  params := [.null, .json .null,
    .json (.object [("a", .array [.null, .object [("x", .bool true), ("y", .null)]]),
      ("b", .number (.int 1))])]

/-- The nested statement binds documents only, and is read back. -/
theorem trees_read_back_nestedStatement :
    (∀ v ∈ nestedStatement.params, v.HoldsDocument) ∧
      Prepared.ofJson? nestedStatement.toJson = some nestedStatement := by
  have hinner : (Json.object [("x", .bool true), ("y", .null)]).IsDocument :=
    ⟨by decide, trivial, trivial, trivial⟩
  have houter : (Json.object [("a", .array [.null, .object [("x", .bool true), ("y", .null)]]),
      ("b", .number (.int 1))]).IsDocument :=
    ⟨by decide, ⟨trivial, hinner, trivial⟩, trivial, trivial⟩
  have hdocuments : ∀ v ∈ nestedStatement.params, v.HoldsDocument := by
    rw [nestedStatement, List.forall_mem_cons, List.forall_mem_cons, List.forall_mem_cons]
    exact ⟨trivial, trivial, houter, List.forall_mem_nil _⟩
  exact ⟨hdocuments, trees_read_back.1 nestedStatement hdocuments⟩

end BoundSql
