import BoundSql.Proofs.Decoding
import BoundSql.Proofs.QuotedNames
import Mathlib.Data.Set.List
import Mathlib.Tactic.Lift

/-!
# The text of a schema change tells the definition

A table is written as names, types and attributes with nothing but blanks, commas and parentheses
between them, and a name may have any of these in it.  Even so, two definitions with one text are
one definition.

An engine cuts the text into names and characters outside them first (`Quoting.tokens`), so nothing
in a name is taken for a separator.  Of what is outside, each part can be read off by what may
follow it (`Decodes`).

* An attribute is behind a blank, and no two of them begin with one letter
  (`Attributes.cons`).
* The name of a type may begin as another one does, but it never goes on as an argument list or an
  attribute (`SqlType.no_clash`).
* A column begins with a name and the key does not, so the last item of a table is known for what it
  is.

Main statement: `schema_text_determines`.
-/

namespace BoundSql

open Fragment (Quoted)
open Quoting (NameToken)

/-! ## The tokens of a phrase -/

/-- The tokens of a text without names. -/
def outside (text : String) : List NameToken := text.toList.map .outside

/-- Two texts have the tokens of the one and then of the other. -/
theorem outside_append (s t : String) : outside (s ++ t) = outside s ++ outside t := by
  rw [outside, String.toList_append, List.map_append]
  rfl

/-- The tokens that a word is meant to have. -/
def Word.tokens : Word → List NameToken
  | .verbatim text => outside text
  | .name identifier => [.name identifier]

namespace Phrase

/-- The tokens that a phrase is meant to have. -/
def tokens (p : Phrase) : List NameToken := p.flatMap Word.tokens

/-- An empty phrase has no tokens. -/
@[simp] theorem tokens_nil : tokens [] = [] := rfl

/-- A text at the front is read character by character. -/
@[simp] theorem tokens_verbatim (text : String) (p : Phrase) :
    tokens (.verbatim text :: p) = outside text ++ tokens p := rfl

/-- A name at the front is one token. -/
@[simp] theorem tokens_name (identifier : String) (p : Phrase) :
    tokens (.name identifier :: p) = .name identifier :: tokens p := rfl

/-- What is left out under a condition has no tokens. -/
@[simp] theorem tokens_when (condition : Bool) (p : Phrase) :
    tokens (.when condition p) = if condition then tokens p else [] := by
  cases condition <;> rfl

/-- Two phrases have the tokens of the one and then of the other. -/
theorem tokens_append (p q : Phrase) : tokens (p ++ q) = tokens p ++ tokens q :=
  List.flatMap_append

/-- So it is with any number of phrases. -/
@[simp] theorem tokens_concat (ps : List Phrase) : tokens (.concat ps) = ps.flatMap tokens := by
  induction ps with
  | nil => rfl
  | cons p ps ih =>
    rw [concat, List.flatten_cons, tokens_append, List.flatMap_cons, ← ih]
    rfl

/-- A list is the tokens of its entries with commas between them. -/
@[simp] theorem tokens_comma (ps : List Phrase) :
    tokens (.comma ps) = List.intercalate (outside ", ") (ps.map tokens) := by
  induction ps with
  | nil => rfl
  | cons p ps ih =>
    cases ps with
    | nil => simp [comma]
    | cons q ps =>
      rw [comma] at ih ⊢
      rw [List.intercalate_cons_cons, tokens_append, tokens_append, ih, tokens_verbatim,
        tokens_nil, List.append_nil]
      simp only [List.map_cons, List.intercalate_cons_cons]

/-- A list of names is one token for each name, with commas between them. -/
@[simp] theorem tokens_names (ns : List String) :
    tokens (.names ns) = List.intercalate (outside ", ") (ns.map fun n => [NameToken.name n]) := by
  rw [names, tokens_comma, List.map_map]
  rfl

end Phrase

/-- A phrase has the same tokens as the fragment it makes. -/
theorem Fragment.tokens_ofPhrase (d : Dialect) (n : Nat) (p : Phrase) :
    Fragment.tokens d n (.ofPhrase p) = p.tokens := by
  induction p with
  | nil => rfl
  | cons w p ih =>
    cases w with
    | verbatim text => exact congrArg (outside text ++ ·) ih
    | name identifier => exact congrArg (NameToken.name identifier :: ·) ih

/-- From the text of a quoted phrase its tokens are known. -/
theorem DialectKind.tokens_eq_of_write_eq (k : DialectKind) {p q : Phrase}
    (hp : Quoted k.mark (.ofPhrase p)) (hq : Quoted k.mark (.ofPhrase q))
    (h : k.dialect.write p = k.dialect.write q) : p.tokens = q.tokens := by
  have hread {p : Phrase} (hp : Quoted k.mark (.ofPhrase p)) :
      k.tokens (k.dialect.write p) = p.tokens := by
    rw [← Fragment.textFrom_ofPhrase k.dialect 0, ← Fragment.tokens_ofPhrase k.dialect 0]
    exact hp.tokens_textFrom k.marks 0
  rw [← hread hp, ← hread hq, h]

/-! ## What may follow -/

/-- The list goes on, or ends. -/
def endsItem (ts : List NameToken) : Bool :=
  ts.head? = some (.outside ',') || ts.head? = some (.outside ')')

/-- The parenthesis that closes a list ends its last item. -/
theorem endsItem_of_closing {ts : List NameToken} (h : ts.head? = some (.outside ')')) :
    endsItem ts := by
  rw [endsItem, h]
  rfl

/-- Either so, or an attribute with one of these initials follows. -/
def opens (initials : List Char) (ts : List NameToken) : Bool :=
  endsItem ts || initials.any fun c => [NameToken.outside ' ', .outside c].isPrefixOf ts

/-- Without any initials, an item has to end. -/
theorem opens_nil (ts : List NameToken) : opens [] ts = endsItem ts := Bool.or_false _

/-- More initials allow more. -/
theorem opens_mono {initials initials' : List Char} (h : initials ⊆ initials')
    {ts : List NameToken} (hopens : opens initials ts) : opens initials' ts := by
  rw [opens, Bool.or_eq_true, List.any_eq_true] at hopens ⊢
  exact hopens.imp_right fun ⟨c, hc, hprefix⟩ => ⟨c, h hc, hprefix⟩

/-- An attribute follows, and no others begin like it. -/
theorem opens_attribute {initials : List Char} {text : String} {initial : Char} {rest : List Char}
    (htext : text.toList = ' ' :: initial :: rest) (r : List NameToken) :
    opens initials (outside text ++ r) ↔ initial ∈ initials := by
  simp [opens, endsItem, outside, htext]

/-! ## Names, numbers and lists -/

/-- A name is one token. -/
theorem decodes_name (follows : List NameToken → Prop) :
    Decodes (fun name : String => [NameToken.name name]) follows := by
  intro m n r s _ _ heq
  rw [List.singleton_append, List.singleton_append, List.cons.injEq, NameToken.name.injEq] at heq
  exact heq

/-- Names up to the parenthesis that closes their list. -/
theorem decodes_closedNames (follows : List NameToken → Prop) :
    Decodes (fun names : List String => (Phrase.names names).tokens ++ outside ")") follows := by
  have hlist : Decodes
      (fun names : List String =>
        List.intercalate (outside ", ") (names.map fun name => [NameToken.name name]))
      fun r => r.head? = some (.outside ')') := by
    refine (decodes_name fun _ => True).separated (fun _ => trivial) (fun _ _ => trivial) ?_ ?_
    · intro r hr
      cases hr
    · intro name r hr
      cases hr
  simp only [Phrase.tokens_names]
  exact hlist.concat (outside ")") fun _ _ => rfl

/-! ## Attributes -/

/-- Attributes with these initials, one behind another, can be read off in front of what ends an
item. -/
structure Attributes {γ : Type} (initials : List Char) (write : γ → List NameToken) : Prop where
  decodes : Decodes write fun ts => endsItem ts
  opens (z : γ) (r : List NameToken) : endsItem r → opens initials (write z ++ r)

/-- No attributes are the end of an item. -/
theorem attributes_none : Attributes [] fun _ : Unit => [] where
  decodes _ _ _ _ _ _ heq := ⟨rfl, heq⟩
  opens _ r hr := (opens_nil r).trans hr

/-- One more attribute may stand in front of the others if it has an initial of its own. -/
theorem Attributes.cons {γ : Type} {initials : List Char} {write : γ → List NameToken}
    (h : Attributes initials write) (text : String) {initial : Char} {rest : List Char}
    (htext : text.toList = ' ' :: initial :: rest) (hnew : initial ∉ initials) :
    Attributes (initial :: initials) fun p : Bool × γ =>
      (if p.1 then outside text else []) ++ write p.2 := by
  have hflag : Decodes (fun present : Bool => if present then outside text else [])
      fun ts => BoundSql.opens initials ts :=
    decodes_flag fun r hr => hnew ((opens_attribute htext r).mp hr)
  refine ⟨hflag.append h.decodes fun z r hr => h.opens z r hr, ?_⟩
  rintro ⟨present, z⟩ r hr
  cases present with
  | true =>
    rw [if_pos rfl, List.append_assoc, opens_attribute htext]
    exact List.mem_cons_self
  | false => exact opens_mono (List.subset_cons_self _ _) (h.opens z r hr)

/-! ## Names of types -/

/-- What may follow the name of a type: an argument list, an attribute, or what ends an item. -/
def followsType (ts : List NameToken) : Bool :=
  ts.head? = some (.outside '(') || opens ['N', 'G', 'A', 'P', 'U'] ts

/-- One of the names goes on as the other, and with what may follow it. -/
def clashes (shorter longer : List NameToken) : Bool :=
  shorter.isPrefixOf longer &&
    (decide (longer.length < shorter.length + 2) || followsType (longer.drop shorter.length))

/-- Two tokens tell what follows. -/
theorem clashes_append (ts : List NameToken) {m s : List NameToken} (h : followsType (m ++ s)) :
    clashes ts (ts ++ m) := by
  have hprefix : ts.isPrefixOf (ts ++ m) := by
    rw [List.isPrefixOf_iff_prefix]
    exact List.prefix_append ts m
  rw [clashes, hprefix, List.drop_left, Bool.true_and, Bool.or_eq_true, decide_eq_true_iff,
    List.length_append]
  rcases m with _ | ⟨a, _ | ⟨b, m⟩⟩
  · exact .inl (by rw [List.length_nil]; omega)
  · exact .inl (by rw [List.length_singleton]; omega)
  · exact .inr h

namespace SqlType

/-- The types, with nothing said of their sizes. -/
def bareTypes : List SqlType :=
  [.boolean, .smallInt, .integer, .bigInt, .real, .double, .decimal 0 0, .varchar 0, .text, .bytes,
    .date, .timestamp, .timestampTz, .uuid, .json]

/-- The type, with nothing said of its size. -/
def bare : SqlType → SqlType
  | .decimal .. => .decimal 0 0
  | .varchar _ => .varchar 0
  | t => t

/-- What is said of the size of a type. -/
def sizes : SqlType → List UInt32
  | .decimal precision scale => [precision, scale]
  | .varchar length => [length]
  | _ => []

/-- A type with something said of its size. -/
def sized : SqlType → List UInt32 → SqlType
  | .decimal .., [precision, scale] => .decimal precision scale
  | .varchar _, [length] => .varchar length
  | t, _ => t

/-- Every type is one of the bare types once its sizes are taken away. -/
theorem bare_mem_bareTypes (t : SqlType) : t.bare ∈ bareTypes := by
  cases t <;> simp [bare, bareTypes]

/-- A type is made up again from its bare type and its sizes. -/
theorem sized_bare (t : SqlType) : t.bare.sized t.sizes = t := by
  cases t <;> rfl

/-- The name of a type without its size. -/
def baseName (k : DialectKind) : SqlType → String
  | .decimal .. => if k = .postgres then "NUMERIC" else "DECIMAL"
  | .varchar _ => "VARCHAR"
  | t => k.dialect.typeName t

/-- Apart from SQLite, where one name stands for several types, a dialect tells types apart: no
name goes on as another one with what may follow a name. -/
theorem no_clash {k : DialectKind} (hk : k ≠ .sqlite) :
    ∀ t ∈ bareTypes, ∀ u ∈ bareTypes,
      clashes (outside (t.baseName k)) (outside (u.baseName k)) → t = u := by
  cases k with
  | generic => decide
  | postgres => decide
  | sqlite => exact absurd rfl hk
  | mysql => decide

/-- Sizes in parentheses, or nothing. -/
def sizeTokens (sizes : List UInt32) : List NameToken :=
  if sizes.isEmpty then []
  else outside "(" ++
    (List.intercalate (outside ", ") (sizes.map fun n => outside (toString n.toNat)) ++ outside ")")

/-- The name of a type is the name of its bare type, with the sizes in parentheses behind it. -/
theorem outside_typeName {k : DialectKind} (hk : k ≠ .sqlite) (t : SqlType) :
    outside (k.dialect.typeName t) = outside (t.bare.baseName k) ++ sizeTokens t.sizes := by
  have hscaled (type : String) (precision scale : UInt32) :
      outside (Standard.scaled type precision scale) =
        outside type ++ sizeTokens [precision, scale] := by
    simp [Standard.scaled, sizeTokens, outside_append]
  have hsized (type : String) (length : UInt32) :
      outside (Standard.sized type length) = outside type ++ sizeTokens [length] := by
    simp [Standard.sized, sizeTokens, outside_append]
  cases t with
  | decimal precision scale =>
    cases k with
    | sqlite => exact absurd rfl hk
    | _ => exact hscaled _ precision scale
  | varchar length =>
    cases k with
    | sqlite => exact absurd rfl hk
    | _ => exact hsized _ length
  | _ => exact (List.append_nil _).symm

/-- A size can be read off up to the comma or the parenthesis behind it. -/
theorem decodes_size :
    Decodes (fun n : UInt32 => outside (toString n.toNat)) fun ts => endsItem ts := by
  refine (decodes_number (fun _ _ => NameToken.outside.inj) fun c r hc hr => ?_).comap
    fun _ _ => UInt32.toNat_inj.mp
  have hmark : c = ',' ∨ c = ')' := by simpa [endsItem] using hr
  rcases hmark with rfl | rfl <;> exact absurd hc (by decide)

/-- Sizes can be read off up to the parenthesis that closes their list. -/
theorem decodes_sizeList :
    Decodes
      (fun sizes : List UInt32 =>
        List.intercalate (outside ", ") (sizes.map fun n => outside (toString n.toNat)))
      fun r => r.head? = some (.outside ')') := by
  refine decodes_size.separated (fun _ => rfl) (fun r hr => endsItem_of_closing hr)
    (fun r hr => by cases hr) fun n r hr => ?_
  have hdigits := List.all_eq_true.mp (Prepared.all_isDigit_toString n.toNat)
  obtain ⟨c, cs, hcs⟩ := List.exists_cons_of_ne_nil (Prepared.toString_ne_nil n.toNat)
  rw [outside, hcs] at hr
  obtain rfl := NameToken.outside.inj (Option.some.inj hr)
  exact absurd (hdigits ')' (hcs ▸ List.mem_cons_self)) (by decide)

/-- Sizes can be read off, also if there are none. -/
theorem decodes_sizeTokens :
    Decodes sizeTokens fun ts => opens ['N', 'G', 'A', 'P', 'U'] ts := by
  have hclosed := (decodes_sizeList.concat (outside ")") fun _ (_ : True) => rfl).prepend
    (outside "(")
  refine decodes_of_cons rfl (fun n sizes r => ?_) fun _ _ _ _ _ _ _ _ heq =>
    hclosed trivial trivial heq
  simp [sizeTokens, opens, endsItem, outside]

/-- **The name of a type can be read off**, except in SQLite. -/
theorem decodes_typeName {k : DialectKind} (hk : k ≠ .sqlite) :
    Decodes (fun t : SqlType => outside (k.dialect.typeName t))
      fun ts => opens ['N', 'G', 'A', 'P', 'U'] ts := by
  have hbase : Decodes (fun t : {t // t ∈ bareTypes} => outside (t.val.baseName k))
      fun ts => followsType ts := by
    refine decodes_of_prefix fun t u m s heq hs => ?_
    have hclash := clashes_append (outside (t.val.baseName k)) hs
    rw [← heq] at hclash
    exact Subtype.ext (no_clash hk t t.property u u.property hclash)
  have hjoin (sizes : List UInt32) (r : List NameToken)
      (hr : opens ['N', 'G', 'A', 'P', 'U'] r) : followsType (sizeTokens sizes ++ r) := by
    cases sizes with
    | nil =>
      rw [followsType, Bool.or_eq_true]
      exact .inr hr
    | cons n sizes => rfl
  have hparts : Function.Injective fun t : SqlType =>
      ((⟨t.bare, t.bare_mem_bareTypes⟩, t.sizes) : {t // t ∈ bareTypes} × List UInt32) := by
    intro t u h
    obtain ⟨hbare, hsizes⟩ := Prod.mk.inj h
    rw [← t.sized_bare, ← u.sized_bare, Subtype.mk.inj hbare, hsizes]
  have hwhole := (hbase.append decodes_sizeTokens hjoin).comap hparts
  simpa only [outside_typeName hk] using hwhole

end SqlType

/-! ## Columns and tables -/

/-- A column without a default. -/
abbrev PlainColumn := {c : ColumnDef // c.default = none}

namespace PlainColumn

/-- Everything that is said of the column. -/
def parts (c : PlainColumn) : String × SqlType × Bool × Bool × Bool × Bool × Unit :=
  (c.val.name, c.val.sqlType, !c.val.nullable, c.val.autoIncrement, c.val.primaryKey,
    c.val.unique, ())

/-- Without a default, a column is no more than its parts. -/
theorem parts_injective : Function.Injective parts := by
  rintro ⟨⟨_, _, _, _, _, _, default⟩, hc⟩ ⟨⟨_, _, _, _, _, _, default'⟩, hc'⟩ h
  obtain rfl : default = none := hc
  obtain rfl : default' = none := hc'
  simpa [parts, and_left_comm] using h

end PlainColumn

/-- The tokens of a column are its name and its type, and its attributes behind them. -/
theorem DialectKind.tokens_columnDefinition {k : DialectKind} (hk : k ≠ .sqlite)
    (c : PlainColumn) :
    (k.dialect.columnDefinition c.val).tokens =
      .name c.val.name :: (outside " " ++ (outside (k.dialect.typeName c.val.sqlType) ++
        ((if !c.val.nullable then outside " NOT NULL" else []) ++
        ((if c.val.autoIncrement then outside (" " ++ k.dialect.autoIncrement) else []) ++
        ((if c.val.primaryKey then outside " PRIMARY KEY" else []) ++
        ((if c.val.unique then outside " UNIQUE" else []) ++ [])))))) := by
  have hstandard : k.dialect.columnDefinition c.val =
      Standard.columnDefinition k.dialect.typeName k.dialect.autoIncrement c.val := by
    cases k with
    | sqlite => exact absurd rfl hk
    | _ => rfl
  rw [hstandard, Standard.columnDefinition, Standard.defaultClause, c.property]
  simp [outside_append]

/-- **A column can be read off.** -/
theorem DialectKind.decodes_column {k : DialectKind} (hk : k ≠ .sqlite) :
    Decodes (fun c : PlainColumn => (k.dialect.columnDefinition c.val).tokens)
      fun ts => endsItem ts := by
  obtain ⟨initial, rest, hinitial, hauto⟩ : ∃ initial rest,
      (initial = 'G' ∨ initial = 'A') ∧
        (" " ++ k.dialect.autoIncrement).toList = ' ' :: initial :: rest := by
    cases k with
    | mysql => exact ⟨'A', _, .inr rfl, rfl⟩
    | _ => exact ⟨'G', _, .inl rfl, rfl⟩
  have hkeys : Attributes ['P', 'U'] _ :=
    (attributes_none.cons " UNIQUE" rfl (by decide)).cons " PRIMARY KEY" rfl (by decide)
  have hgenerated : Attributes [initial, 'P', 'U'] _ :=
    hkeys.cons _ hauto (by rcases hinitial with rfl | rfl <;> decide)
  have hattributes : Attributes ['N', initial, 'P', 'U'] _ :=
    hgenerated.cons " NOT NULL" rfl (by rcases hinitial with rfl | rfl <;> decide)
  have hinitials : ['N', initial, 'P', 'U'] ⊆ ['N', 'G', 'A', 'P', 'U'] := by
    rcases hinitial with rfl | rfl <;> decide
  have htype := (SqlType.decodes_typeName hk).append hattributes.decodes fun z r hr =>
    opens_mono hinitials (hattributes.opens z r hr)
  have hcolumn := ((decodes_name fun _ => True).append (htype.prepend (outside " "))
    fun _ _ _ => trivial).comap PlainColumn.parts_injective
  rw [funext (k.tokens_columnDefinition hk)]
  exact hcolumn

/-- What stands between the parentheses of a table: a column, or the key over several columns. -/
abbrev TableItem := PlainColumn ⊕ List String

/-- The tokens of what stands between the parentheses. -/
def TableItem.tokens (k : DialectKind) : TableItem → List NameToken :=
  Sum.elim (fun c => (k.dialect.columnDefinition c.val).tokens)
    fun names => outside "PRIMARY KEY (" ++ ((Phrase.names names).tokens ++ outside ")")

/-- The items of a table: its columns, and the key if there is one. -/
def tableItems (columns : List PlainColumn) (key : List String) : List TableItem :=
  columns.map .inl ++ if key.isEmpty then [] else [.inr key]

/-- The items of a table tell its columns and its key. -/
theorem tableItems_inj {columns columns' : List PlainColumn} {key key' : List String}
    (h : tableItems columns key = tableItems columns' key') : columns = columns' ∧ key = key' := by
  have hcolumns (columns : List PlainColumn) (key : List String) :
      (tableItems columns key).filterMap Sum.getLeft? = columns := by
    cases key <;> simp [tableItems, List.filterMap_map, Function.comp_def]
  have hkey (columns : List PlainColumn) (key : List String) :
      (tableItems columns key).filterMap Sum.getRight? = if key.isEmpty then [] else [key] := by
    cases key <;> simp [tableItems, List.filterMap_map, Function.comp_def]
  have hkeys := (hkey columns key).symm.trans ((congrArg _ h).trans (hkey columns' key'))
  refine ⟨(hcolumns columns key).symm.trans ((congrArg _ h).trans (hcolumns columns' key')), ?_⟩
  cases key <;> cases key' <;> simp_all

/-- An item can be read off: a column begins with a name, and a key with a word. -/
theorem DialectKind.decodes_tableItem {k : DialectKind} (hk : k ≠ .sqlite) :
    Decodes (TableItem.tokens k) fun ts => endsItem ts := by
  refine (decodes_column hk).sum ((decodes_closedNames _).prepend _) fun c names r s heq => ?_
  rw [k.tokens_columnDefinition hk] at heq
  cases heq

/-- The tokens of a table without defaults are its name and, in parentheses, those of its items. -/
theorem DialectKind.tokens_createTable (k : DialectKind) (name : String)
    (columns : List PlainColumn) (key : List String) :
    (k.dialect.createTable ⟨name, columns.map Subtype.val, key⟩).tokens =
      outside "CREATE TABLE " ++ ([NameToken.name name] ++ (outside " (" ++
        (List.intercalate (outside ", ") ((tableItems columns key).map (TableItem.tokens k)) ++
          outside ")"))) := by
  have hitems : ((columns.map Subtype.val).map k.dialect.columnDefinition ++
      (if key.isEmpty then [] else [Phrase.concat [["PRIMARY KEY ("], .names key, [")"]]])).map
        Phrase.tokens = (tableItems columns key).map (TableItem.tokens k) := by
    cases key <;> simp [tableItems, TableItem.tokens]
  unfold Dialect.createTable
  simp only [Phrase.tokens_concat, List.flatMap_cons, List.flatMap_nil, Phrase.tokens_comma,
    hitems, Phrase.tokens_verbatim, Phrase.tokens_name, Phrase.tokens_nil, List.append_nil,
    List.append_assoc]
  rfl

/-- The tokens of a table tell its definition. -/
theorem DialectKind.tokens_createTable_inj {k : DialectKind} (hk : k ≠ .sqlite) {t u : TableDef}
    (ht : ∀ c ∈ t.columns, c.default = none) (hu : ∀ c ∈ u.columns, c.default = none)
    (h : (k.dialect.createTable t).tokens = (k.dialect.createTable u).tokens) : t = u := by
  obtain ⟨name, columns, key⟩ := t
  obtain ⟨name', columns', key'⟩ := u
  lift columns to List PlainColumn using ht
  lift columns' to List PlainColumn using hu
  have hitems : Decodes
      (fun items : List TableItem =>
        List.intercalate (outside ", ") (items.map (TableItem.tokens k)))
      fun r => r.head? = some (.outside ')') := by
    refine (decodes_tableItem hk).separated (fun _ => rfl) (fun r hr => endsItem_of_closing hr)
      (fun r hr => by cases hr) fun item r hr => ?_
    rcases item with c | names
    · rw [TableItem.tokens, Sum.elim_inl, k.tokens_columnDefinition hk] at hr
      cases hr
    · cases hr
  have hlist := (hitems.concat (outside ")") fun r (_ : r = []) => rfl).prepend (outside " (")
  have htable := (((decodes_name fun _ => True).append hlist fun _ _ _ => trivial).prepend
    (outside "CREATE TABLE ")).injective rfl
  rw [tokens_createTable, tokens_createTable] at h
  have hpair : (name, tableItems columns key) = (name', tableItems columns' key') := htable h
  obtain ⟨rfl, hsame⟩ := Prod.mk.inj hpair
  obtain ⟨rfl, rfl⟩ := tableItems_inj hsame
  rfl

/-! ## Indexes -/

/-- The tokens of an index tell its definition. -/
theorem Dialect.tokens_createIndex_inj (d : Dialect) {i j : IndexDef}
    (h : (d.createIndex i).tokens = (d.createIndex j).tokens) : i = j := by
  have hcolumns := (decodes_closedNames (· = [])).prepend (outside " (")
  have htable := ((decodes_name fun _ => True).append hcolumns fun _ _ _ => trivial).prepend
    (outside " ON ")
  have hname := ((decodes_name fun _ => True).append htable fun _ _ _ => trivial).prepend
    (outside "INDEX ")
  have hunique : Decodes (fun unique : Bool => if unique then outside "UNIQUE " else [])
      fun r => r.head? = some (.outside 'I') := decodes_flag fun r hr => by cases hr
  have hindex := ((hunique.append hname fun _ _ _ => rfl).prepend (outside "CREATE ")).injective rfl
  have htokens (i : IndexDef) : (d.createIndex i).tokens =
      outside "CREATE " ++ ((if i.unique then outside "UNIQUE " else []) ++
        (outside "INDEX " ++ ([NameToken.name i.name] ++ (outside " ON " ++
          ([NameToken.name i.table] ++ (outside " (" ++
            ((Phrase.names i.columns).tokens ++ outside ")"))))))) := by
    simp [createIndex]
  rw [htokens, htokens] at h
  have hpair : (i.unique, i.name, i.table, i.columns) = (j.unique, j.name, j.table, j.columns) :=
    hindex h
  cases i
  cases j
  simp_all

/-! ## Main statement -/

/-- **The text of a schema change tells the definition.**  For every dialect but SQLite, whose types
have names in common, two tables without defaults have one text only if they are the same: name,
columns in their order with all that is said of them, and key.  Two indexes have one text only if
they are the same, for every dialect.  Names may be any text. -/
theorem schema_text_determines (k : DialectKind) :
    (k ≠ .sqlite → ∀ t u : TableDef,
      (∀ c ∈ t.columns, c.default = none) → (∀ c ∈ u.columns, c.default = none) →
      k.dialect.write (k.dialect.createTable t) = k.dialect.write (k.dialect.createTable u) →
        t = u) ∧
    ∀ i j : IndexDef,
      k.dialect.write (k.dialect.createIndex i) = k.dialect.write (k.dialect.createIndex j) →
        i = j := by
  refine ⟨fun hk t u ht hu h => ?_, fun i j h => ?_⟩
  · have hquoted {t : TableDef} (ht : ∀ c ∈ t.columns, c.default = none) :
        Quoted k.mark (.ofPhrase (k.dialect.createTable t)) :=
      spaced_createTable k.speaks fun c hc => k.quoted_columnDefinition (ht c hc)
    exact DialectKind.tokens_createTable_inj hk ht hu
      (k.tokens_eq_of_write_eq (hquoted ht) (hquoted hu) h)
  · exact k.dialect.tokens_createIndex_inj
      (k.tokens_eq_of_write_eq (spaced_createIndex k.speaks i) (spaced_createIndex k.speaks j) h)

/-- In SQLite two types have one name. -/
example :
    Dialect.sqlite.write (Dialect.sqlite.createTable
        { name := "t", columns := [{ name := "n", sqlType := .integer }] }) =
      Dialect.sqlite.write (Dialect.sqlite.createTable
        { name := "t", columns := [{ name := "n", sqlType := .bigInt }] }) := rfl

/-- A table whose names have everything in them that separates items. -/
def separatorTable : TableDef where
  name := "t\x22 ("
  columns := [{ name := "a, b", sqlType := .decimal 10 2, nullable := true },
    { name := "c\x22, \x22d", sqlType := .timestampTz, autoIncrement := true, unique := true }]
  primaryKey := ["a, b", ")"]

/-- The same table, its columns made anew without a default. -/
def separatorTableAnew : TableDef where
  name := separatorTable.name
  columns := separatorTable.columns.map fun c => { c with default := none }
  primaryKey := separatorTable.primaryKey

/-- Two spellings of the table with separators in its names have one text, so they are one table. -/
theorem schema_text_determines_separators : separatorTable = separatorTableAnew := by
  obtain ⟨htables, -⟩ := schema_text_determines .postgres
  exact htables (by decide) separatorTable separatorTableAnew (by decide) (by decide) rfl

end BoundSql
