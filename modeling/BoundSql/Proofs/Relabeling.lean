import BoundSql.Batch
import BoundSql.Proofs.Writing
import BoundSql.Statement.Basic
import Mathlib.Data.List.Nodup

/-!
# Other names and other values

A relabeling replaces the names in a statement and the values that it binds, one by one and
everywhere alike.  What it leaves alone is everything that is neither: keywords, the choice of
operators, the names of functions and the SQL of the caller, of which only the values are replaced.

Main statement: `Select.fragment_relabel`.  The fragment of a relabeled query is the relabeled
fragment.  So no name and no value has any influence on which words are written and where; each
stands in its own place and nowhere else.  The comparison is one induction over everything that a
query is made of (`Expr.fragment_relabel` and what follows it).

Queries never compare names.  Statements that change rows do, and there it matters that different
names stay different: no column is assigned twice, the rows of a batch assign the same columns, and
an upsert may overwrite all columns except those of its target.
-/

namespace BoundSql

/-- New names and values for the old ones.  Different names stay different. -/
structure Relabeling where
  name : String → String := id
  value : Value → Value := id
  injective : Function.Injective name := by exact Function.injective_id

namespace Relabeling

/-- Other values under the same names. -/
def values (h : Value → Value) : Relabeling := { value := h }

/-- Other names for the same values. -/
def names (r : String → String) (hr : Function.Injective r) : Relabeling :=
  { name := r, injective := hr }

end Relabeling

/-! ## Relabeling -/

section

variable (m : Relabeling)

/-! ### Fragments -/

/-- A word with its name replaced. -/
def Word.relabel : Word → Word
  | .verbatim text => .verbatim text
  | .name identifier => .name (m.name identifier)

/-- A phrase with its names replaced. -/
def Phrase.relabel (p : Phrase) : Phrase := p.map (Word.relabel m)

/-- A piece with its name or its value replaced. -/
def Piece.relabel : Piece → Piece
  | .word w => .word (w.relabel m)
  | .bound v => .bound (m.value v)

/-- A fragment with its names and values replaced. -/
def Fragment.relabel (f : Fragment) : Fragment := f.map (Piece.relabel m)

/-! ### Queries -/

/-- A template with its values replaced. -/
def Template.relabel (t : Template) : Template := { t with params := t.params.map m.value }

/-- A table under other names. -/
def Table.relabel (t : Table) : Table := ⟨m.name t.name, t.aliasName.map m.name⟩

/-- A reference with both names replaced. -/
def ColumnRef.relabel (c : ColumnRef) : ColumnRef := ⟨m.name c.table, m.name c.name⟩

mutual

/-- An expression with its names and values replaced. -/
def Expr.relabel : Expr → Expr
  | .column c => .column (c.relabel m)
  | .literal v => .literal (m.value v)
  | .raw t => .raw (t.relabel m)
  | .star => .star
  | .call function args distinct => .call function (Expr.relabelAll args) distinct
  | .binary left op right => .binary left.relabel op right.relabel
  | .aliased e name => .aliased e.relabel (m.name name)
  | .case branches otherwise =>
    .case (Branch.relabelAll branches) (Expr.relabelOption otherwise)
  | .coalesce args => .coalesce (Expr.relabelAll args)
  | .subquery q => .subquery q.relabel
  | .window function w => .window function.relabel w.relabel
  | .now => .now
  | .truth p => .truth p.relabel

/-- Expressions with their names and values replaced. -/
def Expr.relabelAll : List Expr → List Expr
  | [] => []
  | e :: es => e.relabel :: Expr.relabelAll es

/-- An expression, if there is one, with its names and values replaced. -/
def Expr.relabelOption : Option Expr → Option Expr
  | none => none
  | some e => some e.relabel

/-- A condition with its names and values replaced. -/
def Predicate.relabel : Predicate → Predicate
  | .compare left op right => .compare left.relabel op right.relabel
  | .isNull e negated => .isNull e.relabel negated
  | .inList e values negated => .inList e.relabel (Expr.relabelAll values) negated
  | .inQuery e q negated => .inQuery e.relabel q.relabel negated
  | .between e low high negated => .between e.relabel low.relabel high.relabel negated
  | .like e pattern negated caseless => .like e.relabel pattern.relabel negated caseless
  | .conj ps => .conj (Predicate.relabelAll ps)
  | .disj ps => .disj (Predicate.relabelAll ps)
  | .neg p => .neg p.relabel
  | .existence q negated => .existence q.relabel negated
  | .quantified left op quantifier q => .quantified left.relabel op quantifier q.relabel
  | .raw t => .raw (t.relabel m)
  | .always => .always
  | .never => .never

/-- Conditions with their names and values replaced. -/
def Predicate.relabelAll : List Predicate → List Predicate
  | [] => []
  | p :: ps => p.relabel :: Predicate.relabelAll ps

/-- A condition, if there is one, with its names and values replaced. -/
def Predicate.relabelOption : Option Predicate → Option Predicate
  | none => none
  | some p => some p.relabel

/-- A branch with its names and values replaced. -/
def Branch.relabel : Branch → Branch
  | ⟨condition, value⟩ => ⟨condition.relabel, value.relabel⟩

/-- Branches with their names and values replaced. -/
def Branch.relabelAll : List Branch → List Branch
  | [] => []
  | b :: bs => b.relabel :: Branch.relabelAll bs

/-- A sort key with its names and values replaced. -/
def OrderItem.relabel : OrderItem → OrderItem
  | ⟨key, dir, nulls⟩ => ⟨key.relabel, dir, nulls⟩

/-- Sort keys with their names and values replaced. -/
def OrderItem.relabelAll : List OrderItem → List OrderItem
  | [] => []
  | o :: os => o.relabel :: OrderItem.relabelAll os

/-- A window with its names and values replaced. -/
def Window.relabel : Window → Window
  | ⟨partitionKeys, order, frame⟩ =>
    ⟨Expr.relabelAll partitionKeys, OrderItem.relabelAll order, frame⟩

/-- A source with its names and values replaced. -/
def Source.relabel : Source → Source
  | .table t => .table (t.relabel m)
  | .query q name => .query q.relabel (m.name name)

/-- A source, if there is one, with its names and values replaced. -/
def Source.relabelOption : Option Source → Option Source
  | none => none
  | some s => some s.relabel

/-- A join with its names and values replaced. -/
def Join.relabel : Join → Join
  | ⟨kind, target, on⟩ => ⟨kind, target.relabel, Predicate.relabelOption on⟩

/-- Joins with their names and values replaced. -/
def Join.relabelAll : List Join → List Join
  | [] => []
  | j :: js => j.relabel :: Join.relabelAll js

/-- A query with its names and values replaced. -/
def Select.relabel : Select → Select
  | ⟨distinct, projection, source, joins, condition, groups, having, order, limit, offset,
      forUpdate⟩ =>
    ⟨distinct, Expr.relabelAll projection, Source.relabelOption source, Join.relabelAll joins,
      Predicate.relabelOption condition, Expr.relabelAll groups, Predicate.relabelOption having,
      OrderItem.relabelAll order, limit, offset, forUpdate⟩

end

/-! ### Statements -/

/-- Different columns stay different, since different names do. -/
theorem ColumnRef.relabel_injective : Function.Injective (ColumnRef.relabel m) := by
  rintro ⟨t, n⟩ ⟨t', n'⟩ h
  obtain ⟨ht, hn⟩ := ColumnRef.mk.inj h
  exact congrArg₂ ColumnRef.mk (m.injective ht) (m.injective hn)

/-- An entry with its names and values replaced. -/
def Assignments.relabelEntry (entry : ColumnRef × Expr) : ColumnRef × Expr :=
  (entry.1.relabel m, entry.2.relabel m)

/-- The columns of relabeled entries are the relabeled columns. -/
theorem Assignments.map_fst_relabelEntry (entries : List (ColumnRef × Expr)) :
    (entries.map (relabelEntry m)).map Prod.fst =
      (entries.map Prod.fst).map (ColumnRef.relabel m) := by
  rw [List.map_map, List.map_map]
  rfl

/-- Assignments with their names and values replaced.  Different columns stay different. -/
def Assignments.relabel (as : Assignments) : Assignments where
  entries := as.entries.map (relabelEntry m)
  nodup := by
    rw [map_fst_relabelEntry]
    exact List.Nodup.map (ColumnRef.relabel_injective m) as.nodup

/-- The action with its names replaced. -/
def ConflictAction.relabel : ConflictAction → ConflictAction
  | .keep => .keep
  | .overwrite columns => .overwrite (columns.map (ColumnRef.relabel m))
  | .overwriteAll => .overwriteAll

/-- The conflict clause with its names replaced. -/
def Conflict.relabel (c : Conflict) : Conflict :=
  ⟨c.target.map (ColumnRef.relabel m), c.action.relabel m⟩

/-- An insertion with its names and values replaced. -/
def Insert.relabel (i : Insert) : Insert where
  table := i.table.relabel m
  assignments := i.assignments.relabel m
  conflict := i.conflict.map (Conflict.relabel m)
  returning := i.returning.map (ColumnRef.relabel m)

/-- An update with its names and values replaced. -/
def Update.relabel (u : Update) : Update where
  table := u.table.relabel m
  assignments := u.assignments.relabel m
  condition := Predicate.relabelOption m u.condition
  returning := u.returning.map (ColumnRef.relabel m)

/-- A deletion with its names and values replaced. -/
def Delete.relabel (x : Delete) : Delete where
  table := x.table.relabel m
  condition := Predicate.relabelOption m x.condition
  returning := x.returning.map (ColumnRef.relabel m)

/-- A statement with its names and values replaced. -/
def Statement.relabel : Statement → Statement
  | .select q => .select (q.relabel m)
  | .insert i => .insert (i.relabel m)
  | .update u => .update (u.relabel m)
  | .delete x => .delete (x.relabel m)

/-- A batch with its names and values replaced. -/
def Batch.relabel (b : Batch) : Batch where
  table := b.table.relabel m
  rows := b.rows.map (Assignments.relabel m)
  conflict := b.conflict.map (Conflict.relabel m)
  returning := b.returning.map (ColumnRef.relabel m)
  strategy := b.strategy

/-- What an upsert does, with its names replaced. -/
def UpsertAction.relabel : UpsertAction → UpsertAction
  | .keep => .keep
  | .overwrite columns => .overwrite (columns.map m.name)

/-- An error with its names replaced.  Only the rows of a batch are reported with names in them. -/
def QueryError.relabel : QueryError → QueryError
  | .heterogeneousBatch row expected found =>
    .heterogeneousBatch row (expected.map m.name) (found.map m.name)
  | e => e

end

/-! ## Lists -/

section

variable {m : Relabeling}

/-- A list of expressions is relabeled one by one. -/
theorem Expr.relabelAll_eq (es : List Expr) :
    Expr.relabelAll m es = es.map (Expr.relabel m) := by
  induction es with
  | nil => rfl
  | cons e es ih => rw [Expr.relabelAll, ih, List.map_cons]

/-- An expression that may be missing is relabeled if it is there. -/
theorem Expr.relabelOption_eq (e : Option Expr) :
    Expr.relabelOption m e = e.map (Expr.relabel m) := by
  cases e <;> rfl

/-- A list of conditions is relabeled one by one. -/
theorem Predicate.relabelAll_eq (ps : List Predicate) :
    Predicate.relabelAll m ps = ps.map (Predicate.relabel m) := by
  induction ps with
  | nil => rfl
  | cons p ps ih => rw [Predicate.relabelAll, ih, List.map_cons]

/-- A condition that may be missing is relabeled if it is there. -/
theorem Predicate.relabelOption_eq (p : Option Predicate) :
    Predicate.relabelOption m p = p.map (Predicate.relabel m) := by
  cases p <;> rfl

/-- The branches of a case are relabeled one by one. -/
theorem Branch.relabelAll_eq (bs : List Branch) :
    Branch.relabelAll m bs = bs.map (Branch.relabel m) := by
  induction bs with
  | nil => rfl
  | cons b bs ih => rw [Branch.relabelAll, ih, List.map_cons]

/-- Sort keys are relabeled one by one. -/
theorem OrderItem.relabelAll_eq (os : List OrderItem) :
    OrderItem.relabelAll m os = os.map (OrderItem.relabel m) := by
  induction os with
  | nil => rfl
  | cons o os ih => rw [OrderItem.relabelAll, ih, List.map_cons]

/-- A source that may be missing is relabeled if it is there. -/
theorem Source.relabelOption_eq (s : Option Source) :
    Source.relabelOption m s = s.map (Source.relabel m) := by
  cases s <;> rfl

/-- Joins are relabeled one by one. -/
theorem Join.relabelAll_eq (js : List Join) :
    Join.relabelAll m js = js.map (Join.relabel m) := by
  induction js with
  | nil => rfl
  | cons j js ih => rw [Join.relabelAll, ih, List.map_cons]

/-! ## Fragments that are put together -/

namespace Fragment

variable (f g : Fragment)

/-- In an empty fragment there is nothing to relabel. -/
@[simp] theorem relabel_nil : relabel m [] = [] := rfl

/-- Text that is no name stays as it is. -/
@[simp] theorem relabel_verbatim (t : String) :
    relabel m (.word (.verbatim t) :: f) = .word (.verbatim t) :: relabel m f := rfl

/-- A name is replaced. -/
@[simp] theorem relabel_name (n : String) :
    relabel m (.word (.name n) :: f) = .word (.name (m.name n)) :: relabel m f := rfl

/-- A bound value is replaced. -/
@[simp] theorem relabel_bound (v : Value) :
    relabel m (.bound v :: f) = .bound (m.value v) :: relabel m f := rfl

/-- A choice between two texts is left as it is. -/
@[simp] theorem relabel_ite_cons (condition : Prop) [Decidable condition] (s t : String) :
    relabel m ((if condition then (s : Piece) else (t : Piece)) :: f) =
      (if condition then (s : Piece) else (t : Piece)) :: relabel m f := by
  split <;> rfl

/-- Fragments in a row are relabeled one behind another. -/
@[simp] theorem relabel_append : relabel m (f ++ g) = relabel m f ++ relabel m g :=
  List.map_append

/-- The same for any number of fragments in a row. -/
@[simp] theorem relabel_concat (fs : List Fragment) :
    relabel m (concat fs) = concat (fs.map (relabel m)) := List.map_flatten

/-- Parentheses stay around what is relabeled. -/
@[simp] theorem relabel_parens : relabel m f.parens = (relabel m f).parens := by
  simp [parens]

/-- Separators stay between what is relabeled. -/
@[simp] theorem relabel_sepBy (separator : String) (fs : List Fragment) :
    relabel m (sepBy separator fs) = sepBy separator (fs.map (relabel m)) := by
  rw [sepBy, relabel, map_intercalate]
  rfl

/-- Commas stay between what is relabeled. -/
@[simp] theorem relabel_comma (fs : List Fragment) :
    relabel m (comma fs) = comma (fs.map (relabel m)) := relabel_sepBy ", " fs

/-- The fragment of a phrase is relabeled like the phrase. -/
@[simp] theorem relabel_ofPhrase (p : Phrase) :
    relabel m (ofPhrase p) = ofPhrase (p.relabel m) := by
  rw [relabel, ofPhrase, ofPhrase, Phrase.relabel, List.map_map, List.map_map]
  rfl

/-- A relabeled fragment binds the new values, in the same order. -/
theorem values_relabel : (relabel m f).values = f.values.map m.value := by
  induction f with
  | nil => rfl
  | cons p f ih =>
    rcases p with w | v
    · exact ih
    · exact congrArg (m.value v :: ·) ih

end Fragment

namespace Phrase

/-- Text that is no name stays as it is. -/
@[simp] theorem relabel_verbatim (t : String) (p : Phrase) :
    relabel m (.verbatim t :: p) = .verbatim t :: relabel m p := rfl

/-- A name is replaced. -/
@[simp] theorem relabel_name (n : String) (p : Phrase) :
    relabel m (.name n :: p) = .name (m.name n) :: relabel m p := rfl

/-- Phrases in a row are relabeled one behind another. -/
@[simp] theorem relabel_append (p q : Phrase) : relabel m (p ++ q) = relabel m p ++ relabel m q :=
  List.map_append

/-- The same for any number of phrases in a row. -/
@[simp] theorem relabel_concat (ps : List Phrase) :
    relabel m (concat ps) = concat (ps.map (relabel m)) := List.map_flatten

/-- A phrase that is written under a condition stays under it, as no condition reads a name. -/
@[simp] theorem relabel_when (condition : Bool) (p : Phrase) :
    relabel m (when condition p) = when condition (relabel m p) := by
  unfold when
  split <;> rfl

/-- A list with commas, each entry relabeled. -/
theorem relabel_comma (ps : List Phrase) :
    relabel m (comma ps) = comma (ps.map (relabel m)) := by
  rw [comma, relabel, map_intercalate]
  rfl

/-- In a list with an entry for each name, the entries are those of the new names. -/
theorem relabel_list {entry : String → Phrase}
    (h : ∀ n, relabel m (entry n) = entry (m.name n)) (names : List String) :
    relabel m (comma (names.map entry)) = comma ((names.map m.name).map entry) := by
  rw [relabel_comma, List.map_map, List.map_map]
  exact congrArg comma (List.map_congr_left fun n _ => h n)

/-- A list of names consists of the new names. -/
@[simp] theorem relabel_names (ns : List String) :
    relabel m (names ns) = names (ns.map m.name) := relabel_list (fun _ => rfl) ns

end Phrase

/-! ## Parts without subqueries -/

/-- The caller's SQL keeps its words; only the values for its markers are replaced. -/
@[simp] theorem Template.fragment_relabel (t : Template) :
    (t.relabel m).fragment = t.fragment.relabel m := by
  have hpieces (quote : Option Char) (vs : List Value) (cs : List Char) :
      pieces quote (vs.map m.value) cs = (pieces quote vs cs).relabel m := by
    induction quote, vs, cs using pieces.induct with
    | case1 => rfl
    | case2 v vs cs ih => rw [List.map_cons, pieces, pieces, ih, Fragment.relabel_bound]
    | case3 quote vs c cs hlive ih =>
      rw [pieces.eq_3 _ _ _ _ hlive, pieces, ih, Fragment.relabel_verbatim]
      intro v vs' hq hvs hc
      obtain ⟨w, ws, rfl, -, -⟩ := List.map_eq_cons_iff.mp hvs
      exact hlive w ws hq rfl hc
  exact hpieces none t.params t.sql.toList

/-- The phrase of a table has its new name, and its new alias if it has one. -/
theorem Table.sourcePhrase_relabel (t : Table) :
    (t.relabel m).sourcePhrase = t.sourcePhrase.relabel m := by
  obtain ⟨name, aliasName⟩ := t
  rcases aliasName with _ | other <;> rfl

/-- A clause that is left out when its list is empty is so before and after. -/
theorem relabel_listClause (keyword : String) (fs : List Fragment) :
    (listClause keyword fs).relabel m = listClause keyword (fs.map (Fragment.relabel m)) := by
  rcases fs with _ | ⟨f, fs⟩
  · rfl
  · simp [listClause]

variable (d : Dialect)

/-- A sort key takes no notice of the names and values in it, also where it is written twice. -/
theorem relabel_sortKey (key : Fragment) (dir : SortDir) (nulls : Option NullsOrder) :
    (sortKey d key dir nulls).relabel m = sortKey d (key.relabel m) dir nulls := by
  unfold sortKey
  split
  · simp
  · next place =>
    split
    · simp
    · rcases place with _ | _ <;> simp

/-- How a dialect compares texts by a pattern does not depend on the two operands. -/
theorem relabel_likeFragment (e pattern : Fragment) (negated caseless : Bool) :
    (likeFragment d e pattern negated caseless).relabel m =
      likeFragment d (e.relabel m) (pattern.relabel m) negated caseless := by
  unfold likeFragment
  split <;> simp

/-- The parts of a window are written in the same places. -/
theorem relabel_windowParts (partitionKeys order : List Fragment) (frame : Option Frame) :
    (windowParts d partitionKeys order frame).relabel m =
      windowParts d (partitionKeys.map (Fragment.relabel m)) (order.map (Fragment.relabel m))
        frame := by
  rcases partitionKeys with _ | ⟨k, ks⟩ <;> rcases order with _ | ⟨o, os⟩ <;>
    rcases frame with _ | frame <;> simp [windowParts, listClause]

/-- An operand with its names and values replaced. -/
def Operand.relabel (m : Relabeling) (o : Operand) : Operand :=
  ⟨o.fragment.relabel m, o.needsGrouping⟩

/-- An operand has its parentheses before and after. -/
theorem Operand.grouped_relabel (o : Operand) :
    (o.relabel m).grouped = o.grouped.relabel m := by
  unfold Operand.grouped Operand.relabel
  split <;> simp

/-- Operands are joined in the same way, and if there are none the same constant is written. -/
theorem Operand.join_relabel (word empty : String) (os : List Operand) :
    Operand.join word empty (os.map (Operand.relabel m)) =
      (Operand.join word empty os).relabel m := by
  match os with
  | [] => rfl
  | [o] => rfl
  | o :: o' :: os => simp [Operand.join, Operand.grouped_relabel, Function.comp_def]

/-- An operator stays an operator. -/
theorem Expr.isBinary_relabel (e : Expr) : (e.relabel m).isBinary = e.isBinary := by
  cases e <;> rfl

/-- An operand of an operator has its parentheses before and after. -/
theorem Expr.operand_relabel (e : Expr) (f : Fragment) :
    (e.relabel m).operand (f.relabel m) = (e.operand f).relabel m := by
  unfold Expr.operand
  rw [e.isBinary_relabel]
  split <;> simp

mutual

/-- Whether a condition has to be grouped depends on its shape only. -/
theorem Predicate.needsGrouping_relabel (p : Predicate) :
    (p.relabel m).needsGrouping = p.needsGrouping := by
  cases p with
  | conj ps | disj ps => exact Predicate.groupNeedsGrouping_relabel ps
  | _ => rfl

/-- The same for several conditions: it depends on how many there are, and on the shape of one. -/
theorem Predicate.groupNeedsGrouping_relabel (ps : List Predicate) :
    Predicate.groupNeedsGrouping (Predicate.relabelAll m ps) =
      Predicate.groupNeedsGrouping ps := by
  match ps with
  | [] => rfl
  | [p] => exact p.needsGrouping_relabel
  | _ :: _ :: _ => rfl

end

/-! ## Everything in a query -/

mutual

/-- The fragment of a relabeled expression is the relabeled fragment. -/
theorem Expr.fragment_relabel :
    (e : Expr) → (e.relabel m).fragment d = (e.fragment d).relabel m
  | .column c => rfl
  | .literal v => rfl
  | .raw t => t.fragment_relabel
  | .star => rfl
  | .call function args distinct => by
    simp [Expr.relabel, Expr.fragment, Expr.fragments_relabel args]
  | .binary left op right => by
    simp [Expr.relabel, Expr.fragment, left.fragment_relabel, right.fragment_relabel,
      Expr.operand_relabel]
  | .aliased e name => by
    simp [Expr.relabel, Expr.fragment, e.fragment_relabel]
  | .case branches otherwise => by
    simp [Expr.relabel, Expr.fragment, Branch.fragments_relabel branches,
      Expr.elseFragment_relabel otherwise]
  | .coalesce args => by
    simp [Expr.relabel, Expr.fragment, Expr.fragments_relabel args]
  | .subquery q => by
    simp [Expr.relabel, Expr.fragment, q.fragment_relabel]
  | .window function w => by
    simp [Expr.relabel, Expr.fragment, function.fragment_relabel, w.fragment_relabel]
  | .now => rfl
  | .truth p => by
    simp [Expr.relabel, Expr.fragment, p.fragment_relabel]

/-- Relabeled expressions have the relabeled fragments, in the same order. -/
theorem Expr.fragments_relabel : (es : List Expr) →
    Expr.fragments d (Expr.relabelAll m es) = (Expr.fragments d es).map (Fragment.relabel m)
  | [] => rfl
  | e :: es => by
    rw [Expr.relabelAll, Expr.fragments, Expr.fragments, e.fragment_relabel,
      Expr.fragments_relabel es, List.map_cons]

/-- What stands behind `ELSE` is relabeled with its expression. -/
theorem Expr.elseFragment_relabel : (otherwise : Option Expr) →
    Expr.elseFragment d (Expr.relabelOption m otherwise) =
      (Expr.elseFragment d otherwise).relabel m
  | none => rfl
  | some e => by
    simp [Expr.relabelOption, Expr.elseFragment, e.fragment_relabel]

/-- The fragment of a relabeled branch is the relabeled fragment. -/
theorem Branch.fragment_relabel :
    (b : Branch) → (b.relabel m).fragment d = (b.fragment d).relabel m
  | ⟨condition, value⟩ => by
    simp [Branch.relabel, Branch.fragment, condition.fragment_relabel, value.fragment_relabel]

/-- Relabeled branches have the relabeled fragments, in the same order. -/
theorem Branch.fragments_relabel : (bs : List Branch) →
    Branch.fragments d (Branch.relabelAll m bs) = (Branch.fragments d bs).map (Fragment.relabel m)
  | [] => rfl
  | b :: bs => by
    rw [Branch.relabelAll, Branch.fragments, Branch.fragments, b.fragment_relabel,
      Branch.fragments_relabel bs, List.map_cons]

/-- The fragment of a relabeled condition is the relabeled fragment. -/
theorem Predicate.fragment_relabel :
    (p : Predicate) → (p.relabel m).fragment d = (p.fragment d).relabel m
  | .compare left op right => by
    simp [Predicate.relabel, Predicate.fragment, left.fragment_relabel, right.fragment_relabel]
  | .isNull e negated => by
    simp [Predicate.relabel, Predicate.fragment, e.fragment_relabel]
  | .inList e values negated => by
    have hempty : (Expr.relabelAll m values).isEmpty = values.isEmpty := by
      cases values <;> rfl
    rw [Predicate.relabel, Predicate.fragment, Predicate.fragment, hempty]
    split
    · simp
    · simp [e.fragment_relabel, Expr.fragments_relabel values]
  | .inQuery e q negated => by
    simp [Predicate.relabel, Predicate.fragment, e.fragment_relabel, q.fragment_relabel]
  | .between e low high negated => by
    simp [Predicate.relabel, Predicate.fragment, e.fragment_relabel, low.fragment_relabel,
      high.fragment_relabel]
  | .like e pattern negated caseless => by
    simp [Predicate.relabel, Predicate.fragment, relabel_likeFragment, e.fragment_relabel,
      pattern.fragment_relabel]
  | .conj ps => by
    rw [Predicate.relabel, Predicate.fragment, Predicate.operands_relabel ps,
      Operand.join_relabel, Predicate.fragment]
  | .disj ps => by
    rw [Predicate.relabel, Predicate.fragment, Predicate.operands_relabel ps,
      Operand.join_relabel, Predicate.fragment]
  | .neg p => by
    simp [Predicate.relabel, Predicate.fragment, p.fragment_relabel]
  | .existence q negated => by
    simp [Predicate.relabel, Predicate.fragment, q.fragment_relabel]
  | .quantified left op quantifier q => by
    simp [Predicate.relabel, Predicate.fragment, left.fragment_relabel, q.fragment_relabel]
  | .raw t => t.fragment_relabel
  | .always => rfl
  | .never => rfl

/-- Relabeled conditions are the relabeled operands, each grouped as before. -/
theorem Predicate.operands_relabel : (ps : List Predicate) →
    Predicate.operands d (Predicate.relabelAll m ps) =
      (Predicate.operands d ps).map (Operand.relabel m)
  | [] => rfl
  | p :: ps => by
    rw [Predicate.relabelAll, Predicate.operands, Predicate.operands, p.fragment_relabel,
      p.needsGrouping_relabel, Predicate.operands_relabel ps, List.map_cons]
    rfl

/-- The clause of a relabeled condition is the relabeled clause, and none stays none. -/
theorem Predicate.clause_relabel (keyword : String) : (p : Option Predicate) →
    Predicate.clause d keyword (Predicate.relabelOption m p) =
      (Predicate.clause d keyword p).relabel m
  | none => rfl
  | some p => by
    simp [Predicate.relabelOption, Predicate.clause, p.fragment_relabel]

/-- The fragment of a relabeled sort key is the relabeled fragment. -/
theorem OrderItem.fragment_relabel :
    (o : OrderItem) → (o.relabel m).fragment d = (o.fragment d).relabel m
  | ⟨key, dir, nulls⟩ => by
    simp [OrderItem.relabel, OrderItem.fragment, relabel_sortKey, key.fragment_relabel]

/-- Relabeled sort keys have the relabeled fragments, in the same order. -/
theorem OrderItem.fragments_relabel : (os : List OrderItem) →
    OrderItem.fragments d (OrderItem.relabelAll m os) =
      (OrderItem.fragments d os).map (Fragment.relabel m)
  | [] => rfl
  | o :: os => by
    rw [OrderItem.relabelAll, OrderItem.fragments, OrderItem.fragments, o.fragment_relabel,
      OrderItem.fragments_relabel os, List.map_cons]

/-- The fragment of a relabeled window is the relabeled fragment. -/
theorem Window.fragment_relabel :
    (w : Window) → (w.relabel m).fragment d = (w.fragment d).relabel m
  | ⟨partitionKeys, order, frame⟩ => by
    simp [Window.relabel, Window.fragment, relabel_windowParts,
      Expr.fragments_relabel partitionKeys, OrderItem.fragments_relabel order]

/-- The fragment of a relabeled source is the relabeled fragment. -/
theorem Source.fragment_relabel :
    (s : Source) → (s.relabel m).fragment d = (s.fragment d).relabel m
  | .table t => by
    simp [Source.relabel, Source.fragment, t.sourcePhrase_relabel]
  | .query q name => by
    simp [Source.relabel, Source.fragment, q.fragment_relabel]

/-- The clause of a relabeled source is the relabeled clause, and none stays none. -/
theorem Source.clause_relabel : (s : Option Source) →
    Source.clause d (Source.relabelOption m s) = (Source.clause d s).relabel m
  | none => rfl
  | some s => by
    simp [Source.relabelOption, Source.clause, s.fragment_relabel]

/-- The fragment of a relabeled join. -/
theorem Join.fragment_relabel :
    (j : Join) → (j.relabel m).fragment d = (j.fragment d).relabel m
  | ⟨kind, target, on⟩ => by
    simp [Join.relabel, Join.fragment, target.fragment_relabel, Predicate.clause_relabel " ON " on]

/-- The fragments of relabeled joins. -/
theorem Join.fragments_relabel : (js : List Join) →
    Join.fragments d (Join.relabelAll m js) = (Join.fragments d js).map (Fragment.relabel m)
  | [] => rfl
  | j :: js => by
    rw [Join.relabelAll, Join.fragments, Join.fragments, j.fragment_relabel,
      Join.fragments_relabel js, List.map_cons]

/-- The fragment of a relabeled query is the relabeled fragment. -/
theorem Select.fragment_relabel :
    (q : Select) → (q.relabel m).fragment d = (q.fragment d).relabel m
  | ⟨distinct, projection, source, joins, condition, groups, having, order, limit, offset,
      forUpdate⟩ => by
    have hcolumns : (if (Expr.relabelAll m projection).isEmpty then (["*"] : Fragment)
        else Fragment.comma (Expr.fragments d (Expr.relabelAll m projection))) =
        Fragment.relabel m (if projection.isEmpty then ["*"]
          else .comma (Expr.fragments d projection)) := by
      rw [Expr.fragments_relabel projection]
      rcases projection with _ | ⟨e, es⟩
      · rfl
      · exact (Fragment.relabel_comma _).symm
    have hlimits (clause : Option String) : Fragment.relabel m
        (clause.elim [] fun clause => [" ", clause]) =
        (clause.elim [] fun clause => [" ", clause] : Fragment) := by
      rcases clause with _ | clause <;> rfl
    have hlock : Fragment.relabel m (if forUpdate then [" FOR UPDATE"] else []) =
        (if forUpdate then [" FOR UPDATE"] else [] : Fragment) := by
      split <;> rfl
    simp only [Select.relabel, Select.fragment, hcolumns, Fragment.relabel_concat, List.map_cons,
      List.map_nil, Fragment.relabel_verbatim, Fragment.relabel_ite_cons, Fragment.relabel_nil,
      Source.clause_relabel source, Join.fragments_relabel joins,
      Predicate.clause_relabel " WHERE " condition, relabel_listClause,
      Expr.fragments_relabel groups, Predicate.clause_relabel " HAVING " having,
      OrderItem.fragments_relabel order, hlimits, hlock]

end

end

end BoundSql
