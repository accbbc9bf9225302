import BoundSql.Proofs.CallOrder

/-!
# The order of rows

A sort list is written as entries with commas between them.  An entry is read as an expression, or
as a rank: a number that tells whether an expression is NULL.  Behind it may be a direction and a
place for NULL (`SortKey.read`).  Rows are compared by the first entry that tells them apart, and
where no place for NULL is written the engine has its own.

Where the dialect has no words for the place of NULL, a key with a place is written as two entries,
a rank and the key without the place.  Whatever is written sorts rows as the keys say
(`OrderItem.compare`).

The expression of a key is one token here: what it is in a row is left to the row.

Main statement: `OrderItem.sorted_alike`.
-/

namespace BoundSql

/-! ## Written lists -/

/-- What a sort list consists of.  The words stand for themselves. -/
inductive SortToken where
  | key (e : Expr)
  | number (n : Nat)
  | caseWhen
  | isNullThen
  | otherwise
  | endCase
  | ascending
  | descending
  | nullsFirst
  | nullsLast

/-- How a token is written. -/
def SortToken.fragment (d : Dialect) : SortToken → Fragment
  | key e => e.fragment d
  | number n => [toString n]
  | caseWhen => ["CASE WHEN"]
  | isNullThen => ["IS NULL THEN"]
  | otherwise => ["ELSE"]
  | endCase => ["END"]
  | ascending => ["ASC"]
  | descending => ["DESC"]
  | nullsFirst => ["NULLS FIRST"]
  | nullsLast => ["NULLS LAST"]

/-- An entry has blanks between its tokens. -/
def SortToken.entry (d : Dialect) (ts : List SortToken) : Fragment :=
  .sepBy " " (ts.map (fragment d))

/-- The word for a direction. -/
def SortDir.token : SortDir → SortToken
  | asc => .ascending
  | desc => .descending

/-- The words for a place. -/
def NullsOrder.token : NullsOrder → SortToken
  | first => .nullsFirst
  | last => .nullsLast

/-- A number for each row: rows with a NULL in the key have one and the others another. -/
def NullsOrder.rank (key : Expr) : NullsOrder → List SortToken
  | first => [.caseWhen, .key key, .isNullThen, .number 0, .otherwise, .number 1, .endCase]
  | last => [.caseWhen, .key key, .isNullThen, .number 1, .otherwise, .number 0, .endCase]

/-- The entries for a key. -/
def OrderItem.entries (d : Dialect) : OrderItem → List (List SortToken)
  | ⟨key, dir, none⟩ => [[.key key, dir.token]]
  | ⟨key, dir, some place⟩ =>
    if d.hasNullsOrdering then [[.key key, dir.token, place.token]]
    else [place.rank key, [.key key, dir.token]]

/-! ## Reading -/

/-- What rows are sorted by. -/
inductive SortValue where
  /-- An expression. -/
  | value (e : Expr)
  /-- One number if the expression is NULL, and another if not. -/
  | rank (e : Expr) (ifNull ifNot : Nat)

/-- An entry of a sort list as it is read. -/
structure SortKey where
  value : SortValue
  dir : SortDir
  nulls : Option NullsOrder

/-- What rows are sorted by stands in front. -/
def SortValue.read : List SortToken → Option (SortValue × List SortToken)
  | .key e :: ts => some (.value e, ts)
  | .caseWhen :: .key e :: .isNullThen :: .number m :: .otherwise :: .number n :: .endCase :: ts =>
    some (.rank e m n, ts)
  | _ => none

/-- A direction follows, and is ascending if there is none. -/
def SortDir.read : List SortToken → SortDir × List SortToken
  | .ascending :: ts => (.asc, ts)
  | .descending :: ts => (.desc, ts)
  | ts => (.asc, ts)

/-- A place for NULL may be the last that there is. -/
def NullsOrder.read : List SortToken → Option (Option NullsOrder)
  | [] => some none
  | [.nullsFirst] => some (some .first)
  | [.nullsLast] => some (some .last)
  | _ => none

/-- An entry as a whole. -/
def SortKey.read (ts : List SortToken) : Option SortKey := do
  let (value, ts) ← SortValue.read ts
  let (dir, ts) := SortDir.read ts
  let nulls ← NullsOrder.read ts
  return ⟨value, dir, nulls⟩

/-! ## Comparing

A row says what each expression is in it, which may be NULL.  Besides, it depends on the engine how
values compare and where NULL is put if no place is written. -/

/-- Descending is ascending turned round. -/
def SortDir.apply : SortDir → Ordering → Ordering
  | asc, o => o
  | desc, o => o.swap

/-- NULL compared with something that is not NULL. -/
def NullsOrder.compareNull : NullsOrder → Ordering
  | first => .lt
  | last => .gt

/-- The first comparison that tells two rows apart decides. -/
def decideFirst (os : List Ordering) : Ordering := os.foldr Ordering.then .eq

section

variable {V : Type} (cmp : V → V → Ordering) (nulls : SortDir → NullsOrder) (r s : Expr → Option V)

/-- The comparison of what may be NULL.  The direction has no say about NULL. -/
def compareNullable (place : NullsOrder) (dir : SortDir) : Option V → Option V → Ordering
  | none, none => .eq
  | none, some _ => place.compareNull
  | some _, none => place.compareNull.swap
  | some a, some b => dir.apply (cmp a b)

/-- The comparison of two rows by an entry that was read.  A rank is never NULL. -/
def SortKey.compare (k : SortKey) : Ordering :=
  match k.value with
  | .value e => compareNullable cmp (k.nulls.getD (nulls k.dir)) k.dir (r e) (s e)
  | .rank e ifNull ifNot =>
    let rank (v : Option V) : Nat := if v.isNone then ifNull else ifNot
    k.dir.apply (Ord.compare (rank (r e)) (rank (s e)))

/-- The comparison of two rows by a written list, if it can be read. -/
def SortToken.compareRows (entries : List (List SortToken)) : Option Ordering :=
  (entries.mapM SortKey.read).map fun keys => decideFirst (keys.map (SortKey.compare cmp nulls r s))

/-- The comparison of two rows that a key of a query asks for. -/
def OrderItem.compare (o : OrderItem) : Ordering :=
  compareNullable cmp (o.nulls.getD (nulls o.dir)) o.dir (r o.key) (s o.key)

/-- The comparison of two rows that the keys of a query ask for. -/
def OrderItem.compareRows (order : List OrderItem) : Ordering :=
  decideFirst (order.map (compare cmp nulls r s))

end

/-! ## Lists are written as their entries -/

namespace Fragment

/-- Texts in a row. -/
def words (ss : List String) : Fragment := ss.map fun s => Piece.word (Word.verbatim s)

/-- Texts in a row, cut anywhere, are the texts before the cut and those behind it. -/
theorem words_append (ss ts : List String) : words (ss ++ ts) = words ss ++ words ts :=
  List.map_append

/-- Two fragments are written alike, and bind the same values, whatever was written before. -/
def Alike (d : Dialect) (f g : Fragment) : Prop :=
  ∀ draft : Draft, draft.addAll d f = draft.addAll d g

variable {d : Dialect}

/-- A fragment is written like itself. -/
theorem Alike.refl (f : Fragment) : Alike d f f := fun _ => rfl

/-- What is put together from fragments written alike is written alike. -/
theorem Alike.append {f f' g g' : Fragment} (hf : Alike d f f') (hg : Alike d g g') :
    Alike d (f ++ g) (f' ++ g') := by
  intro draft
  rw [Draft.addAll_append, Draft.addAll_append, hf, hg]

/-- It does not matter where a text is cut. -/
theorem alike_words {ss ts : List String} (h : String.join ss = String.join ts) :
    Alike d (words ss) (words ts) := by
  have hwords (draft : Draft) (ss : List String) :
      draft.addAll d (words ss) = { draft with sql := draft.sql ++ String.join ss } := by
    unfold words
    induction ss generalizing draft with
    | nil => simp
    | cons s ss ih => simp [ih, Draft.add, String.append_assoc]
  intro draft
  rw [hwords, hwords, h]

/-- A list of one entry has no comma. -/
theorem comma_singleton (f : Fragment) : comma [f] = f := by simp [comma, sepBy]

/-- A longer list is its first entry, a comma and the rest. -/
theorem comma_cons (f : Fragment) {gs : List Fragment} (h : gs ≠ []) :
    comma (f :: gs) = f ++ (words [", "] ++ comma gs) := by
  cases gs with
  | nil => exact absurd rfl h
  | cons g gs =>
    unfold comma sepBy
    rw [List.intercalate_cons_cons, List.append_assoc]
    rfl

/-- Lists with commas between them, one behind another. -/
theorem comma_append {fs gs : List Fragment} (hf : fs ≠ []) (hg : gs ≠ []) :
    comma (fs ++ gs) = comma fs ++ (words [", "] ++ comma gs) := by
  induction fs with
  | nil => exact absurd rfl hf
  | cons f fs ih =>
    cases fs with
    | nil => rw [List.singleton_append, comma_cons f hg, comma_singleton]
    | cons f' fs =>
      have hfs : f' :: fs ≠ [] := List.cons_ne_nil f' fs
      rw [List.cons_append, comma_cons f (List.append_ne_nil_of_left_ne_nil hfs gs), ih hfs,
        comma_cons f hfs]
      simp only [List.append_assoc]

end Fragment

open Fragment (Alike words words_append alike_words comma_singleton comma_cons comma_append)

/-- The entries of a list. -/
def OrderItem.allEntries (d : Dialect) (order : List OrderItem) : List (List SortToken) :=
  order.flatMap (entries d)

section

variable {d : Dialect}

/-- Every key has an entry. -/
theorem OrderItem.entries_ne_nil (o : OrderItem) : o.entries d ≠ [] := by
  obtain ⟨key, dir, nulls⟩ := o
  cases nulls with
  | none => exact List.cons_ne_nil _ _
  | some place => by_cases h : d.hasNullsOrdering <;> simp [entries, h]

/-- An entry without a place is its key and its direction. -/
theorem SortToken.entry_key (key : Expr) (dir : SortDir) :
    SortToken.entry d [.key key, dir.token] = key.fragment d ++ words [" ", dir.keyword] := by
  cases dir <;> rfl

/-- An entry with a place has the place behind the direction. -/
theorem SortToken.entry_placed (key : Expr) (dir : SortDir) (place : NullsOrder) :
    SortToken.entry d [.key key, dir.token, place.token] =
      key.fragment d ++ words [" ", dir.keyword, " ", place.keywords] := by
  cases dir <;> cases place <;> rfl

/-- An entry that ranks is a `CASE` with a number for NULL and another for the rest. -/
theorem SortToken.entry_rank (key : Expr) (m n : Nat) :
    SortToken.entry d
        [.caseWhen, .key key, .isNullThen, .number m, .otherwise, .number n, .endCase] =
      words ["CASE WHEN", " "] ++ (key.fragment d ++
        words [" ", "IS NULL THEN", " ", toString m, " ", "ELSE", " ", toString n, " ", "END"]) :=
  rfl

/-- A rank in front of an entry, with the words around it cut otherwise. -/
theorem SortToken.alike_rank (key : Expr) (m n : Nat) {text : String}
    (htext : String.join [text] = String.join [" ", "IS NULL THEN", " ", toString m, " ", "ELSE",
      " ", toString n, " ", "END", ", "]) (f : Fragment) :
    Alike d (words ["CASE WHEN "] ++ (key.fragment d ++ (words [text] ++ f)))
      (SortToken.entry d
        [.caseWhen, .key key, .isNullThen, .number m, .otherwise, .number n, .endCase] ++
          (words [", "] ++ f)) := by
  rw [entry_rank, List.append_assoc, List.append_assoc, ← List.append_assoc (words _) (words _) f,
    ← words_append]
  exact .append (alike_words rfl) (.append (.refl _) (.append (alike_words htext) (.refl f)))

/-- A key is written as its entries. -/
theorem OrderItem.alike_entries (o : OrderItem) :
    Alike d (o.fragment d) (.comma ((o.entries d).map (SortToken.entry d))) := by
  obtain ⟨key, dir, nulls⟩ := o
  rw [fragment, entries.eq_def]
  cases nulls with
  | none =>
    simp only [List.map_singleton, SortToken.entry_key, comma_singleton]
    exact .refl _
  | some place =>
    cases h : d.hasNullsOrdering with
    | true =>
      simp only [sortKey, h, if_true, List.map_singleton, SortToken.entry_placed, comma_singleton]
      exact .refl _
    | false =>
      simp only [sortKey, h, Bool.false_eq_true, if_false, List.map_cons, List.map_nil,
        comma_cons _ (List.cons_ne_nil _ _), comma_singleton, SortToken.entry_key]
      cases place with
      | first => exact SortToken.alike_rank key 0 1 rfl _
      | last => exact SortToken.alike_rank key 1 0 rfl _

/-- A list is written as its entries. -/
theorem OrderItem.alike_allEntries (order : List OrderItem) :
    Alike d (.comma (fragments d order))
      (.comma ((allEntries d order).map (SortToken.entry d))) := by
  induction order with
  | nil => exact .refl _
  | cons o order ih =>
    rw [allEntries, List.flatMap_cons, List.map_append]
    cases order with
    | nil =>
      rw [fragments, fragments, comma_singleton, List.flatMap_nil, List.map_nil, List.append_nil]
      exact o.alike_entries
    | cons o' order =>
      have hentries (o : OrderItem) : (o.entries d).map (SortToken.entry d) ≠ [] := by
        rw [ne_eq, List.map_eq_nil_iff]
        exact o.entries_ne_nil
      have hrest : ((o' :: order).flatMap (entries d)).map (SortToken.entry d) ≠ [] := by
        rw [List.flatMap_cons, List.map_append]
        exact List.append_ne_nil_of_left_ne_nil (hentries o') _
      have hfragments : fragments d (o' :: order) ≠ [] := List.cons_ne_nil _ _
      rw [fragments, comma_cons _ hfragments, comma_append (hentries o) hrest]
      exact o.alike_entries.append (.append (.refl _) ih)

end

/-! ## Lists sort as their keys say -/

/-- The rank that is read. -/
def NullsOrder.rankValue (key : Expr) : NullsOrder → SortValue
  | first => .rank key 0 1
  | last => .rank key 1 0

/-- What is read from the entries of a key. -/
def OrderItem.keys (d : Dialect) : OrderItem → List SortKey
  | ⟨key, dir, none⟩ => [⟨.value key, dir, none⟩]
  | ⟨key, dir, some place⟩ =>
    if d.hasNullsOrdering then [⟨.value key, dir, some place⟩]
    else [⟨place.rankValue key, .asc, none⟩, ⟨.value key, dir, none⟩]

/-- The entries of a key are read as meant. -/
theorem OrderItem.read_entries (d : Dialect) (o : OrderItem) :
    (o.entries d).mapM SortKey.read = some (o.keys d) := by
  obtain ⟨key, dir, nulls⟩ := o
  unfold entries keys
  cases nulls with
  | none => cases dir <;> rfl
  | some place =>
    cases d.hasNullsOrdering <;> cases dir <;> cases place <;> rfl

/-- So are the entries of a whole list. -/
theorem OrderItem.read_allEntries (d : Dialect) (order : List OrderItem) :
    (allEntries d order).mapM SortKey.read = some (order.flatMap (keys d)) := by
  induction order with
  | nil => rfl
  | cons o order ih =>
    rw [allEntries] at ih ⊢
    rw [List.flatMap_cons, List.mapM_append, o.read_entries, ih]
    rfl

/-- Comparisons one behind another decide like the first ones, and where these tie, like the others.
-/
theorem decideFirst_append (xs ys : List Ordering) :
    decideFirst (xs ++ ys) = (decideFirst xs).then (decideFirst ys) := by
  unfold decideFirst
  induction xs with
  | nil => exact Ordering.eq_then.symm
  | cons x xs ih =>
    rw [List.cons_append, List.foldr_cons, List.foldr_cons, ih, Ordering.then_assoc]

section

variable {V : Type} (cmp : V → V → Ordering) (nulls : SortDir → NullsOrder) (r s : Expr → Option V)

/-- What a rank decides: it tells a NULL from what is not NULL. -/
def NullsOrder.compareRanks (place : NullsOrder) : Option V → Option V → Ordering
  | none, some _ => place.compareNull
  | some _, none => place.compareNull.swap
  | _, _ => .eq

/-- A rank compares rows as it is to compare NULL with the rest. -/
theorem SortKey.compare_rankValue (key : Expr) (place : NullsOrder) :
    compare cmp nulls r s ⟨place.rankValue key, .asc, none⟩ =
      place.compareRanks (r key) (s key) := by
  unfold compare
  cases place with
  | first => cases hr : r key <;> cases hs : s key <;> simp [NullsOrder.rankValue, hr, hs] <;> rfl
  | last => cases hr : r key <;> cases hs : s key <;> simp [NullsOrder.rankValue, hr, hs] <;> rfl

/-- With a rank in front NULL is where the rank puts it, and not where it would be without. -/
theorem compareRanks_then (place other : NullsOrder) (dir : SortDir) (a b : Option V) :
    (place.compareRanks a b).then (compareNullable cmp other dir a b) =
      compareNullable cmp place dir a b := by
  cases a with
  | none =>
    cases b with
    | none => rfl
    | some b => cases place <;> rfl
  | some a =>
    cases b with
    | none => cases place <;> rfl
    | some b => rfl

/-- Whatever a dialect writes for a key, it decides as the key says. -/
theorem OrderItem.decideFirst_keys (d : Dialect) (o : OrderItem) :
    decideFirst ((o.keys d).map (SortKey.compare cmp nulls r s)) = o.compare cmp nulls r s := by
  obtain ⟨key, dir, placed⟩ := o
  unfold compare decideFirst
  cases placed with
  | none => exact Ordering.then_eq
  | some place =>
    by_cases h : d.hasNullsOrdering
    · rw [keys, if_pos h]
      exact Ordering.then_eq
    · rw [keys, if_neg h, List.map_cons, List.map_singleton, List.foldr_cons,
        List.foldr_cons, List.foldr_nil, Ordering.then_eq, SortKey.compare_rankValue]
      exact compareRanks_then cmp place (nulls dir) dir (r key) (s key)

/-- **A written list compares rows as its keys do.** -/
theorem OrderItem.compareRows_allEntries (d : Dialect) (order : List OrderItem) :
    SortToken.compareRows cmp nulls r s (allEntries d order) =
      some (compareRows cmp nulls r s order) := by
  have hkeys : decideFirst ((order.flatMap (keys d)).map (SortKey.compare cmp nulls r s)) =
      compareRows cmp nulls r s order := by
    induction order with
    | nil => rfl
    | cons o order ih =>
      rw [List.flatMap_cons, List.map_append, decideFirst_append, o.decideFirst_keys, ih]
      rfl
  rw [SortToken.compareRows, read_allEntries, Option.map_some, hkeys]

/-- Where the engine puts NULL matters only for keys without a place. -/
theorem OrderItem.compareRows_congr {nulls' : SortDir → NullsOrder} {order : List OrderItem}
    (h : ∀ o ∈ order, o.nulls = none → nulls o.dir = nulls' o.dir) :
    compareRows cmp nulls r s order = compareRows cmp nulls' r s order := by
  unfold compareRows
  congr 1
  refine List.map_congr_left fun o ho => ?_
  unfold compare
  cases hplaced : o.nulls with
  | none => rw [Option.getD_none, Option.getD_none, h o ho hplaced]
  | some place => rfl

end

/-! ## Where lists stand -/

/-- In a query the list stands behind the groups and in front of the number of rows. -/
theorem Select.fragment_around_order (d : Dialect) (q : Select) {order : List OrderItem}
    (h : order ≠ []) :
    Select.fragment d { q with order := order } =
      Clause.fragments d q [.select, .source, .joins, .condition, .groups, .having] ++
        (words [" ORDER BY "] ++ .comma (OrderItem.fragments d order)) ++
        Clause.fragments d q [.pagination, .lock] := by
  cases order with
  | nil => exact absurd rfl h
  | cons o order =>
    have hsplit : Clause.all =
        [.select, .source, .joins, .condition, .groups, .having] ++
          ([.order] ++ [.pagination, .lock]) := rfl
    rw [Clause.fragment_eq_fragments, hsplit, Clause.fragments_append, Clause.fragments_append,
      ← List.append_assoc]
    have horder : Clause.fragments d { q with order := o :: order } [.order] =
        words [" ORDER BY "] ++ .comma (OrderItem.fragments d (o :: order)) := List.append_nil _
    rw [horder]
    rfl

/-- In a window it stands between the partition and the frame. -/
theorem Window.fragment_around_order (d : Dialect) (w : Window) {order : List OrderItem}
    (h : order ≠ []) :
    Window.fragment d { w with order := order } =
      (if w.partitionKeys.isEmpty then [] else
        words ["PARTITION BY "] ++ .comma (Expr.fragments d w.partitionKeys) ++ words [" "]) ++
        (words ["ORDER BY "] ++ .comma (OrderItem.fragments d order)) ++
          words (w.frame.toList.flatMap fun f => [" ", f.text d]) := by
  obtain ⟨partitionKeys, _, frame⟩ := w
  cases order with
  | nil => exact absurd rfl h
  | cons o order =>
    cases partitionKeys <;> cases frame <;>
      simp [fragment, windowParts, listClause, Expr.fragments, OrderItem.fragments, Fragment.sepBy,
        words, List.intercalate_cons_cons]

/-- **Rows are sorted alike wherever NULL has no place of its own.**  A sort list is written as
entries that every reader compares rows by as the keys say, whether the dialect has words for the
place of NULL or writes a rank in front of the key instead.  It takes nothing from the engine but
where it puts NULL in keys without a place, and for those one entry is written in any dialect.
So it is in a query and in a window. -/
theorem OrderItem.sorted_alike (order : List OrderItem) :
    (∀ d, Fragment.Alike d (.comma (fragments d order))
      (.comma ((allEntries d order).map (SortToken.entry d)))) ∧
    (∀ (V : Type) (cmp : V → V → Ordering) (nulls : SortDir → NullsOrder) (r s : Expr → Option V),
      (∀ d, SortToken.compareRows cmp nulls r s (allEntries d order) =
        some (compareRows cmp nulls r s order)) ∧
      ∀ nulls' : SortDir → NullsOrder,
        (∀ o ∈ order, o.nulls = none → nulls o.dir = nulls' o.dir) →
          compareRows cmp nulls r s order = compareRows cmp nulls' r s order) ∧
    (∀ d, ∀ o ∈ order, o.nulls = none → o.entries d = [[.key o.key, o.dir.token]]) ∧
    ∀ d, order ≠ [] →
      (∀ q : Select, Select.fragment d { q with order := order } =
        Select.Clause.fragments d q [.select, .source, .joins, .condition, .groups, .having] ++
          (words [" ORDER BY "] ++ .comma (fragments d order)) ++
          Select.Clause.fragments d q [.pagination, .lock]) ∧
      ∀ w : Window, Window.fragment d { w with order := order } =
        (if w.partitionKeys.isEmpty then [] else
          words ["PARTITION BY "] ++ .comma (Expr.fragments d w.partitionKeys) ++ words [" "]) ++
          (words ["ORDER BY "] ++ .comma (fragments d order)) ++
          words (w.frame.toList.flatMap fun f => [" ", f.text d]) := by
  refine ⟨fun d => alike_allEntries order, fun V cmp nulls r s => ⟨fun d => ?_, fun nulls' h => ?_⟩,
    fun d o _ hplain => ?_, fun d h => ⟨fun q => q.fragment_around_order d h,
      fun w => w.fragment_around_order d h⟩⟩
  · exact compareRows_allEntries cmp nulls r s d order
  · exact compareRows_congr cmp nulls r s h
  · obtain ⟨key, dir, nulls⟩ := o
    obtain rfl : nulls = none := hplain
    rfl

/-- The highest score first and those without one last, and alike scores by name. -/
def scoreThenName : List OrderItem :=
  [⟨.column ⟨"users", "score"⟩, .desc, some .last⟩, ⟨.column ⟨"users", "name"⟩, .asc, none⟩]

/-- With the highest score first and NULLs last, an unscored row comes behind a scored one on either
engine. -/
theorem OrderItem.sorted_alike_scoreThenName :
    let users : Select := { source := some (.table { name := "users" }) }
    let nullsFirst (_ : SortDir) : NullsOrder := .first
    let nullsLeast (dir : SortDir) : NullsOrder := match dir with | .asc => .first | .desc => .last
    let unscored (_ : Expr) : Option Nat := none
    let scored (_ : Expr) : Option Nat := some 1
    scoreThenName ≠ [] ∧
    (∀ o ∈ scoreThenName, o.nulls = none → nullsFirst o.dir = nullsLeast o.dir) ∧
    ((Select.fragment .mysql { users with order := scoreThenName }).prepare .mysql).sql =
      "SELECT * FROM `users` ORDER BY CASE WHEN `users`.`score` IS NULL THEN 1 ELSE 0 END, " ++
        "`users`.`score` DESC, `users`.`name` ASC" ∧
    SortToken.compareRows Ord.compare nullsLeast unscored scored
      (allEntries .mysql scoreThenName) = some .gt ∧
    SortToken.compareRows Ord.compare nullsFirst unscored scored
      (allEntries .postgres scoreThenName) = some .gt ∧
    OrderItem.entries .mysql ⟨.column ⟨"users", "name"⟩, .asc, none⟩ =
      [[.key (.column ⟨"users", "name"⟩), .ascending]] := by
  intro users nullsFirst nullsLeast unscored scored
  obtain ⟨-, hcompare, hplain, hplaces⟩ := sorted_alike scoreThenName
  have hne : scoreThenName ≠ [] := List.cons_ne_nil _ _
  have hengines : ∀ o ∈ scoreThenName, o.nulls = none → nullsFirst o.dir = nullsLeast o.dir := by
    simp [scoreThenName, nullsFirst, nullsLeast]
  obtain ⟨hlist, hengine⟩ := hcompare Nat Ord.compare nullsFirst unscored scored
  refine ⟨hne, hengines, ?_, ?_, (hlist .postgres).trans rfl,
    hplain .mysql _ (by simp [scoreThenName]) rfl⟩
  · rw [(hplaces .mysql hne).1 users]
    decide +kernel
  · rw [(hcompare Nat Ord.compare nullsLeast unscored scored).1, ← hengine nullsLeast hengines]
    rfl

end BoundSql
