import BoundSql.Proofs.Template
import BoundSql.Statement.Basic

/-!
# Statements with their values spelled out

What a statement says if there were no parameters at all: every value is spelled out, by a
function `g` from values to texts, at the place where the statement has it.  Nothing here knows of
placeholders, numbers or lists of parameters; the texts of the parts are put together as the
grammar has it.  So this is what a numbered text is to be compared with.

Main statement: `Part.written_in_place`.  Writing any part of a statement appends values to the
parameters and gives a text whose segments depend neither on the parameters that were there
before nor on how placeholders are spelled, and the same segments with the values spelled out
between them are the part as it is defined here.  So each placeholder stands where its value does.

The comparison is one induction over everything that a statement is made of
(`Expr.spell_fragment` and what follows it); a fragment is spelled by a homomorphism, so each case
is the equations of the two definitions.
-/

namespace BoundSql

/-! ## Parts without subqueries -/

/-- A text in parentheses if the condition holds. -/
def parensIf (condition : Bool) (text : String) : String :=
  if condition then inParens text else text

/-- A keyword and a list with commas, or nothing if the list is empty. -/
def listText (keyword : String) (texts : List String) : String :=
  if texts.isEmpty then "" else keyword ++ ", ".intercalate texts

/-- A sort key, given the text of its expression. -/
def sortKeyText (d : Dialect) (key : String) (dir : SortDir) : Option NullsOrder → String
  | none => key ++ " " ++ dir.keyword
  | some place =>
    if d.hasNullsOrdering then key ++ " " ++ dir.keyword ++ " " ++ place.keywords
    else match place with
      | .first => "CASE WHEN " ++ key ++ " IS NULL THEN 0 ELSE 1 END, " ++ key ++ " " ++ dir.keyword
      | .last => "CASE WHEN " ++ key ++ " IS NULL THEN 1 ELSE 0 END, " ++ key ++ " " ++ dir.keyword

/-- A match against a pattern, given both texts. -/
def likeText (d : Dialect) (e pattern : String) (negated caseless : Bool) : String :=
  if caseless && !d.hasILike then
    "LOWER(" ++ e ++ ") " ++ notIf negated ++ "LIKE LOWER(" ++ pattern ++ ")"
  else e ++ " " ++ notIf negated ++ (if caseless then "ILIKE " else "LIKE ") ++ pattern

/-- Conditions with a word between them, each with whether it needs parentheses beside others.
One alone needs none. -/
def joinText (word empty : String) : List (Bool × String) → String
  | [] => empty
  | [t] => t.2
  | ts => word.intercalate (ts.map fun t => parensIf t.1 t.2)

/-- The parts of a window that are there. -/
def windowText (d : Dialect) (partitionKeys order : List String) (frame : Option Frame) : String :=
  " ".intercalate <|
    (if partitionKeys.isEmpty then [] else ["PARTITION BY " ++ ", ".intercalate partitionKeys]) ++
    (if order.isEmpty then [] else ["ORDER BY " ++ ", ".intercalate order]) ++
    frame.toList.map (Frame.text d)

/-! ## Everything else -/

section

variable (d : Dialect) (g : Value → String)

mutual

/-- An expression with its values spelled out. -/
def Expr.spell : Expr → String
  | .column c => d.quote c.table ++ "." ++ d.quote c.name
  | .literal v => g v
  | .raw t => t.spell g
  | .star => "*"
  | .call function args distinct =>
    function ++ "(" ++ (if distinct then "DISTINCT " else "") ++
      ", ".intercalate (Expr.spells args) ++ ")"
  | .binary left op right =>
    parensIf left.isBinary left.spell ++ " " ++ op.sign ++ " " ++
      parensIf right.isBinary right.spell
  | .aliased e name => e.spell ++ " AS " ++ d.quote name
  | .case branches otherwise =>
    "CASE" ++ String.join (Branch.spells branches) ++ Expr.spellElse otherwise ++ " END"
  | .coalesce args => "COALESCE(" ++ ", ".intercalate (Expr.spells args) ++ ")"
  | .subquery q => inParens q.spell
  | .window function w => function.spell ++ " OVER " ++ inParens w.spell
  | .now => d.currentTimestamp
  | .truth p => inParens p.spell

/-- Expressions with their values spelled out. -/
def Expr.spells : List Expr → List String
  | [] => []
  | e :: es => e.spell :: Expr.spells es

/-- The last part of a `CASE` with its values spelled out. -/
def Expr.spellElse : Option Expr → String
  | none => ""
  | some e => " ELSE " ++ e.spell

/-- A branch with its values spelled out. -/
def Branch.spell : Branch → String
  | ⟨condition, value⟩ => " WHEN " ++ condition.spell ++ " THEN " ++ value.spell

/-- Branches with their values spelled out. -/
def Branch.spells : List Branch → List String
  | [] => []
  | b :: bs => b.spell :: Branch.spells bs

/-- A condition with its values spelled out. -/
def Predicate.spell : Predicate → String
  | .compare left op right => left.spell ++ " " ++ op.sign ++ " " ++ right.spell
  | .isNull e negated => e.spell ++ if negated then " IS NOT NULL" else " IS NULL"
  | .inList e values negated =>
    if values.isEmpty then if negated then "1 = 1" else "1 = 0"
    else e.spell ++ " " ++ notIf negated ++ "IN (" ++ ", ".intercalate (Expr.spells values) ++ ")"
  | .inQuery e q negated => e.spell ++ " " ++ notIf negated ++ "IN " ++ inParens q.spell
  | .between e low high negated =>
    e.spell ++ " " ++ notIf negated ++ "BETWEEN " ++ low.spell ++ " AND " ++ high.spell
  | .like e pattern negated caseless => likeText d e.spell pattern.spell negated caseless
  | .conj ps => joinText " AND " "1 = 1" (Predicate.spells ps)
  | .disj ps => joinText " OR " "1 = 0" (Predicate.spells ps)
  | .neg p => "NOT " ++ inParens p.spell
  | .existence q negated => notIf negated ++ "EXISTS " ++ inParens q.spell
  | .quantified left op quantifier q =>
    left.spell ++ " " ++ op.sign ++ " " ++ quantifier.keyword ++ " " ++ inParens q.spell
  | .raw t => t.spell g
  | .always => "1 = 1"
  | .never => "1 = 0"

/-- Conditions with their values spelled out, each with whether it needs parentheses. -/
def Predicate.spells : List Predicate → List (Bool × String)
  | [] => []
  | p :: ps => (p.needsGrouping, p.spell) :: Predicate.spells ps

/-- A keyword and a condition with its values spelled out. -/
def Predicate.spellClause (keyword : String) : Option Predicate → String
  | none => ""
  | some p => keyword ++ p.spell

/-- A sort key with its values spelled out. -/
def OrderItem.spell : OrderItem → String
  | ⟨key, dir, nulls⟩ => sortKeyText d key.spell dir nulls

/-- Sort keys with their values spelled out. -/
def OrderItem.spells : List OrderItem → List String
  | [] => []
  | o :: os => o.spell :: OrderItem.spells os

/-- A window with its values spelled out. -/
def Window.spell : Window → String
  | ⟨partitionKeys, order, frame⟩ =>
    windowText d (Expr.spells partitionKeys) (OrderItem.spells order) frame

/-- A source with its values spelled out. -/
def Source.spell : Source → String
  | .table t => d.write t.sourcePhrase
  | .query q name => inParens q.spell ++ " AS " ++ d.quote name

/-- The first source with its values spelled out. -/
def Source.spellClause : Option Source → String
  | none => ""
  | some s => " FROM " ++ s.spell

/-- A join with its values spelled out. -/
def Join.spell : Join → String
  | ⟨kind, target, on⟩ =>
    " " ++ kind.keywords ++ " " ++ target.spell ++ Predicate.spellClause " ON " on

/-- Joins with their values spelled out. -/
def Join.spells : List Join → List String
  | [] => []
  | j :: js => j.spell :: Join.spells js

/-- A query with its values spelled out. -/
def Select.spell : Select → String
  | ⟨distinct, projection, source, joins, condition, groups, having, order, limit, offset,
      forUpdate⟩ =>
    String.join [
      "SELECT " ++ (if distinct then "DISTINCT " else ""),
      if projection.isEmpty then "*" else ", ".intercalate (Expr.spells projection),
      Source.spellClause source,
      String.join (Join.spells joins),
      Predicate.spellClause " WHERE " condition,
      listText " GROUP BY " (Expr.spells groups),
      Predicate.spellClause " HAVING " having,
      listText " ORDER BY " (OrderItem.spells order),
      (d.limitOffset limit offset).elim "" fun clause => " " ++ clause,
      if forUpdate then " FOR UPDATE" else ""]

end

end

/-! ## Statements -/

section

variable (d : Dialect) (g : Value → String)

/-- An insertion with its values spelled out. -/
def Insert.spell : Insert → String
  | ⟨table, assignments, conflict, returning⟩ =>
    String.join [
      "INSERT INTO ", d.quote table.name, " (", d.quoteList assignments.names, ") VALUES ",
      inParens (", ".intercalate (Expr.spells d g assignments.values)),
      d.write (Conflict.clause d assignments.names conflict), d.write (Returning.clause returning)]

/-- An assignment with its value spelled out. -/
def Update.spellAssignment (entry : ColumnRef × Expr) : String :=
  d.quote entry.1.name ++ " = " ++ entry.2.spell d g

/-- An update with its values spelled out. -/
def Update.spell : Update → String
  | ⟨table, assignments, condition, returning⟩ =>
    String.join [
      "UPDATE ", d.write table.sourcePhrase, " SET ",
      ", ".intercalate (assignments.entries.map (Update.spellAssignment d g)),
      Predicate.spellClause d g " WHERE " condition, d.write (Returning.clause returning)]

/-- A deletion with its values spelled out. -/
def Delete.spell : Delete → String
  | ⟨table, condition, returning⟩ =>
    String.join [
      "DELETE FROM ", d.write table.sourcePhrase,
      Predicate.spellClause d g " WHERE " condition, d.write (Returning.clause returning)]

/-- A statement with its values spelled out. -/
def Statement.spell : Statement → String
  | .select q => q.spell d g
  | .insert i => i.spell d g
  | .update u => u.spell d g
  | .delete x => x.spell d g

end

/-! ## Fragments spell the same -/

section

variable (d : Dialect) (g : Value → String)

/-- A list behind its keyword is spelled like its entries. -/
theorem spell_listClause (keyword : String) (fs : List Fragment) :
    (listClause keyword fs).spell d g = listText keyword (fs.map (Fragment.spell d g)) := by
  cases fs with
  | nil => rfl
  | cons f fs => simp [listClause, listText]

/-- A sort key is spelled like its expression, which may stand in it twice. -/
theorem spell_sortKey (key : Fragment) (dir : SortDir) (nulls : Option NullsOrder) :
    (sortKey d key dir nulls).spell d g = sortKeyText d (key.spell d g) dir nulls := by
  rcases nulls with _ | place
  · simp [sortKey, sortKeyText, String.append_assoc]
  · by_cases h : d.hasNullsOrdering
    · simp [sortKey, sortKeyText, h, String.append_assoc]
    · cases place <;> simp [sortKey, sortKeyText, h, String.append_assoc]

/-- A comparison by a pattern is spelled like its operands. -/
theorem spell_likeFragment (e pattern : Fragment) (negated caseless : Bool) :
    (likeFragment d e pattern negated caseless).spell d g =
      likeText d (e.spell d g) (pattern.spell d g) negated caseless := by
  unfold likeFragment likeText
  split <;> simp [String.append_assoc]

/-- A window is spelled like the keys in it. -/
theorem spell_windowParts (partitionKeys order : List Fragment) (frame : Option Frame) :
    (windowParts d partitionKeys order frame).spell d g =
      windowText d (partitionKeys.map (Fragment.spell d g)) (order.map (Fragment.spell d g))
        frame := by
  cases partitionKeys <;> cases order <;> cases frame <;>
    simp [windowParts, windowText, listClause]

/-- An operand has its parentheses around what is spelled. -/
theorem Operand.spell_grouped (o : Operand) :
    o.grouped.spell d g = parensIf o.needsGrouping (o.fragment.spell d g) := by
  cases h : o.needsGrouping <;> simp [Operand.grouped, parensIf, h]

/-- Operands are joined as their texts are. -/
theorem Operand.spell_join (word empty : String) (os : List Operand) :
    (Operand.join word empty os).spell d g =
      joinText word empty (os.map fun o => (o.needsGrouping, o.fragment.spell d g)) := by
  match os with
  | [] => simp [Operand.join, joinText]
  | [o] => simp [Operand.join, joinText]
  | o :: o' :: os => simp [Operand.join, joinText, Operand.spell_grouped, Function.comp_def]

/-- An operand of an operator has its parentheses around what is spelled. -/
theorem Expr.spell_operand (e : Expr) (f : Fragment) :
    (e.operand f).spell d g = parensIf e.isBinary (f.spell d g) := by
  cases h : e.isBinary <;> simp [Expr.operand, parensIf, h]

mutual

/-- The fragment of an expression spells the expression. -/
theorem Expr.spell_fragment (e : Expr) : (e.fragment d).spell d g = e.spell d g := by
  cases e with
  | column c =>
    simp [Expr.fragment, Expr.spell, ColumnRef.phrase, Dialect.write, Phrase.write,
      String.append_assoc]
  | literal v => simp [Expr.fragment, Expr.spell]
  | raw t => simp [Expr.fragment, Expr.spell, Template.spell_fragment]
  | star => simp [Expr.fragment, Expr.spell]
  | call function args distinct =>
    simp [Expr.fragment, Expr.spell, Expr.spell_fragments args, String.append_assoc]
  | binary left op right =>
    simp [Expr.fragment, Expr.spell, Expr.spell_operand, left.spell_fragment,
      right.spell_fragment, String.append_assoc]
  | aliased e name => simp [Expr.fragment, Expr.spell, e.spell_fragment, String.append_assoc]
  | case branches otherwise =>
    simp [Expr.fragment, Expr.spell, Branch.spell_fragments branches,
      Expr.spell_elseFragment otherwise, String.append_assoc]
  | coalesce args =>
    simp [Expr.fragment, Expr.spell, Expr.spell_fragments args, String.append_assoc]
  | subquery q => simp [Expr.fragment, Expr.spell, q.spell_fragment]
  | window function w =>
    simp [Expr.fragment, Expr.spell, function.spell_fragment, w.spell_fragment,
      String.append_assoc]
  | now => simp [Expr.fragment, Expr.spell]
  | truth p => simp [Expr.fragment, Expr.spell, p.spell_fragment]

/-- The fragments of expressions spell the expressions. -/
theorem Expr.spell_fragments (es : List Expr) :
    (Expr.fragments d es).map (Fragment.spell d g) = Expr.spells d g es := by
  cases es with
  | nil => rfl
  | cons e es => simp [Expr.fragments, Expr.spells, e.spell_fragment, Expr.spell_fragments es]

/-- The fragment behind `ELSE` spells its expression. -/
theorem Expr.spell_elseFragment (otherwise : Option Expr) :
    (Expr.elseFragment d otherwise).spell d g = Expr.spellElse d g otherwise := by
  cases otherwise with
  | none => rfl
  | some e => simp [Expr.elseFragment, Expr.spellElse, e.spell_fragment]

/-- The fragment of a branch spells the branch. -/
theorem Branch.spell_fragment (b : Branch) : (b.fragment d).spell d g = b.spell d g := by
  cases b with
  | mk condition value =>
    simp [Branch.fragment, Branch.spell, condition.spell_fragment, value.spell_fragment,
      String.append_assoc]

/-- The fragments of branches spell the branches. -/
theorem Branch.spell_fragments (bs : List Branch) :
    (Branch.fragments d bs).map (Fragment.spell d g) = Branch.spells d g bs := by
  cases bs with
  | nil => rfl
  | cons b bs =>
    simp [Branch.fragments, Branch.spells, b.spell_fragment, Branch.spell_fragments bs]

/-- The fragment of a condition spells the condition. -/
theorem Predicate.spell_fragment (p : Predicate) : (p.fragment d).spell d g = p.spell d g := by
  cases p with
  | compare left op right =>
    simp [Predicate.fragment, Predicate.spell, left.spell_fragment, right.spell_fragment,
      String.append_assoc]
  | isNull e negated => simp [Predicate.fragment, Predicate.spell, e.spell_fragment]
  | inList e values negated =>
    cases h : values.isEmpty <;>
      simp [Predicate.fragment, Predicate.spell, h, e.spell_fragment,
        Expr.spell_fragments values, String.append_assoc]
  | inQuery e q negated =>
    simp [Predicate.fragment, Predicate.spell, e.spell_fragment, q.spell_fragment,
      String.append_assoc]
  | between e low high negated =>
    simp [Predicate.fragment, Predicate.spell, e.spell_fragment, low.spell_fragment,
      high.spell_fragment, String.append_assoc]
  | like e pattern negated caseless =>
    simp [Predicate.fragment, Predicate.spell, spell_likeFragment, e.spell_fragment,
      pattern.spell_fragment]
  | conj ps =>
    simp [Predicate.fragment, Predicate.spell, Operand.spell_join, Predicate.spell_operands ps]
  | disj ps =>
    simp [Predicate.fragment, Predicate.spell, Operand.spell_join, Predicate.spell_operands ps]
  | neg p => simp [Predicate.fragment, Predicate.spell, p.spell_fragment]
  | existence q negated =>
    simp [Predicate.fragment, Predicate.spell, q.spell_fragment, String.append_assoc]
  | quantified left op quantifier q =>
    simp [Predicate.fragment, Predicate.spell, left.spell_fragment, q.spell_fragment,
      String.append_assoc]
  | raw t => simp [Predicate.fragment, Predicate.spell, Template.spell_fragment]
  | always => simp [Predicate.fragment, Predicate.spell]
  | never => simp [Predicate.fragment, Predicate.spell]

/-- The operands spell the conditions, and are grouped where these are. -/
theorem Predicate.spell_operands (ps : List Predicate) :
    (Predicate.operands d ps).map (fun o => (o.needsGrouping, o.fragment.spell d g)) =
      Predicate.spells d g ps := by
  cases ps with
  | nil => rfl
  | cons p ps =>
    simp [Predicate.operands, Predicate.spells, p.spell_fragment, Predicate.spell_operands ps]

/-- The fragment of a clause with a condition spells the clause. -/
theorem Predicate.spell_clause (keyword : String) (p : Option Predicate) :
    (Predicate.clause d keyword p).spell d g = Predicate.spellClause d g keyword p := by
  cases p with
  | none => rfl
  | some p => simp [Predicate.clause, Predicate.spellClause, p.spell_fragment]

/-- The fragment of a sort key spells the sort key. -/
theorem OrderItem.spell_fragment (o : OrderItem) : (o.fragment d).spell d g = o.spell d g := by
  cases o with
  | mk key dir nulls =>
    simp [OrderItem.fragment, OrderItem.spell, spell_sortKey, key.spell_fragment]

/-- The fragments of sort keys spell the sort keys. -/
theorem OrderItem.spell_fragments (os : List OrderItem) :
    (OrderItem.fragments d os).map (Fragment.spell d g) = OrderItem.spells d g os := by
  cases os with
  | nil => rfl
  | cons o os =>
    simp [OrderItem.fragments, OrderItem.spells, o.spell_fragment, OrderItem.spell_fragments os]

/-- The fragment of a window spells the window. -/
theorem Window.spell_fragment (w : Window) : (w.fragment d).spell d g = w.spell d g := by
  cases w with
  | mk partitionKeys order frame =>
    simp [Window.fragment, Window.spell, spell_windowParts, Expr.spell_fragments partitionKeys,
      OrderItem.spell_fragments order]

/-- The fragment of a source spells the source. -/
theorem Source.spell_fragment (s : Source) : (s.fragment d).spell d g = s.spell d g := by
  cases s with
  | table t => simp [Source.fragment, Source.spell]
  | query q name => simp [Source.fragment, Source.spell, q.spell_fragment, String.append_assoc]

/-- The fragment of a clause with a source spells the clause. -/
theorem Source.spell_clause (s : Option Source) :
    (Source.clause d s).spell d g = Source.spellClause d g s := by
  cases s with
  | none => rfl
  | some s => simp [Source.clause, Source.spellClause, s.spell_fragment]

/-- The fragment of a join spells the join. -/
theorem Join.spell_fragment (j : Join) : (j.fragment d).spell d g = j.spell d g := by
  cases j with
  | mk kind target on =>
    simp [Join.fragment, Join.spell, target.spell_fragment, Predicate.spell_clause " ON " on,
      String.append_assoc]

/-- The fragments of joins spell the joins. -/
theorem Join.spell_fragments (js : List Join) :
    (Join.fragments d js).map (Fragment.spell d g) = Join.spells d g js := by
  cases js with
  | nil => rfl
  | cons j js => simp [Join.fragments, Join.spells, j.spell_fragment, Join.spell_fragments js]

/-- The fragment of a query spells the query, clause by clause. -/
theorem Select.spell_fragment (q : Select) : (q.fragment d).spell d g = q.spell d g := by
  cases q with
  | mk distinct projection source joins condition groups having order limit offset forUpdate =>
    have hs : Fragment.spell d g ["SELECT ", if distinct then "DISTINCT " else ""] =
        "SELECT " ++ if distinct then "DISTINCT " else "" := by
      cases distinct <;> rfl
    have hp : Fragment.spell d g
        (if projection.isEmpty then ["*"] else .comma (Expr.fragments d projection)) =
        if projection.isEmpty then "*" else ", ".intercalate (Expr.spells d g projection) := by
      split <;> simp [Expr.spell_fragments projection]
    have hl : Fragment.spell d g
        ((d.limitOffset limit offset).elim [] fun clause => [" ", clause]) =
        (d.limitOffset limit offset).elim "" (" " ++ ·) := by
      cases d.limitOffset limit offset <;> simp
    have hf : Fragment.spell d g (if forUpdate then [" FOR UPDATE"] else []) =
        if forUpdate then " FOR UPDATE" else "" := by
      cases forUpdate <;> rfl
    simp only [Select.fragment, Select.spell, Fragment.spell_concat, List.map_cons, List.map_nil,
      hs, hp, hl, hf, Source.spell_clause source, Join.spell_fragments joins,
      Predicate.spell_clause " WHERE " condition, spell_listClause, Expr.spell_fragments groups,
      Predicate.spell_clause " HAVING " having, OrderItem.spell_fragments order]

end

/-- The fragment of an insertion spells the insertion. -/
theorem Insert.spell_fragment (i : Insert) : (i.fragment d).spell d g = i.spell d g := by
  obtain ⟨table, assignments, conflict, returning⟩ := i
  have ht : Fragment.spell d g (tuple d assignments.values) =
      inParens (", ".intercalate (Expr.spells d g assignments.values)) := by
    rw [tuple, Fragment.spell_parens, Fragment.spell_comma, Expr.spell_fragments]
  have hn : d.write
      (.concat [["INSERT INTO ", .name table.name, " ("], .names assignments.names,
        [") VALUES "]]) =
      String.join ["INSERT INTO ", d.quote table.name, " (", d.quoteList assignments.names,
        ") VALUES "] := by
    simp [Dialect.write, Dialect.quoteList, Phrase.write, Phrase.concat]
  rw [Insert.fragment, insertion, Insert.spell, Fragment.spell_concat]
  simp only [List.map_cons, List.map_nil, Fragment.spell_ofPhrase, Fragment.spell_comma, ht, hn,
    String.intercalate_singleton, String.join_cons, String.join_nil, String.append_assoc,
    String.append_empty]

/-- The fragment of an assignment spells the assignment. -/
theorem Update.spell_assignment (entry : ColumnRef × Expr) :
    (Update.assignment d entry).spell d g = Update.spellAssignment d g entry := by
  simp [Update.assignment, Update.spellAssignment, Expr.spell_fragment, String.append_assoc]

/-- The fragment of an update spells the update. -/
theorem Update.spell_fragment (u : Update) : (u.fragment d).spell d g = u.spell d g := by
  obtain ⟨table, assignments, condition, returning⟩ := u
  have ha : (assignments.entries.map (Update.assignment d)).map (Fragment.spell d g) =
      assignments.entries.map (Update.spellAssignment d g) := by
    rw [List.map_map]
    exact List.map_congr_left fun entry _ => Update.spell_assignment d g entry
  rw [Update.fragment, Update.spell, Fragment.spell_concat]
  simp only [List.map_cons, List.map_nil, Fragment.spell_word, Fragment.spell_nil,
    Word.write_verbatim, String.append_empty, Fragment.spell_ofPhrase, Fragment.spell_comma, ha,
    Predicate.spell_clause]

/-- The fragment of a deletion spells the deletion. -/
theorem Delete.spell_fragment (x : Delete) : (x.fragment d).spell d g = x.spell d g := by
  obtain ⟨table, condition, returning⟩ := x
  rw [Delete.fragment, Delete.spell, Fragment.spell_concat]
  simp only [List.map_cons, List.map_nil, Fragment.spell_word, Fragment.spell_nil,
    Word.write_verbatim, String.append_empty, Fragment.spell_ofPhrase, Predicate.spell_clause]

/-- The fragment of a statement spells the statement. -/
theorem Statement.spell_fragment (s : Statement) : (s.fragment d).spell d g = s.spell d g := by
  cases s with
  | select q => exact q.spell_fragment d g
  | insert i => exact i.spell_fragment d g
  | update u => exact u.spell_fragment d g
  | delete x => exact x.spell_fragment d g

end

/-! ## Quotes and placeholders are left open

No fragment depends on how names are quoted and placeholders are spelled: that is asked only when
it is written.  Each function below reads the other fields of a dialect at most, so replacing these
two leaves it the function that it was. -/

section

variable (d : Dialect) (q : String → String) (f : Nat → String)

/-- How names and placeholders are spelled is no concern of the fragment of an expression. -/
theorem Expr.fragment_respelled :
    Expr.fragment { d with quote := q, placeholder := f } = Expr.fragment d := by
  delta Expr.fragment; rfl

/-- The same for expressions in a list. -/
theorem Expr.fragments_respelled :
    Expr.fragments { d with quote := q, placeholder := f } = Expr.fragments d := by
  delta Expr.fragments; rfl

/-- The same for a condition. -/
theorem Predicate.fragment_respelled :
    Predicate.fragment { d with quote := q, placeholder := f } = Predicate.fragment d := by
  delta Predicate.fragment; rfl

/-- The same for a clause with a condition. -/
theorem Predicate.clause_respelled :
    Predicate.clause { d with quote := q, placeholder := f } = Predicate.clause d := by
  delta Predicate.clause; rfl

/-- The same for a sort key. -/
theorem OrderItem.fragment_respelled :
    OrderItem.fragment { d with quote := q, placeholder := f } = OrderItem.fragment d := by
  delta OrderItem.fragment; rfl

/-- The same for a window. -/
theorem Window.fragment_respelled :
    Window.fragment { d with quote := q, placeholder := f } = Window.fragment d := by
  delta Window.fragment; rfl

/-- The same for a query. -/
theorem Select.fragment_respelled :
    Select.fragment { d with quote := q, placeholder := f } = Select.fragment d := by
  delta Select.fragment; rfl

/-- The same for the values of a row. -/
theorem tuple_respelled : tuple { d with quote := q, placeholder := f } = tuple d := by
  funext values
  rw [tuple, tuple, Expr.fragments_respelled]

/-- The same for a statement, so its fragment can be written with any placeholders. -/
theorem Statement.fragment_respelled (s : Statement) :
    s.fragment { d with quote := q, placeholder := f } = s.fragment d := by
  cases s with
  | select r => exact congrFun (Select.fragment_respelled d q f) r
  | insert i =>
    simp only [Statement.fragment, Insert.fragment, tuple_respelled]
    rfl
  | update u =>
    have ha : Update.assignment { d with quote := q, placeholder := f } = Update.assignment d := by
      funext entry
      rw [Update.assignment, Update.assignment, Expr.fragment_respelled]
    simp only [Statement.fragment, Update.fragment, ha, Predicate.clause_respelled]
  | delete x =>
    simp only [Statement.fragment, Delete.fragment, Predicate.clause_respelled]

end

/-! ## Parts of statements -/

/-- Whatever can be written: a statement, or a part that can be put into one. -/
inductive Part where
  | expr (e : Expr)
  | predicate (p : Predicate)
  | orderItem (o : OrderItem)
  | window (w : Window)
  | statement (s : Statement)

namespace Part

/-- The fragment of a part. -/
def fragment (d : Dialect) : Part → Fragment
  | expr e => e.fragment d
  | predicate p => p.fragment d
  | orderItem o => o.fragment d
  | window w => w.fragment d
  | statement s => s.fragment d

/-- A part with its values spelled out. -/
def spell (d : Dialect) (g : Value → String) : Part → String
  | expr e => e.spell d g
  | predicate p => p.spell d g
  | orderItem o => o.spell d g
  | window w => w.spell d g
  | statement s => s.spell d g

/-- The fragment of a part spells the part. -/
theorem spell_fragment (d : Dialect) (g : Value → String) (t : Part) :
    (t.fragment d).spell d g = t.spell d g := by
  cases t with
  | expr e => exact e.spell_fragment d g
  | predicate p => exact p.spell_fragment d g
  | orderItem o => exact o.spell_fragment d g
  | window w => exact w.spell_fragment d g
  | statement s => exact s.spell_fragment d g

/-- No fragment depends on how placeholders are spelled: that is asked only when it is written. -/
theorem fragment_placeholder (d : Dialect) (f : Nat → String) (t : Part) :
    t.fragment { d with placeholder := f } = t.fragment d := by
  cases t with
  | expr e => exact congrFun (Expr.fragment_respelled d d.quote f) e
  | predicate p => exact congrFun (Predicate.fragment_respelled d d.quote f) p
  | orderItem o => exact congrFun (OrderItem.fragment_respelled d d.quote f) o
  | window w => exact congrFun (Window.fragment_respelled d d.quote f) w
  | statement s => exact s.fragment_respelled d d.quote f

/-- **Values stand where they are bound.**  Writing a part leaves the parameters alone that are
there already and appends `values`.  Its text is made of `segments` that depend neither on those
parameters nor on how placeholders are spelled, with the placeholders of the appended values
between them, numbered one after another; and the same segments with the values spelled out
between them are the part with its values spelled out. -/
theorem written_in_place (d : Dialect) (t : Part) :
    ∃ (values : List Value) (segments : List String),
      segments.length = values.length + 1 ∧
      (∀ (f : Nat → String) (params : Array Value),
        let d' := { d with placeholder := f }
        let draft := (t.fragment d').write d' params
        draft.params.toList = params.toList ++ values ∧
        draft.sql = weave segments ((List.range' (params.size + 1) values.length).map f)) ∧
      ∀ g : Value → String, t.spell d g = weave segments (values.map g) := by
  refine ⟨(t.fragment d).values, (t.fragment d).segments d.quote,
    Fragment.length_segments d.quote (t.fragment d), ?_, ?_⟩
  · intro f params d' draft
    have hd : draft = (t.fragment d).write d' params := by
      rw [← fragment_placeholder d f t]
    rw [hd]
    refine ⟨Fragment.params_write d' params (t.fragment d), ?_⟩
    rw [Fragment.sql_write, Fragment.textFrom_eq_weave]
  · intro g
    rw [← spell_fragment, Fragment.spell_eq_weave]

end Part

end BoundSql
