import BoundSql.Query.Basic

/-!
# Queries as fragments

Every part of a query becomes a fragment, the parts from left to right, and where a dialect lacks
a feature that can be expressed otherwise the substitute is written instead.

Parentheses go by three rules.  An operand of an operator is put in parentheses if it is itself
an operator between expressions.  An operand of `AND` or `OR` is put in parentheses if its text
may contain an `AND` or `OR` of its own (`Predicate.needsGrouping`).  A condition behind `NOT`,
or used as a value, is always put in parentheses.
-/

namespace BoundSql

/-! ## Parts without subqueries -/

/-- The text of a frame.  Where groups of peers cannot be counted, rows are. -/
def Frame.text (d : Dialect) (f : Frame) : String :=
  let kind := match f.kind with
    | .rows => "ROWS"
    | .range => "RANGE"
    | .groups => if d.hasGroupsFrame then "GROUPS" else "ROWS"
  match f.stop with
  | none => kind ++ " " ++ f.start.text
  | some stop => kind ++ " BETWEEN " ++ f.start.text ++ " AND " ++ stop.text

/-- `NOT ` if the condition is negated. -/
def notIf (negated : Bool) : String := if negated then "NOT " else ""

/-! ## Conditions joined by `AND` or `OR` -/

mutual

/-- The text of the condition may have an `AND` or `OR` outside parentheses.  Where only one
condition is joined, the text is that condition's. -/
def Predicate.needsGrouping : Predicate → Bool
  | .conj ps | .disj ps => Predicate.groupNeedsGrouping ps
  | .raw _ => true
  | _ => false

/-- The same for conditions joined by either word. -/
def Predicate.groupNeedsGrouping : List Predicate → Bool
  | [] => false
  | [p] => p.needsGrouping
  | _ :: _ :: _ => true

end

/-- A condition as an operand: its fragment, and whether it needs grouping. -/
structure Operand where
  fragment : Fragment
  needsGrouping : Bool

/-- An operand beside others. -/
def Operand.grouped (o : Operand) : Fragment :=
  if o.needsGrouping then o.fragment.parens else o.fragment

/-- Operands with a word between them.  One operand alone stands as it is; `empty` stands for
none. -/
def Operand.join (word empty : String) : List Operand → Fragment
  | [] => [empty]
  | [o] => o.fragment
  | os => Fragment.sepBy word (os.map grouped)

/-! ## Clauses -/

/-- A keyword and a list, or nothing if the list is empty. -/
def listClause (keyword : String) (fs : List Fragment) : Fragment :=
  if fs.isEmpty then [] else keyword :: Fragment.comma fs

/-- One key of a sort, given the fragment of its expression.  Where NULL cannot be given a place,
a leading key gives it one: it tells rows with a NULL from the others. -/
def sortKey (d : Dialect) (key : Fragment) (dir : SortDir) (nulls : Option NullsOrder) : Fragment :=
  match nulls with
  | none => .concat [key, [" ", dir.keyword]]
  | some place =>
    if d.hasNullsOrdering then .concat [key, [" ", dir.keyword, " ", place.keywords]]
    else
      let ranks := match place with
        | .first => " IS NULL THEN 0 ELSE 1 END, "
        | .last => " IS NULL THEN 1 ELSE 0 END, "
      .concat [["CASE WHEN "], key, [ranks], key, [" ", dir.keyword]]

/-- A match against a pattern, given both fragments.  Where the case of letters cannot be
ignored, both sides are put into small letters. -/
def likeFragment (d : Dialect) (e pattern : Fragment) (negated caseless : Bool) : Fragment :=
  if caseless && !d.hasILike then
    .concat [["LOWER("], e, [") ", notIf negated, "LIKE LOWER("], pattern, [")"]]
  else
    .concat [e, [" ", notIf negated, if caseless then "ILIKE " else "LIKE "], pattern]

/-- The parts of a window that are there, with blanks between them. -/
def windowParts (d : Dialect) (partitionKeys order : List Fragment) (frame : Option Frame) :
    Fragment :=
  let lists : List Fragment :=
    [listClause "PARTITION BY " partitionKeys, listClause "ORDER BY " order]
  let frames : List Fragment := frame.toList.map fun f => [f.text d]
  Fragment.sepBy " " (lists.filter (fun part => !part.isEmpty) ++ frames)

/-! ## Everything else -/

/-- The expression is an operator between two others. -/
def Expr.isBinary : Expr → Bool
  | .binary .. => true
  | _ => false

/-- An operand of an operator, given its fragment. -/
def Expr.operand (e : Expr) (f : Fragment) : Fragment := if e.isBinary then f.parens else f

mutual

/-- The fragment of an expression. -/
def Expr.fragment (d : Dialect) : Expr → Fragment
  | .column c => .ofPhrase c.phrase
  | .literal v => [.bound v]
  | .raw t => t.fragment
  | .star => ["*"]
  | .call function args distinct =>
    .concat [[function, "(", if distinct then "DISTINCT " else ""],
      .comma (Expr.fragments d args), [")"]]
  | .binary left op right =>
    .concat [left.operand (left.fragment d), [" ", op.sign, " "],
      right.operand (right.fragment d)]
  | .aliased e name => .concat [e.fragment d, [" AS ", Word.name name]]
  | .case branches otherwise =>
    .concat [["CASE"], .concat (Branch.fragments d branches), Expr.elseFragment d otherwise,
      [" END"]]
  | .coalesce args => .concat [["COALESCE("], .comma (Expr.fragments d args), [")"]]
  | .subquery q => (q.fragment d).parens
  | .window function w => .concat [function.fragment d, [" OVER "], (w.fragment d).parens]
  | .now => [d.currentTimestamp]
  | .truth p => (p.fragment d).parens

/-- The fragments of expressions. -/
def Expr.fragments (d : Dialect) : List Expr → List Fragment
  | [] => []
  | e :: es => e.fragment d :: Expr.fragments d es

/-- The last part of a `CASE`, if there is one. -/
def Expr.elseFragment (d : Dialect) : Option Expr → Fragment
  | none => []
  | some e => " ELSE " :: e.fragment d

/-- The fragment of a branch. -/
def Branch.fragment (d : Dialect) : Branch → Fragment
  | ⟨condition, value⟩ => .concat [[" WHEN "], condition.fragment d, [" THEN "], value.fragment d]

/-- The fragments of branches. -/
def Branch.fragments (d : Dialect) : List Branch → List Fragment
  | [] => []
  | b :: bs => b.fragment d :: Branch.fragments d bs

/-- The fragment of a condition.  A list without values needs neither the list nor the
expression: nothing is in it. -/
def Predicate.fragment (d : Dialect) : Predicate → Fragment
  | .compare left op right => .concat [left.fragment d, [" ", op.sign, " "], right.fragment d]
  | .isNull e negated => .concat [e.fragment d, [if negated then " IS NOT NULL" else " IS NULL"]]
  | .inList e values negated =>
    if values.isEmpty then [if negated then "1 = 1" else "1 = 0"]
    else .concat [e.fragment d, [" ", notIf negated, "IN ("], .comma (Expr.fragments d values),
      [")"]]
  | .inQuery e q negated =>
    .concat [e.fragment d, [" ", notIf negated, "IN "], (q.fragment d).parens]
  | .between e low high negated =>
    .concat [e.fragment d, [" ", notIf negated, "BETWEEN "], low.fragment d, [" AND "],
      high.fragment d]
  | .like e pattern negated caseless =>
    likeFragment d (e.fragment d) (pattern.fragment d) negated caseless
  | .conj ps => Operand.join " AND " "1 = 1" (Predicate.operands d ps)
  | .disj ps => Operand.join " OR " "1 = 0" (Predicate.operands d ps)
  | .neg p => "NOT " :: (p.fragment d).parens
  | .existence q negated => .concat [[notIf negated, "EXISTS "], (q.fragment d).parens]
  | .quantified left op quantifier q =>
    .concat [left.fragment d, [" ", op.sign, " ", quantifier.keyword, " "], (q.fragment d).parens]
  | .raw t => t.fragment
  | .always => ["1 = 1"]
  | .never => ["1 = 0"]

/-- Conditions as operands. -/
def Predicate.operands (d : Dialect) : List Predicate → List Operand
  | [] => []
  | p :: ps => ⟨p.fragment d, p.needsGrouping⟩ :: Predicate.operands d ps

/-- A keyword and a condition, or nothing if there is no condition. -/
def Predicate.clause (d : Dialect) (keyword : String) : Option Predicate → Fragment
  | none => []
  | some p => keyword :: p.fragment d

/-- The fragment of a sort key. -/
def OrderItem.fragment (d : Dialect) : OrderItem → Fragment
  | ⟨key, dir, nulls⟩ => sortKey d (key.fragment d) dir nulls

/-- The fragments of sort keys. -/
def OrderItem.fragments (d : Dialect) : List OrderItem → List Fragment
  | [] => []
  | o :: os => o.fragment d :: OrderItem.fragments d os

/-- The fragment of a window, without its parentheses. -/
def Window.fragment (d : Dialect) : Window → Fragment
  | ⟨partitionKeys, order, frame⟩ =>
    windowParts d (Expr.fragments d partitionKeys) (OrderItem.fragments d order) frame

/-- The fragment of a source. -/
def Source.fragment (d : Dialect) : Source → Fragment
  | .table t => .ofPhrase t.sourcePhrase
  | .query q name => .concat [(q.fragment d).parens, [" AS ", Word.name name]]

/-- The first source, if there is one. -/
def Source.clause (d : Dialect) : Option Source → Fragment
  | none => []
  | some s => " FROM " :: s.fragment d

/-- The fragment of a join. -/
def Join.fragment (d : Dialect) : Join → Fragment
  | ⟨kind, target, on⟩ =>
    .concat [[" ", kind.keywords, " "], target.fragment d, Predicate.clause d " ON " on]

/-- The fragments of joins. -/
def Join.fragments (d : Dialect) : List Join → List Fragment
  | [] => []
  | j :: js => j.fragment d :: Join.fragments d js

/-- The fragment of a query: the clauses that are there, in the order of the grammar. -/
def Select.fragment (d : Dialect) : Select → Fragment
  | ⟨distinct, projection, source, joins, condition, groups, having, order, limit, offset,
      forUpdate⟩ =>
    .concat [
      ["SELECT ", if distinct then "DISTINCT " else ""],
      if projection.isEmpty then ["*"] else .comma (Expr.fragments d projection),
      Source.clause d source,
      .concat (Join.fragments d joins),
      Predicate.clause d " WHERE " condition,
      listClause " GROUP BY " (Expr.fragments d groups),
      Predicate.clause d " HAVING " having,
      listClause " ORDER BY " (OrderItem.fragments d order),
      (d.limitOffset limit offset).elim [] fun clause => [" ", clause],
      if forUpdate then [" FOR UPDATE"] else []]

end

end BoundSql
