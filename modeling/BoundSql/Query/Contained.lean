import BoundSql.Query.Basic

/-!
# The queries contained in a query

A query contains itself, the queries that its rows come from and the queries in its expressions
and conditions, and whatever those contain.  They are listed outermost first, and otherwise in
the order in which the parts of a query are checked: projection and groups come before the
sources, and the sources before the conditions and the order.

The list is complete whether or not a part is written: a query inside the expression of an `IN`
over no values is contained as well.
-/

namespace BoundSql

mutual

/-- The queries contained in an expression. -/
def Expr.queries : Expr → List Select
  | .column _ | .literal _ | .raw _ | .star | .now => []
  | .call _ args _ => Expr.queriesOfAll args
  | .binary left _ right => left.queries ++ right.queries
  | .aliased e _ => e.queries
  | .case branches otherwise => Branch.queriesOfAll branches ++ Expr.queriesOfOption otherwise
  | .coalesce args => Expr.queriesOfAll args
  | .subquery q => q.queries
  | .window function w => function.queries ++ w.queries
  | .truth p => p.queries

/-- The queries contained in a list of expressions. -/
def Expr.queriesOfAll : List Expr → List Select
  | [] => []
  | e :: es => e.queries ++ Expr.queriesOfAll es

/-- The queries contained in an optional expression. -/
def Expr.queriesOfOption : Option Expr → List Select
  | none => []
  | some e => e.queries

/-- The queries contained in a condition. -/
def Predicate.queries : Predicate → List Select
  | .compare left _ right => left.queries ++ right.queries
  | .isNull e _ => e.queries
  | .inList e values _ => e.queries ++ Expr.queriesOfAll values
  | .inQuery e q _ => e.queries ++ q.queries
  | .between e low high _ => e.queries ++ (low.queries ++ high.queries)
  | .like e pattern _ _ => e.queries ++ pattern.queries
  | .conj ps | .disj ps => Predicate.queriesOfAll ps
  | .neg p => p.queries
  | .existence q _ => q.queries
  | .quantified left _ _ q => left.queries ++ q.queries
  | .raw _ | .always | .never => []

/-- The queries contained in a list of conditions. -/
def Predicate.queriesOfAll : List Predicate → List Select
  | [] => []
  | p :: ps => p.queries ++ Predicate.queriesOfAll ps

/-- The queries contained in an optional condition. -/
def Predicate.queriesOfOption : Option Predicate → List Select
  | none => []
  | some p => p.queries

/-- The queries contained in a list of branches. -/
def Branch.queriesOfAll : List Branch → List Select
  | [] => []
  | ⟨condition, value⟩ :: bs => condition.queries ++ (value.queries ++ Branch.queriesOfAll bs)

/-- The queries contained in a sort key. -/
def OrderItem.queries : OrderItem → List Select
  | ⟨key, _, _⟩ => key.queries

/-- The queries contained in a list of sort keys. -/
def OrderItem.queriesOfAll : List OrderItem → List Select
  | [] => []
  | o :: os => o.queries ++ OrderItem.queriesOfAll os

/-- The queries contained in a window. -/
def Window.queries : Window → List Select
  | ⟨partitionKeys, order, _⟩ => Expr.queriesOfAll partitionKeys ++ OrderItem.queriesOfAll order

/-- The queries contained in a source. -/
def Source.queries : Source → List Select
  | .table _ => []
  | .query q _ => q.queries

/-- The queries contained in an optional source. -/
def Source.queriesOfOption : Option Source → List Select
  | none => []
  | some s => s.queries

/-- The queries contained in a list of joins. -/
def Join.queriesOfAll : List Join → List Select
  | [] => []
  | ⟨_, target, on⟩ :: js =>
    target.queries ++ (Predicate.queriesOfOption on ++ Join.queriesOfAll js)

/-- The queries contained in a query, itself included. -/
def Select.queries : Select → List Select
  | ⟨distinct, projection, source, joins, condition, groups, having, order, limit, offset,
      forUpdate⟩ =>
    ⟨distinct, projection, source, joins, condition, groups, having, order, limit, offset,
        forUpdate⟩ ::
      (Expr.queriesOfAll projection ++ (Expr.queriesOfAll groups ++
        (Source.queriesOfOption source ++ (Join.queriesOfAll joins ++
          (Predicate.queriesOfOption condition ++ (Predicate.queriesOfOption having ++
            OrderItem.queriesOfAll order))))))

end

end BoundSql
