import BoundSql.Batch
import BoundSql.Proofs.Markers
import BoundSql.Proofs.Template
import BoundSql.Statement.Basic

/-!
# The texts of the caller in a statement

Everything in a statement is quoted, bound or one of a few fixed words, with two exceptions: SQL
that the caller wrote as a template, and the name of a function.  These are copied as they are.
Here they are listed, in the order in which a statement has them, whether or not the part they
belong to is written.

Whoever states something of the finished text has to say what these texts may be like; `Neat` is
the condition under which they do not confuse a reader of placeholders.
-/

namespace BoundSql

/-- A text that is copied into a statement as it is. -/
inductive CallerText where
  /-- SQL of the caller. -/
  | template (t : Template)
  /-- The name of a function. -/
  | function (name : String)

/-! ## In queries -/

mutual

/-- The texts of the caller in an expression. -/
def Expr.callerTexts : Expr → List CallerText
  | .column _ | .literal _ | .star | .now => []
  | .raw t => [.template t]
  | .call function args _ => .function function :: Expr.callerTextsOfAll args
  | .binary left _ right => left.callerTexts ++ right.callerTexts
  | .aliased e _ => e.callerTexts
  | .case branches otherwise =>
    Branch.callerTextsOfAll branches ++ Expr.callerTextsOfOption otherwise
  | .coalesce args => Expr.callerTextsOfAll args
  | .subquery q => q.callerTexts
  | .window function w => function.callerTexts ++ w.callerTexts
  | .truth p => p.callerTexts

/-- The texts of the caller in a list of expressions. -/
def Expr.callerTextsOfAll : List Expr → List CallerText
  | [] => []
  | e :: es => e.callerTexts ++ Expr.callerTextsOfAll es

/-- The texts of the caller in an optional expression. -/
def Expr.callerTextsOfOption : Option Expr → List CallerText
  | none => []
  | some e => e.callerTexts

/-- The texts of the caller in a branch. -/
def Branch.callerTexts : Branch → List CallerText
  | ⟨condition, value⟩ => condition.callerTexts ++ value.callerTexts

/-- The texts of the caller in a list of branches. -/
def Branch.callerTextsOfAll : List Branch → List CallerText
  | [] => []
  | b :: bs => b.callerTexts ++ Branch.callerTextsOfAll bs

/-- The texts of the caller in a condition. -/
def Predicate.callerTexts : Predicate → List CallerText
  | .compare left _ right => left.callerTexts ++ right.callerTexts
  | .isNull e _ => e.callerTexts
  | .inList e values _ => e.callerTexts ++ Expr.callerTextsOfAll values
  | .inQuery e q _ => e.callerTexts ++ q.callerTexts
  | .between e low high _ => e.callerTexts ++ (low.callerTexts ++ high.callerTexts)
  | .like e pattern _ _ => e.callerTexts ++ pattern.callerTexts
  | .conj ps | .disj ps => Predicate.callerTextsOfAll ps
  | .neg p => p.callerTexts
  | .existence q _ => q.callerTexts
  | .quantified left _ _ q => left.callerTexts ++ q.callerTexts
  | .raw t => [.template t]
  | .always | .never => []

/-- The texts of the caller in a list of conditions. -/
def Predicate.callerTextsOfAll : List Predicate → List CallerText
  | [] => []
  | p :: ps => p.callerTexts ++ Predicate.callerTextsOfAll ps

/-- The texts of the caller in an optional condition. -/
def Predicate.callerTextsOfOption : Option Predicate → List CallerText
  | none => []
  | some p => p.callerTexts

/-- The texts of the caller in a sort key. -/
def OrderItem.callerTexts : OrderItem → List CallerText
  | ⟨key, _, _⟩ => key.callerTexts

/-- The texts of the caller in a list of sort keys. -/
def OrderItem.callerTextsOfAll : List OrderItem → List CallerText
  | [] => []
  | o :: os => o.callerTexts ++ OrderItem.callerTextsOfAll os

/-- The texts of the caller in a window. -/
def Window.callerTexts : Window → List CallerText
  | ⟨partitionKeys, order, _⟩ =>
    Expr.callerTextsOfAll partitionKeys ++ OrderItem.callerTextsOfAll order

/-- The texts of the caller in a source. -/
def Source.callerTexts : Source → List CallerText
  | .table _ => []
  | .query q _ => q.callerTexts

/-- The texts of the caller in an optional source. -/
def Source.callerTextsOfOption : Option Source → List CallerText
  | none => []
  | some s => s.callerTexts

/-- The texts of the caller in a join. -/
def Join.callerTexts : Join → List CallerText
  | ⟨_, target, on⟩ => target.callerTexts ++ Predicate.callerTextsOfOption on

/-- The texts of the caller in a list of joins. -/
def Join.callerTextsOfAll : List Join → List CallerText
  | [] => []
  | j :: js => j.callerTexts ++ Join.callerTextsOfAll js

/-- The texts of the caller in a query. -/
def Select.callerTexts : Select → List CallerText
  | ⟨_, projection, source, joins, condition, groups, having, order, _, _, _⟩ =>
    Expr.callerTextsOfAll projection ++ (Source.callerTextsOfOption source ++
      (Join.callerTextsOfAll joins ++ (Predicate.callerTextsOfOption condition ++
        (Expr.callerTextsOfAll groups ++ (Predicate.callerTextsOfOption having ++
          OrderItem.callerTextsOfAll order)))))

end

/-! ## In statements -/

/-- The texts of the caller in a statement. -/
def Statement.callerTexts : Statement → List CallerText
  | .select q => q.callerTexts
  | .insert i => Expr.callerTextsOfAll i.assignments.values
  | .update u =>
    Expr.callerTextsOfAll u.assignments.values ++ Predicate.callerTextsOfOption u.condition
  | .delete x => Predicate.callerTextsOfOption x.condition

/-- The texts of the caller in a batch. -/
def Batch.callerTexts (b : Batch) : List CallerText :=
  b.rows.flatMap fun row => Expr.callerTextsOfAll row.values

/-- The texts in a list of expressions are those of its members. -/
theorem Expr.callerTextsOfAll_eq_flatMap (es : List Expr) :
    Expr.callerTextsOfAll es = es.flatMap Expr.callerTexts := by
  induction es with
  | nil => rfl
  | cons e es ih => rw [Expr.callerTextsOfAll, ih, List.flatMap_cons]

/-! ## Texts that do not confuse a reader -/

/-- A text of the caller that does not confuse a reader of placeholders: a neat template, or a
function name without quotation marks, question marks and dollar signs. -/
def CallerText.Neat : CallerText → Prop
  | .template t => t.Neat
  | .function name => Prepared.isCalmText name

end BoundSql
