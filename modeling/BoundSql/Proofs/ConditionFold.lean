import BoundSql.Proofs.Slots
import BoundSql.Proofs.Ternary
import BoundSql.Proofs.Writing

/-!
# Conditions gathered call by call

A condition grows by calls, each of which puts a predicate in its place or joins one to what is
there.  How the tree grows depends on how it looks already: a group takes one more operand, and
anything else becomes an operand itself.  What the tree means does not: it is the value so far,
joined with the value of the new predicate.

Main statement: `conditions_fold`.

A value is worked out from what the atoms are worth, which are numbered from left to right.  The
numbering passes over groups without members, other than that of the leaves of a text, where such
a group is a comparison: an operand that joins an empty group takes the place of that comparison.
-/

namespace BoundSql

/-! ## What conditions mean -/

mutual

/-- The number of atoms of a condition: of the conditions in it that join no others. -/
def Predicate.atoms : Predicate → Nat
  | .conj ps => Predicate.atomsOfAll ps
  | .disj ps => Predicate.atomsOfAll ps
  | .neg p => p.atoms
  | _ => 1

/-- The number of atoms of conditions. -/
def Predicate.atomsOfAll : List Predicate → Nat
  | [] => 0
  | p :: ps => p.atoms + Predicate.atomsOfAll ps

end

mutual

/-- The value of a condition whose first atom is atom number `k`. -/
def Predicate.truth (v : Nat → Ternary) : Nat → Predicate → Ternary
  | k, .conj ps => Predicate.truthOfAll v .and k ps
  | k, .disj ps => Predicate.truthOfAll v .or k ps
  | k, .neg p => (p.truth v k).not
  | k, _ => v k

/-- The value of conditions joined by a word. -/
def Predicate.truthOfAll (v : Nat → Ternary) (w : Connective) : Nat → List Predicate → Ternary
  | _, [] => .ofBool w.unit
  | k, p :: ps => w.combine (p.truth v k) (Predicate.truthOfAll v w (k + p.atoms) ps)

end

/-- Join two conditions by a word. -/
def Connective.join : Connective → Predicate → Predicate → Predicate
  | and => Predicate.and
  | or => Predicate.or

namespace Predicate

variable (v : Nat → Ternary)

/-- Conditions one behind another have the atoms of both lists. -/
theorem atomsOfAll_append (ps qs : List Predicate) :
    atomsOfAll (ps ++ qs) = atomsOfAll ps + atomsOfAll qs := by
  induction ps with
  | nil => exact (Nat.zero_add _).symm
  | cons p ps ih => rw [List.cons_append, atomsOfAll, atomsOfAll, ih, Nat.add_assoc]

/-- A group of one has the atoms of its member. -/
theorem atomsOfAll_singleton (p : Predicate) : atomsOfAll [p] = p.atoms := rfl

/-- A group of one is worth its member. -/
theorem truthOfAll_singleton (w : Connective) (k : Nat) (p : Predicate) :
    truthOfAll v w k [p] = p.truth v k := w.combine_unit _

/-- One more operand is joined to the value of those before it. -/
theorem truthOfAll_concat (w : Connective) (k : Nat) (ps : List Predicate) (p : Predicate) :
    truthOfAll v w k (ps ++ [p]) =
      w.combine (truthOfAll v w k ps) (p.truth v (k + atomsOfAll ps)) := by
  induction ps generalizing k with
  | nil =>
    have hunit : w.combine (.ofBool w.unit) (p.truth v k) = p.truth v k := by
      cases w <;> cases p.truth v k <;> rfl
    exact (truthOfAll_singleton v w k p).trans hunit.symm
  | cons q ps ih =>
    rw [List.cons_append, truthOfAll, truthOfAll, ih, w.combine_assoc, atomsOfAll, Nat.add_assoc]

/-- A group of two is worth its operands joined, neither of them taken apart. -/
theorem truthOfAll_pair (w : Connective) (k : Nat) (p q : Predicate) :
    truthOfAll v w k [p, q] = w.combine (p.truth v k) (q.truth v (k + p.atoms)) := by
  rw [← List.singleton_append, truthOfAll_concat, truthOfAll_singleton, atomsOfAll_singleton]

/-- A joined condition has the atoms of its operands, whether or not it is put into a group. -/
theorem atoms_join (w : Connective) (p q : Predicate) : (w.join p q).atoms = p.atoms + q.atoms := by
  cases w with
  | and =>
    cases p with
    | conj ps => exact atomsOfAll_append ps [q]
    | _ => rfl
  | or =>
    cases p with
    | disj ps => exact atomsOfAll_append ps [q]
    | _ => rfl

/-- **A joined condition is worth its operands joined**, whether or not the first one is a group
that takes the second as one more member. -/
theorem truth_join (w : Connective) (p q : Predicate) (k : Nat) :
    (w.join p q).truth v k = w.combine (p.truth v k) (q.truth v (k + p.atoms)) := by
  cases w with
  | and =>
    cases p with
    | conj ps => exact truthOfAll_concat v .and k ps q
    | _ => exact truthOfAll_pair v .and k _ q
  | or =>
    cases p with
    | disj ps => exact truthOfAll_concat v .or k ps q
    | _ => exact truthOfAll_pair v .or k _ q

/-- A negation has the opposite value. -/
theorem truth_not (p : Predicate) (k : Nat) : p.not.truth v k = (p.truth v k).not := by
  cases p with
  | neg p =>
    have hnot (x : Ternary) : x = x.not.not := by cases x <;> rfl
    exact hnot (p.truth v k)
  | _ => rfl

/-- Two negations are none, unless they meet two that stand there already. -/
theorem not_not_iff (p : Predicate) : p.not.not = p ↔ ∀ q, p ≠ neg (neg q) := by
  cases p with
  | neg p =>
    cases p with
    | neg p =>
      refine iff_of_false (fun h => ?_) (fun h => h p rfl)
      have hsize : sizeOf p = sizeOf p.neg.neg := congrArg sizeOf h
      simp only [neg.sizeOf_spec] at hsize
      omega
    | _ => simp [not]
  | _ => simp [not]

end Predicate

/-! ## Calls on a condition -/

/-- What is known of a condition: its value, and how many atoms it has. -/
structure Verdict where
  value : Ternary
  atoms : Nat

/-- The verdict on a condition by itself. -/
def Verdict.of (v : Nat → Ternary) (p : Predicate) : Verdict := ⟨p.truth v 0, p.atoms⟩

namespace Condition

/-- The calls that a condition is gathered by. -/
inductive Call where
  /-- Begin again with a condition. -/
  | replace (p : Predicate)
  /-- Join one more condition by a word. -/
  | join (w : Connective) (p : Predicate)

/-- One call. -/
def call (c : Condition) : Call → Condition
  | .replace p => some p
  | .join .and p => c.and p
  | .join .or p => c.or p

/-- Calls one after another. -/
def run (c : Condition) (calls : List Call) : Condition := calls.foldl call c

end Condition

namespace Verdict

variable (v : Nat → Ternary)

/-- What a call makes of a verdict.  The first condition is taken as it is; one that is joined to
others is numbered on from them, and its value is joined to the value of all of them. -/
def step : Option Verdict → Condition.Call → Option Verdict
  | _, .replace p => some (.of v p)
  | none, .join _ p => some (.of v p)
  | some t, .join w p => some ⟨w.combine t.value (p.truth v t.atoms), t.atoms + p.atoms⟩

/-- A call on a condition is a step of its verdict. -/
theorem map_call (c : Condition) (a : Condition.Call) :
    (c.call a).map (Verdict.of v) = step v (c.map (Verdict.of v)) a := by
  cases a with
  | replace p => rfl
  | join w p =>
    cases c with
    | none => cases w <;> rfl
    | some c =>
      have hcall : Condition.call (some c) (.join w p) = some (w.join c p) := by cases w <;> rfl
      have htruth := Predicate.truth_join v w c p 0
      rw [Nat.zero_add] at htruth
      rw [hcall, Option.map_some, Option.map_some, step, Verdict.of, htruth,
        Predicate.atoms_join]
      rfl

/-- The verdict on what calls have gathered is folded from the left. -/
theorem map_run (c : Condition) (calls : List Condition.Call) :
    (c.run calls).map (Verdict.of v) = calls.foldl (step v) (c.map (Verdict.of v)) :=
  (List.foldl_hom (Option.map (Verdict.of v)) fun c a => (map_call v c a).symm).symm

end Verdict

/-! ## The builders -/

namespace Select.Call

/-- The call on the condition for rows. -/
def onRows : Call → Option Condition.Call
  | withWhere p => some (.replace p)
  | andWhere p => some (.join .and p)
  | orWhere p => some (.join .or p)
  | _ => none

/-- The call on the condition for groups. -/
def onGroups : Call → Option Condition.Call
  | withHaving p => some (.replace p)
  | andHaving p => some (.join .and p)
  | _ => none

end Select.Call

/-- The call on the condition for rows. -/
def Update.Call.onRows : Update.Call → Option Condition.Call
  | withWhere p => some (.replace p)
  | andWhere p => some (.join .and p)
  | orWhere p => some (.join .or p)
  | _ => none

/-- The call on the condition for rows. -/
def Delete.Call.onRows : Delete.Call → Option Condition.Call
  | withWhere p => some (.replace p)
  | andWhere p => some (.join .and p)
  | orWhere p => some (.join .or p)
  | _ => none

/-- Calls on a query gather a condition for rows as if there were no other calls. -/
theorem Select.condition_run (q : Select) (calls : List Select.Call) :
    (q.run calls).condition = Condition.run q.condition (calls.filterMap Call.onRows) :=
  stored_foldl (fun _ a => by cases a <;> rfl) q calls

/-- They gather one for groups in the same way. -/
theorem Select.having_run (q : Select) (calls : List Select.Call) :
    (q.run calls).having = Condition.run q.having (calls.filterMap Call.onGroups) :=
  stored_foldl (fun _ a => by cases a <;> rfl) q calls

/-- Calls on an update gather its condition. -/
theorem Update.condition_run (u : Update) (calls : List Update.Call) :
    (u.run calls).condition = Condition.run u.condition (calls.filterMap Call.onRows) :=
  stored_foldl (fun _ a => by cases a <;> rfl) u calls

/-- Calls on a deletion gather its condition. -/
theorem Delete.condition_run (x : Delete) (calls : List Delete.Call) :
    (x.run calls).condition = Condition.run x.condition (calls.filterMap Call.onRows) :=
  stored_foldl (fun _ a => by cases a <;> rfl) x calls

/-! ## The text of a condition -/

/-- The statement of `f` has a clause for the rows of condition `c` between `before` and `after`.
Its text is that of the clause but for the numbers of its placeholders, which follow those in front
of it. -/
def Fragment.HasCondition (d : Dialect) (before : Fragment) (c : Condition) (after f : Fragment) :
    Prop :=
  let clause := Predicate.clause d " WHERE " c
  let markers := (List.range' (before.values.length + 1) clause.values.length).map d.placeholder
  (f.prepare d).sql = textFrom d 0 before ++ weave (clause.segments d.quote) markers ++
      textFrom d (before.values.length + clause.values.length) after ∧
    (f.prepare d).params = before.values ++ clause.values ++ after.values

/-- What stands around a clause numbers its placeholders, and has no say in its text otherwise. -/
theorem Fragment.hasCondition_of_eq {d : Dialect} {before after f : Fragment} {c : Condition}
    (h : f = before ++ Predicate.clause d " WHERE " c ++ after) :
    HasCondition d before c after f := by
  subst h
  constructor
  · rw [sql_prepare, textFrom_append, textFrom_append, values_append, List.length_append,
      ← textFrom_eq_weave, Nat.zero_add, Nat.zero_add]
  · rw [params_prepare, values_append, values_append]

/-- In a query the clause stands between the joins and the groups. -/
theorem Select.hasCondition (d : Dialect) (q : Select) :
    ∃ before after, ∀ c : Condition,
      Fragment.HasCondition d before c after ({ q with condition := c }.fragment d) := by
  obtain ⟨distinct, projection, source, joins, condition, groups, having, order, limit, offset,
    forUpdate⟩ := q
  refine ⟨.concat [["SELECT ", if distinct then "DISTINCT " else ""],
      if projection.isEmpty then ["*"] else .comma (Expr.fragments d projection),
      Source.clause d source, .concat (Join.fragments d joins)],
    .concat [listClause " GROUP BY " (Expr.fragments d groups),
      Predicate.clause d " HAVING " having, listClause " ORDER BY " (OrderItem.fragments d order),
      (d.limitOffset limit offset).elim [] fun clause => [" ", clause],
      if forUpdate then [" FOR UPDATE"] else []], fun c => Fragment.hasCondition_of_eq ?_⟩
  simp [Select.fragment, Fragment.concat]

/-- In an update it stands between the assignments and the columns given back. -/
theorem Update.hasCondition (d : Dialect) (u : Update) :
    ∃ before after, ∀ c : Condition,
      Fragment.HasCondition d before c after ({ u with condition := c }.fragment d) := by
  refine ⟨.concat [["UPDATE "], .ofPhrase u.table.sourcePhrase, [" SET "],
      .comma (u.assignments.entries.map (assignment d))],
    .ofPhrase (Returning.clause u.returning), fun c => Fragment.hasCondition_of_eq ?_⟩
  simp [Update.fragment, Fragment.concat]

/-- In a deletion it stands behind the table. -/
theorem Delete.hasCondition (d : Dialect) (x : Delete) :
    ∃ before after, ∀ c : Condition,
      Fragment.HasCondition d before c after ({ x with condition := c }.fragment d) := by
  refine ⟨.concat [["DELETE FROM "], .ofPhrase x.table.sourcePhrase],
    .ofPhrase (Returning.clause x.returning), fun c => Fragment.hasCondition_of_eq ?_⟩
  simp [Delete.fragment, Fragment.concat]

/-- **Conditions are folded from the left.**  What calls have gathered is worth the fold of what
the predicates are worth, whatever shape these have; negation takes the opposite value and is gone
if taken twice.  Queries, updates and deletions store exactly what their calls gather, for rows
and, in a query, for groups, and write a condition for rows alike. -/
theorem conditions_fold :
    (∀ (v : Nat → Ternary) (c : Condition) (calls : List Condition.Call),
      (c.run calls).map (Verdict.of v) = calls.foldl (Verdict.step v) (c.map (Verdict.of v))) ∧
    (∀ (v : Nat → Ternary) (k : Nat) (p : Predicate), p.not.truth v k = (p.truth v k).not) ∧
    (∀ p : Predicate, p.not.not = p ↔ ∀ q, p ≠ .neg (.neg q)) ∧
    (∀ (q : Select) (calls : List Select.Call),
      (q.run calls).condition = Condition.run q.condition (calls.filterMap Select.Call.onRows) ∧
      (q.run calls).having = Condition.run q.having (calls.filterMap Select.Call.onGroups)) ∧
    (∀ (u : Update) (calls : List Update.Call),
      (u.run calls).condition = Condition.run u.condition (calls.filterMap Update.Call.onRows)) ∧
    (∀ (x : Delete) (calls : List Delete.Call),
      (x.run calls).condition = Condition.run x.condition (calls.filterMap Delete.Call.onRows)) ∧
    ∀ d : Dialect,
      (∀ q : Select, ∃ before after, ∀ c : Condition,
        Fragment.HasCondition d before c after ({ q with condition := c }.fragment d)) ∧
      (∀ u : Update, ∃ before after, ∀ c : Condition,
        Fragment.HasCondition d before c after ({ u with condition := c }.fragment d)) ∧
      ∀ x : Delete, ∃ before after, ∀ c : Condition,
        Fragment.HasCondition d before c after ({ x with condition := c }.fragment d) :=
  ⟨Verdict.map_run, fun v k p => p.truth_not v k, Predicate.not_not_iff,
    fun q calls => ⟨q.condition_run calls, q.having_run calls⟩, Update.condition_run,
    Delete.condition_run,
    fun d => ⟨Select.hasCondition d, Update.hasCondition d, Delete.hasCondition d⟩⟩

/-- An alternative that is added last stands beside everything in front of it, and an empty group
counts for what it is worth. -/
example (v : Nat → Ternary) :
    (Condition.run none [.replace .never, .replace (.conj []), .join .and .always,
      .join .or .never]).map (Verdict.of v) =
      some ⟨((Ternary.holds.and (v 0)).or (v 1)), 2⟩ := Verdict.map_run v none _

end BoundSql
