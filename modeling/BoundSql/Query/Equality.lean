import BoundSql.Query.Basic

/-!
# Equality of queries

Two queries are the same if they are put together in the same way from the same parts.  Bound
values are compared as values, so a not-a-number differs from itself and the two zeros agree.
-/

namespace BoundSql

mutual

/-- Equality of expressions. -/
def Expr.same : Expr → Expr → Bool
  | .column a, .column b => a == b
  | .literal a, .literal b => a == b
  | .raw a, .raw b => a.same b
  | .star, .star => true
  | .call f as d, .call g bs e => f == g && Expr.sameAll as bs && d == e
  | .binary a o b, .binary c p d => a.same c && o == p && b.same d
  | .aliased a m, .aliased b n => a.same b && m == n
  | .case bs o, .case cs p => Branch.sameAll bs cs && Expr.sameOption o p
  | .coalesce as, .coalesce bs => Expr.sameAll as bs
  | .subquery q, .subquery r => q.same r
  | .window f w, .window g x => f.same g && w.same x
  | .now, .now => true
  | .truth p, .truth q => p.same q
  | _, _ => false

/-- Equality of lists of expressions. -/
def Expr.sameAll : List Expr → List Expr → Bool
  | [], [] => true
  | a :: as, b :: bs => a.same b && Expr.sameAll as bs
  | _, _ => false

/-- Equality of optional expressions. -/
def Expr.sameOption : Option Expr → Option Expr → Bool
  | none, none => true
  | some a, some b => a.same b
  | _, _ => false

/-- Equality of conditions. -/
def Predicate.same : Predicate → Predicate → Bool
  | .compare a o b, .compare c p d => a.same c && o == p && b.same d
  | .isNull a m, .isNull b n => a.same b && m == n
  | .inList a vs m, .inList b ws n => a.same b && Expr.sameAll vs ws && m == n
  | .inQuery a q m, .inQuery b r n => a.same b && q.same r && m == n
  | .between a l h m, .between b k g n => a.same b && l.same k && h.same g && m == n
  | .like a p m c, .like b q n d => a.same b && p.same q && m == n && c == d
  | .conj ps, .conj qs => Predicate.sameAll ps qs
  | .disj ps, .disj qs => Predicate.sameAll ps qs
  | .neg p, .neg q => p.same q
  | .existence q m, .existence r n => q.same r && m == n
  | .quantified a o k q, .quantified b p l r => a.same b && o == p && k == l && q.same r
  | .raw a, .raw b => a.same b
  | .always, .always => true
  | .never, .never => true
  | _, _ => false

/-- Equality of lists of conditions. -/
def Predicate.sameAll : List Predicate → List Predicate → Bool
  | [], [] => true
  | p :: ps, q :: qs => p.same q && Predicate.sameAll ps qs
  | _, _ => false

/-- Equality of optional conditions. -/
def Predicate.sameOption : Option Predicate → Option Predicate → Bool
  | none, none => true
  | some p, some q => p.same q
  | _, _ => false

/-- Equality of branches. -/
def Branch.same : Branch → Branch → Bool
  | ⟨p, a⟩, ⟨q, b⟩ => p.same q && a.same b

/-- Equality of lists of branches. -/
def Branch.sameAll : List Branch → List Branch → Bool
  | [], [] => true
  | a :: as, b :: bs => a.same b && Branch.sameAll as bs
  | _, _ => false

/-- Equality of sort keys. -/
def OrderItem.same : OrderItem → OrderItem → Bool
  | ⟨a, d, m⟩, ⟨b, e, n⟩ => a.same b && d == e && m == n

/-- Equality of lists of sort keys. -/
def OrderItem.sameAll : List OrderItem → List OrderItem → Bool
  | [], [] => true
  | a :: as, b :: bs => a.same b && OrderItem.sameAll as bs
  | _, _ => false

/-- Equality of windows. -/
def Window.same : Window → Window → Bool
  | ⟨ps, os, f⟩, ⟨qs, ns, g⟩ => Expr.sameAll ps qs && OrderItem.sameAll os ns && f == g

/-- Equality of sources. -/
def Source.same : Source → Source → Bool
  | .table t, .table u => t == u
  | .query q m, .query r n => q.same r && m == n
  | _, _ => false

/-- Equality of optional sources. -/
def Source.sameOption : Option Source → Option Source → Bool
  | none, none => true
  | some s, some t => s.same t
  | _, _ => false

/-- Equality of joins. -/
def Join.same : Join → Join → Bool
  | ⟨k, s, p⟩, ⟨l, t, q⟩ => k == l && s.same t && Predicate.sameOption p q

/-- Equality of lists of joins. -/
def Join.sameAll : List Join → List Join → Bool
  | [], [] => true
  | a :: as, b :: bs => a.same b && Join.sameAll as bs
  | _, _ => false

/-- Equality of queries. -/
def Select.same : Select → Select → Bool
  | ⟨d, ps, s, js, c, gs, h, os, l, o, u⟩, ⟨d', ps', s', js', c', gs', h', os', l', o', u'⟩ =>
    d == d' && Expr.sameAll ps ps' && Source.sameOption s s' && Join.sameAll js js' &&
      Predicate.sameOption c c' && Expr.sameAll gs gs' && Predicate.sameOption h h' &&
      OrderItem.sameAll os os' && l == l' && o == o' && u == u'

end

instance : BEq Expr := ⟨Expr.same⟩
instance : BEq Predicate := ⟨Predicate.same⟩
instance : BEq OrderItem := ⟨OrderItem.same⟩
instance : BEq Window := ⟨Window.same⟩
instance : BEq Source := ⟨Source.same⟩
instance : BEq Join := ⟨Join.same⟩
instance : BEq Select := ⟨Select.same⟩

end BoundSql
