import BoundSql.Proofs.Ternary

/-!
# Reading conditions by precedence

`NOT` binds more tightly than `AND`, `AND` binds more tightly than `OR`, and parentheses group.
That is a grammar (`Reads`), here over tokens whose leaves may be of any type.

A text of tokens has at most one reading (`Reads.unique`).  The grammar does not say so itself; it
follows from a reader that goes over the tokens once, remembers what is still open and finds every
reading that the grammar allows (`Reads.read_eq`).
-/

namespace BoundSql

/-- What a text of conditions consists of, with the leaves taken as they are. -/
inductive Token (α : Type) where
  | leaf (x : α)
  | word (c : Connective)
  | not
  | opening
  | closing

/-- What is read from it. -/
inductive Formula (α : Type) where
  | leaf (x : α)
  | not (φ : Formula α)
  | join (c : Connective) (φ ψ : Formula α)

variable {α : Type}

namespace Formula

/-- The leaves of a formula, from left to right. -/
def leaves : Formula α → List α
  | leaf x => [x]
  | not φ => φ.leaves
  | join _ φ ψ => φ.leaves ++ ψ.leaves

/-- The value of a formula whose first leaf is leaf number `k`, if `v` says what each leaf is
worth, given its number. -/
def value (v : Nat → α → Ternary) : Nat → Formula α → Ternary
  | k, leaf x => v k x
  | k, not φ => (φ.value v k).not
  | k, join c φ ψ => c.combine (φ.value v k) (ψ.value v (k + φ.leaves.length))

end Formula

/-! ## The grammar -/

/-- How tightly the words in a text bind that stand outside its parentheses. -/
inductive Level where
  | operand
  | conjunction
  | disjunction

/-- The tokens read as the formula at this level.  Words of one kind are taken from the left. -/
inductive Reads : Level → List (Token α) → Formula α → Prop where
  | leaf (x : α) : Reads .operand [.leaf x] (.leaf x)
  | not {ts : List (Token α)} {φ : Formula α} :
    Reads .operand ts φ → Reads .operand (.not :: ts) (.not φ)
  | group {ts : List (Token α)} {φ : Formula α} :
    Reads .disjunction ts φ → Reads .operand (.opening :: (ts ++ [.closing])) φ
  | conjunct {ts : List (Token α)} {φ : Formula α} :
    Reads .operand ts φ → Reads .conjunction ts φ
  | and {ts us : List (Token α)} {φ ψ : Formula α} :
    Reads .conjunction ts φ → Reads .operand us ψ →
      Reads .conjunction (ts ++ .word .and :: us) (.join .and φ ψ)
  | disjunct {ts : List (Token α)} {φ : Formula α} :
    Reads .conjunction ts φ → Reads .disjunction ts φ
  | or {ts us : List (Token α)} {φ ψ : Formula α} :
    Reads .disjunction ts φ → Reads .conjunction us ψ →
      Reads .disjunction (ts ++ .word .or :: us) (.join .or φ ψ)

/-! ## One reader -/

/-- What a reader remembers between two parentheses: the disjunction that ended at the last `OR`
and the conjunction that ended at the last `AND` behind it. -/
structure Pending (α : Type) where
  disjunction : Option (Formula α) := none
  conjunction : Option (Formula α) := none

namespace Pending

/-- The conjunction with one more operand. -/
def conjoin (p : Pending α) (φ : Formula α) : Formula α :=
  p.conjunction.elim φ fun χ => .join .and χ φ

/-- The disjunction whose last conjunction ends with one more operand. -/
def disjoin (p : Pending α) (φ : Formula α) : Formula α :=
  p.disjunction.elim (p.conjoin φ) fun χ => .join .or χ (p.conjoin φ)

end Pending

/-- A formula behind so many `NOT`s. -/
def Formula.negate : Nat → Formula α → Formula α
  | 0, φ => φ
  | n + 1, φ => .negate n (.not φ)

/-- A reader.  It has read `NOT`s and waits for an operand, or it has just read an operand.  The
list is what it remembers of the parentheses that are open, with the `NOT`s in front of each. -/
inductive Reader (α : Type) where
  | before (outer : List (Pending α × Nat)) (p : Pending α) (nots : Nat)
  | behind (outer : List (Pending α × Nat)) (p : Pending α) (φ : Formula α)

namespace Reader

/-- One more token, if one like that may stand here. -/
def step : Reader α → Token α → Option (Reader α)
  | before outer p n, .leaf x => some (behind outer p (.negate n (.leaf x)))
  | before outer p n, .not => some (before outer p (n + 1))
  | before outer p n, .opening => some (before ((p, n) :: outer) {} 0)
  | behind outer p φ, .word .and => some (before outer { p with conjunction := p.conjoin φ } 0)
  | behind outer p φ, .word .or => some (before outer { disjunction := p.disjoin φ } 0)
  | behind ((q, n) :: outer) p φ, .closing => some (behind outer q (.negate n (p.disjoin φ)))
  | _, _ => none

/-- What has been read, if it may end here. -/
def finish : Reader α → Option (Formula α)
  | behind [] p φ => some (p.disjoin φ)
  | _ => none

/-- Go on over tokens up to the end. -/
def run : Reader α → List (Token α) → Option (Formula α)
  | r, [] => r.finish
  | r, t :: ts => (r.step t).bind fun r' => r'.run ts

end Reader

/-- The formula that tokens read as. -/
def read (ts : List (Token α)) : Option (Formula α) := (Reader.before [] {} 0).run ts

/-! ## The reader finds every reading -/

/-- What the reader makes of tokens that read as a formula, wherever it comes upon them.  Behind an
operand it has that operand; behind a conjunction or a disjunction it may have put the last
operand off, and knows what it belongs to. -/
def Reader.Finds : Level → List (Token α) → Formula α → Prop
  | .operand, ts, φ => ∀ outer p n rest,
    (Reader.before outer p n).run (ts ++ rest) = (Reader.behind outer p (.negate n φ)).run rest
  | .conjunction, ts, φ => ∀ outer χ, ∃ p ψ, p.disjunction = χ ∧ p.conjoin ψ = φ ∧ ∀ rest,
    (Reader.before outer { disjunction := χ } 0).run (ts ++ rest) =
      (Reader.behind outer p ψ).run rest
  | .disjunction, ts, φ => ∀ outer, ∃ p ψ, p.disjoin ψ = φ ∧ ∀ rest,
    (Reader.before outer {} 0).run (ts ++ rest) = (Reader.behind outer p ψ).run rest

/-- Whatever tokens read as, the reader finds it. -/
theorem Reads.finds {level : Level} {ts : List (Token α)} {φ : Formula α}
    (h : Reads level ts φ) : Reader.Finds level ts φ := by
  induction h with
  | leaf x =>
    intro outer p n rest
    rfl
  | not _ ih =>
    intro outer p n rest
    exact ih outer p (n + 1) rest
  | @group ts φ _ ih =>
    -- what stands in front of the group is remembered, and nothing is pending inside
    intro outer p n rest
    obtain ⟨q, ψ, rfl, hrun⟩ := ih ((p, n) :: outer)
    have hopen : (Reader.before outer p n).run (.opening :: (ts ++ [.closing]) ++ rest) =
        (Reader.before ((p, n) :: outer) {} 0).run (ts ++ (.closing :: rest)) := by
      rw [List.cons_append, List.append_assoc]
      rfl
    rw [hopen, hrun]
    rfl
  | conjunct _ ih =>
    intro outer χ
    exact ⟨{ disjunction := χ }, _, rfl, rfl, ih outer { disjunction := χ } 0⟩
  | @and ts us φ ψ _ _ ih ih' =>
    -- the operand in front is put off, and the one behind is found with it pending
    intro outer χ
    obtain ⟨p, φ', rfl, rfl, hrun⟩ := ih outer χ
    refine ⟨{ p with conjunction := p.conjoin φ' }, ψ, rfl, rfl, fun rest => ?_⟩
    rw [List.append_assoc, hrun]
    exact ih' outer { p with conjunction := p.conjoin φ' } 0 rest
  | disjunct _ ih =>
    intro outer
    obtain ⟨p, ψ, hp, rfl, hrun⟩ := ih outer none
    refine ⟨p, ψ, ?_, hrun⟩
    rw [Pending.disjoin, hp]
    rfl
  | @or ts us φ ψ _ _ ih ih' =>
    intro outer
    obtain ⟨p, φ', rfl, hrun⟩ := ih outer
    obtain ⟨q, ψ', hq, rfl, hrun'⟩ := ih' outer (some (p.disjoin φ'))
    refine ⟨q, ψ', ?_, fun rest => ?_⟩
    · rw [Pending.disjoin, hq]
      rfl
    · rw [List.append_assoc, hrun]
      exact hrun' rest

/-- The reader finds every reading that the grammar allows. -/
theorem Reads.read_eq {ts : List (Token α)} {φ : Formula α} (h : Reads .disjunction ts φ) :
    read ts = some φ := by
  obtain ⟨p, ψ, rfl, hrun⟩ := h.finds []
  have := hrun []
  rw [List.append_nil] at this
  rw [read, this]
  rfl

/-- There is at most one reading. -/
theorem Reads.unique {ts : List (Token α)} {φ ψ : Formula α} (hφ : Reads .disjunction ts φ)
    (hψ : Reads .disjunction ts ψ) : φ = ψ :=
  Option.some.inj (hφ.read_eq.symm.trans hψ.read_eq)

/-- Without parentheses, `AND` takes the operand between the two words. -/
example : read [.leaf 0, .word .or, .leaf 1, .word .and, .not, .leaf 2] =
    some (.join .or (.leaf 0) (.join .and (.leaf 1) (.not (.leaf 2)))) := rfl

end BoundSql
