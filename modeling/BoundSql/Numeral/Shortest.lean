import BoundSql.Numeral.Binary

/-!
# The fewest decimal digits

The reals that round to an amount `m · 2^q` form an interval around it: from halfway to the
neighbour below to halfway to the neighbour above, the ends included exactly when `m` is even.
`Amount.shortest` finds the decimal with the fewest digits in that interval and, of two with
equally few, the nearer.

The search is the definition turned into a loop.  With `n` digits a decimal near the amount lies
on a grid of step `10^(p - n)`, and if any point of the grid lies in the interval then so does
one of the amount's two neighbours on it.  So it is enough to try those two for `n = 1, 2, …`;
the comparisons are made on natural numbers, by cross-multiplication.
-/

namespace BoundSql.Numeral

/-- The decimal `digits · 10^exponent`. -/
structure Decimal where
  digits : Nat
  exponent : Int
  deriving DecidableEq, Repr

/-- Which neighbour wins when both are equally near. -/
inductive Tie where
  | up
  | toEven
  deriving DecidableEq, Repr

/-! ## Comparing an amount with a point of the grid

Everything is measured in quarters of the amount's last binary place, so that both ends of the
interval are whole numbers of quarters.  `gridUnit a k` and `quarterUnit a k` are the sizes of
one step `10^k` and of one quarter, brought to a common scale. -/

/-- One step `10^k` of the decimal grid, on the common scale. -/
def gridUnit (a : Amount) (k : Int) : Nat := Nat.pow 10 k.toNat * Nat.pow 2 (2 - a.exponent).toNat

/-- One quarter of the last binary place, on the common scale. -/
def quarterUnit (a : Amount) (k : Int) : Nat :=
  Nat.pow 10 (-k).toNat * Nat.pow 2 (a.exponent - 2).toNat

/-- The decimal `c · 10^k` rounds to the amount. -/
def Amount.readsBack (a : Amount) (c : Nat) (k : Int) : Bool :=
  let point := c * gridUnit a k
  let low := (4 * a.mantissa - if a.narrow then 1 else 2) * quarterUnit a k
  let high := (4 * a.mantissa + 2) * quarterUnit a k
  if a.mantissa % 2 = 0 then low ≤ point && point ≤ high else low < point && point < high

/-! ## The search -/

/-- The number of digits before the decimal point: the least `p` with `amount < 10^p`.  Scaling
by `10^400` first makes the amount exceed one without changing its leading digits. -/
def Amount.magnitude (a : Amount) : Int :=
  let scaled := a.mantissa * Nat.pow 10 400 * Nat.pow 2 a.exponent.toNat
  let leading := scaled / Nat.pow 2 (-a.exponent).toNat
  (Nat.toDigits 10 leading).length - 400

/-- The nearer of the two neighbours of the amount on the grid of step `10^k` that read back. -/
def Amount.onGrid (tie : Tie) (a : Amount) (k : Int) : Option Decimal :=
  let value := 4 * a.mantissa * quarterUnit a k
  let below := value / gridUnit a k
  let above := below + 1
  match a.readsBack below k, a.readsBack above k with
  | false, false => none
  | true, false => some ⟨below, k⟩
  | false, true => some ⟨above, k⟩
  | true, true =>
    let toBelow := value - below * gridUnit a k
    let toAbove := above * gridUnit a k - value
    if toBelow < toAbove then some ⟨below, k⟩
    else if toAbove < toBelow then some ⟨above, k⟩
    else match tie with
      | .up => some ⟨above, k⟩
      | .toEven => some ⟨if below % 2 = 0 then below else above, k⟩

/-- The amount itself, with all its digits. -/
def Amount.exact (a : Amount) : Decimal :=
  if a.exponent < 0 then ⟨a.mantissa * Nat.pow 5 (-a.exponent).toNat, a.exponent⟩
  else ⟨a.mantissa * Nat.pow 2 a.exponent.toNat, 0⟩

/-- Move trailing zeros of the digits into the exponent, at most `fuel` of them. -/
def Decimal.stripped : Nat → Decimal → Decimal
  | 0, d => d
  | fuel + 1, d =>
    if d.digits ≠ 0 ∧ d.digits % 10 = 0 then Decimal.stripped fuel ⟨d.digits / 10, d.exponent + 1⟩
    else d

/-- The decimal of fewest digits that rounds to the amount.  Seventeen digits suffice for both
widths; should none do, the amount is given exactly. -/
def Amount.shortest (tie : Tie) (a : Amount) : Decimal :=
  let p := a.magnitude
  let found := (List.range' 1 17).findSome? fun n : Nat => a.onGrid tie (p - n)
  (found.getD a.exact).stripped 20

end BoundSql.Numeral
