import Conduit.Decimal.Binary64

/-!
The shortest decimal that reads back as a given binary number: of all decimals with the
fewest digits among those that round to the number, the one nearest to it.
-/

namespace Conduit.Decimal

/-- The decimal `digits * 10 ^ exponent`. -/
structure Scaled where
  digits : Nat
  exponent : Int
  deriving DecidableEq, Repr

/-- `num / den / 10 ^ exponent`, again as numerator and denominator. -/
def tenScaled (num den : Nat) (exponent : Int) : Nat × Nat :=
  if exponent ≥ 0 then (num, den * Nat.pow 10 exponent.toNat)
  else (num * Nat.pow 10 (-exponent).toNat, den)

/-- Whether `digits * 10 ^ exponent` rounds to `x`. The reals that do lie halfway to the two
neighbours of `x`, the ends belonging to an even mantissa; below a power of two the lower
neighbour is only half as far.
-/
def readsBack (x : Binary64) (digits : Nat) (exponent : Int) : Bool :=
  let (n, d) := x.ratio
  -- quarter of the distance to the upper neighbour, as a multiple of 1 / (4 * d)
  let unit := if x.exponent ≥ 0 then Nat.pow 2 x.exponent.toNat else 1
  let below :=
    if x.mantissa = Nat.pow 2 52 ∧ x.exponent > Binary64.leastExponent then unit else 2 * unit
  let (a, b) := if exponent ≥ 0 then (digits * Nat.pow 10 exponent.toNat, 1)
    else (digits, Nat.pow 10 (-exponent).toNat)
  let value := 4 * a * d
  let low := (4 * n - below) * b
  let high := (4 * n + 2 * unit) * b
  if x.mantissa % 2 = 0 then low ≤ value && value ≤ high else low < value && value < high

/-- Of the two neighbours of `x` on the grid of multiples of `10 ^ exponent` those that read
back, the nearer one if both do, and the even one if they are equally near.
-/
def nearestOnGrid? (x : Binary64) (exponent : Int) : Option Nat :=
  let (n, d) := tenScaled x.ratio.1 x.ratio.2 exponent
  let floor := n / d
  let nearest := Binary64.roundQuotient n d
  if readsBack x nearest exponent then some nearest
  else if readsBack x floor exponent then some floor
  else if readsBack x (floor + 1) exponent then some (floor + 1)
  else none

/-- The first grid, from coarse to fine, that has a decimal for `x`. -/
def search (x : Binary64) (exponent : Int) : (budget : Nat) → Option Scaled
  | 0 => none
  | budget + 1 =>
    match nearestOnGrid? x exponent with
    | some digits => some ⟨digits, exponent⟩
    | none => search x (exponent - 1) budget

/-- Moves the zeros at the end of the digits into the exponent. -/
def strip (s : Scaled) : (budget : Nat) → Scaled
  | 0 => s
  | budget + 1 =>
    if s.digits ≠ 0 ∧ s.digits % 10 = 0 then strip ⟨s.digits / 10, s.exponent + 1⟩ budget else s

/-- The number of decimal digits before the point, negative or zero for a small number. -/
def magnitude (x : Binary64) : Int :=
  let (n, d) := x.ratio
  if n ≥ d then (Nat.toDigits 10 (n / d)).length
  else 1 - ((Nat.toDigits 10 ((d - 1) / n)).length : Int)

/-- The shortest decimal that reads back as `x`. Seventeen digits are always enough; the
grids start one digit above the first digit of `x`, so eighteen of them are tried.
-/
def shortest (x : Binary64) : Scaled :=
  if x.mantissa = 0 then ⟨0, 0⟩
  else strip ((search x (magnitude x) 19).getD ⟨0, 0⟩) 19

/-- How a number is laid out: which positions of the decimal point are written without an
exponent, and how an exponent is written.
-/
structure Layout where
  /-- The least position of the point, counted from the first digit, that is positional. -/
  leastPoint : Int
  /-- The largest such position. -/
  largestPoint : Int
  /-- Written before an exponent that is not negative. -/
  exponentSign : String

/-- The text of `0.digits * 10 ^ point`; a whole number keeps one zero after its point. -/
def Layout.write (layout : Layout) (s : Scaled) : String :=
  let digits := toString s.digits
  let count := digits.length
  let point : Int := count + s.exponent
  if s.digits = 0 then "0.0"
  else if 0 ≤ s.exponent ∧ point ≤ layout.largestPoint then
    digits ++ String.ofList (List.replicate s.exponent.toNat '0') ++ ".0"
  else if 0 < point ∧ point ≤ layout.largestPoint then
    String.ofList (digits.toList.take point.toNat) ++ "."
      ++ String.ofList (digits.toList.drop point.toNat)
  else if layout.leastPoint ≤ point ∧ point ≤ 0 then
    "0." ++ String.ofList (List.replicate (-point).toNat '0') ++ digits
  else
    let first := String.ofList (digits.toList.take 1)
    let rest := if count = 1 then "" else "." ++ String.ofList (digits.toList.drop 1)
    let power := point - 1
    first ++ rest ++ "e" ++ (if power < 0 then "-" else layout.exponentSign)
      ++ toString power.natAbs

end Conduit.Decimal
