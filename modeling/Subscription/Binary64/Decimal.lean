import Subscription.Binary64

/-! Decimals, the binary64 numbers nearest to them, and the fewest digits that name a number. -/

namespace Subscription

/-- The magnitude `significand * 10 ^ exponent`. -/
structure Decimal where
  significand : Nat
  exponent : Int
deriving DecidableEq, Repr

namespace Decimal

/-- The binary64 rank nearest to a decimal, or one past every finite rank. -/
def nearestRank (d : Decimal) : Nat :=
  if d.significand = 0 then 0
  else match d.exponent with
    | .ofNat e =>
      -- The largest finite magnitude has 309 digits.
      if 400 < e then Binary64.magnitudes
      else Binary64.nearestRank ((d.significand * Nat.pow 10 e) <<< 1074) 1
    | .negSucc e =>
      -- A power of ten that outweighs the significand by 1100 bits leaves less than half a unit.
      if Nat.log2 d.significand + 1100 < e then 0
      else Binary64.nearestRank (d.significand <<< 1074) (Nat.pow 10 (e + 1))

/-- Digits with the decimal point put among or around them, never with an exponent. -/
def positional (d : Decimal) : String :=
  let digits := Nat.toDigits 10 d.significand
  match d.exponent with
  | .ofNat e => String.ofList (digits ++ List.replicate e '0')
  | .negSucc e =>
    let places := e + 1
    let padded := List.replicate (places + 1 - digits.length) '0' ++ digits
    let whole := padded.length - places
    String.ofList (padded.take whole ++ '.' :: padded.drop whole)

end Decimal

namespace Binary64

/-- The number of digits before the decimal point, counted below zero for zeros right after it. -/
def pointPosition (rank : Nat) : Int :=
  -- Every positive magnitude reaches one after scaling by this power of ten.
  let scaled := (units rank * Nat.pow 10 400) >>> 1074
  ((Nat.toDigits 10 scaled).length : Int) - 400

/-- Which of two decimals comes first for a magnitude halfway between them. -/
inductive Tie where
  | up
  | even
deriving DecidableEq

/-- The decimals of a digit count on either side of a magnitude, the nearer one first; `point` is
the place of the magnitude's decimal point. -/
def neighbours (tie : Tie) (rank : Nat) (point : Int) (count : Nat) : List Decimal :=
  let exponent := point - count
  let (n, d) := match exponent with
    | .ofNat e => (units rank, Nat.pow 10 e <<< 1074)
    | .negSucc e => (units rank * Nat.pow 10 (e + 1), 1 <<< 1074)
  let below : Decimal := ⟨n / d, exponent⟩
  let above : Decimal :=
    if n / d + 1 = Nat.pow 10 count then ⟨1, exponent + count⟩ else ⟨n / d + 1, exponent⟩
  let twice := 2 * (n % d)
  if twice < d ∨ (twice = d ∧ tie = .even ∧ n / d % 2 = 0) then [below, above] else [above, below]

/-- The decimal equal to a magnitude. -/
def exactDecimal (rank : Nat) : Decimal :=
  ⟨units rank * Nat.pow 5 1074, -1074⟩

/-- The decimal of fewest digits to which the rank is nearest, the closest where several are. -/
def shortestDecimal (tie : Tie) (rank : Nat) : Decimal :=
  if rank = 0 then ⟨0, 0⟩
  else
    let point := pointPosition rank
    let identifies (d : Decimal) : Bool := d.nearestRank == rank
    -- Seventeen digits tell all magnitudes apart.
    ((List.range' 1 17).findSome? fun count =>
      (neighbours tie rank point count).find? identifies).getD (exactDecimal rank)

/-- The number in positional notation, or its name when it has no magnitude. -/
def text : Binary64 → String
  | .nan => "NaN"
  | .infinite negative => if negative then "-inf" else "inf"
  | .finite negative rank =>
    (if negative then "-" else "") ++ (shortestDecimal .up rank).positional

end Binary64

end Subscription
