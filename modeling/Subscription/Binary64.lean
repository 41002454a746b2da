/-! Binary64 numbers, named by their place on the line of finite magnitudes. -/

namespace Subscription

/-- The number of fractions that go with an exponent, one for each setting of fifty-two bits. -/
abbrev Binary64.fractions : Nat :=
  0x10000000000000

/-- The number of finite magnitudes, the fractions of 2047 exponents. -/
abbrev Binary64.magnitudes : Nat :=
  2047 * fractions

/-- A floating-point number of sixty-four bits, all payloads of not-a-number being one value. -/
inductive Binary64 where
  | nan
  | infinite (negative : Bool)
  /-- The finite number with `rank` smaller magnitudes below it. -/
  | finite (negative : Bool) (rank : Fin Binary64.magnitudes)
deriving DecidableEq, Repr

namespace Binary64

/-- The magnitude of a rank as a multiple of the smallest positive magnitude, `2 ^ (-1074)`. -/
def units (rank : Nat) : Nat :=
  -- Below the first full significand the magnitudes are evenly spaced.
  if rank < fractions then rank
  else (fractions + rank % fractions) <<< (rank / fractions - 1)

/-- The natural number nearest to a quotient, a half going to the even neighbour. -/
def divideToEven (n d : Nat) : Nat :=
  let floor := n / d
  let twice := 2 * (n % d)
  if twice < d ∨ (twice = d ∧ floor % 2 = 0) then floor else floor + 1

/-- The rank nearest to `n / d` units, which exceeds every finite rank when the quotient does. -/
def nearestRank (n d : Nat) : Nat :=
  -- Fifty-three leading bits are kept, and a carry out of them lands on the next rank by itself.
  let shift := Nat.log2 (n / d) - 52
  shift * fractions + divideToEven n (d <<< shift)

/-- The rank nearest to the product of two magnitudes. -/
def productRank (a b : Nat) : Nat :=
  nearestRank (units a * units b) (1 <<< 1074)

/-- The rank nearest to the quotient of two magnitudes. -/
def quotientRank (a b : Nat) : Nat :=
  nearestRank (units a <<< 1074) (units b)

/-- The finite number of a rank, if the rank is finite. -/
def ofRank? (negative : Bool) (rank : Nat) : Option Binary64 :=
  if h : rank < magnitudes then some (.finite negative ⟨rank, h⟩) else none

/-- Zero of either sign. -/
def zero (negative : Bool) : Binary64 :=
  .finite negative ⟨0, by decide⟩

/-- Equality of numbers, for which not-a-number differs from itself and the zeros agree. -/
def same : Binary64 → Binary64 → Bool
  | .infinite a, .infinite b => a == b
  | .finite a m, .finite b n => m == n && (a == b || m.val == 0)
  | _, _ => false

/-- Whether a number has a magnitude. -/
def isFinite : Binary64 → Bool
  | .finite _ _ => true
  | _ => false

end Binary64

end Subscription
