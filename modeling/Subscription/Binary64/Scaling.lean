import Subscription.Binary64.Decimal

/-! Reading digits in two roundings: a significand of sixty-four bits, and its scaling by tens. -/

namespace Subscription

namespace Binary64

/-- The rank of a power of ten. -/
def powerRank (exponent : Nat) : Nat :=
  Decimal.nearestRank ⟨1, exponent⟩

/-- A magnitude after so many divisions by `10 ^ 308`, the largest power of ten that is finite. -/
def lowered : Nat → Nat → Nat
  | 0, rank => rank
  | times + 1, rank =>
    -- Nothing is left to divide after a few rounds, however many are asked for.
    if rank = 0 then 0 else lowered times (quotientRank rank (powerRank 308))

end Binary64

namespace Decimal

/-- The significand with one more digit, unless sixty-four bits cannot hold it. -/
def extended? (significand : Nat) (digit : Char) : Option Nat :=
  let longer := Nat.ofDigitChars 10 [digit] significand
  if longer ≤ 0xffffffffffffffff then some longer else none

/-- Digits before the point, of which the first that does not fit and all after it become zeros. -/
def ofWhole (significand : Nat) : List Char → Decimal
  | [] => ⟨significand, 0⟩
  | digit :: rest =>
    match extended? significand digit with
    | some longer => ofWhole longer rest
    | none => ⟨significand, rest.length + 1⟩

/-- Digits behind the point, of which the first that does not fit and all after it are dropped. -/
def withPlaces (d : Decimal) : List Char → Decimal
  | [] => d
  | digit :: rest =>
    match extended? d.significand digit with
    | some longer => withPlaces ⟨longer, d.exponent - 1⟩ rest
    | none => d

/-- The rank of a decimal whose significand is rounded before it is scaled, or one past every finite
rank. -/
def scaledRank (d : Decimal) : Nat :=
  let rank := nearestRank ⟨d.significand, 0⟩
  match d.exponent with
  | .ofNat e =>
    if rank = 0 then 0
    else if 308 < e then Binary64.magnitudes
    else Binary64.productRank rank (Binary64.powerRank e)
  | .negSucc e =>
    -- The last division is by a power between ten and the largest one.
    Binary64.quotientRank (Binary64.lowered (e / 308) rank) (Binary64.powerRank (e % 308 + 1))

end Decimal

end Subscription
