import SqlBuilder.Number.Decimal

/-!
# Doubles

Which double-precision number a decimal one is read as. A double is a whole mantissa times a power of
two, so it is a decimal number as well, and its exact value is compared and cut like any other.

* `Decimal.nearestDouble?`: the double nearest to a decimal number, as an exact decimal number.
-/

namespace SqlBuilder

/-- A quotient rounded to the nearest whole number, from the middle to the even one. -/
def roundedQuotient (n d : Nat) : Nat :=
  let q := n / d
  let r := n % d
  if 2 * r < d then q else if 2 * r > d then q + 1 else q + q % 2

namespace Decimal

/-- The exact value of `± mantissa · 2 ^ exponent`. -/
def ofBinary (negative : Bool) (mantissa : Nat) (exponent : Int) : Decimal :=
  if exponent ≥ 0 then .finite negative (mantissa * Nat.pow 2 exponent.toNat) 0
  else .finite negative (mantissa * Nat.pow 5 (-exponent).toNat) exponent

/-- The power of two of the last bit of the double nearest to a fraction: 53 bits below the leading
one, but not below the smallest double. -/
def lastBit (n d : Nat) : Int :=
  let leading : Int := (n.log2 : Int) - d.log2
  let reached := n * Nat.pow 2 (-leading).toNat ≥ d * Nat.pow 2 leading.toNat
  max ((if reached then leading else leading - 1) - 52) (-1074)

/-- The double nearest to a decimal number, as the decimal number that it is; none if the number is
out of the range of doubles. -/
def nearestDouble? : Decimal → Option Decimal
  | .finite negative coefficient exponent =>
    let magnitude : Int := exponent + digitCount coefficient
    if coefficient = 0 || magnitude < -330 then some (.finite negative 0 0)
    else if magnitude > 310 then none
    else
      let n := coefficient * Nat.pow 10 exponent.toNat
      let d := Nat.pow 10 (-exponent).toNat
      let last := lastBit n d
      let mantissa := roundedQuotient (n * Nat.pow 2 (-last).toNat) (d * Nat.pow 2 last.toNat)
      if last > 970 && mantissa ≥ Nat.pow 2 53 then none else some (ofBinary negative mantissa last)
  | d => some d

end Decimal

end SqlBuilder
