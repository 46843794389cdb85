import LogHarvest.Text.Code

/-!
# Rounded binary fractions

Rates are computed in binary fractions of 53 significant bits: a quotient or a product is
rounded to the nearest of them, and a tie goes to the even one. A fraction is written with a
fixed number of decimal places, rounded in the same way from its exact value.
-/

namespace LogHarvest

/-- The quotient rounded to the nearest number, a tie to the even one. -/
def roundDiv (num den : Nat) : Nat :=
  let q := num / den
  let r := num % den
  if 2 * r < den then q
  else if 2 * r > den then q + 1
  else if q % 2 = 0 then q else q + 1

/-- A power of two. -/
def powerOfTwo (n : Nat) : Nat := Nat.pow 2 n

/-- A power of ten. -/
def powerOfTen (n : Nat) : Nat := Nat.pow 10 n

/-- A fraction `mantissa * 2 ^ exponent` with a sign. -/
structure Dyadic where
  negative : Bool
  mantissa : Nat
  exponent : Int

namespace Dyadic

def zero : Dyadic := ⟨false, 0, 0⟩

/-- `num / den * 2 ^ exponent` rounded to 53 significant bits. -/
def ofScaled (negative : Bool) (num den : Nat) (exponent : Int) : Dyadic :=
  if num = 0 then zero
  else
    let scaled (e : Int) : Nat × Nat :=
      if e ≥ 0 then (num, den * powerOfTwo e.toNat) else (num * powerOfTwo (-e).toNat, den)
    let e : Int := (Nat.log2 num : Int) - Nat.log2 den - 52
    let e := if (scaled e).1 / (scaled e).2 < powerOfTwo 52 then e - 1 else e
    ⟨negative, roundDiv (scaled e).1 (scaled e).2, e + exponent⟩

/-- The quotient of an integer by a positive number. -/
def ofQuotient (num : Int) (den : Nat) : Dyadic := ofScaled (num < 0) num.natAbs den 0

/-- The product with a number. -/
def scale (d : Dyadic) (factor : Nat) : Dyadic :=
  ofScaled d.negative (d.mantissa * factor) 1 d.exponent

/-- The value times `10 ^ places`, rounded. -/
def scaledDecimal (d : Dyadic) (places : Nat) : Nat :=
  if d.exponent ≥ 0 then d.mantissa * powerOfTwo d.exponent.toNat * powerOfTen places
  else roundDiv (d.mantissa * powerOfTen places) (powerOfTwo (-d.exponent).toNat)

/-- The value with a fixed, positive number of decimal places. -/
def toFixed (d : Dyadic) (places : Nat) : Text :=
  let n := d.scaledDecimal places
  let fraction := Text.ofNat (n % powerOfTen places)
  let sign : Text := if d.negative then ['-'] else []
  sign ++ Text.ofNat (n / powerOfTen places) ++ [('.' : Code)] ++
    List.replicate (places - fraction.length) ('0' : Code) ++ fraction

end Dyadic

end LogHarvest
