import DecoderExport.Number.Binary

/-!
# Significands and powers of ten

The number reader of the payload format does not round a decimal literal as a whole. It keeps as
many leading digits as fit in 64 bits, rounds this significand to a 64-bit number, and then
multiplies or divides by a power of ten that is itself rounded. `scale` is that rule.
-/

namespace DecoderExport.Number

/-- The largest power of ten that the reader multiplies or divides by in one step. -/
def maxPower : Nat := 308

/-- The pattern of `10 ^ n`. -/
def powerOfTen (n : Nat) : Nat := double.round (Nat.pow 10 n) 1

/-- A pattern divided by `10 ^ n`, in steps of at most `10 ^ 308`; zero is left alone. -/
def dividePower (pattern n : Nat) : Nat :=
  if n ≤ maxPower then double.over pattern (powerOfTen n)
  else if pattern = 0 then 0
  else dividePower (double.over pattern (powerOfTen maxPower)) (n - maxPower)
termination_by n
decreasing_by simp only [maxPower] at *; omega

/-- A pattern multiplied by `10 ^ n`, unless that leaves the finite numbers. -/
def multiplyPower? (pattern n : Nat) : Option Nat :=
  if n ≤ maxPower then
    let product := double.times pattern (powerOfTen n)
    if product < double.infinity then some product else none
  else if pattern = 0 then some 0
  else none

/-- The pattern of `significand * 10 ^ exponent`, by the rule of the reader. -/
def scale? (significand : Nat) (exponent : Int) : Option Nat :=
  let start := double.round significand 1
  if 0 ≤ exponent then multiplyPower? start exponent.toNat
  else some (dividePower start (-exponent).toNat)

end DecoderExport.Number
