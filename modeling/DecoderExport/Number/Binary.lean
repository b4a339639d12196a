/-!
# Binary floating point numbers as bit patterns

A `Format` fixes the width of the significand and of the exponent field. A number of the format
is a sign and a *pattern*, the remaining bits read as a natural number. Every finite pattern stands
for a natural number of *units*, the smallest positive value of the format, so all arithmetic here
is exact arithmetic on `Nat`; `Format.round` is the only place where anything is rounded (to
nearest, a tie goes to the even pattern, too large a value goes to infinity).
-/

namespace DecoderExport.Number

/-- The layout of a binary floating point format: bits of the significand with the leading one
counted, bits of the exponent field, and the power `k` for which the smallest positive value is
`2 ^ -k`. -/
structure Format where
  precision : Nat
  exponentBits : Nat
  unitPower : Nat
  deriving DecidableEq, Repr

/-- The 32-bit format. -/
def single : Format := ⟨24, 8, 149⟩

/-- The 64-bit format. -/
def double : Format := ⟨53, 11, 1074⟩

namespace Format

/-- The value of the leading bit of a normal significand. -/
def leading (f : Format) : Nat := Nat.pow 2 (f.precision - 1)

/-- The pattern of infinity: the exponent field is all ones and the fraction zero. -/
def infinity (f : Format) : Nat := (Nat.pow 2 f.exponentBits - 1) * f.leading

/-- How many patterns there are; the sign bit has this weight. -/
def patterns (f : Format) : Nat := Nat.pow 2 f.exponentBits * f.leading

/-- The pattern of the quiet NaN without payload. -/
def quietNaN (f : Format) : Nat := f.infinity + f.leading / 2

/-- The units that a finite pattern stands for. -/
def units (f : Format) (pattern : Nat) : Nat :=
  if pattern / f.leading = 0 then pattern
  else (f.leading + pattern % f.leading) * Nat.pow 2 (pattern / f.leading - 1)

end Format

/-- The natural number nearest to `num / den`; a tie goes to the even one. -/
def nearestEven (num den : Nat) : Nat :=
  let quotient := num / den
  let twice := 2 * (num % den)
  if twice < den then quotient
  else if den < twice then quotient + 1
  else quotient + quotient % 2

/-- The pattern of the number nearest to `num / den`. The significand is found at the place where
it has its full width, or at the last place of the format where the value is subnormal. A carry
out of the significand moves into the exponent field by itself. -/
def Format.round (f : Format) (num den : Nat) : Nat :=
  let scaled := num * Nat.pow 2 f.unitPower
  let shift := (scaled / den).log2 + 1 - f.precision
  min f.infinity (shift * f.leading + nearestEven scaled (den * Nat.pow 2 shift))

/-- The product of two finite patterns, rounded. -/
def Format.times (f : Format) (a b : Nat) : Nat :=
  f.round (f.units a * f.units b) (Nat.pow 2 f.unitPower * Nat.pow 2 f.unitPower)

/-- The quotient of two finite patterns, rounded. -/
def Format.over (f : Format) (a b : Nat) : Nat :=
  f.round (f.units a) (f.units b)

/-- A number of the format: its sign and its pattern. -/
structure Binary (f : Format) where
  negative : Bool
  pattern : Nat
  fits : pattern < f.patterns
  deriving DecidableEq

/-- A 32-bit floating point number. -/
abbrev Single := Binary single

/-- A 64-bit floating point number. -/
abbrev Double := Binary double

namespace Binary

variable {f : Format}

/-- The number with the given bits; bits above the sign are ignored. -/
def ofBits (f : Format) (bits : Nat) : Binary f where
  negative := bits / f.patterns % 2 = 1
  pattern := bits % f.patterns
  fits := Nat.mod_lt _ (Nat.mul_pos (Nat.two_pow_pos _) (Nat.two_pow_pos _))

/-- The bits of a number, the sign first. -/
def toBits (x : Binary f) : Nat := (if x.negative then f.patterns else 0) + x.pattern

/-- The number with the given sign and a pattern that is cut to the format. -/
def ofPattern (f : Format) (negative : Bool) (pattern : Nat) : Binary f :=
  { ofBits f pattern with negative }

/-- Whether the pattern is not a number. -/
def isNaN (x : Binary f) : Bool := f.infinity < x.pattern

/-- Whether the pattern is an infinity. -/
def isInfinite (x : Binary f) : Bool := x.pattern = f.infinity

/-- Whether the pattern stands for a real number. -/
def isFinite (x : Binary f) : Bool := x.pattern < f.infinity

/-- Whether the number is zero of either sign. -/
def isZero (x : Binary f) : Bool := x.pattern = 0

/-- Comparison by value: NaN equals nothing, and the zeros of both signs are equal. -/
def same (x y : Binary f) : Bool :=
  !x.isNaN && x.pattern = y.pattern && (x.negative = y.negative || x.isZero)

/-- The number nearest to `num / den` with the given sign. -/
def ofQuotient (f : Format) (negative : Bool) (num den : Nat) : Binary f :=
  ofPattern f negative (f.round num den)

/-- The number nearest to a whole number. -/
def ofNat (f : Format) (negative : Bool) (n : Nat) : Binary f :=
  ofQuotient f negative n 1

/-- A number carried to another format: rounded when it is finite, kept when it is infinite, and
quiet when it is no number. -/
def convert (g : Format) (x : Binary f) : Binary g :=
  if x.isNaN then ofPattern g x.negative g.quietNaN
  else if x.isInfinite then ofPattern g x.negative g.infinity
  else ofQuotient g x.negative (f.units x.pattern) (Nat.pow 2 f.unitPower)

end Binary

end DecoderExport.Number
