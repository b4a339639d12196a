import DecoderExport.Number.Binary

/-!
# Decimal texts of binary numbers

A `Decimal` is a whole number of digits and a power of ten. `Decimal.shortest` finds the decimal
with the fewest digits that rounds back to a given number, the nearest one where several have as
few; `Layout` says how such a decimal is written down.
-/

namespace DecoderExport.Number

/-- The number `digits * 10 ^ exponent`. -/
structure Decimal where
  digits : Nat
  exponent : Int
  deriving DecidableEq, Repr

/-- Where a value goes that lies halfway between two decimals. -/
inductive Tie where
  /-- To the larger magnitude. -/
  | away
  /-- To the decimal whose last digit is even. -/
  | even
  deriving DecidableEq, Repr

/-- The decimal digits of a natural number; zero has one. -/
def decimalDigits (n : Nat) : List Char := Nat.toDigits 10 n

/-- The reals that round to one pattern, in quarters of a unit. The ends belong to it when the
pattern is even. -/
structure Span where
  low : Nat
  value : Nat
  high : Nat
  closed : Bool
  deriving DecidableEq, Repr

/-- The span of a finite pattern other than zero. The gap below the smallest significand of a
binade is half of the gap above. -/
def Format.span (f : Format) (pattern : Nat) : Span :=
  let field := pattern / f.leading
  let gap := Nat.pow 2 (field - 1)
  let value := 4 * f.units pattern
  { low := value - (if pattern % f.leading = 0 && 1 < field then gap else 2 * gap)
    value
    high := value + 2 * gap
    closed := pattern % 2 = 0 }

/-- Whether `num / den` quarters of a unit lie in a span. -/
def Span.holds (s : Span) (num den : Nat) : Bool :=
  if s.closed then s.low * den ≤ num && num ≤ s.high * den
  else s.low * den < num && num < s.high * den

/-- The exponent of the leading decimal digit of `num / den`, for a positive quotient. -/
def leadingExponent (num den : Nat) : Int :=
  if den ≤ num then ((decimalDigits (num / den)).length : Int) - 1
  else
    let places := (decimalDigits (den / num)).length
    if den ≤ num * Nat.pow 10 (places - 1) then 1 - (places : Int) else -(places : Int)

namespace Decimal

/-- The decimal without trailing zeros among its digits. -/
def trim (d : Decimal) : Decimal :=
  if h : d.digits ≠ 0 ∧ d.digits % 10 = 0 then trim ⟨d.digits / 10, d.exponent + 1⟩ else d
termination_by d.digits
decreasing_by exact Nat.div_lt_self (Nat.pos_of_ne_zero h.1) (by decide)

/-- The decimal at the place `10 ^ exponent` that rounds back to a pattern and is nearest to it:
only the two neighbours of the value on that grid can be it. -/
def atPlace? (tie : Tie) (f : Format) (pattern : Nat) (exponent : Int) : Option Decimal :=
  let s := f.span pattern
  let up := Nat.pow 10 (-exponent).toNat
  let unit := 4 * Nat.pow 2 f.unitPower * Nat.pow 10 exponent.toNat
  let below := s.value * up / unit
  let rest := 2 * (s.value * up % unit)
  let holds := fun n => s.holds (n * unit) up
  match holds below, holds (below + 1) with
  | false, false => none
  | true, false => some ⟨below, exponent⟩
  | false, true => some ⟨below + 1, exponent⟩
  | true, true =>
    if rest < unit then some ⟨below, exponent⟩
    else if unit < rest then some ⟨below + 1, exponent⟩
    else match tie with
      | .away => some ⟨below + 1, exponent⟩
      | .even => some ⟨below + below % 2, exponent⟩

/-- The decimal of fewest digits that rounds back to a finite pattern other than zero. Seventeen
digits are enough for every pattern of both formats. -/
def shortest (tie : Tie) (f : Format) (pattern : Nat) : Decimal :=
  let leading := leadingExponent (f.units pattern) (Nat.pow 2 f.unitPower)
  let found := (List.range 17).findSome? fun (n : Nat) =>
    atPlace? tie f pattern (leading - (n : Int))
  (found.getD ⟨f.units pattern, 0⟩).trim

/-- The number nearest to a decimal. -/
def toBinary (f : Format) (negative : Bool) (d : Decimal) : Binary f :=
  .ofQuotient f negative (d.digits * Nat.pow 10 d.exponent.toNat)
    (Nat.pow 10 (-d.exponent).toNat)

end Decimal

/-- How a decimal is written. -/
structure Layout where
  /-- The exponents of the leading digit for which the digits are written in place; all of them
  when absent. -/
  inPlace : Option (Int × Int)
  /-- Whether a whole number in place ends in `.0`. -/
  markWhole : Bool
  /-- The fewest digits of a written exponent. -/
  exponentDigits : Nat
  deriving DecidableEq, Repr

namespace Layout

/-- The digits with the point in its place. -/
def place (l : Layout) (d : Decimal) : List Char :=
  let digits := decimalDigits d.digits
  let leading := d.exponent + digits.length - 1
  if 0 ≤ d.exponent then
    digits ++ List.replicate d.exponent.toNat '0' ++ (if l.markWhole then ['.', '0'] else [])
  else if 0 ≤ leading then
    digits.take (leading.toNat + 1) ++ '.' :: digits.drop (leading.toNat + 1)
  else
    '0' :: '.' :: (List.replicate (-leading - 1).toNat '0' ++ digits)

/-- One digit before the point, and the power of ten with its sign. -/
def scale (l : Layout) (d : Decimal) : List Char :=
  let digits := decimalDigits d.digits
  let leading := d.exponent + digits.length - 1
  let exponent := decimalDigits leading.natAbs
  digits.take 1 ++ (if digits.length = 1 then [] else '.' :: digits.drop 1) ++
    'e' :: (if 0 ≤ leading then '+' else '-') ::
      (List.replicate (l.exponentDigits - exponent.length) '0' ++ exponent)

/-- The text of a decimal other than zero. -/
def render (l : Layout) (d : Decimal) : List Char :=
  let leading := d.exponent + (decimalDigits d.digits).length - 1
  match l.inPlace with
  | none => l.place d
  | some (low, high) => if low ≤ leading && leading ≤ high then l.place d else l.scale d

end Layout

/-- How the finite numbers of a format are written: the tie rule of the digits and their
layout. -/
structure Style where
  tie : Tie
  layout : Layout
  deriving DecidableEq, Repr

/-- The text of a finite number: the sign, also of zero, then the shortest decimal. -/
def Style.text {f : Format} (style : Style) (x : Binary f) : List Char :=
  (if x.negative then ['-'] else []) ++
    if x.isZero then '0' :: (if style.layout.markWhole then ['.', '0'] else [])
    else style.layout.render (.shortest style.tie f x.pattern)

end DecoderExport.Number
