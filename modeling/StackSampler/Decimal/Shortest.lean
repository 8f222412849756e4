/-!
The shortest decimal that a binary floating-point number is read back from.

A double stands for every real number that rounds to it: an interval around its value, which
includes its ends when the significand is even. Of the decimals in that interval the shortest is
wanted, and of several shortest ones the nearest to the value, an even last digit winning a tie.
A grid of decimals has a point in the interval only if one of the value's two neighbours on it is
such a point, so for each number of digits these two are tried, and seventeen digits always do.
-/

namespace StackSampler.Decimal

structure Scientific where
  digits : Nat
  exponent : Int
deriving DecidableEq, Repr

/-- A positive value with the ends of its interval, as fractions with one denominator. -/
structure Target where
  lower : Nat
  value : Nat
  upper : Nat
  denominator : Nat
  closed : Bool
deriving DecidableEq, Repr

namespace Target

/-- The value `significand * 2 ^ exponent`. Just below a power of two the doubles are closer to
each other, so there the lower end is only half as far away. -/
def ofBinary (significand : Nat) (exponent : Int) (belowIsCloser : Bool) : Target where
  lower := (4 * significand - if belowIsCloser then 1 else 2) * Nat.pow 2 exponent.toNat
  value := 4 * significand * Nat.pow 2 exponent.toNat
  upper := (4 * significand + 2) * Nat.pow 2 exponent.toNat
  denominator := 4 * Nat.pow 2 (-exponent).toNat
  closed := significand % 2 == 0

def ofBits (bits : Nat) : Target :=
  let fraction : Nat := bits % 0x10000000000000
  let field : Nat := bits / 0x10000000000000 % 0x800
  if field = 0 then ofBinary fraction (-1074) false
  else
    ofBinary (0x10000000000000 + fraction) ((field : Int) - 1075) (fraction == 0 && 1 < field)

/-- How many times ten a fraction below one has to be taken to reach one, searched from `start`. -/
def climb (target : Target) : Nat → Nat → Nat
  | 0, start => start
  | fuel + 1, start =>
      if target.denominator ≤ target.value * Nat.pow 10 start then start
      else climb target fuel (start + 1)

def leadingPlace (target : Target) : Int :=
  if target.denominator ≤ target.value then
    ((Nat.toDigits 10 (target.value / target.denominator)).length : Int) - 1
  else
    -(climb target 400 ((target.denominator.log2 - target.value.log2 - 1) * 3 / 10) : Nat)

/-- Whether a fraction, given by its numerator over the target's denominator times `scale`, lies in
the interval. -/
def contains (target : Target) (scale numerator : Nat) : Bool :=
  if target.closed then
    target.lower * scale ≤ numerator && numerator ≤ target.upper * scale
  else
    target.lower * scale < numerator && numerator < target.upper * scale

/-- The better of the value's neighbours on the grid of whole multiples of `10 ^ place`, if one of
them lies in the interval. -/
def onGrid? (target : Target) (place : Int) : Option Scientific :=
  let unit := target.denominator * Nat.pow 10 place.toNat
  let scale := Nat.pow 10 (-place).toNat
  let value := target.value * scale
  let below := value / unit
  let toBelow := value - below * unit
  let toAbove := (below + 1) * unit - value
  let belowFits := target.contains scale (below * unit)
  let aboveFits := target.contains scale ((below + 1) * unit)
  let belowWins := toBelow < toAbove || (toBelow = toAbove && below % 2 = 0)
  if belowFits && (belowWins || !aboveFits) then some ⟨below, place⟩
  else if aboveFits then some ⟨below + 1, place⟩
  else none

def shortest (target : Target) : Scientific :=
  let leading := target.leadingPlace
  match (List.range 17).findSome? fun (more : Nat) => target.onGrid? (leading - (more : Int)) with
  | some found => found
  | none => ⟨target.value / target.denominator, 0⟩

end Target

def Scientific.normalize (decimal : Scientific) : Scientific :=
  let digits := Nat.toDigits 10 decimal.digits
  let zeros := (digits.reverse.takeWhile (· = '0')).length
  if decimal.digits = 0 then ⟨0, 0⟩
  else ⟨decimal.digits / Nat.pow 10 zeros, decimal.exponent + zeros⟩

/-- The shortest decimal of a positive finite double, given by its bits. -/
def shortestOfBits (bits : Nat) : Scientific := (Target.ofBits bits).shortest.normalize

end StackSampler.Decimal
