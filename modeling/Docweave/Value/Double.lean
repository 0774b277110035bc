import Docweave.Text.Basic

/-!
# Double-precision numbers

A finite number is a sign, a mantissa below 2^53 and a power of two, so that all arithmetic on it is
exact arithmetic on natural numbers. Reading a decimal rounds to the nearest number and to the even
mantissa on a tie. Writing takes the fewest decimal digits that read back to the same number.
-/

namespace Docweave

/-- A double-precision number. A finite one stands for `mantissa * 2 ^ exponent` with its sign. -/
inductive Double where
  | finite (negative : Bool) (mantissa : Nat) (exponent : Int)
  | infinite (negative : Bool)
  | notANumber
  deriving DecidableEq, Repr, Inhabited

namespace Double

/-- Divide and round to the nearest number, a tie to the even one. -/
def roundDiv (numerator denominator : Nat) : Nat :=
  let quotient := numerator / denominator
  let doubled := 2 * (numerator % denominator)
  if doubled > denominator || (doubled == denominator && quotient % 2 == 1) then quotient + 1
  else quotient

/-- The least exponent of a finite number. -/
def leastExponent : Int := -1074

/-- The greatest exponent of a finite number. -/
def greatestExponent : Int := 971

/-- A quotient divided by a power of two. -/
def scale (numerator denominator : Nat) (exponent : Int) : Nat × Nat :=
  (numerator * Nat.pow 2 (-exponent).toNat, denominator * Nat.pow 2 exponent.toNat)

/-- The exponent at which the mantissa of a positive quotient has 53 bits before it is rounded, or else the least
one. Of two neighbouring exponents the lengths of the parts leave open which it is. -/
def exponentOf (numerator denominator : Nat) : Int :=
  let guess : Int := (numerator.log2 : Int) - denominator.log2 - 52
  let (above, below) := scale numerator denominator guess
  max leastExponent (if above / below < Nat.pow 2 52 then guess - 1 else guess)

/-- The number nearest to a quotient of natural numbers. -/
def ofQuotient (negative : Bool) (numerator denominator : Nat) : Double :=
  if numerator = 0 then .finite negative 0 leastExponent
  else
    let exponent := exponentOf numerator denominator
    let (above, below) := scale numerator denominator exponent
    let mantissa := roundDiv above below
    let (mantissa, exponent) :=
      if mantissa ≥ Nat.pow 2 53 then (mantissa / 2, exponent + 1) else (mantissa, exponent)
    if exponent > greatestExponent then .infinite negative else .finite negative mantissa exponent

/-- The number nearest to `digits * 10 ^ power`. Powers far outside the range need no arithmetic. -/
def ofDecimal (negative : Bool) (digits : Nat) (power : Int) : Double :=
  let size : Int := (Nat.toDigits 10 digits).length
  if digits = 0 ∨ size + power < -400 then .finite negative 0 leastExponent
  else if size + power > 400 then .infinite negative
  else ofQuotient negative (digits * Nat.pow 10 power.toNat) (Nat.pow 10 (-power).toNat)

/-- A finite number as a quotient. -/
def quotient? : Double → Option (Int × Nat)
  | .finite negative mantissa exponent =>
    let size : Int := (mantissa * Nat.pow 2 exponent.toNat : Nat)
    some (if negative then -size else size, Nat.pow 2 (-exponent).toNat)
  | _ => none

/-- The number nearest to a whole number. -/
def ofNat (number : Nat) : Double := ofQuotient false number 1

/-- Whether a number has a minus sign. -/
def isNegative : Double → Bool
  | .finite negative _ _ | .infinite negative => negative
  | .notANumber => false

/-- The number with the other sign. -/
def neg : Double → Double
  | .finite negative mantissa exponent => .finite (!negative) mantissa exponent
  | .infinite negative => .infinite (!negative)
  | .notANumber => .notANumber

/-- The sum of two numbers, rounded. A sum of zero has a minus sign only if both numbers have one. -/
def add (left right : Double) : Double :=
  match left.quotient?, right.quotient? with
  | some (above, below), some (above', below') =>
    let sum := above * below' + above' * below
    let negative := if sum = 0 then left.isNegative && right.isNegative else decide (sum < 0)
    ofQuotient negative sum.natAbs (below * below')
  | some _, none => right
  | none, some _ => left
  | none, none => if left = right then left else .notANumber

/-- The product of two numbers, rounded. -/
def mul (left right : Double) : Double :=
  let negative := left.isNegative != right.isNegative
  match left.quotient?, right.quotient? with
  | some (above, below), some (above', below') =>
    ofQuotient negative (above.natAbs * above'.natAbs) (below * below')
  | some (0, _), none | none, some (0, _) => .notANumber
  | _, _ => if left = .notANumber || right = .notANumber then .notANumber else .infinite negative

/-- The power of ten of the first digit of a quotient below one, found by scaling up. -/
def leadingPowerBelowOne (numerator denominator : Nat) : (fuel : Nat) → (power : Int) → Int
  | 0, power => power
  | fuel + 1, power =>
    if numerator ≥ denominator then power
    else leadingPowerBelowOne (numerator * 10) denominator fuel (power - 1)

/-- The power of ten of the first digit of a positive quotient. -/
def leadingPower (numerator denominator : Nat) : Int :=
  if numerator ≥ denominator then ((Nat.toDigits 10 (numerator / denominator)).length : Int) - 1
  else leadingPowerBelowOne numerator denominator 400 0

/-- The decimal of at most `count` digits that reads back to a number, if there is one. Of the two
decimals around the number the nearer one is tried first. -/
def decimalOf? (mantissa : Nat) (exponent : Int) (count : Nat) : Option (Nat × Int) :=
  let numerator := mantissa * Nat.pow 2 exponent.toNat
  let denominator := Nat.pow 2 (-exponent).toNat
  let power := leadingPower numerator denominator - (count - 1 : Nat)
  let scaled := numerator * Nat.pow 10 (-power).toNat
  let unit := denominator * Nat.pow 10 power.toNat
  let below := scaled / unit
  let nearest := roundDiv scaled unit
  let other := if nearest = below then below + 1 else below
  let readsBack (digits : Nat) := ofDecimal false digits power == .finite false mantissa exponent
  if readsBack nearest then some (nearest, power)
  else if readsBack other then some (other, power)
  else none

/-- The first decimal that reads back, from `count` digits on. -/
def shortestFrom (mantissa : Nat) (exponent : Int) : (fuel count : Nat) → Nat × Int
  | 0, _ => (mantissa, exponent)
  | fuel + 1, count => (decimalOf? mantissa exponent count).getD (shortestFrom mantissa exponent fuel (count + 1))

/-- The digits of the shortest decimal without trailing zeros, and the power of ten of the first. -/
def shortest (mantissa : Nat) (exponent : Int) : Text × Int :=
  let (digits, power) := shortestFrom mantissa exponent 17 1
  let written := Text.ofNat digits
  (Text.dropTrailing (· = '0') written, power + written.length - 1)

/-- Write the digits of a number whose first digit stands for a given power of ten: positionally from
a ten-thousandth up to sixteen places before the point, else with an exponent of at least two
digits. -/
def layout (digits : Text) (power : Int) : Text :=
  if -4 ≤ power ∧ power < 16 then
    if power < 0 then "0." ++ List.replicate (-power - 1).toNat '0' ++ digits
    else
      let whole := power.toNat + 1
      if digits.length ≤ whole then digits ++ List.replicate (whole - digits.length) '0' ++ ".0"
      else digits.take whole ++ '.' :: digits.drop whole
  else
    let exponent := Text.ofNat power.natAbs
    let mantissa :=
      match digits with
      | [] => []
      | [digit] => [digit]
      | digit :: rest => digit :: '.' :: rest
    mantissa ++ (if power < 0 then "e-" else "e+")
      ++ List.replicate (2 - exponent.length) '0' ++ exponent

/-- The text of a number. -/
def render : Double → Text
  | .notANumber => "nan"
  | .infinite negative => if negative then "-inf" else "inf"
  | .finite negative mantissa exponent =>
    let sign : Text := if negative then ['-'] else []
    if mantissa = 0 then sign ++ "0.0"
    else
      let (digits, power) := shortest mantissa exponent
      sign ++ layout digits power

/-- Whether a number is zero of either sign. -/
def isZero : Double → Bool
  | .finite _ mantissa _ => mantissa == 0
  | _ => false

end Double

end Docweave
