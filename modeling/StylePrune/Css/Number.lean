import StylePrune.Text.Scalar

/-!
# Numbers in stylesheets

Numbers are exact fractions.  They are printed with six significant digits, in positional
notation from `0.000001` up to twenty-one digits before the point.
-/

namespace StylePrune

namespace Css

/-- A number as it was written. -/
structure Numeric where
  value : Rat
  /-- It was written without a fraction and an exponent. -/
  isInteger : Bool
  /-- It was written with a sign. -/
  signed : Bool
  deriving DecidableEq

/-- The least and the greatest whole number. -/
def wholeLimits : Int × Int :=
  (-2147483648, 2147483647)

/-- The whole number that was written without a fraction, or the limit that it exceeds. -/
def Numeric.whole? (n : Numeric) : Option Int :=
  if n.isInteger then some (max wholeLimits.1 (min wholeLimits.2 n.value.floor)) else none

namespace Number

/-- The number of significant digits that are printed. -/
def precision : Nat := 6

/-- Exponents beyond this size mean nothing else than very large or very small. -/
def exponentLimit : Nat := 60

def least (a b : Rat) : Rat :=
  if a ≤ b then a else b

def greatest (a b : Rat) : Rat :=
  if a ≤ b then b else a

def clamp (low high q : Rat) : Rat :=
  greatest low (least high q)

def powerOfTen (k : Nat) : Nat :=
  Nat.pow 10 k

/-- The value of a mantissa and a power of ten. -/
def scaled (mantissa : Nat) (exponent : Int) : Rat :=
  let exponent := max (-(exponentLimit : Int)) (min exponent exponentLimit)
  if exponent < 0 then mkRat mantissa (powerOfTen exponent.natAbs)
  else ((mantissa * powerOfTen exponent.natAbs : Nat) : Rat)

def digitCount (n : Nat) : Nat :=
  (Nat.toDigits 10 n).length

/-- `10 ^ k` is at most the fraction. -/
def reaches (num den : Nat) (k : Int) : Bool :=
  if k < 0 then den ≤ num * powerOfTen k.natAbs else den * powerOfTen k.natAbs ≤ num

/-- The place of the first digit: the fraction is below `10` to this power, barely. -/
def magnitude (num den : Nat) : Int :=
  let guess : Int := digitCount num - digitCount den
  if reaches num den guess then guess + 1 else guess

/-- The quotient rounded to the nearest number, halves upwards. -/
def roundedQuotient (num den : Nat) : Nat :=
  (2 * num + den) / (2 * den)

/-- The significant digits of a positive fraction as a number, and their place. -/
def significant (num den : Nat) : Nat × Int :=
  let place := magnitude num den
  let shift := (precision : Int) - place
  let digits :=
    if shift < 0 then roundedQuotient num (den * powerOfTen shift.natAbs)
    else roundedQuotient (num * powerOfTen shift.natAbs) den
  if digits ≥ powerOfTen precision then (digits / 10, place + 1) else (digits, place)

def trimZeros (digits : List Char) : List Char :=
  (digits.reverse.dropWhile (· == '0')).reverse

/-- Digits whose first one stands `place` digits before the point. -/
def positional (digits : List Char) (place : Int) : List Char :=
  if place ≤ 0 then ['0', '.'] ++ List.replicate place.natAbs '0' ++ digits
  else
    let whole := place.natAbs
    if digits.length ≤ whole then digits ++ List.replicate (whole - digits.length) '0'
    else digits.take whole ++ '.' :: digits.drop whole

def scientific (digits : List Char) (place : Int) : List Char :=
  let mantissa := match digits with
    | [] => ['0']
    | [d] => [d]
    | d :: rest => d :: '.' :: rest
  mantissa ++ 'e' :: (toString (place - 1)).toList

def printPositive (num den : Nat) : List Char :=
  let (digits, place) := significant num den
  let chars := trimZeros (Nat.toDigits 10 digits)
  if -6 < place ∧ place ≤ 21 then positional chars place else scientific chars place

/-- The number with a digit before the point. -/
def print (q : Rat) : String :=
  if q.num = 0 then "0"
  else
    let chars := printPositive q.num.natAbs q.den
    String.ofList (if q.num < 0 then '-' :: chars else chars)

def dropLeadingZero : List Char → List Char
  | '-' :: '0' :: '.' :: rest => '-' :: '.' :: rest
  | '0' :: '.' :: rest => '.' :: rest
  | s => s

/-- The number without a digit before the point where none is needed. -/
def compact (q : Rat) : String :=
  String.ofList (dropLeadingZero (print q).toList)

/-- The nearest whole number, halves away from zero. -/
def round (q : Rat) : Int :=
  if q.num < 0 then -((roundedQuotient q.num.natAbs q.den : Nat) : Int)
  else (roundedQuotient q.num.natAbs q.den : Nat)

end Number

end Css

end StylePrune
