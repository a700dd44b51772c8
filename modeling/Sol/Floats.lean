import Sol.Chars
import Mathlib.Data.Int.Log
import Mathlib.Data.Rat.Floor

/-!
# Floating-point numbers

The values of the binary interchange formats, as the rational numbers they are; zeros are not
told apart by their signs.  A decimal number is read exactly, and rounded to the nearest value,
ties to even.
-/

namespace Floats

open Chars

inductive Value
  | nan
  | infinite (negative : Bool)
  | finite (value : ℚ)
  deriving DecidableEq, Repr

structure Format where
  /-- The bits of a significand. -/
  precision : ℕ
  minExponent : ℤ
  maxExponent : ℤ

def binary32 : Format := ⟨24, -126, 127⟩

def binary64 : Format := ⟨53, -1022, 1023⟩

def roundEven (value : ℚ) : ℤ :=
  let below := ⌊value⌋
  let rest := value - below
  if rest < 1 / 2 then below
  else if 1 / 2 < rest then below + 1
  else if Even below then below
  else below + 1

def Format.round (format : Format) (value : ℚ) : Value :=
  if value = 0 then .finite 0
  else
    let exponent := max (Int.log 2 |value|) format.minExponent
    let ulp : ℚ := 2 ^ (exponent - (format.precision - 1))
    let rounded := roundEven (|value| / ulp) * ulp
    if 2 ^ (format.maxExponent + 1) ≤ rounded then .infinite (value < 0)
    else .finite (if value < 0 then -rounded else rounded)

/-- A value of another format, as a value of the format. -/
def Format.convert (format : Format) : Value → Value
  | .finite value => format.round value
  | value => value

namespace Value

def le : Value → Value → Bool
  | nan, _ => false
  | _, nan => false
  | infinite true, _ => true
  | _, infinite false => true
  | finite a, finite b => a ≤ b
  | _, _ => false

def isFinite : Value → Bool
  | finite _ => true
  | _ => false

def lt (a b : Value) : Bool := le a b && !le b a

/-- `(lower..=upper).contains(&self)`. -/
def inRange (lower upper value : Value) : Bool := le lower value && le value upper

end Value

/-! ### Decimal numbers -/

/-- An exponent, after its letter. -/
def parseExponent (text : Text) : Option ℤ :=
  let sign : ℤ := if text.head? = some '-' then -1 else 1
  let digits := match text with
    | '-' :: digits => digits
    | '+' :: digits => digits
    | digits => digits
  if digits = [] ∨ ¬digits.all isDigit then none else some (sign * digitsValue digits)

/-- Digits, maybe with a point among them, and maybe with an exponent. -/
def parseNumber (text : Text) : Option ℚ :=
  let whole := text.takeWhile isDigit
  let rest := text.dropWhile isDigit
  let afterPoint := match rest with
    | '.' :: rest => rest
    | _ => []
  let fraction := afterPoint.takeWhile isDigit
  let rest := match rest with
    | '.' :: _ => afterPoint.dropWhile isDigit
    | _ => rest
  if whole = [] ∧ fraction = [] then none
  else
    let exponent : Option ℤ := match rest with
      | [] => some 0
      | c :: rest => if c = 'e' ∨ c = 'E' then parseExponent rest else none
    exponent.map fun (exponent : ℤ) =>
      (digitsValue (whole ++ fraction) : ℚ) * 10 ^ (exponent - (fraction.length : ℤ))

/-- `str::parse::<f64>`. -/
def parse (text : Text) : Option Value :=
  let negative := text.head? = some '-'
  let unsigned := match text with
    | '-' :: unsigned => unsigned
    | '+' :: unsigned => unsigned
    | unsigned => unsigned
  let lower := toAsciiLowercase unsigned
  if lower = "inf".toList ∨ lower = "infinity".toList then some (.infinite negative)
  else if lower = "nan".toList then some .nan
  else (parseNumber unsigned).map fun value =>
    binary64.round (if negative then -value else value)

example : parse "-12.5e1".toList = some (.finite (-125)) := by decide +kernel

end Floats
