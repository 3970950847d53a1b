/-
This file holds numbers with a fraction as scripts print them. Such a number is an
integer times a power of two, with as many bits as double precision has. Reading
one rounds the exact value once, to the nearest number and in the middle to the
even one, and so does writing it with a given number of digits.
-/

import CommandShell.Script.Arithmetic

namespace CommandShell

namespace Script

/-- A number in double precision. -/
inductive Real
  /-- The mantissa times two to the power of the exponent. -/
  | finite (negative : Bool) (mantissa : Nat) (exponent : Int)
  | infinite (negative : Bool)
  | undefined (negative : Bool)
  deriving DecidableEq, Repr

/-- A quotient, rounded to the nearest integer and in the middle to the even one. -/
def roundQuotient (dividend divisor : Nat) : Nat :=
  let quotient := dividend / divisor
  let rest := dividend % divisor
  if divisor < 2 * rest ∨ (2 * rest = divisor ∧ quotient % 2 = 1) then quotient + 1 else quotient

/-- A quotient of which the divisor is first multiplied by a power of a base. -/
def scaled (base : Nat) (power : Int) (dividend divisor : Nat) : Nat × Nat :=
  if power < 0 then (dividend * Nat.pow base power.natAbs, divisor)
  else (dividend, divisor * Nat.pow base power.natAbs)

namespace Real

/-- The number of bits of a mantissa. -/
def precision : Nat := 53

/-- The least exponent. -/
def leastExponent : Int := -1074

/-- The least exponent with which a number is too great. -/
def exponentLimit : Int := 972

/-- The number nearest to a quotient, and whether the quotient is out of range. -/
def ofQuotient (negative : Bool) (dividend divisor : Nat) : Real × Bool :=
  if dividend = 0 then (.finite negative 0 0, false)
  else
    let guess : Int := (dividend.log2 : Int) - divisor.log2 - precision
    let fits := (scaled 2 guess dividend divisor).1 / (scaled 2 guess dividend divisor).2 <
      Nat.pow 2 precision
    let exponent := max leastExponent (if fits then guess else guess + 1)
    let (dividend, divisor) := scaled 2 exponent dividend divisor
    let rounded := roundQuotient dividend divisor
    let (mantissa, exponent) :=
      if rounded < Nat.pow 2 precision then (rounded, exponent) else (rounded / 2, exponent + 1)
    if exponentLimit ≤ exponent then (.infinite negative, true)
    else
      let tiny := mantissa < Nat.pow 2 (precision - 1)
      (.finite negative mantissa exponent, tiny && dividend % divisor != 0)

/-! ### Reading -/

/-- The digits of a base with a point among them, as an integer, the number of digits behind the
point, whether there was a digit, and the rest. -/
def takeFraction (base : Nat) (text : Text) : Nat × Nat × Bool × Text :=
  let (whole, rest) := takeDigits base 0 text
  let begun := rest.length < text.length
  match rest with
  | '.' :: after =>
    let (number, rest) := takeDigits base whole after
    let places := after.length - rest.length
    if begun || 0 < places then (number, places, true, rest) else (0, 0, false, text)
  | rest => (whole, 0, begun, rest)

/-- The power that stands behind a mark, and the rest. -/
def takePower (mark : Char) (text : Text) : Int × Text :=
  match text with
  | first :: after =>
    let (negative, digits) := match after with
      | '-' :: digits => (true, digits)
      | '+' :: digits => (false, digits)
      | digits => (false, digits)
    if first.toLower = mark ∧ (digits.head?.map (·.isDigit)).getD false then
      let (power, rest) := takeDigits 10 0 digits
      (if negative then -power else power, rest)
    else (0, text)
  | [] => (0, [])

/-- A power beyond which every number is out of range, so that none is worked out. -/
def powerLimit : Int := 100000

/-- The number with these digits, multiplied by a power of a base. -/
def ofDigits (negative : Bool) (digits base : Nat) (power : Int) : Real × Bool :=
  if digits = 0 then (.finite negative 0 0, false)
  else if powerLimit < power then (.infinite negative, true)
  else if power < -powerLimit then (.finite negative 0 0, true)
  else
    let (dividend, divisor) := scaled base (-power) digits 1
    ofQuotient negative dividend divisor

/-- A text without a word at its start, in whatever letters. -/
def dropWord? (word : String) (text : Text) : Option Text :=
  if (text.take word.length).map Char.toLower = word.toList then some (text.drop word.length)
  else none

/-- What may follow a number that is none: a word in brackets. -/
def dropNote (text : Text) : Text :=
  match text with
  | '(' :: after =>
    match after.dropWhile continuesName with
    | ')' :: rest => rest
    | _ => text
  | _ => text

/-- The number at the start of a text without a sign, whether it is out of range, and the rest.
There may be no number. -/
def takeUnsigned (negative : Bool) (text : Text) : Option (Real × Bool × Text) :=
  match (dropWord? "infinity" text).orElse fun _ => dropWord? "inf" text with
  | some rest => some (.infinite negative, false, rest)
  | none =>
    match dropWord? "nan" text with
    | some rest => some (.undefined negative, false, dropNote rest)
    | none =>
      match (dropWord? "0x" text).map (takeFraction 16) with
      | some (digits, places, true, rest) =>
        let (power, rest) := takePower 'p' rest
        let (number, wide) := ofDigits negative digits 2 (power - 4 * places)
        some (number, wide, rest)
      | _ =>
        match takeFraction 10 text with
        | (_, _, false, _) => none
        | (digits, places, true, rest) =>
          let (power, rest) := takePower 'e' rest
          let (number, wide) := ofDigits negative digits 10 (power - places)
          some (number, wide, rest)

/-- The number at the start of a text, whether it is out of range, and the rest. If there is none
it is zero, and all the text is left. -/
def take (text : Text) : Real × Bool × Text :=
  let found := match text.dropWhile isSpaceLetter with
    | '-' :: digits => takeUnsigned true digits
    | '+' :: digits => takeUnsigned false digits
    | digits => takeUnsigned false digits
  found.getD (.finite false 0 0, false, text)

/-! ### Writing -/

/-- How the digits of a number are written. -/
structure Style where
  /-- The number of digits, or of digits behind the point. -/
  digits : Nat
  /-- Whether there is always a point, and zeros at the end stay. -/
  full : Bool

/-- A finite number as a quotient. -/
def quotient (mantissa : Nat) (exponent : Int) : Nat × Nat :=
  scaled 2 (-exponent) mantissa 1

/-- Digits with a point before the last `places` of them. -/
def withPoint (style : Style) (places number : Nat) : Text :=
  let digits := Nat.toDigits 10 number
  let digits := List.replicate (places + 1 - digits.length) '0' ++ digits
  let whole := digits.take (digits.length - places)
  whole ++ (if places = 0 ∧ !style.full then [] else ['.']) ++ digits.drop whole.length

/-- A number with as many digits behind the point as the style says. -/
def fixed (style : Style) (dividend divisor : Nat) : Text :=
  withPoint style style.digits (roundQuotient (dividend * Nat.pow 10 style.digits) divisor)

/-- The power of ten of the first digit of a quotient that is not zero. -/
def firstPower (dividend divisor : Nat) : Int :=
  let guess : Int := ((dividend.log2 : Int) - divisor.log2) * 30103 / 100000 - 1
  let fits (power : Int) : Bool :=
    let (dividend, divisor) := scaled 10 power dividend divisor
    divisor ≤ dividend
  if fits (guess + 3) then guess + 3
  else if fits (guess + 2) then guess + 2
  else if fits (guess + 1) then guess + 1
  else guess

/-- The digits of a quotient, one more than the style says, and the power of ten of the first. -/
def leadingDigits (style : Style) (dividend divisor : Nat) : Nat × Int :=
  if dividend = 0 then (0, 0)
  else
    let power := firstPower dividend divisor
    let (scaledDividend, scaledDivisor) := scaled 10 (power - style.digits) dividend divisor
    let digits := roundQuotient scaledDividend scaledDivisor
    if digits < Nat.pow 10 (style.digits + 1) then (digits, power) else (digits / 10, power + 1)

/-- A power behind its mark. -/
def powerText (mark : Char) (width : Nat) (power : Int) : Text :=
  let digits := Nat.toDigits 10 power.natAbs
  mark :: (if power < 0 then '-' else '+') :: List.replicate (width - digits.length) '0' ++ digits

/-- A number with one digit before the point, and its power of ten. -/
def scientific (style : Style) (dividend divisor : Nat) : Text :=
  let (digits, power) := leadingDigits style dividend divisor
  withPoint style style.digits digits ++ powerText 'e' 2 power

/-- Digits with a point, without the zeros at the end. -/
def dropZeros (text : Text) : Text :=
  if text.contains '.' then
    let kept := (text.reverse.dropWhile (· == '0')).reverse
    if kept.getLast? = some '.' then kept.dropLast else kept
  else text

/-- A number with as many digits as the style says, without a power of ten unless it is far from
one. -/
def general (style : Style) (dividend divisor : Nat) : Text :=
  let count := max 1 style.digits
  let (digits, power) := leadingDigits { style with digits := count - 1 } dividend divisor
  let plain := -4 ≤ power ∧ power < count
  let places := if plain then ((count : Int) - 1 - power).toNat else count - 1
  let text := withPoint style places digits
  let text := if style.full then text else dropZeros text
  if plain then text else text ++ powerText 'e' 2 power

/-- A number in base sixteen and its power of two. Without a number of digits all of them are
written. -/
def hexadecimal (digits : Option Nat) (full : Bool) (mantissa : Nat) (exponent : Int) : Text :=
  let bits := precision - 1
  let shift := bits - mantissa.log2
  let normal := mantissa ≠ 0 ∧ leastExponent ≤ exponent - shift
  let (mantissa, power) : Nat × Int :=
    if mantissa = 0 then (0, 0)
    else if normal then (mantissa * Nat.pow 2 shift, exponent - shift + bits)
    else (mantissa * Nat.pow 2 (exponent - leastExponent).toNat, leastExponent + bits)
  let all := bits / 4
  let places := min all (digits.getD all)
  let number := roundQuotient mantissa (Nat.pow 2 (bits - 4 * places))
  let letters := Nat.toDigits 16 number
  let letters := List.replicate (places + 1 - letters.length) '0' ++ letters
  let whole := letters.take (letters.length - places)
  let fraction := letters.drop whole.length ++
    List.replicate ((digits.getD 0) - places) '0'
  let fraction := if digits.isNone then (fraction.reverse.dropWhile (· == '0')).reverse
    else fraction
  whole ++ (if fraction = [] ∧ !full then [] else ['.']) ++ fraction ++ powerText 'p' 1 power

/-- Whether a number is less than zero, or would be if it were one. -/
def isNegative : Real → Bool
  | .finite negative .. | .infinite negative | .undefined negative => negative

/-- A number without its sign, by the letter of the way to write it. What stands in front of its
digits comes first. -/
def text (kind : Char) (digits : Option Nat) (full : Bool) : Real → Text × Text
  | .infinite _ => ([], "inf".toList)
  | .undefined _ => ([], "nan".toList)
  | .finite _ mantissa exponent =>
    let style : Style := ⟨digits.getD 6, full⟩
    let (dividend, divisor) := quotient mantissa exponent
    match kind with
    | 'f' => ([], fixed style dividend divisor)
    | 'e' => ([], scientific style dividend divisor)
    | 'g' => ([], general style dividend divisor)
    | _ => (['0', 'x'], hexadecimal digits full mantissa exponent)

end Real

end Script

end CommandShell
