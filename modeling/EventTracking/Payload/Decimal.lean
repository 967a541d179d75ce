/-!
# Shortest decimals

A floating-point number is shown by the fewest digits that read back as the same number; among
these by the nearest, and if two are equally near by the even one. All arithmetic is exact.

A number stands for the reals that round to it: those from halfway to the neighbour below up to
halfway to the neighbour above, with the two ends if its significand is even.
-/

namespace EventTracking.Payload

/-! ## Binary numbers -/

/-- The sizes of the two fields of a floating-point format. -/
structure Precision where
  /-- The number of bits of the fraction. -/
  fraction : Nat
  /-- The number of bits of the exponent. -/
  exponent : Nat
deriving DecidableEq, Repr

/-- Single precision: 32 bits. -/
def Precision.single : Precision := ⟨23, 8⟩

/-- Double precision: 64 bits. -/
def Precision.double : Precision := ⟨52, 11⟩

/-- A finite number: its sign and its magnitude `significand * 2 ^ exponent`. -/
structure Binary where
  /-- Whether the sign bit is set. -/
  negative : Bool
  /-- The significand. -/
  significand : Nat
  /-- The exponent. -/
  exponent : Int
  /-- Whether the neighbour below is half as far away as the neighbour above. -/
  narrowBelow : Bool
deriving DecidableEq, Repr

/-- The exponent of the least numbers of a format. -/
def Precision.leastExponent (precision : Precision) : Int :=
  2 - (1 <<< (precision.exponent - 1) : Nat) - precision.fraction

/-- The number with these bits; `none` for the infinities and what is no number. -/
def Binary.ofBits? (precision : Precision) (bits : Nat) : Option Binary :=
  let fraction := bits % (1 <<< precision.fraction)
  let exponent := (bits >>> precision.fraction) % (1 <<< precision.exponent)
  let negative := (bits >>> (precision.fraction + precision.exponent)) % 2 == 1
  if exponent + 1 = 1 <<< precision.exponent then none
  else if exponent = 0 then some ⟨negative, fraction, precision.leastExponent, false⟩
  else
    some
      ⟨negative, (1 <<< precision.fraction) + fraction, precision.leastExponent + exponent - 1,
       fraction == 0 && exponent != 1⟩

/-- The bits of a number in double precision, which can hold every number of either precision. The
least numbers have an exponent of their own and no leading bit. -/
def Binary.doubleBits (number : Binary) : Nat :=
  let sign := if number.negative then 1 <<< 63 else 0
  let top := number.significand.log2
  let exponent := number.exponent + top + 1023
  if exponent ≤ 0 then sign + (number.significand <<< (number.exponent + 1074).toNat)
  else if number.significand = 0 then sign
  else sign + (exponent.toNat <<< 52) + ((number.significand - (1 <<< top)) <<< (52 - top))

/-! ## Decimals -/

/-- The decimal `digits * 10 ^ exponent`. -/
structure Decimal where
  /-- The digits. -/
  digits : Nat
  /-- The exponent. -/
  exponent : Int
deriving DecidableEq, Repr

/-- A power of ten; the powers below one count as one. -/
def tenTo (exponent : Int) : Nat := Nat.pow 10 exponent.toNat

/-- Compares `a * 10 ^ i` with `n * 2 ^ j`. -/
def compareScaled (a : Nat) (i : Int) (n : Nat) (j : Int) : Ordering :=
  compare ((a * tenTo i) <<< (-j).toNat) ((n <<< j.toNat) * tenTo (-i))

/-- Whether a decimal reads back as the magnitude of a number. -/
def Binary.readsBack (number : Binary) (decimal : Decimal) : Bool :=
  let low := if number.narrowBelow then 4 * number.significand - 1 else 4 * number.significand - 2
  let high := 4 * number.significand + 2
  let ends := number.significand % 2 == 0
  let atLow := compareScaled decimal.digits decimal.exponent low (number.exponent - 2)
  let atHigh := compareScaled decimal.digits decimal.exponent high (number.exponent - 2)
  (atLow == .gt || ends && atLow == .eq) && (atHigh == .lt || ends && atHigh == .eq)

/-- The greatest decimal with an exponent that is no greater than the magnitude of a number. -/
def Binary.floorAt (number : Binary) (exponent : Int) : Decimal :=
  ⟨(number.significand <<< number.exponent.toNat) * tenTo (-exponent) /
      (tenTo exponent <<< (-number.exponent).toNat), exponent⟩

/-- The nearest of the two decimals around a number that reads back, if one does. -/
def Binary.nearestAt? (number : Binary) (exponent : Int) : Option Decimal :=
  let down := number.floorAt exponent
  let up : Decimal := ⟨down.digits + 1, exponent⟩
  match number.readsBack down, number.readsBack up with
  | true, false => some down
  | false, true => some up
  | false, false => none
  | true, true =>
    match compareScaled (2 * down.digits + 1) exponent (2 * number.significand)
        number.exponent with
    | .gt => some down
    | .lt => some up
    | .eq => if down.digits % 2 = 0 then some down else some up

/-- The first of at most `fuel` exponents, from `exponent` downwards, at which no decimal is greater
than the number but some is not zero. -/
def Binary.leadingFrom (number : Binary) : Nat → Int → Int
  | 0, exponent => exponent
  | fuel + 1, exponent =>
    if (number.floorAt exponent).digits = 0 then number.leadingFrom fuel (exponent - 1)
    else exponent

/-- A decimal without zeros at the end of its digits. -/
def dropZeros : (fuel : Nat) → Decimal → Decimal
  | 0, decimal => decimal
  | fuel + 1, decimal =>
    if decimal.digits % 10 = 0 then dropZeros fuel ⟨decimal.digits / 10, decimal.exponent + 1⟩
    else decimal

/-- The number of digits that always read back. -/
def enoughDigits : Nat := 17

/-- The shortest decimal that reads back as the magnitude of a number other than zero. -/
def Binary.shortest (number : Binary) : Decimal :=
  let leading := number.leadingFrom 700 310
  let found := (List.range enoughDigits).findSome? fun (more : Nat) =>
    number.nearestAt? (leading - more)
  dropZeros enoughDigits (found.getD (number.floorAt (leading - enoughDigits)))

/-! ## Layout -/

/-- Where numbers are written without an exponent: the positions of the leading digit. -/
structure Layout where
  /-- The least position. -/
  least : Int
  /-- The greatest position. -/
  greatest : Int

/-- How numbers of a format are laid out. -/
def Precision.layout (precision : Precision) : Layout :=
  if precision = .single then ⟨-6, 12⟩ else ⟨-5, 15⟩

/-- A row of zeros. -/
def zeros (count : Nat) : String := String.ofList (List.replicate count '0')

/-- A decimal in text. Without an exponent there is always a digit on both sides of the point; an
exponent always has a sign, and one digit alone has no point. -/
def Layout.write (layout : Layout) (decimal : Decimal) : String :=
  let digits := decimal.digits.repr
  let leading : Int := digits.length + decimal.exponent - 1
  if layout.least ≤ leading && leading ≤ layout.greatest then
    if 0 ≤ decimal.exponent then digits ++ zeros decimal.exponent.toNat ++ ".0"
    else if 0 ≤ leading then
      let whole := leading.toNat + 1
      String.ofList (digits.toList.take whole) ++ "." ++ String.ofList (digits.toList.drop whole)
    else "0." ++ zeros (-leading - 1).toNat ++ digits
  else
    let point := if digits.length = 1 then "" else "."
    let sign := if leading < 0 then "-" else "+"
    String.ofList (digits.toList.take 1) ++ point ++ String.ofList (digits.toList.drop 1) ++ "e" ++
      sign ++ leading.natAbs.repr

/-- A number in text. -/
def Binary.write (precision : Precision) (number : Binary) : String :=
  let sign := if number.negative then "-" else ""
  if number.significand = 0 then sign ++ "0.0"
  else sign ++ precision.layout.write number.shortest

end EventTracking.Payload
