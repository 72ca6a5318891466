import CatalogNames.Json.Basic
import CatalogNames.Json.Double

/-! Numerals: an optional minus, a whole part without leading zeros, an optional fraction and an
optional exponent. The size of a numeral is told by its leading digits, as many as fit 64 bits, and
their power of ten; a numeral whose size runs out of the double format is refused. Both the reading and
the layout of numbers follow serde_json, as an assumption. -/

namespace CatalogNames

namespace Number

/-- The whole numbers that fit 64 bits, signed or unsigned. -/
def fits (value : Int) : Bool := -Int.pow 2 63 ≤ value && value < Int.pow 2 64

def digitValue (digit : Char) : Nat := digit.toNat - '0'.toNat

def ofDigits (digits : Text) : Nat :=
  digits.foldl (fun value digit => 10 * value + digitValue digit) 0

/-- The value followed by the digits, as many of them as fit 64 bits, and the digits left over. -/
def extend (value : Nat) : Text → Nat × Text
  | [] => (value, [])
  | digit :: rest =>
      if 10 * value + digitValue digit < Nat.pow 2 64 then extend (10 * value + digitValue digit) rest
      else (value, digit :: rest)

/-- The leading digits of a numeral and their power of ten. A whole digit left over raises the power,
a fraction digit that is taken lowers it, and a fraction digit left over is dropped. -/
def leading (whole fraction : Text) (exponent : Int) : Nat × Int :=
  let (value, beyond) := extend 0 whole
  let (digits, dropped) := extend value fraction
  (digits, exponent + beyond.length - (fraction.length - dropped.length))

/-- The number of a numeral; the sign of a zero is kept, and such a zero is no integer. -/
def ofParts (negative : Bool) (whole fraction : Text) (exponent : Option Int) : Number :=
  let digits := ofDigits (whole ++ fraction)
  let value : Int := if negative then -digits else digits
  if fraction.isEmpty && exponent.isNone && fits value && !(negative && digits == 0) then
    .integer value
  else .decimal negative digits (exponent.getD 0 - fraction.length)

def natText (value : Nat) : Text := Nat.toDigits 10 value

def intText (value : Int) : Text :=
  if value < 0 then '-' :: natText value.natAbs else natText value.natAbs

/-- The digits with a point after so many of them, and zeros where there are no digits. -/
def pointed (digits : Text) (places : Int) : Text :=
  if 0 < places then
    let fraction := digits.drop places.toNat
    digits.take places.toNat ++ List.replicate (places.toNat - digits.length) '0' ++
      '.' :: (if fraction.isEmpty then ['0'] else fraction)
  else '0' :: '.' :: (List.replicate (-places).toNat '0' ++ digits)

/-- The digits with a point after the first of them, and the power of ten that takes it to its place. -/
def scientific (digits : Text) (places : Int) : Text :=
  digits.take 1 ++ (if digits.length ≤ 1 then [] else '.' :: digits.drop 1) ++
    'e' :: intText (places - 1)

/-- A decimal fraction without the zeros at the end of its digits. It has a power of ten only if the point
stands far outside of them. -/
def decimalText (digits : Nat) (exponent : Int) : Text :=
  if digits = 0 then "0.0".toList
  else
    let shown := ((natText digits).reverse.dropWhile fun digit => digit = '0').reverse
    let places := (natText digits).length + exponent
    if -5 < places ∧ places ≤ 16 then pointed shown places else scientific shown places

/-- A decimal fraction keeps all its digits, also where the double format would round it. -/
def text : Number → Text
  | .integer value => intText value
  | .decimal negative digits exponent =>
      (if negative then ['-'] else []) ++ decimalText digits exponent

/-- The digits at the start of the text, one at least, and the text after them. -/
def readDigits (text : Text) : Option (Text × Text) :=
  if (text.takeWhile Char.isDigit).isEmpty then none
  else some (text.takeWhile Char.isDigit, text.dropWhile Char.isDigit)

def readWhole (text : Text) : Option (Text × Text) := do
  let (digits, rest) ← readDigits text
  if digits.head? = some '0' ∧ 1 < digits.length then none else some (digits, rest)

def readFraction : Text → Option (Text × Text)
  | '.' :: rest => readDigits rest
  | text => some ([], text)

def readExponent : Text → Option (Option Int × Text)
  | [] => some (none, [])
  | mark :: rest =>
      if mark = 'e' ∨ mark = 'E' then do
        let (negative, rest) := match rest with
          | '-' :: rest => (true, rest)
          | '+' :: rest => (false, rest)
          | rest => (false, rest)
        let (digits, rest) ← readDigits rest
        some (some (if negative then -(ofDigits digits) else ofDigits digits), rest)
      else some (none, mark :: rest)

/-- The number at the start of the text and the text after it. -/
def read (text : Text) : Option (Number × Text) := do
  let (negative, rest) := match text with
    | '-' :: rest => (true, rest)
    | text => (false, text)
  let (whole, rest) ← readWhole rest
  let (fraction, rest) ← readFraction rest
  let (exponent, rest) ← readExponent rest
  let (digits, power) := leading whole fraction (exponent.getD 0)
  if Double.overflows digits power then none
  else some (ofParts negative whole fraction exponent, rest)

end Number

end CatalogNames
