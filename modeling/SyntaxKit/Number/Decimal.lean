import SyntaxKit.Number.Binary

/-!
# Reading decimal numbers

A decimal text is read as the nearest double, with ties to the even one; a number too large for a
double is infinite, and one too small is zero.  Besides digits with an optional point and exponent,
the words `inf`, `infinity` and `nan` are read in any case.
-/

namespace SyntaxKit

/-- A number in double precision. -/
inductive Double where
  | finite (value : Rat)
  | infinite (negative : Bool)
  | notANumber
deriving DecidableEq, Repr

namespace Double

/-- The binary places behind the point of the smallest double. -/
def maxShift : Nat := 1074

/-- The double nearest to `n / d`, without its sign. -/
def nearest (n d : Nat) : Double :=
  if n = 0 then .finite 0
  else
    let guess : Int := n.log2 - d.log2
    let isLow := n * Nat.pow 2 (-guess).toNat < d * Nat.pow 2 guess.toNat
    let exponent := if isLow then guess - 1 else guess
    let shift := min (Dyadic.precision - 1 - exponent) maxShift
    let m := roundQuotient (n * Nat.pow 2 shift.toNat) (d * Nat.pow 2 (-shift).toNat)
    let value : Rat := mkRat (m * Nat.pow 2 (-shift).toNat) (Nat.pow 2 shift.toNat)
    if mkRat (Nat.pow 2 1024) 1 ≤ value then .infinite false else .finite value

/-- The number of the other sign. -/
def neg : Double → Double
  | .finite value => .finite (-value)
  | .infinite negative => .infinite (!negative)
  | .notANumber => .notANumber

/-- Decimal exponents at and above which every number is infinite, and below whose opposite every
number is zero. -/
def maxExponent : Nat := 400

/-- The double nearest to `mantissa * 10 ^ exponent`. -/
def ofDecimal (mantissa : Nat) (exponent : Int) : Double :=
  let size : Int := (toString mantissa).length + exponent
  if mantissa = 0 then .finite 0
  else if (maxExponent : Int) ≤ size then .infinite false
  else if size ≤ -(maxExponent : Int) then .finite 0
  else nearest (mantissa * Nat.pow 10 exponent.toNat) (Nat.pow 10 (-exponent).toNat)

/-- The value of decimal digits. -/
def digitsValue (digits : List Char) : Nat :=
  digits.foldl (fun n c => 10 * n + (c.toNat - '0'.toNat)) 0

/-- An exponent with its mark; nothing may be missing. -/
def readExponent? : List Char → Option Int
  | [] => some 0
  | mark :: t =>
    if mark = 'e' || mark = 'E' then
      let (negative, digits) :=
        match t with
        | '-' :: digits => (true, digits)
        | '+' :: digits => (false, digits)
        | digits => (false, digits)
      if digits.isEmpty || !digits.all Char.isDigit then none
      else
        let value : Int := digitsValue digits
        some (if negative then -value else value)
    else none

/-- A decimal number without a sign. -/
def readUnsigned? (text : List Char) : Option Double :=
  let word := (String.ofList text).toLower
  if word = "inf" || word = "infinity" then some (.infinite false)
  else if word = "nan" then some .notANumber
  else
    let (whole, rest) := text.span Char.isDigit
    let (fraction, rest) :=
      match rest with
      | '.' :: rest => rest.span Char.isDigit
      | rest => ([], rest)
    if whole.isEmpty && fraction.isEmpty then none
    else
      (readExponent? rest).map fun exponent =>
        ofDecimal (digitsValue (whole ++ fraction)) (exponent - fraction.length)

/-- A decimal number. -/
def read? : List Char → Option Double
  | '-' :: t => (readUnsigned? t).map neg
  | '+' :: t => readUnsigned? t
  | t => readUnsigned? t

end Double

end SyntaxKit
