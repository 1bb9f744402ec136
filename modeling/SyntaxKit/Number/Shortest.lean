import SyntaxKit.Number.Binary

/-!
# The shortest text of a fraction

A double stands for all numbers that are rounded to it.  Its shortest text has as few decimal places
as a number of that interval can have; of the numbers with so many places it is the one nearest to
the double.
-/

namespace SyntaxKit

namespace Dyadic

/-- Whether `n / Nat.pow 10 places` is rounded to `x`.  An end of the interval belongs to the double whose
numerator is even, and below a power of two the interval is only half as wide. -/
def isRoundedTo (x : Dyadic) (n places : Nat) : Bool :=
  let unit := Nat.pow 10 places
  let scaled := 4 * n * Nat.pow 2 x.shift
  let low := (4 * x.numerator - if x.numerator = Nat.pow 2 (precision - 1) then 1 else 2) * unit
  let high := (4 * x.numerator + 2) * unit
  if x.numerator % 2 = 0 then low ≤ scaled && scaled ≤ high else low < scaled && scaled < high

/-- Of the numbers with so many places that are rounded to `x` the one nearest to it, without its
point.  If there is any, then it is one of the two on either side of `x`. -/
def candidate? (x : Dyadic) (places : Nat) : Option Nat :=
  let below := x.numerator * Nat.pow 10 places / Nat.pow 2 x.shift
  match x.isRoundedTo below places, x.isRoundedTo (below + 1) places with
  | true, true => some (roundQuotient (x.numerator * Nat.pow 10 places) (Nat.pow 2 x.shift))
  | true, false => some below
  | false, true => some (below + 1)
  | false, false => none

/-- The most places that are tried. -/
def maxPlaces : Nat := 400

/-- The first number of places, from `places` on, with a number that is rounded to `x`. -/
def shortestFrom (x : Dyadic) : Nat → Nat → Nat × Nat
  | 0, places => (0, places)
  | fuel + 1, places =>
    match x.candidate? places with
    | some n => (n, places)
    | none => shortestFrom x fuel (places + 1)

/-- The shortest number that is rounded to `x`, without its point, and its number of places. -/
def shortest (x : Dyadic) : Nat × Nat :=
  if x.numerator = 0 then (0, 0) else x.shortestFrom maxPlaces 0

/-- The places from which on a small number is written with an exponent. -/
def maxLeadingPlaces : Nat := 4

/-- The shortest text of a number of at most one.  There is always a place behind the point, except
with an exponent. -/
def toShortest (x : Dyadic) : String :=
  let (n, places) := x.shortest
  let digits := toString n
  if n ≠ 0 ∧ digits.length + maxLeadingPlaces ≤ places then
    let fraction := digits.toList.drop 1
    String.ofList (digits.toList.take 1 ++ if fraction.isEmpty then [] else '.' :: fraction)
      ++ "e-" ++ toString (places + 1 - digits.length)
  else if places = 0 then digits ++ ".0"
  else toString (n / Nat.pow 10 places) ++ "." ++ padded (n % Nat.pow 10 places) places

end Dyadic

end SyntaxKit
