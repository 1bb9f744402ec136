/-!
# Quotients in double precision

The nearest double to a quotient of two naturals, as an exact fraction with a power of two below the
line, and its decimal text with a fixed number of places.  Ties go to the even neighbour in both
steps.
-/

namespace SyntaxKit

/-- A natural over a power of two. -/
structure Dyadic where
  numerator : Nat
  shift : Nat
deriving DecidableEq, Repr, Inhabited

/-- The natural nearest to `n / d`; a tie goes to the even one. -/
def roundQuotient (n d : Nat) : Nat :=
  let q := n / d
  let r := n % d
  if d < 2 * r || (2 * r == d && q % 2 == 1) then q + 1 else q

namespace Dyadic

/-- How many bits a double keeps of a number. -/
def precision : Nat := 53

/-- How many binary places bring `n / d` to at least `2 ^ (precision - 1)`. -/
def shiftFor (n d : Nat) : Nat :=
  let guess := precision + d.log2 - n.log2
  if Nat.pow 2 precision ≤ n * Nat.pow 2 guess / d then guess - 1 else guess

/-- The double nearest to `n / d`, for a quotient between zero and one. -/
def ofQuotient (n d : Nat) : Dyadic :=
  if n = 0 then ⟨0, 0⟩
  else
    let shift := shiftFor n d
    ⟨roundQuotient (n * Nat.pow 2 shift) d, shift⟩

/-- Digits of a number, padded with zeros at the left. -/
def padded (n width : Nat) : String :=
  let digits := toString n
  String.ofList (List.replicate (width - digits.length) '0') ++ digits

/-- The decimal text with a number of places behind the point. -/
def toFixed (x : Dyadic) (places : Nat) : String :=
  let scaled := roundQuotient (x.numerator * Nat.pow 10 places) (Nat.pow 2 x.shift)
  toString (scaled / Nat.pow 10 places) ++ "." ++ padded (scaled % Nat.pow 10 places) places

end Dyadic

end SyntaxKit
