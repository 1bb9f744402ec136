/-!
# Bytes as text

Texts are stored as UTF-8.  `Utf8.pieces` cuts bytes into characters and into stretches that are no
character; such a stretch is as long as it is the start of some character, and one byte long if it
is not the start of any.  A reader either refuses such bytes or shows a replacement character for
each stretch.
-/

namespace SyntaxKit

namespace Utf8

/-- Whether a byte continues a character. -/
def isContinuation (b : UInt8) : Bool := 0x80 ≤ b && b < 0xC0

/-- The second bytes that may follow a first byte of a character of three bytes. -/
def isSecondOfThree (first second : UInt8) : Bool :=
  isContinuation second && (first != 0xE0 || 0xA0 ≤ second) && (first != 0xED || second < 0xA0)

/-- The second bytes that may follow a first byte of a character of four bytes. -/
def isSecondOfFour (first second : UInt8) : Bool :=
  isContinuation second && (first != 0xF0 || 0x90 ≤ second) && (first != 0xF4 || second < 0x90)

/-- The six bits of a byte that continues a character. -/
def payload (b : UInt8) : Nat := b.toNat % 64

/-- The characters of some bytes, with `none` for each stretch that is no character. -/
def pieces : List UInt8 → List (Option Char)
  | [] => []
  | a :: t =>
    if a < 0x80 then some (Char.ofNat a.toNat) :: pieces t
    else if 0xC2 ≤ a && a < 0xE0 then
      match t with
      | b :: t' =>
        if isContinuation b then
          some (Char.ofNat (a.toNat % 32 * 64 + payload b)) :: pieces t'
        else none :: pieces (b :: t')
      | [] => [none]
    else if 0xE0 ≤ a && a < 0xF0 then
      match t with
      | b :: t' =>
        if isSecondOfThree a b then
          match t' with
          | c :: t'' =>
            if isContinuation c then
              some (Char.ofNat ((a.toNat % 16 * 64 + payload b) * 64 + payload c)) :: pieces t''
            else none :: pieces (c :: t'')
          | [] => [none]
        else none :: pieces (b :: t')
      | [] => [none]
    else if 0xF0 ≤ a && a < 0xF5 then
      match t with
      | b :: t' =>
        if isSecondOfFour a b then
          match t' with
          | c :: t'' =>
            if isContinuation c then
              match t'' with
              | d :: t''' =>
                if isContinuation d then
                  some (Char.ofNat
                    (((a.toNat % 8 * 64 + payload b) * 64 + payload c) * 64 + payload d))
                    :: pieces t'''
                else none :: pieces (d :: t''')
              | [] => [none]
            else none :: pieces (c :: t'')
          | [] => [none]
        else none :: pieces (b :: t')
      | [] => [none]
    else none :: pieces t

/-- What some bytes begin with: a character, a stretch that is none, or nothing at all.  No character
has more than four bytes. -/
def first? (bytes : List UInt8) : Option (Option Char) := (pieces (bytes.take 4)).head?

/-- The character shown for bytes that are none. -/
def replacement : Char := Char.ofNat 0xFFFD

/-- The text of some bytes, if they are one. -/
def decode? (bytes : List UInt8) : Option (List Char) := (pieces bytes).mapM id

/-- The text of some bytes, with a replacement for what is no text. -/
def decode (bytes : List UInt8) : List Char := (pieces bytes).map (·.getD replacement)

/-- The bytes of a text. -/
def encode (text : List Char) : List UInt8 := text.flatMap String.utf8EncodeChar

end Utf8

end SyntaxKit
