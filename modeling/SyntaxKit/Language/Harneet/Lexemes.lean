import SyntaxKit.Language.Basic

/-!
# The lexical automaton of Harneet

A deterministic automaton for all tokens of the language at once.  Parsing starts it in one of
three states: `0` where expressions and statements may stand, and two others inside bodies where a
line break is a separator of its own or where no value can start.  A NUL character is on no edge,
which is why a class that is written as a complement starts at `1`.
-/

namespace SyntaxKit.Harneet

/-- The states of the lexical automaton: the token that ends there, the state to enter at the end
of the text, and the edges with their character ranges. -/
def lexStates : Array LexState := #[
  ⟨none, some 1, [
    ⟨[(9, 13), (32, 32)], 0, true⟩, ⟨[(33, 33)], 2, false⟩, ⟨[(34, 34)], 3, false⟩,
    ⟨[(37, 37)], 4, false⟩, ⟨[(38, 38)], 5, false⟩, ⟨[(39, 39)], 6, false⟩,
    ⟨[(40, 40)], 7, false⟩, ⟨[(41, 41)], 8, false⟩, ⟨[(42, 42)], 9, false⟩,
    ⟨[(43, 43)], 10, false⟩, ⟨[(44, 44)], 11, false⟩, ⟨[(45, 45)], 12, false⟩,
    ⟨[(46, 46)], 13, false⟩, ⟨[(47, 47)], 14, false⟩, ⟨[(48, 48)], 15, false⟩,
    ⟨[(49, 57)], 16, false⟩, ⟨[(58, 58)], 17, false⟩, ⟨[(59, 59)], 18, false⟩,
    ⟨[(60, 60)], 19, false⟩, ⟨[(61, 61)], 20, false⟩, ⟨[(62, 62)], 21, false⟩,
    ⟨[(65, 90), (95, 95), (97, 122)], 22, false⟩, ⟨[(91, 91)], 23, false⟩,
    ⟨[(93, 93)], 24, false⟩, ⟨[(94, 94)], 25, false⟩, ⟨[(96, 96)], 26, false⟩,
    ⟨[(123, 123)], 27, false⟩, ⟨[(124, 124)], 28, false⟩, ⟨[(125, 125)], 29, false⟩]⟩,
  ⟨some 0, none, []⟩,
  ⟨some 74, none, [
    ⟨[(61, 61)], 30, false⟩]⟩,
  ⟨none, none, [
    ⟨[(1, 9), (11, 33), (35, 91), (93, 1114111)], 3, false⟩, ⟨[(34, 34)], 31, false⟩,
    ⟨[(92, 92)], 32, false⟩]⟩,
  ⟨some 91, none, [
    ⟨[(61, 61)], 33, false⟩]⟩,
  ⟨some 85, none, []⟩,
  ⟨none, none, [
    ⟨[(1, 38), (40, 91), (93, 1114111)], 34, false⟩, ⟨[(92, 92)], 76, false⟩]⟩,
  ⟨some 22, none, []⟩,
  ⟨some 23, none, []⟩,
  ⟨some 89, none, [
    ⟨[(42, 42)], 35, false⟩, ⟨[(61, 61)], 36, false⟩]⟩,
  ⟨some 88, none, [
    ⟨[(61, 61)], 37, false⟩]⟩,
  ⟨some 11, none, []⟩,
  ⟨some 72, none, [
    ⟨[(48, 48)], 38, false⟩, ⟨[(49, 57)], 16, false⟩, ⟨[(61, 61)], 39, false⟩]⟩,
  ⟨some 93, none, []⟩,
  ⟨some 90, none, [
    ⟨[(42, 42)], 40, false⟩, ⟨[(47, 47)], 41, false⟩, ⟨[(61, 61)], 42, false⟩]⟩,
  ⟨some 3, none, [
    ⟨[(46, 46)], 43, false⟩, ⟨[(66, 66), (98, 98)], 44, false⟩,
    ⟨[(69, 69), (101, 101)], 45, false⟩, ⟨[(79, 79), (111, 111)], 46, false⟩,
    ⟨[(88, 88), (120, 120)], 47, false⟩]⟩,
  ⟨some 3, none, [
    ⟨[(46, 46)], 43, false⟩, ⟨[(48, 57)], 16, false⟩, ⟨[(69, 69), (101, 101)], 45, false⟩]⟩,
  ⟨some 94, none, [
    ⟨[(61, 61)], 48, false⟩]⟩,
  ⟨some 20, none, []⟩,
  ⟨some 79, none, [
    ⟨[(60, 60)], 49, false⟩, ⟨[(61, 61)], 50, false⟩]⟩,
  ⟨some 14, none, [
    ⟨[(61, 61)], 51, false⟩, ⟨[(62, 62)], 52, false⟩]⟩,
  ⟨some 80, none, [
    ⟨[(61, 61)], 53, false⟩, ⟨[(62, 62)], 54, false⟩]⟩,
  ⟨some 1, none, [
    ⟨[(48, 57), (65, 90), (95, 95), (97, 122)], 22, false⟩]⟩,
  ⟨some 61, none, []⟩,
  ⟨some 62, none, []⟩,
  ⟨some 84, none, []⟩,
  ⟨none, none, [
    ⟨[(1, 91), (93, 95), (97, 1114111)], 26, false⟩, ⟨[(92, 92)], 78, false⟩,
    ⟨[(96, 96)], 31, false⟩]⟩,
  ⟨some 18, none, []⟩,
  ⟨some 83, none, [
    ⟨[(62, 62)], 55, false⟩]⟩,
  ⟨some 19, none, []⟩,
  ⟨some 78, none, []⟩,
  ⟨some 5, none, []⟩,
  ⟨none, none, [
    ⟨[(1, 9), (11, 1114111)], 3, false⟩]⟩,
  ⟨some 40, none, []⟩,
  ⟨none, none, [
    ⟨[(39, 39)], 56, false⟩]⟩,
  ⟨some 92, none, []⟩,
  ⟨some 38, none, []⟩,
  ⟨some 36, none, []⟩,
  ⟨some 3, none, [
    ⟨[(46, 46)], 43, false⟩, ⟨[(69, 69), (101, 101)], 45, false⟩]⟩,
  ⟨some 37, none, []⟩,
  ⟨none, none, [
    ⟨[(1, 41), (43, 1114111)], 40, false⟩, ⟨[(42, 42)], 57, false⟩]⟩,
  ⟨some 7, none, [
    ⟨[(1, 9), (11, 1114111)], 41, false⟩]⟩,
  ⟨some 39, none, []⟩,
  ⟨none, none, [
    ⟨[(48, 57)], 58, false⟩]⟩,
  ⟨none, none, [
    ⟨[(48, 49)], 59, false⟩]⟩,
  ⟨none, none, [
    ⟨[(43, 43), (45, 45)], 77, false⟩, ⟨[(48, 57)], 60, false⟩]⟩,
  ⟨none, none, [
    ⟨[(48, 55)], 61, false⟩]⟩,
  ⟨none, none, [
    ⟨[(48, 57), (65, 70), (97, 102)], 62, false⟩]⟩,
  ⟨some 35, none, []⟩,
  ⟨some 86, none, []⟩,
  ⟨some 81, none, []⟩,
  ⟨some 77, none, []⟩,
  ⟨some 96, none, []⟩,
  ⟨some 82, none, []⟩,
  ⟨some 87, none, []⟩,
  ⟨some 68, none, []⟩,
  ⟨some 6, none, []⟩,
  ⟨none, none, [
    ⟨[(1, 41), (43, 46), (48, 1114111)], 40, false⟩, ⟨[(42, 42)], 57, false⟩,
    ⟨[(47, 47)], 63, false⟩]⟩,
  ⟨some 4, none, [
    ⟨[(48, 57)], 58, false⟩, ⟨[(69, 69), (101, 101)], 45, false⟩]⟩,
  ⟨some 3, none, [
    ⟨[(48, 49)], 59, false⟩]⟩,
  ⟨some 4, none, [
    ⟨[(48, 57)], 60, false⟩]⟩,
  ⟨some 3, none, [
    ⟨[(48, 55)], 61, false⟩]⟩,
  ⟨some 3, none, [
    ⟨[(48, 57), (65, 70), (97, 102)], 62, false⟩]⟩,
  ⟨some 7, none, []⟩,
  ⟨none, none, [
    ⟨[(9, 9), (11, 13), (32, 32)], 64, true⟩, ⟨[(10, 10)], 65, false⟩, ⟨[(40, 40)], 7, false⟩,
    ⟨[(47, 47)], 66, false⟩, ⟨[(59, 59)], 18, false⟩,
    ⟨[(65, 90), (95, 95), (97, 122)], 22, false⟩, ⟨[(91, 91)], 23, false⟩,
    ⟨[(125, 125)], 29, false⟩]⟩,
  ⟨some 65, none, [
    ⟨[(10, 10)], 65, false⟩]⟩,
  ⟨none, none, [
    ⟨[(42, 42)], 40, false⟩, ⟨[(47, 47)], 41, false⟩]⟩,
  ⟨none, none, [
    ⟨[(9, 13), (32, 32)], 67, true⟩, ⟨[(33, 33)], 68, false⟩, ⟨[(37, 37)], 69, false⟩,
    ⟨[(38, 38)], 5, false⟩, ⟨[(40, 40)], 7, false⟩, ⟨[(41, 41)], 8, false⟩,
    ⟨[(42, 42)], 70, false⟩, ⟨[(43, 43)], 71, false⟩, ⟨[(44, 44)], 11, false⟩,
    ⟨[(45, 45)], 72, false⟩, ⟨[(46, 46)], 13, false⟩, ⟨[(47, 47)], 73, false⟩,
    ⟨[(58, 58)], 74, false⟩, ⟨[(60, 60)], 19, false⟩, ⟨[(61, 61)], 75, false⟩,
    ⟨[(62, 62)], 21, false⟩, ⟨[(65, 90), (95, 95), (97, 122)], 22, false⟩,
    ⟨[(91, 91)], 23, false⟩, ⟨[(93, 93)], 24, false⟩, ⟨[(94, 94)], 25, false⟩,
    ⟨[(123, 123)], 27, false⟩, ⟨[(124, 124)], 28, false⟩, ⟨[(125, 125)], 29, false⟩]⟩,
  ⟨none, none, [
    ⟨[(61, 61)], 30, false⟩]⟩,
  ⟨some 91, none, []⟩,
  ⟨some 89, none, [
    ⟨[(42, 42)], 35, false⟩]⟩,
  ⟨some 88, none, []⟩,
  ⟨some 72, none, []⟩,
  ⟨some 90, none, [
    ⟨[(42, 42)], 40, false⟩, ⟨[(47, 47)], 41, false⟩]⟩,
  ⟨some 94, none, []⟩,
  ⟨none, none, [
    ⟨[(61, 61)], 51, false⟩, ⟨[(62, 62)], 52, false⟩]⟩,
  ⟨none, none, [
    ⟨[(1, 9), (11, 1114111)], 34, false⟩]⟩,
  ⟨none, none, [
    ⟨[(48, 57)], 60, false⟩]⟩,
  ⟨none, none, [
    ⟨[(1, 9), (11, 1114111)], 26, false⟩]⟩]

end SyntaxKit.Harneet
