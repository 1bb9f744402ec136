import SyntaxKit.Language.Basic

/-!
# Parse states 0 to 67 of Harneet

Rows of the parse automaton.  Each gives the lexical state in which its next token is read, the
first state with the same core, what to do on each set of tokens (a set is a number whose bit `i`
stands for token `i`), and the state to enter after each set of nonterminals (bit `i` stands for the
`i`-th nonterminal).
-/

namespace SyntaxKit.Harneet

/-- Parse states 0 to 67. -/
def states1 : List StateRow := [
  ⟨0, 0, [
    ⟨128, true, [.shiftExtra]⟩, ⟨0x3fffffffdffffffffffffff7f, false, [.recover]⟩],
    []⟩,
  ⟨0, 1, [
    ⟨1, true, [.reduce 98 0 0]⟩, ⟨2, false, [.shift 22 false]⟩, ⟨4, false, [.shift 33 false]⟩,
    ⟨0x800000000000000008, false, [.shift 69 false]⟩, ⟨112, true, [.shift 69 false]⟩,
    ⟨256, false, [.shift 742 false]⟩, ⟨512, false, [.shift 591 false]⟩,
    ⟨0x2000, false, [.shift 743 false]⟩, ⟨0x8000, false, [.shift 744 false]⟩,
    ⟨0x10000, false, [.shift 745 false]⟩, ⟨0x20000, false, [.shift 746 false]⟩,
    ⟨0x40000, true, [.shift 2 false]⟩, ⟨0x200000, false, [.shift 611 false]⟩,
    ⟨0x400000, true, [.shift 174 false]⟩, ⟨0x1000000, false, [.shift 152 false]⟩,
    ⟨0x2000000, false, [.shift 223 false]⟩, ⟨0x4000000, false, [.shift 224 false]⟩,
    ⟨0x10000000, false, [.shift 175 false]⟩, ⟨0x40000000, false, [.shift 225 false]⟩,
    ⟨0x600000000, false, [.shift 10 false]⟩, ⟨0x2000000000000000, true, [.shift 176 false]⟩,
    ⟨0x80000000000000000, false, [.shift 226 false]⟩,
    ⟨0x600000000000000000, false, [.shift 70 false]⟩,
    ⟨0x3000000000000000000, false, [.shift 227 false]⟩,
    ⟨0x4000000000000000000, true, [.shift 227 false]⟩,
    ⟨0x800000000000000000000000, false, [.shift 228 false]⟩, ⟨128, true, [.shiftExtra]⟩],
    [(1, 747), (0x1000000000cfe5ee, 10), (0x400000000, 88), (0xc2b1f7800000000, 120),
     (0x8000000000, 69), (0xc00000000000, 34)]⟩,
  ⟨0, 2, [
    ⟨2, false, [.shift 21 false]⟩, ⟨4, false, [.shift 27 false]⟩,
    ⟨0x800000000000000008, false, [.shift 39 false]⟩, ⟨112, true, [.shift 39 false]⟩,
    ⟨256, false, [.shift 768 false]⟩, ⟨512, false, [.shift 605 false]⟩,
    ⟨0x2000, false, [.shift 769 false]⟩, ⟨0x8000, false, [.shift 782 false]⟩,
    ⟨0x10000, false, [.shift 783 false]⟩, ⟨0x20000, false, [.shift 790 false]⟩,
    ⟨0x40000, true, [.shift 3 false]⟩, ⟨0x80000, true, [.shift 121 false]⟩,
    ⟨0x200000, false, [.shift 705 false]⟩, ⟨0x400000, true, [.shift 202 false]⟩,
    ⟨0x1000000, false, [.shift 153 false]⟩, ⟨0x2000000, false, [.shift 253 false]⟩,
    ⟨0x4000000, false, [.shift 283 false]⟩, ⟨0x10000000, false, [.shift 203 false]⟩,
    ⟨0x40000000, false, [.shift 284 false]⟩, ⟨0x600000000, false, [.shift 11 false]⟩,
    ⟨0x2000000000000000, true, [.shift 204 false]⟩,
    ⟨0x80000000000000000, false, [.shift 254 false]⟩,
    ⟨0x600000000000000000, false, [.shift 40 false]⟩,
    ⟨0x3000000000000000000, false, [.shift 255 false]⟩,
    ⟨0x4000000000000000000, true, [.shift 255 false]⟩,
    ⟨0x800000000000000000000000, false, [.shift 285 false]⟩, ⟨128, true, [.shiftExtra]⟩],
    [(0x1000000000cfe5ee, 11), (0x400000000, 71), (0xc2b1f7800000000, 41), (0x8000000000, 39),
     (0xc00000000000, 28), (0x4000000000000, 613)]⟩,
  ⟨0, 2, [
    ⟨2, false, [.shift 21 false]⟩, ⟨4, false, [.shift 27 false]⟩,
    ⟨0x800000000000000008, false, [.shift 39 false]⟩, ⟨112, true, [.shift 39 false]⟩,
    ⟨256, false, [.shift 768 false]⟩, ⟨512, false, [.shift 605 false]⟩,
    ⟨0x2000, false, [.shift 769 false]⟩, ⟨0x8000, false, [.shift 782 false]⟩,
    ⟨0x10000, false, [.shift 783 false]⟩, ⟨0x20000, false, [.shift 790 false]⟩,
    ⟨0x40000, true, [.shift 3 false]⟩, ⟨0x80000, true, [.shift 110 false]⟩,
    ⟨0x200000, false, [.shift 705 false]⟩, ⟨0x400000, true, [.shift 202 false]⟩,
    ⟨0x1000000, false, [.shift 153 false]⟩, ⟨0x2000000, false, [.shift 253 false]⟩,
    ⟨0x4000000, false, [.shift 283 false]⟩, ⟨0x10000000, false, [.shift 203 false]⟩,
    ⟨0x40000000, false, [.shift 284 false]⟩, ⟨0x600000000, false, [.shift 15 false]⟩,
    ⟨0x2000000000000000, true, [.shift 204 false]⟩,
    ⟨0x80000000000000000, false, [.shift 254 false]⟩,
    ⟨0x600000000000000000, false, [.shift 40 false]⟩,
    ⟨0x3000000000000000000, false, [.shift 255 false]⟩,
    ⟨0x4000000000000000000, true, [.shift 255 false]⟩,
    ⟨0x800000000000000000000000, false, [.shift 285 false]⟩, ⟨128, true, [.shiftExtra]⟩],
    [(0x1000000000cfe5ee, 15), (0x400000000, 71), (0xc2b1f7800000000, 41), (0x8000000000, 39),
     (0xc00000000000, 28), (0x4000000000000, 667)]⟩,
  ⟨0, 2, [
    ⟨2, false, [.shift 21 false]⟩, ⟨4, false, [.shift 27 false]⟩,
    ⟨0x800000000000000008, false, [.shift 39 false]⟩, ⟨112, true, [.shift 39 false]⟩,
    ⟨256, false, [.shift 768 false]⟩, ⟨512, false, [.shift 605 false]⟩,
    ⟨0x2000, false, [.shift 769 false]⟩, ⟨0x8000, false, [.shift 782 false]⟩,
    ⟨0x10000, false, [.shift 783 false]⟩, ⟨0x20000, false, [.shift 790 false]⟩,
    ⟨0x40000, true, [.shift 3 false]⟩, ⟨0x80000, true, [.shift 151 false]⟩,
    ⟨0x200000, false, [.shift 705 false]⟩, ⟨0x400000, true, [.shift 202 false]⟩,
    ⟨0x1000000, false, [.shift 153 false]⟩, ⟨0x2000000, false, [.shift 253 false]⟩,
    ⟨0x4000000, false, [.shift 283 false]⟩, ⟨0x10000000, false, [.shift 203 false]⟩,
    ⟨0x40000000, false, [.shift 284 false]⟩, ⟨0x600000000, false, [.shift 11 false]⟩,
    ⟨0x2000000000000000, true, [.shift 204 false]⟩,
    ⟨0x80000000000000000, false, [.shift 254 false]⟩,
    ⟨0x600000000000000000, false, [.shift 40 false]⟩,
    ⟨0x3000000000000000000, false, [.shift 255 false]⟩,
    ⟨0x4000000000000000000, true, [.shift 255 false]⟩,
    ⟨0x800000000000000000000000, false, [.shift 285 false]⟩, ⟨128, true, [.shiftExtra]⟩],
    [(0x1000000000cfe5ee, 11), (0x400000000, 71), (0xc2b1f7800000000, 41), (0x8000000000, 39),
     (0xc00000000000, 28), (0x4000000000000, 613)]⟩,
  ⟨0, 2, [
    ⟨2, false, [.shift 21 false]⟩, ⟨4, false, [.shift 27 false]⟩,
    ⟨0x800000000000000008, false, [.shift 39 false]⟩, ⟨112, true, [.shift 39 false]⟩,
    ⟨256, false, [.shift 768 false]⟩, ⟨512, false, [.shift 605 false]⟩,
    ⟨0x2000, false, [.shift 769 false]⟩, ⟨0x8000, false, [.shift 782 false]⟩,
    ⟨0x10000, false, [.shift 783 false]⟩, ⟨0x20000, false, [.shift 790 false]⟩,
    ⟨0x40000, true, [.shift 3 false]⟩, ⟨0x80000, true, [.shift 68 false]⟩,
    ⟨0x200000, false, [.shift 705 false]⟩, ⟨0x400000, true, [.shift 202 false]⟩,
    ⟨0x1000000, false, [.shift 153 false]⟩, ⟨0x2000000, false, [.shift 253 false]⟩,
    ⟨0x4000000, false, [.shift 283 false]⟩, ⟨0x10000000, false, [.shift 203 false]⟩,
    ⟨0x40000000, false, [.shift 284 false]⟩, ⟨0x600000000, false, [.shift 15 false]⟩,
    ⟨0x2000000000000000, true, [.shift 204 false]⟩,
    ⟨0x80000000000000000, false, [.shift 254 false]⟩,
    ⟨0x600000000000000000, false, [.shift 40 false]⟩,
    ⟨0x3000000000000000000, false, [.shift 255 false]⟩,
    ⟨0x4000000000000000000, true, [.shift 255 false]⟩,
    ⟨0x800000000000000000000000, false, [.shift 285 false]⟩, ⟨128, true, [.shiftExtra]⟩],
    [(0x1000000000cfe5ee, 15), (0x400000000, 71), (0xc2b1f7800000000, 41), (0x8000000000, 39),
     (0xc00000000000, 28), (0x4000000000000, 667)]⟩,
  ⟨0, 2, [
    ⟨2, false, [.shift 21 false]⟩, ⟨4, false, [.shift 27 false]⟩,
    ⟨0x800000000000000008, false, [.shift 39 false]⟩, ⟨112, true, [.shift 39 false]⟩,
    ⟨256, false, [.shift 768 false]⟩, ⟨512, false, [.shift 605 false]⟩,
    ⟨0x2000, false, [.shift 769 false]⟩, ⟨0x8000, false, [.shift 782 false]⟩,
    ⟨0x10000, false, [.shift 783 false]⟩, ⟨0x20000, false, [.shift 790 false]⟩,
    ⟨0x40000, true, [.shift 3 false]⟩, ⟨0x80000, true, [.shift 503 false]⟩,
    ⟨0x200000, false, [.shift 705 false]⟩, ⟨0x400000, true, [.shift 202 false]⟩,
    ⟨0x1000000, false, [.shift 153 false]⟩, ⟨0x2000000, false, [.shift 253 false]⟩,
    ⟨0x4000000, false, [.shift 283 false]⟩, ⟨0x10000000, false, [.shift 203 false]⟩,
    ⟨0x40000000, false, [.shift 284 false]⟩, ⟨0x600000000, false, [.shift 17 false]⟩,
    ⟨0x2000000000000000, true, [.shift 204 false]⟩,
    ⟨0x80000000000000000, false, [.shift 254 false]⟩,
    ⟨0x600000000000000000, false, [.shift 40 false]⟩,
    ⟨0x3000000000000000000, false, [.shift 255 false]⟩,
    ⟨0x4000000000000000000, true, [.shift 255 false]⟩,
    ⟨0x800000000000000000000000, false, [.shift 285 false]⟩, ⟨128, true, [.shiftExtra]⟩],
    [(0x1000000000cfe5ee, 17), (0x400000000, 71), (0xc2b1f7800000000, 41), (0x8000000000, 39),
     (0xc00000000000, 28), (0x4000000000000, 690)]⟩,
  ⟨0, 2, [
    ⟨2, false, [.shift 21 false]⟩, ⟨4, false, [.shift 27 false]⟩,
    ⟨0x800000000000000008, false, [.shift 39 false]⟩, ⟨112, true, [.shift 39 false]⟩,
    ⟨256, false, [.shift 768 false]⟩, ⟨512, false, [.shift 605 false]⟩,
    ⟨0x2000, false, [.shift 769 false]⟩, ⟨0x8000, false, [.shift 782 false]⟩,
    ⟨0x10000, false, [.shift 783 false]⟩, ⟨0x20000, false, [.shift 790 false]⟩,
    ⟨0x40000, true, [.shift 3 false]⟩, ⟨0x80000, true, [.shift 336 false]⟩,
    ⟨0x200000, false, [.shift 705 false]⟩, ⟨0x400000, true, [.shift 202 false]⟩,
    ⟨0x1000000, false, [.shift 153 false]⟩, ⟨0x2000000, false, [.shift 253 false]⟩,
    ⟨0x4000000, false, [.shift 283 false]⟩, ⟨0x10000000, false, [.shift 203 false]⟩,
    ⟨0x40000000, false, [.shift 284 false]⟩, ⟨0x600000000, false, [.shift 15 false]⟩,
    ⟨0x2000000000000000, true, [.shift 204 false]⟩,
    ⟨0x80000000000000000, false, [.shift 254 false]⟩,
    ⟨0x600000000000000000, false, [.shift 40 false]⟩,
    ⟨0x3000000000000000000, false, [.shift 255 false]⟩,
    ⟨0x4000000000000000000, true, [.shift 255 false]⟩,
    ⟨0x800000000000000000000000, false, [.shift 285 false]⟩, ⟨128, true, [.shiftExtra]⟩],
    [(0x1000000000cfe5ee, 15), (0x400000000, 71), (0xc2b1f7800000000, 41), (0x8000000000, 39),
     (0xc00000000000, 28), (0x4000000000000, 667)]⟩,
  ⟨0, 2, [
    ⟨2, false, [.shift 21 false]⟩, ⟨4, false, [.shift 27 false]⟩,
    ⟨0x800000000000000008, false, [.shift 39 false]⟩, ⟨112, true, [.shift 39 false]⟩,
    ⟨256, false, [.shift 768 false]⟩, ⟨512, false, [.shift 605 false]⟩,
    ⟨0x2000, false, [.shift 769 false]⟩, ⟨0x8000, false, [.shift 782 false]⟩,
    ⟨0x10000, false, [.shift 783 false]⟩, ⟨0x20000, false, [.shift 790 false]⟩,
    ⟨0x40000, true, [.shift 3 false]⟩, ⟨0x80000, true, [.shift 121 false]⟩,
    ⟨0x200000, false, [.shift 705 false]⟩, ⟨0x400000, true, [.shift 202 false]⟩,
    ⟨0x1000000, false, [.shift 153 false]⟩, ⟨0x2000000, false, [.shift 253 false]⟩,
    ⟨0x4000000, false, [.shift 283 false]⟩, ⟨0x10000000, false, [.shift 203 false]⟩,
    ⟨0x40000000, false, [.shift 284 false]⟩, ⟨0x600000000, false, [.shift 11 false]⟩,
    ⟨0x2000000000000000, true, [.shift 204 false]⟩,
    ⟨0x80000000000000000, false, [.shift 254 false]⟩,
    ⟨0x600000000000000000, false, [.shift 40 false]⟩,
    ⟨0x3000000000000000000, false, [.shift 255 false]⟩,
    ⟨0x4000000000000000000, true, [.shift 255 false]⟩,
    ⟨0x800000000000000000000000, false, [.shift 285 false]⟩, ⟨128, true, [.shiftExtra]⟩],
    [(0x1000000000cfe5ee, 11), (0x400000000, 71), (0xc2b1f7800000000, 41), (0x8000000000, 39),
     (0xc00000000000, 28), (0x4000000000000, 690)]⟩,
  ⟨0, 2, [
    ⟨2, false, [.shift 21 false]⟩, ⟨4, false, [.shift 27 false]⟩,
    ⟨0x800000000000000008, false, [.shift 39 false]⟩, ⟨112, true, [.shift 39 false]⟩,
    ⟨256, false, [.shift 768 false]⟩, ⟨512, false, [.shift 605 false]⟩,
    ⟨0x2000, false, [.shift 769 false]⟩, ⟨0x8000, false, [.shift 782 false]⟩,
    ⟨0x10000, false, [.shift 783 false]⟩, ⟨0x20000, false, [.shift 790 false]⟩,
    ⟨0x40000, true, [.shift 3 false]⟩, ⟨0x80000, true, [.shift 110 false]⟩,
    ⟨0x200000, false, [.shift 705 false]⟩, ⟨0x400000, true, [.shift 202 false]⟩,
    ⟨0x1000000, false, [.shift 153 false]⟩, ⟨0x2000000, false, [.shift 253 false]⟩,
    ⟨0x4000000, false, [.shift 283 false]⟩, ⟨0x10000000, false, [.shift 203 false]⟩,
    ⟨0x40000000, false, [.shift 284 false]⟩, ⟨0x600000000, false, [.shift 15 false]⟩,
    ⟨0x2000000000000000, true, [.shift 204 false]⟩,
    ⟨0x80000000000000000, false, [.shift 254 false]⟩,
    ⟨0x600000000000000000, false, [.shift 40 false]⟩,
    ⟨0x3000000000000000000, false, [.shift 255 false]⟩,
    ⟨0x4000000000000000000, true, [.shift 255 false]⟩,
    ⟨0x800000000000000000000000, false, [.shift 285 false]⟩, ⟨128, true, [.shiftExtra]⟩],
    [(0x1000000000cfe5ee, 15), (0x400000000, 71), (0xc2b1f7800000000, 41), (0x8000000000, 39),
     (0xc00000000000, 28), (0x4000000000000, 690)]⟩,
  ⟨0, 10, [
    ⟨1, true, [.reduce 98 1 0]⟩, ⟨2, false, [.shift 22 false]⟩, ⟨4, false, [.shift 33 false]⟩,
    ⟨0x800000000000000008, false, [.shift 69 false]⟩, ⟨112, true, [.shift 69 false]⟩,
    ⟨256, false, [.shift 742 false]⟩, ⟨512, false, [.shift 591 false]⟩,
    ⟨0x2000, false, [.shift 743 false]⟩, ⟨0x8000, false, [.shift 744 false]⟩,
    ⟨0x10000, false, [.shift 745 false]⟩, ⟨0x20000, false, [.shift 746 false]⟩,
    ⟨0x40000, true, [.shift 2 false]⟩, ⟨0x200000, false, [.shift 611 false]⟩,
    ⟨0x400000, true, [.shift 174 false]⟩, ⟨0x1000000, false, [.shift 152 false]⟩,
    ⟨0x2000000, false, [.shift 223 false]⟩, ⟨0x4000000, false, [.shift 224 false]⟩,
    ⟨0x10000000, false, [.shift 175 false]⟩, ⟨0x40000000, false, [.shift 225 false]⟩,
    ⟨0x600000000, false, [.shift 12 false]⟩, ⟨0x2000000000000000, true, [.shift 176 false]⟩,
    ⟨0x80000000000000000, false, [.shift 226 false]⟩,
    ⟨0x600000000000000000, false, [.shift 70 false]⟩,
    ⟨0x3000000000000000000, false, [.shift 227 false]⟩,
    ⟨0x4000000000000000000, true, [.shift 227 false]⟩,
    ⟨0x800000000000000000000000, false, [.shift 228 false]⟩, ⟨128, true, [.shiftExtra]⟩],
    [(0x1000000000cfe5ee, 12), (0x400000000, 88), (0xc2b1f7800000000, 120), (0x8000000000, 69),
     (0xc00000000000, 34)]⟩,
  ⟨0, 11, [
    ⟨2, false, [.shift 21 false]⟩, ⟨4, false, [.shift 27 false]⟩,
    ⟨0x800000000000000008, false, [.shift 39 false]⟩, ⟨112, true, [.shift 39 false]⟩,
    ⟨256, false, [.shift 768 false]⟩, ⟨512, false, [.shift 605 false]⟩,
    ⟨0x2000, false, [.shift 769 false]⟩, ⟨0x8000, false, [.shift 782 false]⟩,
    ⟨0x10000, false, [.shift 783 false]⟩, ⟨0x20000, false, [.shift 790 false]⟩,
    ⟨0x40000, true, [.shift 3 false]⟩, ⟨0x80000, true, [.shift 72 false]⟩,
    ⟨0x200000, false, [.shift 705 false]⟩, ⟨0x400000, true, [.shift 202 false]⟩,
    ⟨0x1000000, false, [.shift 153 false]⟩, ⟨0x2000000, false, [.shift 253 false]⟩,
    ⟨0x4000000, false, [.shift 283 false]⟩, ⟨0x10000000, false, [.shift 203 false]⟩,
    ⟨0x40000000, false, [.shift 284 false]⟩, ⟨0x600000000, false, [.shift 14 false]⟩,
    ⟨0x2000000000000000, true, [.shift 204 false]⟩,
    ⟨0x80000000000000000, false, [.shift 254 false]⟩,
    ⟨0x600000000000000000, false, [.shift 40 false]⟩,
    ⟨0x3000000000000000000, false, [.shift 255 false]⟩,
    ⟨0x4000000000000000000, true, [.shift 255 false]⟩,
    ⟨0x800000000000000000000000, false, [.shift 285 false]⟩, ⟨128, true, [.shiftExtra]⟩],
    [(0x1000000000cfe5ee, 14), (0x400000000, 109), (0xc2b1f7800000000, 41), (0x8000000000, 39),
     (0xc00000000000, 28)]⟩,
  ⟨0, 12, [
    ⟨2, false, [.reduce 158 2 0, .shift 22 true]⟩, ⟨4, false, [.reduce 158 2 0, .shift 33 true]⟩,
    ⟨0x800000000000000008, false, [.reduce 158 2 0, .shift 69 true]⟩,
    ⟨112, true, [.reduce 158 2 0, .shift 69 true]⟩,
    ⟨256, false, [.reduce 158 2 0, .shift 742 true]⟩,
    ⟨512, false, [.reduce 158 2 0, .shift 591 true]⟩,
    ⟨0x2000, false, [.reduce 158 2 0, .shift 743 true]⟩,
    ⟨0x8000, false, [.reduce 158 2 0, .shift 744 true]⟩,
    ⟨0x10000, false, [.reduce 158 2 0, .shift 745 true]⟩,
    ⟨0x20000, false, [.reduce 158 2 0, .shift 746 true]⟩,
    ⟨0x40000, true, [.reduce 158 2 0, .shift 2 true]⟩,
    ⟨0x200000, false, [.reduce 158 2 0, .shift 611 true]⟩,
    ⟨0x400000, true, [.reduce 158 2 0, .shift 174 true]⟩,
    ⟨0x1000000, false, [.reduce 158 2 0, .shift 152 true]⟩,
    ⟨0x2000000, false, [.reduce 158 2 0, .shift 223 true]⟩,
    ⟨0x4000000, false, [.reduce 158 2 0, .shift 224 true]⟩,
    ⟨0x10000000, false, [.reduce 158 2 0, .shift 175 true]⟩,
    ⟨0x40000000, false, [.reduce 158 2 0, .shift 225 true]⟩,
    ⟨0x600000000, false, [.reduce 158 2 0, .shift 12 true]⟩,
    ⟨0x2000000000000000, true, [.reduce 158 2 0, .shift 176 true]⟩,
    ⟨0x80000000000000000, false, [.reduce 158 2 0, .shift 226 true]⟩,
    ⟨0x600000000000000000, false, [.reduce 158 2 0, .shift 70 true]⟩,
    ⟨0x3000000000000000000, false, [.reduce 158 2 0, .shift 227 true]⟩,
    ⟨0x4000000000000000000, true, [.reduce 158 2 0, .shift 227 true]⟩,
    ⟨0x800000000000000000000000, false, [.reduce 158 2 0, .shift 228 true]⟩,
    ⟨1, true, [.reduce 158 2 0]⟩, ⟨128, true, [.shiftExtra]⟩],
    [(0x1000000000cfe5ee, 12), (0x400000000, 88), (0xc2b1f7800000000, 120), (0x8000000000, 69),
     (0xc00000000000, 34)]⟩,
  ⟨0, 13, [
    ⟨2, false, [.shift 21 false]⟩, ⟨4, false, [.shift 27 false]⟩,
    ⟨0x800000000000000008, false, [.shift 39 false]⟩, ⟨112, true, [.shift 39 false]⟩,
    ⟨256, false, [.shift 768 false]⟩, ⟨512, false, [.shift 605 false]⟩,
    ⟨0x2000, false, [.shift 769 false]⟩, ⟨0x8000, false, [.shift 782 false]⟩,
    ⟨0x10000, false, [.shift 783 false]⟩, ⟨0x20000, false, [.shift 790 false]⟩,
    ⟨0x40000, true, [.shift 3 false]⟩, ⟨0x80000, true, [.shift 73 false]⟩,
    ⟨0x200000, false, [.shift 705 false]⟩, ⟨0x400000, true, [.shift 202 false]⟩,
    ⟨0x1000000, false, [.shift 153 false]⟩, ⟨0x2000000, false, [.shift 253 false]⟩,
    ⟨0x4000000, false, [.shift 283 false]⟩, ⟨0x10000000, false, [.shift 203 false]⟩,
    ⟨0x40000000, false, [.shift 284 false]⟩, ⟨0x600000000, false, [.shift 11 false]⟩,
    ⟨0x2000000000000000, true, [.shift 204 false]⟩,
    ⟨0x80000000000000000, false, [.shift 254 false]⟩,
    ⟨0x600000000000000000, false, [.shift 40 false]⟩,
    ⟨0x3000000000000000000, false, [.shift 255 false]⟩,
    ⟨0x4000000000000000000, true, [.shift 255 false]⟩,
    ⟨0x800000000000000000000000, false, [.shift 285 false]⟩, ⟨128, true, [.shiftExtra]⟩],
    [(0x1000000000cfe5ee, 11), (0x400000000, 109), (0xc2b1f7800000000, 41), (0x8000000000, 39),
     (0xc00000000000, 28)]⟩,
  ⟨0, 12, [
    ⟨2, false, [.reduce 158 2 0, .shift 21 true]⟩, ⟨4, false, [.reduce 158 2 0, .shift 27 true]⟩,
    ⟨0x800000000000000008, false, [.reduce 158 2 0, .shift 39 true]⟩,
    ⟨112, true, [.reduce 158 2 0, .shift 39 true]⟩,
    ⟨256, false, [.reduce 158 2 0, .shift 768 true]⟩,
    ⟨512, false, [.reduce 158 2 0, .shift 605 true]⟩,
    ⟨0x2000, false, [.reduce 158 2 0, .shift 769 true]⟩,
    ⟨0x8000, false, [.reduce 158 2 0, .shift 782 true]⟩,
    ⟨0x10000, false, [.reduce 158 2 0, .shift 783 true]⟩,
    ⟨0x20000, false, [.reduce 158 2 0, .shift 790 true]⟩,
    ⟨0x40000, true, [.reduce 158 2 0, .shift 3 true]⟩, ⟨0x80000, true, [.reduce 158 2 0]⟩,
    ⟨0x200000, false, [.reduce 158 2 0, .shift 705 true]⟩,
    ⟨0x400000, true, [.reduce 158 2 0, .shift 202 true]⟩,
    ⟨0x1000000, false, [.reduce 158 2 0, .shift 153 true]⟩,
    ⟨0x2000000, false, [.reduce 158 2 0, .shift 253 true]⟩,
    ⟨0x4000000, false, [.reduce 158 2 0, .shift 283 true]⟩,
    ⟨0x10000000, false, [.reduce 158 2 0, .shift 203 true]⟩,
    ⟨0x40000000, false, [.reduce 158 2 0, .shift 284 true]⟩,
    ⟨0x600000000, false, [.reduce 158 2 0, .shift 14 true]⟩,
    ⟨0x2000000000000000, true, [.reduce 158 2 0, .shift 204 true]⟩,
    ⟨0x80000000000000000, false, [.reduce 158 2 0, .shift 254 true]⟩,
    ⟨0x600000000000000000, false, [.reduce 158 2 0, .shift 40 true]⟩,
    ⟨0x3000000000000000000, false, [.reduce 158 2 0, .shift 255 true]⟩,
    ⟨0x4000000000000000000, true, [.reduce 158 2 0, .shift 255 true]⟩,
    ⟨0x800000000000000000000000, false, [.reduce 158 2 0, .shift 285 true]⟩,
    ⟨128, true, [.shiftExtra]⟩],
    [(0x1000000000cfe5ee, 14), (0x400000000, 109), (0xc2b1f7800000000, 41), (0x8000000000, 39),
     (0xc00000000000, 28)]⟩,
  ⟨0, 11, [
    ⟨2, false, [.shift 21 false]⟩, ⟨4, false, [.shift 27 false]⟩,
    ⟨0x800000000000000008, false, [.shift 39 false]⟩, ⟨112, true, [.shift 39 false]⟩,
    ⟨256, false, [.shift 768 false]⟩, ⟨512, false, [.shift 605 false]⟩,
    ⟨0x2000, false, [.shift 769 false]⟩, ⟨0x8000, false, [.shift 782 false]⟩,
    ⟨0x10000, false, [.shift 783 false]⟩, ⟨0x20000, false, [.shift 790 false]⟩,
    ⟨0x40000, true, [.shift 3 false]⟩, ⟨0x80000, true, [.shift 37 false]⟩,
    ⟨0x200000, false, [.shift 705 false]⟩, ⟨0x400000, true, [.shift 202 false]⟩,
    ⟨0x1000000, false, [.shift 153 false]⟩, ⟨0x2000000, false, [.shift 253 false]⟩,
    ⟨0x4000000, false, [.shift 283 false]⟩, ⟨0x10000000, false, [.shift 203 false]⟩,
    ⟨0x40000000, false, [.shift 284 false]⟩, ⟨0x600000000, false, [.shift 14 false]⟩,
    ⟨0x2000000000000000, true, [.shift 204 false]⟩,
    ⟨0x80000000000000000, false, [.shift 254 false]⟩,
    ⟨0x600000000000000000, false, [.shift 40 false]⟩,
    ⟨0x3000000000000000000, false, [.shift 255 false]⟩,
    ⟨0x4000000000000000000, true, [.shift 255 false]⟩,
    ⟨0x800000000000000000000000, false, [.shift 285 false]⟩, ⟨128, true, [.shiftExtra]⟩],
    [(0x1000000000cfe5ee, 14), (0x400000000, 109), (0xc2b1f7800000000, 41), (0x8000000000, 39),
     (0xc00000000000, 28)]⟩,
  ⟨0, 13, [
    ⟨2, false, [.shift 21 false]⟩, ⟨4, false, [.shift 27 false]⟩,
    ⟨0x800000000000000008, false, [.shift 39 false]⟩, ⟨112, true, [.shift 39 false]⟩,
    ⟨256, false, [.shift 768 false]⟩, ⟨512, false, [.shift 605 false]⟩,
    ⟨0x2000, false, [.shift 769 false]⟩, ⟨0x8000, false, [.shift 782 false]⟩,
    ⟨0x10000, false, [.shift 783 false]⟩, ⟨0x20000, false, [.shift 790 false]⟩,
    ⟨0x40000, true, [.shift 3 false]⟩, ⟨0x80000, true, [.shift 38 false]⟩,
    ⟨0x200000, false, [.shift 705 false]⟩, ⟨0x400000, true, [.shift 202 false]⟩,
    ⟨0x1000000, false, [.shift 153 false]⟩, ⟨0x2000000, false, [.shift 253 false]⟩,
    ⟨0x4000000, false, [.shift 283 false]⟩, ⟨0x10000000, false, [.shift 203 false]⟩,
    ⟨0x40000000, false, [.shift 284 false]⟩, ⟨0x600000000, false, [.shift 15 false]⟩,
    ⟨0x2000000000000000, true, [.shift 204 false]⟩,
    ⟨0x80000000000000000, false, [.shift 254 false]⟩,
    ⟨0x600000000000000000, false, [.shift 40 false]⟩,
    ⟨0x3000000000000000000, false, [.shift 255 false]⟩,
    ⟨0x4000000000000000000, true, [.shift 255 false]⟩,
    ⟨0x800000000000000000000000, false, [.shift 285 false]⟩, ⟨128, true, [.shiftExtra]⟩],
    [(0x1000000000cfe5ee, 15), (0x400000000, 109), (0xc2b1f7800000000, 41), (0x8000000000, 39),
     (0xc00000000000, 28)]⟩,
  ⟨0, 11, [
    ⟨2, false, [.shift 21 false]⟩, ⟨4, false, [.shift 27 false]⟩,
    ⟨0x800000000000000008, false, [.shift 39 false]⟩, ⟨112, true, [.shift 39 false]⟩,
    ⟨256, false, [.shift 768 false]⟩, ⟨512, false, [.shift 605 false]⟩,
    ⟨0x2000, false, [.shift 769 false]⟩, ⟨0x8000, false, [.shift 782 false]⟩,
    ⟨0x10000, false, [.shift 783 false]⟩, ⟨0x20000, false, [.shift 790 false]⟩,
    ⟨0x40000, true, [.shift 3 false]⟩, ⟨0x80000, true, [.shift 469 false]⟩,
    ⟨0x200000, false, [.shift 705 false]⟩, ⟨0x400000, true, [.shift 202 false]⟩,
    ⟨0x1000000, false, [.shift 153 false]⟩, ⟨0x2000000, false, [.shift 253 false]⟩,
    ⟨0x4000000, false, [.shift 283 false]⟩, ⟨0x10000000, false, [.shift 203 false]⟩,
    ⟨0x40000000, false, [.shift 284 false]⟩, ⟨0x600000000, false, [.shift 14 false]⟩,
    ⟨0x2000000000000000, true, [.shift 204 false]⟩,
    ⟨0x80000000000000000, false, [.shift 254 false]⟩,
    ⟨0x600000000000000000, false, [.shift 40 false]⟩,
    ⟨0x3000000000000000000, false, [.shift 255 false]⟩,
    ⟨0x4000000000000000000, true, [.shift 255 false]⟩,
    ⟨0x800000000000000000000000, false, [.shift 285 false]⟩, ⟨128, true, [.shiftExtra]⟩],
    [(0x1000000000cfe5ee, 14), (0x400000000, 109), (0xc2b1f7800000000, 41), (0x8000000000, 39),
     (0xc00000000000, 28)]⟩,
  ⟨0, 13, [
    ⟨2, false, [.shift 21 false]⟩, ⟨4, false, [.shift 27 false]⟩,
    ⟨0x800000000000000008, false, [.shift 39 false]⟩, ⟨112, true, [.shift 39 false]⟩,
    ⟨256, false, [.shift 768 false]⟩, ⟨512, false, [.shift 605 false]⟩,
    ⟨0x2000, false, [.shift 769 false]⟩, ⟨0x8000, false, [.shift 782 false]⟩,
    ⟨0x10000, false, [.shift 783 false]⟩, ⟨0x20000, false, [.shift 790 false]⟩,
    ⟨0x40000, true, [.shift 3 false]⟩, ⟨0x80000, true, [.shift 488 false]⟩,
    ⟨0x200000, false, [.shift 705 false]⟩, ⟨0x400000, true, [.shift 202 false]⟩,
    ⟨0x1000000, false, [.shift 153 false]⟩, ⟨0x2000000, false, [.shift 253 false]⟩,
    ⟨0x4000000, false, [.shift 283 false]⟩, ⟨0x10000000, false, [.shift 203 false]⟩,
    ⟨0x40000000, false, [.shift 284 false]⟩, ⟨0x600000000, false, [.shift 17 false]⟩,
    ⟨0x2000000000000000, true, [.shift 204 false]⟩,
    ⟨0x80000000000000000, false, [.shift 254 false]⟩,
    ⟨0x600000000000000000, false, [.shift 40 false]⟩,
    ⟨0x3000000000000000000, false, [.shift 255 false]⟩,
    ⟨0x4000000000000000000, true, [.shift 255 false]⟩,
    ⟨0x800000000000000000000000, false, [.shift 285 false]⟩, ⟨128, true, [.shiftExtra]⟩],
    [(0x1000000000cfe5ee, 17), (0x400000000, 109), (0xc2b1f7800000000, 41), (0x8000000000, 39),
     (0xc00000000000, 28)]⟩,
  ⟨0, 19, [
    ⟨0x2cf099fe8000000065723e30e, false, [.reduce 144 3 15]⟩,
    ⟨0x30f66010200001f8004c0870, true, [.reduce 144 3 15]⟩, ⟨128, true, [.shiftExtra]⟩],
    []⟩,
  ⟨0, 20, [
    ⟨0x2cf099fe8000000065723e30e, false, [.reduce 145 4 23]⟩,
    ⟨0x30f66010200001f8004c0870, true, [.reduce 145 4 23]⟩, ⟨128, true, [.shiftExtra]⟩],
    []⟩,
  ⟨0, 21, [
    ⟨0xcf099fe8000000065723a30e, false, [.reduce 135 1 0]⟩,
    ⟨0x30f660102000000000480070, true, [.reduce 135 1 0]⟩, ⟨0x40000, true, [.shift 166 false]⟩,
    ⟨0x4000, false, [.shift 256 false]⟩, ⟨0x1f800000000, true, [.shift 256 false]⟩,
    ⟨0x1000000000000000000000000, true, [.shift 197 false]⟩, ⟨128, true, [.shiftExtra]⟩],
    []⟩,
  ⟨0, 21, [
    ⟨0x8f099fe8000000065723a30e, false, [.reduce 135 1 0]⟩,
    ⟨0x30f660102000000000400071, true, [.reduce 135 1 0]⟩, ⟨0x40000, true, [.shift 162 false]⟩,
    ⟨0x4000, false, [.shift 229 false]⟩, ⟨0x1f800000000, true, [.shift 229 false]⟩,
    ⟨0x1000000000000000000000000, true, [.shift 177 false]⟩, ⟨128, true, [.shiftExtra]⟩],
    []⟩,
  ⟨0, 23, [
    ⟨2, false, [.shift 355 false]⟩, ⟨0x800003e8000000065703a30c, false, [.reduce 103 2 1]⟩,
    ⟨0x4000000000000040071, true, [.reduce 103 2 1]⟩, ⟨0x200000, false, [.shift 751 false]⟩,
    ⟨0x400000, true, [.shift 380 false]⟩, ⟨0x2000000000000000, true, [.shift 752 false]⟩,
    ⟨0x4000, true, [.shift 241 false]⟩, ⟨0x1ffffe0000000000, false, [.shift 179 false]⟩,
    ⟨0x8000000000000000, false, [.shift 753 false]⟩, ⟨128, true, [.shiftExtra]⟩],
    [(0x3f000000, 355)]⟩,
  ⟨0, 24, [
    ⟨2, false, [.shift 190 false]⟩, ⟨0x800003e8000000065703a30c, false, [.reduce 126 3 0]⟩,
    ⟨0x4000000000000044071, true, [.reduce 126 3 0]⟩, ⟨0x200000, false, [.shift 751 false]⟩,
    ⟨0x400000, true, [.shift 380 false]⟩, ⟨0x2000000000000000, true, [.shift 752 false]⟩,
    ⟨0x1ffffe0000000000, false, [.shift 179 false]⟩,
    ⟨0x8000000000000000, false, [.shift 753 false]⟩, ⟨128, true, [.shiftExtra]⟩],
    [(0x3f000000, 190)]⟩,
  ⟨0, 25, [
    ⟨2, false, [.shift 193 false]⟩, ⟨0x800003e8000000065703a30c, false, [.reduce 126 4 0]⟩,
    ⟨0x4000000000000044071, true, [.reduce 126 4 0]⟩, ⟨0x200000, false, [.shift 751 false]⟩,
    ⟨0x400000, true, [.shift 380 false]⟩, ⟨0x2000000000000000, true, [.shift 752 false]⟩,
    ⟨0x1ffffe0000000000, false, [.shift 179 false]⟩,
    ⟨0x8000000000000000, false, [.shift 753 false]⟩, ⟨128, true, [.shiftExtra]⟩],
    [(0x3f000000, 193)]⟩,
  ⟨0, 26, [
    ⟨2, false, [.shift 196 false]⟩, ⟨0x800003e8000000065703a30c, false, [.reduce 126 5 0]⟩,
    ⟨0x4000000000000044071, true, [.reduce 126 5 0]⟩, ⟨0x200000, false, [.shift 751 false]⟩,
    ⟨0x400000, true, [.shift 380 false]⟩, ⟨0x2000000000000000, true, [.shift 752 false]⟩,
    ⟨0x1ffffe0000000000, false, [.shift 179 false]⟩,
    ⟨0x8000000000000000, false, [.shift 753 false]⟩, ⟨128, true, [.shiftExtra]⟩],
    [(0x3f000000, 196)]⟩,
  ⟨0, 27, [
    ⟨0xcf099fe8000000065723a30e, false, [.reduce 135 1 0]⟩,
    ⟨0x30f6601020000000004c0070, true, [.reduce 135 1 0]⟩, ⟨0x4000, false, [.shift 256 false]⟩,
    ⟨0x1f800000000, true, [.shift 256 false]⟩, ⟨128, true, [.shiftExtra]⟩],
    []⟩,
  ⟨0, 28, [
    ⟨0xcf099fe8000000065723a30e, false, [.reduce 132 1 0]⟩,
    ⟨0x30f6601020000000004c0070, true, [.reduce 132 1 0]⟩, ⟨0x4000, false, [.shift 256 false]⟩,
    ⟨0x1f800000000, true, [.shift 256 false]⟩, ⟨128, true, [.shiftExtra]⟩],
    []⟩,
  ⟨0, 23, [
    ⟨2, false, [.shift 362 false]⟩, ⟨0x800003e8000000065703a30c, false, [.reduce 103 2 1]⟩,
    ⟨0x40000000000000c0070, true, [.reduce 103 2 1]⟩, ⟨0x200000, false, [.shift 788 false]⟩,
    ⟨0x400000, true, [.shift 431 false]⟩, ⟨0x2000000000000000, true, [.shift 772 false]⟩,
    ⟨0x4000, true, [.shift 267 false]⟩, ⟨0x1ffffe0000000000, false, [.shift 361 false]⟩,
    ⟨0x8000000000000000, false, [.shift 792 false]⟩, ⟨128, true, [.shiftExtra]⟩],
    [(0x3f000000, 362)]⟩,
  ⟨0, 24, [
    ⟨2, false, [.shift 368 false]⟩, ⟨0x800003e8000000065703a30c, false, [.reduce 126 3 0]⟩,
    ⟨0x40000000000000c4070, true, [.reduce 126 3 0]⟩, ⟨0x200000, false, [.shift 788 false]⟩,
    ⟨0x400000, true, [.shift 431 false]⟩, ⟨0x2000000000000000, true, [.shift 772 false]⟩,
    ⟨0x1ffffe0000000000, false, [.shift 361 false]⟩,
    ⟨0x8000000000000000, false, [.shift 792 false]⟩, ⟨128, true, [.shiftExtra]⟩],
    [(0x3f000000, 368)]⟩,
  ⟨0, 25, [
    ⟨2, false, [.shift 370 false]⟩, ⟨0x800003e8000000065703a30c, false, [.reduce 126 4 0]⟩,
    ⟨0x40000000000000c4070, true, [.reduce 126 4 0]⟩, ⟨0x200000, false, [.shift 788 false]⟩,
    ⟨0x400000, true, [.shift 431 false]⟩, ⟨0x2000000000000000, true, [.shift 772 false]⟩,
    ⟨0x1ffffe0000000000, false, [.shift 361 false]⟩,
    ⟨0x8000000000000000, false, [.shift 792 false]⟩, ⟨128, true, [.shiftExtra]⟩],
    [(0x3f000000, 370)]⟩,
  ⟨0, 26, [
    ⟨2, false, [.shift 373 false]⟩, ⟨0x800003e8000000065703a30c, false, [.reduce 126 5 0]⟩,
    ⟨0x40000000000000c4070, true, [.reduce 126 5 0]⟩, ⟨0x200000, false, [.shift 788 false]⟩,
    ⟨0x400000, true, [.shift 431 false]⟩, ⟨0x2000000000000000, true, [.shift 772 false]⟩,
    ⟨0x1ffffe0000000000, false, [.shift 361 false]⟩,
    ⟨0x8000000000000000, false, [.shift 792 false]⟩, ⟨128, true, [.shiftExtra]⟩],
    [(0x3f000000, 373)]⟩,
  ⟨0, 27, [
    ⟨0x8f099fe8000000065723a30e, false, [.reduce 135 1 0]⟩,
    ⟨0x30f660102000000000440071, true, [.reduce 135 1 0]⟩, ⟨0x4000, false, [.shift 229 false]⟩,
    ⟨0x1f800000000, true, [.shift 229 false]⟩, ⟨128, true, [.shiftExtra]⟩],
    []⟩,
  ⟨0, 28, [
    ⟨0x8f099fe8000000065723a30e, false, [.reduce 132 1 0]⟩,
    ⟨0x30f660102000000000440071, true, [.reduce 132 1 0]⟩, ⟨0x4000, false, [.shift 229 false]⟩,
    ⟨0x1f800000000, true, [.shift 229 false]⟩, ⟨128, true, [.shiftExtra]⟩],
    []⟩,
  ⟨0, 19, [
    ⟨0x8f099fe8000000065723e30e, false, [.reduce 144 3 15]⟩,
    ⟨0x30f66010200001f800440071, true, [.reduce 144 3 15]⟩, ⟨128, true, [.shiftExtra]⟩],
    []⟩,
  ⟨0, 20, [
    ⟨0x8f099fe8000000065723e30e, false, [.reduce 145 4 23]⟩,
    ⟨0x30f66010200001f800440071, true, [.reduce 145 4 23]⟩, ⟨128, true, [.shiftExtra]⟩],
    []⟩,
  ⟨0, 37, [
    ⟨0x286099fe800000007df23a30e, false, [.reduce 111 3 0]⟩,
    ⟨0x79f6601020000000004c0870, true, [.reduce 111 3 0]⟩, ⟨128, true, [.shiftExtra]⟩],
    []⟩,
  ⟨0, 38, [
    ⟨0x286099fe800000007df23a30e, false, [.reduce 111 2 0]⟩,
    ⟨0x79f6601020000000004c0870, true, [.reduce 111 2 0]⟩, ⟨128, true, [.shiftExtra]⟩],
    []⟩,
  ⟨0, 39, [
    ⟨0x286099fe8000000065723a30e, false, [.reduce 136 1 0]⟩,
    ⟨0x179f6601020000000004c0870, true, [.reduce 136 1 0]⟩, ⟨128, true, [.shiftExtra]⟩],
    []⟩,
  ⟨0, 40, [
    ⟨0x286099fe8000000065723a30e, false, [.reduce 137 1 0]⟩,
    ⟨0x179f6601020000000004c0870, true, [.reduce 137 1 0]⟩, ⟨128, true, [.shiftExtra]⟩],
    []⟩,
  ⟨0, 41, [
    ⟨0x286099fe8000000065723a30e, false, [.reduce 132 1 0]⟩,
    ⟨0x79f6601020000000004c0870, true, [.reduce 132 1 0]⟩, ⟨128, true, [.shiftExtra]⟩],
    []⟩,
  ⟨0, 42, [
    ⟨0x286099fe8000000065723a30e, false, [.reduce 139 2 0]⟩,
    ⟨0x79f6601020000000004c0870, true, [.reduce 139 2 0]⟩, ⟨128, true, [.shiftExtra]⟩],
    []⟩,
  ⟨0, 43, [
    ⟨0x286099fe8000000065723a30e, false, [.reduce 146 2 0]⟩,
    ⟨0x79f6601020000000004c0870, true, [.reduce 146 2 0]⟩, ⟨128, true, [.shiftExtra]⟩],
    []⟩,
  ⟨0, 44, [
    ⟨0x286099fe8000000065723a30e, false, [.reduce 142 2 6]⟩,
    ⟨0x79f6601020000000004c0870, true, [.reduce 142 2 6]⟩, ⟨128, true, [.shiftExtra]⟩],
    []⟩,
  ⟨0, 45, [
    ⟨0x286099fe8000000065723a30e, false, [.reduce 149 3 8]⟩,
    ⟨0x79f6601020000000004c0870, true, [.reduce 149 3 8]⟩, ⟨128, true, [.shiftExtra]⟩],
    []⟩,
  ⟨0, 46, [
    ⟨0x286099fe8000000065723a30e, false, [.reduce 156 3 9]⟩,
    ⟨0x79f6601020000000004c0870, true, [.reduce 156 3 9]⟩, ⟨128, true, [.shiftExtra]⟩],
    []⟩,
  ⟨0, 47, [
    ⟨0x286099fe8000000065723a30e, false, [.reduce 147 3 0]⟩,
    ⟨0x79f6601020000000004c0870, true, [.reduce 147 3 0]⟩, ⟨128, true, [.shiftExtra]⟩],
    []⟩,
  ⟨0, 48, [
    ⟨0x286099fe8000000065723a30e, false, [.reduce 157 3 12]⟩,
    ⟨0x79f6601020000000004c0870, true, [.reduce 157 3 12]⟩, ⟨128, true, [.shiftExtra]⟩],
    []⟩,
  ⟨0, 49, [
    ⟨0x286099fe8000000065723a30e, false, [.reduce 138 3 0]⟩,
    ⟨0x79f6601020000000004c0870, true, [.reduce 138 3 0]⟩, ⟨128, true, [.shiftExtra]⟩],
    []⟩,
  ⟨0, 50, [
    ⟨0x286099fe8000000065723a30e, false, [.reduce 146 3 0]⟩,
    ⟨0x79f6601020000000004c0870, true, [.reduce 146 3 0]⟩, ⟨128, true, [.shiftExtra]⟩],
    []⟩,
  ⟨0, 51, [
    ⟨0x286099fe8000000065723a30e, false, [.reduce 143 2 0]⟩,
    ⟨0x79f6601020000000004c0870, true, [.reduce 143 2 0]⟩, ⟨128, true, [.shiftExtra]⟩],
    []⟩,
  ⟨0, 52, [
    ⟨0x286099fe8000000065723a30e, false, [.reduce 149 4 8]⟩,
    ⟨0x79f6601020000000004c0870, true, [.reduce 149 4 8]⟩, ⟨128, true, [.shiftExtra]⟩],
    []⟩,
  ⟨0, 53, [
    ⟨0x286099fe8000000065723a30e, false, [.reduce 147 4 0]⟩,
    ⟨0x79f6601020000000004c0870, true, [.reduce 147 4 0]⟩, ⟨128, true, [.shiftExtra]⟩],
    []⟩,
  ⟨0, 54, [
    ⟨0x286099fe8000000065723a30e, false, [.reduce 157 4 21]⟩,
    ⟨0x79f6601020000000004c0870, true, [.reduce 157 4 21]⟩, ⟨128, true, [.shiftExtra]⟩],
    []⟩,
  ⟨0, 55, [
    ⟨0x286099fe8000000065723a30e, false, [.reduce 139 4 0]⟩,
    ⟨0x79f6601020000000004c0870, true, [.reduce 139 4 0]⟩, ⟨128, true, [.shiftExtra]⟩],
    []⟩,
  ⟨0, 56, [
    ⟨0x286099fe8000000065723a30e, false, [.reduce 146 4 0]⟩,
    ⟨0x79f6601020000000004c0870, true, [.reduce 146 4 0]⟩, ⟨128, true, [.shiftExtra]⟩],
    []⟩,
  ⟨0, 57, [
    ⟨0x286099fe8000000065723a30e, false, [.reduce 151 4 0]⟩,
    ⟨0x79f6601020000000004c0870, true, [.reduce 151 4 0]⟩, ⟨128, true, [.shiftExtra]⟩],
    []⟩,
  ⟨0, 58, [
    ⟨0x286099fe8000000065723a30e, false, [.reduce 151 4 22]⟩,
    ⟨0x79f6601020000000004c0870, true, [.reduce 151 4 22]⟩, ⟨128, true, [.shiftExtra]⟩],
    []⟩,
  ⟨0, 59, [
    ⟨0x286099fe8000000065723a30e, false, [.reduce 143 3 0]⟩,
    ⟨0x79f6601020000000004c0870, true, [.reduce 143 3 0]⟩, ⟨128, true, [.shiftExtra]⟩],
    []⟩,
  ⟨0, 60, [
    ⟨0x286099fe8000000065723a30e, false, [.reduce 149 5 8]⟩,
    ⟨0x79f6601020000000004c0870, true, [.reduce 149 5 8]⟩, ⟨128, true, [.shiftExtra]⟩],
    []⟩,
  ⟨0, 61, [
    ⟨0x286099fe8000000065723a30e, false, [.reduce 147 5 0]⟩,
    ⟨0x79f6601020000000004c0870, true, [.reduce 147 5 0]⟩, ⟨128, true, [.shiftExtra]⟩],
    []⟩,
  ⟨0, 62, [
    ⟨0x286099fe8000000065723a30e, false, [.reduce 139 5 0]⟩,
    ⟨0x79f6601020000000004c0870, true, [.reduce 139 5 0]⟩, ⟨128, true, [.shiftExtra]⟩],
    []⟩,
  ⟨0, 63, [
    ⟨0x286099fe8000000065723a30e, false, [.reduce 146 5 0]⟩,
    ⟨0x79f6601020000000004c0870, true, [.reduce 146 5 0]⟩, ⟨128, true, [.shiftExtra]⟩],
    []⟩,
  ⟨0, 64, [
    ⟨0x286099fe8000000065723a30e, false, [.reduce 151 5 22]⟩,
    ⟨0x79f6601020000000004c0870, true, [.reduce 151 5 22]⟩, ⟨128, true, [.shiftExtra]⟩],
    []⟩,
  ⟨0, 65, [
    ⟨0x286099fe8000000065723a30e, false, [.reduce 143 4 0]⟩,
    ⟨0x79f6601020000000004c0870, true, [.reduce 143 4 0]⟩, ⟨128, true, [.shiftExtra]⟩],
    []⟩,
  ⟨0, 66, [
    ⟨0x286099fe8000000065723a30e, false, [.reduce 149 6 8]⟩,
    ⟨0x79f6601020000000004c0870, true, [.reduce 149 6 8]⟩, ⟨128, true, [.shiftExtra]⟩],
    []⟩,
  ⟨0, 67, [
    ⟨0x286099fe8000000065723a30e, false, [.reduce 147 2 0]⟩,
    ⟨0x79f6601020000000004c0870, true, [.reduce 147 2 0]⟩, ⟨128, true, [.shiftExtra]⟩],
    []⟩]

end SyntaxKit.Harneet
