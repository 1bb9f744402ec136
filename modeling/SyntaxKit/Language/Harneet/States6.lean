import SyntaxKit.Language.Basic

/-!
# Parse states 340 to 407 of Harneet

Rows of the parse automaton.  Each gives the lexical state in which its next token is read, the
first state with the same core, what to do on each set of tokens (a set is a number whose bit `i`
stands for token `i`), and the state to enter after each set of nonterminals (bit `i` stands for the
`i`-th nonterminal).
-/

namespace SyntaxKit.Harneet

/-- Parse states 340 to 407. -/
def states6 : List StateRow := [
  ⟨0, 340, [
    ⟨0x800003e8000000065723a30e, false, [.reduce 101 3 0]⟩,
    ⟨0x4002000000000440071, true, [.reduce 101 3 0]⟩, ⟨0x800, true, [.shift 616 false]⟩,
    ⟨128, true, [.shiftExtra]⟩],
    [(0x2000000000000000, 342)]⟩,
  ⟨0, 341, [
    ⟨0x800003e8000000065723a30e, false, [.reduce 101 3 0]⟩,
    ⟨0x4002000000000440071, true, [.reduce 101 3 0]⟩, ⟨0x800, true, [.shift 616 false]⟩,
    ⟨128, true, [.shiftExtra]⟩],
    [(0x2000000000000000, 343)]⟩,
  ⟨0, 342, [
    ⟨0x800003e8000000065723a30e, false, [.reduce 101 4 0]⟩,
    ⟨0x4002000000000440071, true, [.reduce 101 4 0]⟩, ⟨0x800, true, [.shift 616 false]⟩,
    ⟨128, true, [.shiftExtra]⟩],
    [(0x2000000000000000, 343)]⟩,
  ⟨0, 343, [
    ⟨0x800003e8000000065723a30e, false, [.reduce 159 2 0]⟩,
    ⟨0x4002000000000440071, true, [.reduce 159 2 0]⟩,
    ⟨0x800, true, [.reduce 159 2 0, .shift 616 true]⟩, ⟨128, true, [.shiftExtra]⟩],
    [(0x2000000000000000, 343)]⟩,
  ⟨64, 344, [
    ⟨0x180000, false, [.reduce 131 2 30]⟩, ⟨0x20000000000000000, true, [.reduce 131 2 30]⟩,
    ⟨2, false, [.shift 652 false]⟩, ⟨0x200000, false, [.shift 789 false]⟩,
    ⟨0x400000, false, [.shift 435 false]⟩, ⟨0x1ffffe0000000000, false, [.shift 658 false]⟩,
    ⟨0x2000000000000000, false, [.shift 780 false]⟩,
    ⟨0x8000000000000000, false, [.shift 795 false]⟩, ⟨128, false, [.shiftExtra]⟩],
    [(0x3f000000, 652)]⟩,
  ⟨0, 338, [
    ⟨0x800003e8000000065723a30e, false, [.reduce 102 1 2]⟩,
    ⟨0x40020000000004c0870, true, [.reduce 102 1 2]⟩, ⟨0x1000, false, [.shift 771 false]⟩,
    ⟨128, true, [.shiftExtra]⟩],
    []⟩,
  ⟨0, 339, [
    ⟨0x800003e8000000065723a30e, false, [.reduce 101 2 0]⟩,
    ⟨0x40020000000004c0070, true, [.reduce 101 2 0]⟩, ⟨0x800, true, [.shift 657 false]⟩,
    ⟨128, true, [.shiftExtra]⟩],
    [(0x2000000000000000, 348)]⟩,
  ⟨0, 340, [
    ⟨0x800003e8000000065723a30e, false, [.reduce 101 3 0]⟩,
    ⟨0x40020000000004c0070, true, [.reduce 101 3 0]⟩, ⟨0x800, true, [.shift 657 false]⟩,
    ⟨128, true, [.shiftExtra]⟩],
    [(0x2000000000000000, 349)]⟩,
  ⟨0, 341, [
    ⟨0x800003e8000000065723a30e, false, [.reduce 101 3 0]⟩,
    ⟨0x40020000000004c0070, true, [.reduce 101 3 0]⟩, ⟨0x800, true, [.shift 657 false]⟩,
    ⟨128, true, [.shiftExtra]⟩],
    [(0x2000000000000000, 350)]⟩,
  ⟨0, 342, [
    ⟨0x800003e8000000065723a30e, false, [.reduce 101 4 0]⟩,
    ⟨0x40020000000004c0070, true, [.reduce 101 4 0]⟩, ⟨0x800, true, [.shift 657 false]⟩,
    ⟨128, true, [.shiftExtra]⟩],
    [(0x2000000000000000, 350)]⟩,
  ⟨0, 343, [
    ⟨0x800003e8000000065723a30e, false, [.reduce 159 2 0]⟩,
    ⟨0x40020000000004c0070, true, [.reduce 159 2 0]⟩,
    ⟨0x800, true, [.reduce 159 2 0, .shift 657 true]⟩, ⟨128, true, [.shiftExtra]⟩],
    [(0x2000000000000000, 350)]⟩,
  ⟨64, 24, [
    ⟨0x180000, false, [.reduce 126 3 0]⟩, ⟨0x20000000000000000, true, [.reduce 126 3 0]⟩,
    ⟨2, false, [.shift 661 false]⟩, ⟨0x200000, false, [.shift 789 false]⟩,
    ⟨0x400000, false, [.shift 435 false]⟩, ⟨0x1ffffe0000000000, false, [.shift 658 false]⟩,
    ⟨0x2000000000000000, false, [.shift 780 false]⟩,
    ⟨0x8000000000000000, false, [.shift 795 false]⟩, ⟨128, false, [.shiftExtra]⟩],
    [(0x3f000000, 661)]⟩,
  ⟨64, 25, [
    ⟨0x180000, false, [.reduce 126 4 0]⟩, ⟨0x20000000000000000, true, [.reduce 126 4 0]⟩,
    ⟨2, false, [.shift 663 false]⟩, ⟨0x200000, false, [.shift 789 false]⟩,
    ⟨0x400000, false, [.shift 435 false]⟩, ⟨0x1ffffe0000000000, false, [.shift 658 false]⟩,
    ⟨0x2000000000000000, false, [.shift 780 false]⟩,
    ⟨0x8000000000000000, false, [.shift 795 false]⟩, ⟨128, false, [.shiftExtra]⟩],
    [(0x3f000000, 663)]⟩,
  ⟨64, 26, [
    ⟨0x180000, false, [.reduce 126 5 0]⟩, ⟨0x20000000000000000, true, [.reduce 126 5 0]⟩,
    ⟨2, false, [.shift 666 false]⟩, ⟨0x200000, false, [.shift 789 false]⟩,
    ⟨0x400000, false, [.shift 435 false]⟩, ⟨0x1ffffe0000000000, false, [.shift 658 false]⟩,
    ⟨0x2000000000000000, false, [.shift 780 false]⟩,
    ⟨0x8000000000000000, false, [.shift 795 false]⟩, ⟨128, false, [.shiftExtra]⟩],
    [(0x3f000000, 666)]⟩,
  ⟨0, 354, [
    ⟨2, false, [.shift 709 false]⟩, ⟨0x40000, true, [.shift 13 false]⟩,
    ⟨0x200000, false, [.shift 785 false]⟩, ⟨0x400000, true, [.shift 380 false]⟩,
    ⟨0x1ffffe0000000000, false, [.shift 179 false]⟩,
    ⟨0x2000000000000000, true, [.shift 791 false]⟩,
    ⟨0x8000000000000000, false, [.shift 797 false]⟩, ⟨128, true, [.shiftExtra]⟩],
    [(0x2000, 128), (0x3f000000, 709)]⟩,
  ⟨0, 355, [
    ⟨0x800003e8000000065723a30e, false, [.reduce 103 3 10]⟩,
    ⟨0x4002000000000440071, true, [.reduce 103 3 10]⟩, ⟨0x4000, true, [.shift 247 false]⟩,
    ⟨128, true, [.shiftExtra]⟩],
    []⟩,
  ⟨0, 356, [
    ⟨2, false, [.shift 714 false]⟩, ⟨0x40000, true, [.shift 13 false]⟩,
    ⟨0x200000, false, [.shift 785 false]⟩, ⟨0x400000, true, [.shift 380 false]⟩,
    ⟨0x1ffffe0000000000, false, [.shift 179 false]⟩,
    ⟨0x2000000000000000, true, [.shift 791 false]⟩,
    ⟨0x8000000000000000, false, [.shift 797 false]⟩, ⟨128, true, [.shiftExtra]⟩],
    [(0x2000, 385), (0x3f000000, 714)]⟩,
  ⟨0, 357, [
    ⟨0x800800, true, [.reduce 110 1 11]⟩, ⟨2, false, [.shift 715 false]⟩,
    ⟨0x200000, false, [.shift 785 false]⟩, ⟨0x400000, true, [.shift 380 false]⟩,
    ⟨0x1ffffe0000000000, false, [.shift 179 false]⟩,
    ⟨0x2000000000000000, true, [.shift 791 false]⟩,
    ⟨0x8000000000000000, false, [.shift 797 false]⟩, ⟨128, true, [.shiftExtra]⟩],
    [(0x3f000000, 715)]⟩,
  ⟨0, 358, [
    ⟨0x800003e8000000065723a30e, false, [.reduce 114 3 13]⟩,
    ⟨0x4002000000000440071, true, [.reduce 114 3 13]⟩, ⟨0x8000000, false, [.shift 593 false]⟩,
    ⟨128, true, [.shiftExtra]⟩],
    []⟩,
  ⟨0, 359, [
    ⟨0x800003e8000000065723a30e, false, [.reduce 102 3 16]⟩,
    ⟨0x4002000000000440871, true, [.reduce 102 3 16]⟩, ⟨128, true, [.shiftExtra]⟩],
    []⟩,
  ⟨0, 360, [
    ⟨0x800003e8000000065723a30e, false, [.reduce 159 2 0]⟩,
    ⟨0x4002000000000440871, true, [.reduce 159 2 0]⟩, ⟨128, true, [.shiftExtra]⟩],
    []⟩,
  ⟨0, 179, [
    ⟨0x800003e8000000065723a30e, false, [.reduce 123 1 0]⟩,
    ⟨0x40020000000004c4070, true, [.reduce 123 1 0]⟩, ⟨128, true, [.shiftExtra]⟩],
    []⟩,
  ⟨0, 355, [
    ⟨0x800003e8000000065723a30e, false, [.reduce 103 3 10]⟩,
    ⟨0x40020000000004c0070, true, [.reduce 103 3 10]⟩, ⟨0x4000, true, [.shift 269 false]⟩,
    ⟨128, true, [.shiftExtra]⟩],
    []⟩,
  ⟨0, 358, [
    ⟨0x800003e8000000065723a30e, false, [.reduce 114 3 13]⟩,
    ⟨0x40020000000004c0070, true, [.reduce 114 3 13]⟩, ⟨0x8000000, false, [.shift 606 false]⟩,
    ⟨128, true, [.shiftExtra]⟩],
    []⟩,
  ⟨0, 359, [
    ⟨0x800003e8000000065723a30e, false, [.reduce 102 3 16]⟩,
    ⟨0x40020000000004c0870, true, [.reduce 102 3 16]⟩, ⟨128, true, [.shiftExtra]⟩],
    []⟩,
  ⟨0, 360, [
    ⟨0x800003e8000000065723a30e, false, [.reduce 159 2 0]⟩,
    ⟨0x40020000000004c0870, true, [.reduce 159 2 0]⟩, ⟨128, true, [.shiftExtra]⟩],
    []⟩,
  ⟨0, 183, [
    ⟨0x800003e8000000065723a30e, false, [.reduce 127 2 0]⟩,
    ⟨0x40020000000004c4070, true, [.reduce 127 2 0]⟩, ⟨128, true, [.shiftExtra]⟩],
    []⟩,
  ⟨0, 188, [
    ⟨0x800003e8000000065723a30e, false, [.reduce 124 3 0]⟩,
    ⟨0x40020000000004c4070, true, [.reduce 124 3 0]⟩, ⟨128, true, [.shiftExtra]⟩],
    []⟩,
  ⟨0, 190, [
    ⟨0x800003e8000000065723a30e, false, [.reduce 126 4 0]⟩,
    ⟨0x40020000000004c4070, true, [.reduce 126 4 0]⟩, ⟨128, true, [.shiftExtra]⟩],
    []⟩,
  ⟨0, 191, [
    ⟨0x800003e8000000065723a30e, false, [.reduce 127 4 0]⟩,
    ⟨0x40020000000004c4070, true, [.reduce 127 4 0]⟩, ⟨128, true, [.shiftExtra]⟩],
    []⟩,
  ⟨0, 193, [
    ⟨0x800003e8000000065723a30e, false, [.reduce 126 5 0]⟩,
    ⟨0x40020000000004c4070, true, [.reduce 126 5 0]⟩, ⟨128, true, [.shiftExtra]⟩],
    []⟩,
  ⟨0, 194, [
    ⟨0x800003e8000000065723a30e, false, [.reduce 127 5 0]⟩,
    ⟨0x40020000000004c4070, true, [.reduce 127 5 0]⟩, ⟨128, true, [.shiftExtra]⟩],
    []⟩,
  ⟨0, 195, [
    ⟨0x800003e8000000065723a30e, false, [.reduce 125 5 0]⟩,
    ⟨0x40020000000004c4070, true, [.reduce 125 5 0]⟩, ⟨128, true, [.shiftExtra]⟩],
    []⟩,
  ⟨0, 196, [
    ⟨0x800003e8000000065723a30e, false, [.reduce 126 6 0]⟩,
    ⟨0x40020000000004c4070, true, [.reduce 126 6 0]⟩, ⟨128, true, [.shiftExtra]⟩],
    []⟩,
  ⟨0, 354, [
    ⟨2, false, [.shift 735 false]⟩, ⟨0x40000, true, [.shift 16 false]⟩,
    ⟨0x200000, false, [.shift 785 false]⟩, ⟨0x400000, true, [.shift 380 false]⟩,
    ⟨0x1ffffe0000000000, false, [.shift 179 false]⟩,
    ⟨0x2000000000000000, true, [.shift 791 false]⟩,
    ⟨0x8000000000000000, false, [.shift 797 false]⟩, ⟨128, true, [.shiftExtra]⟩],
    [(0x2000, 48), (0x3f000000, 735)]⟩,
  ⟨0, 356, [
    ⟨2, false, [.shift 736 false]⟩, ⟨0x40000, true, [.shift 16 false]⟩,
    ⟨0x200000, false, [.shift 785 false]⟩, ⟨0x400000, true, [.shift 380 false]⟩,
    ⟨0x1ffffe0000000000, false, [.shift 179 false]⟩,
    ⟨0x2000000000000000, true, [.shift 791 false]⟩,
    ⟨0x8000000000000000, false, [.shift 797 false]⟩, ⟨128, true, [.shiftExtra]⟩],
    [(0x2000, 411), (0x3f000000, 736)]⟩,
  ⟨0, 354, [
    ⟨2, false, [.shift 737 false]⟩, ⟨0x40000, true, [.shift 18 false]⟩,
    ⟨0x200000, false, [.shift 785 false]⟩, ⟨0x400000, true, [.shift 380 false]⟩,
    ⟨0x1ffffe0000000000, false, [.shift 179 false]⟩,
    ⟨0x2000000000000000, true, [.shift 791 false]⟩,
    ⟨0x8000000000000000, false, [.shift 797 false]⟩, ⟨128, true, [.shiftExtra]⟩],
    [(0x2000, 470), (0x3f000000, 737)]⟩,
  ⟨0, 377, [
    ⟨0x800003e8000000065723a30e, false, [.reduce 100 2 1]⟩,
    ⟨0x4002000000000440071, true, [.reduce 100 2 1]⟩, ⟨128, true, [.shiftExtra]⟩],
    []⟩,
  ⟨0, 378, [
    ⟨2, false, [.shift 754 false]⟩, ⟨0x4000, true, [.shift 242 false]⟩,
    ⟨0x200000, false, [.shift 785 false]⟩, ⟨0x400000, true, [.shift 380 false]⟩,
    ⟨0x1ffffe0000000000, false, [.shift 179 false]⟩,
    ⟨0x2000000000000000, true, [.shift 791 false]⟩,
    ⟨0x8000000000000000, false, [.shift 797 false]⟩, ⟨128, true, [.shiftExtra]⟩],
    [(0x3f000000, 754)]⟩,
  ⟨0, 379, [
    ⟨0x800003e8000000065723a30e, false, [.reduce 115 2 3]⟩,
    ⟨0x4002000000000440071, true, [.reduce 115 2 3]⟩, ⟨128, true, [.shiftExtra]⟩],
    []⟩,
  ⟨0, 380, [
    ⟨2, false, [.shift 712 false]⟩, ⟨0x200000, false, [.shift 785 false]⟩,
    ⟨0x400000, true, [.shift 380 false]⟩, ⟨0x800000, true, [.shift 183 false]⟩,
    ⟨0x1ffffe0000000000, false, [.shift 179 false]⟩,
    ⟨0x2000000000000000, true, [.shift 791 false]⟩,
    ⟨0x8000000000000000, false, [.shift 797 false]⟩, ⟨128, true, [.shiftExtra]⟩],
    [(0x3f000000, 712)]⟩,
  ⟨0, 381, [
    ⟨0x800003e8000000065723a30e, false, [.reduce 105 3 1]⟩,
    ⟨0x4002000000000440071, true, [.reduce 105 3 1]⟩, ⟨128, true, [.shiftExtra]⟩],
    []⟩,
  ⟨0, 382, [
    ⟨0x800003e8000000065723a30e, false, [.reduce 115 3 14]⟩,
    ⟨0x4002000000000440071, true, [.reduce 115 3 14]⟩, ⟨128, true, [.shiftExtra]⟩],
    []⟩,
  ⟨0, 383, [
    ⟨2, false, [.shift 635 false]⟩, ⟨0x200000, false, [.shift 785 false]⟩,
    ⟨0x400000, true, [.shift 380 false]⟩, ⟨0x800000, true, [.shift 24 false]⟩,
    ⟨0x1ffffe0000000000, false, [.shift 179 false]⟩,
    ⟨0x2000000000000000, true, [.shift 791 false]⟩,
    ⟨0x8000000000000000, false, [.shift 797 false]⟩, ⟨128, true, [.shiftExtra]⟩],
    [(0x3f000000, 635)]⟩,
  ⟨0, 384, [
    ⟨0x800003e8000000065723a30e, false, [.reduce 106 4 1]⟩,
    ⟨0x4002000000000440071, true, [.reduce 106 4 1]⟩, ⟨128, true, [.shiftExtra]⟩],
    []⟩,
  ⟨0, 385, [
    ⟨0x800003e8000000065723a30e, false, [.reduce 108 4 19]⟩,
    ⟨0x4002000000000440071, true, [.reduce 108 4 19]⟩, ⟨128, true, [.shiftExtra]⟩],
    []⟩,
  ⟨0, 386, [
    ⟨0x800003e8000000065723a30e, false, [.reduce 117 4 0]⟩,
    ⟨0x4002000000000440071, true, [.reduce 117 4 0]⟩, ⟨128, true, [.shiftExtra]⟩],
    []⟩,
  ⟨0, 387, [
    ⟨0x800003e8000000065723a30e, false, [.reduce 117 4 22]⟩,
    ⟨0x4002000000000440071, true, [.reduce 117 4 22]⟩, ⟨128, true, [.shiftExtra]⟩],
    []⟩,
  ⟨0, 388, [
    ⟨2, false, [.shift 721 false]⟩, ⟨0x200000, false, [.shift 785 false]⟩,
    ⟨0x400000, true, [.shift 380 false]⟩, ⟨0x800000, true, [.shift 191 false]⟩,
    ⟨0x1ffffe0000000000, false, [.shift 179 false]⟩,
    ⟨0x2000000000000000, true, [.shift 791 false]⟩,
    ⟨0x8000000000000000, false, [.shift 797 false]⟩, ⟨128, true, [.shiftExtra]⟩],
    [(0x3f000000, 721)]⟩,
  ⟨0, 389, [
    ⟨0x800003e8000000065723a30e, false, [.reduce 128 3 0]⟩,
    ⟨0x4002000000000440071, true, [.reduce 128 3 0]⟩, ⟨128, true, [.shiftExtra]⟩],
    []⟩,
  ⟨0, 390, [
    ⟨0x800003e8000000065723a30e, false, [.reduce 130 3 0]⟩,
    ⟨0x4002000000000440071, true, [.reduce 130 3 0]⟩, ⟨128, true, [.shiftExtra]⟩],
    []⟩,
  ⟨0, 391, [
    ⟨0x800003e8000000065723a30e, false, [.reduce 106 5 1]⟩,
    ⟨0x4002000000000440071, true, [.reduce 106 5 1]⟩, ⟨128, true, [.shiftExtra]⟩],
    []⟩,
  ⟨0, 392, [
    ⟨0x800003e8000000065723a30e, false, [.reduce 108 5 26]⟩,
    ⟨0x4002000000000440071, true, [.reduce 108 5 26]⟩, ⟨128, true, [.shiftExtra]⟩],
    []⟩,
  ⟨0, 393, [
    ⟨0x800003e8000000065723a30e, false, [.reduce 114 5 27]⟩,
    ⟨0x4002000000000440071, true, [.reduce 114 5 27]⟩, ⟨128, true, [.shiftExtra]⟩],
    []⟩,
  ⟨0, 394, [
    ⟨0x800003e8000000065723a30e, false, [.reduce 116 5 28]⟩,
    ⟨0x4002000000000440071, true, [.reduce 116 5 28]⟩, ⟨128, true, [.shiftExtra]⟩],
    []⟩,
  ⟨0, 395, [
    ⟨0x800003e8000000065723a30e, false, [.reduce 117 5 0]⟩,
    ⟨0x4002000000000440071, true, [.reduce 117 5 0]⟩, ⟨128, true, [.shiftExtra]⟩],
    []⟩,
  ⟨0, 396, [
    ⟨0x800003e8000000065723a30e, false, [.reduce 117 5 22]⟩,
    ⟨0x4002000000000440071, true, [.reduce 117 5 22]⟩, ⟨128, true, [.shiftExtra]⟩],
    []⟩,
  ⟨0, 397, [
    ⟨2, false, [.shift 721 false]⟩, ⟨0x200000, false, [.shift 785 false]⟩,
    ⟨0x400000, true, [.shift 380 false]⟩, ⟨0x800000, true, [.shift 194 false]⟩,
    ⟨0x1ffffe0000000000, false, [.shift 179 false]⟩,
    ⟨0x2000000000000000, true, [.shift 791 false]⟩,
    ⟨0x8000000000000000, false, [.shift 797 false]⟩, ⟨128, true, [.shiftExtra]⟩],
    [(0x3f000000, 721)]⟩,
  ⟨0, 398, [
    ⟨0x800003e8000000065723a30e, false, [.reduce 128 4 0]⟩,
    ⟨0x4002000000000440071, true, [.reduce 128 4 0]⟩, ⟨128, true, [.shiftExtra]⟩],
    []⟩,
  ⟨0, 399, [
    ⟨0x800003e8000000065723a30e, false, [.reduce 130 4 0]⟩,
    ⟨0x4002000000000440071, true, [.reduce 130 4 0]⟩, ⟨128, true, [.shiftExtra]⟩],
    []⟩,
  ⟨0, 400, [
    ⟨0x800003e8000000065723a30e, false, [.reduce 106 6 1]⟩,
    ⟨0x4002000000000440071, true, [.reduce 106 6 1]⟩, ⟨128, true, [.shiftExtra]⟩],
    []⟩,
  ⟨0, 401, [
    ⟨0x800003e8000000065723a30e, false, [.reduce 117 6 22]⟩,
    ⟨0x4002000000000440071, true, [.reduce 117 6 22]⟩, ⟨128, true, [.shiftExtra]⟩],
    []⟩,
  ⟨0, 402, [
    ⟨0x800003e8000000065723a30e, false, [.reduce 128 5 0]⟩,
    ⟨0x4002000000000440071, true, [.reduce 128 5 0]⟩, ⟨128, true, [.shiftExtra]⟩],
    []⟩,
  ⟨0, 403, [
    ⟨0x800003e8000000065723a30e, false, [.reduce 130 5 0]⟩,
    ⟨0x4002000000000440071, true, [.reduce 130 5 0]⟩, ⟨128, true, [.shiftExtra]⟩],
    []⟩,
  ⟨0, 404, [
    ⟨0x800003e8000000065723a30e, false, [.reduce 106 7 1]⟩,
    ⟨0x4002000000000440071, true, [.reduce 106 7 1]⟩, ⟨128, true, [.shiftExtra]⟩],
    []⟩,
  ⟨0, 405, [
    ⟨0x800003e8000000065723a30e, false, [.reduce 116 7 32]⟩,
    ⟨0x4002000000000440071, true, [.reduce 116 7 32]⟩, ⟨128, true, [.shiftExtra]⟩],
    []⟩,
  ⟨0, 377, [
    ⟨0x800003e8000000065723a30e, false, [.reduce 100 2 1]⟩,
    ⟨0x40020000000004c0070, true, [.reduce 100 2 1]⟩, ⟨128, true, [.shiftExtra]⟩],
    []⟩,
  ⟨0, 379, [
    ⟨0x800003e8000000065723a30e, false, [.reduce 115 2 3]⟩,
    ⟨0x40020000000004c0070, true, [.reduce 115 2 3]⟩, ⟨128, true, [.shiftExtra]⟩],
    []⟩]

end SyntaxKit.Harneet
