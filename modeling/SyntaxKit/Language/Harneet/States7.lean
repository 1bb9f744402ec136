import SyntaxKit.Language.Basic

/-!
# Parse states 408 to 475 of Harneet

Rows of the parse automaton.  Each gives the lexical state in which its next token is read, the
first state with the same core, what to do on each set of tokens (a set is a number whose bit `i`
stands for token `i`), and the state to enter after each set of nonterminals (bit `i` stands for the
`i`-th nonterminal).
-/

namespace SyntaxKit.Harneet

/-- Parse states 408 to 475. -/
def states7 : List StateRow := [
  ⟨0, 381, [
    ⟨0x800003e8000000065723a30e, false, [.reduce 105 3 1]⟩,
    ⟨0x40020000000004c0070, true, [.reduce 105 3 1]⟩, ⟨128, true, [.shiftExtra]⟩],
    []⟩,
  ⟨0, 382, [
    ⟨0x800003e8000000065723a30e, false, [.reduce 115 3 14]⟩,
    ⟨0x40020000000004c0070, true, [.reduce 115 3 14]⟩, ⟨128, true, [.shiftExtra]⟩],
    []⟩,
  ⟨0, 384, [
    ⟨0x800003e8000000065723a30e, false, [.reduce 106 4 1]⟩,
    ⟨0x40020000000004c0070, true, [.reduce 106 4 1]⟩, ⟨128, true, [.shiftExtra]⟩],
    []⟩,
  ⟨0, 385, [
    ⟨0x800003e8000000065723a30e, false, [.reduce 108 4 19]⟩,
    ⟨0x40020000000004c0070, true, [.reduce 108 4 19]⟩, ⟨128, true, [.shiftExtra]⟩],
    []⟩,
  ⟨0, 386, [
    ⟨0x800003e8000000065723a30e, false, [.reduce 117 4 0]⟩,
    ⟨0x40020000000004c0070, true, [.reduce 117 4 0]⟩, ⟨128, true, [.shiftExtra]⟩],
    []⟩,
  ⟨0, 387, [
    ⟨0x800003e8000000065723a30e, false, [.reduce 117 4 22]⟩,
    ⟨0x40020000000004c0070, true, [.reduce 117 4 22]⟩, ⟨128, true, [.shiftExtra]⟩],
    []⟩,
  ⟨0, 389, [
    ⟨0x800003e8000000065723a30e, false, [.reduce 128 3 0]⟩,
    ⟨0x40020000000004c0070, true, [.reduce 128 3 0]⟩, ⟨128, true, [.shiftExtra]⟩],
    []⟩,
  ⟨0, 390, [
    ⟨0x800003e8000000065723a30e, false, [.reduce 130 3 0]⟩,
    ⟨0x40020000000004c0070, true, [.reduce 130 3 0]⟩, ⟨128, true, [.shiftExtra]⟩],
    []⟩,
  ⟨0, 391, [
    ⟨0x800003e8000000065723a30e, false, [.reduce 106 5 1]⟩,
    ⟨0x40020000000004c0070, true, [.reduce 106 5 1]⟩, ⟨128, true, [.shiftExtra]⟩],
    []⟩,
  ⟨0, 392, [
    ⟨0x800003e8000000065723a30e, false, [.reduce 108 5 26]⟩,
    ⟨0x40020000000004c0070, true, [.reduce 108 5 26]⟩, ⟨128, true, [.shiftExtra]⟩],
    []⟩,
  ⟨0, 393, [
    ⟨0x800003e8000000065723a30e, false, [.reduce 114 5 27]⟩,
    ⟨0x40020000000004c0070, true, [.reduce 114 5 27]⟩, ⟨128, true, [.shiftExtra]⟩],
    []⟩,
  ⟨0, 394, [
    ⟨0x800003e8000000065723a30e, false, [.reduce 116 5 28]⟩,
    ⟨0x40020000000004c0070, true, [.reduce 116 5 28]⟩, ⟨128, true, [.shiftExtra]⟩],
    []⟩,
  ⟨0, 395, [
    ⟨0x800003e8000000065723a30e, false, [.reduce 117 5 0]⟩,
    ⟨0x40020000000004c0070, true, [.reduce 117 5 0]⟩, ⟨128, true, [.shiftExtra]⟩],
    []⟩,
  ⟨0, 396, [
    ⟨0x800003e8000000065723a30e, false, [.reduce 117 5 22]⟩,
    ⟨0x40020000000004c0070, true, [.reduce 117 5 22]⟩, ⟨128, true, [.shiftExtra]⟩],
    []⟩,
  ⟨0, 398, [
    ⟨0x800003e8000000065723a30e, false, [.reduce 128 4 0]⟩,
    ⟨0x40020000000004c0070, true, [.reduce 128 4 0]⟩, ⟨128, true, [.shiftExtra]⟩],
    []⟩,
  ⟨0, 399, [
    ⟨0x800003e8000000065723a30e, false, [.reduce 130 4 0]⟩,
    ⟨0x40020000000004c0070, true, [.reduce 130 4 0]⟩, ⟨128, true, [.shiftExtra]⟩],
    []⟩,
  ⟨0, 400, [
    ⟨0x800003e8000000065723a30e, false, [.reduce 106 6 1]⟩,
    ⟨0x40020000000004c0070, true, [.reduce 106 6 1]⟩, ⟨128, true, [.shiftExtra]⟩],
    []⟩,
  ⟨0, 401, [
    ⟨0x800003e8000000065723a30e, false, [.reduce 117 6 22]⟩,
    ⟨0x40020000000004c0070, true, [.reduce 117 6 22]⟩, ⟨128, true, [.shiftExtra]⟩],
    []⟩,
  ⟨0, 402, [
    ⟨0x800003e8000000065723a30e, false, [.reduce 128 5 0]⟩,
    ⟨0x40020000000004c0070, true, [.reduce 128 5 0]⟩, ⟨128, true, [.shiftExtra]⟩],
    []⟩,
  ⟨0, 403, [
    ⟨0x800003e8000000065723a30e, false, [.reduce 130 5 0]⟩,
    ⟨0x40020000000004c0070, true, [.reduce 130 5 0]⟩, ⟨128, true, [.shiftExtra]⟩],
    []⟩,
  ⟨0, 404, [
    ⟨0x800003e8000000065723a30e, false, [.reduce 106 7 1]⟩,
    ⟨0x40020000000004c0070, true, [.reduce 106 7 1]⟩, ⟨128, true, [.shiftExtra]⟩],
    []⟩,
  ⟨0, 405, [
    ⟨0x800003e8000000065723a30e, false, [.reduce 116 7 32]⟩,
    ⟨0x40020000000004c0070, true, [.reduce 116 7 32]⟩, ⟨128, true, [.shiftExtra]⟩],
    []⟩,
  ⟨0, 378, [
    ⟨2, false, [.shift 773 false]⟩, ⟨0x4000, true, [.shift 268 false]⟩,
    ⟨0x200000, false, [.shift 785 false]⟩, ⟨0x400000, true, [.shift 380 false]⟩,
    ⟨0x1ffffe0000000000, false, [.shift 179 false]⟩,
    ⟨0x2000000000000000, true, [.shift 791 false]⟩,
    ⟨0x8000000000000000, false, [.shift 797 false]⟩, ⟨128, true, [.shiftExtra]⟩],
    [(0x3f000000, 773)]⟩,
  ⟨0, 380, [
    ⟨2, false, [.shift 740 false]⟩, ⟨0x200000, false, [.shift 785 false]⟩,
    ⟨0x400000, true, [.shift 380 false]⟩, ⟨0x800000, true, [.shift 366 false]⟩,
    ⟨0x1ffffe0000000000, false, [.shift 179 false]⟩,
    ⟨0x2000000000000000, true, [.shift 791 false]⟩,
    ⟨0x8000000000000000, false, [.shift 797 false]⟩, ⟨128, true, [.shiftExtra]⟩],
    [(0x3f000000, 740)]⟩,
  ⟨0, 383, [
    ⟨2, false, [.shift 684 false]⟩, ⟨0x200000, false, [.shift 785 false]⟩,
    ⟨0x400000, true, [.shift 380 false]⟩, ⟨0x800000, true, [.shift 198 false]⟩,
    ⟨0x1ffffe0000000000, false, [.shift 179 false]⟩,
    ⟨0x2000000000000000, true, [.shift 791 false]⟩,
    ⟨0x8000000000000000, false, [.shift 797 false]⟩, ⟨128, true, [.shiftExtra]⟩],
    [(0x3f000000, 684)]⟩,
  ⟨0, 388, [
    ⟨2, false, [.shift 721 false]⟩, ⟨0x200000, false, [.shift 785 false]⟩,
    ⟨0x400000, true, [.shift 380 false]⟩, ⟨0x800000, true, [.shift 369 false]⟩,
    ⟨0x1ffffe0000000000, false, [.shift 179 false]⟩,
    ⟨0x2000000000000000, true, [.shift 791 false]⟩,
    ⟨0x8000000000000000, false, [.shift 797 false]⟩, ⟨128, true, [.shiftExtra]⟩],
    [(0x3f000000, 721)]⟩,
  ⟨0, 397, [
    ⟨2, false, [.shift 721 false]⟩, ⟨0x200000, false, [.shift 785 false]⟩,
    ⟨0x400000, true, [.shift 380 false]⟩, ⟨0x800000, true, [.shift 371 false]⟩,
    ⟨0x1ffffe0000000000, false, [.shift 179 false]⟩,
    ⟨0x2000000000000000, true, [.shift 791 false]⟩,
    ⟨0x8000000000000000, false, [.shift 797 false]⟩, ⟨128, true, [.shiftExtra]⟩],
    [(0x3f000000, 721)]⟩,
  ⟨0, 380, [
    ⟨2, false, [.shift 741 false]⟩, ⟨0x200000, false, [.shift 785 false]⟩,
    ⟨0x400000, true, [.shift 380 false]⟩, ⟨0x800000, true, [.shift 659 false]⟩,
    ⟨0x1ffffe0000000000, false, [.shift 179 false]⟩,
    ⟨0x2000000000000000, true, [.shift 791 false]⟩,
    ⟨0x8000000000000000, false, [.shift 797 false]⟩, ⟨128, true, [.shiftExtra]⟩],
    [(0x3f000000, 741)]⟩,
  ⟨0, 383, [
    ⟨2, false, [.shift 700 false]⟩, ⟨0x200000, false, [.shift 785 false]⟩,
    ⟨0x400000, true, [.shift 380 false]⟩, ⟨0x800000, true, [.shift 30 false]⟩,
    ⟨0x1ffffe0000000000, false, [.shift 179 false]⟩,
    ⟨0x2000000000000000, true, [.shift 791 false]⟩,
    ⟨0x8000000000000000, false, [.shift 797 false]⟩, ⟨128, true, [.shiftExtra]⟩],
    [(0x3f000000, 700)]⟩,
  ⟨0, 388, [
    ⟨2, false, [.shift 721 false]⟩, ⟨0x200000, false, [.shift 785 false]⟩,
    ⟨0x400000, true, [.shift 380 false]⟩, ⟨0x800000, true, [.shift 662 false]⟩,
    ⟨0x1ffffe0000000000, false, [.shift 179 false]⟩,
    ⟨0x2000000000000000, true, [.shift 791 false]⟩,
    ⟨0x8000000000000000, false, [.shift 797 false]⟩, ⟨128, true, [.shiftExtra]⟩],
    [(0x3f000000, 721)]⟩,
  ⟨0, 397, [
    ⟨2, false, [.shift 721 false]⟩, ⟨0x200000, false, [.shift 785 false]⟩,
    ⟨0x400000, true, [.shift 380 false]⟩, ⟨0x800000, true, [.shift 664 false]⟩,
    ⟨0x1ffffe0000000000, false, [.shift 179 false]⟩,
    ⟨0x2000000000000000, true, [.shift 791 false]⟩,
    ⟨0x8000000000000000, false, [.shift 797 false]⟩, ⟨128, true, [.shiftExtra]⟩],
    [(0x3f000000, 721)]⟩,
  ⟨0, 383, [
    ⟨2, false, [.shift 703 false]⟩, ⟨0x200000, false, [.shift 785 false]⟩,
    ⟨0x400000, true, [.shift 380 false]⟩, ⟨0x800000, true, [.shift 351 false]⟩,
    ⟨0x1ffffe0000000000, false, [.shift 179 false]⟩,
    ⟨0x2000000000000000, true, [.shift 791 false]⟩,
    ⟨0x8000000000000000, false, [.shift 797 false]⟩, ⟨128, true, [.shiftExtra]⟩],
    [(0x3f000000, 703)]⟩,
  ⟨0, 440, [
    ⟨2, false, [.shift 188 false]⟩, ⟨0x200000, false, [.shift 751 false]⟩,
    ⟨0x400000, true, [.shift 380 false]⟩, ⟨0x1ffffe0000000000, false, [.shift 179 false]⟩,
    ⟨0x2000000000000000, true, [.shift 752 false]⟩,
    ⟨0x8000000000000000, false, [.shift 753 false]⟩, ⟨128, true, [.shiftExtra]⟩],
    [(0x3f000000, 188)]⟩,
  ⟨0, 441, [
    ⟨2, false, [.shift 765 false]⟩, ⟨0x200000, false, [.shift 785 false]⟩,
    ⟨0x400000, true, [.shift 380 false]⟩, ⟨0x1ffffe0000000000, false, [.shift 179 false]⟩,
    ⟨0x2000000000000000, true, [.shift 791 false]⟩,
    ⟨0x8000000000000000, false, [.shift 797 false]⟩, ⟨128, true, [.shiftExtra]⟩],
    [(0x3f000000, 765)]⟩,
  ⟨0, 442, [
    ⟨2, false, [.shift 645 false]⟩, ⟨0x200000, false, [.shift 789 false]⟩,
    ⟨0x400000, true, [.shift 435 false]⟩, ⟨0x1ffffe0000000000, false, [.shift 658 false]⟩,
    ⟨0x2000000000000000, true, [.shift 780 false]⟩,
    ⟨0x8000000000000000, false, [.shift 795 false]⟩, ⟨128, true, [.shiftExtra]⟩],
    [(0x3f000000, 645)]⟩,
  ⟨0, 443, [
    ⟨2, false, [.shift 721 false]⟩, ⟨0x200000, false, [.shift 785 false]⟩,
    ⟨0x400000, true, [.shift 380 false]⟩, ⟨0x1ffffe0000000000, false, [.shift 179 false]⟩,
    ⟨0x2000000000000000, true, [.shift 791 false]⟩,
    ⟨0x8000000000000000, false, [.shift 797 false]⟩, ⟨128, true, [.shiftExtra]⟩],
    [(0x3f000000, 721)]⟩,
  ⟨0, 444, [
    ⟨2, false, [.shift 195 false]⟩, ⟨0x200000, false, [.shift 751 false]⟩,
    ⟨0x400000, true, [.shift 380 false]⟩, ⟨0x1ffffe0000000000, false, [.shift 179 false]⟩,
    ⟨0x2000000000000000, true, [.shift 752 false]⟩,
    ⟨0x8000000000000000, false, [.shift 753 false]⟩, ⟨128, true, [.shiftExtra]⟩],
    [(0x3f000000, 195)]⟩,
  ⟨0, 440, [
    ⟨2, false, [.shift 367 false]⟩, ⟨0x200000, false, [.shift 788 false]⟩,
    ⟨0x400000, true, [.shift 431 false]⟩, ⟨0x1ffffe0000000000, false, [.shift 361 false]⟩,
    ⟨0x2000000000000000, true, [.shift 772 false]⟩,
    ⟨0x8000000000000000, false, [.shift 792 false]⟩, ⟨128, true, [.shiftExtra]⟩],
    [(0x3f000000, 367)]⟩,
  ⟨0, 442, [
    ⟨2, false, [.shift 733 false]⟩, ⟨0x200000, false, [.shift 785 false]⟩,
    ⟨0x400000, true, [.shift 380 false]⟩, ⟨0x1ffffe0000000000, false, [.shift 179 false]⟩,
    ⟨0x2000000000000000, true, [.shift 791 false]⟩,
    ⟨0x8000000000000000, false, [.shift 797 false]⟩, ⟨128, true, [.shiftExtra]⟩],
    [(0x3f000000, 733)]⟩,
  ⟨0, 444, [
    ⟨2, false, [.shift 372 false]⟩, ⟨0x200000, false, [.shift 788 false]⟩,
    ⟨0x400000, true, [.shift 431 false]⟩, ⟨0x1ffffe0000000000, false, [.shift 361 false]⟩,
    ⟨0x2000000000000000, true, [.shift 772 false]⟩,
    ⟨0x8000000000000000, false, [.shift 792 false]⟩, ⟨128, true, [.shiftExtra]⟩],
    [(0x3f000000, 372)]⟩,
  ⟨67, 39, [
    ⟨0x179f679106000000004cc0800, true, [.reduce 136 1 0]⟩,
    ⟨0x60980000000000000000000, false, [.reduce 136 1 0]⟩, ⟨128, true, [.shiftExtra]⟩],
    []⟩,
  ⟨67, 40, [
    ⟨0x179f679106000000004cc0800, true, [.reduce 137 1 0]⟩,
    ⟨0x60980000000000000000000, false, [.reduce 137 1 0]⟩, ⟨128, true, [.shiftExtra]⟩],
    []⟩,
  ⟨0, 440, [
    ⟨2, false, [.shift 660 false]⟩, ⟨0x200000, false, [.shift 789 false]⟩,
    ⟨0x400000, true, [.shift 435 false]⟩, ⟨0x1ffffe0000000000, false, [.shift 658 false]⟩,
    ⟨0x2000000000000000, true, [.shift 780 false]⟩,
    ⟨0x8000000000000000, false, [.shift 795 false]⟩, ⟨128, true, [.shiftExtra]⟩],
    [(0x3f000000, 660)]⟩,
  ⟨0, 444, [
    ⟨2, false, [.shift 665 false]⟩, ⟨0x200000, false, [.shift 789 false]⟩,
    ⟨0x400000, true, [.shift 435 false]⟩, ⟨0x1ffffe0000000000, false, [.shift 658 false]⟩,
    ⟨0x2000000000000000, true, [.shift 780 false]⟩,
    ⟨0x8000000000000000, false, [.shift 795 false]⟩, ⟨128, true, [.shiftExtra]⟩],
    [(0x3f000000, 665)]⟩,
  ⟨0, 440, [
    ⟨2, false, [.shift 188 false]⟩, ⟨0x200000, false, [.shift 785 false]⟩,
    ⟨0x400000, true, [.shift 380 false]⟩, ⟨0x1ffffe0000000000, false, [.shift 179 false]⟩,
    ⟨0x2000000000000000, true, [.shift 791 false]⟩,
    ⟨0x8000000000000000, false, [.shift 797 false]⟩, ⟨128, true, [.shiftExtra]⟩],
    [(0x3f000000, 188)]⟩,
  ⟨0, 441, [
    ⟨2, false, [.shift 777 false]⟩, ⟨0x200000, false, [.shift 785 false]⟩,
    ⟨0x400000, true, [.shift 380 false]⟩, ⟨0x1ffffe0000000000, false, [.shift 179 false]⟩,
    ⟨0x2000000000000000, true, [.shift 791 false]⟩,
    ⟨0x8000000000000000, false, [.shift 797 false]⟩, ⟨128, true, [.shiftExtra]⟩],
    [(0x3f000000, 777)]⟩,
  ⟨0, 444, [
    ⟨2, false, [.shift 195 false]⟩, ⟨0x200000, false, [.shift 785 false]⟩,
    ⟨0x400000, true, [.shift 380 false]⟩, ⟨0x1ffffe0000000000, false, [.shift 179 false]⟩,
    ⟨0x2000000000000000, true, [.shift 791 false]⟩,
    ⟨0x8000000000000000, false, [.shift 797 false]⟩, ⟨128, true, [.shiftExtra]⟩],
    [(0x3f000000, 195)]⟩,
  ⟨0, 441, [
    ⟨2, false, [.shift 781 false]⟩, ⟨0x200000, false, [.shift 785 false]⟩,
    ⟨0x400000, true, [.shift 380 false]⟩, ⟨0x1ffffe0000000000, false, [.shift 179 false]⟩,
    ⟨0x2000000000000000, true, [.shift 791 false]⟩,
    ⟨0x8000000000000000, false, [.shift 797 false]⟩, ⟨128, true, [.shiftExtra]⟩],
    [(0x3f000000, 781)]⟩,
  ⟨0, 441, [
    ⟨2, false, [.shift 794 false]⟩, ⟨0x200000, false, [.shift 785 false]⟩,
    ⟨0x400000, true, [.shift 380 false]⟩, ⟨0x1ffffe0000000000, false, [.shift 179 false]⟩,
    ⟨0x2000000000000000, true, [.shift 791 false]⟩,
    ⟨0x8000000000000000, false, [.shift 797 false]⟩, ⟨128, true, [.shiftExtra]⟩],
    [(0x3f000000, 794)]⟩,
  ⟨67, 87, [
    ⟨0x79f679106000000000c80800, true, [.reduce 135 1 0]⟩,
    ⟨0x60980000000000000000000, false, [.reduce 135 1 0]⟩, ⟨0x40000, true, [.shift 170 false]⟩,
    ⟨0x1000000000000000000000000, true, [.shift 201 false]⟩, ⟨128, true, [.shiftExtra]⟩],
    []⟩,
  ⟨67, 67, [
    ⟨0x179f679106000000000cc0800, true, [.reduce 147 2 0]⟩,
    ⟨0x60980000000000000000000, false, [.reduce 147 2 0]⟩, ⟨128, true, [.shiftExtra]⟩],
    []⟩,
  ⟨67, 41, [
    ⟨0x179f679106000000000cc0800, true, [.reduce 132 1 0]⟩,
    ⟨0x60980000000000000000000, false, [.reduce 132 1 0]⟩, ⟨128, true, [.shiftExtra]⟩],
    []⟩,
  ⟨67, 42, [
    ⟨0x179f679106000000000cc0800, true, [.reduce 139 2 0]⟩,
    ⟨0x60980000000000000000000, false, [.reduce 139 2 0]⟩, ⟨128, true, [.shiftExtra]⟩],
    []⟩,
  ⟨67, 43, [
    ⟨0x179f679106000000000cc0800, true, [.reduce 146 2 0]⟩,
    ⟨0x60980000000000000000000, false, [.reduce 146 2 0]⟩, ⟨128, true, [.shiftExtra]⟩],
    []⟩,
  ⟨67, 74, [
    ⟨0x1400000004000000000880800, true, [.reduce 133 2 4]⟩, ⟨0x400000, true, [.shift 214 false]⟩,
    ⟨0x2000000000000000, true, [.shift 290 false]⟩,
    ⟨0x100000000000000000, true, [.shift 273 false]⟩,
    ⟨0x10001000000000000000000, true, [.shift 274 false]⟩,
    ⟨0x8000000000000000000, true, [.shift 275 false]⟩,
    ⟨0x10000000000000000000, true, [.shift 276 false]⟩,
    ⟨0x660000000000000000000, true, [.shift 277 false]⟩,
    ⟨0x180000000000000000000, false, [.shift 277 false]⟩,
    ⟨0x800000000000000000000, false, [.shift 278 false]⟩,
    ⟨0x1000000000000000000000, true, [.shift 278 false]⟩,
    ⟨0x2000000000000000000000, true, [.shift 279 false]⟩,
    ⟨0xc000000000000000000000, true, [.shift 280 false]⟩,
    ⟨0x60000000000000000000000, false, [.shift 281 false]⟩,
    ⟨0x80000000000000000000000, true, [.shift 281 false]⟩,
    ⟨0x100000000000000000000000, true, [.shift 282 false]⟩,
    ⟨0x200000000000000000000000, true, [.shift 779 false]⟩, ⟨128, true, [.shiftExtra]⟩],
    [(0x200000000000, 464)]⟩,
  ⟨67, 75, [
    ⟨0x141f679104000000000880800, true, [.reduce 140 2 5]⟩, ⟨0x400000, true, [.shift 214 false]⟩,
    ⟨0x2000000000000000, true, [.shift 290 false]⟩,
    ⟨0x980000000000000000000, false, [.reduce 140 2 5]⟩,
    ⟨0x60000000000000000000000, false, [.shift 281 false]⟩,
    ⟨0x80000000000000000000000, true, [.shift 281 false]⟩,
    ⟨0x100000000000000000000000, true, [.shift 282 false]⟩,
    ⟨0x200000000000000000000000, true, [.shift 779 false]⟩, ⟨128, true, [.shiftExtra]⟩],
    [(0x200000000000, 464)]⟩,
  ⟨67, 44, [
    ⟨0x179f679106000000000cc0800, true, [.reduce 142 2 6]⟩,
    ⟨0x60980000000000000000000, false, [.reduce 142 2 6]⟩, ⟨128, true, [.shiftExtra]⟩],
    []⟩,
  ⟨67, 45, [
    ⟨0x179f679106000000000cc0800, true, [.reduce 149 3 8]⟩,
    ⟨0x60980000000000000000000, false, [.reduce 149 3 8]⟩, ⟨128, true, [.shiftExtra]⟩],
    []⟩,
  ⟨67, 46, [
    ⟨0x179f679106000000000cc0800, true, [.reduce 156 3 9]⟩,
    ⟨0x60980000000000000000000, false, [.reduce 156 3 9]⟩, ⟨128, true, [.shiftExtra]⟩],
    []⟩,
  ⟨67, 76, [
    ⟨0x1400000104000000000880800, true, [.reduce 156 3 9]⟩, ⟨0x400000, true, [.shift 214 false]⟩,
    ⟨0x2000000000000000, true, [.shift 290 false]⟩,
    ⟨0x10001000000000000000000, true, [.shift 274 false]⟩,
    ⟨0x8000000000000000000, true, [.shift 275 false]⟩,
    ⟨0x10000000000000000000, true, [.shift 276 false]⟩,
    ⟨0x660000000000000000000, true, [.shift 277 false]⟩,
    ⟨0x180000000000000000000, false, [.shift 277 false]⟩,
    ⟨0x800000000000000000000, false, [.shift 278 false]⟩,
    ⟨0x1000000000000000000000, true, [.shift 278 false]⟩,
    ⟨0x2000000000000000000000, true, [.shift 279 false]⟩,
    ⟨0xc000000000000000000000, true, [.shift 280 false]⟩,
    ⟨0x60000000000000000000000, false, [.shift 281 false]⟩,
    ⟨0x80000000000000000000000, true, [.shift 281 false]⟩,
    ⟨0x100000000000000000000000, true, [.shift 282 false]⟩,
    ⟨0x200000000000000000000000, true, [.shift 779 false]⟩, ⟨128, true, [.shiftExtra]⟩],
    [(0x200000000000, 464)]⟩,
  ⟨67, 47, [
    ⟨0x179f679106000000000cc0800, true, [.reduce 147 3 0]⟩,
    ⟨0x60980000000000000000000, false, [.reduce 147 3 0]⟩, ⟨128, true, [.shiftExtra]⟩],
    []⟩,
  ⟨67, 37, [
    ⟨0x179f679106000000000cc0800, true, [.reduce 111 3 0]⟩,
    ⟨0x60980000000000000000000, false, [.reduce 111 3 0]⟩, ⟨128, true, [.shiftExtra]⟩],
    []⟩,
  ⟨67, 48, [
    ⟨0x179f679106000000000cc0800, true, [.reduce 157 3 12]⟩,
    ⟨0x60980000000000000000000, false, [.reduce 157 3 12]⟩, ⟨128, true, [.shiftExtra]⟩],
    []⟩,
  ⟨67, 49, [
    ⟨0x179f679106000000000cc0800, true, [.reduce 138 3 0]⟩,
    ⟨0x60980000000000000000000, false, [.reduce 138 3 0]⟩, ⟨128, true, [.shiftExtra]⟩],
    []⟩,
  ⟨67, 50, [
    ⟨0x179f679106000000000cc0800, true, [.reduce 146 3 0]⟩,
    ⟨0x60980000000000000000000, false, [.reduce 146 3 0]⟩, ⟨128, true, [.shiftExtra]⟩],
    []⟩,
  ⟨67, 115, [
    ⟨0x40000, true, [.reduce 147 2 0]⟩, ⟨0x179f679106000000000c80800, true, [.reduce 151 3 0]⟩,
    ⟨0x60980000000000000000000, false, [.reduce 151 3 0]⟩, ⟨128, true, [.shiftExtra]⟩],
    []⟩,
  ⟨67, 51, [
    ⟨0x179f679106000000000cc0800, true, [.reduce 143 2 0]⟩,
    ⟨0x60980000000000000000000, false, [.reduce 143 2 0]⟩, ⟨128, true, [.shiftExtra]⟩],
    []⟩,
  ⟨67, 77, [
    ⟨0x1400000104000000000880800, true, [.reduce 134 3 0]⟩, ⟨0x400000, true, [.shift 214 false]⟩,
    ⟨0x2000000000000000, true, [.shift 290 false]⟩,
    ⟨0x10001000000000000000000, true, [.shift 274 false]⟩,
    ⟨0x8000000000000000000, true, [.shift 275 false]⟩,
    ⟨0x10000000000000000000, true, [.shift 276 false]⟩,
    ⟨0x660000000000000000000, true, [.shift 277 false]⟩,
    ⟨0x180000000000000000000, false, [.shift 277 false]⟩,
    ⟨0x800000000000000000000, false, [.shift 278 false]⟩,
    ⟨0x1000000000000000000000, true, [.shift 278 false]⟩,
    ⟨0x2000000000000000000000, true, [.shift 279 false]⟩,
    ⟨0xc000000000000000000000, true, [.shift 280 false]⟩,
    ⟨0x60000000000000000000000, false, [.shift 281 false]⟩,
    ⟨0x80000000000000000000000, true, [.shift 281 false]⟩,
    ⟨0x100000000000000000000000, true, [.shift 282 false]⟩,
    ⟨0x200000000000000000000000, true, [.shift 779 false]⟩, ⟨128, true, [.shiftExtra]⟩],
    [(0x200000000000, 464)]⟩]

end SyntaxKit.Harneet
