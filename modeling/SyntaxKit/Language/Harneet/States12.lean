import SyntaxKit.Language.Basic

/-!
# Parse states 748 to 797 of Harneet

Rows of the parse automaton.  Each gives the lexical state in which its next token is read, the
first state with the same core, what to do on each set of tokens (a set is a number whose bit `i`
stands for token `i`), and the state to enter after each set of nonterminals (bit `i` stands for the
`i`-th nonterminal).
-/

namespace SyntaxKit.Harneet

/-- Parse states 748 to 797. -/
def states12 : List StateRow := [
  ⟨0, 748, [
    ⟨0x40000, true, [.shift 617 false]⟩, ⟨128, true, [.shiftExtra]⟩],
    []⟩,
  ⟨0, 749, [
    ⟨2, true, [.shift 35 false]⟩, ⟨128, true, [.shiftExtra]⟩],
    []⟩,
  ⟨0, 750, [
    ⟨2, true, [.shift 359 false]⟩, ⟨128, true, [.shiftExtra]⟩],
    []⟩,
  ⟨0, 751, [
    ⟨0x400000, true, [.shift 383 false]⟩, ⟨128, true, [.shiftExtra]⟩],
    []⟩,
  ⟨0, 752, [
    ⟨0x4000000000000000, true, [.shift 440 false]⟩, ⟨128, true, [.shiftExtra]⟩],
    []⟩,
  ⟨0, 753, [
    ⟨0x2000000000000000, true, [.shift 441 false]⟩, ⟨128, true, [.shiftExtra]⟩],
    []⟩,
  ⟨0, 754, [
    ⟨0x4000, true, [.shift 248 false]⟩, ⟨128, true, [.shiftExtra]⟩],
    []⟩,
  ⟨0, 755, [
    ⟨0x40000, true, [.shift 625 false]⟩, ⟨128, true, [.shiftExtra]⟩],
    []⟩,
  ⟨0, 756, [
    ⟨0x40000, true, [.shift 626 false]⟩, ⟨128, true, [.shiftExtra]⟩],
    []⟩,
  ⟨0, 757, [
    ⟨2, true, [.shift 760 false]⟩, ⟨128, true, [.shiftExtra]⟩],
    []⟩,
  ⟨0, 758, [
    ⟨0x80000, true, [.shift 386 false]⟩, ⟨128, true, [.shiftExtra]⟩],
    []⟩,
  ⟨0, 759, [
    ⟨0x400000, true, [.shift 249 false]⟩, ⟨128, true, [.shiftExtra]⟩],
    []⟩,
  ⟨0, 760, [
    ⟨0x20000000, true, [.shift 252 false]⟩, ⟨128, true, [.shiftExtra]⟩],
    []⟩,
  ⟨0, 761, [
    ⟨0x80000, true, [.reduce 119 2 0]⟩, ⟨128, true, [.shiftExtra]⟩],
    []⟩,
  ⟨0, 762, [
    ⟨0x80000, true, [.shift 395 false]⟩, ⟨128, true, [.shiftExtra]⟩],
    []⟩,
  ⟨0, 763, [
    ⟨0x80000, true, [.shift 396 false]⟩, ⟨128, true, [.shiftExtra]⟩],
    []⟩,
  ⟨0, 764, [
    ⟨0x400000000000000000000000, true, [.shift 246 false]⟩, ⟨128, true, [.shiftExtra]⟩],
    []⟩,
  ⟨0, 765, [
    ⟨0x4000000000000000, true, [.shift 444 false]⟩, ⟨128, true, [.shiftExtra]⟩],
    []⟩,
  ⟨0, 766, [
    ⟨0x80000, true, [.shift 401 false]⟩, ⟨128, true, [.shiftExtra]⟩],
    []⟩,
  ⟨0, 767, [
    ⟨0x1000, true, [.shift 730 false]⟩, ⟨128, true, [.shiftExtra]⟩],
    []⟩,
  ⟨0, 742, [
    ⟨2, true, [.shift 406 false]⟩, ⟨128, true, [.shiftExtra]⟩],
    []⟩,
  ⟨0, 743, [
    ⟨2, true, [.shift 29 false]⟩, ⟨128, true, [.shiftExtra]⟩],
    []⟩,
  ⟨0, 749, [
    ⟨2, true, [.shift 19 false]⟩, ⟨128, true, [.shiftExtra]⟩],
    []⟩,
  ⟨0, 750, [
    ⟨2, true, [.shift 364 false]⟩, ⟨128, true, [.shiftExtra]⟩],
    []⟩,
  ⟨0, 752, [
    ⟨0x4000000000000000, true, [.shift 445 false]⟩, ⟨128, true, [.shiftExtra]⟩],
    []⟩,
  ⟨0, 754, [
    ⟨0x4000, true, [.shift 270 false]⟩, ⟨128, true, [.shiftExtra]⟩],
    []⟩,
  ⟨0, 758, [
    ⟨0x80000, true, [.shift 412 false]⟩, ⟨128, true, [.shiftExtra]⟩],
    []⟩,
  ⟨0, 762, [
    ⟨0x80000, true, [.shift 420 false]⟩, ⟨128, true, [.shiftExtra]⟩],
    []⟩,
  ⟨0, 763, [
    ⟨0x80000, true, [.shift 421 false]⟩, ⟨128, true, [.shiftExtra]⟩],
    []⟩,
  ⟨0, 765, [
    ⟨0x4000000000000000, true, [.shift 447 false]⟩, ⟨128, true, [.shiftExtra]⟩],
    []⟩,
  ⟨0, 766, [
    ⟨0x80000, true, [.shift 425 false]⟩, ⟨128, true, [.shiftExtra]⟩],
    []⟩,
  ⟨0, 749, [
    ⟨2, true, [.shift 485 false]⟩, ⟨128, true, [.shiftExtra]⟩],
    []⟩,
  ⟨0, 752, [
    ⟨0x4000000000000000, true, [.shift 450 false]⟩, ⟨128, true, [.shiftExtra]⟩],
    []⟩,
  ⟨0, 765, [
    ⟨0x4000000000000000, true, [.shift 451 false]⟩, ⟨128, true, [.shiftExtra]⟩],
    []⟩,
  ⟨0, 744, [
    ⟨2, true, [.shift 430 false]⟩, ⟨128, true, [.shiftExtra]⟩],
    []⟩,
  ⟨0, 745, [
    ⟨2, true, [.shift 337 false]⟩, ⟨128, true, [.shiftExtra]⟩],
    []⟩,
  ⟨0, 748, [
    ⟨0x40000, true, [.shift 670 false]⟩, ⟨128, true, [.shiftExtra]⟩],
    []⟩,
  ⟨0, 751, [
    ⟨0x400000, true, [.shift 432 false]⟩, ⟨128, true, [.shiftExtra]⟩],
    []⟩,
  ⟨0, 755, [
    ⟨0x40000, true, [.shift 678 false]⟩, ⟨128, true, [.shiftExtra]⟩],
    []⟩,
  ⟨0, 756, [
    ⟨0x40000, true, [.shift 679 false]⟩, ⟨128, true, [.shiftExtra]⟩],
    []⟩,
  ⟨0, 751, [
    ⟨0x400000, true, [.shift 436 false]⟩, ⟨128, true, [.shiftExtra]⟩],
    []⟩,
  ⟨0, 751, [
    ⟨0x400000, true, [.shift 439 false]⟩, ⟨128, true, [.shiftExtra]⟩],
    []⟩,
  ⟨0, 746, [
    ⟨2, true, [.shift 784 false]⟩, ⟨128, true, [.shiftExtra]⟩],
    []⟩,
  ⟨0, 752, [
    ⟨0x4000000000000000, true, [.shift 452 false]⟩, ⟨128, true, [.shiftExtra]⟩],
    []⟩,
  ⟨0, 753, [
    ⟨0x2000000000000000, true, [.shift 453 false]⟩, ⟨128, true, [.shiftExtra]⟩],
    []⟩,
  ⟨0, 760, [
    ⟨0x20000000, true, [.shift 288 false]⟩, ⟨128, true, [.shiftExtra]⟩],
    []⟩,
  ⟨0, 765, [
    ⟨0x4000000000000000, true, [.shift 454 false]⟩, ⟨128, true, [.shiftExtra]⟩],
    []⟩,
  ⟨0, 753, [
    ⟨0x2000000000000000, true, [.shift 455 false]⟩, ⟨128, true, [.shiftExtra]⟩],
    []⟩,
  ⟨0, 757, [
    ⟨2, true, [.shift 793 false]⟩, ⟨128, true, [.shiftExtra]⟩],
    []⟩,
  ⟨0, 753, [
    ⟨0x2000000000000000, true, [.shift 456 false]⟩, ⟨128, true, [.shiftExtra]⟩],
    []⟩]

end SyntaxKit.Harneet
