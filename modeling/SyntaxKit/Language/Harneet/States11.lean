import SyntaxKit.Language.Basic

/-!
# Parse states 680 to 747 of Harneet

Rows of the parse automaton.  Each gives the lexical state in which its next token is read, the
first state with the same core, what to do on each set of tokens (a set is a number whose bit `i`
stands for token `i`), and the state to enter after each set of nonterminals (bit `i` stands for the
`i`-th nonterminal).
-/

namespace SyntaxKit.Harneet

/-- Parse states 680 to 747. -/
def states11 : List StateRow := [
  ⟨0, 628, [
    ⟨0x800, true, [.shift 686 false]⟩, ⟨0x80000, true, [.shift 416 false]⟩,
    ⟨128, true, [.shiftExtra]⟩],
    [(0x4000000000000000, 687)]⟩,
  ⟨0, 630, [
    ⟨0x800, true, [.shift 716 false]⟩, ⟨0x800000, true, [.shift 512 false]⟩,
    ⟨128, true, [.shiftExtra]⟩],
    [(0x10000000000000000, 640)]⟩,
  ⟨0, 632, [
    ⟨0x800, true, [.shift 251 false]⟩, ⟨0x800000, true, [.shift 65 false]⟩,
    ⟨128, true, [.shiftExtra]⟩],
    [(0x40000000000000000, 589)]⟩,
  ⟨0, 633, [
    ⟨2, true, [.shift 764 false]⟩, ⟨0x80000, true, [.shift 66 false]⟩, ⟨128, true, [.shiftExtra]⟩],
    [(0x10000000000000, 717)]⟩,
  ⟨0, 635, [
    ⟨0x800, true, [.shift 443 false]⟩, ⟨0x800000, true, [.shift 199 false]⟩,
    ⟨128, true, [.shiftExtra]⟩],
    [(0x80000000000000000, 688)]⟩,
  ⟨0, 636, [
    ⟨0x800, true, [.shift 434 false]⟩, ⟨0x800000, true, [.shift 369 false]⟩,
    ⟨128, true, [.shiftExtra]⟩],
    [(0x80000000000000000, 644)]⟩,
  ⟨0, 638, [
    ⟨2, true, [.shift 627 false]⟩, ⟨0x80000, true, [.shift 424 false]⟩,
    ⟨128, true, [.shiftExtra]⟩],
    [(512, 725)]⟩,
  ⟨0, 639, [
    ⟨0x800, true, [.shift 689 false]⟩, ⟨0x80000, true, [.shift 424 false]⟩,
    ⟨128, true, [.shiftExtra]⟩],
    [(0x4000000000000000, 648)]⟩,
  ⟨0, 643, [
    ⟨0x800, true, [.shift 443 false]⟩, ⟨0x800000, true, [.shift 200 false]⟩,
    ⟨128, true, [.shiftExtra]⟩],
    [(0x80000000000000000, 644)]⟩,
  ⟨0, 647, [
    ⟨2, true, [.shift 627 false]⟩, ⟨0x80000, true, [.shift 428 false]⟩,
    ⟨128, true, [.shiftExtra]⟩],
    [(512, 725)]⟩,
  ⟨0, 613, [
    ⟨0x800, true, [.shift 172 false]⟩, ⟨0x80000, true, [.shift 468 false]⟩,
    ⟨128, true, [.shiftExtra]⟩],
    [(0x400000000000000000, 692)]⟩,
  ⟨0, 615, [
    ⟨0x800, true, [.shift 696 false]⟩, ⟨0x80000, true, [.shift 486 false]⟩,
    ⟨128, true, [.shiftExtra]⟩],
    [(0x800000000000000000, 697)]⟩,
  ⟨0, 618, [
    ⟨0x800, true, [.shift 173 false]⟩, ⟨0x80000, true, [.shift 487 false]⟩,
    ⟨128, true, [.shiftExtra]⟩],
    [(0x400000000000000000, 629)]⟩,
  ⟨0, 620, [
    ⟨0x800, true, [.shift 218 false]⟩, ⟨0x800000, true, [.shift 490 false]⟩,
    ⟨128, true, [.shiftExtra]⟩],
    [(0x40000000000000000, 589)]⟩,
  ⟨0, 621, [
    ⟨0x800, true, [.shift 219 false]⟩, ⟨0x4000000000000000, true, [.shift 491 false]⟩,
    ⟨128, true, [.shiftExtra]⟩],
    [(0x40000000000000000, 589)]⟩,
  ⟨0, 622, [
    ⟨0x800, true, [.shift 220 false]⟩, ⟨0x80000, true, [.shift 496 false]⟩,
    ⟨128, true, [.shiftExtra]⟩],
    [(0x40000000000000000, 589)]⟩,
  ⟨0, 623, [
    ⟨2, true, [.shift 764 false]⟩, ⟨0x80000, true, [.shift 496 false]⟩,
    ⟨128, true, [.shiftExtra]⟩],
    [(0x10000000000000, 717)]⟩,
  ⟨0, 624, [
    ⟨0x800, true, [.shift 699 false]⟩, ⟨0x80000, true, [.shift 496 false]⟩,
    ⟨128, true, [.shiftExtra]⟩],
    [(0x800000000000000000, 634)]⟩,
  ⟨0, 632, [
    ⟨0x800, true, [.shift 251 false]⟩, ⟨0x800000, true, [.shift 501 false]⟩,
    ⟨128, true, [.shiftExtra]⟩],
    [(0x40000000000000000, 589)]⟩,
  ⟨0, 633, [
    ⟨2, true, [.shift 764 false]⟩, ⟨0x80000, true, [.shift 502 false]⟩,
    ⟨128, true, [.shiftExtra]⟩],
    [(0x10000000000000, 717)]⟩,
  ⟨0, 635, [
    ⟨0x800, true, [.shift 443 false]⟩, ⟨0x800000, true, [.shift 31 false]⟩,
    ⟨128, true, [.shiftExtra]⟩],
    [(0x80000000000000000, 702)]⟩,
  ⟨0, 636, [
    ⟨0x800, true, [.shift 438 false]⟩, ⟨0x800000, true, [.shift 662 false]⟩,
    ⟨128, true, [.shiftExtra]⟩],
    [(0x80000000000000000, 644)]⟩,
  ⟨0, 643, [
    ⟨0x800, true, [.shift 443 false]⟩, ⟨0x800000, true, [.shift 32 false]⟩,
    ⟨128, true, [.shiftExtra]⟩],
    [(0x80000000000000000, 644)]⟩,
  ⟨0, 635, [
    ⟨0x800, true, [.shift 443 false]⟩, ⟨0x800000, true, [.shift 352 false]⟩,
    ⟨128, true, [.shiftExtra]⟩],
    [(0x80000000000000000, 704)]⟩,
  ⟨0, 643, [
    ⟨0x800, true, [.shift 443 false]⟩, ⟨0x800000, true, [.shift 353 false]⟩,
    ⟨128, true, [.shiftExtra]⟩],
    [(0x80000000000000000, 644)]⟩,
  ⟨0, 611, [
    ⟨2, true, [.shift 738 false]⟩, ⟨0x400000, true, [.shift 614 false]⟩,
    ⟨128, true, [.shiftExtra]⟩],
    [(0x800, 374)]⟩,
  ⟨0, 589, [
    ⟨0x800, true, [.reduce 164 2 0, .shift 293 true]⟩, ⟨0x40000, true, [.reduce 164 2 0]⟩,
    ⟨128, true, [.shiftExtra]⟩],
    [(0x40000000000000000, 706)]⟩,
  ⟨0, 707, [
    ⟨0x400000, true, [.shift 614 false]⟩, ⟨128, true, [.shiftExtra]⟩],
    [(0x800, 356)]⟩,
  ⟨0, 708, [
    ⟨0x400000, true, [.shift 614 false]⟩, ⟨128, true, [.shiftExtra]⟩],
    [(0x800, 376)]⟩,
  ⟨0, 709, [
    ⟨0x40000, true, [.shift 13 false]⟩, ⟨128, true, [.shiftExtra]⟩],
    [(0x2000, 136)]⟩,
  ⟨0, 710, [
    ⟨0x40000, true, [.shift 13 false]⟩, ⟨128, true, [.shiftExtra]⟩],
    [(0x2000, 761)]⟩,
  ⟨0, 711, [
    ⟨0x4000000, true, [.shift 250 false]⟩,
    ⟨0x1000000000000000000000000, true, [.shift 186 false]⟩, ⟨128, true, [.shiftExtra]⟩],
    []⟩,
  ⟨0, 712, [
    ⟨0x800, true, [.shift 388 false]⟩, ⟨128, true, [.shiftExtra]⟩],
    [(0x80000000000000000, 636)]⟩,
  ⟨0, 713, [
    ⟨0x80800, true, [.reduce 168 2 0]⟩, ⟨128, true, [.shiftExtra]⟩],
    []⟩,
  ⟨0, 714, [
    ⟨0x40000, true, [.shift 13 false]⟩, ⟨128, true, [.shiftExtra]⟩],
    [(0x2000, 392)]⟩,
  ⟨0, 715, [
    ⟨0x800800, true, [.reduce 110 2 20]⟩, ⟨128, true, [.shiftExtra]⟩],
    []⟩,
  ⟨0, 716, [
    ⟨2, true, [.shift 357 false]⟩, ⟨128, true, [.shiftExtra]⟩],
    [(0x1000, 719)]⟩,
  ⟨0, 717, [
    ⟨0x80800, true, [.reduce 169 2 0]⟩, ⟨128, true, [.shiftExtra]⟩],
    []⟩,
  ⟨0, 718, [
    ⟨0x400000, true, [.shift 668 false]⟩, ⟨128, true, [.shiftExtra]⟩],
    [(0x800, 344)]⟩,
  ⟨0, 719, [
    ⟨0x800800, true, [.reduce 162 2 0]⟩, ⟨128, true, [.shiftExtra]⟩],
    []⟩,
  ⟨0, 720, [
    ⟨2, true, [.shift 764 false]⟩, ⟨128, true, [.shiftExtra]⟩],
    [(0x10000000000000, 717)]⟩,
  ⟨0, 721, [
    ⟨0x800800, true, [.reduce 165 2 0]⟩, ⟨128, true, [.shiftExtra]⟩],
    []⟩,
  ⟨0, 722, [
    ⟨2, true, [.shift 442 false]⟩, ⟨128, true, [.shiftExtra]⟩],
    [(0x80000000, 651)]⟩,
  ⟨0, 723, [
    ⟨2, true, [.shift 718 false]⟩, ⟨128, true, [.shiftExtra]⟩],
    [(0x200000000, 653)]⟩,
  ⟨0, 724, [
    ⟨0x80800, true, [.reduce 107 3 11]⟩, ⟨128, true, [.shiftExtra]⟩],
    []⟩,
  ⟨0, 725, [
    ⟨0x80800, true, [.reduce 160 2 0]⟩, ⟨128, true, [.shiftExtra]⟩],
    []⟩,
  ⟨0, 726, [
    ⟨0x4000000000000800, true, [.reduce 171 2 0]⟩, ⟨128, true, [.shiftExtra]⟩],
    []⟩,
  ⟨0, 727, [
    ⟨0x80800, true, [.reduce 107 4 11]⟩, ⟨128, true, [.shiftExtra]⟩],
    []⟩,
  ⟨0, 728, [
    ⟨2, true, [.shift 446 false]⟩, ⟨128, true, [.shiftExtra]⟩],
    [(0x80000000, 731)]⟩,
  ⟨0, 729, [
    ⟨2, true, [.shift 627 false]⟩, ⟨128, true, [.shiftExtra]⟩],
    [(512, 725)]⟩,
  ⟨0, 730, [
    ⟨6, false, [.shift 604 false]⟩, ⟨128, true, [.shiftExtra]⟩],
    []⟩,
  ⟨0, 731, [
    ⟨0x180000, true, [.reduce 161 2 0]⟩, ⟨128, true, [.shiftExtra]⟩],
    []⟩,
  ⟨0, 732, [
    ⟨0x80800, true, [.reduce 107 5 11]⟩, ⟨128, true, [.shiftExtra]⟩],
    []⟩,
  ⟨0, 645, [
    ⟨0x180000, true, [.reduce 129 2 20]⟩, ⟨128, true, [.shiftExtra]⟩],
    []⟩,
  ⟨0, 708, [
    ⟨0x400000, true, [.shift 614 false]⟩, ⟨128, true, [.shiftExtra]⟩],
    [(0x800, 354)]⟩,
  ⟨0, 709, [
    ⟨0x40000, true, [.shift 16 false]⟩, ⟨128, true, [.shiftExtra]⟩],
    [(0x2000, 54)]⟩,
  ⟨0, 714, [
    ⟨0x40000, true, [.shift 16 false]⟩, ⟨128, true, [.shiftExtra]⟩],
    [(0x2000, 417)]⟩,
  ⟨0, 709, [
    ⟨0x40000, true, [.shift 18 false]⟩, ⟨128, true, [.shiftExtra]⟩],
    [(0x2000, 489)]⟩,
  ⟨0, 707, [
    ⟨0x400000, true, [.shift 614 false]⟩, ⟨128, true, [.shiftExtra]⟩],
    [(0x800, 375)]⟩,
  ⟨0, 708, [
    ⟨0x400000, true, [.shift 614 false]⟩, ⟨128, true, [.shiftExtra]⟩],
    [(0x800, 374)]⟩,
  ⟨0, 712, [
    ⟨0x800, true, [.shift 433 false]⟩, ⟨128, true, [.shiftExtra]⟩],
    [(0x80000000000000000, 685)]⟩,
  ⟨0, 712, [
    ⟨0x800, true, [.shift 437 false]⟩, ⟨128, true, [.shiftExtra]⟩],
    [(0x80000000000000000, 701)]⟩,
  ⟨0, 742, [
    ⟨2, true, [.shift 377 false]⟩, ⟨128, true, [.shiftExtra]⟩],
    []⟩,
  ⟨0, 743, [
    ⟨2, true, [.shift 23 false]⟩, ⟨128, true, [.shiftExtra]⟩],
    []⟩,
  ⟨0, 744, [
    ⟨2, true, [.shift 378 false]⟩, ⟨128, true, [.shiftExtra]⟩],
    []⟩,
  ⟨0, 745, [
    ⟨2, true, [.shift 335 false]⟩, ⟨128, true, [.shiftExtra]⟩],
    []⟩,
  ⟨0, 746, [
    ⟨2, true, [.shift 748 false]⟩, ⟨128, true, [.shiftExtra]⟩],
    []⟩,
  ⟨0, 747, [
    ⟨1, true, [.accept]⟩, ⟨128, true, [.shiftExtra]⟩],
    []⟩]

end SyntaxKit.Harneet
