import SyntaxKit.Language.Basic

/-!
# Parse states 612 to 679 of Harneet

Rows of the parse automaton.  Each gives the lexical state in which its next token is read, the
first state with the same core, what to do on each set of tokens (a set is a number whose bit `i`
stands for token `i`), and the state to enter after each set of nonterminals (bit `i` stands for the
`i`-th nonterminal).
-/

namespace SyntaxKit.Harneet

/-- Parse states 612 to 679. -/
def states10 : List StateRow := [
  ⟨0, 612, [
    ⟨34, true, [.shift 338 false]⟩, ⟨128, true, [.shiftExtra]⟩],
    [(16, 340)]⟩,
  ⟨0, 613, [
    ⟨0x800, true, [.shift 164 false]⟩, ⟨0x80000, true, [.shift 127 false]⟩,
    ⟨128, true, [.shiftExtra]⟩],
    [(0x400000000000000000, 618)]⟩,
  ⟨0, 614, [
    ⟨2, true, [.shift 357 false]⟩, ⟨0x800000, true, [.shift 529 false]⟩,
    ⟨128, true, [.shiftExtra]⟩],
    [(0x1000, 619)]⟩,
  ⟨0, 615, [
    ⟨0x800, true, [.shift 623 false]⟩, ⟨0x80000, true, [.shift 134 false]⟩,
    ⟨128, true, [.shiftExtra]⟩],
    [(0x800000000000000000, 624)]⟩,
  ⟨0, 616, [
    ⟨34, true, [.shift 338 false]⟩, ⟨128, true, [.shiftExtra]⟩],
    [(16, 360)]⟩,
  ⟨0, 617, [
    ⟨2, true, [.shift 627 false]⟩, ⟨0x80000, true, [.shift 384 false]⟩,
    ⟨128, true, [.shiftExtra]⟩],
    [(512, 628)]⟩,
  ⟨0, 618, [
    ⟨0x800, true, [.shift 165 false]⟩, ⟨0x80000, true, [.shift 135 false]⟩,
    ⟨128, true, [.shiftExtra]⟩],
    [(0x400000000000000000, 629)]⟩,
  ⟨0, 619, [
    ⟨0x800, true, [.shift 716 false]⟩, ⟨0x800000, true, [.shift 531 false]⟩,
    ⟨128, true, [.shiftExtra]⟩],
    [(0x10000000000000000, 630)]⟩,
  ⟨0, 620, [
    ⟨0x800, true, [.shift 184 false]⟩, ⟨0x800000, true, [.shift 137 false]⟩,
    ⟨128, true, [.shiftExtra]⟩],
    [(0x40000000000000000, 589)]⟩,
  ⟨0, 621, [
    ⟨0x800, true, [.shift 185 false]⟩, ⟨0x4000000000000000, true, [.shift 138 false]⟩,
    ⟨128, true, [.shiftExtra]⟩],
    [(0x40000000000000000, 589)]⟩,
  ⟨0, 622, [
    ⟨0x800, true, [.shift 187 false]⟩, ⟨0x80000, true, [.shift 142 false]⟩,
    ⟨128, true, [.shiftExtra]⟩],
    [(0x40000000000000000, 589)]⟩,
  ⟨0, 623, [
    ⟨2, true, [.shift 764 false]⟩, ⟨0x80000, true, [.shift 142 false]⟩,
    ⟨128, true, [.shiftExtra]⟩],
    [(0x10000000000000, 717)]⟩,
  ⟨0, 624, [
    ⟨0x800, true, [.shift 633 false]⟩, ⟨0x80000, true, [.shift 142 false]⟩,
    ⟨128, true, [.shiftExtra]⟩],
    [(0x800000000000000000, 634)]⟩,
  ⟨0, 625, [
    ⟨2, true, [.shift 442 false]⟩, ⟨0x80000, true, [.shift 389 false]⟩,
    ⟨128, true, [.shiftExtra]⟩],
    [(0x80000000, 594)]⟩,
  ⟨0, 626, [
    ⟨2, true, [.shift 718 false]⟩, ⟨0x80000, true, [.shift 390 false]⟩,
    ⟨128, true, [.shiftExtra]⟩],
    [(0x200000000, 595)]⟩,
  ⟨0, 627, [
    ⟨0x80800, true, [.reduce 107 1 11]⟩, ⟨0x40000, true, [.shift 637 false]⟩,
    ⟨128, true, [.shiftExtra]⟩],
    []⟩,
  ⟨0, 628, [
    ⟨0x800, true, [.shift 638 false]⟩, ⟨0x80000, true, [.shift 391 false]⟩,
    ⟨128, true, [.shiftExtra]⟩],
    [(0x4000000000000000, 639)]⟩,
  ⟨0, 629, [
    ⟨0x800, true, [.reduce 168 2 0, .shift 189 true]⟩, ⟨0x80000, true, [.reduce 168 2 0]⟩,
    ⟨128, true, [.shiftExtra]⟩],
    [(0x400000000000000000, 629)]⟩,
  ⟨0, 630, [
    ⟨0x800, true, [.shift 716 false]⟩, ⟨0x800000, true, [.shift 534 false]⟩,
    ⟨128, true, [.shiftExtra]⟩],
    [(0x10000000000000000, 640)]⟩,
  ⟨0, 631, [
    ⟨0x800, true, [.shift 578 false]⟩, ⟨0x4000000000000000, true, [.shift 597 false]⟩,
    ⟨128, true, [.shiftExtra]⟩],
    [(0x2000000000000000000, 642)]⟩,
  ⟨0, 632, [
    ⟨0x800, true, [.shift 251 false]⟩, ⟨0x800000, true, [.shift 147 false]⟩,
    ⟨128, true, [.shiftExtra]⟩],
    [(0x40000000000000000, 589)]⟩,
  ⟨0, 633, [
    ⟨2, true, [.shift 764 false]⟩, ⟨0x80000, true, [.shift 148 false]⟩,
    ⟨128, true, [.shiftExtra]⟩],
    [(0x10000000000000, 717)]⟩,
  ⟨0, 634, [
    ⟨0x800, true, [.reduce 169 2 0, .shift 720 true]⟩, ⟨0x80000, true, [.reduce 169 2 0]⟩,
    ⟨128, true, [.shiftExtra]⟩],
    [(0x800000000000000000, 634)]⟩,
  ⟨0, 635, [
    ⟨0x800, true, [.shift 443 false]⟩, ⟨0x800000, true, [.shift 25 false]⟩,
    ⟨128, true, [.shiftExtra]⟩],
    [(0x80000000000000000, 643)]⟩,
  ⟨0, 636, [
    ⟨0x800, true, [.shift 397 false]⟩, ⟨0x800000, true, [.shift 191 false]⟩,
    ⟨128, true, [.shiftExtra]⟩],
    [(0x80000000000000000, 644)]⟩,
  ⟨0, 637, [
    ⟨2, true, [.shift 446 false]⟩, ⟨0x80000, true, [.shift 724 false]⟩,
    ⟨128, true, [.shiftExtra]⟩],
    [(0x80000000, 646)]⟩,
  ⟨0, 638, [
    ⟨2, true, [.shift 627 false]⟩, ⟨0x80000, true, [.shift 400 false]⟩,
    ⟨128, true, [.shiftExtra]⟩],
    [(512, 725)]⟩,
  ⟨0, 639, [
    ⟨0x800, true, [.shift 647 false]⟩, ⟨0x80000, true, [.shift 400 false]⟩,
    ⟨128, true, [.shiftExtra]⟩],
    [(0x4000000000000000, 648)]⟩,
  ⟨0, 640, [
    ⟨0x800, true, [.reduce 162 2 0, .shift 716 true]⟩, ⟨0x800000, true, [.reduce 162 2 0]⟩,
    ⟨128, true, [.shiftExtra]⟩],
    [(0x10000000000000000, 640)]⟩,
  ⟨0, 641, [
    ⟨0x180080000, true, [.reduce 118 3 0]⟩, ⟨128, true, [.shiftExtra]⟩],
    []⟩,
  ⟨0, 642, [
    ⟨0x800, true, [.shift 578 false]⟩, ⟨0x4000000000000000, true, [.shift 601 false]⟩,
    ⟨128, true, [.shiftExtra]⟩],
    [(0x2000000000000000000, 650)]⟩,
  ⟨0, 643, [
    ⟨0x800, true, [.shift 443 false]⟩, ⟨0x800000, true, [.shift 26 false]⟩,
    ⟨128, true, [.shiftExtra]⟩],
    [(0x80000000000000000, 644)]⟩,
  ⟨0, 644, [
    ⟨0x800, true, [.reduce 165 2 0, .shift 443 true]⟩, ⟨0x800000, true, [.reduce 165 2 0]⟩,
    ⟨128, true, [.shiftExtra]⟩],
    [(0x80000000000000000, 644)]⟩,
  ⟨64, 645, [
    ⟨0x180000, false, [.reduce 129 2 20]⟩, ⟨0x20000000000000000, true, [.reduce 129 2 20]⟩,
    ⟨128, false, [.shiftExtra]⟩],
    []⟩,
  ⟨0, 646, [
    ⟨0x80000, true, [.shift 727 false]⟩, ⟨0x100000, true, [.shift 728 false]⟩,
    ⟨128, true, [.shiftExtra]⟩],
    [(0x8000000000000000, 654)]⟩,
  ⟨0, 647, [
    ⟨2, true, [.shift 627 false]⟩, ⟨0x80000, true, [.shift 404 false]⟩,
    ⟨128, true, [.shiftExtra]⟩],
    [(512, 725)]⟩,
  ⟨0, 648, [
    ⟨0x800, true, [.reduce 160 2 0, .shift 729 true]⟩, ⟨0x80000, true, [.reduce 160 2 0]⟩,
    ⟨128, true, [.shiftExtra]⟩],
    [(0x4000000000000000, 648)]⟩,
  ⟨0, 649, [
    ⟨0x180080000, true, [.reduce 118 4 0]⟩, ⟨128, true, [.shiftExtra]⟩],
    []⟩,
  ⟨0, 650, [
    ⟨0x800, true, [.reduce 171 2 0, .shift 578 true]⟩,
    ⟨0x4000000000000000, true, [.reduce 171 2 0]⟩, ⟨128, true, [.shiftExtra]⟩],
    [(0x2000000000000000000, 650)]⟩,
  ⟨64, 651, [
    ⟨0x180000, false, [.reduce 166 2 0]⟩, ⟨0x20000000000000000, true, [.reduce 166 2 0]⟩,
    ⟨128, false, [.shiftExtra]⟩],
    []⟩,
  ⟨64, 652, [
    ⟨0x180000, false, [.reduce 131 3 31]⟩, ⟨0x20000000000000000, true, [.reduce 131 3 31]⟩,
    ⟨128, false, [.shiftExtra]⟩],
    []⟩,
  ⟨64, 653, [
    ⟨0x180000, false, [.reduce 167 2 0]⟩, ⟨0x20000000000000000, true, [.reduce 167 2 0]⟩,
    ⟨128, false, [.shiftExtra]⟩],
    []⟩,
  ⟨0, 654, [
    ⟨0x80000, true, [.shift 732 false]⟩, ⟨0x100000, true, [.shift 728 false]⟩,
    ⟨128, true, [.shiftExtra]⟩],
    [(0x8000000000000000, 655)]⟩,
  ⟨0, 655, [
    ⟨0x80000, true, [.reduce 161 2 0]⟩, ⟨0x100000, true, [.reduce 161 2 0, .shift 728 true]⟩,
    ⟨128, true, [.shiftExtra]⟩],
    [(0x8000000000000000, 655)]⟩,
  ⟨0, 612, [
    ⟨34, true, [.shift 345 false]⟩, ⟨128, true, [.shiftExtra]⟩],
    [(16, 347)]⟩,
  ⟨0, 616, [
    ⟨34, true, [.shift 345 false]⟩, ⟨128, true, [.shiftExtra]⟩],
    [(16, 365)]⟩,
  ⟨64, 179, [
    ⟨0x180000, false, [.reduce 123 1 0]⟩, ⟨0x20000000000000000, true, [.reduce 123 1 0]⟩,
    ⟨128, false, [.shiftExtra]⟩],
    []⟩,
  ⟨64, 183, [
    ⟨0x180000, false, [.reduce 127 2 0]⟩, ⟨0x20000000000000000, true, [.reduce 127 2 0]⟩,
    ⟨128, false, [.shiftExtra]⟩],
    []⟩,
  ⟨64, 188, [
    ⟨0x180000, false, [.reduce 124 3 0]⟩, ⟨0x20000000000000000, true, [.reduce 124 3 0]⟩,
    ⟨128, false, [.shiftExtra]⟩],
    []⟩,
  ⟨64, 190, [
    ⟨0x180000, false, [.reduce 126 4 0]⟩, ⟨0x20000000000000000, true, [.reduce 126 4 0]⟩,
    ⟨128, false, [.shiftExtra]⟩],
    []⟩,
  ⟨64, 191, [
    ⟨0x180000, false, [.reduce 127 4 0]⟩, ⟨0x20000000000000000, true, [.reduce 127 4 0]⟩,
    ⟨128, false, [.shiftExtra]⟩],
    []⟩,
  ⟨64, 193, [
    ⟨0x180000, false, [.reduce 126 5 0]⟩, ⟨0x20000000000000000, true, [.reduce 126 5 0]⟩,
    ⟨128, false, [.shiftExtra]⟩],
    []⟩,
  ⟨64, 194, [
    ⟨0x180000, false, [.reduce 127 5 0]⟩, ⟨0x20000000000000000, true, [.reduce 127 5 0]⟩,
    ⟨128, false, [.shiftExtra]⟩],
    []⟩,
  ⟨64, 195, [
    ⟨0x180000, false, [.reduce 125 5 0]⟩, ⟨0x20000000000000000, true, [.reduce 125 5 0]⟩,
    ⟨128, false, [.shiftExtra]⟩],
    []⟩,
  ⟨64, 196, [
    ⟨0x180000, false, [.reduce 126 6 0]⟩, ⟨0x20000000000000000, true, [.reduce 126 6 0]⟩,
    ⟨128, false, [.shiftExtra]⟩],
    []⟩,
  ⟨0, 613, [
    ⟨0x800, true, [.shift 168 false]⟩, ⟨0x80000, true, [.shift 47 false]⟩,
    ⟨128, true, [.shiftExtra]⟩],
    [(0x400000000000000000, 671)]⟩,
  ⟨0, 614, [
    ⟨2, true, [.shift 357 false]⟩, ⟨0x800000, true, [.shift 510 false]⟩,
    ⟨128, true, [.shiftExtra]⟩],
    [(0x1000, 672)]⟩,
  ⟨0, 615, [
    ⟨0x800, true, [.shift 676 false]⟩, ⟨0x80000, true, [.shift 52 false]⟩,
    ⟨128, true, [.shiftExtra]⟩],
    [(0x800000000000000000, 677)]⟩,
  ⟨0, 617, [
    ⟨2, true, [.shift 627 false]⟩, ⟨0x80000, true, [.shift 410 false]⟩,
    ⟨128, true, [.shiftExtra]⟩],
    [(512, 680)]⟩,
  ⟨0, 618, [
    ⟨0x800, true, [.shift 169 false]⟩, ⟨0x80000, true, [.shift 53 false]⟩,
    ⟨128, true, [.shiftExtra]⟩],
    [(0x400000000000000000, 629)]⟩,
  ⟨0, 619, [
    ⟨0x800, true, [.shift 716 false]⟩, ⟨0x800000, true, [.shift 511 false]⟩,
    ⟨128, true, [.shiftExtra]⟩],
    [(0x10000000000000000, 681)]⟩,
  ⟨0, 620, [
    ⟨0x800, true, [.shift 209 false]⟩, ⟨0x800000, true, [.shift 55 false]⟩,
    ⟨128, true, [.shiftExtra]⟩],
    [(0x40000000000000000, 589)]⟩,
  ⟨0, 621, [
    ⟨0x800, true, [.shift 210 false]⟩, ⟨0x4000000000000000, true, [.shift 56 false]⟩,
    ⟨128, true, [.shiftExtra]⟩],
    [(0x40000000000000000, 589)]⟩,
  ⟨0, 622, [
    ⟨0x800, true, [.shift 211 false]⟩, ⟨0x80000, true, [.shift 60 false]⟩,
    ⟨128, true, [.shiftExtra]⟩],
    [(0x40000000000000000, 589)]⟩,
  ⟨0, 623, [
    ⟨2, true, [.shift 764 false]⟩, ⟨0x80000, true, [.shift 60 false]⟩, ⟨128, true, [.shiftExtra]⟩],
    [(0x10000000000000, 717)]⟩,
  ⟨0, 624, [
    ⟨0x800, true, [.shift 683 false]⟩, ⟨0x80000, true, [.shift 60 false]⟩,
    ⟨128, true, [.shiftExtra]⟩],
    [(0x800000000000000000, 634)]⟩,
  ⟨0, 625, [
    ⟨2, true, [.shift 442 false]⟩, ⟨0x80000, true, [.shift 414 false]⟩,
    ⟨128, true, [.shiftExtra]⟩],
    [(0x80000000, 607)]⟩,
  ⟨0, 626, [
    ⟨2, true, [.shift 718 false]⟩, ⟨0x80000, true, [.shift 415 false]⟩,
    ⟨128, true, [.shiftExtra]⟩],
    [(0x200000000, 608)]⟩]

end SyntaxKit.Harneet
