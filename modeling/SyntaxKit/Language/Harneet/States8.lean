import SyntaxKit.Language.Basic

/-!
# Parse states 476 to 543 of Harneet

Rows of the parse automaton.  Each gives the lexical state in which its next token is read, the
first state with the same core, what to do on each set of tokens (a set is a number whose bit `i`
stands for token `i`), and the state to enter after each set of nonterminals (bit `i` stands for the
`i`-th nonterminal).
-/

namespace SyntaxKit.Harneet

/-- Parse states 476 to 543. -/
def states8 : List StateRow := [
  ⟨67, 78, [
    ⟨0x141f679104000000000880800, true, [.reduce 141 3 0]⟩, ⟨0x400000, true, [.shift 214 false]⟩,
    ⟨0x2000000000000000, true, [.shift 290 false]⟩,
    ⟨0x980000000000000000000, false, [.reduce 141 3 0]⟩,
    ⟨0x60000000000000000000000, false, [.shift 281 false]⟩,
    ⟨0x80000000000000000000000, true, [.shift 281 false]⟩,
    ⟨0x100000000000000000000000, true, [.shift 282 false]⟩,
    ⟨0x200000000000000000000000, true, [.shift 779 false]⟩, ⟨128, true, [.shiftExtra]⟩],
    [(0x200000000000, 464)]⟩,
  ⟨67, 79, [
    ⟨0x1400008104000000000880800, true, [.reduce 141 3 0]⟩, ⟨0x400000, true, [.shift 214 false]⟩,
    ⟨0x2000000000000000, true, [.shift 290 false]⟩,
    ⟨0x10001000000000000000000, true, [.shift 274 false]⟩,
    ⟨0x10000000000000000000, true, [.shift 276 false]⟩,
    ⟨0x660000000000000000000, true, [.shift 277 false]⟩,
    ⟨0x180000000000000000000, false, [.shift 277 false]⟩,
    ⟨0x800000000000000000000, false, [.shift 278 false]⟩,
    ⟨0x1000000000000000000000, true, [.shift 278 false]⟩,
    ⟨0x2000000000000000000000, true, [.shift 279 false]⟩,
    ⟨0xc000000000000000000000, true, [.shift 280 false]⟩,
    ⟨0x60000000000000000000000, false, [.shift 281 false]⟩,
    ⟨0x80000000000000000000000, true, [.shift 281 false]⟩,
    ⟨0x100000000000000000000000, true, [.shift 282 false]⟩,
    ⟨0x200000000000000000000000, true, [.shift 779 false]⟩, ⟨128, true, [.shiftExtra]⟩],
    [(0x200000000000, 464)]⟩,
  ⟨67, 80, [
    ⟨0x1400018104000000000880800, true, [.reduce 141 3 0]⟩, ⟨0x400000, true, [.shift 214 false]⟩,
    ⟨0x2000000000000000, true, [.shift 290 false]⟩,
    ⟨0x10001000000000000000000, true, [.shift 274 false]⟩,
    ⟨0x660000000000000000000, true, [.shift 277 false]⟩,
    ⟨0x180000000000000000000, false, [.shift 277 false]⟩,
    ⟨0x800000000000000000000, false, [.shift 278 false]⟩,
    ⟨0x1000000000000000000000, true, [.shift 278 false]⟩,
    ⟨0x2000000000000000000000, true, [.shift 279 false]⟩,
    ⟨0xc000000000000000000000, true, [.shift 280 false]⟩,
    ⟨0x60000000000000000000000, false, [.shift 281 false]⟩,
    ⟨0x80000000000000000000000, true, [.shift 281 false]⟩,
    ⟨0x100000000000000000000000, true, [.shift 282 false]⟩,
    ⟨0x200000000000000000000000, true, [.shift 779 false]⟩, ⟨128, true, [.shiftExtra]⟩],
    [(0x200000000000, 464)]⟩,
  ⟨67, 81, [
    ⟨0x1400678104000000000880800, true, [.reduce 141 3 0]⟩, ⟨0x400000, true, [.shift 214 false]⟩,
    ⟨0x2000000000000000, true, [.shift 290 false]⟩,
    ⟨0x10001000000000000000000, true, [.shift 274 false]⟩,
    ⟨0x180000000000000000000, false, [.reduce 141 3 0]⟩,
    ⟨0x800000000000000000000, false, [.shift 278 false]⟩,
    ⟨0x1000000000000000000000, true, [.shift 278 false]⟩,
    ⟨0x2000000000000000000000, true, [.shift 279 false]⟩,
    ⟨0xc000000000000000000000, true, [.shift 280 false]⟩,
    ⟨0x60000000000000000000000, false, [.shift 281 false]⟩,
    ⟨0x80000000000000000000000, true, [.shift 281 false]⟩,
    ⟨0x100000000000000000000000, true, [.shift 282 false]⟩,
    ⟨0x200000000000000000000000, true, [.shift 779 false]⟩, ⟨128, true, [.shiftExtra]⟩],
    [(0x200000000000, 464)]⟩,
  ⟨67, 82, [
    ⟨0x1401678104000000000880800, true, [.reduce 141 3 0]⟩, ⟨0x400000, true, [.shift 214 false]⟩,
    ⟨0x2000000000000000, true, [.shift 290 false]⟩,
    ⟨0x10001000000000000000000, true, [.shift 274 false]⟩,
    ⟨0x980000000000000000000, false, [.reduce 141 3 0]⟩,
    ⟨0x2000000000000000000000, true, [.shift 279 false]⟩,
    ⟨0xc000000000000000000000, true, [.shift 280 false]⟩,
    ⟨0x60000000000000000000000, false, [.shift 281 false]⟩,
    ⟨0x80000000000000000000000, true, [.shift 281 false]⟩,
    ⟨0x100000000000000000000000, true, [.shift 282 false]⟩,
    ⟨0x200000000000000000000000, true, [.shift 779 false]⟩, ⟨128, true, [.shiftExtra]⟩],
    [(0x200000000000, 464)]⟩,
  ⟨67, 83, [
    ⟨0x1403678104000000000880800, true, [.reduce 141 3 0]⟩, ⟨0x400000, true, [.shift 214 false]⟩,
    ⟨0x2000000000000000, true, [.shift 290 false]⟩,
    ⟨0x10001000000000000000000, true, [.shift 274 false]⟩,
    ⟨0x980000000000000000000, false, [.reduce 141 3 0]⟩,
    ⟨0xc000000000000000000000, true, [.shift 280 false]⟩,
    ⟨0x60000000000000000000000, false, [.shift 281 false]⟩,
    ⟨0x80000000000000000000000, true, [.shift 281 false]⟩,
    ⟨0x100000000000000000000000, true, [.shift 282 false]⟩,
    ⟨0x200000000000000000000000, true, [.shift 779 false]⟩, ⟨128, true, [.shiftExtra]⟩],
    [(0x200000000000, 464)]⟩,
  ⟨67, 84, [
    ⟨0x140f678104000000000880800, true, [.reduce 141 3 0]⟩, ⟨0x400000, true, [.shift 214 false]⟩,
    ⟨0x2000000000000000, true, [.shift 290 false]⟩,
    ⟨0x10001000000000000000000, true, [.shift 274 false]⟩,
    ⟨0x980000000000000000000, false, [.reduce 141 3 0]⟩,
    ⟨0x60000000000000000000000, false, [.shift 281 false]⟩,
    ⟨0x80000000000000000000000, true, [.shift 281 false]⟩,
    ⟨0x100000000000000000000000, true, [.shift 282 false]⟩,
    ⟨0x200000000000000000000000, true, [.shift 779 false]⟩, ⟨128, true, [.shiftExtra]⟩],
    [(0x200000000000, 464)]⟩,
  ⟨67, 85, [
    ⟨0x149f679104000000000880800, true, [.reduce 141 3 0]⟩, ⟨0x400000, true, [.shift 214 false]⟩,
    ⟨0x2000000000000000, true, [.shift 290 false]⟩,
    ⟨0x60980000000000000000000, false, [.reduce 141 3 0]⟩,
    ⟨0x100000000000000000000000, true, [.shift 282 false]⟩,
    ⟨0x200000000000000000000000, true, [.shift 779 false]⟩, ⟨128, true, [.shiftExtra]⟩],
    [(0x200000000000, 464)]⟩,
  ⟨67, 86, [
    ⟨0x149f679104000000000880800, true, [.reduce 141 3 0]⟩, ⟨0x400000, true, [.shift 214 false]⟩,
    ⟨0x2000000000000000, true, [.shift 290 false]⟩,
    ⟨0x60980000000000000000000, false, [.reduce 141 3 0]⟩,
    ⟨0x100000000000000000000000, true, [.shift 282 false]⟩,
    ⟨0x200000000000000000000000, true, [.shift 779 false]⟩, ⟨128, true, [.shiftExtra]⟩],
    [(0x200000000000, 464)]⟩,
  ⟨67, 19, [
    ⟨0x179f679106000000000cc0800, true, [.reduce 144 3 15]⟩,
    ⟨0x60980000000000000000000, false, [.reduce 144 3 15]⟩, ⟨128, true, [.shiftExtra]⟩],
    []⟩,
  ⟨67, 52, [
    ⟨0x179f679106000000000cc0800, true, [.reduce 149 4 8]⟩,
    ⟨0x60980000000000000000000, false, [.reduce 149 4 8]⟩, ⟨128, true, [.shiftExtra]⟩],
    []⟩,
  ⟨67, 53, [
    ⟨0x179f679106000000000cc0800, true, [.reduce 147 4 0]⟩,
    ⟨0x60980000000000000000000, false, [.reduce 147 4 0]⟩, ⟨128, true, [.shiftExtra]⟩],
    []⟩,
  ⟨67, 38, [
    ⟨0x179f679106000000000cc0800, true, [.reduce 111 2 0]⟩,
    ⟨0x60980000000000000000000, false, [.reduce 111 2 0]⟩, ⟨128, true, [.shiftExtra]⟩],
    []⟩,
  ⟨67, 54, [
    ⟨0x179f679106000000000cc0800, true, [.reduce 157 4 21]⟩,
    ⟨0x60980000000000000000000, false, [.reduce 157 4 21]⟩, ⟨128, true, [.shiftExtra]⟩],
    []⟩,
  ⟨67, 55, [
    ⟨0x179f679106000000000cc0800, true, [.reduce 139 4 0]⟩,
    ⟨0x60980000000000000000000, false, [.reduce 139 4 0]⟩, ⟨128, true, [.shiftExtra]⟩],
    []⟩,
  ⟨67, 56, [
    ⟨0x179f679106000000000cc0800, true, [.reduce 146 4 0]⟩,
    ⟨0x60980000000000000000000, false, [.reduce 146 4 0]⟩, ⟨128, true, [.shiftExtra]⟩],
    []⟩,
  ⟨67, 57, [
    ⟨0x179f679106000000000cc0800, true, [.reduce 151 4 0]⟩,
    ⟨0x60980000000000000000000, false, [.reduce 151 4 0]⟩, ⟨128, true, [.shiftExtra]⟩],
    []⟩,
  ⟨67, 58, [
    ⟨0x179f679106000000000cc0800, true, [.reduce 151 4 22]⟩,
    ⟨0x60980000000000000000000, false, [.reduce 151 4 22]⟩, ⟨128, true, [.shiftExtra]⟩],
    []⟩,
  ⟨67, 59, [
    ⟨0x179f679106000000000cc0800, true, [.reduce 143 3 0]⟩,
    ⟨0x60980000000000000000000, false, [.reduce 143 3 0]⟩, ⟨128, true, [.shiftExtra]⟩],
    []⟩,
  ⟨67, 20, [
    ⟨0x179f679106000000000cc0800, true, [.reduce 145 4 23]⟩,
    ⟨0x60980000000000000000000, false, [.reduce 145 4 23]⟩, ⟨128, true, [.shiftExtra]⟩],
    []⟩,
  ⟨67, 60, [
    ⟨0x179f679106000000000cc0800, true, [.reduce 149 5 8]⟩,
    ⟨0x60980000000000000000000, false, [.reduce 149 5 8]⟩, ⟨128, true, [.shiftExtra]⟩],
    []⟩,
  ⟨67, 61, [
    ⟨0x179f679106000000000cc0800, true, [.reduce 147 5 0]⟩,
    ⟨0x60980000000000000000000, false, [.reduce 147 5 0]⟩, ⟨128, true, [.shiftExtra]⟩],
    []⟩,
  ⟨67, 62, [
    ⟨0x179f679106000000000cc0800, true, [.reduce 139 5 0]⟩,
    ⟨0x60980000000000000000000, false, [.reduce 139 5 0]⟩, ⟨128, true, [.shiftExtra]⟩],
    []⟩,
  ⟨67, 63, [
    ⟨0x179f679106000000000cc0800, true, [.reduce 146 5 0]⟩,
    ⟨0x60980000000000000000000, false, [.reduce 146 5 0]⟩, ⟨128, true, [.shiftExtra]⟩],
    []⟩,
  ⟨67, 64, [
    ⟨0x179f679106000000000cc0800, true, [.reduce 151 5 22]⟩,
    ⟨0x60980000000000000000000, false, [.reduce 151 5 22]⟩, ⟨128, true, [.shiftExtra]⟩],
    []⟩,
  ⟨67, 65, [
    ⟨0x179f679106000000000cc0800, true, [.reduce 143 4 0]⟩,
    ⟨0x60980000000000000000000, false, [.reduce 143 4 0]⟩, ⟨128, true, [.shiftExtra]⟩],
    []⟩,
  ⟨67, 66, [
    ⟨0x179f679106000000000cc0800, true, [.reduce 149 6 8]⟩,
    ⟨0x60980000000000000000000, false, [.reduce 149 6 8]⟩, ⟨128, true, [.shiftExtra]⟩],
    []⟩,
  ⟨67, 68, [
    ⟨0x179f679106000000000cc0800, true, [.reduce 111 2 0]⟩,
    ⟨0x60980000000000000000000, false, [.reduce 111 2 0]⟩, ⟨128, true, [.shiftExtra]⟩],
    []⟩,
  ⟨67, 504, [
    ⟨0x79f679102000000000400000, true, [.reduce 135 1 0]⟩,
    ⟨0x60980000000000000000000, false, [.reduce 135 1 0]⟩, ⟨0x4000000, true, [.reduce 153 1 0]⟩,
    ⟨0x1000000000000000000000000, true, [.shift 201 false]⟩, ⟨0x40000, true, [.shift 170 false]⟩,
    ⟨128, true, [.shiftExtra]⟩, ⟨0x4000000000000800, true, [.reduce 135 1 0, .reduce 153 1 0]⟩],
    []⟩,
  ⟨67, 505, [
    ⟨0x39f679102000000000480800, true, [.reduce 135 1 0]⟩,
    ⟨0x60980000000000000000000, false, [.reduce 135 1 0]⟩, ⟨0x40000, true, [.shift 170 false]⟩,
    ⟨0x400000000000000000000000, true, [.shift 246 false]⟩,
    ⟨0x1000000000000000000000000, true, [.shift 201 false]⟩, ⟨128, true, [.shiftExtra]⟩],
    []⟩,
  ⟨67, 506, [
    ⟨0x79f679102000000000400000, true, [.reduce 135 1 0]⟩,
    ⟨0x60980000000000000000000, false, [.reduce 135 1 0]⟩,
    ⟨0x1000000000000000004000000, true, [.reduce 153 1 0]⟩, ⟨128, true, [.shiftExtra]⟩,
    ⟨0x4000000000000800, true, [.reduce 135 1 0, .reduce 153 1 0]⟩],
    []⟩,
  ⟨67, 507, [
    ⟨0x4000000000880800, true, [.reduce 164 2 0]⟩, ⟨0x400000, true, [.shift 214 false]⟩,
    ⟨0x2000000000000000, true, [.shift 290 false]⟩,
    ⟨0x100000000000000000, true, [.shift 273 false]⟩,
    ⟨0x10001000000000000000000, true, [.shift 274 false]⟩,
    ⟨0x8000000000000000000, true, [.shift 275 false]⟩,
    ⟨0x10000000000000000000, true, [.shift 276 false]⟩,
    ⟨0x660000000000000000000, true, [.shift 277 false]⟩,
    ⟨0x180000000000000000000, false, [.shift 277 false]⟩,
    ⟨0x800000000000000000000, false, [.shift 278 false]⟩,
    ⟨0x1000000000000000000000, true, [.shift 278 false]⟩,
    ⟨0x2000000000000000000000, true, [.shift 279 false]⟩,
    ⟨0xc000000000000000000000, true, [.shift 280 false]⟩,
    ⟨0x60000000000000000000000, false, [.shift 281 false]⟩,
    ⟨0x80000000000000000000000, true, [.shift 281 false]⟩,
    ⟨0x100000000000000000000000, true, [.shift 282 false]⟩,
    ⟨0x200000000000000000000000, true, [.shift 779 false]⟩, ⟨128, true, [.shiftExtra]⟩],
    [(0x200000000000, 464)]⟩,
  ⟨67, 508, [
    ⟨0x800, true, [.shift 293 false]⟩, ⟨0x40000, true, [.shift 16 false]⟩,
    ⟨0x400000, true, [.shift 214 false]⟩, ⟨0x2000000000000000, true, [.shift 290 false]⟩,
    ⟨0x100000000000000000, true, [.shift 309 false]⟩,
    ⟨0x10001000000000000000000, true, [.shift 310 false]⟩,
    ⟨0x8000000000000000000, true, [.shift 311 false]⟩,
    ⟨0x10000000000000000000, true, [.shift 312 false]⟩,
    ⟨0x660000000000000000000, true, [.shift 313 false]⟩,
    ⟨0x180000000000000000000, false, [.shift 313 false]⟩,
    ⟨0x800000000000000000000, false, [.shift 314 false]⟩,
    ⟨0x1000000000000000000000, true, [.shift 314 false]⟩,
    ⟨0x2000000000000000000000, true, [.shift 315 false]⟩,
    ⟨0xc000000000000000000000, true, [.shift 316 false]⟩,
    ⟨0x60000000000000000000000, false, [.shift 317 false]⟩,
    ⟨0x80000000000000000000000, true, [.shift 317 false]⟩,
    ⟨0x100000000000000000000000, true, [.shift 318 false]⟩,
    ⟨0x200000000000000000000000, true, [.shift 779 false]⟩, ⟨128, true, [.shiftExtra]⟩],
    [(0x2000, 641), (0x200000000000, 464), (0x40000000000000000, 596)]⟩,
  ⟨67, 509, [
    ⟨0x79f679102000000000400000, true, [.reduce 146 2 0]⟩,
    ⟨0x60980000000000000000000, false, [.reduce 146 2 0]⟩,
    ⟨0x1000000000000000004000000, true, [.reduce 155 2 0]⟩, ⟨128, true, [.shiftExtra]⟩,
    ⟨0x4000000000000800, true, [.reduce 146 2 0, .reduce 155 2 0]⟩],
    []⟩,
  ⟨64, 510, [
    ⟨0xbffffe0000780002, false, [.reduce 109 2 0]⟩,
    ⟨0x20000000000000000, true, [.reduce 109 2 0]⟩, ⟨128, false, [.shiftExtra]⟩],
    []⟩,
  ⟨64, 511, [
    ⟨0xbffffe0000780002, false, [.reduce 109 3 0]⟩,
    ⟨0x20000000000000000, true, [.reduce 109 3 0]⟩, ⟨128, false, [.shiftExtra]⟩],
    []⟩,
  ⟨64, 512, [
    ⟨0xbffffe0000780002, false, [.reduce 109 4 0]⟩,
    ⟨0x20000000000000000, true, [.reduce 109 4 0]⟩, ⟨128, false, [.shiftExtra]⟩],
    []⟩,
  ⟨67, 513, [
    ⟨0x800, true, [.shift 180 false]⟩, ⟨0x400000, true, [.shift 214 false]⟩,
    ⟨0x800000, true, [.shift 129 false]⟩, ⟨0x2000000000000000, true, [.shift 290 false]⟩,
    ⟨0x100000000000000000, true, [.shift 273 false]⟩,
    ⟨0x10001000000000000000000, true, [.shift 274 false]⟩,
    ⟨0x8000000000000000000, true, [.shift 275 false]⟩,
    ⟨0x10000000000000000000, true, [.shift 276 false]⟩,
    ⟨0x660000000000000000000, true, [.shift 277 false]⟩,
    ⟨0x180000000000000000000, false, [.shift 277 false]⟩,
    ⟨0x800000000000000000000, false, [.shift 278 false]⟩,
    ⟨0x1000000000000000000000, true, [.shift 278 false]⟩,
    ⟨0x2000000000000000000000, true, [.shift 279 false]⟩,
    ⟨0xc000000000000000000000, true, [.shift 280 false]⟩,
    ⟨0x60000000000000000000000, false, [.shift 281 false]⟩,
    ⟨0x80000000000000000000000, true, [.shift 281 false]⟩,
    ⟨0x100000000000000000000000, true, [.shift 282 false]⟩,
    ⟨0x200000000000000000000000, true, [.shift 779 false]⟩, ⟨128, true, [.shiftExtra]⟩],
    [(0x200000000000, 464), (0x40000000000000000, 620)]⟩,
  ⟨67, 514, [
    ⟨0x40000, true, [.shift 170 false]⟩, ⟨0x39f679102000000000400000, true, [.reduce 135 1 0]⟩,
    ⟨0x60980000000000000000000, false, [.reduce 135 1 0]⟩, ⟨0x800, true, [.shift 757 false]⟩,
    ⟨0x20000000, true, [.shift 244 false]⟩,
    ⟨0x1000000000000000000000000, true, [.shift 222 false]⟩, ⟨128, true, [.shiftExtra]⟩],
    []⟩,
  ⟨67, 515, [
    ⟨0x800, true, [.shift 181 false]⟩, ⟨0x400000, true, [.shift 214 false]⟩,
    ⟨0x2000000000000000, true, [.shift 290 false]⟩,
    ⟨0x4000000000000000, true, [.shift 131 false]⟩,
    ⟨0x100000000000000000, true, [.shift 273 false]⟩,
    ⟨0x10001000000000000000000, true, [.shift 274 false]⟩,
    ⟨0x8000000000000000000, true, [.shift 275 false]⟩,
    ⟨0x10000000000000000000, true, [.shift 276 false]⟩,
    ⟨0x660000000000000000000, true, [.shift 277 false]⟩,
    ⟨0x180000000000000000000, false, [.shift 277 false]⟩,
    ⟨0x800000000000000000000, false, [.shift 278 false]⟩,
    ⟨0x1000000000000000000000, true, [.shift 278 false]⟩,
    ⟨0x2000000000000000000000, true, [.shift 279 false]⟩,
    ⟨0xc000000000000000000000, true, [.shift 280 false]⟩,
    ⟨0x60000000000000000000000, false, [.shift 281 false]⟩,
    ⟨0x80000000000000000000000, true, [.shift 281 false]⟩,
    ⟨0x100000000000000000000000, true, [.shift 282 false]⟩,
    ⟨0x200000000000000000000000, true, [.shift 779 false]⟩, ⟨128, true, [.shiftExtra]⟩],
    [(0x200000000000, 464), (0x40000000000000000, 621)]⟩,
  ⟨67, 516, [
    ⟨0x800, true, [.shift 182 false]⟩, ⟨0x80000, true, [.shift 134 false]⟩,
    ⟨0x400000, true, [.shift 214 false]⟩, ⟨0x2000000000000000, true, [.shift 290 false]⟩,
    ⟨0x100000000000000000, true, [.shift 273 false]⟩,
    ⟨0x10001000000000000000000, true, [.shift 274 false]⟩,
    ⟨0x8000000000000000000, true, [.shift 275 false]⟩,
    ⟨0x10000000000000000000, true, [.shift 276 false]⟩,
    ⟨0x660000000000000000000, true, [.shift 277 false]⟩,
    ⟨0x180000000000000000000, false, [.shift 277 false]⟩,
    ⟨0x800000000000000000000, false, [.shift 278 false]⟩,
    ⟨0x1000000000000000000000, true, [.shift 278 false]⟩,
    ⟨0x2000000000000000000000, true, [.shift 279 false]⟩,
    ⟨0xc000000000000000000000, true, [.shift 280 false]⟩,
    ⟨0x60000000000000000000000, false, [.shift 281 false]⟩,
    ⟨0x80000000000000000000000, true, [.shift 281 false]⟩,
    ⟨0x100000000000000000000000, true, [.shift 282 false]⟩,
    ⟨0x200000000000000000000000, true, [.shift 779 false]⟩, ⟨128, true, [.shiftExtra]⟩],
    [(0x200000000000, 464), (0x40000000000000000, 622)]⟩,
  ⟨67, 517, [
    ⟨0x800, true, [.shift 251 false]⟩, ⟨0x400000, true, [.shift 214 false]⟩,
    ⟨0x800000, true, [.shift 141 false]⟩, ⟨0x2000000000000000, true, [.shift 290 false]⟩,
    ⟨0x100000000000000000, true, [.shift 273 false]⟩,
    ⟨0x10001000000000000000000, true, [.shift 274 false]⟩,
    ⟨0x8000000000000000000, true, [.shift 275 false]⟩,
    ⟨0x10000000000000000000, true, [.shift 276 false]⟩,
    ⟨0x660000000000000000000, true, [.shift 277 false]⟩,
    ⟨0x180000000000000000000, false, [.shift 277 false]⟩,
    ⟨0x800000000000000000000, false, [.shift 278 false]⟩,
    ⟨0x1000000000000000000000, true, [.shift 278 false]⟩,
    ⟨0x2000000000000000000000, true, [.shift 279 false]⟩,
    ⟨0xc000000000000000000000, true, [.shift 280 false]⟩,
    ⟨0x60000000000000000000000, false, [.shift 281 false]⟩,
    ⟨0x80000000000000000000000, true, [.shift 281 false]⟩,
    ⟨0x100000000000000000000000, true, [.shift 282 false]⟩,
    ⟨0x200000000000000000000000, true, [.shift 779 false]⟩, ⟨128, true, [.shiftExtra]⟩],
    [(0x200000000000, 464), (0x40000000000000000, 632)]⟩,
  ⟨67, 513, [
    ⟨0x800, true, [.shift 206 false]⟩, ⟨0x400000, true, [.shift 214 false]⟩,
    ⟨0x800000, true, [.shift 49 false]⟩, ⟨0x2000000000000000, true, [.shift 290 false]⟩,
    ⟨0x100000000000000000, true, [.shift 273 false]⟩,
    ⟨0x10001000000000000000000, true, [.shift 274 false]⟩,
    ⟨0x8000000000000000000, true, [.shift 275 false]⟩,
    ⟨0x10000000000000000000, true, [.shift 276 false]⟩,
    ⟨0x660000000000000000000, true, [.shift 277 false]⟩,
    ⟨0x180000000000000000000, false, [.shift 277 false]⟩,
    ⟨0x800000000000000000000, false, [.shift 278 false]⟩,
    ⟨0x1000000000000000000000, true, [.shift 278 false]⟩,
    ⟨0x2000000000000000000000, true, [.shift 279 false]⟩,
    ⟨0xc000000000000000000000, true, [.shift 280 false]⟩,
    ⟨0x60000000000000000000000, false, [.shift 281 false]⟩,
    ⟨0x80000000000000000000000, true, [.shift 281 false]⟩,
    ⟨0x100000000000000000000000, true, [.shift 282 false]⟩,
    ⟨0x200000000000000000000000, true, [.shift 779 false]⟩, ⟨128, true, [.shiftExtra]⟩],
    [(0x200000000000, 464), (0x40000000000000000, 673)]⟩,
  ⟨67, 515, [
    ⟨0x800, true, [.shift 207 false]⟩, ⟨0x400000, true, [.shift 214 false]⟩,
    ⟨0x2000000000000000, true, [.shift 290 false]⟩,
    ⟨0x4000000000000000, true, [.shift 50 false]⟩,
    ⟨0x100000000000000000, true, [.shift 273 false]⟩,
    ⟨0x10001000000000000000000, true, [.shift 274 false]⟩,
    ⟨0x8000000000000000000, true, [.shift 275 false]⟩,
    ⟨0x10000000000000000000, true, [.shift 276 false]⟩,
    ⟨0x660000000000000000000, true, [.shift 277 false]⟩,
    ⟨0x180000000000000000000, false, [.shift 277 false]⟩,
    ⟨0x800000000000000000000, false, [.shift 278 false]⟩,
    ⟨0x1000000000000000000000, true, [.shift 278 false]⟩,
    ⟨0x2000000000000000000000, true, [.shift 279 false]⟩,
    ⟨0xc000000000000000000000, true, [.shift 280 false]⟩,
    ⟨0x60000000000000000000000, false, [.shift 281 false]⟩,
    ⟨0x80000000000000000000000, true, [.shift 281 false]⟩,
    ⟨0x100000000000000000000000, true, [.shift 282 false]⟩,
    ⟨0x200000000000000000000000, true, [.shift 779 false]⟩, ⟨128, true, [.shiftExtra]⟩],
    [(0x200000000000, 464), (0x40000000000000000, 674)]⟩,
  ⟨67, 516, [
    ⟨0x800, true, [.shift 208 false]⟩, ⟨0x80000, true, [.shift 52 false]⟩,
    ⟨0x400000, true, [.shift 214 false]⟩, ⟨0x2000000000000000, true, [.shift 290 false]⟩,
    ⟨0x100000000000000000, true, [.shift 273 false]⟩,
    ⟨0x10001000000000000000000, true, [.shift 274 false]⟩,
    ⟨0x8000000000000000000, true, [.shift 275 false]⟩,
    ⟨0x10000000000000000000, true, [.shift 276 false]⟩,
    ⟨0x660000000000000000000, true, [.shift 277 false]⟩,
    ⟨0x180000000000000000000, false, [.shift 277 false]⟩,
    ⟨0x800000000000000000000, false, [.shift 278 false]⟩,
    ⟨0x1000000000000000000000, true, [.shift 278 false]⟩,
    ⟨0x2000000000000000000000, true, [.shift 279 false]⟩,
    ⟨0xc000000000000000000000, true, [.shift 280 false]⟩,
    ⟨0x60000000000000000000000, false, [.shift 281 false]⟩,
    ⟨0x80000000000000000000000, true, [.shift 281 false]⟩,
    ⟨0x100000000000000000000000, true, [.shift 282 false]⟩,
    ⟨0x200000000000000000000000, true, [.shift 779 false]⟩, ⟨128, true, [.shiftExtra]⟩],
    [(0x200000000000, 464), (0x40000000000000000, 675)]⟩,
  ⟨67, 517, [
    ⟨0x800, true, [.shift 251 false]⟩, ⟨0x400000, true, [.shift 214 false]⟩,
    ⟨0x800000, true, [.shift 59 false]⟩, ⟨0x2000000000000000, true, [.shift 290 false]⟩,
    ⟨0x100000000000000000, true, [.shift 273 false]⟩,
    ⟨0x10001000000000000000000, true, [.shift 274 false]⟩,
    ⟨0x8000000000000000000, true, [.shift 275 false]⟩,
    ⟨0x10000000000000000000, true, [.shift 276 false]⟩,
    ⟨0x660000000000000000000, true, [.shift 277 false]⟩,
    ⟨0x180000000000000000000, false, [.shift 277 false]⟩,
    ⟨0x800000000000000000000, false, [.shift 278 false]⟩,
    ⟨0x1000000000000000000000, true, [.shift 278 false]⟩,
    ⟨0x2000000000000000000000, true, [.shift 279 false]⟩,
    ⟨0xc000000000000000000000, true, [.shift 280 false]⟩,
    ⟨0x60000000000000000000000, false, [.shift 281 false]⟩,
    ⟨0x80000000000000000000000, true, [.shift 281 false]⟩,
    ⟨0x100000000000000000000000, true, [.shift 282 false]⟩,
    ⟨0x200000000000000000000000, true, [.shift 779 false]⟩, ⟨128, true, [.shiftExtra]⟩],
    [(0x200000000000, 464), (0x40000000000000000, 682)]⟩,
  ⟨67, 513, [
    ⟨0x800, true, [.shift 215 false]⟩, ⟨0x400000, true, [.shift 214 false]⟩,
    ⟨0x800000, true, [.shift 471 false]⟩, ⟨0x2000000000000000, true, [.shift 290 false]⟩,
    ⟨0x100000000000000000, true, [.shift 273 false]⟩,
    ⟨0x10001000000000000000000, true, [.shift 274 false]⟩,
    ⟨0x8000000000000000000, true, [.shift 275 false]⟩,
    ⟨0x10000000000000000000, true, [.shift 276 false]⟩,
    ⟨0x660000000000000000000, true, [.shift 277 false]⟩,
    ⟨0x180000000000000000000, false, [.shift 277 false]⟩,
    ⟨0x800000000000000000000, false, [.shift 278 false]⟩,
    ⟨0x1000000000000000000000, true, [.shift 278 false]⟩,
    ⟨0x2000000000000000000000, true, [.shift 279 false]⟩,
    ⟨0xc000000000000000000000, true, [.shift 280 false]⟩,
    ⟨0x60000000000000000000000, false, [.shift 281 false]⟩,
    ⟨0x80000000000000000000000, true, [.shift 281 false]⟩,
    ⟨0x100000000000000000000000, true, [.shift 282 false]⟩,
    ⟨0x200000000000000000000000, true, [.shift 779 false]⟩, ⟨128, true, [.shiftExtra]⟩],
    [(0x200000000000, 464), (0x40000000000000000, 693)]⟩,
  ⟨67, 515, [
    ⟨0x800, true, [.shift 216 false]⟩, ⟨0x400000, true, [.shift 214 false]⟩,
    ⟨0x2000000000000000, true, [.shift 290 false]⟩,
    ⟨0x4000000000000000, true, [.shift 472 false]⟩,
    ⟨0x100000000000000000, true, [.shift 273 false]⟩,
    ⟨0x10001000000000000000000, true, [.shift 274 false]⟩,
    ⟨0x8000000000000000000, true, [.shift 275 false]⟩,
    ⟨0x10000000000000000000, true, [.shift 276 false]⟩,
    ⟨0x660000000000000000000, true, [.shift 277 false]⟩,
    ⟨0x180000000000000000000, false, [.shift 277 false]⟩,
    ⟨0x800000000000000000000, false, [.shift 278 false]⟩,
    ⟨0x1000000000000000000000, true, [.shift 278 false]⟩,
    ⟨0x2000000000000000000000, true, [.shift 279 false]⟩,
    ⟨0xc000000000000000000000, true, [.shift 280 false]⟩,
    ⟨0x60000000000000000000000, false, [.shift 281 false]⟩,
    ⟨0x80000000000000000000000, true, [.shift 281 false]⟩,
    ⟨0x100000000000000000000000, true, [.shift 282 false]⟩,
    ⟨0x200000000000000000000000, true, [.shift 779 false]⟩, ⟨128, true, [.shiftExtra]⟩],
    [(0x200000000000, 464), (0x40000000000000000, 694)]⟩,
  ⟨67, 516, [
    ⟨0x800, true, [.shift 217 false]⟩, ⟨0x80000, true, [.shift 486 false]⟩,
    ⟨0x400000, true, [.shift 214 false]⟩, ⟨0x2000000000000000, true, [.shift 290 false]⟩,
    ⟨0x100000000000000000, true, [.shift 273 false]⟩,
    ⟨0x10001000000000000000000, true, [.shift 274 false]⟩,
    ⟨0x8000000000000000000, true, [.shift 275 false]⟩,
    ⟨0x10000000000000000000, true, [.shift 276 false]⟩,
    ⟨0x660000000000000000000, true, [.shift 277 false]⟩,
    ⟨0x180000000000000000000, false, [.shift 277 false]⟩,
    ⟨0x800000000000000000000, false, [.shift 278 false]⟩,
    ⟨0x1000000000000000000000, true, [.shift 278 false]⟩,
    ⟨0x2000000000000000000000, true, [.shift 279 false]⟩,
    ⟨0xc000000000000000000000, true, [.shift 280 false]⟩,
    ⟨0x60000000000000000000000, false, [.shift 281 false]⟩,
    ⟨0x80000000000000000000000, true, [.shift 281 false]⟩,
    ⟨0x100000000000000000000000, true, [.shift 282 false]⟩,
    ⟨0x200000000000000000000000, true, [.shift 779 false]⟩, ⟨128, true, [.shiftExtra]⟩],
    [(0x200000000000, 464), (0x40000000000000000, 695)]⟩,
  ⟨67, 517, [
    ⟨0x800, true, [.shift 251 false]⟩, ⟨0x400000, true, [.shift 214 false]⟩,
    ⟨0x800000, true, [.shift 494 false]⟩, ⟨0x2000000000000000, true, [.shift 290 false]⟩,
    ⟨0x100000000000000000, true, [.shift 273 false]⟩,
    ⟨0x10001000000000000000000, true, [.shift 274 false]⟩,
    ⟨0x8000000000000000000, true, [.shift 275 false]⟩,
    ⟨0x10000000000000000000, true, [.shift 276 false]⟩,
    ⟨0x660000000000000000000, true, [.shift 277 false]⟩,
    ⟨0x180000000000000000000, false, [.shift 277 false]⟩,
    ⟨0x800000000000000000000, false, [.shift 278 false]⟩,
    ⟨0x1000000000000000000000, true, [.shift 278 false]⟩,
    ⟨0x2000000000000000000000, true, [.shift 279 false]⟩,
    ⟨0xc000000000000000000000, true, [.shift 280 false]⟩,
    ⟨0x60000000000000000000000, false, [.shift 281 false]⟩,
    ⟨0x80000000000000000000000, true, [.shift 281 false]⟩,
    ⟨0x100000000000000000000000, true, [.shift 282 false]⟩,
    ⟨0x200000000000000000000000, true, [.shift 779 false]⟩, ⟨128, true, [.shiftExtra]⟩],
    [(0x200000000000, 464), (0x40000000000000000, 698)]⟩,
  ⟨67, 514, [
    ⟨0x40000, true, [.shift 170 false]⟩, ⟨0x39f679102000000000400000, true, [.reduce 135 1 0]⟩,
    ⟨0x60980000000000000000000, false, [.reduce 135 1 0]⟩, ⟨0x800, true, [.shift 796 false]⟩,
    ⟨0x20000000, true, [.shift 287 false]⟩,
    ⟨0x1000000000000000000000000, true, [.shift 222 false]⟩, ⟨128, true, [.shiftExtra]⟩],
    []⟩,
  ⟨67, 527, [
    ⟨0x40000, true, [.shift 13 false]⟩, ⟨0x400000, true, [.shift 214 false]⟩,
    ⟨0x2000000000000000, true, [.shift 290 false]⟩,
    ⟨0x100000000000000000, true, [.shift 309 false]⟩,
    ⟨0x10001000000000000000000, true, [.shift 310 false]⟩,
    ⟨0x8000000000000000000, true, [.shift 311 false]⟩,
    ⟨0x10000000000000000000, true, [.shift 312 false]⟩,
    ⟨0x660000000000000000000, true, [.shift 313 false]⟩,
    ⟨0x180000000000000000000, false, [.shift 313 false]⟩,
    ⟨0x800000000000000000000, false, [.shift 314 false]⟩,
    ⟨0x1000000000000000000000, true, [.shift 314 false]⟩,
    ⟨0x2000000000000000000000, true, [.shift 315 false]⟩,
    ⟨0xc000000000000000000000, true, [.shift 316 false]⟩,
    ⟨0x60000000000000000000000, false, [.shift 317 false]⟩,
    ⟨0x80000000000000000000000, true, [.shift 317 false]⟩,
    ⟨0x100000000000000000000000, true, [.shift 318 false]⟩,
    ⟨0x200000000000000000000000, true, [.shift 779 false]⟩, ⟨128, true, [.shiftExtra]⟩],
    [(0x2000, 358), (0x200000000000, 464)]⟩,
  ⟨67, 528, [
    ⟨0x40000, true, [.shift 13 false]⟩, ⟨0x400000, true, [.shift 214 false]⟩,
    ⟨0x2000000000000000, true, [.shift 290 false]⟩,
    ⟨0x100000000000000000, true, [.shift 309 false]⟩,
    ⟨0x10001000000000000000000, true, [.shift 310 false]⟩,
    ⟨0x8000000000000000000, true, [.shift 311 false]⟩,
    ⟨0x10000000000000000000, true, [.shift 312 false]⟩,
    ⟨0x660000000000000000000, true, [.shift 313 false]⟩,
    ⟨0x180000000000000000000, false, [.shift 313 false]⟩,
    ⟨0x800000000000000000000, false, [.shift 314 false]⟩,
    ⟨0x1000000000000000000000, true, [.shift 314 false]⟩,
    ⟨0x2000000000000000000000, true, [.shift 315 false]⟩,
    ⟨0xc000000000000000000000, true, [.shift 316 false]⟩,
    ⟨0x60000000000000000000000, false, [.shift 317 false]⟩,
    ⟨0x80000000000000000000000, true, [.shift 317 false]⟩,
    ⟨0x100000000000000000000000, true, [.shift 318 false]⟩,
    ⟨0x200000000000000000000000, true, [.shift 779 false]⟩, ⟨128, true, [.shiftExtra]⟩],
    [(0x2000, 382), (0x200000000000, 464)]⟩,
  ⟨0, 510, [
    ⟨0x9ffffe0000200002, false, [.reduce 109 2 0]⟩,
    ⟨0x2000000000440000, true, [.reduce 109 2 0]⟩, ⟨128, true, [.shiftExtra]⟩],
    []⟩,
  ⟨67, 530, [
    ⟨0x80800, true, [.reduce 148 3 18]⟩, ⟨0x400000, true, [.shift 214 false]⟩,
    ⟨0x2000000000000000, true, [.shift 290 false]⟩,
    ⟨0x100000000000000000, true, [.shift 273 false]⟩,
    ⟨0x10001000000000000000000, true, [.shift 274 false]⟩,
    ⟨0x8000000000000000000, true, [.shift 275 false]⟩,
    ⟨0x10000000000000000000, true, [.shift 276 false]⟩,
    ⟨0x660000000000000000000, true, [.shift 277 false]⟩,
    ⟨0x180000000000000000000, false, [.shift 277 false]⟩,
    ⟨0x800000000000000000000, false, [.shift 278 false]⟩,
    ⟨0x1000000000000000000000, true, [.shift 278 false]⟩,
    ⟨0x2000000000000000000000, true, [.shift 279 false]⟩,
    ⟨0xc000000000000000000000, true, [.shift 280 false]⟩,
    ⟨0x60000000000000000000000, false, [.shift 281 false]⟩,
    ⟨0x80000000000000000000000, true, [.shift 281 false]⟩,
    ⟨0x100000000000000000000000, true, [.shift 282 false]⟩,
    ⟨0x200000000000000000000000, true, [.shift 779 false]⟩, ⟨128, true, [.shiftExtra]⟩],
    [(0x200000000000, 464)]⟩,
  ⟨0, 511, [
    ⟨0x9ffffe0000200002, false, [.reduce 109 3 0]⟩,
    ⟨0x2000000000440000, true, [.reduce 109 3 0]⟩, ⟨128, true, [.shiftExtra]⟩],
    []⟩,
  ⟨67, 532, [
    ⟨0x40000, true, [.shift 13 false]⟩, ⟨0x400000, true, [.shift 214 false]⟩,
    ⟨0x2000000000000000, true, [.shift 290 false]⟩,
    ⟨0x100000000000000000, true, [.shift 309 false]⟩,
    ⟨0x10001000000000000000000, true, [.shift 310 false]⟩,
    ⟨0x8000000000000000000, true, [.shift 311 false]⟩,
    ⟨0x10000000000000000000, true, [.shift 312 false]⟩,
    ⟨0x660000000000000000000, true, [.shift 313 false]⟩,
    ⟨0x180000000000000000000, false, [.shift 313 false]⟩,
    ⟨0x800000000000000000000, false, [.shift 314 false]⟩,
    ⟨0x1000000000000000000000, true, [.shift 314 false]⟩,
    ⟨0x2000000000000000000000, true, [.shift 315 false]⟩,
    ⟨0xc000000000000000000000, true, [.shift 316 false]⟩,
    ⟨0x60000000000000000000000, false, [.shift 317 false]⟩,
    ⟨0x80000000000000000000000, true, [.shift 317 false]⟩,
    ⟨0x100000000000000000000000, true, [.shift 318 false]⟩,
    ⟨0x200000000000000000000000, true, [.shift 779 false]⟩, ⟨128, true, [.shiftExtra]⟩],
    [(0x2000, 394), (0x200000000000, 464)]⟩,
  ⟨67, 533, [
    ⟨0x80800, true, [.reduce 150 3 24]⟩, ⟨0x400000, true, [.shift 214 false]⟩,
    ⟨0x2000000000000000, true, [.shift 290 false]⟩,
    ⟨0x100000000000000000, true, [.shift 273 false]⟩,
    ⟨0x10001000000000000000000, true, [.shift 274 false]⟩,
    ⟨0x8000000000000000000, true, [.shift 275 false]⟩,
    ⟨0x10000000000000000000, true, [.shift 276 false]⟩,
    ⟨0x660000000000000000000, true, [.shift 277 false]⟩,
    ⟨0x180000000000000000000, false, [.shift 277 false]⟩,
    ⟨0x800000000000000000000, false, [.shift 278 false]⟩,
    ⟨0x1000000000000000000000, true, [.shift 278 false]⟩,
    ⟨0x2000000000000000000000, true, [.shift 279 false]⟩,
    ⟨0xc000000000000000000000, true, [.shift 280 false]⟩,
    ⟨0x60000000000000000000000, false, [.shift 281 false]⟩,
    ⟨0x80000000000000000000000, true, [.shift 281 false]⟩,
    ⟨0x100000000000000000000000, true, [.shift 282 false]⟩,
    ⟨0x200000000000000000000000, true, [.shift 779 false]⟩, ⟨128, true, [.shiftExtra]⟩],
    [(0x200000000000, 464)]⟩,
  ⟨0, 512, [
    ⟨0x9ffffe0000200002, false, [.reduce 109 4 0]⟩,
    ⟨0x2000000000440000, true, [.reduce 109 4 0]⟩, ⟨128, true, [.shiftExtra]⟩],
    []⟩,
  ⟨67, 535, [
    ⟨0x40000, true, [.shift 13 false]⟩, ⟨0x400000, true, [.shift 214 false]⟩,
    ⟨0x2000000000000000, true, [.shift 290 false]⟩,
    ⟨0x100000000000000000, true, [.shift 309 false]⟩,
    ⟨0x10001000000000000000000, true, [.shift 310 false]⟩,
    ⟨0x8000000000000000000, true, [.shift 311 false]⟩,
    ⟨0x10000000000000000000, true, [.shift 312 false]⟩,
    ⟨0x660000000000000000000, true, [.shift 313 false]⟩,
    ⟨0x180000000000000000000, false, [.shift 313 false]⟩,
    ⟨0x800000000000000000000, false, [.shift 314 false]⟩,
    ⟨0x1000000000000000000000, true, [.shift 314 false]⟩,
    ⟨0x2000000000000000000000, true, [.shift 315 false]⟩,
    ⟨0xc000000000000000000000, true, [.shift 316 false]⟩,
    ⟨0x60000000000000000000000, false, [.shift 317 false]⟩,
    ⟨0x80000000000000000000000, true, [.shift 317 false]⟩,
    ⟨0x100000000000000000000000, true, [.shift 318 false]⟩,
    ⟨0x200000000000000000000000, true, [.shift 779 false]⟩, ⟨128, true, [.shiftExtra]⟩],
    [(0x2000, 405), (0x200000000000, 464)]⟩,
  ⟨67, 527, [
    ⟨0x40000, true, [.shift 16 false]⟩, ⟨0x400000, true, [.shift 214 false]⟩,
    ⟨0x2000000000000000, true, [.shift 290 false]⟩,
    ⟨0x100000000000000000, true, [.shift 309 false]⟩,
    ⟨0x10001000000000000000000, true, [.shift 310 false]⟩,
    ⟨0x8000000000000000000, true, [.shift 311 false]⟩,
    ⟨0x10000000000000000000, true, [.shift 312 false]⟩,
    ⟨0x660000000000000000000, true, [.shift 313 false]⟩,
    ⟨0x180000000000000000000, false, [.shift 313 false]⟩,
    ⟨0x800000000000000000000, false, [.shift 314 false]⟩,
    ⟨0x1000000000000000000000, true, [.shift 314 false]⟩,
    ⟨0x2000000000000000000000, true, [.shift 315 false]⟩,
    ⟨0xc000000000000000000000, true, [.shift 316 false]⟩,
    ⟨0x60000000000000000000000, false, [.shift 317 false]⟩,
    ⟨0x80000000000000000000000, true, [.shift 317 false]⟩,
    ⟨0x100000000000000000000000, true, [.shift 318 false]⟩,
    ⟨0x200000000000000000000000, true, [.shift 779 false]⟩, ⟨128, true, [.shiftExtra]⟩],
    [(0x2000, 363), (0x200000000000, 464)]⟩,
  ⟨67, 528, [
    ⟨0x40000, true, [.shift 16 false]⟩, ⟨0x400000, true, [.shift 214 false]⟩,
    ⟨0x2000000000000000, true, [.shift 290 false]⟩,
    ⟨0x100000000000000000, true, [.shift 309 false]⟩,
    ⟨0x10001000000000000000000, true, [.shift 310 false]⟩,
    ⟨0x8000000000000000000, true, [.shift 311 false]⟩,
    ⟨0x10000000000000000000, true, [.shift 312 false]⟩,
    ⟨0x660000000000000000000, true, [.shift 313 false]⟩,
    ⟨0x180000000000000000000, false, [.shift 313 false]⟩,
    ⟨0x800000000000000000000, false, [.shift 314 false]⟩,
    ⟨0x1000000000000000000000, true, [.shift 314 false]⟩,
    ⟨0x2000000000000000000000, true, [.shift 315 false]⟩,
    ⟨0xc000000000000000000000, true, [.shift 316 false]⟩,
    ⟨0x60000000000000000000000, false, [.shift 317 false]⟩,
    ⟨0x80000000000000000000000, true, [.shift 317 false]⟩,
    ⟨0x100000000000000000000000, true, [.shift 318 false]⟩,
    ⟨0x200000000000000000000000, true, [.shift 779 false]⟩, ⟨128, true, [.shiftExtra]⟩],
    [(0x2000, 409), (0x200000000000, 464)]⟩,
  ⟨67, 532, [
    ⟨0x40000, true, [.shift 16 false]⟩, ⟨0x400000, true, [.shift 214 false]⟩,
    ⟨0x2000000000000000, true, [.shift 290 false]⟩,
    ⟨0x100000000000000000, true, [.shift 309 false]⟩,
    ⟨0x10001000000000000000000, true, [.shift 310 false]⟩,
    ⟨0x8000000000000000000, true, [.shift 311 false]⟩,
    ⟨0x10000000000000000000, true, [.shift 312 false]⟩,
    ⟨0x660000000000000000000, true, [.shift 313 false]⟩,
    ⟨0x180000000000000000000, false, [.shift 313 false]⟩,
    ⟨0x800000000000000000000, false, [.shift 314 false]⟩,
    ⟨0x1000000000000000000000, true, [.shift 314 false]⟩,
    ⟨0x2000000000000000000000, true, [.shift 315 false]⟩,
    ⟨0xc000000000000000000000, true, [.shift 316 false]⟩,
    ⟨0x60000000000000000000000, false, [.shift 317 false]⟩,
    ⟨0x80000000000000000000000, true, [.shift 317 false]⟩,
    ⟨0x100000000000000000000000, true, [.shift 318 false]⟩,
    ⟨0x200000000000000000000000, true, [.shift 779 false]⟩, ⟨128, true, [.shiftExtra]⟩],
    [(0x2000, 419), (0x200000000000, 464)]⟩,
  ⟨67, 535, [
    ⟨0x40000, true, [.shift 16 false]⟩, ⟨0x400000, true, [.shift 214 false]⟩,
    ⟨0x2000000000000000, true, [.shift 290 false]⟩,
    ⟨0x100000000000000000, true, [.shift 309 false]⟩,
    ⟨0x10001000000000000000000, true, [.shift 310 false]⟩,
    ⟨0x8000000000000000000, true, [.shift 311 false]⟩,
    ⟨0x10000000000000000000, true, [.shift 312 false]⟩,
    ⟨0x660000000000000000000, true, [.shift 313 false]⟩,
    ⟨0x180000000000000000000, false, [.shift 313 false]⟩,
    ⟨0x800000000000000000000, false, [.shift 314 false]⟩,
    ⟨0x1000000000000000000000, true, [.shift 314 false]⟩,
    ⟨0x2000000000000000000000, true, [.shift 315 false]⟩,
    ⟨0xc000000000000000000000, true, [.shift 316 false]⟩,
    ⟨0x60000000000000000000000, false, [.shift 317 false]⟩,
    ⟨0x80000000000000000000000, true, [.shift 317 false]⟩,
    ⟨0x100000000000000000000000, true, [.shift 318 false]⟩,
    ⟨0x200000000000000000000000, true, [.shift 779 false]⟩, ⟨128, true, [.shiftExtra]⟩],
    [(0x2000, 429), (0x200000000000, 464)]⟩,
  ⟨67, 76, [
    ⟨0x100000000000040800, true, [.reduce 156 3 9]⟩, ⟨0x400000, true, [.shift 214 false]⟩,
    ⟨0x2000000000000000, true, [.shift 290 false]⟩,
    ⟨0x10001000000000000000000, true, [.shift 310 false]⟩,
    ⟨0x8000000000000000000, true, [.shift 311 false]⟩,
    ⟨0x10000000000000000000, true, [.shift 312 false]⟩,
    ⟨0x660000000000000000000, true, [.shift 313 false]⟩,
    ⟨0x180000000000000000000, false, [.shift 313 false]⟩,
    ⟨0x800000000000000000000, false, [.shift 314 false]⟩,
    ⟨0x1000000000000000000000, true, [.shift 314 false]⟩,
    ⟨0x2000000000000000000000, true, [.shift 315 false]⟩,
    ⟨0xc000000000000000000000, true, [.shift 316 false]⟩,
    ⟨0x60000000000000000000000, false, [.shift 317 false]⟩,
    ⟨0x80000000000000000000000, true, [.shift 317 false]⟩,
    ⟨0x100000000000000000000000, true, [.shift 318 false]⟩,
    ⟨0x200000000000000000000000, true, [.shift 779 false]⟩, ⟨128, true, [.shiftExtra]⟩],
    [(0x200000000000, 464)]⟩,
  ⟨67, 77, [
    ⟨0x100000000000040800, true, [.reduce 134 3 0]⟩, ⟨0x400000, true, [.shift 214 false]⟩,
    ⟨0x2000000000000000, true, [.shift 290 false]⟩,
    ⟨0x10001000000000000000000, true, [.shift 310 false]⟩,
    ⟨0x8000000000000000000, true, [.shift 311 false]⟩,
    ⟨0x10000000000000000000, true, [.shift 312 false]⟩,
    ⟨0x660000000000000000000, true, [.shift 313 false]⟩,
    ⟨0x180000000000000000000, false, [.shift 313 false]⟩,
    ⟨0x800000000000000000000, false, [.shift 314 false]⟩,
    ⟨0x1000000000000000000000, true, [.shift 314 false]⟩,
    ⟨0x2000000000000000000000, true, [.shift 315 false]⟩,
    ⟨0xc000000000000000000000, true, [.shift 316 false]⟩,
    ⟨0x60000000000000000000000, false, [.shift 317 false]⟩,
    ⟨0x80000000000000000000000, true, [.shift 317 false]⟩,
    ⟨0x100000000000000000000000, true, [.shift 318 false]⟩,
    ⟨0x200000000000000000000000, true, [.shift 779 false]⟩, ⟨128, true, [.shiftExtra]⟩],
    [(0x200000000000, 464)]⟩,
  ⟨67, 78, [
    ⟨0x1f679100000000000040800, true, [.reduce 141 3 0]⟩, ⟨0x400000, true, [.shift 214 false]⟩,
    ⟨0x2000000000000000, true, [.shift 290 false]⟩,
    ⟨0x980000000000000000000, false, [.reduce 141 3 0]⟩,
    ⟨0x60000000000000000000000, false, [.shift 317 false]⟩,
    ⟨0x80000000000000000000000, true, [.shift 317 false]⟩,
    ⟨0x100000000000000000000000, true, [.shift 318 false]⟩,
    ⟨0x200000000000000000000000, true, [.shift 779 false]⟩, ⟨128, true, [.shiftExtra]⟩],
    [(0x200000000000, 464)]⟩,
  ⟨67, 79, [
    ⟨0x8100000000000040800, true, [.reduce 141 3 0]⟩, ⟨0x400000, true, [.shift 214 false]⟩,
    ⟨0x2000000000000000, true, [.shift 290 false]⟩,
    ⟨0x10001000000000000000000, true, [.shift 310 false]⟩,
    ⟨0x10000000000000000000, true, [.shift 312 false]⟩,
    ⟨0x660000000000000000000, true, [.shift 313 false]⟩,
    ⟨0x180000000000000000000, false, [.shift 313 false]⟩,
    ⟨0x800000000000000000000, false, [.shift 314 false]⟩,
    ⟨0x1000000000000000000000, true, [.shift 314 false]⟩,
    ⟨0x2000000000000000000000, true, [.shift 315 false]⟩,
    ⟨0xc000000000000000000000, true, [.shift 316 false]⟩,
    ⟨0x60000000000000000000000, false, [.shift 317 false]⟩,
    ⟨0x80000000000000000000000, true, [.shift 317 false]⟩,
    ⟨0x100000000000000000000000, true, [.shift 318 false]⟩,
    ⟨0x200000000000000000000000, true, [.shift 779 false]⟩, ⟨128, true, [.shiftExtra]⟩],
    [(0x200000000000, 464)]⟩]

end SyntaxKit.Harneet
