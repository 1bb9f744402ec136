import SyntaxKit.Language.Basic

/-!
# Parse states 544 to 611 of Harneet

Rows of the parse automaton.  Each gives the lexical state in which its next token is read, the
first state with the same core, what to do on each set of tokens (a set is a number whose bit `i`
stands for token `i`), and the state to enter after each set of nonterminals (bit `i` stands for the
`i`-th nonterminal).
-/

namespace SyntaxKit.Harneet

/-- Parse states 544 to 611. -/
def states9 : List StateRow := [
  ⟨67, 80, [
    ⟨0x18100000000000040800, true, [.reduce 141 3 0]⟩, ⟨0x400000, true, [.shift 214 false]⟩,
    ⟨0x2000000000000000, true, [.shift 290 false]⟩,
    ⟨0x10001000000000000000000, true, [.shift 310 false]⟩,
    ⟨0x660000000000000000000, true, [.shift 313 false]⟩,
    ⟨0x180000000000000000000, false, [.shift 313 false]⟩,
    ⟨0x800000000000000000000, false, [.shift 314 false]⟩,
    ⟨0x1000000000000000000000, true, [.shift 314 false]⟩,
    ⟨0x2000000000000000000000, true, [.shift 315 false]⟩,
    ⟨0xc000000000000000000000, true, [.shift 316 false]⟩,
    ⟨0x60000000000000000000000, false, [.shift 317 false]⟩,
    ⟨0x80000000000000000000000, true, [.shift 317 false]⟩,
    ⟨0x100000000000000000000000, true, [.shift 318 false]⟩,
    ⟨0x200000000000000000000000, true, [.shift 779 false]⟩, ⟨128, true, [.shiftExtra]⟩],
    [(0x200000000000, 464)]⟩,
  ⟨67, 81, [
    ⟨0x678100000000000040800, true, [.reduce 141 3 0]⟩, ⟨0x400000, true, [.shift 214 false]⟩,
    ⟨0x2000000000000000, true, [.shift 290 false]⟩,
    ⟨0x10001000000000000000000, true, [.shift 310 false]⟩,
    ⟨0x180000000000000000000, false, [.reduce 141 3 0]⟩,
    ⟨0x800000000000000000000, false, [.shift 314 false]⟩,
    ⟨0x1000000000000000000000, true, [.shift 314 false]⟩,
    ⟨0x2000000000000000000000, true, [.shift 315 false]⟩,
    ⟨0xc000000000000000000000, true, [.shift 316 false]⟩,
    ⟨0x60000000000000000000000, false, [.shift 317 false]⟩,
    ⟨0x80000000000000000000000, true, [.shift 317 false]⟩,
    ⟨0x100000000000000000000000, true, [.shift 318 false]⟩,
    ⟨0x200000000000000000000000, true, [.shift 779 false]⟩, ⟨128, true, [.shiftExtra]⟩],
    [(0x200000000000, 464)]⟩,
  ⟨67, 82, [
    ⟨0x1678100000000000040800, true, [.reduce 141 3 0]⟩, ⟨0x400000, true, [.shift 214 false]⟩,
    ⟨0x2000000000000000, true, [.shift 290 false]⟩,
    ⟨0x10001000000000000000000, true, [.shift 310 false]⟩,
    ⟨0x980000000000000000000, false, [.reduce 141 3 0]⟩,
    ⟨0x2000000000000000000000, true, [.shift 315 false]⟩,
    ⟨0xc000000000000000000000, true, [.shift 316 false]⟩,
    ⟨0x60000000000000000000000, false, [.shift 317 false]⟩,
    ⟨0x80000000000000000000000, true, [.shift 317 false]⟩,
    ⟨0x100000000000000000000000, true, [.shift 318 false]⟩,
    ⟨0x200000000000000000000000, true, [.shift 779 false]⟩, ⟨128, true, [.shiftExtra]⟩],
    [(0x200000000000, 464)]⟩,
  ⟨67, 83, [
    ⟨0x3678100000000000040800, true, [.reduce 141 3 0]⟩, ⟨0x400000, true, [.shift 214 false]⟩,
    ⟨0x2000000000000000, true, [.shift 290 false]⟩,
    ⟨0x10001000000000000000000, true, [.shift 310 false]⟩,
    ⟨0x980000000000000000000, false, [.reduce 141 3 0]⟩,
    ⟨0xc000000000000000000000, true, [.shift 316 false]⟩,
    ⟨0x60000000000000000000000, false, [.shift 317 false]⟩,
    ⟨0x80000000000000000000000, true, [.shift 317 false]⟩,
    ⟨0x100000000000000000000000, true, [.shift 318 false]⟩,
    ⟨0x200000000000000000000000, true, [.shift 779 false]⟩, ⟨128, true, [.shiftExtra]⟩],
    [(0x200000000000, 464)]⟩,
  ⟨67, 84, [
    ⟨0xf678100000000000040800, true, [.reduce 141 3 0]⟩, ⟨0x400000, true, [.shift 214 false]⟩,
    ⟨0x2000000000000000, true, [.shift 290 false]⟩,
    ⟨0x10001000000000000000000, true, [.shift 310 false]⟩,
    ⟨0x980000000000000000000, false, [.reduce 141 3 0]⟩,
    ⟨0x60000000000000000000000, false, [.shift 317 false]⟩,
    ⟨0x80000000000000000000000, true, [.shift 317 false]⟩,
    ⟨0x100000000000000000000000, true, [.shift 318 false]⟩,
    ⟨0x200000000000000000000000, true, [.shift 779 false]⟩, ⟨128, true, [.shiftExtra]⟩],
    [(0x200000000000, 464)]⟩,
  ⟨67, 85, [
    ⟨0x9f679100000000000040800, true, [.reduce 141 3 0]⟩, ⟨0x400000, true, [.shift 214 false]⟩,
    ⟨0x2000000000000000, true, [.shift 290 false]⟩,
    ⟨0x60980000000000000000000, false, [.reduce 141 3 0]⟩,
    ⟨0x100000000000000000000000, true, [.shift 318 false]⟩,
    ⟨0x200000000000000000000000, true, [.shift 779 false]⟩, ⟨128, true, [.shiftExtra]⟩],
    [(0x200000000000, 464)]⟩,
  ⟨67, 86, [
    ⟨0x9f679100000000000040800, true, [.reduce 141 3 0]⟩, ⟨0x400000, true, [.shift 214 false]⟩,
    ⟨0x2000000000000000, true, [.shift 290 false]⟩,
    ⟨0x60980000000000000000000, false, [.reduce 141 3 0]⟩,
    ⟨0x100000000000000000000000, true, [.shift 318 false]⟩,
    ⟨0x200000000000000000000000, true, [.shift 779 false]⟩, ⟨128, true, [.shiftExtra]⟩],
    [(0x200000000000, 464)]⟩,
  ⟨67, 87, [
    ⟨0x40000, true, [.shift 170 false]⟩, ⟨0x39f679102000000000400800, true, [.reduce 135 1 0]⟩,
    ⟨0x60980000000000000000000, false, [.reduce 135 1 0]⟩,
    ⟨0x1000000000000000000000000, true, [.shift 222 false]⟩, ⟨128, true, [.shiftExtra]⟩],
    []⟩,
  ⟨67, 507, [
    ⟨0x40800, true, [.reduce 164 2 0]⟩, ⟨0x400000, true, [.shift 214 false]⟩,
    ⟨0x2000000000000000, true, [.shift 290 false]⟩,
    ⟨0x100000000000000000, true, [.shift 309 false]⟩,
    ⟨0x10001000000000000000000, true, [.shift 310 false]⟩,
    ⟨0x8000000000000000000, true, [.shift 311 false]⟩,
    ⟨0x10000000000000000000, true, [.shift 312 false]⟩,
    ⟨0x660000000000000000000, true, [.shift 313 false]⟩,
    ⟨0x180000000000000000000, false, [.shift 313 false]⟩,
    ⟨0x800000000000000000000, false, [.shift 314 false]⟩,
    ⟨0x1000000000000000000000, true, [.shift 314 false]⟩,
    ⟨0x2000000000000000000000, true, [.shift 315 false]⟩,
    ⟨0xc000000000000000000000, true, [.shift 316 false]⟩,
    ⟨0x60000000000000000000000, false, [.shift 317 false]⟩,
    ⟨0x80000000000000000000000, true, [.shift 317 false]⟩,
    ⟨0x100000000000000000000000, true, [.shift 318 false]⟩,
    ⟨0x200000000000000000000000, true, [.shift 779 false]⟩, ⟨128, true, [.shiftExtra]⟩],
    [(0x200000000000, 464)]⟩,
  ⟨67, 74, [
    ⟨0x40800, true, [.reduce 133 2 4]⟩, ⟨0x400000, true, [.shift 214 false]⟩,
    ⟨0x2000000000000000, true, [.shift 290 false]⟩,
    ⟨0x100000000000000000, true, [.shift 309 false]⟩,
    ⟨0x10001000000000000000000, true, [.shift 310 false]⟩,
    ⟨0x8000000000000000000, true, [.shift 311 false]⟩,
    ⟨0x10000000000000000000, true, [.shift 312 false]⟩,
    ⟨0x660000000000000000000, true, [.shift 313 false]⟩,
    ⟨0x180000000000000000000, false, [.shift 313 false]⟩,
    ⟨0x800000000000000000000, false, [.shift 314 false]⟩,
    ⟨0x1000000000000000000000, true, [.shift 314 false]⟩,
    ⟨0x2000000000000000000000, true, [.shift 315 false]⟩,
    ⟨0xc000000000000000000000, true, [.shift 316 false]⟩,
    ⟨0x60000000000000000000000, false, [.shift 317 false]⟩,
    ⟨0x80000000000000000000000, true, [.shift 317 false]⟩,
    ⟨0x100000000000000000000000, true, [.shift 318 false]⟩,
    ⟨0x200000000000000000000000, true, [.shift 779 false]⟩, ⟨128, true, [.shiftExtra]⟩],
    [(0x200000000000, 464)]⟩,
  ⟨67, 75, [
    ⟨0x1f679100000000000040800, true, [.reduce 140 2 5]⟩, ⟨0x400000, true, [.shift 214 false]⟩,
    ⟨0x2000000000000000, true, [.shift 290 false]⟩,
    ⟨0x980000000000000000000, false, [.reduce 140 2 5]⟩,
    ⟨0x60000000000000000000000, false, [.shift 317 false]⟩,
    ⟨0x80000000000000000000000, true, [.shift 317 false]⟩,
    ⟨0x100000000000000000000000, true, [.shift 318 false]⟩,
    ⟨0x200000000000000000000000, true, [.shift 779 false]⟩, ⟨128, true, [.shiftExtra]⟩],
    [(0x200000000000, 464)]⟩,
  ⟨67, 555, [
    ⟨0x40000, true, [.shift 584 false]⟩, ⟨0x400000, true, [.shift 214 false]⟩,
    ⟨0x2000000000000000, true, [.shift 290 false]⟩,
    ⟨0x100000000000000000, true, [.shift 309 false]⟩,
    ⟨0x10001000000000000000000, true, [.shift 310 false]⟩,
    ⟨0x8000000000000000000, true, [.shift 311 false]⟩,
    ⟨0x10000000000000000000, true, [.shift 312 false]⟩,
    ⟨0x660000000000000000000, true, [.shift 313 false]⟩,
    ⟨0x180000000000000000000, false, [.shift 313 false]⟩,
    ⟨0x800000000000000000000, false, [.shift 314 false]⟩,
    ⟨0x1000000000000000000000, true, [.shift 314 false]⟩,
    ⟨0x2000000000000000000000, true, [.shift 315 false]⟩,
    ⟨0xc000000000000000000000, true, [.shift 316 false]⟩,
    ⟨0x60000000000000000000000, false, [.shift 317 false]⟩,
    ⟨0x80000000000000000000000, true, [.shift 317 false]⟩,
    ⟨0x100000000000000000000000, true, [.shift 318 false]⟩,
    ⟨0x200000000000000000000000, true, [.shift 779 false]⟩, ⟨128, true, [.shiftExtra]⟩],
    [(0x200000000000, 464)]⟩,
  ⟨67, 556, [
    ⟨0x40000, true, [.shift 568 false]⟩, ⟨0x400000, true, [.shift 214 false]⟩,
    ⟨0x2000000000000000, true, [.shift 290 false]⟩,
    ⟨0x100000000000000000, true, [.shift 309 false]⟩,
    ⟨0x10001000000000000000000, true, [.shift 310 false]⟩,
    ⟨0x8000000000000000000, true, [.shift 311 false]⟩,
    ⟨0x10000000000000000000, true, [.shift 312 false]⟩,
    ⟨0x660000000000000000000, true, [.shift 313 false]⟩,
    ⟨0x180000000000000000000, false, [.shift 313 false]⟩,
    ⟨0x800000000000000000000, false, [.shift 314 false]⟩,
    ⟨0x1000000000000000000000, true, [.shift 314 false]⟩,
    ⟨0x2000000000000000000000, true, [.shift 315 false]⟩,
    ⟨0xc000000000000000000000, true, [.shift 316 false]⟩,
    ⟨0x60000000000000000000000, false, [.shift 317 false]⟩,
    ⟨0x80000000000000000000000, true, [.shift 317 false]⟩,
    ⟨0x100000000000000000000000, true, [.shift 318 false]⟩,
    ⟨0x200000000000000000000000, true, [.shift 779 false]⟩, ⟨128, true, [.shiftExtra]⟩],
    [(0x200000000000, 464)]⟩,
  ⟨67, 557, [
    ⟨0x400000, true, [.shift 214 false]⟩, ⟨0x2000000000000000, true, [.shift 290 false]⟩,
    ⟨0x100000000000000000, true, [.shift 273 false]⟩,
    ⟨0x10001000000000000000000, true, [.shift 274 false]⟩,
    ⟨0x8000000000000000000, true, [.shift 275 false]⟩,
    ⟨0x10000000000000000000, true, [.shift 276 false]⟩,
    ⟨0x660000000000000000000, true, [.shift 277 false]⟩,
    ⟨0x180000000000000000000, false, [.shift 277 false]⟩,
    ⟨0x800000000000000000000, false, [.shift 278 false]⟩,
    ⟨0x1000000000000000000000, true, [.shift 278 false]⟩,
    ⟨0x2000000000000000000000, true, [.shift 279 false]⟩,
    ⟨0xc000000000000000000000, true, [.shift 280 false]⟩,
    ⟨0x60000000000000000000000, false, [.shift 281 false]⟩,
    ⟨0x80000000000000000000000, true, [.shift 281 false]⟩,
    ⟨0x100000000000000000000000, true, [.shift 282 false]⟩,
    ⟨0x200000000000000000000000, true, [.shift 779 false]⟩,
    ⟨0x400000000000000000000000, true, [.shift 243 false]⟩, ⟨128, true, [.shiftExtra]⟩],
    [(0x200000000000, 464)]⟩,
  ⟨67, 558, [
    ⟨0x400000, true, [.shift 214 false]⟩, ⟨0x2000000000000000, true, [.shift 290 false]⟩,
    ⟨0x4000000000000000, true, [.shift 36 false]⟩,
    ⟨0x100000000000000000, true, [.shift 273 false]⟩,
    ⟨0x10001000000000000000000, true, [.shift 274 false]⟩,
    ⟨0x8000000000000000000, true, [.shift 275 false]⟩,
    ⟨0x10000000000000000000, true, [.shift 276 false]⟩,
    ⟨0x660000000000000000000, true, [.shift 277 false]⟩,
    ⟨0x180000000000000000000, false, [.shift 277 false]⟩,
    ⟨0x800000000000000000000, false, [.shift 278 false]⟩,
    ⟨0x1000000000000000000000, true, [.shift 278 false]⟩,
    ⟨0x2000000000000000000000, true, [.shift 279 false]⟩,
    ⟨0xc000000000000000000000, true, [.shift 280 false]⟩,
    ⟨0x60000000000000000000000, false, [.shift 281 false]⟩,
    ⟨0x80000000000000000000000, true, [.shift 281 false]⟩,
    ⟨0x100000000000000000000000, true, [.shift 282 false]⟩,
    ⟨0x200000000000000000000000, true, [.shift 779 false]⟩, ⟨128, true, [.shiftExtra]⟩],
    [(0x200000000000, 464)]⟩,
  ⟨67, 559, [
    ⟨0x400000, true, [.shift 214 false]⟩, ⟨0x800000, true, [.shift 767 false]⟩,
    ⟨0x2000000000000000, true, [.shift 290 false]⟩,
    ⟨0x100000000000000000, true, [.shift 273 false]⟩,
    ⟨0x10001000000000000000000, true, [.shift 274 false]⟩,
    ⟨0x8000000000000000000, true, [.shift 275 false]⟩,
    ⟨0x10000000000000000000, true, [.shift 276 false]⟩,
    ⟨0x660000000000000000000, true, [.shift 277 false]⟩,
    ⟨0x180000000000000000000, false, [.shift 277 false]⟩,
    ⟨0x800000000000000000000, false, [.shift 278 false]⟩,
    ⟨0x1000000000000000000000, true, [.shift 278 false]⟩,
    ⟨0x2000000000000000000000, true, [.shift 279 false]⟩,
    ⟨0xc000000000000000000000, true, [.shift 280 false]⟩,
    ⟨0x60000000000000000000000, false, [.shift 281 false]⟩,
    ⟨0x80000000000000000000000, true, [.shift 281 false]⟩,
    ⟨0x100000000000000000000000, true, [.shift 282 false]⟩,
    ⟨0x200000000000000000000000, true, [.shift 779 false]⟩, ⟨128, true, [.shiftExtra]⟩],
    [(0x200000000000, 464)]⟩,
  ⟨67, 560, [
    ⟨0x400000, true, [.shift 214 false]⟩, ⟨0x2000000000000000, true, [.shift 290 false]⟩,
    ⟨0x100000000000000000, true, [.shift 273 false]⟩,
    ⟨0x10001000000000000000000, true, [.shift 274 false]⟩,
    ⟨0x8000000000000000000, true, [.shift 275 false]⟩,
    ⟨0x10000000000000000000, true, [.shift 276 false]⟩,
    ⟨0x660000000000000000000, true, [.shift 277 false]⟩,
    ⟨0x180000000000000000000, false, [.shift 277 false]⟩,
    ⟨0x800000000000000000000, false, [.shift 278 false]⟩,
    ⟨0x1000000000000000000000, true, [.shift 278 false]⟩,
    ⟨0x2000000000000000000000, true, [.shift 279 false]⟩,
    ⟨0xc000000000000000000000, true, [.shift 280 false]⟩,
    ⟨0x60000000000000000000000, false, [.shift 281 false]⟩,
    ⟨0x80000000000000000000000, true, [.shift 281 false]⟩,
    ⟨0x100000000000000000000000, true, [.shift 282 false]⟩,
    ⟨0x200000000000000000000000, true, [.shift 779 false]⟩,
    ⟨0x1000000000000000000000000, true, [.shift 192 false]⟩, ⟨128, true, [.shiftExtra]⟩],
    [(0x200000000000, 464)]⟩,
  ⟨67, 115, [
    ⟨0x39f679102000000000440800, true, [.reduce 151 3 0]⟩,
    ⟨0x60980000000000000000000, false, [.reduce 151 3 0]⟩, ⟨128, true, [.shiftExtra]⟩],
    []⟩,
  ⟨67, 558, [
    ⟨0x400000, true, [.shift 214 false]⟩, ⟨0x2000000000000000, true, [.shift 290 false]⟩,
    ⟨0x4000000000000000, true, [.shift 20 false]⟩,
    ⟨0x100000000000000000, true, [.shift 273 false]⟩,
    ⟨0x10001000000000000000000, true, [.shift 274 false]⟩,
    ⟨0x8000000000000000000, true, [.shift 275 false]⟩,
    ⟨0x10000000000000000000, true, [.shift 276 false]⟩,
    ⟨0x660000000000000000000, true, [.shift 277 false]⟩,
    ⟨0x180000000000000000000, false, [.shift 277 false]⟩,
    ⟨0x800000000000000000000, false, [.shift 278 false]⟩,
    ⟨0x1000000000000000000000, true, [.shift 278 false]⟩,
    ⟨0x2000000000000000000000, true, [.shift 279 false]⟩,
    ⟨0xc000000000000000000000, true, [.shift 280 false]⟩,
    ⟨0x60000000000000000000000, false, [.shift 281 false]⟩,
    ⟨0x80000000000000000000000, true, [.shift 281 false]⟩,
    ⟨0x100000000000000000000000, true, [.shift 282 false]⟩,
    ⟨0x200000000000000000000000, true, [.shift 779 false]⟩, ⟨128, true, [.shiftExtra]⟩],
    [(0x200000000000, 464)]⟩,
  ⟨67, 558, [
    ⟨0x400000, true, [.shift 214 false]⟩, ⟨0x2000000000000000, true, [.shift 290 false]⟩,
    ⟨0x4000000000000000, true, [.shift 495 false]⟩,
    ⟨0x100000000000000000, true, [.shift 273 false]⟩,
    ⟨0x10001000000000000000000, true, [.shift 274 false]⟩,
    ⟨0x8000000000000000000, true, [.shift 275 false]⟩,
    ⟨0x10000000000000000000, true, [.shift 276 false]⟩,
    ⟨0x660000000000000000000, true, [.shift 277 false]⟩,
    ⟨0x180000000000000000000, false, [.shift 277 false]⟩,
    ⟨0x800000000000000000000, false, [.shift 278 false]⟩,
    ⟨0x1000000000000000000000, true, [.shift 278 false]⟩,
    ⟨0x2000000000000000000000, true, [.shift 279 false]⟩,
    ⟨0xc000000000000000000000, true, [.shift 280 false]⟩,
    ⟨0x60000000000000000000000, false, [.shift 281 false]⟩,
    ⟨0x80000000000000000000000, true, [.shift 281 false]⟩,
    ⟨0x100000000000000000000000, true, [.shift 282 false]⟩,
    ⟨0x200000000000000000000000, true, [.shift 779 false]⟩, ⟨128, true, [.shiftExtra]⟩],
    [(0x200000000000, 464)]⟩,
  ⟨67, 555, [
    ⟨0x40000, true, [.shift 587 false]⟩, ⟨0x400000, true, [.shift 214 false]⟩,
    ⟨0x2000000000000000, true, [.shift 290 false]⟩,
    ⟨0x100000000000000000, true, [.shift 309 false]⟩,
    ⟨0x10001000000000000000000, true, [.shift 310 false]⟩,
    ⟨0x8000000000000000000, true, [.shift 311 false]⟩,
    ⟨0x10000000000000000000, true, [.shift 312 false]⟩,
    ⟨0x660000000000000000000, true, [.shift 313 false]⟩,
    ⟨0x180000000000000000000, false, [.shift 313 false]⟩,
    ⟨0x800000000000000000000, false, [.shift 314 false]⟩,
    ⟨0x1000000000000000000000, true, [.shift 314 false]⟩,
    ⟨0x2000000000000000000000, true, [.shift 315 false]⟩,
    ⟨0xc000000000000000000000, true, [.shift 316 false]⟩,
    ⟨0x60000000000000000000000, false, [.shift 317 false]⟩,
    ⟨0x80000000000000000000000, true, [.shift 317 false]⟩,
    ⟨0x100000000000000000000000, true, [.shift 318 false]⟩,
    ⟨0x200000000000000000000000, true, [.shift 779 false]⟩, ⟨128, true, [.shiftExtra]⟩],
    [(0x200000000000, 464)]⟩,
  ⟨67, 556, [
    ⟨0x40000, true, [.shift 572 false]⟩, ⟨0x400000, true, [.shift 214 false]⟩,
    ⟨0x2000000000000000, true, [.shift 290 false]⟩,
    ⟨0x100000000000000000, true, [.shift 309 false]⟩,
    ⟨0x10001000000000000000000, true, [.shift 310 false]⟩,
    ⟨0x8000000000000000000, true, [.shift 311 false]⟩,
    ⟨0x10000000000000000000, true, [.shift 312 false]⟩,
    ⟨0x660000000000000000000, true, [.shift 313 false]⟩,
    ⟨0x180000000000000000000, false, [.shift 313 false]⟩,
    ⟨0x800000000000000000000, false, [.shift 314 false]⟩,
    ⟨0x1000000000000000000000, true, [.shift 314 false]⟩,
    ⟨0x2000000000000000000000, true, [.shift 315 false]⟩,
    ⟨0xc000000000000000000000, true, [.shift 316 false]⟩,
    ⟨0x60000000000000000000000, false, [.shift 317 false]⟩,
    ⟨0x80000000000000000000000, true, [.shift 317 false]⟩,
    ⟨0x100000000000000000000000, true, [.shift 318 false]⟩,
    ⟨0x200000000000000000000000, true, [.shift 779 false]⟩, ⟨128, true, [.shiftExtra]⟩],
    [(0x200000000000, 464)]⟩,
  ⟨67, 556, [
    ⟨0x40000, true, [.shift 575 false]⟩, ⟨0x400000, true, [.shift 214 false]⟩,
    ⟨0x2000000000000000, true, [.shift 290 false]⟩,
    ⟨0x100000000000000000, true, [.shift 309 false]⟩,
    ⟨0x10001000000000000000000, true, [.shift 310 false]⟩,
    ⟨0x8000000000000000000, true, [.shift 311 false]⟩,
    ⟨0x10000000000000000000, true, [.shift 312 false]⟩,
    ⟨0x660000000000000000000, true, [.shift 313 false]⟩,
    ⟨0x180000000000000000000, false, [.shift 313 false]⟩,
    ⟨0x800000000000000000000, false, [.shift 314 false]⟩,
    ⟨0x1000000000000000000000, true, [.shift 314 false]⟩,
    ⟨0x2000000000000000000000, true, [.shift 315 false]⟩,
    ⟨0xc000000000000000000000, true, [.shift 316 false]⟩,
    ⟨0x60000000000000000000000, false, [.shift 317 false]⟩,
    ⟨0x80000000000000000000000, true, [.shift 317 false]⟩,
    ⟨0x100000000000000000000000, true, [.shift 318 false]⟩,
    ⟨0x200000000000000000000000, true, [.shift 779 false]⟩, ⟨128, true, [.shiftExtra]⟩],
    [(0x200000000000, 464)]⟩,
  ⟨0, 567, [
    ⟨6, false, [.shift 592 false]⟩, ⟨0x800000000000000008, false, [.shift 39 false]⟩,
    ⟨112, true, [.shift 39 false]⟩, ⟨0x80000, true, [.shift 139 false]⟩,
    ⟨0x2000000000000000, true, [.shift 577 false]⟩,
    ⟨0x600000000000000000, false, [.shift 40 false]⟩,
    ⟨0x2000000000000000000000000, false, [.shift 759 false]⟩, ⟨128, true, [.shiftExtra]⟩],
    [(0x300004000000000, 592), (0x8000000000, 39), (0x1000040000000000000, 569),
     (0x80000000000000, 711)]⟩,
  ⟨0, 568, [
    ⟨6, false, [.shift 592 false]⟩, ⟨0x800000000000000008, false, [.shift 39 false]⟩,
    ⟨112, true, [.shift 39 false]⟩, ⟨0x80000, true, [.shift 140 false]⟩,
    ⟨0x2000000000000000, true, [.shift 577 false]⟩,
    ⟨0x600000000000000000, false, [.shift 40 false]⟩,
    ⟨0x2000000000000000000000000, false, [.shift 759 false]⟩, ⟨128, true, [.shiftExtra]⟩],
    [(0x300004000000000, 592), (0x8000000000, 39), (0x1000040000000000000, 570),
     (0x80000000000000, 711)]⟩,
  ⟨0, 569, [
    ⟨6, false, [.reduce 170 2 0, .shift 592 true]⟩,
    ⟨0x800000000000000008, false, [.reduce 170 2 0, .shift 39 true]⟩,
    ⟨112, true, [.reduce 170 2 0, .shift 39 true]⟩, ⟨0x80000, true, [.reduce 170 2 0]⟩,
    ⟨0x2000000000000000, true, [.reduce 170 2 0, .shift 577 true]⟩,
    ⟨0x600000000000000000, false, [.reduce 170 2 0, .shift 40 true]⟩,
    ⟨0x2000000000000000000000000, false, [.reduce 170 2 0, .shift 759 true]⟩,
    ⟨128, true, [.shiftExtra]⟩],
    [(0x300004000000000, 592), (0x8000000000, 39), (0x1000040000000000000, 569),
     (0x80000000000000, 711)]⟩,
  ⟨0, 570, [
    ⟨6, false, [.shift 592 false]⟩, ⟨0x800000000000000008, false, [.shift 39 false]⟩,
    ⟨112, true, [.shift 39 false]⟩, ⟨0x80000, true, [.shift 146 false]⟩,
    ⟨0x2000000000000000, true, [.shift 577 false]⟩,
    ⟨0x600000000000000000, false, [.shift 40 false]⟩,
    ⟨0x2000000000000000000000000, false, [.shift 759 false]⟩, ⟨128, true, [.shiftExtra]⟩],
    [(0x300004000000000, 592), (0x8000000000, 39), (0x1000040000000000000, 569),
     (0x80000000000000, 711)]⟩,
  ⟨0, 567, [
    ⟨6, false, [.shift 592 false]⟩, ⟨0x800000000000000008, false, [.shift 39 false]⟩,
    ⟨112, true, [.shift 39 false]⟩, ⟨0x80000, true, [.shift 57 false]⟩,
    ⟨0x2000000000000000, true, [.shift 577 false]⟩,
    ⟨0x600000000000000000, false, [.shift 40 false]⟩,
    ⟨0x2000000000000000000000000, false, [.shift 759 false]⟩, ⟨128, true, [.shiftExtra]⟩],
    [(0x300004000000000, 592), (0x8000000000, 39), (0x1000040000000000000, 569),
     (0x80000000000000, 711)]⟩,
  ⟨0, 568, [
    ⟨6, false, [.shift 592 false]⟩, ⟨0x800000000000000008, false, [.shift 39 false]⟩,
    ⟨112, true, [.shift 39 false]⟩, ⟨0x80000, true, [.shift 58 false]⟩,
    ⟨0x2000000000000000, true, [.shift 577 false]⟩,
    ⟨0x600000000000000000, false, [.shift 40 false]⟩,
    ⟨0x2000000000000000000000000, false, [.shift 759 false]⟩, ⟨128, true, [.shiftExtra]⟩],
    [(0x300004000000000, 592), (0x8000000000, 39), (0x1000040000000000000, 573),
     (0x80000000000000, 711)]⟩,
  ⟨0, 570, [
    ⟨6, false, [.shift 592 false]⟩, ⟨0x800000000000000008, false, [.shift 39 false]⟩,
    ⟨112, true, [.shift 39 false]⟩, ⟨0x80000, true, [.shift 64 false]⟩,
    ⟨0x2000000000000000, true, [.shift 577 false]⟩,
    ⟨0x600000000000000000, false, [.shift 40 false]⟩,
    ⟨0x2000000000000000000000000, false, [.shift 759 false]⟩, ⟨128, true, [.shiftExtra]⟩],
    [(0x300004000000000, 592), (0x8000000000, 39), (0x1000040000000000000, 569),
     (0x80000000000000, 711)]⟩,
  ⟨0, 567, [
    ⟨6, false, [.shift 592 false]⟩, ⟨0x800000000000000008, false, [.shift 39 false]⟩,
    ⟨112, true, [.shift 39 false]⟩, ⟨0x80000, true, [.shift 492 false]⟩,
    ⟨0x2000000000000000, true, [.shift 577 false]⟩,
    ⟨0x600000000000000000, false, [.shift 40 false]⟩,
    ⟨0x2000000000000000000000000, false, [.shift 759 false]⟩, ⟨128, true, [.shiftExtra]⟩],
    [(0x300004000000000, 592), (0x8000000000, 39), (0x1000040000000000000, 569),
     (0x80000000000000, 711)]⟩,
  ⟨0, 568, [
    ⟨6, false, [.shift 592 false]⟩, ⟨0x800000000000000008, false, [.shift 39 false]⟩,
    ⟨112, true, [.shift 39 false]⟩, ⟨0x80000, true, [.shift 493 false]⟩,
    ⟨0x2000000000000000, true, [.shift 577 false]⟩,
    ⟨0x600000000000000000, false, [.shift 40 false]⟩,
    ⟨0x2000000000000000000000000, false, [.shift 759 false]⟩, ⟨128, true, [.shiftExtra]⟩],
    [(0x300004000000000, 592), (0x8000000000, 39), (0x1000040000000000000, 576),
     (0x80000000000000, 711)]⟩,
  ⟨0, 570, [
    ⟨6, false, [.shift 592 false]⟩, ⟨0x800000000000000008, false, [.shift 39 false]⟩,
    ⟨112, true, [.shift 39 false]⟩, ⟨0x80000, true, [.shift 500 false]⟩,
    ⟨0x2000000000000000, true, [.shift 577 false]⟩,
    ⟨0x600000000000000000, false, [.shift 40 false]⟩,
    ⟨0x2000000000000000000000000, false, [.shift 759 false]⟩, ⟨128, true, [.shiftExtra]⟩],
    [(0x300004000000000, 592), (0x8000000000, 39), (0x1000040000000000000, 569),
     (0x80000000000000, 711)]⟩,
  ⟨0, 577, [
    ⟨6, false, [.shift 592 false]⟩, ⟨0x800000000000000008, false, [.shift 69 false]⟩,
    ⟨112, true, [.shift 69 false]⟩, ⟨0x2000000000000000, true, [.shift 577 false]⟩,
    ⟨0x4000000000000000, true, [.shift 598 false]⟩,
    ⟨0x600000000000000000, false, [.shift 70 false]⟩,
    ⟨0x2000000000000000000000000, false, [.shift 759 false]⟩, ⟨128, true, [.shiftExtra]⟩],
    [(0x300004000000000, 592), (0x8000000000, 69), (0x80000000000000, 631)]⟩,
  ⟨0, 578, [
    ⟨6, false, [.shift 592 false]⟩, ⟨0x800000000000000008, false, [.shift 69 false]⟩,
    ⟨112, true, [.shift 69 false]⟩, ⟨0x2000000000000000, true, [.shift 577 false]⟩,
    ⟨0x600000000000000000, false, [.shift 70 false]⟩,
    ⟨0x2000000000000000000000000, false, [.shift 759 false]⟩, ⟨128, true, [.shiftExtra]⟩],
    [(0x300004000000000, 592), (0x8000000000, 69), (0x80000000000000, 726)]⟩,
  ⟨0, 579, [
    ⟨0x2000000e0000000000000000e, false, [.reduce 152 3 29]⟩,
    ⟨0x2000000000080070, true, [.reduce 152 3 29]⟩, ⟨0x800, true, [.shift 581 false]⟩,
    ⟨128, true, [.shiftExtra]⟩],
    []⟩,
  ⟨0, 580, [
    ⟨0x2000000e0000000000000000e, false, [.reduce 152 5 33]⟩,
    ⟨0x2000000000080070, true, [.reduce 152 5 33]⟩, ⟨0x800, true, [.shift 582 false]⟩,
    ⟨128, true, [.shiftExtra]⟩],
    []⟩,
  ⟨0, 581, [
    ⟨0x2000000e0000000000000000e, false, [.reduce 152 4 29]⟩,
    ⟨0x2000000000080070, true, [.reduce 152 4 29]⟩, ⟨128, true, [.shiftExtra]⟩],
    []⟩,
  ⟨0, 582, [
    ⟨0x2000000e0000000000000000e, false, [.reduce 152 6 33]⟩,
    ⟨0x2000000000080070, true, [.reduce 152 6 33]⟩, ⟨128, true, [.shiftExtra]⟩],
    []⟩,
  ⟨0, 583, [
    ⟨0x80000, true, [.shift 386 false]⟩, ⟨0x80000000, true, [.shift 245 false]⟩,
    ⟨0x100000000, true, [.shift 710 false]⟩, ⟨128, true, [.shiftExtra]⟩],
    [(0x20000000000100000, 590), (0x200000, 762)]⟩,
  ⟨0, 584, [
    ⟨0x80000, true, [.shift 387 false]⟩, ⟨0x80000000, true, [.shift 245 false]⟩,
    ⟨0x100000000, true, [.shift 710 false]⟩, ⟨128, true, [.shiftExtra]⟩],
    [(0x20000000000100000, 585), (0x200000, 763)]⟩,
  ⟨0, 585, [
    ⟨0x80000, true, [.shift 396 false]⟩, ⟨0x80000000, true, [.shift 245 false]⟩,
    ⟨0x100000000, true, [.shift 710 false]⟩, ⟨128, true, [.shiftExtra]⟩],
    [(0x20000000000100000, 590), (0x200000, 766)]⟩,
  ⟨0, 583, [
    ⟨0x80000, true, [.shift 412 false]⟩, ⟨0x80000000, true, [.shift 245 false]⟩,
    ⟨0x100000000, true, [.shift 710 false]⟩, ⟨128, true, [.shiftExtra]⟩],
    [(0x20000000000100000, 590), (0x200000, 775)]⟩,
  ⟨0, 584, [
    ⟨0x80000, true, [.shift 413 false]⟩, ⟨0x80000000, true, [.shift 245 false]⟩,
    ⟨0x100000000, true, [.shift 710 false]⟩, ⟨128, true, [.shiftExtra]⟩],
    [(0x20000000000100000, 588), (0x200000, 776)]⟩,
  ⟨0, 585, [
    ⟨0x80000, true, [.shift 421 false]⟩, ⟨0x80000000, true, [.shift 245 false]⟩,
    ⟨0x100000000, true, [.shift 710 false]⟩, ⟨128, true, [.shiftExtra]⟩],
    [(0x20000000000100000, 590), (0x200000, 778)]⟩,
  ⟨0, 589, [
    ⟨0x800, true, [.reduce 164 2 0, .shift 251 true]⟩,
    ⟨0x4000000000880000, true, [.reduce 164 2 0]⟩, ⟨128, true, [.shiftExtra]⟩],
    [(0x40000000000000000, 589)]⟩,
  ⟨0, 590, [
    ⟨0x100080000, true, [.reduce 163 2 0]⟩,
    ⟨0x80000000, true, [.reduce 163 2 0, .shift 245 true]⟩, ⟨128, true, [.shiftExtra]⟩],
    [(0x20000000000100000, 590)]⟩,
  ⟨0, 591, [
    ⟨2, false, [.shift 338 false]⟩, ⟨32, true, [.shift 338 false]⟩,
    ⟨0x400, false, [.shift 612 false]⟩, ⟨128, true, [.shiftExtra]⟩],
    [(16, 339)]⟩,
  ⟨0, 592, [
    ⟨0x1000000004000000004000800, true, [.reduce 153 1 0]⟩, ⟨128, true, [.shiftExtra]⟩],
    []⟩,
  ⟨0, 593, [
    ⟨0x40000, true, [.shift 13 false]⟩, ⟨0x4000000, true, [.shift 224 false]⟩,
    ⟨128, true, [.shiftExtra]⟩],
    [(0x12000, 393)]⟩,
  ⟨64, 594, [
    ⟨0x80000, false, [.shift 398 false]⟩, ⟨0x100000, false, [.shift 722 false]⟩,
    ⟨0x20000000000000000, true, [.shift 722 false]⟩, ⟨128, false, [.shiftExtra]⟩],
    [(0x100000000000000000, 599)]⟩,
  ⟨64, 595, [
    ⟨0x80000, false, [.shift 399 false]⟩, ⟨0x100000, false, [.shift 723 false]⟩,
    ⟨0x20000000000000000, true, [.shift 723 false]⟩, ⟨128, false, [.shiftExtra]⟩],
    [(0x200000000000000000, 600)]⟩,
  ⟨0, 596, [
    ⟨0x800, true, [.shift 293 false]⟩, ⟨0x40000, true, [.shift 16 false]⟩,
    ⟨128, true, [.shiftExtra]⟩],
    [(0x2000, 649), (0x40000000000000000, 706)]⟩,
  ⟨0, 597, [
    ⟨0x1000000004000000004000800, true, [.reduce 155 3 0]⟩, ⟨128, true, [.shiftExtra]⟩],
    []⟩,
  ⟨0, 598, [
    ⟨0x1000000004000000004000800, true, [.reduce 155 2 0]⟩, ⟨128, true, [.shiftExtra]⟩],
    []⟩,
  ⟨64, 599, [
    ⟨0x80000, false, [.shift 402 false]⟩, ⟨0x100000, false, [.shift 722 false]⟩,
    ⟨0x20000000000000000, true, [.shift 722 false]⟩, ⟨128, false, [.shiftExtra]⟩],
    [(0x100000000000000000, 602)]⟩,
  ⟨64, 600, [
    ⟨0x80000, false, [.shift 403 false]⟩, ⟨0x100000, false, [.shift 723 false]⟩,
    ⟨0x20000000000000000, true, [.shift 723 false]⟩, ⟨128, false, [.shiftExtra]⟩],
    [(0x200000000000000000, 603)]⟩,
  ⟨0, 601, [
    ⟨0x1000000004000000004000800, true, [.reduce 155 4 0]⟩, ⟨128, true, [.shiftExtra]⟩],
    []⟩,
  ⟨64, 602, [
    ⟨0x80000, false, [.reduce 166 2 0]⟩, ⟨0x100000, false, [.reduce 166 2 0, .shift 722 true]⟩,
    ⟨0x20000000000000000, true, [.reduce 166 2 0, .shift 722 true]⟩, ⟨128, false, [.shiftExtra]⟩],
    [(0x100000000000000000, 602)]⟩,
  ⟨64, 603, [
    ⟨0x80000, false, [.reduce 167 2 0]⟩, ⟨0x100000, false, [.reduce 167 2 0, .shift 723 true]⟩,
    ⟨0x20000000000000000, true, [.reduce 167 2 0, .shift 723 true]⟩, ⟨128, false, [.shiftExtra]⟩],
    [(0x200000000000000000, 603)]⟩,
  ⟨0, 604, [
    ⟨0x1000000004000000004000800, true, [.reduce 154 6 34]⟩, ⟨128, true, [.shiftExtra]⟩],
    []⟩,
  ⟨0, 591, [
    ⟨2, false, [.shift 345 false]⟩, ⟨32, true, [.shift 345 false]⟩,
    ⟨0x400, false, [.shift 656 false]⟩, ⟨128, true, [.shiftExtra]⟩],
    [(16, 346)]⟩,
  ⟨0, 593, [
    ⟨0x40000, true, [.shift 16 false]⟩, ⟨0x4000000, true, [.shift 283 false]⟩,
    ⟨128, true, [.shiftExtra]⟩],
    [(0x12000, 418)]⟩,
  ⟨64, 594, [
    ⟨0x80000, false, [.shift 422 false]⟩, ⟨0x100000, false, [.shift 722 false]⟩,
    ⟨0x20000000000000000, true, [.shift 722 false]⟩, ⟨128, false, [.shiftExtra]⟩],
    [(0x100000000000000000, 609)]⟩,
  ⟨64, 595, [
    ⟨0x80000, false, [.shift 423 false]⟩, ⟨0x100000, false, [.shift 723 false]⟩,
    ⟨0x20000000000000000, true, [.shift 723 false]⟩, ⟨128, false, [.shiftExtra]⟩],
    [(0x200000000000000000, 610)]⟩,
  ⟨64, 599, [
    ⟨0x80000, false, [.shift 426 false]⟩, ⟨0x100000, false, [.shift 722 false]⟩,
    ⟨0x20000000000000000, true, [.shift 722 false]⟩, ⟨128, false, [.shiftExtra]⟩],
    [(0x100000000000000000, 602)]⟩,
  ⟨64, 600, [
    ⟨0x80000, false, [.shift 427 false]⟩, ⟨0x100000, false, [.shift 723 false]⟩,
    ⟨0x20000000000000000, true, [.shift 723 false]⟩, ⟨128, false, [.shiftExtra]⟩],
    [(0x200000000000000000, 603)]⟩,
  ⟨0, 611, [
    ⟨2, true, [.shift 707 false]⟩, ⟨0x400000, true, [.shift 614 false]⟩,
    ⟨128, true, [.shiftExtra]⟩],
    [(0x800, 354)]⟩]

end SyntaxKit.Harneet
