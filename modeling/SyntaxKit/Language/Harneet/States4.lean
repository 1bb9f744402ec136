import SyntaxKit.Language.Basic

/-!
# Parse states 204 to 271 of Harneet

Rows of the parse automaton.  Each gives the lexical state in which its next token is read, the
first state with the same core, what to do on each set of tokens (a set is a number whose bit `i`
stands for token `i`), and the state to enter after each set of nonterminals (bit `i` stands for the
`i`-th nonterminal).
-/

namespace SyntaxKit.Harneet

/-- Parse states 204 to 271. -/
def states4 : List StateRow := [
  ⟨0, 176, [
    ⟨2, false, [.shift 457 false]⟩, ⟨4, false, [.shift 459 false]⟩,
    ⟨0x800000000000000008, false, [.shift 448 false]⟩, ⟨112, true, [.shift 448 false]⟩,
    ⟨0x40000, true, [.shift 163 false]⟩, ⟨0x200000, false, [.shift 708 false]⟩,
    ⟨0x400000, true, [.shift 212 false]⟩, ⟨0x2000000000000000, true, [.shift 213 false]⟩,
    ⟨0x4000000000000000, true, [.shift 43 false]⟩,
    ⟨0x80000000000000000, false, [.shift 271 false]⟩,
    ⟨0x600000000000000000, false, [.shift 449 false]⟩,
    ⟨0x3000000000000000000, false, [.shift 272 false]⟩,
    ⟨0x4000000000000000000, true, [.shift 272 false]⟩,
    ⟨0x800000000000000000000000, false, [.shift 289 false]⟩, ⟨128, true, [.shiftExtra]⟩],
    [(0x400000000, 519), (0xc2bdf7800000000, 459), (0x8000000000, 448)]⟩,
  ⟨0, 178, [
    ⟨2, false, [.shift 457 false]⟩, ⟨4, false, [.shift 459 false]⟩,
    ⟨0x800000000000000008, false, [.shift 448 false]⟩, ⟨112, true, [.shift 448 false]⟩,
    ⟨0x40000, true, [.shift 163 false]⟩, ⟨0x200000, false, [.shift 708 false]⟩,
    ⟨0x400000, true, [.shift 212 false]⟩, ⟨0x800000, true, [.shift 51 false]⟩,
    ⟨0x2000000000000000, true, [.shift 213 false]⟩,
    ⟨0x80000000000000000, false, [.shift 271 false]⟩,
    ⟨0x600000000000000000, false, [.shift 449 false]⟩,
    ⟨0x3000000000000000000, false, [.shift 272 false]⟩,
    ⟨0x4000000000000000000, true, [.shift 272 false]⟩,
    ⟨0x800000000000000000000000, false, [.shift 289 false]⟩, ⟨128, true, [.shiftExtra]⟩],
    [(0x400000000, 521), (0xc2bdf7800000000, 459), (0x8000000000, 448)]⟩,
  ⟨0, 180, [
    ⟨2, false, [.shift 457 false]⟩, ⟨4, false, [.shift 459 false]⟩,
    ⟨0x800000000000000008, false, [.shift 448 false]⟩, ⟨112, true, [.shift 448 false]⟩,
    ⟨0x40000, true, [.shift 163 false]⟩, ⟨0x200000, false, [.shift 708 false]⟩,
    ⟨0x400000, true, [.shift 212 false]⟩, ⟨0x800000, true, [.shift 55 false]⟩,
    ⟨0x2000000000000000, true, [.shift 213 false]⟩,
    ⟨0x80000000000000000, false, [.shift 271 false]⟩,
    ⟨0x600000000000000000, false, [.shift 449 false]⟩,
    ⟨0x3000000000000000000, false, [.shift 272 false]⟩,
    ⟨0x4000000000000000000, true, [.shift 272 false]⟩,
    ⟨0x800000000000000000000000, false, [.shift 289 false]⟩, ⟨128, true, [.shiftExtra]⟩],
    [(0x400000000, 507), (0xc2bdf7800000000, 459), (0x8000000000, 448)]⟩,
  ⟨0, 181, [
    ⟨2, false, [.shift 457 false]⟩, ⟨4, false, [.shift 459 false]⟩,
    ⟨0x800000000000000008, false, [.shift 448 false]⟩, ⟨112, true, [.shift 448 false]⟩,
    ⟨0x40000, true, [.shift 163 false]⟩, ⟨0x200000, false, [.shift 708 false]⟩,
    ⟨0x400000, true, [.shift 212 false]⟩, ⟨0x2000000000000000, true, [.shift 213 false]⟩,
    ⟨0x4000000000000000, true, [.shift 56 false]⟩,
    ⟨0x80000000000000000, false, [.shift 271 false]⟩,
    ⟨0x600000000000000000, false, [.shift 449 false]⟩,
    ⟨0x3000000000000000000, false, [.shift 272 false]⟩,
    ⟨0x4000000000000000000, true, [.shift 272 false]⟩,
    ⟨0x800000000000000000000000, false, [.shift 289 false]⟩, ⟨128, true, [.shiftExtra]⟩],
    [(0x400000000, 507), (0xc2bdf7800000000, 459), (0x8000000000, 448)]⟩,
  ⟨0, 182, [
    ⟨2, false, [.shift 457 false]⟩, ⟨4, false, [.shift 459 false]⟩,
    ⟨0x800000000000000008, false, [.shift 448 false]⟩, ⟨112, true, [.shift 448 false]⟩,
    ⟨0x40000, true, [.shift 163 false]⟩, ⟨0x80000, true, [.shift 60 false]⟩,
    ⟨0x200000, false, [.shift 708 false]⟩, ⟨0x400000, true, [.shift 212 false]⟩,
    ⟨0x2000000000000000, true, [.shift 213 false]⟩,
    ⟨0x80000000000000000, false, [.shift 271 false]⟩,
    ⟨0x600000000000000000, false, [.shift 449 false]⟩,
    ⟨0x3000000000000000000, false, [.shift 272 false]⟩,
    ⟨0x4000000000000000000, true, [.shift 272 false]⟩,
    ⟨0x800000000000000000000000, false, [.shift 289 false]⟩, ⟨128, true, [.shiftExtra]⟩],
    [(0x400000000, 507), (0xc2bdf7800000000, 459), (0x8000000000, 448)]⟩,
  ⟨0, 184, [
    ⟨2, false, [.shift 457 false]⟩, ⟨4, false, [.shift 459 false]⟩,
    ⟨0x800000000000000008, false, [.shift 448 false]⟩, ⟨112, true, [.shift 448 false]⟩,
    ⟨0x40000, true, [.shift 163 false]⟩, ⟨0x200000, false, [.shift 708 false]⟩,
    ⟨0x400000, true, [.shift 212 false]⟩, ⟨0x800000, true, [.shift 62 false]⟩,
    ⟨0x2000000000000000, true, [.shift 213 false]⟩,
    ⟨0x80000000000000000, false, [.shift 271 false]⟩,
    ⟨0x600000000000000000, false, [.shift 449 false]⟩,
    ⟨0x3000000000000000000, false, [.shift 272 false]⟩,
    ⟨0x4000000000000000000, true, [.shift 272 false]⟩,
    ⟨0x800000000000000000000000, false, [.shift 289 false]⟩, ⟨128, true, [.shiftExtra]⟩],
    [(0x400000000, 507), (0xc2bdf7800000000, 459), (0x8000000000, 448)]⟩,
  ⟨0, 185, [
    ⟨2, false, [.shift 457 false]⟩, ⟨4, false, [.shift 459 false]⟩,
    ⟨0x800000000000000008, false, [.shift 448 false]⟩, ⟨112, true, [.shift 448 false]⟩,
    ⟨0x40000, true, [.shift 163 false]⟩, ⟨0x200000, false, [.shift 708 false]⟩,
    ⟨0x400000, true, [.shift 212 false]⟩, ⟨0x2000000000000000, true, [.shift 213 false]⟩,
    ⟨0x4000000000000000, true, [.shift 63 false]⟩,
    ⟨0x80000000000000000, false, [.shift 271 false]⟩,
    ⟨0x600000000000000000, false, [.shift 449 false]⟩,
    ⟨0x3000000000000000000, false, [.shift 272 false]⟩,
    ⟨0x4000000000000000000, true, [.shift 272 false]⟩,
    ⟨0x800000000000000000000000, false, [.shift 289 false]⟩, ⟨128, true, [.shiftExtra]⟩],
    [(0x400000000, 507), (0xc2bdf7800000000, 459), (0x8000000000, 448)]⟩,
  ⟨0, 187, [
    ⟨2, false, [.shift 457 false]⟩, ⟨4, false, [.shift 459 false]⟩,
    ⟨0x800000000000000008, false, [.shift 448 false]⟩, ⟨112, true, [.shift 448 false]⟩,
    ⟨0x40000, true, [.shift 163 false]⟩, ⟨0x80000, true, [.shift 66 false]⟩,
    ⟨0x200000, false, [.shift 708 false]⟩, ⟨0x400000, true, [.shift 212 false]⟩,
    ⟨0x2000000000000000, true, [.shift 213 false]⟩,
    ⟨0x80000000000000000, false, [.shift 271 false]⟩,
    ⟨0x600000000000000000, false, [.shift 449 false]⟩,
    ⟨0x3000000000000000000, false, [.shift 272 false]⟩,
    ⟨0x4000000000000000000, true, [.shift 272 false]⟩,
    ⟨0x800000000000000000000000, false, [.shift 289 false]⟩, ⟨128, true, [.shiftExtra]⟩],
    [(0x400000000, 507), (0xc2bdf7800000000, 459), (0x8000000000, 448)]⟩,
  ⟨0, 174, [
    ⟨2, false, [.shift 457 false]⟩, ⟨4, false, [.shift 459 false]⟩,
    ⟨0x800000000000000008, false, [.shift 448 false]⟩, ⟨112, true, [.shift 448 false]⟩,
    ⟨0x40000, true, [.shift 163 false]⟩, ⟨0x200000, false, [.shift 708 false]⟩,
    ⟨0x400000, true, [.shift 212 false]⟩, ⟨0x800000, true, [.shift 460 false]⟩,
    ⟨0x2000000000000000, true, [.shift 213 false]⟩,
    ⟨0x80000000000000000, false, [.shift 271 false]⟩,
    ⟨0x600000000000000000, false, [.shift 449 false]⟩,
    ⟨0x3000000000000000000, false, [.shift 272 false]⟩,
    ⟨0x4000000000000000000, true, [.shift 272 false]⟩,
    ⟨0x800000000000000000000000, false, [.shift 289 false]⟩, ⟨128, true, [.shiftExtra]⟩],
    [(0x400000000, 522), (0xc2bdf7800000000, 459), (0x8000000000, 448)]⟩,
  ⟨0, 176, [
    ⟨2, false, [.shift 457 false]⟩, ⟨4, false, [.shift 459 false]⟩,
    ⟨0x800000000000000008, false, [.shift 448 false]⟩, ⟨112, true, [.shift 448 false]⟩,
    ⟨0x40000, true, [.shift 163 false]⟩, ⟨0x200000, false, [.shift 708 false]⟩,
    ⟨0x400000, true, [.shift 212 false]⟩, ⟨0x2000000000000000, true, [.shift 213 false]⟩,
    ⟨0x4000000000000000, true, [.shift 461 false]⟩,
    ⟨0x80000000000000000, false, [.shift 271 false]⟩,
    ⟨0x600000000000000000, false, [.shift 449 false]⟩,
    ⟨0x3000000000000000000, false, [.shift 272 false]⟩,
    ⟨0x4000000000000000000, true, [.shift 272 false]⟩,
    ⟨0x800000000000000000000000, false, [.shift 289 false]⟩, ⟨128, true, [.shiftExtra]⟩],
    [(0x400000000, 523), (0xc2bdf7800000000, 459), (0x8000000000, 448)]⟩,
  ⟨0, 178, [
    ⟨2, false, [.shift 457 false]⟩, ⟨4, false, [.shift 459 false]⟩,
    ⟨0x800000000000000008, false, [.shift 448 false]⟩, ⟨112, true, [.shift 448 false]⟩,
    ⟨0x40000, true, [.shift 163 false]⟩, ⟨0x200000, false, [.shift 708 false]⟩,
    ⟨0x400000, true, [.shift 212 false]⟩, ⟨0x800000, true, [.shift 474 false]⟩,
    ⟨0x2000000000000000, true, [.shift 213 false]⟩,
    ⟨0x80000000000000000, false, [.shift 271 false]⟩,
    ⟨0x600000000000000000, false, [.shift 449 false]⟩,
    ⟨0x3000000000000000000, false, [.shift 272 false]⟩,
    ⟨0x4000000000000000000, true, [.shift 272 false]⟩,
    ⟨0x800000000000000000000000, false, [.shift 289 false]⟩, ⟨128, true, [.shiftExtra]⟩],
    [(0x400000000, 525), (0xc2bdf7800000000, 459), (0x8000000000, 448)]⟩,
  ⟨0, 180, [
    ⟨2, false, [.shift 457 false]⟩, ⟨4, false, [.shift 459 false]⟩,
    ⟨0x800000000000000008, false, [.shift 448 false]⟩, ⟨112, true, [.shift 448 false]⟩,
    ⟨0x40000, true, [.shift 163 false]⟩, ⟨0x200000, false, [.shift 708 false]⟩,
    ⟨0x400000, true, [.shift 212 false]⟩, ⟨0x800000, true, [.shift 490 false]⟩,
    ⟨0x2000000000000000, true, [.shift 213 false]⟩,
    ⟨0x80000000000000000, false, [.shift 271 false]⟩,
    ⟨0x600000000000000000, false, [.shift 449 false]⟩,
    ⟨0x3000000000000000000, false, [.shift 272 false]⟩,
    ⟨0x4000000000000000000, true, [.shift 272 false]⟩,
    ⟨0x800000000000000000000000, false, [.shift 289 false]⟩, ⟨128, true, [.shiftExtra]⟩],
    [(0x400000000, 507), (0xc2bdf7800000000, 459), (0x8000000000, 448)]⟩,
  ⟨0, 181, [
    ⟨2, false, [.shift 457 false]⟩, ⟨4, false, [.shift 459 false]⟩,
    ⟨0x800000000000000008, false, [.shift 448 false]⟩, ⟨112, true, [.shift 448 false]⟩,
    ⟨0x40000, true, [.shift 163 false]⟩, ⟨0x200000, false, [.shift 708 false]⟩,
    ⟨0x400000, true, [.shift 212 false]⟩, ⟨0x2000000000000000, true, [.shift 213 false]⟩,
    ⟨0x4000000000000000, true, [.shift 491 false]⟩,
    ⟨0x80000000000000000, false, [.shift 271 false]⟩,
    ⟨0x600000000000000000, false, [.shift 449 false]⟩,
    ⟨0x3000000000000000000, false, [.shift 272 false]⟩,
    ⟨0x4000000000000000000, true, [.shift 272 false]⟩,
    ⟨0x800000000000000000000000, false, [.shift 289 false]⟩, ⟨128, true, [.shiftExtra]⟩],
    [(0x400000000, 507), (0xc2bdf7800000000, 459), (0x8000000000, 448)]⟩,
  ⟨0, 182, [
    ⟨2, false, [.shift 457 false]⟩, ⟨4, false, [.shift 459 false]⟩,
    ⟨0x800000000000000008, false, [.shift 448 false]⟩, ⟨112, true, [.shift 448 false]⟩,
    ⟨0x40000, true, [.shift 163 false]⟩, ⟨0x80000, true, [.shift 496 false]⟩,
    ⟨0x200000, false, [.shift 708 false]⟩, ⟨0x400000, true, [.shift 212 false]⟩,
    ⟨0x2000000000000000, true, [.shift 213 false]⟩,
    ⟨0x80000000000000000, false, [.shift 271 false]⟩,
    ⟨0x600000000000000000, false, [.shift 449 false]⟩,
    ⟨0x3000000000000000000, false, [.shift 272 false]⟩,
    ⟨0x4000000000000000000, true, [.shift 272 false]⟩,
    ⟨0x800000000000000000000000, false, [.shift 289 false]⟩, ⟨128, true, [.shiftExtra]⟩],
    [(0x400000000, 507), (0xc2bdf7800000000, 459), (0x8000000000, 448)]⟩,
  ⟨0, 184, [
    ⟨2, false, [.shift 457 false]⟩, ⟨4, false, [.shift 459 false]⟩,
    ⟨0x800000000000000008, false, [.shift 448 false]⟩, ⟨112, true, [.shift 448 false]⟩,
    ⟨0x40000, true, [.shift 163 false]⟩, ⟨0x200000, false, [.shift 708 false]⟩,
    ⟨0x400000, true, [.shift 212 false]⟩, ⟨0x800000, true, [.shift 498 false]⟩,
    ⟨0x2000000000000000, true, [.shift 213 false]⟩,
    ⟨0x80000000000000000, false, [.shift 271 false]⟩,
    ⟨0x600000000000000000, false, [.shift 449 false]⟩,
    ⟨0x3000000000000000000, false, [.shift 272 false]⟩,
    ⟨0x4000000000000000000, true, [.shift 272 false]⟩,
    ⟨0x800000000000000000000000, false, [.shift 289 false]⟩, ⟨128, true, [.shiftExtra]⟩],
    [(0x400000000, 507), (0xc2bdf7800000000, 459), (0x8000000000, 448)]⟩,
  ⟨0, 185, [
    ⟨2, false, [.shift 457 false]⟩, ⟨4, false, [.shift 459 false]⟩,
    ⟨0x800000000000000008, false, [.shift 448 false]⟩, ⟨112, true, [.shift 448 false]⟩,
    ⟨0x40000, true, [.shift 163 false]⟩, ⟨0x200000, false, [.shift 708 false]⟩,
    ⟨0x400000, true, [.shift 212 false]⟩, ⟨0x2000000000000000, true, [.shift 213 false]⟩,
    ⟨0x4000000000000000, true, [.shift 499 false]⟩,
    ⟨0x80000000000000000, false, [.shift 271 false]⟩,
    ⟨0x600000000000000000, false, [.shift 449 false]⟩,
    ⟨0x3000000000000000000, false, [.shift 272 false]⟩,
    ⟨0x4000000000000000000, true, [.shift 272 false]⟩,
    ⟨0x800000000000000000000000, false, [.shift 289 false]⟩, ⟨128, true, [.shiftExtra]⟩],
    [(0x400000000, 507), (0xc2bdf7800000000, 459), (0x8000000000, 448)]⟩,
  ⟨0, 187, [
    ⟨2, false, [.shift 457 false]⟩, ⟨4, false, [.shift 459 false]⟩,
    ⟨0x800000000000000008, false, [.shift 448 false]⟩, ⟨112, true, [.shift 448 false]⟩,
    ⟨0x40000, true, [.shift 163 false]⟩, ⟨0x80000, true, [.shift 502 false]⟩,
    ⟨0x200000, false, [.shift 708 false]⟩, ⟨0x400000, true, [.shift 212 false]⟩,
    ⟨0x2000000000000000, true, [.shift 213 false]⟩,
    ⟨0x80000000000000000, false, [.shift 271 false]⟩,
    ⟨0x600000000000000000, false, [.shift 449 false]⟩,
    ⟨0x3000000000000000000, false, [.shift 272 false]⟩,
    ⟨0x4000000000000000000, true, [.shift 272 false]⟩,
    ⟨0x800000000000000000000000, false, [.shift 289 false]⟩, ⟨128, true, [.shiftExtra]⟩],
    [(0x400000000, 507), (0xc2bdf7800000000, 459), (0x8000000000, 448)]⟩,
  ⟨0, 177, [
    ⟨2, false, [.shift 308 false]⟩, ⟨4, false, [.shift 41 false]⟩,
    ⟨0x800000000000000008, false, [.shift 39 false]⟩, ⟨112, true, [.shift 39 false]⟩,
    ⟨0x40000, true, [.shift 5 false]⟩, ⟨0x200000, false, [.shift 739 false]⟩,
    ⟨0x400000, true, [.shift 202 false]⟩, ⟨0x2000000000000000, true, [.shift 204 false]⟩,
    ⟨0x80000000000000000, false, [.shift 294 false]⟩,
    ⟨0x600000000000000000, false, [.shift 40 false]⟩,
    ⟨0x3000000000000000000, false, [.shift 295 false]⟩,
    ⟨0x4000000000000000000, true, [.shift 295 false]⟩,
    ⟨0x800000000000000000000000, false, [.shift 292 false]⟩, ⟨128, true, [.shiftExtra]⟩],
    [(0x2000, 46), (0x400000000, 322), (0xc2bdf7800000000, 41), (0x8000000000, 39)]⟩,
  ⟨0, 177, [
    ⟨2, false, [.shift 551 false]⟩, ⟨4, false, [.shift 459 false]⟩,
    ⟨0x800000000000000008, false, [.shift 448 false]⟩, ⟨112, true, [.shift 448 false]⟩,
    ⟨0x40000, true, [.shift 6 false]⟩, ⟨0x200000, false, [.shift 708 false]⟩,
    ⟨0x400000, true, [.shift 212 false]⟩, ⟨0x2000000000000000, true, [.shift 213 false]⟩,
    ⟨0x80000000000000000, false, [.shift 306 false]⟩,
    ⟨0x600000000000000000, false, [.shift 449 false]⟩,
    ⟨0x3000000000000000000, false, [.shift 307 false]⟩,
    ⟨0x4000000000000000000, true, [.shift 307 false]⟩,
    ⟨0x800000000000000000000000, false, [.shift 291 false]⟩, ⟨128, true, [.shiftExtra]⟩],
    [(0x2000, 466), (0x400000000, 540), (0xc2bdf7800000000, 459), (0x8000000000, 448)]⟩,
  ⟨0, 223, [
    ⟨2, false, [.shift 111 false]⟩, ⟨4, false, [.shift 120 false]⟩,
    ⟨0x800000000000000008, false, [.shift 69 false]⟩, ⟨112, true, [.shift 69 false]⟩,
    ⟨0x40000, true, [.shift 167 false]⟩, ⟨0x200000, false, [.shift 734 false]⟩,
    ⟨0x400000, true, [.shift 174 false]⟩, ⟨0x2000000000000000, true, [.shift 176 false]⟩,
    ⟨0x80000000000000000, false, [.shift 226 false]⟩,
    ⟨0x600000000000000000, false, [.shift 70 false]⟩,
    ⟨0x3000000000000000000, false, [.shift 227 false]⟩,
    ⟨0x4000000000000000000, true, [.shift 227 false]⟩,
    ⟨0x800000000000000000000000, false, [.shift 228 false]⟩, ⟨128, true, [.shiftExtra]⟩],
    [(0x400000000, 90), (0xc2bdf7800000000, 120), (0x8000000000, 69)]⟩,
  ⟨0, 224, [
    ⟨2, false, [.shift 551 false]⟩, ⟨4, false, [.shift 459 false]⟩,
    ⟨0x800000000000000008, false, [.shift 448 false]⟩, ⟨112, true, [.shift 448 false]⟩,
    ⟨0x40000, true, [.shift 163 false]⟩, ⟨0x200000, false, [.shift 708 false]⟩,
    ⟨0x400000, true, [.shift 212 false]⟩, ⟨0x2000000000000000, true, [.shift 213 false]⟩,
    ⟨0x80000000000000000, false, [.shift 306 false]⟩,
    ⟨0x600000000000000000, false, [.shift 449 false]⟩,
    ⟨0x3000000000000000000, false, [.shift 307 false]⟩,
    ⟨0x4000000000000000000, true, [.shift 307 false]⟩,
    ⟨0x800000000000000000000000, false, [.shift 291 false]⟩, ⟨128, true, [.shiftExtra]⟩],
    [(0x400000000, 527), (0xc2bdf7800000000, 459), (0x8000000000, 448)]⟩,
  ⟨0, 225, [
    ⟨2, false, [.shift 551 false]⟩, ⟨4, false, [.shift 459 false]⟩,
    ⟨0x800000000000000008, false, [.shift 448 false]⟩, ⟨112, true, [.shift 448 false]⟩,
    ⟨0x40000, true, [.shift 159 false]⟩, ⟨0x200000, false, [.shift 708 false]⟩,
    ⟨0x400000, true, [.shift 212 false]⟩, ⟨0x2000000000000000, true, [.shift 213 false]⟩,
    ⟨0x80000000000000000, false, [.shift 306 false]⟩,
    ⟨0x600000000000000000, false, [.shift 449 false]⟩,
    ⟨0x3000000000000000000, false, [.shift 307 false]⟩,
    ⟨0x4000000000000000000, true, [.shift 307 false]⟩,
    ⟨0x800000000000000000000000, false, [.shift 291 false]⟩, ⟨128, true, [.shiftExtra]⟩],
    [(0x400000000, 555), (0xc2bdf7800000000, 459), (0x8000000000, 448)]⟩,
  ⟨0, 226, [
    ⟨2, false, [.shift 111 false]⟩, ⟨4, false, [.shift 120 false]⟩,
    ⟨0x800000000000000008, false, [.shift 69 false]⟩, ⟨112, true, [.shift 69 false]⟩,
    ⟨0x40000, true, [.shift 167 false]⟩, ⟨0x200000, false, [.shift 734 false]⟩,
    ⟨0x400000, true, [.shift 174 false]⟩, ⟨0x2000000000000000, true, [.shift 176 false]⟩,
    ⟨0x80000000000000000, false, [.shift 226 false]⟩,
    ⟨0x600000000000000000, false, [.shift 70 false]⟩,
    ⟨0x3000000000000000000, false, [.shift 227 false]⟩,
    ⟨0x4000000000000000000, true, [.shift 227 false]⟩,
    ⟨0x800000000000000000000000, false, [.shift 228 false]⟩, ⟨128, true, [.shiftExtra]⟩],
    [(0x400000000, 91), (0xc2bdf7800000000, 120), (0x8000000000, 69)]⟩,
  ⟨0, 227, [
    ⟨2, false, [.shift 111 false]⟩, ⟨4, false, [.shift 120 false]⟩,
    ⟨0x800000000000000008, false, [.shift 69 false]⟩, ⟨112, true, [.shift 69 false]⟩,
    ⟨0x40000, true, [.shift 167 false]⟩, ⟨0x200000, false, [.shift 734 false]⟩,
    ⟨0x400000, true, [.shift 174 false]⟩, ⟨0x2000000000000000, true, [.shift 176 false]⟩,
    ⟨0x80000000000000000, false, [.shift 226 false]⟩,
    ⟨0x600000000000000000, false, [.shift 70 false]⟩,
    ⟨0x3000000000000000000, false, [.shift 227 false]⟩,
    ⟨0x4000000000000000000, true, [.shift 227 false]⟩,
    ⟨0x800000000000000000000000, false, [.shift 228 false]⟩, ⟨128, true, [.shiftExtra]⟩],
    [(0x400000000, 92), (0xc2bdf7800000000, 120), (0x8000000000, 69)]⟩,
  ⟨0, 228, [
    ⟨2, false, [.shift 551 false]⟩, ⟨4, false, [.shift 459 false]⟩,
    ⟨0x800000000000000008, false, [.shift 448 false]⟩, ⟨112, true, [.shift 448 false]⟩,
    ⟨0x40000, true, [.shift 154 false]⟩, ⟨0x200000, false, [.shift 708 false]⟩,
    ⟨0x400000, true, [.shift 212 false]⟩, ⟨0x2000000000000000, true, [.shift 213 false]⟩,
    ⟨0x80000000000000000, false, [.shift 306 false]⟩,
    ⟨0x600000000000000000, false, [.shift 449 false]⟩,
    ⟨0x3000000000000000000, false, [.shift 307 false]⟩,
    ⟨0x4000000000000000000, true, [.shift 307 false]⟩,
    ⟨0x800000000000000000000000, false, [.shift 291 false]⟩, ⟨128, true, [.shiftExtra]⟩],
    [(0x400000000, 556), (0xc2bdf7800000000, 459), (0x8000000000, 448)]⟩,
  ⟨0, 229, [
    ⟨2, false, [.shift 111 false]⟩, ⟨4, false, [.shift 120 false]⟩,
    ⟨0x800000000000000008, false, [.shift 69 false]⟩, ⟨112, true, [.shift 69 false]⟩,
    ⟨0x40000, true, [.shift 167 false]⟩, ⟨0x200000, false, [.shift 734 false]⟩,
    ⟨0x400000, true, [.shift 174 false]⟩, ⟨0x2000000000000000, true, [.shift 176 false]⟩,
    ⟨0x80000000000000000, false, [.shift 226 false]⟩,
    ⟨0x600000000000000000, false, [.shift 70 false]⟩,
    ⟨0x3000000000000000000, false, [.shift 227 false]⟩,
    ⟨0x4000000000000000000, true, [.shift 227 false]⟩,
    ⟨0x800000000000000000000000, false, [.shift 228 false]⟩, ⟨128, true, [.shiftExtra]⟩],
    [(0x400000000, 93), (0xc2bdf7800000000, 120), (0x8000000000, 69)]⟩,
  ⟨0, 230, [
    ⟨2, false, [.shift 457 false]⟩, ⟨4, false, [.shift 459 false]⟩,
    ⟨0x800000000000000008, false, [.shift 448 false]⟩, ⟨112, true, [.shift 448 false]⟩,
    ⟨0x40000, true, [.shift 163 false]⟩, ⟨0x200000, false, [.shift 708 false]⟩,
    ⟨0x400000, true, [.shift 212 false]⟩, ⟨0x2000000000000000, true, [.shift 213 false]⟩,
    ⟨0x80000000000000000, false, [.shift 271 false]⟩,
    ⟨0x600000000000000000, false, [.shift 449 false]⟩,
    ⟨0x3000000000000000000, false, [.shift 272 false]⟩,
    ⟨0x4000000000000000000, true, [.shift 272 false]⟩,
    ⟨0x800000000000000000000000, false, [.shift 289 false]⟩, ⟨128, true, [.shiftExtra]⟩],
    [(0x400000000, 558), (0xc2bdf7800000000, 459), (0x8000000000, 448)]⟩,
  ⟨0, 231, [
    ⟨2, false, [.shift 111 false]⟩, ⟨4, false, [.shift 120 false]⟩,
    ⟨0x800000000000000008, false, [.shift 69 false]⟩, ⟨112, true, [.shift 69 false]⟩,
    ⟨0x40000, true, [.shift 167 false]⟩, ⟨0x200000, false, [.shift 734 false]⟩,
    ⟨0x400000, true, [.shift 174 false]⟩, ⟨0x2000000000000000, true, [.shift 176 false]⟩,
    ⟨0x80000000000000000, false, [.shift 226 false]⟩,
    ⟨0x600000000000000000, false, [.shift 70 false]⟩,
    ⟨0x3000000000000000000, false, [.shift 227 false]⟩,
    ⟨0x4000000000000000000, true, [.shift 227 false]⟩,
    ⟨0x800000000000000000000000, false, [.shift 228 false]⟩, ⟨128, true, [.shiftExtra]⟩],
    [(0x400000000, 95), (0xc2bdf7800000000, 120), (0x8000000000, 69)]⟩,
  ⟨0, 232, [
    ⟨2, false, [.shift 111 false]⟩, ⟨4, false, [.shift 120 false]⟩,
    ⟨0x800000000000000008, false, [.shift 69 false]⟩, ⟨112, true, [.shift 69 false]⟩,
    ⟨0x40000, true, [.shift 167 false]⟩, ⟨0x200000, false, [.shift 734 false]⟩,
    ⟨0x400000, true, [.shift 174 false]⟩, ⟨0x2000000000000000, true, [.shift 176 false]⟩,
    ⟨0x80000000000000000, false, [.shift 226 false]⟩,
    ⟨0x600000000000000000, false, [.shift 70 false]⟩,
    ⟨0x3000000000000000000, false, [.shift 227 false]⟩,
    ⟨0x4000000000000000000, true, [.shift 227 false]⟩,
    ⟨0x800000000000000000000000, false, [.shift 228 false]⟩, ⟨128, true, [.shiftExtra]⟩],
    [(0x400000000, 96), (0xc2bdf7800000000, 120), (0x8000000000, 69)]⟩,
  ⟨0, 233, [
    ⟨2, false, [.shift 111 false]⟩, ⟨4, false, [.shift 120 false]⟩,
    ⟨0x800000000000000008, false, [.shift 69 false]⟩, ⟨112, true, [.shift 69 false]⟩,
    ⟨0x40000, true, [.shift 167 false]⟩, ⟨0x200000, false, [.shift 734 false]⟩,
    ⟨0x400000, true, [.shift 174 false]⟩, ⟨0x2000000000000000, true, [.shift 176 false]⟩,
    ⟨0x80000000000000000, false, [.shift 226 false]⟩,
    ⟨0x600000000000000000, false, [.shift 70 false]⟩,
    ⟨0x3000000000000000000, false, [.shift 227 false]⟩,
    ⟨0x4000000000000000000, true, [.shift 227 false]⟩,
    ⟨0x800000000000000000000000, false, [.shift 228 false]⟩, ⟨128, true, [.shiftExtra]⟩],
    [(0x400000000, 97), (0xc2bdf7800000000, 120), (0x8000000000, 69)]⟩,
  ⟨0, 234, [
    ⟨2, false, [.shift 111 false]⟩, ⟨4, false, [.shift 120 false]⟩,
    ⟨0x800000000000000008, false, [.shift 69 false]⟩, ⟨112, true, [.shift 69 false]⟩,
    ⟨0x40000, true, [.shift 167 false]⟩, ⟨0x200000, false, [.shift 734 false]⟩,
    ⟨0x400000, true, [.shift 174 false]⟩, ⟨0x2000000000000000, true, [.shift 176 false]⟩,
    ⟨0x80000000000000000, false, [.shift 226 false]⟩,
    ⟨0x600000000000000000, false, [.shift 70 false]⟩,
    ⟨0x3000000000000000000, false, [.shift 227 false]⟩,
    ⟨0x4000000000000000000, true, [.shift 227 false]⟩,
    ⟨0x800000000000000000000000, false, [.shift 228 false]⟩, ⟨128, true, [.shiftExtra]⟩],
    [(0x400000000, 98), (0xc2bdf7800000000, 120), (0x8000000000, 69)]⟩,
  ⟨0, 235, [
    ⟨2, false, [.shift 111 false]⟩, ⟨4, false, [.shift 120 false]⟩,
    ⟨0x800000000000000008, false, [.shift 69 false]⟩, ⟨112, true, [.shift 69 false]⟩,
    ⟨0x40000, true, [.shift 167 false]⟩, ⟨0x200000, false, [.shift 734 false]⟩,
    ⟨0x400000, true, [.shift 174 false]⟩, ⟨0x2000000000000000, true, [.shift 176 false]⟩,
    ⟨0x80000000000000000, false, [.shift 226 false]⟩,
    ⟨0x600000000000000000, false, [.shift 70 false]⟩,
    ⟨0x3000000000000000000, false, [.shift 227 false]⟩,
    ⟨0x4000000000000000000, true, [.shift 227 false]⟩,
    ⟨0x800000000000000000000000, false, [.shift 228 false]⟩, ⟨128, true, [.shiftExtra]⟩],
    [(0x400000000, 99), (0xc2bdf7800000000, 120), (0x8000000000, 69)]⟩,
  ⟨0, 236, [
    ⟨2, false, [.shift 111 false]⟩, ⟨4, false, [.shift 120 false]⟩,
    ⟨0x800000000000000008, false, [.shift 69 false]⟩, ⟨112, true, [.shift 69 false]⟩,
    ⟨0x40000, true, [.shift 167 false]⟩, ⟨0x200000, false, [.shift 734 false]⟩,
    ⟨0x400000, true, [.shift 174 false]⟩, ⟨0x2000000000000000, true, [.shift 176 false]⟩,
    ⟨0x80000000000000000, false, [.shift 226 false]⟩,
    ⟨0x600000000000000000, false, [.shift 70 false]⟩,
    ⟨0x3000000000000000000, false, [.shift 227 false]⟩,
    ⟨0x4000000000000000000, true, [.shift 227 false]⟩,
    ⟨0x800000000000000000000000, false, [.shift 228 false]⟩, ⟨128, true, [.shiftExtra]⟩],
    [(0x400000000, 100), (0xc2bdf7800000000, 120), (0x8000000000, 69)]⟩,
  ⟨0, 237, [
    ⟨2, false, [.shift 111 false]⟩, ⟨4, false, [.shift 120 false]⟩,
    ⟨0x800000000000000008, false, [.shift 69 false]⟩, ⟨112, true, [.shift 69 false]⟩,
    ⟨0x40000, true, [.shift 167 false]⟩, ⟨0x200000, false, [.shift 734 false]⟩,
    ⟨0x400000, true, [.shift 174 false]⟩, ⟨0x2000000000000000, true, [.shift 176 false]⟩,
    ⟨0x80000000000000000, false, [.shift 226 false]⟩,
    ⟨0x600000000000000000, false, [.shift 70 false]⟩,
    ⟨0x3000000000000000000, false, [.shift 227 false]⟩,
    ⟨0x4000000000000000000, true, [.shift 227 false]⟩,
    ⟨0x800000000000000000000000, false, [.shift 228 false]⟩, ⟨128, true, [.shiftExtra]⟩],
    [(0x400000000, 101), (0xc2bdf7800000000, 120), (0x8000000000, 69)]⟩,
  ⟨0, 238, [
    ⟨2, false, [.shift 111 false]⟩, ⟨4, false, [.shift 120 false]⟩,
    ⟨0x800000000000000008, false, [.shift 69 false]⟩, ⟨112, true, [.shift 69 false]⟩,
    ⟨0x40000, true, [.shift 167 false]⟩, ⟨0x200000, false, [.shift 734 false]⟩,
    ⟨0x400000, true, [.shift 174 false]⟩, ⟨0x2000000000000000, true, [.shift 176 false]⟩,
    ⟨0x80000000000000000, false, [.shift 226 false]⟩,
    ⟨0x600000000000000000, false, [.shift 70 false]⟩,
    ⟨0x3000000000000000000, false, [.shift 227 false]⟩,
    ⟨0x4000000000000000000, true, [.shift 227 false]⟩,
    ⟨0x800000000000000000000000, false, [.shift 228 false]⟩, ⟨128, true, [.shiftExtra]⟩],
    [(0x400000000, 102), (0xc2bdf7800000000, 120), (0x8000000000, 69)]⟩,
  ⟨0, 239, [
    ⟨2, false, [.shift 111 false]⟩, ⟨4, false, [.shift 120 false]⟩,
    ⟨0x800000000000000008, false, [.shift 69 false]⟩, ⟨112, true, [.shift 69 false]⟩,
    ⟨0x40000, true, [.shift 167 false]⟩, ⟨0x200000, false, [.shift 734 false]⟩,
    ⟨0x400000, true, [.shift 174 false]⟩, ⟨0x2000000000000000, true, [.shift 176 false]⟩,
    ⟨0x80000000000000000, false, [.shift 226 false]⟩,
    ⟨0x600000000000000000, false, [.shift 70 false]⟩,
    ⟨0x3000000000000000000, false, [.shift 227 false]⟩,
    ⟨0x4000000000000000000, true, [.shift 227 false]⟩,
    ⟨0x800000000000000000000000, false, [.shift 228 false]⟩, ⟨128, true, [.shiftExtra]⟩],
    [(0x400000000, 103), (0xc2bdf7800000000, 120), (0x8000000000, 69)]⟩,
  ⟨0, 240, [
    ⟨2, false, [.shift 111 false]⟩, ⟨4, false, [.shift 120 false]⟩,
    ⟨0x800000000000000008, false, [.shift 69 false]⟩, ⟨112, true, [.shift 69 false]⟩,
    ⟨0x40000, true, [.shift 167 false]⟩, ⟨0x200000, false, [.shift 734 false]⟩,
    ⟨0x400000, true, [.shift 174 false]⟩, ⟨0x2000000000000000, true, [.shift 176 false]⟩,
    ⟨0x80000000000000000, false, [.shift 226 false]⟩,
    ⟨0x600000000000000000, false, [.shift 70 false]⟩,
    ⟨0x3000000000000000000, false, [.shift 227 false]⟩,
    ⟨0x4000000000000000000, true, [.shift 227 false]⟩,
    ⟨0x800000000000000000000000, false, [.shift 228 false]⟩, ⟨128, true, [.shiftExtra]⟩],
    [(0x400000000, 104), (0xc2bdf7800000000, 120), (0x8000000000, 69)]⟩,
  ⟨0, 241, [
    ⟨2, false, [.shift 111 false]⟩, ⟨4, false, [.shift 120 false]⟩,
    ⟨0x800000000000000008, false, [.shift 69 false]⟩, ⟨112, true, [.shift 69 false]⟩,
    ⟨0x40000, true, [.shift 167 false]⟩, ⟨0x200000, false, [.shift 734 false]⟩,
    ⟨0x400000, true, [.shift 174 false]⟩, ⟨0x2000000000000000, true, [.shift 176 false]⟩,
    ⟨0x80000000000000000, false, [.shift 226 false]⟩,
    ⟨0x600000000000000000, false, [.shift 70 false]⟩,
    ⟨0x3000000000000000000, false, [.shift 227 false]⟩,
    ⟨0x4000000000000000000, true, [.shift 227 false]⟩,
    ⟨0x800000000000000000000000, false, [.shift 228 false]⟩, ⟨128, true, [.shiftExtra]⟩],
    [(0x400000000, 105), (0xc2bdf7800000000, 120), (0x8000000000, 69)]⟩,
  ⟨0, 242, [
    ⟨2, false, [.shift 111 false]⟩, ⟨4, false, [.shift 120 false]⟩,
    ⟨0x800000000000000008, false, [.shift 69 false]⟩, ⟨112, true, [.shift 69 false]⟩,
    ⟨0x40000, true, [.shift 167 false]⟩, ⟨0x200000, false, [.shift 734 false]⟩,
    ⟨0x400000, true, [.shift 174 false]⟩, ⟨0x2000000000000000, true, [.shift 176 false]⟩,
    ⟨0x80000000000000000, false, [.shift 226 false]⟩,
    ⟨0x600000000000000000, false, [.shift 70 false]⟩,
    ⟨0x3000000000000000000, false, [.shift 227 false]⟩,
    ⟨0x4000000000000000000, true, [.shift 227 false]⟩,
    ⟨0x800000000000000000000000, false, [.shift 228 false]⟩, ⟨128, true, [.shiftExtra]⟩],
    [(0x400000000, 106), (0xc2bdf7800000000, 120), (0x8000000000, 69)]⟩,
  ⟨0, 243, [
    ⟨2, false, [.shift 457 false]⟩, ⟨4, false, [.shift 459 false]⟩,
    ⟨0x800000000000000008, false, [.shift 448 false]⟩, ⟨112, true, [.shift 448 false]⟩,
    ⟨0x40000, true, [.shift 163 false]⟩, ⟨0x200000, false, [.shift 708 false]⟩,
    ⟨0x400000, true, [.shift 212 false]⟩, ⟨0x2000000000000000, true, [.shift 213 false]⟩,
    ⟨0x80000000000000000, false, [.shift 271 false]⟩,
    ⟨0x600000000000000000, false, [.shift 449 false]⟩,
    ⟨0x3000000000000000000, false, [.shift 272 false]⟩,
    ⟨0x4000000000000000000, true, [.shift 272 false]⟩,
    ⟨0x800000000000000000000000, false, [.shift 289 false]⟩, ⟨128, true, [.shiftExtra]⟩],
    [(0x400000000, 530), (0xc2bdf7800000000, 459), (0x8000000000, 448)]⟩,
  ⟨0, 244, [
    ⟨2, false, [.shift 551 false]⟩, ⟨4, false, [.shift 459 false]⟩,
    ⟨0x800000000000000008, false, [.shift 448 false]⟩, ⟨112, true, [.shift 448 false]⟩,
    ⟨0x40000, true, [.shift 163 false]⟩, ⟨0x200000, false, [.shift 708 false]⟩,
    ⟨0x400000, true, [.shift 212 false]⟩, ⟨0x2000000000000000, true, [.shift 213 false]⟩,
    ⟨0x80000000000000000, false, [.shift 306 false]⟩,
    ⟨0x600000000000000000, false, [.shift 449 false]⟩,
    ⟨0x3000000000000000000, false, [.shift 307 false]⟩,
    ⟨0x4000000000000000000, true, [.shift 307 false]⟩,
    ⟨0x800000000000000000000000, false, [.shift 291 false]⟩, ⟨128, true, [.shiftExtra]⟩],
    [(0x400000000, 532), (0xc2bdf7800000000, 459), (0x8000000000, 448)]⟩,
  ⟨0, 245, [
    ⟨2, false, [.shift 551 false]⟩, ⟨4, false, [.shift 459 false]⟩,
    ⟨0x800000000000000008, false, [.shift 448 false]⟩, ⟨112, true, [.shift 448 false]⟩,
    ⟨0x40000, true, [.shift 163 false]⟩, ⟨0x200000, false, [.shift 708 false]⟩,
    ⟨0x400000, true, [.shift 212 false]⟩, ⟨0x2000000000000000, true, [.shift 213 false]⟩,
    ⟨0x80000000000000000, false, [.shift 306 false]⟩,
    ⟨0x600000000000000000, false, [.shift 449 false]⟩,
    ⟨0x3000000000000000000, false, [.shift 307 false]⟩,
    ⟨0x4000000000000000000, true, [.shift 307 false]⟩,
    ⟨0x800000000000000000000000, false, [.shift 291 false]⟩, ⟨128, true, [.shiftExtra]⟩],
    [(0x400000000, 508), (0xc2bdf7800000000, 459), (0x8000000000, 448)]⟩,
  ⟨0, 246, [
    ⟨2, false, [.shift 457 false]⟩, ⟨4, false, [.shift 459 false]⟩,
    ⟨0x800000000000000008, false, [.shift 448 false]⟩, ⟨112, true, [.shift 448 false]⟩,
    ⟨0x40000, true, [.shift 163 false]⟩, ⟨0x200000, false, [.shift 708 false]⟩,
    ⟨0x400000, true, [.shift 212 false]⟩, ⟨0x2000000000000000, true, [.shift 213 false]⟩,
    ⟨0x80000000000000000, false, [.shift 271 false]⟩,
    ⟨0x600000000000000000, false, [.shift 449 false]⟩,
    ⟨0x3000000000000000000, false, [.shift 272 false]⟩,
    ⟨0x4000000000000000000, true, [.shift 272 false]⟩,
    ⟨0x800000000000000000000000, false, [.shift 289 false]⟩, ⟨128, true, [.shiftExtra]⟩],
    [(0x400000000, 533), (0xc2bdf7800000000, 459), (0x8000000000, 448)]⟩,
  ⟨0, 247, [
    ⟨2, false, [.shift 111 false]⟩, ⟨4, false, [.shift 120 false]⟩,
    ⟨0x800000000000000008, false, [.shift 69 false]⟩, ⟨112, true, [.shift 69 false]⟩,
    ⟨0x40000, true, [.shift 167 false]⟩, ⟨0x200000, false, [.shift 734 false]⟩,
    ⟨0x400000, true, [.shift 174 false]⟩, ⟨0x2000000000000000, true, [.shift 176 false]⟩,
    ⟨0x80000000000000000, false, [.shift 226 false]⟩,
    ⟨0x600000000000000000, false, [.shift 70 false]⟩,
    ⟨0x3000000000000000000, false, [.shift 227 false]⟩,
    ⟨0x4000000000000000000, true, [.shift 227 false]⟩,
    ⟨0x800000000000000000000000, false, [.shift 228 false]⟩, ⟨128, true, [.shiftExtra]⟩],
    [(0x400000000, 107), (0xc2bdf7800000000, 120), (0x8000000000, 69)]⟩,
  ⟨0, 248, [
    ⟨2, false, [.shift 111 false]⟩, ⟨4, false, [.shift 120 false]⟩,
    ⟨0x800000000000000008, false, [.shift 69 false]⟩, ⟨112, true, [.shift 69 false]⟩,
    ⟨0x40000, true, [.shift 167 false]⟩, ⟨0x200000, false, [.shift 734 false]⟩,
    ⟨0x400000, true, [.shift 174 false]⟩, ⟨0x2000000000000000, true, [.shift 176 false]⟩,
    ⟨0x80000000000000000, false, [.shift 226 false]⟩,
    ⟨0x600000000000000000, false, [.shift 70 false]⟩,
    ⟨0x3000000000000000000, false, [.shift 227 false]⟩,
    ⟨0x4000000000000000000, true, [.shift 227 false]⟩,
    ⟨0x800000000000000000000000, false, [.shift 228 false]⟩, ⟨128, true, [.shiftExtra]⟩],
    [(0x400000000, 108), (0xc2bdf7800000000, 120), (0x8000000000, 69)]⟩,
  ⟨0, 249, [
    ⟨2, false, [.shift 457 false]⟩, ⟨4, false, [.shift 459 false]⟩,
    ⟨0x800000000000000008, false, [.shift 448 false]⟩, ⟨112, true, [.shift 448 false]⟩,
    ⟨0x40000, true, [.shift 163 false]⟩, ⟨0x200000, false, [.shift 708 false]⟩,
    ⟨0x400000, true, [.shift 212 false]⟩, ⟨0x2000000000000000, true, [.shift 213 false]⟩,
    ⟨0x80000000000000000, false, [.shift 271 false]⟩,
    ⟨0x600000000000000000, false, [.shift 449 false]⟩,
    ⟨0x3000000000000000000, false, [.shift 272 false]⟩,
    ⟨0x4000000000000000000, true, [.shift 272 false]⟩,
    ⟨0x800000000000000000000000, false, [.shift 289 false]⟩, ⟨128, true, [.shiftExtra]⟩],
    [(0x400000000, 559), (0xc2bdf7800000000, 459), (0x8000000000, 448)]⟩,
  ⟨0, 250, [
    ⟨2, false, [.shift 457 false]⟩, ⟨4, false, [.shift 459 false]⟩,
    ⟨0x800000000000000008, false, [.shift 448 false]⟩, ⟨112, true, [.shift 448 false]⟩,
    ⟨0x40000, true, [.shift 163 false]⟩, ⟨0x200000, false, [.shift 708 false]⟩,
    ⟨0x400000, true, [.shift 212 false]⟩, ⟨0x2000000000000000, true, [.shift 213 false]⟩,
    ⟨0x80000000000000000, false, [.shift 271 false]⟩,
    ⟨0x600000000000000000, false, [.shift 449 false]⟩,
    ⟨0x3000000000000000000, false, [.shift 272 false]⟩,
    ⟨0x4000000000000000000, true, [.shift 272 false]⟩,
    ⟨0x800000000000000000000000, false, [.shift 289 false]⟩, ⟨128, true, [.shiftExtra]⟩],
    [(0x400000000, 560), (0xc2bdf7800000000, 459), (0x8000000000, 448)]⟩,
  ⟨0, 251, [
    ⟨2, false, [.shift 457 false]⟩, ⟨4, false, [.shift 459 false]⟩,
    ⟨0x800000000000000008, false, [.shift 448 false]⟩, ⟨112, true, [.shift 448 false]⟩,
    ⟨0x40000, true, [.shift 163 false]⟩, ⟨0x200000, false, [.shift 708 false]⟩,
    ⟨0x400000, true, [.shift 212 false]⟩, ⟨0x2000000000000000, true, [.shift 213 false]⟩,
    ⟨0x80000000000000000, false, [.shift 271 false]⟩,
    ⟨0x600000000000000000, false, [.shift 449 false]⟩,
    ⟨0x3000000000000000000, false, [.shift 272 false]⟩,
    ⟨0x4000000000000000000, true, [.shift 272 false]⟩,
    ⟨0x800000000000000000000000, false, [.shift 289 false]⟩, ⟨128, true, [.shiftExtra]⟩],
    [(0x400000000, 507), (0xc2bdf7800000000, 459), (0x8000000000, 448)]⟩,
  ⟨0, 252, [
    ⟨2, false, [.shift 551 false]⟩, ⟨4, false, [.shift 459 false]⟩,
    ⟨0x800000000000000008, false, [.shift 448 false]⟩, ⟨112, true, [.shift 448 false]⟩,
    ⟨0x40000, true, [.shift 163 false]⟩, ⟨0x200000, false, [.shift 708 false]⟩,
    ⟨0x400000, true, [.shift 212 false]⟩, ⟨0x2000000000000000, true, [.shift 213 false]⟩,
    ⟨0x80000000000000000, false, [.shift 306 false]⟩,
    ⟨0x600000000000000000, false, [.shift 449 false]⟩,
    ⟨0x3000000000000000000, false, [.shift 307 false]⟩,
    ⟨0x4000000000000000000, true, [.shift 307 false]⟩,
    ⟨0x800000000000000000000000, false, [.shift 291 false]⟩, ⟨128, true, [.shiftExtra]⟩],
    [(0x400000000, 535), (0xc2bdf7800000000, 459), (0x8000000000, 448)]⟩,
  ⟨0, 223, [
    ⟨2, false, [.shift 87 false]⟩, ⟨4, false, [.shift 41 false]⟩,
    ⟨0x800000000000000008, false, [.shift 39 false]⟩, ⟨112, true, [.shift 39 false]⟩,
    ⟨0x40000, true, [.shift 171 false]⟩, ⟨0x200000, false, [.shift 739 false]⟩,
    ⟨0x400000, true, [.shift 202 false]⟩, ⟨0x2000000000000000, true, [.shift 204 false]⟩,
    ⟨0x80000000000000000, false, [.shift 254 false]⟩,
    ⟨0x600000000000000000, false, [.shift 40 false]⟩,
    ⟨0x3000000000000000000, false, [.shift 255 false]⟩,
    ⟨0x4000000000000000000, true, [.shift 255 false]⟩,
    ⟨0x800000000000000000000000, false, [.shift 285 false]⟩, ⟨128, true, [.shiftExtra]⟩],
    [(0x400000000, 113), (0xc2bdf7800000000, 41), (0x8000000000, 39)]⟩,
  ⟨0, 226, [
    ⟨2, false, [.shift 87 false]⟩, ⟨4, false, [.shift 41 false]⟩,
    ⟨0x800000000000000008, false, [.shift 39 false]⟩, ⟨112, true, [.shift 39 false]⟩,
    ⟨0x40000, true, [.shift 171 false]⟩, ⟨0x200000, false, [.shift 739 false]⟩,
    ⟨0x400000, true, [.shift 202 false]⟩, ⟨0x2000000000000000, true, [.shift 204 false]⟩,
    ⟨0x80000000000000000, false, [.shift 254 false]⟩,
    ⟨0x600000000000000000, false, [.shift 40 false]⟩,
    ⟨0x3000000000000000000, false, [.shift 255 false]⟩,
    ⟨0x4000000000000000000, true, [.shift 255 false]⟩,
    ⟨0x800000000000000000000000, false, [.shift 285 false]⟩, ⟨128, true, [.shiftExtra]⟩],
    [(0x400000000, 74), (0xc2bdf7800000000, 41), (0x8000000000, 39)]⟩,
  ⟨0, 227, [
    ⟨2, false, [.shift 87 false]⟩, ⟨4, false, [.shift 41 false]⟩,
    ⟨0x800000000000000008, false, [.shift 39 false]⟩, ⟨112, true, [.shift 39 false]⟩,
    ⟨0x40000, true, [.shift 171 false]⟩, ⟨0x200000, false, [.shift 739 false]⟩,
    ⟨0x400000, true, [.shift 202 false]⟩, ⟨0x2000000000000000, true, [.shift 204 false]⟩,
    ⟨0x80000000000000000, false, [.shift 254 false]⟩,
    ⟨0x600000000000000000, false, [.shift 40 false]⟩,
    ⟨0x3000000000000000000, false, [.shift 255 false]⟩,
    ⟨0x4000000000000000000, true, [.shift 255 false]⟩,
    ⟨0x800000000000000000000000, false, [.shift 285 false]⟩, ⟨128, true, [.shiftExtra]⟩],
    [(0x400000000, 75), (0xc2bdf7800000000, 41), (0x8000000000, 39)]⟩,
  ⟨0, 229, [
    ⟨2, false, [.shift 87 false]⟩, ⟨4, false, [.shift 41 false]⟩,
    ⟨0x800000000000000008, false, [.shift 39 false]⟩, ⟨112, true, [.shift 39 false]⟩,
    ⟨0x40000, true, [.shift 171 false]⟩, ⟨0x200000, false, [.shift 739 false]⟩,
    ⟨0x400000, true, [.shift 202 false]⟩, ⟨0x2000000000000000, true, [.shift 204 false]⟩,
    ⟨0x80000000000000000, false, [.shift 254 false]⟩,
    ⟨0x600000000000000000, false, [.shift 40 false]⟩,
    ⟨0x3000000000000000000, false, [.shift 255 false]⟩,
    ⟨0x4000000000000000000, true, [.shift 255 false]⟩,
    ⟨0x800000000000000000000000, false, [.shift 285 false]⟩, ⟨128, true, [.shiftExtra]⟩],
    [(0x400000000, 114), (0xc2bdf7800000000, 41), (0x8000000000, 39)]⟩,
  ⟨0, 231, [
    ⟨2, false, [.shift 87 false]⟩, ⟨4, false, [.shift 41 false]⟩,
    ⟨0x800000000000000008, false, [.shift 39 false]⟩, ⟨112, true, [.shift 39 false]⟩,
    ⟨0x40000, true, [.shift 171 false]⟩, ⟨0x200000, false, [.shift 739 false]⟩,
    ⟨0x400000, true, [.shift 202 false]⟩, ⟨0x2000000000000000, true, [.shift 204 false]⟩,
    ⟨0x80000000000000000, false, [.shift 254 false]⟩,
    ⟨0x600000000000000000, false, [.shift 40 false]⟩,
    ⟨0x3000000000000000000, false, [.shift 255 false]⟩,
    ⟨0x4000000000000000000, true, [.shift 255 false]⟩,
    ⟨0x800000000000000000000000, false, [.shift 285 false]⟩, ⟨128, true, [.shiftExtra]⟩],
    [(0x400000000, 77), (0xc2bdf7800000000, 41), (0x8000000000, 39)]⟩,
  ⟨0, 232, [
    ⟨2, false, [.shift 87 false]⟩, ⟨4, false, [.shift 41 false]⟩,
    ⟨0x800000000000000008, false, [.shift 39 false]⟩, ⟨112, true, [.shift 39 false]⟩,
    ⟨0x40000, true, [.shift 171 false]⟩, ⟨0x200000, false, [.shift 739 false]⟩,
    ⟨0x400000, true, [.shift 202 false]⟩, ⟨0x2000000000000000, true, [.shift 204 false]⟩,
    ⟨0x80000000000000000, false, [.shift 254 false]⟩,
    ⟨0x600000000000000000, false, [.shift 40 false]⟩,
    ⟨0x3000000000000000000, false, [.shift 255 false]⟩,
    ⟨0x4000000000000000000, true, [.shift 255 false]⟩,
    ⟨0x800000000000000000000000, false, [.shift 285 false]⟩, ⟨128, true, [.shiftExtra]⟩],
    [(0x400000000, 78), (0xc2bdf7800000000, 41), (0x8000000000, 39)]⟩,
  ⟨0, 233, [
    ⟨2, false, [.shift 87 false]⟩, ⟨4, false, [.shift 41 false]⟩,
    ⟨0x800000000000000008, false, [.shift 39 false]⟩, ⟨112, true, [.shift 39 false]⟩,
    ⟨0x40000, true, [.shift 171 false]⟩, ⟨0x200000, false, [.shift 739 false]⟩,
    ⟨0x400000, true, [.shift 202 false]⟩, ⟨0x2000000000000000, true, [.shift 204 false]⟩,
    ⟨0x80000000000000000, false, [.shift 254 false]⟩,
    ⟨0x600000000000000000, false, [.shift 40 false]⟩,
    ⟨0x3000000000000000000, false, [.shift 255 false]⟩,
    ⟨0x4000000000000000000, true, [.shift 255 false]⟩,
    ⟨0x800000000000000000000000, false, [.shift 285 false]⟩, ⟨128, true, [.shiftExtra]⟩],
    [(0x400000000, 79), (0xc2bdf7800000000, 41), (0x8000000000, 39)]⟩,
  ⟨0, 234, [
    ⟨2, false, [.shift 87 false]⟩, ⟨4, false, [.shift 41 false]⟩,
    ⟨0x800000000000000008, false, [.shift 39 false]⟩, ⟨112, true, [.shift 39 false]⟩,
    ⟨0x40000, true, [.shift 171 false]⟩, ⟨0x200000, false, [.shift 739 false]⟩,
    ⟨0x400000, true, [.shift 202 false]⟩, ⟨0x2000000000000000, true, [.shift 204 false]⟩,
    ⟨0x80000000000000000, false, [.shift 254 false]⟩,
    ⟨0x600000000000000000, false, [.shift 40 false]⟩,
    ⟨0x3000000000000000000, false, [.shift 255 false]⟩,
    ⟨0x4000000000000000000, true, [.shift 255 false]⟩,
    ⟨0x800000000000000000000000, false, [.shift 285 false]⟩, ⟨128, true, [.shiftExtra]⟩],
    [(0x400000000, 80), (0xc2bdf7800000000, 41), (0x8000000000, 39)]⟩,
  ⟨0, 235, [
    ⟨2, false, [.shift 87 false]⟩, ⟨4, false, [.shift 41 false]⟩,
    ⟨0x800000000000000008, false, [.shift 39 false]⟩, ⟨112, true, [.shift 39 false]⟩,
    ⟨0x40000, true, [.shift 171 false]⟩, ⟨0x200000, false, [.shift 739 false]⟩,
    ⟨0x400000, true, [.shift 202 false]⟩, ⟨0x2000000000000000, true, [.shift 204 false]⟩,
    ⟨0x80000000000000000, false, [.shift 254 false]⟩,
    ⟨0x600000000000000000, false, [.shift 40 false]⟩,
    ⟨0x3000000000000000000, false, [.shift 255 false]⟩,
    ⟨0x4000000000000000000, true, [.shift 255 false]⟩,
    ⟨0x800000000000000000000000, false, [.shift 285 false]⟩, ⟨128, true, [.shiftExtra]⟩],
    [(0x400000000, 81), (0xc2bdf7800000000, 41), (0x8000000000, 39)]⟩,
  ⟨0, 236, [
    ⟨2, false, [.shift 87 false]⟩, ⟨4, false, [.shift 41 false]⟩,
    ⟨0x800000000000000008, false, [.shift 39 false]⟩, ⟨112, true, [.shift 39 false]⟩,
    ⟨0x40000, true, [.shift 171 false]⟩, ⟨0x200000, false, [.shift 739 false]⟩,
    ⟨0x400000, true, [.shift 202 false]⟩, ⟨0x2000000000000000, true, [.shift 204 false]⟩,
    ⟨0x80000000000000000, false, [.shift 254 false]⟩,
    ⟨0x600000000000000000, false, [.shift 40 false]⟩,
    ⟨0x3000000000000000000, false, [.shift 255 false]⟩,
    ⟨0x4000000000000000000, true, [.shift 255 false]⟩,
    ⟨0x800000000000000000000000, false, [.shift 285 false]⟩, ⟨128, true, [.shiftExtra]⟩],
    [(0x400000000, 82), (0xc2bdf7800000000, 41), (0x8000000000, 39)]⟩,
  ⟨0, 237, [
    ⟨2, false, [.shift 87 false]⟩, ⟨4, false, [.shift 41 false]⟩,
    ⟨0x800000000000000008, false, [.shift 39 false]⟩, ⟨112, true, [.shift 39 false]⟩,
    ⟨0x40000, true, [.shift 171 false]⟩, ⟨0x200000, false, [.shift 739 false]⟩,
    ⟨0x400000, true, [.shift 202 false]⟩, ⟨0x2000000000000000, true, [.shift 204 false]⟩,
    ⟨0x80000000000000000, false, [.shift 254 false]⟩,
    ⟨0x600000000000000000, false, [.shift 40 false]⟩,
    ⟨0x3000000000000000000, false, [.shift 255 false]⟩,
    ⟨0x4000000000000000000, true, [.shift 255 false]⟩,
    ⟨0x800000000000000000000000, false, [.shift 285 false]⟩, ⟨128, true, [.shiftExtra]⟩],
    [(0x400000000, 83), (0xc2bdf7800000000, 41), (0x8000000000, 39)]⟩,
  ⟨0, 238, [
    ⟨2, false, [.shift 87 false]⟩, ⟨4, false, [.shift 41 false]⟩,
    ⟨0x800000000000000008, false, [.shift 39 false]⟩, ⟨112, true, [.shift 39 false]⟩,
    ⟨0x40000, true, [.shift 171 false]⟩, ⟨0x200000, false, [.shift 739 false]⟩,
    ⟨0x400000, true, [.shift 202 false]⟩, ⟨0x2000000000000000, true, [.shift 204 false]⟩,
    ⟨0x80000000000000000, false, [.shift 254 false]⟩,
    ⟨0x600000000000000000, false, [.shift 40 false]⟩,
    ⟨0x3000000000000000000, false, [.shift 255 false]⟩,
    ⟨0x4000000000000000000, true, [.shift 255 false]⟩,
    ⟨0x800000000000000000000000, false, [.shift 285 false]⟩, ⟨128, true, [.shiftExtra]⟩],
    [(0x400000000, 84), (0xc2bdf7800000000, 41), (0x8000000000, 39)]⟩,
  ⟨0, 239, [
    ⟨2, false, [.shift 87 false]⟩, ⟨4, false, [.shift 41 false]⟩,
    ⟨0x800000000000000008, false, [.shift 39 false]⟩, ⟨112, true, [.shift 39 false]⟩,
    ⟨0x40000, true, [.shift 171 false]⟩, ⟨0x200000, false, [.shift 739 false]⟩,
    ⟨0x400000, true, [.shift 202 false]⟩, ⟨0x2000000000000000, true, [.shift 204 false]⟩,
    ⟨0x80000000000000000, false, [.shift 254 false]⟩,
    ⟨0x600000000000000000, false, [.shift 40 false]⟩,
    ⟨0x3000000000000000000, false, [.shift 255 false]⟩,
    ⟨0x4000000000000000000, true, [.shift 255 false]⟩,
    ⟨0x800000000000000000000000, false, [.shift 285 false]⟩, ⟨128, true, [.shiftExtra]⟩],
    [(0x400000000, 85), (0xc2bdf7800000000, 41), (0x8000000000, 39)]⟩,
  ⟨0, 240, [
    ⟨2, false, [.shift 87 false]⟩, ⟨4, false, [.shift 41 false]⟩,
    ⟨0x800000000000000008, false, [.shift 39 false]⟩, ⟨112, true, [.shift 39 false]⟩,
    ⟨0x40000, true, [.shift 171 false]⟩, ⟨0x200000, false, [.shift 739 false]⟩,
    ⟨0x400000, true, [.shift 202 false]⟩, ⟨0x2000000000000000, true, [.shift 204 false]⟩,
    ⟨0x80000000000000000, false, [.shift 254 false]⟩,
    ⟨0x600000000000000000, false, [.shift 40 false]⟩,
    ⟨0x3000000000000000000, false, [.shift 255 false]⟩,
    ⟨0x4000000000000000000, true, [.shift 255 false]⟩,
    ⟨0x800000000000000000000000, false, [.shift 285 false]⟩, ⟨128, true, [.shiftExtra]⟩],
    [(0x400000000, 86), (0xc2bdf7800000000, 41), (0x8000000000, 39)]⟩,
  ⟨0, 241, [
    ⟨2, false, [.shift 87 false]⟩, ⟨4, false, [.shift 41 false]⟩,
    ⟨0x800000000000000008, false, [.shift 39 false]⟩, ⟨112, true, [.shift 39 false]⟩,
    ⟨0x40000, true, [.shift 171 false]⟩, ⟨0x200000, false, [.shift 739 false]⟩,
    ⟨0x400000, true, [.shift 202 false]⟩, ⟨0x2000000000000000, true, [.shift 204 false]⟩,
    ⟨0x80000000000000000, false, [.shift 254 false]⟩,
    ⟨0x600000000000000000, false, [.shift 40 false]⟩,
    ⟨0x3000000000000000000, false, [.shift 255 false]⟩,
    ⟨0x4000000000000000000, true, [.shift 255 false]⟩,
    ⟨0x800000000000000000000000, false, [.shift 285 false]⟩, ⟨128, true, [.shiftExtra]⟩],
    [(0x400000000, 116), (0xc2bdf7800000000, 41), (0x8000000000, 39)]⟩,
  ⟨0, 242, [
    ⟨2, false, [.shift 87 false]⟩, ⟨4, false, [.shift 41 false]⟩,
    ⟨0x800000000000000008, false, [.shift 39 false]⟩, ⟨112, true, [.shift 39 false]⟩,
    ⟨0x40000, true, [.shift 171 false]⟩, ⟨0x200000, false, [.shift 739 false]⟩,
    ⟨0x400000, true, [.shift 202 false]⟩, ⟨0x2000000000000000, true, [.shift 204 false]⟩,
    ⟨0x80000000000000000, false, [.shift 254 false]⟩,
    ⟨0x600000000000000000, false, [.shift 40 false]⟩,
    ⟨0x3000000000000000000, false, [.shift 255 false]⟩,
    ⟨0x4000000000000000000, true, [.shift 255 false]⟩,
    ⟨0x800000000000000000000000, false, [.shift 285 false]⟩, ⟨128, true, [.shiftExtra]⟩],
    [(0x400000000, 117), (0xc2bdf7800000000, 41), (0x8000000000, 39)]⟩,
  ⟨0, 247, [
    ⟨2, false, [.shift 87 false]⟩, ⟨4, false, [.shift 41 false]⟩,
    ⟨0x800000000000000008, false, [.shift 39 false]⟩, ⟨112, true, [.shift 39 false]⟩,
    ⟨0x40000, true, [.shift 171 false]⟩, ⟨0x200000, false, [.shift 739 false]⟩,
    ⟨0x400000, true, [.shift 202 false]⟩, ⟨0x2000000000000000, true, [.shift 204 false]⟩,
    ⟨0x80000000000000000, false, [.shift 254 false]⟩,
    ⟨0x600000000000000000, false, [.shift 40 false]⟩,
    ⟨0x3000000000000000000, false, [.shift 255 false]⟩,
    ⟨0x4000000000000000000, true, [.shift 255 false]⟩,
    ⟨0x800000000000000000000000, false, [.shift 285 false]⟩, ⟨128, true, [.shiftExtra]⟩],
    [(0x400000000, 118), (0xc2bdf7800000000, 41), (0x8000000000, 39)]⟩,
  ⟨0, 248, [
    ⟨2, false, [.shift 87 false]⟩, ⟨4, false, [.shift 41 false]⟩,
    ⟨0x800000000000000008, false, [.shift 39 false]⟩, ⟨112, true, [.shift 39 false]⟩,
    ⟨0x40000, true, [.shift 171 false]⟩, ⟨0x200000, false, [.shift 739 false]⟩,
    ⟨0x400000, true, [.shift 202 false]⟩, ⟨0x2000000000000000, true, [.shift 204 false]⟩,
    ⟨0x80000000000000000, false, [.shift 254 false]⟩,
    ⟨0x600000000000000000, false, [.shift 40 false]⟩,
    ⟨0x3000000000000000000, false, [.shift 255 false]⟩,
    ⟨0x4000000000000000000, true, [.shift 255 false]⟩,
    ⟨0x800000000000000000000000, false, [.shift 285 false]⟩, ⟨128, true, [.shiftExtra]⟩],
    [(0x400000000, 119), (0xc2bdf7800000000, 41), (0x8000000000, 39)]⟩,
  ⟨0, 226, [
    ⟨2, false, [.shift 457 false]⟩, ⟨4, false, [.shift 459 false]⟩,
    ⟨0x800000000000000008, false, [.shift 448 false]⟩, ⟨112, true, [.shift 448 false]⟩,
    ⟨0x40000, true, [.shift 163 false]⟩, ⟨0x200000, false, [.shift 708 false]⟩,
    ⟨0x400000, true, [.shift 212 false]⟩, ⟨0x2000000000000000, true, [.shift 213 false]⟩,
    ⟨0x80000000000000000, false, [.shift 271 false]⟩,
    ⟨0x600000000000000000, false, [.shift 449 false]⟩,
    ⟨0x3000000000000000000, false, [.shift 272 false]⟩,
    ⟨0x4000000000000000000, true, [.shift 272 false]⟩,
    ⟨0x800000000000000000000000, false, [.shift 289 false]⟩, ⟨128, true, [.shiftExtra]⟩],
    [(0x400000000, 462), (0xc2bdf7800000000, 459), (0x8000000000, 448)]⟩]

end SyntaxKit.Harneet
