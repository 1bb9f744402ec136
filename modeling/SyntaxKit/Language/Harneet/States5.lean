import SyntaxKit.Language.Basic

/-!
# Parse states 272 to 339 of Harneet

Rows of the parse automaton.  Each gives the lexical state in which its next token is read, the
first state with the same core, what to do on each set of tokens (a set is a number whose bit `i`
stands for token `i`), and the state to enter after each set of nonterminals (bit `i` stands for the
`i`-th nonterminal).
-/

namespace SyntaxKit.Harneet

/-- Parse states 272 to 339. -/
def states5 : List StateRow := [
  ⟨0, 227, [
    ⟨2, false, [.shift 457 false]⟩, ⟨4, false, [.shift 459 false]⟩,
    ⟨0x800000000000000008, false, [.shift 448 false]⟩, ⟨112, true, [.shift 448 false]⟩,
    ⟨0x40000, true, [.shift 163 false]⟩, ⟨0x200000, false, [.shift 708 false]⟩,
    ⟨0x400000, true, [.shift 212 false]⟩, ⟨0x2000000000000000, true, [.shift 213 false]⟩,
    ⟨0x80000000000000000, false, [.shift 271 false]⟩,
    ⟨0x600000000000000000, false, [.shift 449 false]⟩,
    ⟨0x3000000000000000000, false, [.shift 272 false]⟩,
    ⟨0x4000000000000000000, true, [.shift 272 false]⟩,
    ⟨0x800000000000000000000000, false, [.shift 289 false]⟩, ⟨128, true, [.shiftExtra]⟩],
    [(0x400000000, 463), (0xc2bdf7800000000, 459), (0x8000000000, 448)]⟩,
  ⟨0, 231, [
    ⟨2, false, [.shift 457 false]⟩, ⟨4, false, [.shift 459 false]⟩,
    ⟨0x800000000000000008, false, [.shift 448 false]⟩, ⟨112, true, [.shift 448 false]⟩,
    ⟨0x40000, true, [.shift 163 false]⟩, ⟨0x200000, false, [.shift 708 false]⟩,
    ⟨0x400000, true, [.shift 212 false]⟩, ⟨0x2000000000000000, true, [.shift 213 false]⟩,
    ⟨0x80000000000000000, false, [.shift 271 false]⟩,
    ⟨0x600000000000000000, false, [.shift 449 false]⟩,
    ⟨0x3000000000000000000, false, [.shift 272 false]⟩,
    ⟨0x4000000000000000000, true, [.shift 272 false]⟩,
    ⟨0x800000000000000000000000, false, [.shift 289 false]⟩, ⟨128, true, [.shiftExtra]⟩],
    [(0x400000000, 475), (0xc2bdf7800000000, 459), (0x8000000000, 448)]⟩,
  ⟨0, 232, [
    ⟨2, false, [.shift 457 false]⟩, ⟨4, false, [.shift 459 false]⟩,
    ⟨0x800000000000000008, false, [.shift 448 false]⟩, ⟨112, true, [.shift 448 false]⟩,
    ⟨0x40000, true, [.shift 163 false]⟩, ⟨0x200000, false, [.shift 708 false]⟩,
    ⟨0x400000, true, [.shift 212 false]⟩, ⟨0x2000000000000000, true, [.shift 213 false]⟩,
    ⟨0x80000000000000000, false, [.shift 271 false]⟩,
    ⟨0x600000000000000000, false, [.shift 449 false]⟩,
    ⟨0x3000000000000000000, false, [.shift 272 false]⟩,
    ⟨0x4000000000000000000, true, [.shift 272 false]⟩,
    ⟨0x800000000000000000000000, false, [.shift 289 false]⟩, ⟨128, true, [.shiftExtra]⟩],
    [(0x400000000, 476), (0xc2bdf7800000000, 459), (0x8000000000, 448)]⟩,
  ⟨0, 233, [
    ⟨2, false, [.shift 457 false]⟩, ⟨4, false, [.shift 459 false]⟩,
    ⟨0x800000000000000008, false, [.shift 448 false]⟩, ⟨112, true, [.shift 448 false]⟩,
    ⟨0x40000, true, [.shift 163 false]⟩, ⟨0x200000, false, [.shift 708 false]⟩,
    ⟨0x400000, true, [.shift 212 false]⟩, ⟨0x2000000000000000, true, [.shift 213 false]⟩,
    ⟨0x80000000000000000, false, [.shift 271 false]⟩,
    ⟨0x600000000000000000, false, [.shift 449 false]⟩,
    ⟨0x3000000000000000000, false, [.shift 272 false]⟩,
    ⟨0x4000000000000000000, true, [.shift 272 false]⟩,
    ⟨0x800000000000000000000000, false, [.shift 289 false]⟩, ⟨128, true, [.shiftExtra]⟩],
    [(0x400000000, 477), (0xc2bdf7800000000, 459), (0x8000000000, 448)]⟩,
  ⟨0, 234, [
    ⟨2, false, [.shift 457 false]⟩, ⟨4, false, [.shift 459 false]⟩,
    ⟨0x800000000000000008, false, [.shift 448 false]⟩, ⟨112, true, [.shift 448 false]⟩,
    ⟨0x40000, true, [.shift 163 false]⟩, ⟨0x200000, false, [.shift 708 false]⟩,
    ⟨0x400000, true, [.shift 212 false]⟩, ⟨0x2000000000000000, true, [.shift 213 false]⟩,
    ⟨0x80000000000000000, false, [.shift 271 false]⟩,
    ⟨0x600000000000000000, false, [.shift 449 false]⟩,
    ⟨0x3000000000000000000, false, [.shift 272 false]⟩,
    ⟨0x4000000000000000000, true, [.shift 272 false]⟩,
    ⟨0x800000000000000000000000, false, [.shift 289 false]⟩, ⟨128, true, [.shiftExtra]⟩],
    [(0x400000000, 478), (0xc2bdf7800000000, 459), (0x8000000000, 448)]⟩,
  ⟨0, 235, [
    ⟨2, false, [.shift 457 false]⟩, ⟨4, false, [.shift 459 false]⟩,
    ⟨0x800000000000000008, false, [.shift 448 false]⟩, ⟨112, true, [.shift 448 false]⟩,
    ⟨0x40000, true, [.shift 163 false]⟩, ⟨0x200000, false, [.shift 708 false]⟩,
    ⟨0x400000, true, [.shift 212 false]⟩, ⟨0x2000000000000000, true, [.shift 213 false]⟩,
    ⟨0x80000000000000000, false, [.shift 271 false]⟩,
    ⟨0x600000000000000000, false, [.shift 449 false]⟩,
    ⟨0x3000000000000000000, false, [.shift 272 false]⟩,
    ⟨0x4000000000000000000, true, [.shift 272 false]⟩,
    ⟨0x800000000000000000000000, false, [.shift 289 false]⟩, ⟨128, true, [.shiftExtra]⟩],
    [(0x400000000, 479), (0xc2bdf7800000000, 459), (0x8000000000, 448)]⟩,
  ⟨0, 236, [
    ⟨2, false, [.shift 457 false]⟩, ⟨4, false, [.shift 459 false]⟩,
    ⟨0x800000000000000008, false, [.shift 448 false]⟩, ⟨112, true, [.shift 448 false]⟩,
    ⟨0x40000, true, [.shift 163 false]⟩, ⟨0x200000, false, [.shift 708 false]⟩,
    ⟨0x400000, true, [.shift 212 false]⟩, ⟨0x2000000000000000, true, [.shift 213 false]⟩,
    ⟨0x80000000000000000, false, [.shift 271 false]⟩,
    ⟨0x600000000000000000, false, [.shift 449 false]⟩,
    ⟨0x3000000000000000000, false, [.shift 272 false]⟩,
    ⟨0x4000000000000000000, true, [.shift 272 false]⟩,
    ⟨0x800000000000000000000000, false, [.shift 289 false]⟩, ⟨128, true, [.shiftExtra]⟩],
    [(0x400000000, 480), (0xc2bdf7800000000, 459), (0x8000000000, 448)]⟩,
  ⟨0, 237, [
    ⟨2, false, [.shift 457 false]⟩, ⟨4, false, [.shift 459 false]⟩,
    ⟨0x800000000000000008, false, [.shift 448 false]⟩, ⟨112, true, [.shift 448 false]⟩,
    ⟨0x40000, true, [.shift 163 false]⟩, ⟨0x200000, false, [.shift 708 false]⟩,
    ⟨0x400000, true, [.shift 212 false]⟩, ⟨0x2000000000000000, true, [.shift 213 false]⟩,
    ⟨0x80000000000000000, false, [.shift 271 false]⟩,
    ⟨0x600000000000000000, false, [.shift 449 false]⟩,
    ⟨0x3000000000000000000, false, [.shift 272 false]⟩,
    ⟨0x4000000000000000000, true, [.shift 272 false]⟩,
    ⟨0x800000000000000000000000, false, [.shift 289 false]⟩, ⟨128, true, [.shiftExtra]⟩],
    [(0x400000000, 481), (0xc2bdf7800000000, 459), (0x8000000000, 448)]⟩,
  ⟨0, 238, [
    ⟨2, false, [.shift 457 false]⟩, ⟨4, false, [.shift 459 false]⟩,
    ⟨0x800000000000000008, false, [.shift 448 false]⟩, ⟨112, true, [.shift 448 false]⟩,
    ⟨0x40000, true, [.shift 163 false]⟩, ⟨0x200000, false, [.shift 708 false]⟩,
    ⟨0x400000, true, [.shift 212 false]⟩, ⟨0x2000000000000000, true, [.shift 213 false]⟩,
    ⟨0x80000000000000000, false, [.shift 271 false]⟩,
    ⟨0x600000000000000000, false, [.shift 449 false]⟩,
    ⟨0x3000000000000000000, false, [.shift 272 false]⟩,
    ⟨0x4000000000000000000, true, [.shift 272 false]⟩,
    ⟨0x800000000000000000000000, false, [.shift 289 false]⟩, ⟨128, true, [.shiftExtra]⟩],
    [(0x400000000, 482), (0xc2bdf7800000000, 459), (0x8000000000, 448)]⟩,
  ⟨0, 239, [
    ⟨2, false, [.shift 457 false]⟩, ⟨4, false, [.shift 459 false]⟩,
    ⟨0x800000000000000008, false, [.shift 448 false]⟩, ⟨112, true, [.shift 448 false]⟩,
    ⟨0x40000, true, [.shift 163 false]⟩, ⟨0x200000, false, [.shift 708 false]⟩,
    ⟨0x400000, true, [.shift 212 false]⟩, ⟨0x2000000000000000, true, [.shift 213 false]⟩,
    ⟨0x80000000000000000, false, [.shift 271 false]⟩,
    ⟨0x600000000000000000, false, [.shift 449 false]⟩,
    ⟨0x3000000000000000000, false, [.shift 272 false]⟩,
    ⟨0x4000000000000000000, true, [.shift 272 false]⟩,
    ⟨0x800000000000000000000000, false, [.shift 289 false]⟩, ⟨128, true, [.shiftExtra]⟩],
    [(0x400000000, 483), (0xc2bdf7800000000, 459), (0x8000000000, 448)]⟩,
  ⟨0, 240, [
    ⟨2, false, [.shift 457 false]⟩, ⟨4, false, [.shift 459 false]⟩,
    ⟨0x800000000000000008, false, [.shift 448 false]⟩, ⟨112, true, [.shift 448 false]⟩,
    ⟨0x40000, true, [.shift 163 false]⟩, ⟨0x200000, false, [.shift 708 false]⟩,
    ⟨0x400000, true, [.shift 212 false]⟩, ⟨0x2000000000000000, true, [.shift 213 false]⟩,
    ⟨0x80000000000000000, false, [.shift 271 false]⟩,
    ⟨0x600000000000000000, false, [.shift 449 false]⟩,
    ⟨0x3000000000000000000, false, [.shift 272 false]⟩,
    ⟨0x4000000000000000000, true, [.shift 272 false]⟩,
    ⟨0x800000000000000000000000, false, [.shift 289 false]⟩, ⟨128, true, [.shiftExtra]⟩],
    [(0x400000000, 484), (0xc2bdf7800000000, 459), (0x8000000000, 448)]⟩,
  ⟨0, 224, [
    ⟨2, false, [.shift 551 false]⟩, ⟨4, false, [.shift 459 false]⟩,
    ⟨0x800000000000000008, false, [.shift 448 false]⟩, ⟨112, true, [.shift 448 false]⟩,
    ⟨0x40000, true, [.shift 163 false]⟩, ⟨0x200000, false, [.shift 708 false]⟩,
    ⟨0x400000, true, [.shift 212 false]⟩, ⟨0x2000000000000000, true, [.shift 213 false]⟩,
    ⟨0x80000000000000000, false, [.shift 306 false]⟩,
    ⟨0x600000000000000000, false, [.shift 449 false]⟩,
    ⟨0x3000000000000000000, false, [.shift 307 false]⟩,
    ⟨0x4000000000000000000, true, [.shift 307 false]⟩,
    ⟨0x800000000000000000000000, false, [.shift 291 false]⟩, ⟨128, true, [.shiftExtra]⟩],
    [(0x400000000, 536), (0xc2bdf7800000000, 459), (0x8000000000, 448)]⟩,
  ⟨0, 225, [
    ⟨2, false, [.shift 551 false]⟩, ⟨4, false, [.shift 459 false]⟩,
    ⟨0x800000000000000008, false, [.shift 448 false]⟩, ⟨112, true, [.shift 448 false]⟩,
    ⟨0x40000, true, [.shift 160 false]⟩, ⟨0x200000, false, [.shift 708 false]⟩,
    ⟨0x400000, true, [.shift 212 false]⟩, ⟨0x2000000000000000, true, [.shift 213 false]⟩,
    ⟨0x80000000000000000, false, [.shift 306 false]⟩,
    ⟨0x600000000000000000, false, [.shift 449 false]⟩,
    ⟨0x3000000000000000000, false, [.shift 307 false]⟩,
    ⟨0x4000000000000000000, true, [.shift 307 false]⟩,
    ⟨0x800000000000000000000000, false, [.shift 291 false]⟩, ⟨128, true, [.shiftExtra]⟩],
    [(0x400000000, 564), (0xc2bdf7800000000, 459), (0x8000000000, 448)]⟩,
  ⟨0, 228, [
    ⟨2, false, [.shift 551 false]⟩, ⟨4, false, [.shift 459 false]⟩,
    ⟨0x800000000000000008, false, [.shift 448 false]⟩, ⟨112, true, [.shift 448 false]⟩,
    ⟨0x40000, true, [.shift 155 false]⟩, ⟨0x200000, false, [.shift 708 false]⟩,
    ⟨0x400000, true, [.shift 212 false]⟩, ⟨0x2000000000000000, true, [.shift 213 false]⟩,
    ⟨0x80000000000000000, false, [.shift 306 false]⟩,
    ⟨0x600000000000000000, false, [.shift 449 false]⟩,
    ⟨0x3000000000000000000, false, [.shift 307 false]⟩,
    ⟨0x4000000000000000000, true, [.shift 307 false]⟩,
    ⟨0x800000000000000000000000, false, [.shift 291 false]⟩, ⟨128, true, [.shiftExtra]⟩],
    [(0x400000000, 565), (0xc2bdf7800000000, 459), (0x8000000000, 448)]⟩,
  ⟨0, 230, [
    ⟨2, false, [.shift 457 false]⟩, ⟨4, false, [.shift 459 false]⟩,
    ⟨0x800000000000000008, false, [.shift 448 false]⟩, ⟨112, true, [.shift 448 false]⟩,
    ⟨0x40000, true, [.shift 163 false]⟩, ⟨0x200000, false, [.shift 708 false]⟩,
    ⟨0x400000, true, [.shift 212 false]⟩, ⟨0x2000000000000000, true, [.shift 213 false]⟩,
    ⟨0x80000000000000000, false, [.shift 271 false]⟩,
    ⟨0x600000000000000000, false, [.shift 449 false]⟩,
    ⟨0x3000000000000000000, false, [.shift 272 false]⟩,
    ⟨0x4000000000000000000, true, [.shift 272 false]⟩,
    ⟨0x800000000000000000000000, false, [.shift 289 false]⟩, ⟨128, true, [.shiftExtra]⟩],
    [(0x400000000, 562), (0xc2bdf7800000000, 459), (0x8000000000, 448)]⟩,
  ⟨0, 244, [
    ⟨2, false, [.shift 551 false]⟩, ⟨4, false, [.shift 459 false]⟩,
    ⟨0x800000000000000008, false, [.shift 448 false]⟩, ⟨112, true, [.shift 448 false]⟩,
    ⟨0x40000, true, [.shift 163 false]⟩, ⟨0x200000, false, [.shift 708 false]⟩,
    ⟨0x400000, true, [.shift 212 false]⟩, ⟨0x2000000000000000, true, [.shift 213 false]⟩,
    ⟨0x80000000000000000, false, [.shift 306 false]⟩,
    ⟨0x600000000000000000, false, [.shift 449 false]⟩,
    ⟨0x3000000000000000000, false, [.shift 307 false]⟩,
    ⟨0x4000000000000000000, true, [.shift 307 false]⟩,
    ⟨0x800000000000000000000000, false, [.shift 291 false]⟩, ⟨128, true, [.shiftExtra]⟩],
    [(0x400000000, 538), (0xc2bdf7800000000, 459), (0x8000000000, 448)]⟩,
  ⟨0, 252, [
    ⟨2, false, [.shift 551 false]⟩, ⟨4, false, [.shift 459 false]⟩,
    ⟨0x800000000000000008, false, [.shift 448 false]⟩, ⟨112, true, [.shift 448 false]⟩,
    ⟨0x40000, true, [.shift 163 false]⟩, ⟨0x200000, false, [.shift 708 false]⟩,
    ⟨0x400000, true, [.shift 212 false]⟩, ⟨0x2000000000000000, true, [.shift 213 false]⟩,
    ⟨0x80000000000000000, false, [.shift 306 false]⟩,
    ⟨0x600000000000000000, false, [.shift 449 false]⟩,
    ⟨0x3000000000000000000, false, [.shift 307 false]⟩,
    ⟨0x4000000000000000000, true, [.shift 307 false]⟩,
    ⟨0x800000000000000000000000, false, [.shift 291 false]⟩, ⟨128, true, [.shiftExtra]⟩],
    [(0x400000000, 539), (0xc2bdf7800000000, 459), (0x8000000000, 448)]⟩,
  ⟨0, 228, [
    ⟨2, false, [.shift 551 false]⟩, ⟨4, false, [.shift 459 false]⟩,
    ⟨0x800000000000000008, false, [.shift 448 false]⟩, ⟨112, true, [.shift 448 false]⟩,
    ⟨0x40000, true, [.shift 156 false]⟩, ⟨0x200000, false, [.shift 708 false]⟩,
    ⟨0x400000, true, [.shift 212 false]⟩, ⟨0x2000000000000000, true, [.shift 213 false]⟩,
    ⟨0x80000000000000000, false, [.shift 306 false]⟩,
    ⟨0x600000000000000000, false, [.shift 449 false]⟩,
    ⟨0x3000000000000000000, false, [.shift 307 false]⟩,
    ⟨0x4000000000000000000, true, [.shift 307 false]⟩,
    ⟨0x800000000000000000000000, false, [.shift 291 false]⟩, ⟨128, true, [.shiftExtra]⟩],
    [(0x400000000, 566), (0xc2bdf7800000000, 459), (0x8000000000, 448)]⟩,
  ⟨0, 230, [
    ⟨2, false, [.shift 457 false]⟩, ⟨4, false, [.shift 459 false]⟩,
    ⟨0x800000000000000008, false, [.shift 448 false]⟩, ⟨112, true, [.shift 448 false]⟩,
    ⟨0x40000, true, [.shift 163 false]⟩, ⟨0x200000, false, [.shift 708 false]⟩,
    ⟨0x400000, true, [.shift 212 false]⟩, ⟨0x2000000000000000, true, [.shift 213 false]⟩,
    ⟨0x80000000000000000, false, [.shift 271 false]⟩,
    ⟨0x600000000000000000, false, [.shift 449 false]⟩,
    ⟨0x3000000000000000000, false, [.shift 272 false]⟩,
    ⟨0x4000000000000000000, true, [.shift 272 false]⟩,
    ⟨0x800000000000000000000000, false, [.shift 289 false]⟩, ⟨128, true, [.shiftExtra]⟩],
    [(0x400000000, 563), (0xc2bdf7800000000, 459), (0x8000000000, 448)]⟩,
  ⟨0, 228, [
    ⟨2, false, [.shift 551 false]⟩, ⟨4, false, [.shift 459 false]⟩,
    ⟨0x800000000000000008, false, [.shift 448 false]⟩, ⟨112, true, [.shift 448 false]⟩,
    ⟨0x40000, true, [.shift 157 false]⟩, ⟨0x200000, false, [.shift 708 false]⟩,
    ⟨0x400000, true, [.shift 212 false]⟩, ⟨0x2000000000000000, true, [.shift 213 false]⟩,
    ⟨0x80000000000000000, false, [.shift 306 false]⟩,
    ⟨0x600000000000000000, false, [.shift 449 false]⟩,
    ⟨0x3000000000000000000, false, [.shift 307 false]⟩,
    ⟨0x4000000000000000000, true, [.shift 307 false]⟩,
    ⟨0x800000000000000000000000, false, [.shift 291 false]⟩, ⟨128, true, [.shiftExtra]⟩],
    [(0x400000000, 566), (0xc2bdf7800000000, 459), (0x8000000000, 448)]⟩,
  ⟨0, 228, [
    ⟨2, false, [.shift 551 false]⟩, ⟨4, false, [.shift 459 false]⟩,
    ⟨0x800000000000000008, false, [.shift 448 false]⟩, ⟨112, true, [.shift 448 false]⟩,
    ⟨0x40000, true, [.shift 158 false]⟩, ⟨0x200000, false, [.shift 708 false]⟩,
    ⟨0x400000, true, [.shift 212 false]⟩, ⟨0x2000000000000000, true, [.shift 213 false]⟩,
    ⟨0x80000000000000000, false, [.shift 306 false]⟩,
    ⟨0x600000000000000000, false, [.shift 449 false]⟩,
    ⟨0x3000000000000000000, false, [.shift 307 false]⟩,
    ⟨0x4000000000000000000, true, [.shift 307 false]⟩,
    ⟨0x800000000000000000000000, false, [.shift 291 false]⟩, ⟨128, true, [.shiftExtra]⟩],
    [(0x400000000, 565), (0xc2bdf7800000000, 459), (0x8000000000, 448)]⟩,
  ⟨0, 251, [
    ⟨2, false, [.shift 551 false]⟩, ⟨4, false, [.shift 459 false]⟩,
    ⟨0x800000000000000008, false, [.shift 448 false]⟩, ⟨112, true, [.shift 448 false]⟩,
    ⟨0x40000, true, [.shift 163 false]⟩, ⟨0x200000, false, [.shift 708 false]⟩,
    ⟨0x400000, true, [.shift 212 false]⟩, ⟨0x2000000000000000, true, [.shift 213 false]⟩,
    ⟨0x80000000000000000, false, [.shift 306 false]⟩,
    ⟨0x600000000000000000, false, [.shift 449 false]⟩,
    ⟨0x3000000000000000000, false, [.shift 307 false]⟩,
    ⟨0x4000000000000000000, true, [.shift 307 false]⟩,
    ⟨0x800000000000000000000000, false, [.shift 291 false]⟩, ⟨128, true, [.shiftExtra]⟩],
    [(0x400000000, 552), (0xc2bdf7800000000, 459), (0x8000000000, 448)]⟩,
  ⟨0, 226, [
    ⟨2, false, [.shift 308 false]⟩, ⟨4, false, [.shift 41 false]⟩,
    ⟨0x800000000000000008, false, [.shift 39 false]⟩, ⟨112, true, [.shift 39 false]⟩,
    ⟨0x40000, true, [.shift 171 false]⟩, ⟨0x200000, false, [.shift 739 false]⟩,
    ⟨0x400000, true, [.shift 202 false]⟩, ⟨0x2000000000000000, true, [.shift 204 false]⟩,
    ⟨0x80000000000000000, false, [.shift 294 false]⟩,
    ⟨0x600000000000000000, false, [.shift 40 false]⟩,
    ⟨0x3000000000000000000, false, [.shift 295 false]⟩,
    ⟨0x4000000000000000000, true, [.shift 295 false]⟩,
    ⟨0x800000000000000000000000, false, [.shift 292 false]⟩, ⟨128, true, [.shiftExtra]⟩],
    [(0x400000000, 333), (0xc2bdf7800000000, 41), (0x8000000000, 39)]⟩,
  ⟨0, 227, [
    ⟨2, false, [.shift 308 false]⟩, ⟨4, false, [.shift 41 false]⟩,
    ⟨0x800000000000000008, false, [.shift 39 false]⟩, ⟨112, true, [.shift 39 false]⟩,
    ⟨0x40000, true, [.shift 171 false]⟩, ⟨0x200000, false, [.shift 739 false]⟩,
    ⟨0x400000, true, [.shift 202 false]⟩, ⟨0x2000000000000000, true, [.shift 204 false]⟩,
    ⟨0x80000000000000000, false, [.shift 294 false]⟩,
    ⟨0x600000000000000000, false, [.shift 40 false]⟩,
    ⟨0x3000000000000000000, false, [.shift 295 false]⟩,
    ⟨0x4000000000000000000, true, [.shift 295 false]⟩,
    ⟨0x800000000000000000000000, false, [.shift 292 false]⟩, ⟨128, true, [.shiftExtra]⟩],
    [(0x400000000, 334), (0xc2bdf7800000000, 41), (0x8000000000, 39)]⟩,
  ⟨0, 231, [
    ⟨2, false, [.shift 308 false]⟩, ⟨4, false, [.shift 41 false]⟩,
    ⟨0x800000000000000008, false, [.shift 39 false]⟩, ⟨112, true, [.shift 39 false]⟩,
    ⟨0x40000, true, [.shift 171 false]⟩, ⟨0x200000, false, [.shift 739 false]⟩,
    ⟨0x400000, true, [.shift 202 false]⟩, ⟨0x2000000000000000, true, [.shift 204 false]⟩,
    ⟨0x80000000000000000, false, [.shift 294 false]⟩,
    ⟨0x600000000000000000, false, [.shift 40 false]⟩,
    ⟨0x3000000000000000000, false, [.shift 295 false]⟩,
    ⟨0x4000000000000000000, true, [.shift 295 false]⟩,
    ⟨0x800000000000000000000000, false, [.shift 292 false]⟩, ⟨128, true, [.shiftExtra]⟩],
    [(0x400000000, 323), (0xc2bdf7800000000, 41), (0x8000000000, 39)]⟩,
  ⟨0, 232, [
    ⟨2, false, [.shift 308 false]⟩, ⟨4, false, [.shift 41 false]⟩,
    ⟨0x800000000000000008, false, [.shift 39 false]⟩, ⟨112, true, [.shift 39 false]⟩,
    ⟨0x40000, true, [.shift 171 false]⟩, ⟨0x200000, false, [.shift 739 false]⟩,
    ⟨0x400000, true, [.shift 202 false]⟩, ⟨0x2000000000000000, true, [.shift 204 false]⟩,
    ⟨0x80000000000000000, false, [.shift 294 false]⟩,
    ⟨0x600000000000000000, false, [.shift 40 false]⟩,
    ⟨0x3000000000000000000, false, [.shift 295 false]⟩,
    ⟨0x4000000000000000000, true, [.shift 295 false]⟩,
    ⟨0x800000000000000000000000, false, [.shift 292 false]⟩, ⟨128, true, [.shiftExtra]⟩],
    [(0x400000000, 324), (0xc2bdf7800000000, 41), (0x8000000000, 39)]⟩,
  ⟨0, 233, [
    ⟨2, false, [.shift 308 false]⟩, ⟨4, false, [.shift 41 false]⟩,
    ⟨0x800000000000000008, false, [.shift 39 false]⟩, ⟨112, true, [.shift 39 false]⟩,
    ⟨0x40000, true, [.shift 171 false]⟩, ⟨0x200000, false, [.shift 739 false]⟩,
    ⟨0x400000, true, [.shift 202 false]⟩, ⟨0x2000000000000000, true, [.shift 204 false]⟩,
    ⟨0x80000000000000000, false, [.shift 294 false]⟩,
    ⟨0x600000000000000000, false, [.shift 40 false]⟩,
    ⟨0x3000000000000000000, false, [.shift 295 false]⟩,
    ⟨0x4000000000000000000, true, [.shift 295 false]⟩,
    ⟨0x800000000000000000000000, false, [.shift 292 false]⟩, ⟨128, true, [.shiftExtra]⟩],
    [(0x400000000, 325), (0xc2bdf7800000000, 41), (0x8000000000, 39)]⟩,
  ⟨0, 234, [
    ⟨2, false, [.shift 308 false]⟩, ⟨4, false, [.shift 41 false]⟩,
    ⟨0x800000000000000008, false, [.shift 39 false]⟩, ⟨112, true, [.shift 39 false]⟩,
    ⟨0x40000, true, [.shift 171 false]⟩, ⟨0x200000, false, [.shift 739 false]⟩,
    ⟨0x400000, true, [.shift 202 false]⟩, ⟨0x2000000000000000, true, [.shift 204 false]⟩,
    ⟨0x80000000000000000, false, [.shift 294 false]⟩,
    ⟨0x600000000000000000, false, [.shift 40 false]⟩,
    ⟨0x3000000000000000000, false, [.shift 295 false]⟩,
    ⟨0x4000000000000000000, true, [.shift 295 false]⟩,
    ⟨0x800000000000000000000000, false, [.shift 292 false]⟩, ⟨128, true, [.shiftExtra]⟩],
    [(0x400000000, 326), (0xc2bdf7800000000, 41), (0x8000000000, 39)]⟩,
  ⟨0, 235, [
    ⟨2, false, [.shift 308 false]⟩, ⟨4, false, [.shift 41 false]⟩,
    ⟨0x800000000000000008, false, [.shift 39 false]⟩, ⟨112, true, [.shift 39 false]⟩,
    ⟨0x40000, true, [.shift 171 false]⟩, ⟨0x200000, false, [.shift 739 false]⟩,
    ⟨0x400000, true, [.shift 202 false]⟩, ⟨0x2000000000000000, true, [.shift 204 false]⟩,
    ⟨0x80000000000000000, false, [.shift 294 false]⟩,
    ⟨0x600000000000000000, false, [.shift 40 false]⟩,
    ⟨0x3000000000000000000, false, [.shift 295 false]⟩,
    ⟨0x4000000000000000000, true, [.shift 295 false]⟩,
    ⟨0x800000000000000000000000, false, [.shift 292 false]⟩, ⟨128, true, [.shiftExtra]⟩],
    [(0x400000000, 327), (0xc2bdf7800000000, 41), (0x8000000000, 39)]⟩,
  ⟨0, 236, [
    ⟨2, false, [.shift 308 false]⟩, ⟨4, false, [.shift 41 false]⟩,
    ⟨0x800000000000000008, false, [.shift 39 false]⟩, ⟨112, true, [.shift 39 false]⟩,
    ⟨0x40000, true, [.shift 171 false]⟩, ⟨0x200000, false, [.shift 739 false]⟩,
    ⟨0x400000, true, [.shift 202 false]⟩, ⟨0x2000000000000000, true, [.shift 204 false]⟩,
    ⟨0x80000000000000000, false, [.shift 294 false]⟩,
    ⟨0x600000000000000000, false, [.shift 40 false]⟩,
    ⟨0x3000000000000000000, false, [.shift 295 false]⟩,
    ⟨0x4000000000000000000, true, [.shift 295 false]⟩,
    ⟨0x800000000000000000000000, false, [.shift 292 false]⟩, ⟨128, true, [.shiftExtra]⟩],
    [(0x400000000, 328), (0xc2bdf7800000000, 41), (0x8000000000, 39)]⟩,
  ⟨0, 237, [
    ⟨2, false, [.shift 308 false]⟩, ⟨4, false, [.shift 41 false]⟩,
    ⟨0x800000000000000008, false, [.shift 39 false]⟩, ⟨112, true, [.shift 39 false]⟩,
    ⟨0x40000, true, [.shift 171 false]⟩, ⟨0x200000, false, [.shift 739 false]⟩,
    ⟨0x400000, true, [.shift 202 false]⟩, ⟨0x2000000000000000, true, [.shift 204 false]⟩,
    ⟨0x80000000000000000, false, [.shift 294 false]⟩,
    ⟨0x600000000000000000, false, [.shift 40 false]⟩,
    ⟨0x3000000000000000000, false, [.shift 295 false]⟩,
    ⟨0x4000000000000000000, true, [.shift 295 false]⟩,
    ⟨0x800000000000000000000000, false, [.shift 292 false]⟩, ⟨128, true, [.shiftExtra]⟩],
    [(0x400000000, 329), (0xc2bdf7800000000, 41), (0x8000000000, 39)]⟩,
  ⟨0, 238, [
    ⟨2, false, [.shift 308 false]⟩, ⟨4, false, [.shift 41 false]⟩,
    ⟨0x800000000000000008, false, [.shift 39 false]⟩, ⟨112, true, [.shift 39 false]⟩,
    ⟨0x40000, true, [.shift 171 false]⟩, ⟨0x200000, false, [.shift 739 false]⟩,
    ⟨0x400000, true, [.shift 202 false]⟩, ⟨0x2000000000000000, true, [.shift 204 false]⟩,
    ⟨0x80000000000000000, false, [.shift 294 false]⟩,
    ⟨0x600000000000000000, false, [.shift 40 false]⟩,
    ⟨0x3000000000000000000, false, [.shift 295 false]⟩,
    ⟨0x4000000000000000000, true, [.shift 295 false]⟩,
    ⟨0x800000000000000000000000, false, [.shift 292 false]⟩, ⟨128, true, [.shiftExtra]⟩],
    [(0x400000000, 330), (0xc2bdf7800000000, 41), (0x8000000000, 39)]⟩,
  ⟨0, 239, [
    ⟨2, false, [.shift 308 false]⟩, ⟨4, false, [.shift 41 false]⟩,
    ⟨0x800000000000000008, false, [.shift 39 false]⟩, ⟨112, true, [.shift 39 false]⟩,
    ⟨0x40000, true, [.shift 171 false]⟩, ⟨0x200000, false, [.shift 739 false]⟩,
    ⟨0x400000, true, [.shift 202 false]⟩, ⟨0x2000000000000000, true, [.shift 204 false]⟩,
    ⟨0x80000000000000000, false, [.shift 294 false]⟩,
    ⟨0x600000000000000000, false, [.shift 40 false]⟩,
    ⟨0x3000000000000000000, false, [.shift 295 false]⟩,
    ⟨0x4000000000000000000, true, [.shift 295 false]⟩,
    ⟨0x800000000000000000000000, false, [.shift 292 false]⟩, ⟨128, true, [.shiftExtra]⟩],
    [(0x400000000, 331), (0xc2bdf7800000000, 41), (0x8000000000, 39)]⟩,
  ⟨0, 240, [
    ⟨2, false, [.shift 308 false]⟩, ⟨4, false, [.shift 41 false]⟩,
    ⟨0x800000000000000008, false, [.shift 39 false]⟩, ⟨112, true, [.shift 39 false]⟩,
    ⟨0x40000, true, [.shift 171 false]⟩, ⟨0x200000, false, [.shift 739 false]⟩,
    ⟨0x400000, true, [.shift 202 false]⟩, ⟨0x2000000000000000, true, [.shift 204 false]⟩,
    ⟨0x80000000000000000, false, [.shift 294 false]⟩,
    ⟨0x600000000000000000, false, [.shift 40 false]⟩,
    ⟨0x3000000000000000000, false, [.shift 295 false]⟩,
    ⟨0x4000000000000000000, true, [.shift 295 false]⟩,
    ⟨0x800000000000000000000000, false, [.shift 292 false]⟩, ⟨128, true, [.shiftExtra]⟩],
    [(0x400000000, 332), (0xc2bdf7800000000, 41), (0x8000000000, 39)]⟩,
  ⟨0, 226, [
    ⟨2, false, [.shift 551 false]⟩, ⟨4, false, [.shift 459 false]⟩,
    ⟨0x800000000000000008, false, [.shift 448 false]⟩, ⟨112, true, [.shift 448 false]⟩,
    ⟨0x40000, true, [.shift 163 false]⟩, ⟨0x200000, false, [.shift 708 false]⟩,
    ⟨0x400000, true, [.shift 212 false]⟩, ⟨0x2000000000000000, true, [.shift 213 false]⟩,
    ⟨0x80000000000000000, false, [.shift 306 false]⟩,
    ⟨0x600000000000000000, false, [.shift 449 false]⟩,
    ⟨0x3000000000000000000, false, [.shift 307 false]⟩,
    ⟨0x4000000000000000000, true, [.shift 307 false]⟩,
    ⟨0x800000000000000000000000, false, [.shift 291 false]⟩, ⟨128, true, [.shiftExtra]⟩],
    [(0x400000000, 553), (0xc2bdf7800000000, 459), (0x8000000000, 448)]⟩,
  ⟨0, 227, [
    ⟨2, false, [.shift 551 false]⟩, ⟨4, false, [.shift 459 false]⟩,
    ⟨0x800000000000000008, false, [.shift 448 false]⟩, ⟨112, true, [.shift 448 false]⟩,
    ⟨0x40000, true, [.shift 163 false]⟩, ⟨0x200000, false, [.shift 708 false]⟩,
    ⟨0x400000, true, [.shift 212 false]⟩, ⟨0x2000000000000000, true, [.shift 213 false]⟩,
    ⟨0x80000000000000000, false, [.shift 306 false]⟩,
    ⟨0x600000000000000000, false, [.shift 449 false]⟩,
    ⟨0x3000000000000000000, false, [.shift 307 false]⟩,
    ⟨0x4000000000000000000, true, [.shift 307 false]⟩,
    ⟨0x800000000000000000000000, false, [.shift 291 false]⟩, ⟨128, true, [.shiftExtra]⟩],
    [(0x400000000, 554), (0xc2bdf7800000000, 459), (0x8000000000, 448)]⟩,
  ⟨0, 87, [
    ⟨0x2060999e0000000000000000e, false, [.reduce 135 1 0]⟩,
    ⟨0x39f660102000000000480870, true, [.reduce 135 1 0]⟩, ⟨0x40000, true, [.shift 166 false]⟩,
    ⟨0x1000000000000000000000000, true, [.shift 221 false]⟩, ⟨128, true, [.shiftExtra]⟩],
    []⟩,
  ⟨0, 231, [
    ⟨2, false, [.shift 551 false]⟩, ⟨4, false, [.shift 459 false]⟩,
    ⟨0x800000000000000008, false, [.shift 448 false]⟩, ⟨112, true, [.shift 448 false]⟩,
    ⟨0x40000, true, [.shift 163 false]⟩, ⟨0x200000, false, [.shift 708 false]⟩,
    ⟨0x400000, true, [.shift 212 false]⟩, ⟨0x2000000000000000, true, [.shift 213 false]⟩,
    ⟨0x80000000000000000, false, [.shift 306 false]⟩,
    ⟨0x600000000000000000, false, [.shift 449 false]⟩,
    ⟨0x3000000000000000000, false, [.shift 307 false]⟩,
    ⟨0x4000000000000000000, true, [.shift 307 false]⟩,
    ⟨0x800000000000000000000000, false, [.shift 291 false]⟩, ⟨128, true, [.shiftExtra]⟩],
    [(0x400000000, 541), (0xc2bdf7800000000, 459), (0x8000000000, 448)]⟩,
  ⟨0, 232, [
    ⟨2, false, [.shift 551 false]⟩, ⟨4, false, [.shift 459 false]⟩,
    ⟨0x800000000000000008, false, [.shift 448 false]⟩, ⟨112, true, [.shift 448 false]⟩,
    ⟨0x40000, true, [.shift 163 false]⟩, ⟨0x200000, false, [.shift 708 false]⟩,
    ⟨0x400000, true, [.shift 212 false]⟩, ⟨0x2000000000000000, true, [.shift 213 false]⟩,
    ⟨0x80000000000000000, false, [.shift 306 false]⟩,
    ⟨0x600000000000000000, false, [.shift 449 false]⟩,
    ⟨0x3000000000000000000, false, [.shift 307 false]⟩,
    ⟨0x4000000000000000000, true, [.shift 307 false]⟩,
    ⟨0x800000000000000000000000, false, [.shift 291 false]⟩, ⟨128, true, [.shiftExtra]⟩],
    [(0x400000000, 542), (0xc2bdf7800000000, 459), (0x8000000000, 448)]⟩,
  ⟨0, 233, [
    ⟨2, false, [.shift 551 false]⟩, ⟨4, false, [.shift 459 false]⟩,
    ⟨0x800000000000000008, false, [.shift 448 false]⟩, ⟨112, true, [.shift 448 false]⟩,
    ⟨0x40000, true, [.shift 163 false]⟩, ⟨0x200000, false, [.shift 708 false]⟩,
    ⟨0x400000, true, [.shift 212 false]⟩, ⟨0x2000000000000000, true, [.shift 213 false]⟩,
    ⟨0x80000000000000000, false, [.shift 306 false]⟩,
    ⟨0x600000000000000000, false, [.shift 449 false]⟩,
    ⟨0x3000000000000000000, false, [.shift 307 false]⟩,
    ⟨0x4000000000000000000, true, [.shift 307 false]⟩,
    ⟨0x800000000000000000000000, false, [.shift 291 false]⟩, ⟨128, true, [.shiftExtra]⟩],
    [(0x400000000, 543), (0xc2bdf7800000000, 459), (0x8000000000, 448)]⟩,
  ⟨0, 234, [
    ⟨2, false, [.shift 551 false]⟩, ⟨4, false, [.shift 459 false]⟩,
    ⟨0x800000000000000008, false, [.shift 448 false]⟩, ⟨112, true, [.shift 448 false]⟩,
    ⟨0x40000, true, [.shift 163 false]⟩, ⟨0x200000, false, [.shift 708 false]⟩,
    ⟨0x400000, true, [.shift 212 false]⟩, ⟨0x2000000000000000, true, [.shift 213 false]⟩,
    ⟨0x80000000000000000, false, [.shift 306 false]⟩,
    ⟨0x600000000000000000, false, [.shift 449 false]⟩,
    ⟨0x3000000000000000000, false, [.shift 307 false]⟩,
    ⟨0x4000000000000000000, true, [.shift 307 false]⟩,
    ⟨0x800000000000000000000000, false, [.shift 291 false]⟩, ⟨128, true, [.shiftExtra]⟩],
    [(0x400000000, 544), (0xc2bdf7800000000, 459), (0x8000000000, 448)]⟩,
  ⟨0, 235, [
    ⟨2, false, [.shift 551 false]⟩, ⟨4, false, [.shift 459 false]⟩,
    ⟨0x800000000000000008, false, [.shift 448 false]⟩, ⟨112, true, [.shift 448 false]⟩,
    ⟨0x40000, true, [.shift 163 false]⟩, ⟨0x200000, false, [.shift 708 false]⟩,
    ⟨0x400000, true, [.shift 212 false]⟩, ⟨0x2000000000000000, true, [.shift 213 false]⟩,
    ⟨0x80000000000000000, false, [.shift 306 false]⟩,
    ⟨0x600000000000000000, false, [.shift 449 false]⟩,
    ⟨0x3000000000000000000, false, [.shift 307 false]⟩,
    ⟨0x4000000000000000000, true, [.shift 307 false]⟩,
    ⟨0x800000000000000000000000, false, [.shift 291 false]⟩, ⟨128, true, [.shiftExtra]⟩],
    [(0x400000000, 545), (0xc2bdf7800000000, 459), (0x8000000000, 448)]⟩,
  ⟨0, 236, [
    ⟨2, false, [.shift 551 false]⟩, ⟨4, false, [.shift 459 false]⟩,
    ⟨0x800000000000000008, false, [.shift 448 false]⟩, ⟨112, true, [.shift 448 false]⟩,
    ⟨0x40000, true, [.shift 163 false]⟩, ⟨0x200000, false, [.shift 708 false]⟩,
    ⟨0x400000, true, [.shift 212 false]⟩, ⟨0x2000000000000000, true, [.shift 213 false]⟩,
    ⟨0x80000000000000000, false, [.shift 306 false]⟩,
    ⟨0x600000000000000000, false, [.shift 449 false]⟩,
    ⟨0x3000000000000000000, false, [.shift 307 false]⟩,
    ⟨0x4000000000000000000, true, [.shift 307 false]⟩,
    ⟨0x800000000000000000000000, false, [.shift 291 false]⟩, ⟨128, true, [.shiftExtra]⟩],
    [(0x400000000, 546), (0xc2bdf7800000000, 459), (0x8000000000, 448)]⟩,
  ⟨0, 237, [
    ⟨2, false, [.shift 551 false]⟩, ⟨4, false, [.shift 459 false]⟩,
    ⟨0x800000000000000008, false, [.shift 448 false]⟩, ⟨112, true, [.shift 448 false]⟩,
    ⟨0x40000, true, [.shift 163 false]⟩, ⟨0x200000, false, [.shift 708 false]⟩,
    ⟨0x400000, true, [.shift 212 false]⟩, ⟨0x2000000000000000, true, [.shift 213 false]⟩,
    ⟨0x80000000000000000, false, [.shift 306 false]⟩,
    ⟨0x600000000000000000, false, [.shift 449 false]⟩,
    ⟨0x3000000000000000000, false, [.shift 307 false]⟩,
    ⟨0x4000000000000000000, true, [.shift 307 false]⟩,
    ⟨0x800000000000000000000000, false, [.shift 291 false]⟩, ⟨128, true, [.shiftExtra]⟩],
    [(0x400000000, 547), (0xc2bdf7800000000, 459), (0x8000000000, 448)]⟩,
  ⟨0, 238, [
    ⟨2, false, [.shift 551 false]⟩, ⟨4, false, [.shift 459 false]⟩,
    ⟨0x800000000000000008, false, [.shift 448 false]⟩, ⟨112, true, [.shift 448 false]⟩,
    ⟨0x40000, true, [.shift 163 false]⟩, ⟨0x200000, false, [.shift 708 false]⟩,
    ⟨0x400000, true, [.shift 212 false]⟩, ⟨0x2000000000000000, true, [.shift 213 false]⟩,
    ⟨0x80000000000000000, false, [.shift 306 false]⟩,
    ⟨0x600000000000000000, false, [.shift 449 false]⟩,
    ⟨0x3000000000000000000, false, [.shift 307 false]⟩,
    ⟨0x4000000000000000000, true, [.shift 307 false]⟩,
    ⟨0x800000000000000000000000, false, [.shift 291 false]⟩, ⟨128, true, [.shiftExtra]⟩],
    [(0x400000000, 548), (0xc2bdf7800000000, 459), (0x8000000000, 448)]⟩,
  ⟨0, 239, [
    ⟨2, false, [.shift 551 false]⟩, ⟨4, false, [.shift 459 false]⟩,
    ⟨0x800000000000000008, false, [.shift 448 false]⟩, ⟨112, true, [.shift 448 false]⟩,
    ⟨0x40000, true, [.shift 163 false]⟩, ⟨0x200000, false, [.shift 708 false]⟩,
    ⟨0x400000, true, [.shift 212 false]⟩, ⟨0x2000000000000000, true, [.shift 213 false]⟩,
    ⟨0x80000000000000000, false, [.shift 306 false]⟩,
    ⟨0x600000000000000000, false, [.shift 449 false]⟩,
    ⟨0x3000000000000000000, false, [.shift 307 false]⟩,
    ⟨0x4000000000000000000, true, [.shift 307 false]⟩,
    ⟨0x800000000000000000000000, false, [.shift 291 false]⟩, ⟨128, true, [.shiftExtra]⟩],
    [(0x400000000, 549), (0xc2bdf7800000000, 459), (0x8000000000, 448)]⟩,
  ⟨0, 240, [
    ⟨2, false, [.shift 551 false]⟩, ⟨4, false, [.shift 459 false]⟩,
    ⟨0x800000000000000008, false, [.shift 448 false]⟩, ⟨112, true, [.shift 448 false]⟩,
    ⟨0x40000, true, [.shift 163 false]⟩, ⟨0x200000, false, [.shift 708 false]⟩,
    ⟨0x400000, true, [.shift 212 false]⟩, ⟨0x2000000000000000, true, [.shift 213 false]⟩,
    ⟨0x80000000000000000, false, [.shift 306 false]⟩,
    ⟨0x600000000000000000, false, [.shift 449 false]⟩,
    ⟨0x3000000000000000000, false, [.shift 307 false]⟩,
    ⟨0x4000000000000000000, true, [.shift 307 false]⟩,
    ⟨0x800000000000000000000000, false, [.shift 291 false]⟩, ⟨128, true, [.shiftExtra]⟩],
    [(0x400000000, 550), (0xc2bdf7800000000, 459), (0x8000000000, 448)]⟩,
  ⟨0, 319, [
    ⟨0x2000000e0000000000000000e, false, [.reduce 152 3 29]⟩,
    ⟨0x80070, true, [.reduce 152 3 29]⟩, ⟨0x2000000000000000, true, [.shift 286 false]⟩,
    ⟨0x800, true, [.shift 581 false]⟩, ⟨0x400000, true, [.shift 205 false]⟩,
    ⟨0x100000000000000000, true, [.shift 296 false]⟩,
    ⟨0x1000000000000000000, false, [.shift 297 false]⟩,
    ⟨0x8000000000000000000, false, [.shift 298 false]⟩,
    ⟨0x10000000000000000000, false, [.shift 299 false]⟩,
    ⟨0x660000000000000000000, true, [.shift 300 false]⟩,
    ⟨0x180000000000000000000, false, [.shift 300 false]⟩,
    ⟨0x800000000000000000000, false, [.shift 301 false]⟩,
    ⟨0x1000000000000000000000, true, [.shift 301 false]⟩,
    ⟨0x2000000000000000000000, true, [.shift 302 false]⟩,
    ⟨0xc000000000000000000000, true, [.shift 303 false]⟩,
    ⟨0x10000000000000000000000, true, [.shift 297 false]⟩,
    ⟨0x60000000000000000000000, false, [.shift 304 false]⟩,
    ⟨0x80000000000000000000000, true, [.shift 304 false]⟩,
    ⟨0x100000000000000000000000, true, [.shift 305 false]⟩,
    ⟨0x200000000000000000000000, true, [.shift 770 false]⟩, ⟨128, true, [.shiftExtra]⟩],
    [(0x200000000000, 44)]⟩,
  ⟨0, 320, [
    ⟨0x2000000e0000000000000000e, false, [.reduce 152 5 33]⟩,
    ⟨0x80070, true, [.reduce 152 5 33]⟩, ⟨0x2000000000000000, true, [.shift 286 false]⟩,
    ⟨0x800, true, [.shift 582 false]⟩, ⟨0x400000, true, [.shift 205 false]⟩,
    ⟨0x100000000000000000, true, [.shift 296 false]⟩,
    ⟨0x1000000000000000000, false, [.shift 297 false]⟩,
    ⟨0x8000000000000000000, false, [.shift 298 false]⟩,
    ⟨0x10000000000000000000, false, [.shift 299 false]⟩,
    ⟨0x660000000000000000000, true, [.shift 300 false]⟩,
    ⟨0x180000000000000000000, false, [.shift 300 false]⟩,
    ⟨0x800000000000000000000, false, [.shift 301 false]⟩,
    ⟨0x1000000000000000000000, true, [.shift 301 false]⟩,
    ⟨0x2000000000000000000000, true, [.shift 302 false]⟩,
    ⟨0xc000000000000000000000, true, [.shift 303 false]⟩,
    ⟨0x10000000000000000000000, true, [.shift 297 false]⟩,
    ⟨0x60000000000000000000000, false, [.shift 304 false]⟩,
    ⟨0x80000000000000000000000, true, [.shift 304 false]⟩,
    ⟨0x100000000000000000000000, true, [.shift 305 false]⟩,
    ⟨0x200000000000000000000000, true, [.shift 770 false]⟩, ⟨128, true, [.shiftExtra]⟩],
    [(0x200000000000, 44)]⟩,
  ⟨0, 115, [
    ⟨0x40000, true, [.reduce 147 2 0]⟩, ⟨0x39f660102000000000480870, true, [.reduce 151 3 0]⟩,
    ⟨0x2060999e0000000000000000e, false, [.reduce 151 3 0]⟩, ⟨128, true, [.shiftExtra]⟩],
    []⟩,
  ⟨0, 76, [
    ⟨0x2000000e0000000000000000e, false, [.reduce 156 3 9]⟩,
    ⟨0x100000000000080870, true, [.reduce 156 3 9]⟩, ⟨0x400000, true, [.shift 205 false]⟩,
    ⟨0x2000000000000000, true, [.shift 286 false]⟩,
    ⟨0x1000000000000000000, false, [.shift 297 false]⟩,
    ⟨0x8000000000000000000, false, [.shift 298 false]⟩,
    ⟨0x10000000000000000000, false, [.shift 299 false]⟩,
    ⟨0x660000000000000000000, true, [.shift 300 false]⟩,
    ⟨0x180000000000000000000, false, [.shift 300 false]⟩,
    ⟨0x800000000000000000000, false, [.shift 301 false]⟩,
    ⟨0x1000000000000000000000, true, [.shift 301 false]⟩,
    ⟨0x2000000000000000000000, true, [.shift 302 false]⟩,
    ⟨0xc000000000000000000000, true, [.shift 303 false]⟩,
    ⟨0x10000000000000000000000, true, [.shift 297 false]⟩,
    ⟨0x60000000000000000000000, false, [.shift 304 false]⟩,
    ⟨0x80000000000000000000000, true, [.shift 304 false]⟩,
    ⟨0x100000000000000000000000, true, [.shift 305 false]⟩,
    ⟨0x200000000000000000000000, true, [.shift 770 false]⟩, ⟨128, true, [.shiftExtra]⟩],
    [(0x200000000000, 44)]⟩,
  ⟨0, 77, [
    ⟨0x2000000e0000000000000000e, false, [.reduce 134 3 0]⟩,
    ⟨0x100000000000080870, true, [.reduce 134 3 0]⟩, ⟨0x400000, true, [.shift 205 false]⟩,
    ⟨0x2000000000000000, true, [.shift 286 false]⟩,
    ⟨0x1000000000000000000, false, [.shift 297 false]⟩,
    ⟨0x8000000000000000000, false, [.shift 298 false]⟩,
    ⟨0x10000000000000000000, false, [.shift 299 false]⟩,
    ⟨0x660000000000000000000, true, [.shift 300 false]⟩,
    ⟨0x180000000000000000000, false, [.shift 300 false]⟩,
    ⟨0x800000000000000000000, false, [.shift 301 false]⟩,
    ⟨0x1000000000000000000000, true, [.shift 301 false]⟩,
    ⟨0x2000000000000000000000, true, [.shift 302 false]⟩,
    ⟨0xc000000000000000000000, true, [.shift 303 false]⟩,
    ⟨0x10000000000000000000000, true, [.shift 297 false]⟩,
    ⟨0x60000000000000000000000, false, [.shift 304 false]⟩,
    ⟨0x80000000000000000000000, true, [.shift 304 false]⟩,
    ⟨0x100000000000000000000000, true, [.shift 305 false]⟩,
    ⟨0x200000000000000000000000, true, [.shift 770 false]⟩, ⟨128, true, [.shiftExtra]⟩],
    [(0x200000000000, 44)]⟩,
  ⟨0, 78, [
    ⟨0x2000999e0000000000000000e, false, [.reduce 141 3 0]⟩,
    ⟨0x1f660100000000000080870, true, [.reduce 141 3 0]⟩, ⟨0x400000, true, [.shift 205 false]⟩,
    ⟨0x2000000000000000, true, [.shift 286 false]⟩,
    ⟨0x60000000000000000000000, false, [.shift 304 false]⟩,
    ⟨0x80000000000000000000000, true, [.shift 304 false]⟩,
    ⟨0x100000000000000000000000, true, [.shift 305 false]⟩,
    ⟨0x200000000000000000000000, true, [.shift 770 false]⟩, ⟨128, true, [.shiftExtra]⟩],
    [(0x200000000000, 44)]⟩,
  ⟨0, 79, [
    ⟨0x2000008e0000000000000000e, false, [.reduce 141 3 0]⟩,
    ⟨0x100000000000080870, true, [.reduce 141 3 0]⟩, ⟨0x400000, true, [.shift 205 false]⟩,
    ⟨0x2000000000000000, true, [.shift 286 false]⟩,
    ⟨0x1000000000000000000, false, [.shift 297 false]⟩,
    ⟨0x10000000000000000000, false, [.shift 299 false]⟩,
    ⟨0x660000000000000000000, true, [.shift 300 false]⟩,
    ⟨0x180000000000000000000, false, [.shift 300 false]⟩,
    ⟨0x800000000000000000000, false, [.shift 301 false]⟩,
    ⟨0x1000000000000000000000, true, [.shift 301 false]⟩,
    ⟨0x2000000000000000000000, true, [.shift 302 false]⟩,
    ⟨0xc000000000000000000000, true, [.shift 303 false]⟩,
    ⟨0x10000000000000000000000, true, [.shift 297 false]⟩,
    ⟨0x60000000000000000000000, false, [.shift 304 false]⟩,
    ⟨0x80000000000000000000000, true, [.shift 304 false]⟩,
    ⟨0x100000000000000000000000, true, [.shift 305 false]⟩,
    ⟨0x200000000000000000000000, true, [.shift 770 false]⟩, ⟨128, true, [.shiftExtra]⟩],
    [(0x200000000000, 44)]⟩,
  ⟨0, 80, [
    ⟨0x2000018e0000000000000000e, false, [.reduce 141 3 0]⟩,
    ⟨0x100000000000080870, true, [.reduce 141 3 0]⟩, ⟨0x400000, true, [.shift 205 false]⟩,
    ⟨0x2000000000000000, true, [.shift 286 false]⟩,
    ⟨0x1000000000000000000, false, [.shift 297 false]⟩,
    ⟨0x660000000000000000000, true, [.shift 300 false]⟩,
    ⟨0x180000000000000000000, false, [.shift 300 false]⟩,
    ⟨0x800000000000000000000, false, [.shift 301 false]⟩,
    ⟨0x1000000000000000000000, true, [.shift 301 false]⟩,
    ⟨0x2000000000000000000000, true, [.shift 302 false]⟩,
    ⟨0xc000000000000000000000, true, [.shift 303 false]⟩,
    ⟨0x10000000000000000000000, true, [.shift 297 false]⟩,
    ⟨0x60000000000000000000000, false, [.shift 304 false]⟩,
    ⟨0x80000000000000000000000, true, [.shift 304 false]⟩,
    ⟨0x100000000000000000000000, true, [.shift 305 false]⟩,
    ⟨0x200000000000000000000000, true, [.shift 770 false]⟩, ⟨128, true, [.shiftExtra]⟩],
    [(0x200000000000, 44)]⟩,
  ⟨0, 81, [
    ⟨0x2000198e0000000000000000e, false, [.reduce 141 3 0]⟩,
    ⟨0x660100000000000080870, true, [.reduce 141 3 0]⟩, ⟨0x400000, true, [.shift 205 false]⟩,
    ⟨0x2000000000000000, true, [.shift 286 false]⟩,
    ⟨0x1000000000000000000, false, [.shift 297 false]⟩,
    ⟨0x800000000000000000000, false, [.shift 301 false]⟩,
    ⟨0x1000000000000000000000, true, [.shift 301 false]⟩,
    ⟨0x2000000000000000000000, true, [.shift 302 false]⟩,
    ⟨0xc000000000000000000000, true, [.shift 303 false]⟩,
    ⟨0x10000000000000000000000, true, [.shift 297 false]⟩,
    ⟨0x60000000000000000000000, false, [.shift 304 false]⟩,
    ⟨0x80000000000000000000000, true, [.shift 304 false]⟩,
    ⟨0x100000000000000000000000, true, [.shift 305 false]⟩,
    ⟨0x200000000000000000000000, true, [.shift 770 false]⟩, ⟨128, true, [.shiftExtra]⟩],
    [(0x200000000000, 44)]⟩,
  ⟨0, 82, [
    ⟨0x2000998e0000000000000000e, false, [.reduce 141 3 0]⟩,
    ⟨0x1660100000000000080870, true, [.reduce 141 3 0]⟩, ⟨0x400000, true, [.shift 205 false]⟩,
    ⟨0x2000000000000000, true, [.shift 286 false]⟩,
    ⟨0x1000000000000000000, false, [.shift 297 false]⟩,
    ⟨0x2000000000000000000000, true, [.shift 302 false]⟩,
    ⟨0xc000000000000000000000, true, [.shift 303 false]⟩,
    ⟨0x10000000000000000000000, true, [.shift 297 false]⟩,
    ⟨0x60000000000000000000000, false, [.shift 304 false]⟩,
    ⟨0x80000000000000000000000, true, [.shift 304 false]⟩,
    ⟨0x100000000000000000000000, true, [.shift 305 false]⟩,
    ⟨0x200000000000000000000000, true, [.shift 770 false]⟩, ⟨128, true, [.shiftExtra]⟩],
    [(0x200000000000, 44)]⟩,
  ⟨0, 83, [
    ⟨0x2000998e0000000000000000e, false, [.reduce 141 3 0]⟩,
    ⟨0x3660100000000000080870, true, [.reduce 141 3 0]⟩, ⟨0x400000, true, [.shift 205 false]⟩,
    ⟨0x2000000000000000, true, [.shift 286 false]⟩,
    ⟨0x1000000000000000000, false, [.shift 297 false]⟩,
    ⟨0xc000000000000000000000, true, [.shift 303 false]⟩,
    ⟨0x10000000000000000000000, true, [.shift 297 false]⟩,
    ⟨0x60000000000000000000000, false, [.shift 304 false]⟩,
    ⟨0x80000000000000000000000, true, [.shift 304 false]⟩,
    ⟨0x100000000000000000000000, true, [.shift 305 false]⟩,
    ⟨0x200000000000000000000000, true, [.shift 770 false]⟩, ⟨128, true, [.shiftExtra]⟩],
    [(0x200000000000, 44)]⟩,
  ⟨0, 84, [
    ⟨0x2000998e0000000000000000e, false, [.reduce 141 3 0]⟩,
    ⟨0xf660100000000000080870, true, [.reduce 141 3 0]⟩, ⟨0x400000, true, [.shift 205 false]⟩,
    ⟨0x2000000000000000, true, [.shift 286 false]⟩,
    ⟨0x1000000000000000000, false, [.shift 297 false]⟩,
    ⟨0x10000000000000000000000, true, [.shift 297 false]⟩,
    ⟨0x60000000000000000000000, false, [.shift 304 false]⟩,
    ⟨0x80000000000000000000000, true, [.shift 304 false]⟩,
    ⟨0x100000000000000000000000, true, [.shift 305 false]⟩,
    ⟨0x200000000000000000000000, true, [.shift 770 false]⟩, ⟨128, true, [.shiftExtra]⟩],
    [(0x200000000000, 44)]⟩,
  ⟨0, 85, [
    ⟨0x2060999e0000000000000000e, false, [.reduce 141 3 0]⟩,
    ⟨0x9f660100000000000080870, true, [.reduce 141 3 0]⟩, ⟨0x400000, true, [.shift 205 false]⟩,
    ⟨0x2000000000000000, true, [.shift 286 false]⟩,
    ⟨0x100000000000000000000000, true, [.shift 305 false]⟩,
    ⟨0x200000000000000000000000, true, [.shift 770 false]⟩, ⟨128, true, [.shiftExtra]⟩],
    [(0x200000000000, 44)]⟩,
  ⟨0, 86, [
    ⟨0x2060999e0000000000000000e, false, [.reduce 141 3 0]⟩,
    ⟨0x9f660100000000000080870, true, [.reduce 141 3 0]⟩, ⟨0x400000, true, [.shift 205 false]⟩,
    ⟨0x2000000000000000, true, [.shift 286 false]⟩,
    ⟨0x100000000000000000000000, true, [.shift 305 false]⟩,
    ⟨0x200000000000000000000000, true, [.shift 770 false]⟩, ⟨128, true, [.shiftExtra]⟩],
    [(0x200000000000, 44)]⟩,
  ⟨0, 74, [
    ⟨0x2000000e0000000000000000e, false, [.reduce 133 2 4]⟩, ⟨0x80870, true, [.reduce 133 2 4]⟩,
    ⟨0x400000, true, [.shift 205 false]⟩, ⟨0x2000000000000000, true, [.shift 286 false]⟩,
    ⟨0x100000000000000000, true, [.shift 296 false]⟩,
    ⟨0x1000000000000000000, false, [.shift 297 false]⟩,
    ⟨0x8000000000000000000, false, [.shift 298 false]⟩,
    ⟨0x10000000000000000000, false, [.shift 299 false]⟩,
    ⟨0x660000000000000000000, true, [.shift 300 false]⟩,
    ⟨0x180000000000000000000, false, [.shift 300 false]⟩,
    ⟨0x800000000000000000000, false, [.shift 301 false]⟩,
    ⟨0x1000000000000000000000, true, [.shift 301 false]⟩,
    ⟨0x2000000000000000000000, true, [.shift 302 false]⟩,
    ⟨0xc000000000000000000000, true, [.shift 303 false]⟩,
    ⟨0x10000000000000000000000, true, [.shift 297 false]⟩,
    ⟨0x60000000000000000000000, false, [.shift 304 false]⟩,
    ⟨0x80000000000000000000000, true, [.shift 304 false]⟩,
    ⟨0x100000000000000000000000, true, [.shift 305 false]⟩,
    ⟨0x200000000000000000000000, true, [.shift 770 false]⟩, ⟨128, true, [.shiftExtra]⟩],
    [(0x200000000000, 44)]⟩,
  ⟨0, 75, [
    ⟨0x2000999e0000000000000000e, false, [.reduce 140 2 5]⟩,
    ⟨0x1f660100000000000080870, true, [.reduce 140 2 5]⟩, ⟨0x400000, true, [.shift 205 false]⟩,
    ⟨0x2000000000000000, true, [.shift 286 false]⟩,
    ⟨0x60000000000000000000000, false, [.shift 304 false]⟩,
    ⟨0x80000000000000000000000, true, [.shift 304 false]⟩,
    ⟨0x100000000000000000000000, true, [.shift 305 false]⟩,
    ⟨0x200000000000000000000000, true, [.shift 770 false]⟩, ⟨128, true, [.shiftExtra]⟩],
    [(0x200000000000, 44)]⟩,
  ⟨0, 335, [
    ⟨2, false, [.shift 381 false]⟩, ⟨0x200000, false, [.shift 751 false]⟩,
    ⟨0x400000, true, [.shift 380 false]⟩, ⟨0x1ffffe0000000000, false, [.shift 179 false]⟩,
    ⟨0x2000000000000000, true, [.shift 752 false]⟩,
    ⟨0x8000000000000000, false, [.shift 753 false]⟩,
    ⟨0x10000000000000000, false, [.shift 755 false]⟩,
    ⟨0x40000000000000000, false, [.shift 756 false]⟩, ⟨128, true, [.shiftExtra]⟩],
    [(0x17f000000, 381)]⟩,
  ⟨0, 68, [
    ⟨0x2000000e0000000000000000e, false, [.reduce 111 2 0]⟩,
    ⟨0x2000000000080870, true, [.reduce 111 2 0]⟩,
    ⟨0x39f660100000000000400000, true, [.reduce 147 2 0]⟩,
    ⟨0x60999000000000000000000, false, [.reduce 147 2 0]⟩, ⟨128, true, [.shiftExtra]⟩],
    []⟩,
  ⟨0, 335, [
    ⟨2, false, [.shift 408 false]⟩, ⟨0x200000, false, [.shift 788 false]⟩,
    ⟨0x400000, true, [.shift 431 false]⟩, ⟨0x1ffffe0000000000, false, [.shift 361 false]⟩,
    ⟨0x2000000000000000, true, [.shift 772 false]⟩,
    ⟨0x8000000000000000, false, [.shift 792 false]⟩,
    ⟨0x10000000000000000, false, [.shift 786 false]⟩,
    ⟨0x40000000000000000, false, [.shift 787 false]⟩, ⟨128, true, [.shiftExtra]⟩],
    [(0x17f000000, 408)]⟩,
  ⟨0, 338, [
    ⟨0x800003e8000000065723a30e, false, [.reduce 102 1 2]⟩,
    ⟨0x4002000000000440871, true, [.reduce 102 1 2]⟩, ⟨0x1000, false, [.shift 750 false]⟩,
    ⟨128, true, [.shiftExtra]⟩],
    []⟩,
  ⟨0, 339, [
    ⟨0x800003e8000000065723a30e, false, [.reduce 101 2 0]⟩,
    ⟨0x4002000000000440071, true, [.reduce 101 2 0]⟩, ⟨0x800, true, [.shift 616 false]⟩,
    ⟨128, true, [.shiftExtra]⟩],
    [(0x2000000000000000, 341)]⟩]

end SyntaxKit.Harneet
