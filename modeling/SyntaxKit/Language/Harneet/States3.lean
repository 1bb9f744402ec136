import SyntaxKit.Language.Basic

/-!
# Parse states 136 to 203 of Harneet

Rows of the parse automaton.  Each gives the lexical state in which its next token is read, the
first state with the same core, what to do on each set of tokens (a set is a number whose bit `i`
stands for token `i`), and the state to enter after each set of nonterminals (bit `i` stands for the
`i`-th nonterminal).
-/

namespace SyntaxKit.Harneet

/-- Parse states 136 to 203. -/
def states3 : List StateRow := [
  ⟨0, 54, [
    ⟨0x86099fe8000000065723a30e, false, [.reduce 157 4 21]⟩,
    ⟨0x39f660102000000000440071, true, [.reduce 157 4 21]⟩, ⟨128, true, [.shiftExtra]⟩],
    []⟩,
  ⟨0, 55, [
    ⟨0x86099fe8000000065723a30e, false, [.reduce 139 4 0]⟩,
    ⟨0x39f660102000000000440071, true, [.reduce 139 4 0]⟩, ⟨128, true, [.shiftExtra]⟩],
    []⟩,
  ⟨0, 56, [
    ⟨0x86099fe8000000065723a30e, false, [.reduce 146 4 0]⟩,
    ⟨0x39f660102000000000440071, true, [.reduce 146 4 0]⟩, ⟨128, true, [.shiftExtra]⟩],
    []⟩,
  ⟨0, 57, [
    ⟨0x86099fe8000000065723a30e, false, [.reduce 151 4 0]⟩,
    ⟨0x39f660102000000000440071, true, [.reduce 151 4 0]⟩, ⟨128, true, [.shiftExtra]⟩],
    []⟩,
  ⟨0, 58, [
    ⟨0x86099fe8000000065723a30e, false, [.reduce 151 4 22]⟩,
    ⟨0x39f660102000000000440071, true, [.reduce 151 4 22]⟩, ⟨128, true, [.shiftExtra]⟩],
    []⟩,
  ⟨0, 59, [
    ⟨0x86099fe8000000065723a30e, false, [.reduce 143 3 0]⟩,
    ⟨0x39f660102000000000440071, true, [.reduce 143 3 0]⟩, ⟨128, true, [.shiftExtra]⟩],
    []⟩,
  ⟨0, 60, [
    ⟨0x86099fe8000000065723a30e, false, [.reduce 149 5 8]⟩,
    ⟨0x39f660102000000000440071, true, [.reduce 149 5 8]⟩, ⟨128, true, [.shiftExtra]⟩],
    []⟩,
  ⟨0, 61, [
    ⟨0x86099fe8000000065723a30e, false, [.reduce 147 5 0]⟩,
    ⟨0x39f660102000000000440071, true, [.reduce 147 5 0]⟩, ⟨128, true, [.shiftExtra]⟩],
    []⟩,
  ⟨0, 62, [
    ⟨0x86099fe8000000065723a30e, false, [.reduce 139 5 0]⟩,
    ⟨0x39f660102000000000440071, true, [.reduce 139 5 0]⟩, ⟨128, true, [.shiftExtra]⟩],
    []⟩,
  ⟨0, 63, [
    ⟨0x86099fe8000000065723a30e, false, [.reduce 146 5 0]⟩,
    ⟨0x39f660102000000000440071, true, [.reduce 146 5 0]⟩, ⟨128, true, [.shiftExtra]⟩],
    []⟩,
  ⟨0, 64, [
    ⟨0x86099fe8000000065723a30e, false, [.reduce 151 5 22]⟩,
    ⟨0x39f660102000000000440071, true, [.reduce 151 5 22]⟩, ⟨128, true, [.shiftExtra]⟩],
    []⟩,
  ⟨0, 65, [
    ⟨0x86099fe8000000065723a30e, false, [.reduce 143 4 0]⟩,
    ⟨0x39f660102000000000440071, true, [.reduce 143 4 0]⟩, ⟨128, true, [.shiftExtra]⟩],
    []⟩,
  ⟨0, 66, [
    ⟨0x86099fe8000000065723a30e, false, [.reduce 149 6 8]⟩,
    ⟨0x39f660102000000000440071, true, [.reduce 149 6 8]⟩, ⟨128, true, [.shiftExtra]⟩],
    []⟩,
  ⟨0, 67, [
    ⟨0x86099fe8000000065723a30e, false, [.reduce 147 2 0]⟩,
    ⟨0x39f660102000000000440071, true, [.reduce 147 2 0]⟩, ⟨128, true, [.shiftExtra]⟩],
    []⟩,
  ⟨0, 130, [
    ⟨0x20000000004c0070, true, [.reduce 117 3 0]⟩,
    ⟨0x39f660100000000000000000, true, [.reduce 147 2 0]⟩,
    ⟨0x800007e8000000065723a30e, false, [.reduce 117 3 0]⟩,
    ⟨0x60998000000000000000000, false, [.reduce 147 2 0]⟩, ⟨128, true, [.shiftExtra]⟩],
    []⟩,
  ⟨0, 68, [
    ⟨0x86099fe8000000065723a30e, false, [.reduce 111 2 0]⟩,
    ⟨0x39f660102000000000440071, true, [.reduce 111 2 0]⟩, ⟨128, true, [.shiftExtra]⟩],
    []⟩,
  ⟨0, 152, [
    ⟨2, false, [.shift 111 false]⟩, ⟨4, false, [.shift 120 false]⟩,
    ⟨0x800000000000000008, false, [.shift 69 false]⟩, ⟨112, true, [.shift 69 false]⟩,
    ⟨0x65703a300, false, [.reduce 112 1 0]⟩, ⟨0x40000, true, [.shift 167 false]⟩,
    ⟨0x200000, false, [.shift 734 false]⟩, ⟨0x400000, true, [.shift 174 false]⟩,
    ⟨0x2000000000000000, true, [.shift 176 false]⟩,
    ⟨0x80000000000000000, false, [.shift 226 false]⟩,
    ⟨0x600000000000000000, false, [.shift 70 false]⟩,
    ⟨0x3000000000000000000, false, [.shift 227 false]⟩,
    ⟨0x4000000000000000000, true, [.shift 227 false]⟩,
    ⟨0x800000000000000000000000, false, [.shift 228 false]⟩, ⟨1, true, [.reduce 112 1 0]⟩,
    ⟨128, true, [.shiftExtra]⟩],
    [(0x400000000, 89), (0xc2bdf7800000000, 120), (0x8000000000, 69)]⟩,
  ⟨0, 152, [
    ⟨2, false, [.shift 87 false]⟩, ⟨4, false, [.shift 41 false]⟩,
    ⟨0x800000000000000008, false, [.shift 39 false]⟩, ⟨112, true, [.shift 39 false]⟩,
    ⟨0x65703a300, false, [.reduce 112 1 0]⟩, ⟨0x40000, true, [.shift 171 false]⟩,
    ⟨0x80000, true, [.reduce 112 1 0]⟩, ⟨0x200000, false, [.shift 739 false]⟩,
    ⟨0x400000, true, [.shift 202 false]⟩, ⟨0x2000000000000000, true, [.shift 204 false]⟩,
    ⟨0x80000000000000000, false, [.shift 254 false]⟩,
    ⟨0x600000000000000000, false, [.shift 40 false]⟩,
    ⟨0x3000000000000000000, false, [.shift 255 false]⟩,
    ⟨0x4000000000000000000, true, [.shift 255 false]⟩,
    ⟨0x800000000000000000000000, false, [.shift 285 false]⟩, ⟨128, true, [.shiftExtra]⟩],
    [(0x400000000, 112), (0xc2bdf7800000000, 41), (0x8000000000, 39)]⟩,
  ⟨0, 154, [
    ⟨2, false, [.shift 504 false]⟩, ⟨4, false, [.shift 506 false]⟩,
    ⟨0x800000000000000008, false, [.shift 448 false]⟩, ⟨112, true, [.shift 448 false]⟩,
    ⟨0x40000, true, [.shift 163 false]⟩, ⟨0x80000, true, [.shift 132 false]⟩,
    ⟨0x200000, false, [.shift 708 false]⟩, ⟨0x400000, true, [.shift 212 false]⟩,
    ⟨0x2000000000000000, true, [.shift 161 false]⟩,
    ⟨0x80000000000000000, false, [.shift 271 false]⟩,
    ⟨0x600000000000000000, false, [.shift 449 false]⟩,
    ⟨0x3000000000000000000, false, [.shift 272 false]⟩,
    ⟨0x4000000000000000000, true, [.shift 272 false]⟩,
    ⟨0x800000000000000000000000, false, [.shift 289 false]⟩,
    ⟨0x2000000000000000000000000, false, [.shift 759 false]⟩, ⟨128, true, [.shiftExtra]⟩],
    [(0x400000000, 557), (0xc2bdf3800000000, 459), (0x4000000000, 506), (0x8000000000, 448),
     (0x4000000000000, 690), (0x1000040000000000000, 567), (0x80000000000000, 711),
     (0x300000000000000, 592)]⟩,
  ⟨0, 154, [
    ⟨2, false, [.shift 504 false]⟩, ⟨4, false, [.shift 506 false]⟩,
    ⟨0x800000000000000008, false, [.shift 448 false]⟩, ⟨112, true, [.shift 448 false]⟩,
    ⟨0x40000, true, [.shift 163 false]⟩, ⟨0x80000, true, [.shift 115 false]⟩,
    ⟨0x200000, false, [.shift 708 false]⟩, ⟨0x400000, true, [.shift 212 false]⟩,
    ⟨0x2000000000000000, true, [.shift 161 false]⟩,
    ⟨0x80000000000000000, false, [.shift 271 false]⟩,
    ⟨0x600000000000000000, false, [.shift 449 false]⟩,
    ⟨0x3000000000000000000, false, [.shift 272 false]⟩,
    ⟨0x4000000000000000000, true, [.shift 272 false]⟩,
    ⟨0x800000000000000000000000, false, [.shift 289 false]⟩,
    ⟨0x2000000000000000000000000, false, [.shift 759 false]⟩, ⟨128, true, [.shiftExtra]⟩],
    [(0x400000000, 557), (0xc2bdf3800000000, 459), (0x4000000000, 506), (0x8000000000, 448),
     (0x4000000000000, 690), (0x1000040000000000000, 571), (0x80000000000000, 711),
     (0x300000000000000, 592)]⟩,
  ⟨0, 154, [
    ⟨2, false, [.shift 504 false]⟩, ⟨4, false, [.shift 506 false]⟩,
    ⟨0x800000000000000008, false, [.shift 448 false]⟩, ⟨112, true, [.shift 448 false]⟩,
    ⟨0x40000, true, [.shift 163 false]⟩, ⟨0x80000, true, [.shift 473 false]⟩,
    ⟨0x200000, false, [.shift 708 false]⟩, ⟨0x400000, true, [.shift 212 false]⟩,
    ⟨0x2000000000000000, true, [.shift 161 false]⟩,
    ⟨0x80000000000000000, false, [.shift 271 false]⟩,
    ⟨0x600000000000000000, false, [.shift 449 false]⟩,
    ⟨0x3000000000000000000, false, [.shift 272 false]⟩,
    ⟨0x4000000000000000000, true, [.shift 272 false]⟩,
    ⟨0x800000000000000000000000, false, [.shift 289 false]⟩,
    ⟨0x2000000000000000000000000, false, [.shift 759 false]⟩, ⟨128, true, [.shiftExtra]⟩],
    [(0x400000000, 557), (0xc2bdf3800000000, 459), (0x4000000000, 506), (0x8000000000, 448),
     (0x4000000000000, 690), (0x1000040000000000000, 574), (0x80000000000000, 711),
     (0x300000000000000, 592)]⟩,
  ⟨0, 154, [
    ⟨2, false, [.shift 504 false]⟩, ⟨4, false, [.shift 506 false]⟩,
    ⟨0x800000000000000008, false, [.shift 448 false]⟩, ⟨112, true, [.shift 448 false]⟩,
    ⟨0x40000, true, [.shift 163 false]⟩, ⟨0x80000, true, [.shift 561 false]⟩,
    ⟨0x200000, false, [.shift 708 false]⟩, ⟨0x400000, true, [.shift 212 false]⟩,
    ⟨0x2000000000000000, true, [.shift 161 false]⟩,
    ⟨0x80000000000000000, false, [.shift 271 false]⟩,
    ⟨0x600000000000000000, false, [.shift 449 false]⟩,
    ⟨0x3000000000000000000, false, [.shift 272 false]⟩,
    ⟨0x4000000000000000000, true, [.shift 272 false]⟩,
    ⟨0x800000000000000000000000, false, [.shift 289 false]⟩,
    ⟨0x2000000000000000000000000, false, [.shift 759 false]⟩, ⟨128, true, [.shiftExtra]⟩],
    [(0x400000000, 557), (0xc2bdf3800000000, 459), (0x4000000000, 506), (0x8000000000, 448),
     (0x4000000000000, 690), (0x1000040000000000000, 574), (0x80000000000000, 711),
     (0x300000000000000, 592)]⟩,
  ⟨0, 154, [
    ⟨2, false, [.shift 504 false]⟩, ⟨4, false, [.shift 506 false]⟩,
    ⟨0x800000000000000008, false, [.shift 448 false]⟩, ⟨112, true, [.shift 448 false]⟩,
    ⟨0x40000, true, [.shift 163 false]⟩, ⟨0x80000, true, [.shift 321 false]⟩,
    ⟨0x200000, false, [.shift 708 false]⟩, ⟨0x400000, true, [.shift 212 false]⟩,
    ⟨0x2000000000000000, true, [.shift 161 false]⟩,
    ⟨0x80000000000000000, false, [.shift 271 false]⟩,
    ⟨0x600000000000000000, false, [.shift 449 false]⟩,
    ⟨0x3000000000000000000, false, [.shift 272 false]⟩,
    ⟨0x4000000000000000000, true, [.shift 272 false]⟩,
    ⟨0x800000000000000000000000, false, [.shift 289 false]⟩,
    ⟨0x2000000000000000000000000, false, [.shift 759 false]⟩, ⟨128, true, [.shiftExtra]⟩],
    [(0x400000000, 557), (0xc2bdf3800000000, 459), (0x4000000000, 506), (0x8000000000, 448),
     (0x4000000000000, 690), (0x1000040000000000000, 571), (0x80000000000000, 711),
     (0x300000000000000, 592)]⟩,
  ⟨0, 159, [
    ⟨2, false, [.shift 457 false]⟩, ⟨4, false, [.shift 459 false]⟩,
    ⟨0x800000000000000008, false, [.shift 448 false]⟩, ⟨112, true, [.shift 448 false]⟩,
    ⟨0x40000, true, [.shift 163 false]⟩, ⟨0x80000, true, [.shift 130 false]⟩,
    ⟨0x200000, false, [.shift 708 false]⟩, ⟨0x400000, true, [.shift 212 false]⟩,
    ⟨0x80000000, false, [.shift 245 false]⟩, ⟨0x100000000, false, [.shift 710 false]⟩,
    ⟨0x2000000000000000, true, [.shift 213 false]⟩,
    ⟨0x80000000000000000, false, [.shift 271 false]⟩,
    ⟨0x600000000000000000, false, [.shift 449 false]⟩,
    ⟨0x3000000000000000000, false, [.shift 272 false]⟩,
    ⟨0x4000000000000000000, true, [.shift 272 false]⟩,
    ⟨0x800000000000000000000000, false, [.shift 289 false]⟩, ⟨128, true, [.shiftExtra]⟩],
    [(0x20000000000100000, 583), (0x200000, 758), (0x400000000, 557), (0xc2bdf7800000000, 459),
     (0x8000000000, 448), (0x4000000000000, 690)]⟩,
  ⟨0, 159, [
    ⟨2, false, [.shift 457 false]⟩, ⟨4, false, [.shift 459 false]⟩,
    ⟨0x800000000000000008, false, [.shift 448 false]⟩, ⟨112, true, [.shift 448 false]⟩,
    ⟨0x40000, true, [.shift 163 false]⟩, ⟨0x80000, true, [.shift 150 false]⟩,
    ⟨0x200000, false, [.shift 708 false]⟩, ⟨0x400000, true, [.shift 212 false]⟩,
    ⟨0x80000000, false, [.shift 245 false]⟩, ⟨0x100000000, false, [.shift 710 false]⟩,
    ⟨0x2000000000000000, true, [.shift 213 false]⟩,
    ⟨0x80000000000000000, false, [.shift 271 false]⟩,
    ⟨0x600000000000000000, false, [.shift 449 false]⟩,
    ⟨0x3000000000000000000, false, [.shift 272 false]⟩,
    ⟨0x4000000000000000000, true, [.shift 272 false]⟩,
    ⟨0x800000000000000000000000, false, [.shift 289 false]⟩, ⟨128, true, [.shiftExtra]⟩],
    [(0x20000000000100000, 586), (0x200000, 774), (0x400000000, 557), (0xc2bdf7800000000, 459),
     (0x8000000000, 448), (0x4000000000000, 690)]⟩,
  ⟨0, 161, [
    ⟨2, false, [.shift 504 false]⟩, ⟨4, false, [.shift 506 false]⟩,
    ⟨0x800000000000000008, false, [.shift 448 false]⟩, ⟨112, true, [.shift 448 false]⟩,
    ⟨0x40000, true, [.shift 163 false]⟩, ⟨0x200000, false, [.shift 708 false]⟩,
    ⟨0x400000, true, [.shift 212 false]⟩, ⟨0x2000000000000000, true, [.shift 161 false]⟩,
    ⟨0x4000000000000000, true, [.shift 509 false]⟩,
    ⟨0x80000000000000000, false, [.shift 271 false]⟩,
    ⟨0x600000000000000000, false, [.shift 449 false]⟩,
    ⟨0x3000000000000000000, false, [.shift 272 false]⟩,
    ⟨0x4000000000000000000, true, [.shift 272 false]⟩,
    ⟨0x800000000000000000000000, false, [.shift 289 false]⟩,
    ⟨0x2000000000000000000000000, false, [.shift 759 false]⟩, ⟨128, true, [.shiftExtra]⟩],
    [(0x400000000, 523), (0xc2bdf3800000000, 459), (0x4000000000, 506), (0x8000000000, 448),
     (0x80000000000000, 631), (0x300000000000000, 592)]⟩,
  ⟨0, 162, [
    ⟨2, false, [.shift 505 false]⟩, ⟨4, false, [.shift 459 false]⟩,
    ⟨0x800000000000000008, false, [.shift 448 false]⟩, ⟨112, true, [.shift 448 false]⟩,
    ⟨0x40000, true, [.shift 163 false]⟩, ⟨0x80000, true, [.shift 125 false]⟩,
    ⟨0x200000, false, [.shift 708 false]⟩, ⟨0x400000, true, [.shift 212 false]⟩,
    ⟨0x2000000000000000, true, [.shift 213 false]⟩,
    ⟨0x80000000000000000, false, [.shift 271 false]⟩,
    ⟨0x600000000000000000, false, [.shift 449 false]⟩,
    ⟨0x3000000000000000000, false, [.shift 272 false]⟩,
    ⟨0x4000000000000000000, true, [.shift 272 false]⟩,
    ⟨0x800000000000000000000000, false, [.shift 289 false]⟩, ⟨128, true, [.shiftExtra]⟩],
    [(0x400000000, 516), (0xc2bdf7800000000, 459), (0x8000000000, 448), (0x10000000000000, 615)]⟩,
  ⟨0, 163, [
    ⟨2, false, [.shift 457 false]⟩, ⟨4, false, [.shift 459 false]⟩,
    ⟨0x800000000000000008, false, [.shift 448 false]⟩, ⟨112, true, [.shift 448 false]⟩,
    ⟨0x40000, true, [.shift 163 false]⟩, ⟨0x80000, true, [.shift 458 false]⟩,
    ⟨0x200000, false, [.shift 708 false]⟩, ⟨0x400000, true, [.shift 212 false]⟩,
    ⟨0x2000000000000000, true, [.shift 213 false]⟩,
    ⟨0x80000000000000000, false, [.shift 271 false]⟩,
    ⟨0x600000000000000000, false, [.shift 449 false]⟩,
    ⟨0x3000000000000000000, false, [.shift 272 false]⟩,
    ⟨0x4000000000000000000, true, [.shift 272 false]⟩,
    ⟨0x800000000000000000000000, false, [.shift 289 false]⟩, ⟨128, true, [.shiftExtra]⟩],
    [(0x400000000, 557), (0xc2bdf7800000000, 459), (0x8000000000, 448), (0x4000000000000, 690)]⟩,
  ⟨0, 164, [
    ⟨2, false, [.shift 457 false]⟩, ⟨4, false, [.shift 459 false]⟩,
    ⟨0x800000000000000008, false, [.shift 448 false]⟩, ⟨112, true, [.shift 448 false]⟩,
    ⟨0x40000, true, [.shift 163 false]⟩, ⟨0x80000, true, [.shift 135 false]⟩,
    ⟨0x200000, false, [.shift 708 false]⟩, ⟨0x400000, true, [.shift 212 false]⟩,
    ⟨0x2000000000000000, true, [.shift 213 false]⟩,
    ⟨0x80000000000000000, false, [.shift 271 false]⟩,
    ⟨0x600000000000000000, false, [.shift 449 false]⟩,
    ⟨0x3000000000000000000, false, [.shift 272 false]⟩,
    ⟨0x4000000000000000000, true, [.shift 272 false]⟩,
    ⟨0x800000000000000000000000, false, [.shift 289 false]⟩, ⟨128, true, [.shiftExtra]⟩],
    [(0x400000000, 557), (0xc2bdf7800000000, 459), (0x8000000000, 448), (0x4000000000000, 713)]⟩,
  ⟨0, 165, [
    ⟨2, false, [.shift 457 false]⟩, ⟨4, false, [.shift 459 false]⟩,
    ⟨0x800000000000000008, false, [.shift 448 false]⟩, ⟨112, true, [.shift 448 false]⟩,
    ⟨0x40000, true, [.shift 163 false]⟩, ⟨0x80000, true, [.shift 143 false]⟩,
    ⟨0x200000, false, [.shift 708 false]⟩, ⟨0x400000, true, [.shift 212 false]⟩,
    ⟨0x2000000000000000, true, [.shift 213 false]⟩,
    ⟨0x80000000000000000, false, [.shift 271 false]⟩,
    ⟨0x600000000000000000, false, [.shift 449 false]⟩,
    ⟨0x3000000000000000000, false, [.shift 272 false]⟩,
    ⟨0x4000000000000000000, true, [.shift 272 false]⟩,
    ⟨0x800000000000000000000000, false, [.shift 289 false]⟩, ⟨128, true, [.shiftExtra]⟩],
    [(0x400000000, 557), (0xc2bdf7800000000, 459), (0x8000000000, 448), (0x4000000000000, 713)]⟩,
  ⟨0, 162, [
    ⟨2, false, [.shift 505 false]⟩, ⟨4, false, [.shift 459 false]⟩,
    ⟨0x800000000000000008, false, [.shift 448 false]⟩, ⟨112, true, [.shift 448 false]⟩,
    ⟨0x40000, true, [.shift 163 false]⟩, ⟨0x80000, true, [.shift 45 false]⟩,
    ⟨0x200000, false, [.shift 708 false]⟩, ⟨0x400000, true, [.shift 212 false]⟩,
    ⟨0x2000000000000000, true, [.shift 213 false]⟩,
    ⟨0x80000000000000000, false, [.shift 271 false]⟩,
    ⟨0x600000000000000000, false, [.shift 449 false]⟩,
    ⟨0x3000000000000000000, false, [.shift 272 false]⟩,
    ⟨0x4000000000000000000, true, [.shift 272 false]⟩,
    ⟨0x800000000000000000000000, false, [.shift 289 false]⟩, ⟨128, true, [.shiftExtra]⟩],
    [(0x400000000, 520), (0xc2bdf7800000000, 459), (0x8000000000, 448), (0x10000000000000, 669)]⟩,
  ⟨0, 163, [
    ⟨2, false, [.shift 457 false]⟩, ⟨4, false, [.shift 459 false]⟩,
    ⟨0x800000000000000008, false, [.shift 448 false]⟩, ⟨112, true, [.shift 448 false]⟩,
    ⟨0x40000, true, [.shift 163 false]⟩, ⟨0x80000, true, [.shift 149 false]⟩,
    ⟨0x200000, false, [.shift 708 false]⟩, ⟨0x400000, true, [.shift 212 false]⟩,
    ⟨0x2000000000000000, true, [.shift 213 false]⟩,
    ⟨0x80000000000000000, false, [.shift 271 false]⟩,
    ⟨0x600000000000000000, false, [.shift 449 false]⟩,
    ⟨0x3000000000000000000, false, [.shift 272 false]⟩,
    ⟨0x4000000000000000000, true, [.shift 272 false]⟩,
    ⟨0x800000000000000000000000, false, [.shift 289 false]⟩, ⟨128, true, [.shiftExtra]⟩],
    [(0x400000000, 557), (0xc2bdf7800000000, 459), (0x8000000000, 448), (0x4000000000000, 613)]⟩,
  ⟨0, 164, [
    ⟨2, false, [.shift 457 false]⟩, ⟨4, false, [.shift 459 false]⟩,
    ⟨0x800000000000000008, false, [.shift 448 false]⟩, ⟨112, true, [.shift 448 false]⟩,
    ⟨0x40000, true, [.shift 163 false]⟩, ⟨0x80000, true, [.shift 53 false]⟩,
    ⟨0x200000, false, [.shift 708 false]⟩, ⟨0x400000, true, [.shift 212 false]⟩,
    ⟨0x2000000000000000, true, [.shift 213 false]⟩,
    ⟨0x80000000000000000, false, [.shift 271 false]⟩,
    ⟨0x600000000000000000, false, [.shift 449 false]⟩,
    ⟨0x3000000000000000000, false, [.shift 272 false]⟩,
    ⟨0x4000000000000000000, true, [.shift 272 false]⟩,
    ⟨0x800000000000000000000000, false, [.shift 289 false]⟩, ⟨128, true, [.shiftExtra]⟩],
    [(0x400000000, 557), (0xc2bdf7800000000, 459), (0x8000000000, 448), (0x4000000000000, 713)]⟩,
  ⟨0, 165, [
    ⟨2, false, [.shift 457 false]⟩, ⟨4, false, [.shift 459 false]⟩,
    ⟨0x800000000000000008, false, [.shift 448 false]⟩, ⟨112, true, [.shift 448 false]⟩,
    ⟨0x40000, true, [.shift 163 false]⟩, ⟨0x80000, true, [.shift 61 false]⟩,
    ⟨0x200000, false, [.shift 708 false]⟩, ⟨0x400000, true, [.shift 212 false]⟩,
    ⟨0x2000000000000000, true, [.shift 213 false]⟩,
    ⟨0x80000000000000000, false, [.shift 271 false]⟩,
    ⟨0x600000000000000000, false, [.shift 449 false]⟩,
    ⟨0x3000000000000000000, false, [.shift 272 false]⟩,
    ⟨0x4000000000000000000, true, [.shift 272 false]⟩,
    ⟨0x800000000000000000000000, false, [.shift 289 false]⟩, ⟨128, true, [.shiftExtra]⟩],
    [(0x400000000, 557), (0xc2bdf7800000000, 459), (0x8000000000, 448), (0x4000000000000, 713)]⟩,
  ⟨0, 162, [
    ⟨2, false, [.shift 505 false]⟩, ⟨4, false, [.shift 459 false]⟩,
    ⟨0x800000000000000008, false, [.shift 448 false]⟩, ⟨112, true, [.shift 448 false]⟩,
    ⟨0x40000, true, [.shift 163 false]⟩, ⟨0x80000, true, [.shift 465 false]⟩,
    ⟨0x200000, false, [.shift 708 false]⟩, ⟨0x400000, true, [.shift 212 false]⟩,
    ⟨0x2000000000000000, true, [.shift 213 false]⟩,
    ⟨0x80000000000000000, false, [.shift 271 false]⟩,
    ⟨0x600000000000000000, false, [.shift 449 false]⟩,
    ⟨0x3000000000000000000, false, [.shift 272 false]⟩,
    ⟨0x4000000000000000000, true, [.shift 272 false]⟩,
    ⟨0x800000000000000000000000, false, [.shift 289 false]⟩, ⟨128, true, [.shiftExtra]⟩],
    [(0x400000000, 524), (0xc2bdf7800000000, 459), (0x8000000000, 448), (0x10000000000000, 691)]⟩,
  ⟨0, 163, [
    ⟨2, false, [.shift 457 false]⟩, ⟨4, false, [.shift 459 false]⟩,
    ⟨0x800000000000000008, false, [.shift 448 false]⟩, ⟨112, true, [.shift 448 false]⟩,
    ⟨0x40000, true, [.shift 163 false]⟩, ⟨0x80000, true, [.shift 67 false]⟩,
    ⟨0x200000, false, [.shift 708 false]⟩, ⟨0x400000, true, [.shift 212 false]⟩,
    ⟨0x2000000000000000, true, [.shift 213 false]⟩,
    ⟨0x80000000000000000, false, [.shift 271 false]⟩,
    ⟨0x600000000000000000, false, [.shift 449 false]⟩,
    ⟨0x3000000000000000000, false, [.shift 272 false]⟩,
    ⟨0x4000000000000000000, true, [.shift 272 false]⟩,
    ⟨0x800000000000000000000000, false, [.shift 289 false]⟩, ⟨128, true, [.shiftExtra]⟩],
    [(0x400000000, 557), (0xc2bdf7800000000, 459), (0x8000000000, 448), (0x4000000000000, 667)]⟩,
  ⟨0, 164, [
    ⟨2, false, [.shift 457 false]⟩, ⟨4, false, [.shift 459 false]⟩,
    ⟨0x800000000000000008, false, [.shift 448 false]⟩, ⟨112, true, [.shift 448 false]⟩,
    ⟨0x40000, true, [.shift 163 false]⟩, ⟨0x80000, true, [.shift 487 false]⟩,
    ⟨0x200000, false, [.shift 708 false]⟩, ⟨0x400000, true, [.shift 212 false]⟩,
    ⟨0x2000000000000000, true, [.shift 213 false]⟩,
    ⟨0x80000000000000000, false, [.shift 271 false]⟩,
    ⟨0x600000000000000000, false, [.shift 449 false]⟩,
    ⟨0x3000000000000000000, false, [.shift 272 false]⟩,
    ⟨0x4000000000000000000, true, [.shift 272 false]⟩,
    ⟨0x800000000000000000000000, false, [.shift 289 false]⟩, ⟨128, true, [.shiftExtra]⟩],
    [(0x400000000, 557), (0xc2bdf7800000000, 459), (0x8000000000, 448), (0x4000000000000, 713)]⟩,
  ⟨0, 165, [
    ⟨2, false, [.shift 457 false]⟩, ⟨4, false, [.shift 459 false]⟩,
    ⟨0x800000000000000008, false, [.shift 448 false]⟩, ⟨112, true, [.shift 448 false]⟩,
    ⟨0x40000, true, [.shift 163 false]⟩, ⟨0x80000, true, [.shift 497 false]⟩,
    ⟨0x200000, false, [.shift 708 false]⟩, ⟨0x400000, true, [.shift 212 false]⟩,
    ⟨0x2000000000000000, true, [.shift 213 false]⟩,
    ⟨0x80000000000000000, false, [.shift 271 false]⟩,
    ⟨0x600000000000000000, false, [.shift 449 false]⟩,
    ⟨0x3000000000000000000, false, [.shift 272 false]⟩,
    ⟨0x4000000000000000000, true, [.shift 272 false]⟩,
    ⟨0x800000000000000000000000, false, [.shift 289 false]⟩, ⟨128, true, [.shiftExtra]⟩],
    [(0x400000000, 557), (0xc2bdf7800000000, 459), (0x8000000000, 448), (0x4000000000000, 713)]⟩,
  ⟨0, 174, [
    ⟨2, false, [.shift 457 false]⟩, ⟨4, false, [.shift 459 false]⟩,
    ⟨0x800000000000000008, false, [.shift 448 false]⟩, ⟨112, true, [.shift 448 false]⟩,
    ⟨0x40000, true, [.shift 163 false]⟩, ⟨0x200000, false, [.shift 708 false]⟩,
    ⟨0x400000, true, [.shift 212 false]⟩, ⟨0x800000, true, [.shift 122 false]⟩,
    ⟨0x2000000000000000, true, [.shift 213 false]⟩,
    ⟨0x80000000000000000, false, [.shift 271 false]⟩,
    ⟨0x600000000000000000, false, [.shift 449 false]⟩,
    ⟨0x3000000000000000000, false, [.shift 272 false]⟩,
    ⟨0x4000000000000000000, true, [.shift 272 false]⟩,
    ⟨0x800000000000000000000000, false, [.shift 289 false]⟩, ⟨128, true, [.shiftExtra]⟩],
    [(0x400000000, 513), (0xc2bdf7800000000, 459), (0x8000000000, 448)]⟩,
  ⟨0, 175, [
    ⟨2, false, [.shift 514 false]⟩, ⟨4, false, [.shift 459 false]⟩,
    ⟨0x800000000000000008, false, [.shift 448 false]⟩, ⟨112, true, [.shift 448 false]⟩,
    ⟨0x40000, true, [.shift 8 false]⟩, ⟨0x200000, false, [.shift 708 false]⟩,
    ⟨0x400000, true, [.shift 212 false]⟩, ⟨0x2000000000000000, true, [.shift 213 false]⟩,
    ⟨0x80000000000000000, false, [.shift 306 false]⟩,
    ⟨0x600000000000000000, false, [.shift 449 false]⟩,
    ⟨0x3000000000000000000, false, [.shift 307 false]⟩,
    ⟨0x4000000000000000000, true, [.shift 307 false]⟩,
    ⟨0x800000000000000000000000, false, [.shift 291 false]⟩, ⟨128, true, [.shiftExtra]⟩],
    [(0x2000, 379), (0x400000000, 528), (0xc2bdf7800000000, 459), (0x8000000000, 448)]⟩,
  ⟨0, 176, [
    ⟨2, false, [.shift 457 false]⟩, ⟨4, false, [.shift 459 false]⟩,
    ⟨0x800000000000000008, false, [.shift 448 false]⟩, ⟨112, true, [.shift 448 false]⟩,
    ⟨0x40000, true, [.shift 163 false]⟩, ⟨0x200000, false, [.shift 708 false]⟩,
    ⟨0x400000, true, [.shift 212 false]⟩, ⟨0x2000000000000000, true, [.shift 213 false]⟩,
    ⟨0x4000000000000000, true, [.shift 123 false]⟩,
    ⟨0x80000000000000000, false, [.shift 271 false]⟩,
    ⟨0x600000000000000000, false, [.shift 449 false]⟩,
    ⟨0x3000000000000000000, false, [.shift 272 false]⟩,
    ⟨0x4000000000000000000, true, [.shift 272 false]⟩,
    ⟨0x800000000000000000000000, false, [.shift 289 false]⟩, ⟨128, true, [.shiftExtra]⟩],
    [(0x400000000, 515), (0xc2bdf7800000000, 459), (0x8000000000, 448)]⟩,
  ⟨0, 177, [
    ⟨2, false, [.shift 111 false]⟩, ⟨4, false, [.shift 120 false]⟩,
    ⟨0x800000000000000008, false, [.shift 69 false]⟩, ⟨112, true, [.shift 69 false]⟩,
    ⟨0x40000, true, [.shift 4 false]⟩, ⟨0x200000, false, [.shift 734 false]⟩,
    ⟨0x400000, true, [.shift 174 false]⟩, ⟨0x2000000000000000, true, [.shift 176 false]⟩,
    ⟨0x80000000000000000, false, [.shift 226 false]⟩,
    ⟨0x600000000000000000, false, [.shift 70 false]⟩,
    ⟨0x3000000000000000000, false, [.shift 227 false]⟩,
    ⟨0x4000000000000000000, true, [.shift 227 false]⟩,
    ⟨0x800000000000000000000000, false, [.shift 228 false]⟩, ⟨128, true, [.shiftExtra]⟩],
    [(0x2000, 126), (0x400000000, 94), (0xc2bdf7800000000, 120), (0x8000000000, 69)]⟩,
  ⟨0, 178, [
    ⟨2, false, [.shift 457 false]⟩, ⟨4, false, [.shift 459 false]⟩,
    ⟨0x800000000000000008, false, [.shift 448 false]⟩, ⟨112, true, [.shift 448 false]⟩,
    ⟨0x40000, true, [.shift 163 false]⟩, ⟨0x200000, false, [.shift 708 false]⟩,
    ⟨0x400000, true, [.shift 212 false]⟩, ⟨0x800000, true, [.shift 133 false]⟩,
    ⟨0x2000000000000000, true, [.shift 213 false]⟩,
    ⟨0x80000000000000000, false, [.shift 271 false]⟩,
    ⟨0x600000000000000000, false, [.shift 449 false]⟩,
    ⟨0x3000000000000000000, false, [.shift 272 false]⟩,
    ⟨0x4000000000000000000, true, [.shift 272 false]⟩,
    ⟨0x800000000000000000000000, false, [.shift 289 false]⟩, ⟨128, true, [.shiftExtra]⟩],
    [(0x400000000, 517), (0xc2bdf7800000000, 459), (0x8000000000, 448)]⟩,
  ⟨0, 179, [
    ⟨0x800003e8000000065723a30e, false, [.reduce 123 1 0]⟩,
    ⟨0x4006000000000dc4871, true, [.reduce 123 1 0]⟩, ⟨128, true, [.shiftExtra]⟩],
    []⟩,
  ⟨0, 180, [
    ⟨2, false, [.shift 457 false]⟩, ⟨4, false, [.shift 459 false]⟩,
    ⟨0x800000000000000008, false, [.shift 448 false]⟩, ⟨112, true, [.shift 448 false]⟩,
    ⟨0x40000, true, [.shift 163 false]⟩, ⟨0x200000, false, [.shift 708 false]⟩,
    ⟨0x400000, true, [.shift 212 false]⟩, ⟨0x800000, true, [.shift 137 false]⟩,
    ⟨0x2000000000000000, true, [.shift 213 false]⟩,
    ⟨0x80000000000000000, false, [.shift 271 false]⟩,
    ⟨0x600000000000000000, false, [.shift 449 false]⟩,
    ⟨0x3000000000000000000, false, [.shift 272 false]⟩,
    ⟨0x4000000000000000000, true, [.shift 272 false]⟩,
    ⟨0x800000000000000000000000, false, [.shift 289 false]⟩, ⟨128, true, [.shiftExtra]⟩],
    [(0x400000000, 507), (0xc2bdf7800000000, 459), (0x8000000000, 448)]⟩,
  ⟨0, 181, [
    ⟨2, false, [.shift 457 false]⟩, ⟨4, false, [.shift 459 false]⟩,
    ⟨0x800000000000000008, false, [.shift 448 false]⟩, ⟨112, true, [.shift 448 false]⟩,
    ⟨0x40000, true, [.shift 163 false]⟩, ⟨0x200000, false, [.shift 708 false]⟩,
    ⟨0x400000, true, [.shift 212 false]⟩, ⟨0x2000000000000000, true, [.shift 213 false]⟩,
    ⟨0x4000000000000000, true, [.shift 138 false]⟩,
    ⟨0x80000000000000000, false, [.shift 271 false]⟩,
    ⟨0x600000000000000000, false, [.shift 449 false]⟩,
    ⟨0x3000000000000000000, false, [.shift 272 false]⟩,
    ⟨0x4000000000000000000, true, [.shift 272 false]⟩,
    ⟨0x800000000000000000000000, false, [.shift 289 false]⟩, ⟨128, true, [.shiftExtra]⟩],
    [(0x400000000, 507), (0xc2bdf7800000000, 459), (0x8000000000, 448)]⟩,
  ⟨0, 182, [
    ⟨2, false, [.shift 457 false]⟩, ⟨4, false, [.shift 459 false]⟩,
    ⟨0x800000000000000008, false, [.shift 448 false]⟩, ⟨112, true, [.shift 448 false]⟩,
    ⟨0x40000, true, [.shift 163 false]⟩, ⟨0x80000, true, [.shift 142 false]⟩,
    ⟨0x200000, false, [.shift 708 false]⟩, ⟨0x400000, true, [.shift 212 false]⟩,
    ⟨0x2000000000000000, true, [.shift 213 false]⟩,
    ⟨0x80000000000000000, false, [.shift 271 false]⟩,
    ⟨0x600000000000000000, false, [.shift 449 false]⟩,
    ⟨0x3000000000000000000, false, [.shift 272 false]⟩,
    ⟨0x4000000000000000000, true, [.shift 272 false]⟩,
    ⟨0x800000000000000000000000, false, [.shift 289 false]⟩, ⟨128, true, [.shiftExtra]⟩],
    [(0x400000000, 507), (0xc2bdf7800000000, 459), (0x8000000000, 448)]⟩,
  ⟨0, 183, [
    ⟨0x800003e8000000065723a30e, false, [.reduce 127 2 0]⟩,
    ⟨0x4006000000000dc4871, true, [.reduce 127 2 0]⟩, ⟨128, true, [.shiftExtra]⟩],
    []⟩,
  ⟨0, 184, [
    ⟨2, false, [.shift 457 false]⟩, ⟨4, false, [.shift 459 false]⟩,
    ⟨0x800000000000000008, false, [.shift 448 false]⟩, ⟨112, true, [.shift 448 false]⟩,
    ⟨0x40000, true, [.shift 163 false]⟩, ⟨0x200000, false, [.shift 708 false]⟩,
    ⟨0x400000, true, [.shift 212 false]⟩, ⟨0x800000, true, [.shift 144 false]⟩,
    ⟨0x2000000000000000, true, [.shift 213 false]⟩,
    ⟨0x80000000000000000, false, [.shift 271 false]⟩,
    ⟨0x600000000000000000, false, [.shift 449 false]⟩,
    ⟨0x3000000000000000000, false, [.shift 272 false]⟩,
    ⟨0x4000000000000000000, true, [.shift 272 false]⟩,
    ⟨0x800000000000000000000000, false, [.shift 289 false]⟩, ⟨128, true, [.shiftExtra]⟩],
    [(0x400000000, 507), (0xc2bdf7800000000, 459), (0x8000000000, 448)]⟩,
  ⟨0, 185, [
    ⟨2, false, [.shift 457 false]⟩, ⟨4, false, [.shift 459 false]⟩,
    ⟨0x800000000000000008, false, [.shift 448 false]⟩, ⟨112, true, [.shift 448 false]⟩,
    ⟨0x40000, true, [.shift 163 false]⟩, ⟨0x200000, false, [.shift 708 false]⟩,
    ⟨0x400000, true, [.shift 212 false]⟩, ⟨0x2000000000000000, true, [.shift 213 false]⟩,
    ⟨0x4000000000000000, true, [.shift 145 false]⟩,
    ⟨0x80000000000000000, false, [.shift 271 false]⟩,
    ⟨0x600000000000000000, false, [.shift 449 false]⟩,
    ⟨0x3000000000000000000, false, [.shift 272 false]⟩,
    ⟨0x4000000000000000000, true, [.shift 272 false]⟩,
    ⟨0x800000000000000000000000, false, [.shift 289 false]⟩, ⟨128, true, [.shiftExtra]⟩],
    [(0x400000000, 507), (0xc2bdf7800000000, 459), (0x8000000000, 448)]⟩,
  ⟨0, 186, [
    ⟨2, false, [.shift 308 false]⟩, ⟨4, false, [.shift 41 false]⟩,
    ⟨0x800000000000000008, false, [.shift 39 false]⟩, ⟨112, true, [.shift 39 false]⟩,
    ⟨0x40000, true, [.shift 7 false]⟩, ⟨0x200000, false, [.shift 739 false]⟩,
    ⟨0x400000, true, [.shift 202 false]⟩, ⟨0x2000000000000000, true, [.shift 204 false]⟩,
    ⟨0x80000000000000000, false, [.shift 294 false]⟩,
    ⟨0x600000000000000000, false, [.shift 40 false]⟩,
    ⟨0x3000000000000000000, false, [.shift 295 false]⟩,
    ⟨0x4000000000000000000, true, [.shift 295 false]⟩,
    ⟨0x800000000000000000000000, false, [.shift 292 false]⟩, ⟨128, true, [.shiftExtra]⟩],
    [(0x2000, 579), (0x400000000, 319), (0xc2bdf7800000000, 41), (0x8000000000, 39)]⟩,
  ⟨0, 187, [
    ⟨2, false, [.shift 457 false]⟩, ⟨4, false, [.shift 459 false]⟩,
    ⟨0x800000000000000008, false, [.shift 448 false]⟩, ⟨112, true, [.shift 448 false]⟩,
    ⟨0x40000, true, [.shift 163 false]⟩, ⟨0x80000, true, [.shift 148 false]⟩,
    ⟨0x200000, false, [.shift 708 false]⟩, ⟨0x400000, true, [.shift 212 false]⟩,
    ⟨0x2000000000000000, true, [.shift 213 false]⟩,
    ⟨0x80000000000000000, false, [.shift 271 false]⟩,
    ⟨0x600000000000000000, false, [.shift 449 false]⟩,
    ⟨0x3000000000000000000, false, [.shift 272 false]⟩,
    ⟨0x4000000000000000000, true, [.shift 272 false]⟩,
    ⟨0x800000000000000000000000, false, [.shift 289 false]⟩, ⟨128, true, [.shiftExtra]⟩],
    [(0x400000000, 507), (0xc2bdf7800000000, 459), (0x8000000000, 448)]⟩,
  ⟨0, 188, [
    ⟨0x800003e8000000065723a30e, false, [.reduce 124 3 0]⟩,
    ⟨0x4006000000000dc4871, true, [.reduce 124 3 0]⟩, ⟨128, true, [.shiftExtra]⟩],
    []⟩,
  ⟨0, 189, [
    ⟨2, false, [.shift 457 false]⟩, ⟨4, false, [.shift 459 false]⟩,
    ⟨0x800000000000000008, false, [.shift 448 false]⟩, ⟨112, true, [.shift 448 false]⟩,
    ⟨0x40000, true, [.shift 163 false]⟩, ⟨0x200000, false, [.shift 708 false]⟩,
    ⟨0x400000, true, [.shift 212 false]⟩, ⟨0x2000000000000000, true, [.shift 213 false]⟩,
    ⟨0x80000000000000000, false, [.shift 271 false]⟩,
    ⟨0x600000000000000000, false, [.shift 449 false]⟩,
    ⟨0x3000000000000000000, false, [.shift 272 false]⟩,
    ⟨0x4000000000000000000, true, [.shift 272 false]⟩,
    ⟨0x800000000000000000000000, false, [.shift 289 false]⟩, ⟨128, true, [.shiftExtra]⟩],
    [(0x400000000, 557), (0xc2bdf7800000000, 459), (0x8000000000, 448), (0x4000000000000, 713)]⟩,
  ⟨0, 190, [
    ⟨0x800003e8000000065723a30e, false, [.reduce 126 4 0]⟩,
    ⟨0x4006000000000dc4871, true, [.reduce 126 4 0]⟩, ⟨128, true, [.shiftExtra]⟩],
    []⟩,
  ⟨0, 191, [
    ⟨0x800003e8000000065723a30e, false, [.reduce 127 4 0]⟩,
    ⟨0x4006000000000dc4871, true, [.reduce 127 4 0]⟩, ⟨128, true, [.shiftExtra]⟩],
    []⟩,
  ⟨0, 192, [
    ⟨2, false, [.shift 308 false]⟩, ⟨4, false, [.shift 41 false]⟩,
    ⟨0x800000000000000008, false, [.shift 39 false]⟩, ⟨112, true, [.shift 39 false]⟩,
    ⟨0x40000, true, [.shift 7 false]⟩, ⟨0x200000, false, [.shift 739 false]⟩,
    ⟨0x400000, true, [.shift 202 false]⟩, ⟨0x2000000000000000, true, [.shift 204 false]⟩,
    ⟨0x80000000000000000, false, [.shift 294 false]⟩,
    ⟨0x600000000000000000, false, [.shift 40 false]⟩,
    ⟨0x3000000000000000000, false, [.shift 295 false]⟩,
    ⟨0x4000000000000000000, true, [.shift 295 false]⟩,
    ⟨0x800000000000000000000000, false, [.shift 292 false]⟩, ⟨128, true, [.shiftExtra]⟩],
    [(0x2000, 580), (0x400000000, 320), (0xc2bdf7800000000, 41), (0x8000000000, 39)]⟩,
  ⟨0, 193, [
    ⟨0x800003e8000000065723a30e, false, [.reduce 126 5 0]⟩,
    ⟨0x4006000000000dc4871, true, [.reduce 126 5 0]⟩, ⟨128, true, [.shiftExtra]⟩],
    []⟩,
  ⟨0, 194, [
    ⟨0x800003e8000000065723a30e, false, [.reduce 127 5 0]⟩,
    ⟨0x4006000000000dc4871, true, [.reduce 127 5 0]⟩, ⟨128, true, [.shiftExtra]⟩],
    []⟩,
  ⟨0, 195, [
    ⟨0x800003e8000000065723a30e, false, [.reduce 125 5 0]⟩,
    ⟨0x4006000000000dc4871, true, [.reduce 125 5 0]⟩, ⟨128, true, [.shiftExtra]⟩],
    []⟩,
  ⟨0, 196, [
    ⟨0x800003e8000000065723a30e, false, [.reduce 126 6 0]⟩,
    ⟨0x4006000000000dc4871, true, [.reduce 126 6 0]⟩, ⟨128, true, [.shiftExtra]⟩],
    []⟩,
  ⟨0, 177, [
    ⟨2, false, [.shift 87 false]⟩, ⟨4, false, [.shift 41 false]⟩,
    ⟨0x800000000000000008, false, [.shift 39 false]⟩, ⟨112, true, [.shift 39 false]⟩,
    ⟨0x40000, true, [.shift 5 false]⟩, ⟨0x200000, false, [.shift 739 false]⟩,
    ⟨0x400000, true, [.shift 202 false]⟩, ⟨0x2000000000000000, true, [.shift 204 false]⟩,
    ⟨0x80000000000000000, false, [.shift 254 false]⟩,
    ⟨0x600000000000000000, false, [.shift 40 false]⟩,
    ⟨0x3000000000000000000, false, [.shift 255 false]⟩,
    ⟨0x4000000000000000000, true, [.shift 255 false]⟩,
    ⟨0x800000000000000000000000, false, [.shift 285 false]⟩, ⟨128, true, [.shiftExtra]⟩],
    [(0x2000, 46), (0x400000000, 76), (0xc2bdf7800000000, 41), (0x8000000000, 39)]⟩,
  ⟨0, 24, [
    ⟨0x40000000009c4800, true, [.reduce 126 3 0]⟩, ⟨2, false, [.shift 190 false]⟩,
    ⟨0x200000, false, [.shift 785 false]⟩, ⟨0x400000, true, [.shift 380 false]⟩,
    ⟨0x1ffffe0000000000, false, [.shift 179 false]⟩,
    ⟨0x2000000000000000, true, [.shift 791 false]⟩,
    ⟨0x8000000000000000, false, [.shift 797 false]⟩, ⟨128, true, [.shiftExtra]⟩],
    [(0x3f000000, 190)]⟩,
  ⟨0, 25, [
    ⟨0x40000000009c4800, true, [.reduce 126 4 0]⟩, ⟨2, false, [.shift 193 false]⟩,
    ⟨0x200000, false, [.shift 785 false]⟩, ⟨0x400000, true, [.shift 380 false]⟩,
    ⟨0x1ffffe0000000000, false, [.shift 179 false]⟩,
    ⟨0x2000000000000000, true, [.shift 791 false]⟩,
    ⟨0x8000000000000000, false, [.shift 797 false]⟩, ⟨128, true, [.shiftExtra]⟩],
    [(0x3f000000, 193)]⟩,
  ⟨0, 26, [
    ⟨0x40000000009c4800, true, [.reduce 126 5 0]⟩, ⟨2, false, [.shift 196 false]⟩,
    ⟨0x200000, false, [.shift 785 false]⟩, ⟨0x400000, true, [.shift 380 false]⟩,
    ⟨0x1ffffe0000000000, false, [.shift 179 false]⟩,
    ⟨0x2000000000000000, true, [.shift 791 false]⟩,
    ⟨0x8000000000000000, false, [.shift 797 false]⟩, ⟨128, true, [.shiftExtra]⟩],
    [(0x3f000000, 196)]⟩,
  ⟨0, 177, [
    ⟨2, false, [.shift 457 false]⟩, ⟨4, false, [.shift 459 false]⟩,
    ⟨0x800000000000000008, false, [.shift 448 false]⟩, ⟨112, true, [.shift 448 false]⟩,
    ⟨0x40000, true, [.shift 6 false]⟩, ⟨0x200000, false, [.shift 708 false]⟩,
    ⟨0x400000, true, [.shift 212 false]⟩, ⟨0x2000000000000000, true, [.shift 213 false]⟩,
    ⟨0x80000000000000000, false, [.shift 271 false]⟩,
    ⟨0x600000000000000000, false, [.shift 449 false]⟩,
    ⟨0x3000000000000000000, false, [.shift 272 false]⟩,
    ⟨0x4000000000000000000, true, [.shift 272 false]⟩,
    ⟨0x800000000000000000000000, false, [.shift 289 false]⟩, ⟨128, true, [.shiftExtra]⟩],
    [(0x2000, 466), (0x400000000, 467), (0xc2bdf7800000000, 459), (0x8000000000, 448)]⟩,
  ⟨0, 174, [
    ⟨2, false, [.shift 457 false]⟩, ⟨4, false, [.shift 459 false]⟩,
    ⟨0x800000000000000008, false, [.shift 448 false]⟩, ⟨112, true, [.shift 448 false]⟩,
    ⟨0x40000, true, [.shift 163 false]⟩, ⟨0x200000, false, [.shift 708 false]⟩,
    ⟨0x400000, true, [.shift 212 false]⟩, ⟨0x800000, true, [.shift 42 false]⟩,
    ⟨0x2000000000000000, true, [.shift 213 false]⟩,
    ⟨0x80000000000000000, false, [.shift 271 false]⟩,
    ⟨0x600000000000000000, false, [.shift 449 false]⟩,
    ⟨0x3000000000000000000, false, [.shift 272 false]⟩,
    ⟨0x4000000000000000000, true, [.shift 272 false]⟩,
    ⟨0x800000000000000000000000, false, [.shift 289 false]⟩, ⟨128, true, [.shiftExtra]⟩],
    [(0x400000000, 518), (0xc2bdf7800000000, 459), (0x8000000000, 448)]⟩,
  ⟨0, 175, [
    ⟨2, false, [.shift 526 false]⟩, ⟨4, false, [.shift 459 false]⟩,
    ⟨0x800000000000000008, false, [.shift 448 false]⟩, ⟨112, true, [.shift 448 false]⟩,
    ⟨0x40000, true, [.shift 9 false]⟩, ⟨0x200000, false, [.shift 708 false]⟩,
    ⟨0x400000, true, [.shift 212 false]⟩, ⟨0x2000000000000000, true, [.shift 213 false]⟩,
    ⟨0x80000000000000000, false, [.shift 306 false]⟩,
    ⟨0x600000000000000000, false, [.shift 449 false]⟩,
    ⟨0x3000000000000000000, false, [.shift 307 false]⟩,
    ⟨0x4000000000000000000, true, [.shift 307 false]⟩,
    ⟨0x800000000000000000000000, false, [.shift 291 false]⟩, ⟨128, true, [.shiftExtra]⟩],
    [(0x2000, 407), (0x400000000, 537), (0xc2bdf7800000000, 459), (0x8000000000, 448)]⟩]

end SyntaxKit.Harneet
