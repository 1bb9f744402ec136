import SyntaxKit.Language.Basic

/-!
# Parse states 68 to 135 of Harneet

Rows of the parse automaton.  Each gives the lexical state in which its next token is read, the
first state with the same core, what to do on each set of tokens (a set is a number whose bit `i`
stands for token `i`), and the state to enter after each set of nonterminals (bit `i` stands for the
`i`-th nonterminal).
-/

namespace SyntaxKit.Harneet

/-- Parse states 68 to 135. -/
def states2 : List StateRow := [
  ⟨0, 68, [
    ⟨0x286099fe8000000065723a30e, false, [.reduce 111 2 0]⟩,
    ⟨0x79f6601020000000004c0870, true, [.reduce 111 2 0]⟩, ⟨128, true, [.shiftExtra]⟩],
    []⟩,
  ⟨0, 39, [
    ⟨0x86099fe8000000065723a30e, false, [.reduce 136 1 0]⟩,
    ⟨0x39f660106000000000440871, true, [.reduce 136 1 0]⟩, ⟨128, true, [.shiftExtra]⟩],
    []⟩,
  ⟨0, 40, [
    ⟨0x86099fe8000000065723a30e, false, [.reduce 137 1 0]⟩,
    ⟨0x39f660106000000000440871, true, [.reduce 137 1 0]⟩, ⟨128, true, [.shiftExtra]⟩],
    []⟩,
  ⟨0, 71, [
    ⟨0x800006e8000000065723a30e, false, [.reduce 121 1 0]⟩, ⟨0xc0070, true, [.reduce 121 1 0]⟩,
    ⟨0x400000, true, [.shift 205 false]⟩, ⟨0x2000000000000000, true, [.shift 286 false]⟩,
    ⟨0x1000000000000000000, false, [.shift 258 false]⟩,
    ⟨0x100000000000000000, true, [.shift 257 false]⟩,
    ⟨0x8000000000000000000, false, [.shift 259 false]⟩,
    ⟨0x10000000000000000000, false, [.shift 260 false]⟩,
    ⟨0x660000000000000000000, true, [.shift 261 false]⟩,
    ⟨0x180000000000000000000, false, [.shift 261 false]⟩,
    ⟨0x800000000000000000000, false, [.shift 262 false]⟩,
    ⟨0x1000000000000000000000, true, [.shift 262 false]⟩,
    ⟨0x2000000000000000000000, true, [.shift 263 false]⟩,
    ⟨0xc000000000000000000000, true, [.shift 264 false]⟩,
    ⟨0x10000000000000000000000, true, [.shift 258 false]⟩,
    ⟨0x60000000000000000000000, false, [.shift 265 false]⟩,
    ⟨0x80000000000000000000000, true, [.shift 265 false]⟩,
    ⟨0x100000000000000000000000, true, [.shift 266 false]⟩,
    ⟨0x200000000000000000000000, true, [.shift 770 false]⟩,
    ⟨0x400000000000000000000000, true, [.shift 243 false]⟩, ⟨128, true, [.shiftExtra]⟩],
    [(0x200000000000, 44)]⟩,
  ⟨0, 37, [
    ⟨0x86099fe8000000065f23a30e, false, [.reduce 111 3 0]⟩,
    ⟨0x39f6601020000000004c0071, true, [.reduce 111 3 0]⟩, ⟨128, true, [.shiftExtra]⟩],
    []⟩,
  ⟨0, 38, [
    ⟨0x86099fe8000000065f23a30e, false, [.reduce 111 2 0]⟩,
    ⟨0x39f6601020000000004c0071, true, [.reduce 111 2 0]⟩, ⟨128, true, [.shiftExtra]⟩],
    []⟩,
  ⟨0, 74, [
    ⟨0x800006e8000000065723a30e, false, [.reduce 133 2 4]⟩,
    ⟨0x4000000000000000000c0070, true, [.reduce 133 2 4]⟩, ⟨0x400000, true, [.shift 205 false]⟩,
    ⟨0x2000000000000000, true, [.shift 286 false]⟩,
    ⟨0x100000000000000000, true, [.shift 257 false]⟩,
    ⟨0x1000000000000000000, false, [.shift 258 false]⟩,
    ⟨0x8000000000000000000, false, [.shift 259 false]⟩,
    ⟨0x10000000000000000000, false, [.shift 260 false]⟩,
    ⟨0x660000000000000000000, true, [.shift 261 false]⟩,
    ⟨0x180000000000000000000, false, [.shift 261 false]⟩,
    ⟨0x800000000000000000000, false, [.shift 262 false]⟩,
    ⟨0x1000000000000000000000, true, [.shift 262 false]⟩,
    ⟨0x2000000000000000000000, true, [.shift 263 false]⟩,
    ⟨0xc000000000000000000000, true, [.shift 264 false]⟩,
    ⟨0x10000000000000000000000, true, [.shift 258 false]⟩,
    ⟨0x60000000000000000000000, false, [.shift 265 false]⟩,
    ⟨0x80000000000000000000000, true, [.shift 265 false]⟩,
    ⟨0x100000000000000000000000, true, [.shift 266 false]⟩,
    ⟨0x200000000000000000000000, true, [.shift 770 false]⟩, ⟨128, true, [.shiftExtra]⟩],
    [(0x200000000000, 44)]⟩,
  ⟨0, 75, [
    ⟨0x80099fe8000000065723a30e, false, [.reduce 140 2 5]⟩,
    ⟨0x41f6601000000000000c0070, true, [.reduce 140 2 5]⟩, ⟨0x400000, true, [.shift 205 false]⟩,
    ⟨0x2000000000000000, true, [.shift 286 false]⟩,
    ⟨0x60000000000000000000000, false, [.shift 265 false]⟩,
    ⟨0x80000000000000000000000, true, [.shift 265 false]⟩,
    ⟨0x100000000000000000000000, true, [.shift 266 false]⟩,
    ⟨0x200000000000000000000000, true, [.shift 770 false]⟩, ⟨128, true, [.shiftExtra]⟩],
    [(0x200000000000, 44)]⟩,
  ⟨0, 76, [
    ⟨0x800006e8000000065723a30e, false, [.reduce 156 3 9]⟩,
    ⟨0x4000001000000000000c0070, true, [.reduce 156 3 9]⟩, ⟨0x400000, true, [.shift 205 false]⟩,
    ⟨0x2000000000000000, true, [.shift 286 false]⟩,
    ⟨0x1000000000000000000, false, [.shift 258 false]⟩,
    ⟨0x8000000000000000000, false, [.shift 259 false]⟩,
    ⟨0x10000000000000000000, false, [.shift 260 false]⟩,
    ⟨0x660000000000000000000, true, [.shift 261 false]⟩,
    ⟨0x180000000000000000000, false, [.shift 261 false]⟩,
    ⟨0x800000000000000000000, false, [.shift 262 false]⟩,
    ⟨0x1000000000000000000000, true, [.shift 262 false]⟩,
    ⟨0x2000000000000000000000, true, [.shift 263 false]⟩,
    ⟨0xc000000000000000000000, true, [.shift 264 false]⟩,
    ⟨0x10000000000000000000000, true, [.shift 258 false]⟩,
    ⟨0x60000000000000000000000, false, [.shift 265 false]⟩,
    ⟨0x80000000000000000000000, true, [.shift 265 false]⟩,
    ⟨0x100000000000000000000000, true, [.shift 266 false]⟩,
    ⟨0x200000000000000000000000, true, [.shift 770 false]⟩, ⟨128, true, [.shiftExtra]⟩],
    [(0x200000000000, 44)]⟩,
  ⟨0, 77, [
    ⟨0x800006e8000000065723a30e, false, [.reduce 134 3 0]⟩,
    ⟨0x4000001000000000000c0070, true, [.reduce 134 3 0]⟩, ⟨0x400000, true, [.shift 205 false]⟩,
    ⟨0x2000000000000000, true, [.shift 286 false]⟩,
    ⟨0x1000000000000000000, false, [.shift 258 false]⟩,
    ⟨0x8000000000000000000, false, [.shift 259 false]⟩,
    ⟨0x10000000000000000000, false, [.shift 260 false]⟩,
    ⟨0x660000000000000000000, true, [.shift 261 false]⟩,
    ⟨0x180000000000000000000, false, [.shift 261 false]⟩,
    ⟨0x800000000000000000000, false, [.shift 262 false]⟩,
    ⟨0x1000000000000000000000, true, [.shift 262 false]⟩,
    ⟨0x2000000000000000000000, true, [.shift 263 false]⟩,
    ⟨0xc000000000000000000000, true, [.shift 264 false]⟩,
    ⟨0x10000000000000000000000, true, [.shift 258 false]⟩,
    ⟨0x60000000000000000000000, false, [.shift 265 false]⟩,
    ⟨0x80000000000000000000000, true, [.shift 265 false]⟩,
    ⟨0x100000000000000000000000, true, [.shift 266 false]⟩,
    ⟨0x200000000000000000000000, true, [.shift 770 false]⟩, ⟨128, true, [.shiftExtra]⟩],
    [(0x200000000000, 44)]⟩,
  ⟨0, 78, [
    ⟨0x80099fe8000000065723a30e, false, [.reduce 141 3 0]⟩,
    ⟨0x41f6601000000000000c0070, true, [.reduce 141 3 0]⟩, ⟨0x400000, true, [.shift 205 false]⟩,
    ⟨0x2000000000000000, true, [.shift 286 false]⟩,
    ⟨0x60000000000000000000000, false, [.shift 265 false]⟩,
    ⟨0x80000000000000000000000, true, [.shift 265 false]⟩,
    ⟨0x100000000000000000000000, true, [.shift 266 false]⟩,
    ⟨0x200000000000000000000000, true, [.shift 770 false]⟩, ⟨128, true, [.shiftExtra]⟩],
    [(0x200000000000, 44)]⟩,
  ⟨0, 79, [
    ⟨0x80000ee8000000065723a30e, false, [.reduce 141 3 0]⟩,
    ⟨0x4000001000000000000c0070, true, [.reduce 141 3 0]⟩, ⟨0x400000, true, [.shift 205 false]⟩,
    ⟨0x2000000000000000, true, [.shift 286 false]⟩,
    ⟨0x1000000000000000000, false, [.shift 258 false]⟩,
    ⟨0x10000000000000000000, false, [.shift 260 false]⟩,
    ⟨0x660000000000000000000, true, [.shift 261 false]⟩,
    ⟨0x180000000000000000000, false, [.shift 261 false]⟩,
    ⟨0x800000000000000000000, false, [.shift 262 false]⟩,
    ⟨0x1000000000000000000000, true, [.shift 262 false]⟩,
    ⟨0x2000000000000000000000, true, [.shift 263 false]⟩,
    ⟨0xc000000000000000000000, true, [.shift 264 false]⟩,
    ⟨0x10000000000000000000000, true, [.shift 258 false]⟩,
    ⟨0x60000000000000000000000, false, [.shift 265 false]⟩,
    ⟨0x80000000000000000000000, true, [.shift 265 false]⟩,
    ⟨0x100000000000000000000000, true, [.shift 266 false]⟩,
    ⟨0x200000000000000000000000, true, [.shift 770 false]⟩, ⟨128, true, [.shiftExtra]⟩],
    [(0x200000000000, 44)]⟩,
  ⟨0, 80, [
    ⟨0x80001ee8000000065723a30e, false, [.reduce 141 3 0]⟩,
    ⟨0x4000001000000000000c0070, true, [.reduce 141 3 0]⟩, ⟨0x400000, true, [.shift 205 false]⟩,
    ⟨0x2000000000000000, true, [.shift 286 false]⟩,
    ⟨0x1000000000000000000, false, [.shift 258 false]⟩,
    ⟨0x660000000000000000000, true, [.shift 261 false]⟩,
    ⟨0x180000000000000000000, false, [.shift 261 false]⟩,
    ⟨0x800000000000000000000, false, [.shift 262 false]⟩,
    ⟨0x1000000000000000000000, true, [.shift 262 false]⟩,
    ⟨0x2000000000000000000000, true, [.shift 263 false]⟩,
    ⟨0xc000000000000000000000, true, [.shift 264 false]⟩,
    ⟨0x10000000000000000000000, true, [.shift 258 false]⟩,
    ⟨0x60000000000000000000000, false, [.shift 265 false]⟩,
    ⟨0x80000000000000000000000, true, [.shift 265 false]⟩,
    ⟨0x100000000000000000000000, true, [.shift 266 false]⟩,
    ⟨0x200000000000000000000000, true, [.shift 770 false]⟩, ⟨128, true, [.shiftExtra]⟩],
    [(0x200000000000, 44)]⟩,
  ⟨0, 81, [
    ⟨0x80019ee8000000065723a30e, false, [.reduce 141 3 0]⟩,
    ⟨0x4006601000000000000c0070, true, [.reduce 141 3 0]⟩, ⟨0x400000, true, [.shift 205 false]⟩,
    ⟨0x2000000000000000, true, [.shift 286 false]⟩,
    ⟨0x1000000000000000000, false, [.shift 258 false]⟩,
    ⟨0x800000000000000000000, false, [.shift 262 false]⟩,
    ⟨0x1000000000000000000000, true, [.shift 262 false]⟩,
    ⟨0x2000000000000000000000, true, [.shift 263 false]⟩,
    ⟨0xc000000000000000000000, true, [.shift 264 false]⟩,
    ⟨0x10000000000000000000000, true, [.shift 258 false]⟩,
    ⟨0x60000000000000000000000, false, [.shift 265 false]⟩,
    ⟨0x80000000000000000000000, true, [.shift 265 false]⟩,
    ⟨0x100000000000000000000000, true, [.shift 266 false]⟩,
    ⟨0x200000000000000000000000, true, [.shift 770 false]⟩, ⟨128, true, [.shiftExtra]⟩],
    [(0x200000000000, 44)]⟩,
  ⟨0, 82, [
    ⟨0x80099ee8000000065723a30e, false, [.reduce 141 3 0]⟩,
    ⟨0x4016601000000000000c0070, true, [.reduce 141 3 0]⟩, ⟨0x400000, true, [.shift 205 false]⟩,
    ⟨0x2000000000000000, true, [.shift 286 false]⟩,
    ⟨0x1000000000000000000, false, [.shift 258 false]⟩,
    ⟨0x2000000000000000000000, true, [.shift 263 false]⟩,
    ⟨0xc000000000000000000000, true, [.shift 264 false]⟩,
    ⟨0x10000000000000000000000, true, [.shift 258 false]⟩,
    ⟨0x60000000000000000000000, false, [.shift 265 false]⟩,
    ⟨0x80000000000000000000000, true, [.shift 265 false]⟩,
    ⟨0x100000000000000000000000, true, [.shift 266 false]⟩,
    ⟨0x200000000000000000000000, true, [.shift 770 false]⟩, ⟨128, true, [.shiftExtra]⟩],
    [(0x200000000000, 44)]⟩,
  ⟨0, 83, [
    ⟨0x80099ee8000000065723a30e, false, [.reduce 141 3 0]⟩,
    ⟨0x4036601000000000000c0070, true, [.reduce 141 3 0]⟩, ⟨0x400000, true, [.shift 205 false]⟩,
    ⟨0x2000000000000000, true, [.shift 286 false]⟩,
    ⟨0x1000000000000000000, false, [.shift 258 false]⟩,
    ⟨0xc000000000000000000000, true, [.shift 264 false]⟩,
    ⟨0x10000000000000000000000, true, [.shift 258 false]⟩,
    ⟨0x60000000000000000000000, false, [.shift 265 false]⟩,
    ⟨0x80000000000000000000000, true, [.shift 265 false]⟩,
    ⟨0x100000000000000000000000, true, [.shift 266 false]⟩,
    ⟨0x200000000000000000000000, true, [.shift 770 false]⟩, ⟨128, true, [.shiftExtra]⟩],
    [(0x200000000000, 44)]⟩,
  ⟨0, 84, [
    ⟨0x80099ee8000000065723a30e, false, [.reduce 141 3 0]⟩,
    ⟨0x40f6601000000000000c0070, true, [.reduce 141 3 0]⟩, ⟨0x400000, true, [.shift 205 false]⟩,
    ⟨0x2000000000000000, true, [.shift 286 false]⟩,
    ⟨0x1000000000000000000, false, [.shift 258 false]⟩,
    ⟨0x10000000000000000000000, true, [.shift 258 false]⟩,
    ⟨0x60000000000000000000000, false, [.shift 265 false]⟩,
    ⟨0x80000000000000000000000, true, [.shift 265 false]⟩,
    ⟨0x100000000000000000000000, true, [.shift 266 false]⟩,
    ⟨0x200000000000000000000000, true, [.shift 770 false]⟩, ⟨128, true, [.shiftExtra]⟩],
    [(0x200000000000, 44)]⟩,
  ⟨0, 85, [
    ⟨0x86099fe8000000065723a30e, false, [.reduce 141 3 0]⟩,
    ⟨0x49f6601000000000000c0070, true, [.reduce 141 3 0]⟩, ⟨0x400000, true, [.shift 205 false]⟩,
    ⟨0x2000000000000000, true, [.shift 286 false]⟩,
    ⟨0x100000000000000000000000, true, [.shift 266 false]⟩,
    ⟨0x200000000000000000000000, true, [.shift 770 false]⟩, ⟨128, true, [.shiftExtra]⟩],
    [(0x200000000000, 44)]⟩,
  ⟨0, 86, [
    ⟨0x86099fe8000000065723a30e, false, [.reduce 141 3 0]⟩,
    ⟨0x49f6601000000000000c0070, true, [.reduce 141 3 0]⟩, ⟨0x400000, true, [.shift 205 false]⟩,
    ⟨0x2000000000000000, true, [.shift 286 false]⟩,
    ⟨0x100000000000000000000000, true, [.shift 266 false]⟩,
    ⟨0x200000000000000000000000, true, [.shift 770 false]⟩, ⟨128, true, [.shiftExtra]⟩],
    [(0x200000000000, 44)]⟩,
  ⟨0, 87, [
    ⟨0x86099fe8000000065723a30e, false, [.reduce 135 1 0]⟩,
    ⟨0x79f660102000000000480070, true, [.reduce 135 1 0]⟩, ⟨0x40000, true, [.shift 166 false]⟩,
    ⟨0x1000000000000000000000000, true, [.shift 197 false]⟩, ⟨128, true, [.shiftExtra]⟩],
    []⟩,
  ⟨0, 88, [
    ⟨0x800006e8000000065723a30e, false, [.reduce 121 1 0]⟩, ⟨0x40071, true, [.reduce 121 1 0]⟩,
    ⟨0x400000, true, [.shift 178 false]⟩, ⟨0x2000000000000000, true, [.shift 230 false]⟩,
    ⟨0x1000000000000000000, false, [.shift 232 false]⟩,
    ⟨0x100000000000000000, true, [.shift 231 false]⟩,
    ⟨0x8000000000000000000, false, [.shift 233 false]⟩,
    ⟨0x10000000000000000000, false, [.shift 234 false]⟩,
    ⟨0x660000000000000000000, true, [.shift 235 false]⟩,
    ⟨0x180000000000000000000, false, [.shift 235 false]⟩,
    ⟨0x800000000000000000000, false, [.shift 236 false]⟩,
    ⟨0x1000000000000000000000, true, [.shift 236 false]⟩,
    ⟨0x2000000000000000000000, true, [.shift 237 false]⟩,
    ⟨0xc000000000000000000000, true, [.shift 238 false]⟩,
    ⟨0x10000000000000000000000, true, [.shift 232 false]⟩,
    ⟨0x60000000000000000000000, false, [.shift 239 false]⟩,
    ⟨0x80000000000000000000000, true, [.shift 239 false]⟩,
    ⟨0x100000000000000000000000, true, [.shift 240 false]⟩,
    ⟨0x200000000000000000000000, true, [.shift 749 false]⟩, ⟨128, true, [.shiftExtra]⟩],
    [(0x200000000000, 124)]⟩,
  ⟨0, 89, [
    ⟨0x800006e8000000065723a30e, false, [.reduce 112 2 0]⟩, ⟨0x40071, true, [.reduce 112 2 0]⟩,
    ⟨0x400000, true, [.shift 178 false]⟩, ⟨0x2000000000000000, true, [.shift 230 false]⟩,
    ⟨0x1000000000000000000, false, [.shift 232 false]⟩,
    ⟨0x100000000000000000, true, [.shift 231 false]⟩,
    ⟨0x8000000000000000000, false, [.shift 233 false]⟩,
    ⟨0x10000000000000000000, false, [.shift 234 false]⟩,
    ⟨0x660000000000000000000, true, [.shift 235 false]⟩,
    ⟨0x180000000000000000000, false, [.shift 235 false]⟩,
    ⟨0x800000000000000000000, false, [.shift 236 false]⟩,
    ⟨0x1000000000000000000000, true, [.shift 236 false]⟩,
    ⟨0x2000000000000000000000, true, [.shift 237 false]⟩,
    ⟨0xc000000000000000000000, true, [.shift 238 false]⟩,
    ⟨0x10000000000000000000000, true, [.shift 232 false]⟩,
    ⟨0x60000000000000000000000, false, [.shift 239 false]⟩,
    ⟨0x80000000000000000000000, true, [.shift 239 false]⟩,
    ⟨0x100000000000000000000000, true, [.shift 240 false]⟩,
    ⟨0x200000000000000000000000, true, [.shift 749 false]⟩, ⟨128, true, [.shiftExtra]⟩],
    [(0x200000000000, 124)]⟩,
  ⟨0, 90, [
    ⟨0x800006e8000000065723a30e, false, [.reduce 113 2 0]⟩, ⟨0x40071, true, [.reduce 113 2 0]⟩,
    ⟨0x400000, true, [.shift 178 false]⟩, ⟨0x2000000000000000, true, [.shift 230 false]⟩,
    ⟨0x1000000000000000000, false, [.shift 232 false]⟩,
    ⟨0x100000000000000000, true, [.shift 231 false]⟩,
    ⟨0x8000000000000000000, false, [.shift 233 false]⟩,
    ⟨0x10000000000000000000, false, [.shift 234 false]⟩,
    ⟨0x660000000000000000000, true, [.shift 235 false]⟩,
    ⟨0x180000000000000000000, false, [.shift 235 false]⟩,
    ⟨0x800000000000000000000, false, [.shift 236 false]⟩,
    ⟨0x1000000000000000000000, true, [.shift 236 false]⟩,
    ⟨0x2000000000000000000000, true, [.shift 237 false]⟩,
    ⟨0xc000000000000000000000, true, [.shift 238 false]⟩,
    ⟨0x10000000000000000000000, true, [.shift 232 false]⟩,
    ⟨0x60000000000000000000000, false, [.shift 239 false]⟩,
    ⟨0x80000000000000000000000, true, [.shift 239 false]⟩,
    ⟨0x100000000000000000000000, true, [.shift 240 false]⟩,
    ⟨0x200000000000000000000000, true, [.shift 749 false]⟩, ⟨128, true, [.shiftExtra]⟩],
    [(0x200000000000, 124)]⟩,
  ⟨0, 74, [
    ⟨0x800006e8000000065723a30e, false, [.reduce 133 2 4]⟩, ⟨0x40071, true, [.reduce 133 2 4]⟩,
    ⟨0x400000, true, [.shift 178 false]⟩, ⟨0x2000000000000000, true, [.shift 230 false]⟩,
    ⟨0x100000000000000000, true, [.shift 231 false]⟩,
    ⟨0x1000000000000000000, false, [.shift 232 false]⟩,
    ⟨0x8000000000000000000, false, [.shift 233 false]⟩,
    ⟨0x10000000000000000000, false, [.shift 234 false]⟩,
    ⟨0x660000000000000000000, true, [.shift 235 false]⟩,
    ⟨0x180000000000000000000, false, [.shift 235 false]⟩,
    ⟨0x800000000000000000000, false, [.shift 236 false]⟩,
    ⟨0x1000000000000000000000, true, [.shift 236 false]⟩,
    ⟨0x2000000000000000000000, true, [.shift 237 false]⟩,
    ⟨0xc000000000000000000000, true, [.shift 238 false]⟩,
    ⟨0x10000000000000000000000, true, [.shift 232 false]⟩,
    ⟨0x60000000000000000000000, false, [.shift 239 false]⟩,
    ⟨0x80000000000000000000000, true, [.shift 239 false]⟩,
    ⟨0x100000000000000000000000, true, [.shift 240 false]⟩,
    ⟨0x200000000000000000000000, true, [.shift 749 false]⟩, ⟨128, true, [.shiftExtra]⟩],
    [(0x200000000000, 124)]⟩,
  ⟨0, 75, [
    ⟨0x80099fe8000000065723a30e, false, [.reduce 140 2 5]⟩,
    ⟨0x1f660100000000000040071, true, [.reduce 140 2 5]⟩, ⟨0x400000, true, [.shift 178 false]⟩,
    ⟨0x2000000000000000, true, [.shift 230 false]⟩,
    ⟨0x60000000000000000000000, false, [.shift 239 false]⟩,
    ⟨0x80000000000000000000000, true, [.shift 239 false]⟩,
    ⟨0x100000000000000000000000, true, [.shift 240 false]⟩,
    ⟨0x200000000000000000000000, true, [.shift 749 false]⟩, ⟨128, true, [.shiftExtra]⟩],
    [(0x200000000000, 124)]⟩,
  ⟨0, 93, [
    ⟨0x800006e8000000065723a30e, false, [.reduce 120 3 7]⟩, ⟨0x40071, true, [.reduce 120 3 7]⟩,
    ⟨0x400000, true, [.shift 178 false]⟩, ⟨0x2000000000000000, true, [.shift 230 false]⟩,
    ⟨0x1000000000000000000, false, [.shift 232 false]⟩,
    ⟨0x100000000000000000, true, [.shift 231 false]⟩,
    ⟨0x8000000000000000000, false, [.shift 233 false]⟩,
    ⟨0x10000000000000000000, false, [.shift 234 false]⟩,
    ⟨0x660000000000000000000, true, [.shift 235 false]⟩,
    ⟨0x180000000000000000000, false, [.shift 235 false]⟩,
    ⟨0x800000000000000000000, false, [.shift 236 false]⟩,
    ⟨0x1000000000000000000000, true, [.shift 236 false]⟩,
    ⟨0x2000000000000000000000, true, [.shift 237 false]⟩,
    ⟨0xc000000000000000000000, true, [.shift 238 false]⟩,
    ⟨0x10000000000000000000000, true, [.shift 232 false]⟩,
    ⟨0x60000000000000000000000, false, [.shift 239 false]⟩,
    ⟨0x80000000000000000000000, true, [.shift 239 false]⟩,
    ⟨0x100000000000000000000000, true, [.shift 240 false]⟩,
    ⟨0x200000000000000000000000, true, [.shift 749 false]⟩, ⟨128, true, [.shiftExtra]⟩],
    [(0x200000000000, 124)]⟩,
  ⟨0, 76, [
    ⟨0x800006e8000000065723a30e, false, [.reduce 156 3 9]⟩,
    ⟨0x100000000000040071, true, [.reduce 156 3 9]⟩, ⟨0x400000, true, [.shift 178 false]⟩,
    ⟨0x2000000000000000, true, [.shift 230 false]⟩,
    ⟨0x1000000000000000000, false, [.shift 232 false]⟩,
    ⟨0x8000000000000000000, false, [.shift 233 false]⟩,
    ⟨0x10000000000000000000, false, [.shift 234 false]⟩,
    ⟨0x660000000000000000000, true, [.shift 235 false]⟩,
    ⟨0x180000000000000000000, false, [.shift 235 false]⟩,
    ⟨0x800000000000000000000, false, [.shift 236 false]⟩,
    ⟨0x1000000000000000000000, true, [.shift 236 false]⟩,
    ⟨0x2000000000000000000000, true, [.shift 237 false]⟩,
    ⟨0xc000000000000000000000, true, [.shift 238 false]⟩,
    ⟨0x10000000000000000000000, true, [.shift 232 false]⟩,
    ⟨0x60000000000000000000000, false, [.shift 239 false]⟩,
    ⟨0x80000000000000000000000, true, [.shift 239 false]⟩,
    ⟨0x100000000000000000000000, true, [.shift 240 false]⟩,
    ⟨0x200000000000000000000000, true, [.shift 749 false]⟩, ⟨128, true, [.shiftExtra]⟩],
    [(0x200000000000, 124)]⟩,
  ⟨0, 77, [
    ⟨0x800006e8000000065723a30e, false, [.reduce 134 3 0]⟩,
    ⟨0x100000000000040071, true, [.reduce 134 3 0]⟩, ⟨0x400000, true, [.shift 178 false]⟩,
    ⟨0x2000000000000000, true, [.shift 230 false]⟩,
    ⟨0x1000000000000000000, false, [.shift 232 false]⟩,
    ⟨0x8000000000000000000, false, [.shift 233 false]⟩,
    ⟨0x10000000000000000000, false, [.shift 234 false]⟩,
    ⟨0x660000000000000000000, true, [.shift 235 false]⟩,
    ⟨0x180000000000000000000, false, [.shift 235 false]⟩,
    ⟨0x800000000000000000000, false, [.shift 236 false]⟩,
    ⟨0x1000000000000000000000, true, [.shift 236 false]⟩,
    ⟨0x2000000000000000000000, true, [.shift 237 false]⟩,
    ⟨0xc000000000000000000000, true, [.shift 238 false]⟩,
    ⟨0x10000000000000000000000, true, [.shift 232 false]⟩,
    ⟨0x60000000000000000000000, false, [.shift 239 false]⟩,
    ⟨0x80000000000000000000000, true, [.shift 239 false]⟩,
    ⟨0x100000000000000000000000, true, [.shift 240 false]⟩,
    ⟨0x200000000000000000000000, true, [.shift 749 false]⟩, ⟨128, true, [.shiftExtra]⟩],
    [(0x200000000000, 124)]⟩,
  ⟨0, 78, [
    ⟨0x80099fe8000000065723a30e, false, [.reduce 141 3 0]⟩,
    ⟨0x1f660100000000000040071, true, [.reduce 141 3 0]⟩, ⟨0x400000, true, [.shift 178 false]⟩,
    ⟨0x2000000000000000, true, [.shift 230 false]⟩,
    ⟨0x60000000000000000000000, false, [.shift 239 false]⟩,
    ⟨0x80000000000000000000000, true, [.shift 239 false]⟩,
    ⟨0x100000000000000000000000, true, [.shift 240 false]⟩,
    ⟨0x200000000000000000000000, true, [.shift 749 false]⟩, ⟨128, true, [.shiftExtra]⟩],
    [(0x200000000000, 124)]⟩,
  ⟨0, 79, [
    ⟨0x80000ee8000000065723a30e, false, [.reduce 141 3 0]⟩,
    ⟨0x100000000000040071, true, [.reduce 141 3 0]⟩, ⟨0x400000, true, [.shift 178 false]⟩,
    ⟨0x2000000000000000, true, [.shift 230 false]⟩,
    ⟨0x1000000000000000000, false, [.shift 232 false]⟩,
    ⟨0x10000000000000000000, false, [.shift 234 false]⟩,
    ⟨0x660000000000000000000, true, [.shift 235 false]⟩,
    ⟨0x180000000000000000000, false, [.shift 235 false]⟩,
    ⟨0x800000000000000000000, false, [.shift 236 false]⟩,
    ⟨0x1000000000000000000000, true, [.shift 236 false]⟩,
    ⟨0x2000000000000000000000, true, [.shift 237 false]⟩,
    ⟨0xc000000000000000000000, true, [.shift 238 false]⟩,
    ⟨0x10000000000000000000000, true, [.shift 232 false]⟩,
    ⟨0x60000000000000000000000, false, [.shift 239 false]⟩,
    ⟨0x80000000000000000000000, true, [.shift 239 false]⟩,
    ⟨0x100000000000000000000000, true, [.shift 240 false]⟩,
    ⟨0x200000000000000000000000, true, [.shift 749 false]⟩, ⟨128, true, [.shiftExtra]⟩],
    [(0x200000000000, 124)]⟩,
  ⟨0, 80, [
    ⟨0x80001ee8000000065723a30e, false, [.reduce 141 3 0]⟩,
    ⟨0x100000000000040071, true, [.reduce 141 3 0]⟩, ⟨0x400000, true, [.shift 178 false]⟩,
    ⟨0x2000000000000000, true, [.shift 230 false]⟩,
    ⟨0x1000000000000000000, false, [.shift 232 false]⟩,
    ⟨0x660000000000000000000, true, [.shift 235 false]⟩,
    ⟨0x180000000000000000000, false, [.shift 235 false]⟩,
    ⟨0x800000000000000000000, false, [.shift 236 false]⟩,
    ⟨0x1000000000000000000000, true, [.shift 236 false]⟩,
    ⟨0x2000000000000000000000, true, [.shift 237 false]⟩,
    ⟨0xc000000000000000000000, true, [.shift 238 false]⟩,
    ⟨0x10000000000000000000000, true, [.shift 232 false]⟩,
    ⟨0x60000000000000000000000, false, [.shift 239 false]⟩,
    ⟨0x80000000000000000000000, true, [.shift 239 false]⟩,
    ⟨0x100000000000000000000000, true, [.shift 240 false]⟩,
    ⟨0x200000000000000000000000, true, [.shift 749 false]⟩, ⟨128, true, [.shiftExtra]⟩],
    [(0x200000000000, 124)]⟩,
  ⟨0, 81, [
    ⟨0x80019ee8000000065723a30e, false, [.reduce 141 3 0]⟩,
    ⟨0x660100000000000040071, true, [.reduce 141 3 0]⟩, ⟨0x400000, true, [.shift 178 false]⟩,
    ⟨0x2000000000000000, true, [.shift 230 false]⟩,
    ⟨0x1000000000000000000, false, [.shift 232 false]⟩,
    ⟨0x800000000000000000000, false, [.shift 236 false]⟩,
    ⟨0x1000000000000000000000, true, [.shift 236 false]⟩,
    ⟨0x2000000000000000000000, true, [.shift 237 false]⟩,
    ⟨0xc000000000000000000000, true, [.shift 238 false]⟩,
    ⟨0x10000000000000000000000, true, [.shift 232 false]⟩,
    ⟨0x60000000000000000000000, false, [.shift 239 false]⟩,
    ⟨0x80000000000000000000000, true, [.shift 239 false]⟩,
    ⟨0x100000000000000000000000, true, [.shift 240 false]⟩,
    ⟨0x200000000000000000000000, true, [.shift 749 false]⟩, ⟨128, true, [.shiftExtra]⟩],
    [(0x200000000000, 124)]⟩,
  ⟨0, 82, [
    ⟨0x80099ee8000000065723a30e, false, [.reduce 141 3 0]⟩,
    ⟨0x1660100000000000040071, true, [.reduce 141 3 0]⟩, ⟨0x400000, true, [.shift 178 false]⟩,
    ⟨0x2000000000000000, true, [.shift 230 false]⟩,
    ⟨0x1000000000000000000, false, [.shift 232 false]⟩,
    ⟨0x2000000000000000000000, true, [.shift 237 false]⟩,
    ⟨0xc000000000000000000000, true, [.shift 238 false]⟩,
    ⟨0x10000000000000000000000, true, [.shift 232 false]⟩,
    ⟨0x60000000000000000000000, false, [.shift 239 false]⟩,
    ⟨0x80000000000000000000000, true, [.shift 239 false]⟩,
    ⟨0x100000000000000000000000, true, [.shift 240 false]⟩,
    ⟨0x200000000000000000000000, true, [.shift 749 false]⟩, ⟨128, true, [.shiftExtra]⟩],
    [(0x200000000000, 124)]⟩,
  ⟨0, 83, [
    ⟨0x80099ee8000000065723a30e, false, [.reduce 141 3 0]⟩,
    ⟨0x3660100000000000040071, true, [.reduce 141 3 0]⟩, ⟨0x400000, true, [.shift 178 false]⟩,
    ⟨0x2000000000000000, true, [.shift 230 false]⟩,
    ⟨0x1000000000000000000, false, [.shift 232 false]⟩,
    ⟨0xc000000000000000000000, true, [.shift 238 false]⟩,
    ⟨0x10000000000000000000000, true, [.shift 232 false]⟩,
    ⟨0x60000000000000000000000, false, [.shift 239 false]⟩,
    ⟨0x80000000000000000000000, true, [.shift 239 false]⟩,
    ⟨0x100000000000000000000000, true, [.shift 240 false]⟩,
    ⟨0x200000000000000000000000, true, [.shift 749 false]⟩, ⟨128, true, [.shiftExtra]⟩],
    [(0x200000000000, 124)]⟩,
  ⟨0, 84, [
    ⟨0x80099ee8000000065723a30e, false, [.reduce 141 3 0]⟩,
    ⟨0xf660100000000000040071, true, [.reduce 141 3 0]⟩, ⟨0x400000, true, [.shift 178 false]⟩,
    ⟨0x2000000000000000, true, [.shift 230 false]⟩,
    ⟨0x1000000000000000000, false, [.shift 232 false]⟩,
    ⟨0x10000000000000000000000, true, [.shift 232 false]⟩,
    ⟨0x60000000000000000000000, false, [.shift 239 false]⟩,
    ⟨0x80000000000000000000000, true, [.shift 239 false]⟩,
    ⟨0x100000000000000000000000, true, [.shift 240 false]⟩,
    ⟨0x200000000000000000000000, true, [.shift 749 false]⟩, ⟨128, true, [.shiftExtra]⟩],
    [(0x200000000000, 124)]⟩,
  ⟨0, 85, [
    ⟨0x86099fe8000000065723a30e, false, [.reduce 141 3 0]⟩,
    ⟨0x9f660100000000000040071, true, [.reduce 141 3 0]⟩, ⟨0x400000, true, [.shift 178 false]⟩,
    ⟨0x2000000000000000, true, [.shift 230 false]⟩,
    ⟨0x100000000000000000000000, true, [.shift 240 false]⟩,
    ⟨0x200000000000000000000000, true, [.shift 749 false]⟩, ⟨128, true, [.shiftExtra]⟩],
    [(0x200000000000, 124)]⟩,
  ⟨0, 86, [
    ⟨0x86099fe8000000065723a30e, false, [.reduce 141 3 0]⟩,
    ⟨0x9f660100000000000040071, true, [.reduce 141 3 0]⟩, ⟨0x400000, true, [.shift 178 false]⟩,
    ⟨0x2000000000000000, true, [.shift 230 false]⟩,
    ⟨0x100000000000000000000000, true, [.shift 240 false]⟩,
    ⟨0x200000000000000000000000, true, [.shift 749 false]⟩, ⟨128, true, [.shiftExtra]⟩],
    [(0x200000000000, 124)]⟩,
  ⟨0, 105, [
    ⟨0x800006e8000000065723a30e, false, [.reduce 103 4 17]⟩, ⟨0x40071, true, [.reduce 103 4 17]⟩,
    ⟨0x400000, true, [.shift 178 false]⟩, ⟨0x2000000000000000, true, [.shift 230 false]⟩,
    ⟨0x1000000000000000000, false, [.shift 232 false]⟩,
    ⟨0x100000000000000000, true, [.shift 231 false]⟩,
    ⟨0x8000000000000000000, false, [.shift 233 false]⟩,
    ⟨0x10000000000000000000, false, [.shift 234 false]⟩,
    ⟨0x660000000000000000000, true, [.shift 235 false]⟩,
    ⟨0x180000000000000000000, false, [.shift 235 false]⟩,
    ⟨0x800000000000000000000, false, [.shift 236 false]⟩,
    ⟨0x1000000000000000000000, true, [.shift 236 false]⟩,
    ⟨0x2000000000000000000000, true, [.shift 237 false]⟩,
    ⟨0xc000000000000000000000, true, [.shift 238 false]⟩,
    ⟨0x10000000000000000000000, true, [.shift 232 false]⟩,
    ⟨0x60000000000000000000000, false, [.shift 239 false]⟩,
    ⟨0x80000000000000000000000, true, [.shift 239 false]⟩,
    ⟨0x100000000000000000000000, true, [.shift 240 false]⟩,
    ⟨0x200000000000000000000000, true, [.shift 749 false]⟩, ⟨128, true, [.shiftExtra]⟩],
    [(0x200000000000, 124)]⟩,
  ⟨0, 106, [
    ⟨0x800006e8000000065723a30e, false, [.reduce 104 4 17]⟩, ⟨0x40071, true, [.reduce 104 4 17]⟩,
    ⟨0x400000, true, [.shift 178 false]⟩, ⟨0x2000000000000000, true, [.shift 230 false]⟩,
    ⟨0x1000000000000000000, false, [.shift 232 false]⟩,
    ⟨0x100000000000000000, true, [.shift 231 false]⟩,
    ⟨0x8000000000000000000, false, [.shift 233 false]⟩,
    ⟨0x10000000000000000000, false, [.shift 234 false]⟩,
    ⟨0x660000000000000000000, true, [.shift 235 false]⟩,
    ⟨0x180000000000000000000, false, [.shift 235 false]⟩,
    ⟨0x800000000000000000000, false, [.shift 236 false]⟩,
    ⟨0x1000000000000000000000, true, [.shift 236 false]⟩,
    ⟨0x2000000000000000000000, true, [.shift 237 false]⟩,
    ⟨0xc000000000000000000000, true, [.shift 238 false]⟩,
    ⟨0x10000000000000000000000, true, [.shift 232 false]⟩,
    ⟨0x60000000000000000000000, false, [.shift 239 false]⟩,
    ⟨0x80000000000000000000000, true, [.shift 239 false]⟩,
    ⟨0x100000000000000000000000, true, [.shift 240 false]⟩,
    ⟨0x200000000000000000000000, true, [.shift 749 false]⟩, ⟨128, true, [.shiftExtra]⟩],
    [(0x200000000000, 124)]⟩,
  ⟨0, 107, [
    ⟨0x800006e8000000065723a30e, false, [.reduce 103 5 25]⟩, ⟨0x40071, true, [.reduce 103 5 25]⟩,
    ⟨0x400000, true, [.shift 178 false]⟩, ⟨0x2000000000000000, true, [.shift 230 false]⟩,
    ⟨0x1000000000000000000, false, [.shift 232 false]⟩,
    ⟨0x100000000000000000, true, [.shift 231 false]⟩,
    ⟨0x8000000000000000000, false, [.shift 233 false]⟩,
    ⟨0x10000000000000000000, false, [.shift 234 false]⟩,
    ⟨0x660000000000000000000, true, [.shift 235 false]⟩,
    ⟨0x180000000000000000000, false, [.shift 235 false]⟩,
    ⟨0x800000000000000000000, false, [.shift 236 false]⟩,
    ⟨0x1000000000000000000000, true, [.shift 236 false]⟩,
    ⟨0x2000000000000000000000, true, [.shift 237 false]⟩,
    ⟨0xc000000000000000000000, true, [.shift 238 false]⟩,
    ⟨0x10000000000000000000000, true, [.shift 232 false]⟩,
    ⟨0x60000000000000000000000, false, [.shift 239 false]⟩,
    ⟨0x80000000000000000000000, true, [.shift 239 false]⟩,
    ⟨0x100000000000000000000000, true, [.shift 240 false]⟩,
    ⟨0x200000000000000000000000, true, [.shift 749 false]⟩, ⟨128, true, [.shiftExtra]⟩],
    [(0x200000000000, 124)]⟩,
  ⟨0, 108, [
    ⟨0x800006e8000000065723a30e, false, [.reduce 104 5 25]⟩, ⟨0x40071, true, [.reduce 104 5 25]⟩,
    ⟨0x400000, true, [.shift 178 false]⟩, ⟨0x2000000000000000, true, [.shift 230 false]⟩,
    ⟨0x1000000000000000000, false, [.shift 232 false]⟩,
    ⟨0x100000000000000000, true, [.shift 231 false]⟩,
    ⟨0x8000000000000000000, false, [.shift 233 false]⟩,
    ⟨0x10000000000000000000, false, [.shift 234 false]⟩,
    ⟨0x660000000000000000000, true, [.shift 235 false]⟩,
    ⟨0x180000000000000000000, false, [.shift 235 false]⟩,
    ⟨0x800000000000000000000, false, [.shift 236 false]⟩,
    ⟨0x1000000000000000000000, true, [.shift 236 false]⟩,
    ⟨0x2000000000000000000000, true, [.shift 237 false]⟩,
    ⟨0xc000000000000000000000, true, [.shift 238 false]⟩,
    ⟨0x10000000000000000000000, true, [.shift 232 false]⟩,
    ⟨0x60000000000000000000000, false, [.shift 239 false]⟩,
    ⟨0x80000000000000000000000, true, [.shift 239 false]⟩,
    ⟨0x100000000000000000000000, true, [.shift 240 false]⟩,
    ⟨0x200000000000000000000000, true, [.shift 749 false]⟩, ⟨128, true, [.shiftExtra]⟩],
    [(0x200000000000, 124)]⟩,
  ⟨0, 88, [
    ⟨0x800006e8000000065723a30e, false, [.reduce 121 1 0]⟩, ⟨0xc0070, true, [.reduce 121 1 0]⟩,
    ⟨0x400000, true, [.shift 205 false]⟩, ⟨0x2000000000000000, true, [.shift 286 false]⟩,
    ⟨0x1000000000000000000, false, [.shift 258 false]⟩,
    ⟨0x100000000000000000, true, [.shift 257 false]⟩,
    ⟨0x8000000000000000000, false, [.shift 259 false]⟩,
    ⟨0x10000000000000000000, false, [.shift 260 false]⟩,
    ⟨0x660000000000000000000, true, [.shift 261 false]⟩,
    ⟨0x180000000000000000000, false, [.shift 261 false]⟩,
    ⟨0x800000000000000000000, false, [.shift 262 false]⟩,
    ⟨0x1000000000000000000000, true, [.shift 262 false]⟩,
    ⟨0x2000000000000000000000, true, [.shift 263 false]⟩,
    ⟨0xc000000000000000000000, true, [.shift 264 false]⟩,
    ⟨0x10000000000000000000000, true, [.shift 258 false]⟩,
    ⟨0x60000000000000000000000, false, [.shift 265 false]⟩,
    ⟨0x80000000000000000000000, true, [.shift 265 false]⟩,
    ⟨0x100000000000000000000000, true, [.shift 266 false]⟩,
    ⟨0x200000000000000000000000, true, [.shift 770 false]⟩, ⟨128, true, [.shiftExtra]⟩],
    [(0x200000000000, 44)]⟩,
  ⟨0, 68, [
    ⟨0x800007e8000000065723a30e, false, [.reduce 111 2 0]⟩,
    ⟨0x20000000004c0070, true, [.reduce 111 2 0]⟩,
    ⟨0x79f660100000000000000000, true, [.reduce 147 2 0]⟩,
    ⟨0x60998000000000000000000, false, [.reduce 147 2 0]⟩, ⟨128, true, [.shiftExtra]⟩],
    []⟩,
  ⟨0, 87, [
    ⟨0x86099fe8000000065723a30e, false, [.reduce 135 1 0]⟩,
    ⟨0x39f660102000000000400071, true, [.reduce 135 1 0]⟩, ⟨0x40000, true, [.shift 162 false]⟩,
    ⟨0x1000000000000000000000000, true, [.shift 177 false]⟩, ⟨128, true, [.shiftExtra]⟩],
    []⟩,
  ⟨0, 89, [
    ⟨0x800006e8000000065723a30e, false, [.reduce 112 2 0]⟩, ⟨0xc0070, true, [.reduce 112 2 0]⟩,
    ⟨0x400000, true, [.shift 205 false]⟩, ⟨0x2000000000000000, true, [.shift 286 false]⟩,
    ⟨0x1000000000000000000, false, [.shift 258 false]⟩,
    ⟨0x100000000000000000, true, [.shift 257 false]⟩,
    ⟨0x8000000000000000000, false, [.shift 259 false]⟩,
    ⟨0x10000000000000000000, false, [.shift 260 false]⟩,
    ⟨0x660000000000000000000, true, [.shift 261 false]⟩,
    ⟨0x180000000000000000000, false, [.shift 261 false]⟩,
    ⟨0x800000000000000000000, false, [.shift 262 false]⟩,
    ⟨0x1000000000000000000000, true, [.shift 262 false]⟩,
    ⟨0x2000000000000000000000, true, [.shift 263 false]⟩,
    ⟨0xc000000000000000000000, true, [.shift 264 false]⟩,
    ⟨0x10000000000000000000000, true, [.shift 258 false]⟩,
    ⟨0x60000000000000000000000, false, [.shift 265 false]⟩,
    ⟨0x80000000000000000000000, true, [.shift 265 false]⟩,
    ⟨0x100000000000000000000000, true, [.shift 266 false]⟩,
    ⟨0x200000000000000000000000, true, [.shift 770 false]⟩, ⟨128, true, [.shiftExtra]⟩],
    [(0x200000000000, 44)]⟩,
  ⟨0, 90, [
    ⟨0x800006e8000000065723a30e, false, [.reduce 113 2 0]⟩, ⟨0xc0070, true, [.reduce 113 2 0]⟩,
    ⟨0x400000, true, [.shift 205 false]⟩, ⟨0x2000000000000000, true, [.shift 286 false]⟩,
    ⟨0x1000000000000000000, false, [.shift 258 false]⟩,
    ⟨0x100000000000000000, true, [.shift 257 false]⟩,
    ⟨0x8000000000000000000, false, [.shift 259 false]⟩,
    ⟨0x10000000000000000000, false, [.shift 260 false]⟩,
    ⟨0x660000000000000000000, true, [.shift 261 false]⟩,
    ⟨0x180000000000000000000, false, [.shift 261 false]⟩,
    ⟨0x800000000000000000000, false, [.shift 262 false]⟩,
    ⟨0x1000000000000000000000, true, [.shift 262 false]⟩,
    ⟨0x2000000000000000000000, true, [.shift 263 false]⟩,
    ⟨0xc000000000000000000000, true, [.shift 264 false]⟩,
    ⟨0x10000000000000000000000, true, [.shift 258 false]⟩,
    ⟨0x60000000000000000000000, false, [.shift 265 false]⟩,
    ⟨0x80000000000000000000000, true, [.shift 265 false]⟩,
    ⟨0x100000000000000000000000, true, [.shift 266 false]⟩,
    ⟨0x200000000000000000000000, true, [.shift 770 false]⟩, ⟨128, true, [.shiftExtra]⟩],
    [(0x200000000000, 44)]⟩,
  ⟨0, 93, [
    ⟨0x800006e8000000065723a30e, false, [.reduce 120 3 7]⟩, ⟨0xc0070, true, [.reduce 120 3 7]⟩,
    ⟨0x400000, true, [.shift 205 false]⟩, ⟨0x2000000000000000, true, [.shift 286 false]⟩,
    ⟨0x1000000000000000000, false, [.shift 258 false]⟩,
    ⟨0x100000000000000000, true, [.shift 257 false]⟩,
    ⟨0x8000000000000000000, false, [.shift 259 false]⟩,
    ⟨0x10000000000000000000, false, [.shift 260 false]⟩,
    ⟨0x660000000000000000000, true, [.shift 261 false]⟩,
    ⟨0x180000000000000000000, false, [.shift 261 false]⟩,
    ⟨0x800000000000000000000, false, [.shift 262 false]⟩,
    ⟨0x1000000000000000000000, true, [.shift 262 false]⟩,
    ⟨0x2000000000000000000000, true, [.shift 263 false]⟩,
    ⟨0xc000000000000000000000, true, [.shift 264 false]⟩,
    ⟨0x10000000000000000000000, true, [.shift 258 false]⟩,
    ⟨0x60000000000000000000000, false, [.shift 265 false]⟩,
    ⟨0x80000000000000000000000, true, [.shift 265 false]⟩,
    ⟨0x100000000000000000000000, true, [.shift 266 false]⟩,
    ⟨0x200000000000000000000000, true, [.shift 770 false]⟩, ⟨128, true, [.shiftExtra]⟩],
    [(0x200000000000, 44)]⟩,
  ⟨0, 115, [
    ⟨0x79f6601020000000004c0070, true, [.reduce 151 3 0]⟩,
    ⟨0x86099fe8000000065723a30e, false, [.reduce 151 3 0]⟩, ⟨128, true, [.shiftExtra]⟩],
    []⟩,
  ⟨0, 105, [
    ⟨0x800006e8000000065723a30e, false, [.reduce 103 4 17]⟩, ⟨0xc0070, true, [.reduce 103 4 17]⟩,
    ⟨0x400000, true, [.shift 205 false]⟩, ⟨0x2000000000000000, true, [.shift 286 false]⟩,
    ⟨0x1000000000000000000, false, [.shift 258 false]⟩,
    ⟨0x100000000000000000, true, [.shift 257 false]⟩,
    ⟨0x8000000000000000000, false, [.shift 259 false]⟩,
    ⟨0x10000000000000000000, false, [.shift 260 false]⟩,
    ⟨0x660000000000000000000, true, [.shift 261 false]⟩,
    ⟨0x180000000000000000000, false, [.shift 261 false]⟩,
    ⟨0x800000000000000000000, false, [.shift 262 false]⟩,
    ⟨0x1000000000000000000000, true, [.shift 262 false]⟩,
    ⟨0x2000000000000000000000, true, [.shift 263 false]⟩,
    ⟨0xc000000000000000000000, true, [.shift 264 false]⟩,
    ⟨0x10000000000000000000000, true, [.shift 258 false]⟩,
    ⟨0x60000000000000000000000, false, [.shift 265 false]⟩,
    ⟨0x80000000000000000000000, true, [.shift 265 false]⟩,
    ⟨0x100000000000000000000000, true, [.shift 266 false]⟩,
    ⟨0x200000000000000000000000, true, [.shift 770 false]⟩, ⟨128, true, [.shiftExtra]⟩],
    [(0x200000000000, 44)]⟩,
  ⟨0, 106, [
    ⟨0x800006e8000000065723a30e, false, [.reduce 104 4 17]⟩, ⟨0xc0070, true, [.reduce 104 4 17]⟩,
    ⟨0x400000, true, [.shift 205 false]⟩, ⟨0x2000000000000000, true, [.shift 286 false]⟩,
    ⟨0x1000000000000000000, false, [.shift 258 false]⟩,
    ⟨0x100000000000000000, true, [.shift 257 false]⟩,
    ⟨0x8000000000000000000, false, [.shift 259 false]⟩,
    ⟨0x10000000000000000000, false, [.shift 260 false]⟩,
    ⟨0x660000000000000000000, true, [.shift 261 false]⟩,
    ⟨0x180000000000000000000, false, [.shift 261 false]⟩,
    ⟨0x800000000000000000000, false, [.shift 262 false]⟩,
    ⟨0x1000000000000000000000, true, [.shift 262 false]⟩,
    ⟨0x2000000000000000000000, true, [.shift 263 false]⟩,
    ⟨0xc000000000000000000000, true, [.shift 264 false]⟩,
    ⟨0x10000000000000000000000, true, [.shift 258 false]⟩,
    ⟨0x60000000000000000000000, false, [.shift 265 false]⟩,
    ⟨0x80000000000000000000000, true, [.shift 265 false]⟩,
    ⟨0x100000000000000000000000, true, [.shift 266 false]⟩,
    ⟨0x200000000000000000000000, true, [.shift 770 false]⟩, ⟨128, true, [.shiftExtra]⟩],
    [(0x200000000000, 44)]⟩,
  ⟨0, 107, [
    ⟨0x800006e8000000065723a30e, false, [.reduce 103 5 25]⟩, ⟨0xc0070, true, [.reduce 103 5 25]⟩,
    ⟨0x400000, true, [.shift 205 false]⟩, ⟨0x2000000000000000, true, [.shift 286 false]⟩,
    ⟨0x1000000000000000000, false, [.shift 258 false]⟩,
    ⟨0x100000000000000000, true, [.shift 257 false]⟩,
    ⟨0x8000000000000000000, false, [.shift 259 false]⟩,
    ⟨0x10000000000000000000, false, [.shift 260 false]⟩,
    ⟨0x660000000000000000000, true, [.shift 261 false]⟩,
    ⟨0x180000000000000000000, false, [.shift 261 false]⟩,
    ⟨0x800000000000000000000, false, [.shift 262 false]⟩,
    ⟨0x1000000000000000000000, true, [.shift 262 false]⟩,
    ⟨0x2000000000000000000000, true, [.shift 263 false]⟩,
    ⟨0xc000000000000000000000, true, [.shift 264 false]⟩,
    ⟨0x10000000000000000000000, true, [.shift 258 false]⟩,
    ⟨0x60000000000000000000000, false, [.shift 265 false]⟩,
    ⟨0x80000000000000000000000, true, [.shift 265 false]⟩,
    ⟨0x100000000000000000000000, true, [.shift 266 false]⟩,
    ⟨0x200000000000000000000000, true, [.shift 770 false]⟩, ⟨128, true, [.shiftExtra]⟩],
    [(0x200000000000, 44)]⟩,
  ⟨0, 108, [
    ⟨0x800006e8000000065723a30e, false, [.reduce 104 5 25]⟩, ⟨0xc0070, true, [.reduce 104 5 25]⟩,
    ⟨0x400000, true, [.shift 205 false]⟩, ⟨0x2000000000000000, true, [.shift 286 false]⟩,
    ⟨0x1000000000000000000, false, [.shift 258 false]⟩,
    ⟨0x100000000000000000, true, [.shift 257 false]⟩,
    ⟨0x8000000000000000000, false, [.shift 259 false]⟩,
    ⟨0x10000000000000000000, false, [.shift 260 false]⟩,
    ⟨0x660000000000000000000, true, [.shift 261 false]⟩,
    ⟨0x180000000000000000000, false, [.shift 261 false]⟩,
    ⟨0x800000000000000000000, false, [.shift 262 false]⟩,
    ⟨0x1000000000000000000000, true, [.shift 262 false]⟩,
    ⟨0x2000000000000000000000, true, [.shift 263 false]⟩,
    ⟨0xc000000000000000000000, true, [.shift 264 false]⟩,
    ⟨0x10000000000000000000000, true, [.shift 258 false]⟩,
    ⟨0x60000000000000000000000, false, [.shift 265 false]⟩,
    ⟨0x80000000000000000000000, true, [.shift 265 false]⟩,
    ⟨0x100000000000000000000000, true, [.shift 266 false]⟩,
    ⟨0x200000000000000000000000, true, [.shift 770 false]⟩, ⟨128, true, [.shiftExtra]⟩],
    [(0x200000000000, 44)]⟩,
  ⟨0, 41, [
    ⟨0x86099fe8000000065723a30e, false, [.reduce 132 1 0]⟩,
    ⟨0x39f660102000000000440071, true, [.reduce 132 1 0]⟩, ⟨128, true, [.shiftExtra]⟩],
    []⟩,
  ⟨0, 68, [
    ⟨0x800007e8000000065723a30e, false, [.reduce 111 2 0]⟩,
    ⟨0x2000000000440071, true, [.reduce 111 2 0]⟩,
    ⟨0x39f660100000000000000000, true, [.reduce 147 2 0]⟩,
    ⟨0x60998000000000000000000, false, [.reduce 147 2 0]⟩, ⟨128, true, [.shiftExtra]⟩],
    []⟩,
  ⟨0, 42, [
    ⟨0x86099fe8000000065723a30e, false, [.reduce 139 2 0]⟩,
    ⟨0x39f660102000000000440071, true, [.reduce 139 2 0]⟩, ⟨128, true, [.shiftExtra]⟩],
    []⟩,
  ⟨0, 43, [
    ⟨0x86099fe8000000065723a30e, false, [.reduce 146 2 0]⟩,
    ⟨0x39f660102000000000440071, true, [.reduce 146 2 0]⟩, ⟨128, true, [.shiftExtra]⟩],
    []⟩,
  ⟨0, 44, [
    ⟨0x86099fe8000000065723a30e, false, [.reduce 142 2 6]⟩,
    ⟨0x39f660102000000000440071, true, [.reduce 142 2 6]⟩, ⟨128, true, [.shiftExtra]⟩],
    []⟩,
  ⟨0, 45, [
    ⟨0x86099fe8000000065723a30e, false, [.reduce 149 3 8]⟩,
    ⟨0x39f660102000000000440071, true, [.reduce 149 3 8]⟩, ⟨128, true, [.shiftExtra]⟩],
    []⟩,
  ⟨0, 46, [
    ⟨0x86099fe8000000065723a30e, false, [.reduce 156 3 9]⟩,
    ⟨0x39f660102000000000440071, true, [.reduce 156 3 9]⟩, ⟨128, true, [.shiftExtra]⟩],
    []⟩,
  ⟨0, 47, [
    ⟨0x86099fe8000000065723a30e, false, [.reduce 147 3 0]⟩,
    ⟨0x39f660102000000000440071, true, [.reduce 147 3 0]⟩, ⟨128, true, [.shiftExtra]⟩],
    []⟩,
  ⟨0, 48, [
    ⟨0x86099fe8000000065723a30e, false, [.reduce 157 3 12]⟩,
    ⟨0x39f660102000000000440071, true, [.reduce 157 3 12]⟩, ⟨128, true, [.shiftExtra]⟩],
    []⟩,
  ⟨0, 49, [
    ⟨0x86099fe8000000065723a30e, false, [.reduce 138 3 0]⟩,
    ⟨0x39f660102000000000440071, true, [.reduce 138 3 0]⟩, ⟨128, true, [.shiftExtra]⟩],
    []⟩,
  ⟨0, 130, [
    ⟨0x2000000000440071, true, [.reduce 117 3 0]⟩,
    ⟨0x39f660100000000000000000, true, [.reduce 147 2 0]⟩,
    ⟨0x800007e8000000065723a30e, false, [.reduce 117 3 0]⟩,
    ⟨0x60998000000000000000000, false, [.reduce 147 2 0]⟩, ⟨128, true, [.shiftExtra]⟩],
    []⟩,
  ⟨0, 50, [
    ⟨0x86099fe8000000065723a30e, false, [.reduce 146 3 0]⟩,
    ⟨0x39f660102000000000440071, true, [.reduce 146 3 0]⟩, ⟨128, true, [.shiftExtra]⟩],
    []⟩,
  ⟨0, 115, [
    ⟨0x39f660102000000000440071, true, [.reduce 151 3 0]⟩,
    ⟨0x86099fe8000000065723a30e, false, [.reduce 151 3 0]⟩, ⟨128, true, [.shiftExtra]⟩],
    []⟩,
  ⟨0, 51, [
    ⟨0x86099fe8000000065723a30e, false, [.reduce 143 2 0]⟩,
    ⟨0x39f660102000000000440071, true, [.reduce 143 2 0]⟩, ⟨128, true, [.shiftExtra]⟩],
    []⟩,
  ⟨0, 52, [
    ⟨0x86099fe8000000065723a30e, false, [.reduce 149 4 8]⟩,
    ⟨0x39f660102000000000440071, true, [.reduce 149 4 8]⟩, ⟨128, true, [.shiftExtra]⟩],
    []⟩,
  ⟨0, 53, [
    ⟨0x86099fe8000000065723a30e, false, [.reduce 147 4 0]⟩,
    ⟨0x39f660102000000000440071, true, [.reduce 147 4 0]⟩, ⟨128, true, [.shiftExtra]⟩],
    []⟩]

end SyntaxKit.Harneet
