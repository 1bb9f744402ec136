/-!
# Similar words

A mistyped word is answered with the words it is similar to.  Two words are compared by the
characters they have in common at about the same place: with `m` of them, of which `t` pairs stand
in another order, the similarity of words of lengths `a` and `b` is the mean of `m / a`, `m / b` and
`(m - t) / m`.
-/

namespace SyntaxKit

namespace CommandLine

/-- The first position from `first` up to `last` that holds a character and is not taken yet. -/
def matchAt? (c : Char) (first last : Nat) (taken : List Nat) (word : List Char) : Option Nat :=
  (List.range last).find? fun n =>
    first ≤ n && word[n]? == some c && !taken.contains n

/-- The positions in `b` that are matched with positions of `a`, for the characters of `a` from
position `n` on.  Matched positions are at most `reach` apart. -/
def matchedPairs (b : List Char) (reach : Nat) : List Char → Nat → List Nat → List (Nat × Nat)
  | [], _, _ => []
  | c :: t, n, taken =>
    match matchAt? c (n - reach) (min b.length (n + reach + 1)) taken b with
    | some k => (n, k) :: matchedPairs b reach t (n + 1) (k :: taken)
    | none => matchedPairs b reach t (n + 1) taken

/-- The similarity of two words, between zero and one. -/
def similarity (a b : List Char) : Rat :=
  if a.isEmpty && b.isEmpty then 1
  else
    let reach := max a.length b.length / 2 - 1
    let pairs := matchedPairs b reach a 0 []
    let m := pairs.length
    let inOrder := (pairs.map Prod.snd).mergeSort
    let moved := (pairs.zip inOrder).countP fun p => a[p.1.1]? != b[p.2]?
    if m = 0 then 0
    else (mkRat m a.length + mkRat m b.length + mkRat (m - moved / 2) m) / 3

/-- How similar words have to be to be proposed. -/
def proposalThreshold : Rat := 7 / 10

/-- The words similar to a given one, the most similar last; equals stay in their order. -/
def similarWords (word : String) (candidates : List String) : List String :=
  let scored := candidates.filterMap fun c =>
    let s := similarity word.toList c.toList
    if proposalThreshold < s then some (s, c) else none
  let sorted := scored.mergeSort fun x y => decide (x.1 ≤ y.1)
  sorted.map Prod.snd

end CommandLine

end SyntaxKit
