import SyntaxKit.Proofs.Diagnostics.Ratio
import SyntaxKit.Sources.Check

/-!
# Looser thresholds

A threshold that is not positive is about the list of errors, a positive one about the error ratio.
The two measures fit together: a file without errors has the ratio zero, and is within every
positive threshold.  So a looser threshold never rejects more (`Sources.passes_mono`), whether the
ratio is taken exactly or rounded to a double.
-/

namespace SyntaxKit

/-- The order of the numbers in double precision.  What is not a number is not compared. -/
inductive Double.Le : Double → Double → Prop
  | finite {x y : ℚ} (h : x ≤ y) : Le (.finite x) (.finite y)
  | bottom {b : Double} (h : b ≠ .notANumber) : Le (.infinite true) b
  | top {a : Double} (h : a ≠ .notANumber) : Le a (.infinite false)

namespace ErrorRatio

/-- A share of nothing is zero. -/
theorem value_eq_zero {r : ErrorRatio} (h : r.errors = 0) : r.value = 0 := by
  rw [value, h, Nat.cast_zero, zero_div]

/-- The double nearest to the share, as a number. -/
def roundedValue (r : ErrorRatio) : ℚ := mkRat r.rounded.numerator (Nat.pow 2 r.rounded.shift)

/-- A share of nothing is rounded to zero. -/
theorem roundedValue_eq_zero {r : ErrorRatio} (h : r.errors = 0) : r.roundedValue = 0 := by
  have hrounded : r.rounded = ⟨0, 0⟩ := by rw [rounded, h, Dyadic.ofQuotient, if_pos rfl]
  rw [roundedValue, hrounded]
  exact Rat.zero_mkRat _

end ErrorRatio

namespace Sources

/-- Whether a checked file passes a threshold if `share` is taken for its share of nodes in error. -/
def CheckedFile.passesAs (f : CheckedFile) (share : ℚ) : Double → Bool
  | .finite value => if value ≤ 0 then f.errors.isEmpty else share ≤ value
  | .infinite negative => if negative then f.errors.isEmpty else true
  | .notANumber => false

/-- A file is judged by its rounded share. -/
theorem CheckedFile.passes_eq (f : CheckedFile) (threshold : Double) :
    f.passes threshold = f.passesAs f.ratio.roundedValue threshold := by
  cases threshold <;> rfl

/-- A file without errors passes every threshold. -/
theorem CheckedFile.passesAs_of_nil {f : CheckedFile} (hnil : f.errors = []) {threshold : Double}
    (h : threshold ≠ .notANumber) : f.passesAs 0 threshold = true := by
  cases threshold with
  | notANumber => exact absurd rfl h
  | infinite negative => cases negative <;> simp [passesAs, hnil]
  | finite value =>
    rw [passesAs, hnil]
    split
    · rfl
    · next hpositive => exact decide_eq_true (not_le.mp hpositive).le

/-- A looser threshold never rejects more, provided a file without errors has the share zero. -/
theorem CheckedFile.passesAs_mono {f : CheckedFile} {share : ℚ}
    (hshare : f.errors = [] → share = 0) {a b : Double} (hab : a.Le b)
    (h : f.passesAs share a = true) : f.passesAs share b = true := by
  have hclean : f.errors = [] → b ≠ .notANumber → f.passesAs share b = true := by
    intro hnil hnumber
    rw [hshare hnil]
    exact passesAs_of_nil hnil hnumber
  cases hab with
  | top => rfl
  | bottom hnumber => exact hclean (by simpa [passesAs] using h) hnumber
  | @finite x y hxy =>
    by_cases hx : x ≤ 0
    · exact hclean (by simpa [passesAs, hx] using h) (by simp)
    · -- both thresholds are positive, so both are about the share
      have hwithin : share ≤ x := by simpa [passesAs, hx] using h
      have hy : ¬y ≤ 0 := fun hy => hx (hxy.trans hy)
      rw [passesAs, if_neg hy]
      exact decide_eq_true (hwithin.trans hxy)

/-- In a checked file without errors no node is in error. -/
theorem errors_ratio_checkBytes {lang : Language} (hpaid : ∀ text, (lang.parse text).Paid lang)
    {p : Path} {bytes : List UInt8} (hnil : (checkBytes lang p bytes).errors = []) :
    (checkBytes lang p bytes).ratio.errors = 0 := by
  dsimp only [checkBytes] at hnil ⊢
  generalize unifyLineEnds (Utf8.decode bytes) = text at hnil ⊢
  exact Tree.errors_eq_zero (hpaid text) hnil

/-- **A looser threshold never rejects more.**  A file that passes a threshold passes every
threshold that is not below it, negative and infinite ones included; and it would so too if its
share of nodes in error were not rounded. -/
theorem passes_mono (p : Path) (bytes : List UInt8) {a b : Double} (hab : a.Le b) :
    let f := checkBytes Harneet.language p bytes
    (f.passesAs f.ratio.value a = true → f.passesAs f.ratio.value b = true)
      ∧ (f.passes a = true → f.passes b = true) := by
  intro f
  have hnone : f.errors = [] → f.ratio.errors = 0 := errors_ratio_checkBytes Harneet.paid_parse
  constructor
  · exact CheckedFile.passesAs_mono (fun hnil => ErrorRatio.value_eq_zero (hnone hnil)) hab
  · rw [f.passes_eq, f.passes_eq]
    exact CheckedFile.passesAs_mono (fun hnil => ErrorRatio.roundedValue_eq_zero (hnone hnil)) hab

/-- A file with a stray character has nodes in error.  It passes the threshold one half, hence also a
looser one. -/
theorem passes_mono_stray :
    let f := checkBytes Harneet.language (.ofString "a.ha") (Utf8.encode "1 @".toList)
    0 < f.ratio.errors ∧ (Double.finite (1 / 2)).Le (.finite 1)
      ∧ f.passes (.finite (1 / 2)) = true ∧ f.passes (.finite 1) = true := by
  intro f
  have herrors : 0 < f.ratio.errors := by decide +kernel
  have hle : (Double.finite (1 / 2)).Le (.finite 1) := .finite (by decide +kernel)
  have hpasses : f.passes (.finite (1 / 2)) = true := by decide +kernel
  exact ⟨herrors, hle, hpasses, (passes_mono (.ofString "a.ha") _ hle).2 hpasses⟩

end Sources

end SyntaxKit
