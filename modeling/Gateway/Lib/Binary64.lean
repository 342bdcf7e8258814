import Gateway.Lib.CText
import Mathlib.Data.Int.Log

/-!
# Numbers of the type `double`

A finite `double` is the rational number that it stands for, and an operation gives the exact result
rounded to 53 binary digits.  The range of the exponents is left out: it matters for numbers beyond
`2 ^ 1023` and below `2 ^ (-1022)` only.

* `nearest q` is the number of 53 digits next to `q`, and the even one in the middle;
* `abs_nearest_sub_le`: the relative error of a rounding;
* `OnGrid`: multiples of a power of two, which bound a sum that is not zero from below;
* `Within n x y`: `x` and `y` are `n` roundings apart, a relation that products and quotients keep.
-/

namespace Binary64

open CText

/-! ### Rounding -/

/-- The distance of the numbers with 53 binary digits around `q`. -/
def ulp (q : ℚ) : ℚ := 2 ^ (Int.log 2 |q| - 52)

def nearest (q : ℚ) : ℚ :=
  if q < 0 then -(roundEven (|q| / ulp q) * ulp q) else roundEven (|q| / ulp q) * ulp q

theorem ulp_pos (q : ℚ) : 0 < ulp q := zpow_pos (by norm_num) _

theorem ulp_le (q : ℚ) (hq : q ≠ 0) : ulp q ≤ |q| / 2 ^ 52 := by
  have hlog : ((2 : ℕ) : ℚ) ^ Int.log 2 |q| ≤ |q| :=
    Int.zpow_log_le_self (by norm_num) (abs_pos.mpr hq)
  rw [ulp, zpow_sub₀ (by norm_num)]
  push_cast at hlog
  have hpow : (2 : ℚ) ^ (52 : ℤ) = 2 ^ 52 := by norm_cast
  rw [hpow]
  gcongr

theorem nearest_zero : nearest 0 = 0 := by
  simp [nearest, roundEven]

/-- A rounding is off by half a unit in the last place at most. -/
theorem abs_nearest_sub_le (q : ℚ) : |nearest q - q| ≤ |q| / 2 ^ 53 := by
  rcases eq_or_ne q 0 with rfl | hq
  · simp [nearest_zero]
  have hulp := ulp_pos q
  have hround : |(roundEven (|q| / ulp q) : ℚ) - |q| / ulp q| ≤ 1 / 2 :=
    abs_roundEven_sub_le (by positivity)
  have hscaled : abs (roundEven (|q| / ulp q) * ulp q - |q|) ≤ |q| / 2 ^ 53 :=
    calc abs (roundEven (|q| / ulp q) * ulp q - |q|)
        = |((roundEven (|q| / ulp q) : ℚ) - |q| / ulp q) * ulp q| := by
          rw [sub_mul, div_mul_cancel₀ _ hulp.ne']
      _ = |(roundEven (|q| / ulp q) : ℚ) - |q| / ulp q| * ulp q := by
          rw [abs_mul, abs_of_pos hulp]
      _ ≤ 1 / 2 * ulp q := by gcongr
      _ ≤ 1 / 2 * (|q| / 2 ^ 52) := by gcongr; exact ulp_le q hq
      _ = |q| / 2 ^ 53 := by ring
  unfold nearest
  split_ifs with hneg
  · rw [← abs_neg, neg_sub, sub_neg_eq_add, add_comm, ← sub_neg_eq_add, ← abs_of_neg hneg]
    exact hscaled
  · rw [abs_of_nonneg (not_lt.mp hneg)] at hscaled ⊢
    exact hscaled

/-- The rounding adds to an error that is already there. -/
theorem abs_nearest_sub_le_add (x y : ℚ) :
    |nearest x - y| ≤ |x - y| + (|x - y| + |y|) / 2 ^ 53 := by
  have herror := abs_nearest_sub_le x
  have hx : |x| ≤ |x - y| + |y| := by simpa using abs_add_le (x - y) y
  calc |nearest x - y| ≤ |nearest x - x| + |x - y| := abs_sub_le _ _ _
    _ ≤ |x - y| + (|x - y| + |y|) / 2 ^ 53 := by linarith

theorem half_le_abs_nearest (q : ℚ) : |q| / 2 ≤ |nearest q| := by
  have herror := abs_nearest_sub_le q
  have htriangle : |q| ≤ |nearest q| + |nearest q - q| := by
    simpa using abs_sub (nearest q) (nearest q - q)
  have hnonneg : 0 ≤ |q| := abs_nonneg q
  linarith

theorem abs_nearest_le (q : ℚ) : |nearest q| ≤ |q| * 2 := by
  have herror : |nearest q| ≤ |q| + |q| / 2 ^ 53 := by simpa using abs_nearest_sub_le_add q 0
  have hnonneg : 0 ≤ |q| := abs_nonneg q
  linarith

/-! ### Multiples of a power of two -/

def OnGrid (m : ℤ) (q : ℚ) : Prop := ∃ k : ℤ, q = k * 2 ^ m

theorem OnGrid.mono {m m' : ℤ} {q : ℚ} (h : OnGrid m q) (hm : m' ≤ m) : OnGrid m' q := by
  obtain ⟨k, rfl⟩ := h
  obtain ⟨d, rfl⟩ := Int.le.dest hm
  refine ⟨k * 2 ^ d, ?_⟩
  rw [zpow_add₀ (by norm_num), zpow_natCast]
  push_cast
  ring

theorem OnGrid.add {m : ℤ} {p q : ℚ} (hp : OnGrid m p) (hq : OnGrid m q) : OnGrid m (p + q) := by
  obtain ⟨k, rfl⟩ := hp
  obtain ⟨l, rfl⟩ := hq
  refine ⟨k + l, ?_⟩
  push_cast
  ring

/-- What is not zero is a unit at least. -/
theorem OnGrid.le_abs {m : ℤ} {q : ℚ} (h : OnGrid m q) (hq : q ≠ 0) : 2 ^ m ≤ |q| := by
  obtain ⟨k, rfl⟩ := h
  have hk : k ≠ 0 := by
    rintro rfl
    simp at hq
  have hone : (1 : ℚ) ≤ |(k : ℚ)| := by exact_mod_cast Int.one_le_abs hk
  have hpow : (0 : ℚ) < 2 ^ m := zpow_pos (by norm_num) _
  rw [abs_mul, abs_of_pos hpow]
  exact le_mul_of_one_le_left hpow.le hone

/-- A rounded number has its digits where the number has its first 53. -/
theorem onGrid_nearest {m : ℤ} {q : ℚ} (h : q ≠ 0 → 2 ^ m ≤ |q|) : OnGrid (m - 52) (nearest q) := by
  rcases eq_or_ne q 0 with rfl | hq
  · exact ⟨0, by simp [nearest_zero]⟩
  have hlog : m ≤ Int.log 2 |q| := by
    rw [← Int.zpow_le_iff_le_log (by norm_num) (abs_pos.mpr hq)]
    exact_mod_cast h hq
  have hgrid : OnGrid (Int.log 2 |q| - 52) (nearest q) := by
    unfold nearest
    split_ifs
    · refine ⟨-(roundEven (|q| / ulp q) : ℤ), ?_⟩
      push_cast
      rw [ulp, neg_mul]
    · exact ⟨roundEven (|q| / ulp q), rfl⟩
  exact hgrid.mono (by omega)

/-- A number of 53 digits is rounded to itself. -/
theorem OnGrid.nearest_eq {m : ℤ} {q : ℚ} (h : OnGrid (m - 52) q) (hle : 2 ^ m ≤ |q|)
    (hlt : |q| < 2 ^ (m + 1)) : nearest q = q := by
  have hdiff : OnGrid (m - 52) (nearest q - q) := by
    obtain ⟨k, hk⟩ := onGrid_nearest fun _ => hle
    obtain ⟨l, hl⟩ := h
    refine ⟨k - l, ?_⟩
    rw [hk]
    nth_rewrite 1 [hl]
    push_cast
    ring
  by_contra hne
  have hunit : (2 : ℚ) ^ (m - 52) ≤ |nearest q - q| := hdiff.le_abs (sub_ne_zero.mpr hne)
  have herror : |nearest q - q| < 2 ^ (m - 52) :=
    calc |nearest q - q| ≤ |q| / 2 ^ 53 := abs_nearest_sub_le q
      _ < 2 ^ (m + 1) / 2 ^ 53 := by gcongr
      _ = 2 ^ (m - 52) := by
        rw [zpow_add₀ (by norm_num), zpow_sub₀ (by norm_num)]
        norm_num
        ring
  exact absurd hunit (not_le.mpr herror)

/-! ### Roundings one after another -/

/-- The two numbers are at most `n` roundings apart. -/
def Within (n : ℕ) (x y : ℚ) : Prop :=
  y * (1 - 1 / 2 ^ 53) ^ n ≤ x ∧ x * (1 - 1 / 2 ^ 53) ^ n ≤ y

theorem within_nearest {q : ℚ} (hq : 0 ≤ q) : Within 1 (nearest q) q := by
  have herror := abs_nearest_sub_le q
  rw [abs_of_nonneg hq, abs_le] at herror
  constructor
  · linarith
  · rw [pow_one]
    calc nearest q * (1 - 1 / 2 ^ 53)
        ≤ (q + q / 2 ^ 53) * (1 - 1 / 2 ^ 53) := by
          refine mul_le_mul_of_nonneg_right ?_ (by norm_num)
          linarith
      _ ≤ q := by nlinarith

namespace Within

variable {n m : ℕ} {x y z x' y' : ℚ}

theorem trans (h : Within n x y) (h' : Within m y z) : Within (n + m) x z := by
  have hpow : ∀ k, (0 : ℚ) ≤ (1 - 1 / 2 ^ 53) ^ k := fun k => pow_nonneg (by norm_num) k
  constructor
  · calc z * (1 - 1 / 2 ^ 53) ^ (n + m)
        = z * (1 - 1 / 2 ^ 53) ^ m * (1 - 1 / 2 ^ 53) ^ n := by ring
      _ ≤ y * (1 - 1 / 2 ^ 53) ^ n := mul_le_mul_of_nonneg_right h'.1 (hpow n)
      _ ≤ x := h.1
  · calc x * (1 - 1 / 2 ^ 53) ^ (n + m)
        = x * (1 - 1 / 2 ^ 53) ^ n * (1 - 1 / 2 ^ 53) ^ m := by ring
      _ ≤ y * (1 - 1 / 2 ^ 53) ^ m := mul_le_mul_of_nonneg_right h.2 (hpow m)
      _ ≤ z := h'.2

theorem nonneg (h : Within n x y) (hy : 0 ≤ y) : 0 ≤ x :=
  (mul_nonneg hy (pow_nonneg (by norm_num) n)).trans h.1

theorem pos (h : Within n x y) (hy : 0 < y) : 0 < x :=
  (mul_pos hy (pow_pos (by norm_num) n)).trans_le h.1

theorem mul_const (h : Within n x y) {c : ℚ} (hc : 0 ≤ c) : Within n (x * c) (y * c) := by
  constructor
  · rw [mul_right_comm]
    exact mul_le_mul_of_nonneg_right h.1 hc
  · rw [mul_right_comm]
    exact mul_le_mul_of_nonneg_right h.2 hc

theorem div (h : Within n x y) (h' : Within m x' y') (hy : 0 ≤ y) (hy' : 0 < y') :
    Within (n + m) (x / x') (y / y') := by
  have hx := h.nonneg hy
  have hx' := h'.pos hy'
  have hpow : ∀ k, (0 : ℚ) ≤ (1 - 1 / 2 ^ 53) ^ k := fun k => pow_nonneg (by norm_num) k
  constructor
  · rw [div_mul_eq_mul_div, div_le_div_iff₀ hy' hx']
    calc y * (1 - 1 / 2 ^ 53) ^ (n + m) * x'
        = (y * (1 - 1 / 2 ^ 53) ^ n) * (x' * (1 - 1 / 2 ^ 53) ^ m) := by ring
      _ ≤ x * y' := mul_le_mul h.1 h'.2 (mul_nonneg hx'.le (hpow m)) hx
  · rw [div_mul_eq_mul_div, div_le_div_iff₀ hx' hy']
    calc x * (1 - 1 / 2 ^ 53) ^ (n + m) * y'
        = (x * (1 - 1 / 2 ^ 53) ^ n) * (y' * (1 - 1 / 2 ^ 53) ^ m) := by ring
      _ ≤ y * x' := mul_le_mul h.2 h'.1 (mul_nonneg hy'.le (hpow m)) hy

theorem div_const (h : Within n x y) {c : ℚ} (hc : 0 < c) : Within n (x / c) (y / c) := by
  rw [div_eq_mul_inv, div_eq_mul_inv]
  exact h.mul_const (inv_nonneg.mpr hc.le)

/-- One more rounding. -/
theorem nearest (h : Within n x y) (hy : 0 ≤ y) : Within (1 + n) (nearest x) y :=
  (within_nearest (h.nonneg hy)).trans h

/-- A small relative error is a few roundings. -/
theorem of_abs_sub_le {ε : ℚ} (h : |x - y| ≤ y * ε) (hy : 0 ≤ y)
    (hn : (1 - 1 / 2 ^ 53) ^ n ≤ 1 - ε) (hε : 0 ≤ ε) : Within n x y := by
  rw [abs_le] at h
  constructor
  · calc y * (1 - 1 / 2 ^ 53) ^ n ≤ y * (1 - ε) := by gcongr
      _ ≤ x := by linarith
  · calc x * (1 - 1 / 2 ^ 53) ^ n
        ≤ y * (1 + ε) * (1 - 1 / 2 ^ 53) ^ n := by
          refine mul_le_mul_of_nonneg_right ?_ (pow_nonneg (by norm_num) n)
          linarith
      _ ≤ y * (1 + ε) * (1 - ε) := by gcongr
      _ ≤ y := by nlinarith [mul_nonneg hy (mul_nonneg hε hε)]

/-- A few roundings are a small relative error. -/
theorem abs_sub_le {ε : ℚ} (h : Within n x y) (hy : 0 ≤ y) (hε : 0 ≤ ε)
    (hn : 1 ≤ (1 + ε) * (1 - 1 / 2 ^ 53) ^ n) : |x - y| ≤ y * ε := by
  have hpos : (0 : ℚ) < (1 - 1 / 2 ^ 53) ^ n := pow_pos (by norm_num) n
  rw [abs_le]
  constructor
  · have hle : (1 : ℚ) - ε ≤ (1 - 1 / 2 ^ 53) ^ n := by nlinarith
    nlinarith [h.1]
  · have hle : x * (1 - 1 / 2 ^ 53) ^ n ≤ (y + y * ε) * (1 - 1 / 2 ^ 53) ^ n := by
      calc x * (1 - 1 / 2 ^ 53) ^ n ≤ y * 1 := by rw [mul_one]; exact h.2
        _ ≤ y * ((1 + ε) * (1 - 1 / 2 ^ 53) ^ n) := by gcongr
        _ = (y + y * ε) * (1 - 1 / 2 ^ 53) ^ n := by ring
    linarith [le_of_mul_le_mul_right hle hpos]

end Within

end Binary64
