import Gateway.Lib.Binary64
import Gateway.Telemetry.Loop

/-!
# `telemetry_d.c`: the time between two readings of the clock

`elapsedSeconds` computes in the type `double`: it converts the two differences, divides one and
adds.  The watchdog compares the result, and the throughput is divided by it.

* `abs_elapsedDouble_sub_le`: how far the result is from the time that has passed;
* `markState_eq_double`: the watchdog marks a sensor as it would in exact arithmetic;
* `within_elapsedDouble`: from a second on the relative error is that of a few roundings.
-/

namespace Gateway
namespace Telemetry

open Binary64

/-- `elapsedSeconds` as it is computed. -/
def elapsedDouble (prev curr : Timespec) : ℚ :=
  nearest (nearest ((curr.tvSec - prev.tvSec : ℤ) : ℚ) +
    nearest (nearest ((curr.tvNsec - prev.tvNsec : ℤ) : ℚ) / 1000000000))

/-- What `clock_gettime` gives. -/
def IsReading (t : Timespec) : Prop := 0 ≤ t.tvNsec ∧ t.tvNsec < 1000000000

instance : DecidablePred IsReading := fun t =>
  inferInstanceAs (Decidable (0 ≤ t.tvNsec ∧ t.tvNsec < 1000000000))

variable {t t' : Timespec}

/-- The four roundings of a sum `s + n / 10 ^ 9`. -/
theorem abs_nearest_add_sub_le (s n : ℚ) :
    |nearest (nearest s + nearest (nearest n / 1000000000)) - (s + n / 1000000000)| ≤
      (|s| + |n / 1000000000|) / 2 ^ 51 := by
  have hsec : |nearest s - s| ≤ |s| / 2 ^ 53 := abs_nearest_sub_le s
  have hquotient : |nearest n / 1000000000 - n / 1000000000| ≤ |n / 1000000000| / 2 ^ 53 := by
    have hn := abs_nearest_sub_le n
    have hscale : |(1000000000 : ℚ)| = 1000000000 := by norm_num
    rw [← sub_div, abs_div, abs_div, hscale, div_right_comm]
    gcongr
  have hnsec := abs_nearest_sub_le_add (nearest n / 1000000000) (n / 1000000000)
  have hparts : |nearest s + nearest (nearest n / 1000000000) - (s + n / 1000000000)| ≤
      |nearest s - s| + |nearest (nearest n / 1000000000) - n / 1000000000| := by
    rw [add_sub_add_comm]
    exact abs_add_le _ _
  have hsum := abs_nearest_sub_le_add (nearest s + nearest (nearest n / 1000000000))
    (s + n / 1000000000)
  have hwhole : |s + n / 1000000000| ≤ |s| + |n / 1000000000| := abs_add_le _ _
  linarith [abs_nonneg s, abs_nonneg (n / 1000000000)]

/-- The result is off by the roundings of the two parts, which are not far from the whole. -/
theorem abs_elapsedDouble_sub_le (h : IsReading t) (h' : IsReading t') :
    |elapsedDouble t t' - elapsedSeconds t t'| ≤ (|elapsedSeconds t t'| + 2) / 2 ^ 51 := by
  set n : ℚ := ((t'.tvNsec - t.tvNsec : ℤ) : ℚ) / 1000000000 with hn
  set s : ℚ := ((t'.tvSec - t.tvSec : ℤ) : ℚ) with hs
  have hnsec : |n| ≤ 1 := by
    obtain ⟨hlo, hhi⟩ := h
    obtain ⟨hlo', hhi'⟩ := h'
    have habs : |t'.tvNsec - t.tvNsec| ≤ 1000000000 := abs_le.mpr ⟨by omega, by omega⟩
    rw [hn, abs_div, div_le_one (by norm_num)]
    exact_mod_cast habs
  have hsec : |s| ≤ |s + n| + |n| := by simpa using abs_sub (s + n) n
  have herror := abs_nearest_add_sub_le s ((t'.tvNsec - t.tvNsec : ℤ) : ℚ)
  calc |elapsedDouble t t' - elapsedSeconds t t'|
      ≤ (|s| + |n|) / 2 ^ 51 := herror
    _ ≤ (|elapsedSeconds t t'| + 2) / 2 ^ 51 := by
        gcongr ?_ / _
        show |s| + |n| ≤ |s + n| + 2
        linarith

/-- From a second on it is a few roundings away. -/
theorem within_elapsedDouble (h : IsReading t) (h' : IsReading t')
    (hone : 1 ≤ elapsedSeconds t t') :
    Within 13 (elapsedDouble t t') (elapsedSeconds t t') := by
  have herror := abs_elapsedDouble_sub_le h h'
  rw [abs_of_nonneg (show 0 ≤ elapsedSeconds t t' by linarith)] at herror
  refine Within.of_abs_sub_le (ε := 12 / 2 ^ 53) (herror.trans ?_) (by linarith) (by norm_num)
    (by norm_num)
  linarith

/-! ### The watchdog -/

/-- Times that differ from the limit do so by a nanosecond at least. -/
theorem elapsedSeconds_eq_or (t t' : Timespec) :
    elapsedSeconds t t' ≤ sensorActivityTime - 1 / 1000000000 ∨
      elapsedSeconds t t' = sensorActivityTime ∨
      sensorActivityTime + 1 / 1000000000 ≤ elapsedSeconds t t' := by
  have heq : elapsedSeconds t t' - sensorActivityTime =
      (((t'.tvSec - t.tvSec - 30) * 1000000000 + (t'.tvNsec - t.tvNsec) : ℤ) : ℚ) / 1000000000 := by
    rw [elapsedSeconds, sensorActivityTime, sensorInactiveSecsMax]
    push_cast
    ring
  generalize (t'.tvSec - t.tvSec - 30) * 1000000000 + (t'.tvNsec - t.tvNsec) = k at heq
  rcases lt_trichotomy k 0 with hk | rfl | hk
  · have hle : (k : ℚ) ≤ -1 := by exact_mod_cast Int.le_sub_one_of_lt hk
    exact Or.inl (by linarith)
  · exact Or.inr (Or.inl (by simpa [sub_eq_zero] using heq))
  · have hle : (1 : ℚ) ≤ k := by exact_mod_cast hk
    exact Or.inr (Or.inr (by linarith))

/-- The limit itself is computed without an error. -/
theorem elapsedDouble_of_eq (h : IsReading t) (h' : IsReading t')
    (heq : elapsedSeconds t t' = sensorActivityTime) :
    elapsedDouble t t' = sensorActivityTime := by
  have hsum : (t'.tvSec - t.tvSec) * 1000000000 + (t'.tvNsec - t.tvNsec) = 30 * 1000000000 := by
    rw [elapsedSeconds, sensorActivityTime, sensorInactiveSecsMax] at heq
    have hcast : (((t'.tvSec - t.tvSec) * 1000000000 + (t'.tvNsec - t.tvNsec) : ℤ) : ℚ) =
        ((30 * 1000000000 : ℤ) : ℚ) := by
      push_cast at heq ⊢
      linarith
    exact_mod_cast hcast
  obtain ⟨hlo, hhi⟩ := h
  obtain ⟨hlo', hhi'⟩ := h'
  have hnsec : t'.tvNsec - t.tvNsec = 0 := by omega
  have hsec : t'.tvSec - t.tvSec = 30 := by omega
  have hexact : nearest 30 = 30 :=
    OnGrid.nearest_eq (m := 4) ⟨30 * 2 ^ 48, by norm_num⟩ (by norm_num) (by norm_num)
  rw [elapsedDouble, hnsec, hsec, sensorActivityTime, sensorInactiveSecsMax]
  push_cast
  rw [nearest_zero, zero_div, nearest_zero, hexact, add_zero, hexact]

/-- **The watchdog compares as in exact arithmetic.** -/
theorem markState_eq_double {e : Sensor} (h : IsReading e.lastSeenTime) (h' : IsReading t) :
    markState t e =
      { e with
        state :=
          if elapsedDouble e.lastSeenTime t ≥ sensorActivityTime then .offline else .online } := by
  have hlimit : sensorActivityTime = 30 := by norm_num [sensorActivityTime, sensorInactiveSecsMax]
  have herror := abs_elapsedDouble_sub_le h h'
  rw [abs_le] at herror
  have hiff : elapsedSeconds e.lastSeenTime t ≥ sensorActivityTime ↔
      elapsedDouble e.lastSeenTime t ≥ sensorActivityTime := by
    rcases elapsedSeconds_eq_or e.lastSeenTime t with hbelow | heq | habove
    · have hdouble : elapsedDouble e.lastSeenTime t < sensorActivityTime := by
        rw [hlimit] at hbelow ⊢
        rcases abs_cases (elapsedSeconds e.lastSeenTime t) with ⟨habs, -⟩ | ⟨habs, -⟩ <;>
          rw [habs] at herror <;> linarith [herror.2]
      exact iff_of_false (by linarith) (not_le.mpr hdouble)
    · rw [heq, elapsedDouble_of_eq h h' heq]
    · rw [hlimit] at habove ⊢
      rw [abs_of_nonneg (show 0 ≤ elapsedSeconds e.lastSeenTime t by linarith)] at herror
      exact iff_of_true (by linarith) (by linarith [herror.1])
  rw [markState]
  simp only [hiff]

/-! ### From below -/

/-- A result that is not zero is not small. -/
theorem le_abs_elapsedDouble (h : elapsedDouble t t' ≠ 0) :
    2 ^ (-84 : ℤ) ≤ |elapsedDouble t t'| := by
  have hint : ∀ k : ℤ, (k : ℚ) ≠ 0 → (2 : ℚ) ^ (0 : ℤ) ≤ |(k : ℚ)| := by
    intro k hk
    rw [zpow_zero]
    exact_mod_cast Int.one_le_abs (by exact_mod_cast hk)
  unfold elapsedDouble at h ⊢
  generalize t'.tvSec - t.tvSec = s at h ⊢
  generalize t'.tvNsec - t.tvNsec = n at h ⊢
  have hsec : OnGrid (-83) (nearest s) := (onGrid_nearest (hint s)).mono (by norm_num)
  have hnsec : OnGrid (-31 - 52) (nearest (nearest n / 1000000000)) := by
    refine onGrid_nearest fun hne => ?_
    have hn : (n : ℚ) ≠ 0 := by
      intro hzero
      rw [hzero, nearest_zero, zero_div] at hne
      exact hne rfl
    have hone := hint n hn
    have hhalf := half_le_abs_nearest n
    rw [abs_div, abs_of_pos (show (0 : ℚ) < 1000000000 by norm_num), le_div_iff₀ (by norm_num)]
    norm_num at hone ⊢
    linarith
  have hle := (hsec.add hnsec).le_abs fun hzero => h (by rw [hzero, nearest_zero])
  have hhalf := half_le_abs_nearest (nearest s + nearest (nearest n / 1000000000))
  norm_num at hle ⊢
  linarith

end Telemetry
end Gateway
