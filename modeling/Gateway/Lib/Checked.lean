import Mathlib.Tactic

/-!
# Signed arithmetic that can overflow

An overflow of signed arithmetic has no result in C.  `result w n` is the number `n` as the result
of an operation on a type with a sign and `w` more bits, and `none` when the type does not hold it.

* `sum w l` adds the numbers of a list in order, and `sum_eq_some_iff` says that it has a result
  exactly when every partial sum fits.
-/

namespace Checked

/-- The numbers that a sign and `w` bits hold. -/
def Fits (w : ℕ) (n : ℤ) : Prop := -2 ^ w ≤ n ∧ n < 2 ^ w

instance (w : ℕ) (n : ℤ) : Decidable (Fits w n) := inferInstanceAs (Decidable (_ ∧ _))

/-- The result of an operation whose exact value is `n`. -/
def result (w : ℕ) (n : ℤ) : Option ℤ := if Fits w n then some n else none

variable {w : ℕ} {n m : ℤ}

theorem fits_zero (w : ℕ) : Fits w 0 := by
  have hpos : (0 : ℤ) < 2 ^ w := by positivity
  exact ⟨by omega, hpos⟩

theorem result_eq_some_iff : result w n = some m ↔ Fits w n ∧ n = m := by
  unfold result
  split_ifs with h <;> simp [h]

theorem result_of_fits (h : Fits w n) : result w n = some n := if_pos h

/-- The sum of a list, added up from a number. -/
def sumFrom (w : ℕ) (start : ℤ) (l : List ℤ) : Option ℤ :=
  l.foldlM (fun sum n => result w (sum + n)) start

/-- The sum of a list, added up in order. -/
def sum (w : ℕ) (l : List ℤ) : Option ℤ := sumFrom w 0 l

theorem sumFrom_cons (start a : ℤ) (l : List ℤ) :
    sumFrom w start (a :: l) = (result w (start + a)).bind fun s => sumFrom w s l := by
  rw [sumFrom, List.foldlM_cons]
  rfl

theorem sumFrom_eq_some_iff {start : ℤ} (hstart : Fits w start) {l : List ℤ} :
    sumFrom w start l = some m ↔
      (∀ p ∈ l.inits, Fits w (start + p.sum)) ∧ start + l.sum = m := by
  induction l generalizing start with
  | nil => simp [sumFrom, hstart]
  | cons a l ih =>
    have hinits : (∀ p ∈ (a :: l).inits, Fits w (start + p.sum)) ↔
        ∀ p ∈ l.inits, Fits w (start + a + p.sum) := by
      simp [hstart, add_assoc]
    rw [sumFrom_cons, hinits, List.sum_cons, ← add_assoc]
    constructor
    · intro h
      obtain ⟨s, hs, hrest⟩ := Option.bind_eq_some_iff.mp h
      obtain ⟨hfits, rfl⟩ := result_eq_some_iff.mp hs
      exact (ih hfits).mp hrest
    · rintro ⟨hsums, hsum⟩
      have hfits : Fits w (start + a) := by simpa using hsums [] (by simp)
      rw [result_of_fits hfits, Option.bind_some]
      exact (ih hfits).mpr ⟨hsums, hsum⟩

/-- Every partial sum of the list fits. -/
def PartialSumsFit (w : ℕ) (l : List ℤ) : Prop := ∀ p ∈ l.inits, Fits w p.sum

instance (w : ℕ) (l : List ℤ) : Decidable (PartialSumsFit w l) := List.decidableBAll _ l.inits

/-- A sum has a result exactly when every partial sum fits, and then it is the exact sum. -/
theorem sum_eq_some_iff {l : List ℤ} : sum w l = some m ↔ PartialSumsFit w l ∧ l.sum = m := by
  have h := sumFrom_eq_some_iff (fits_zero w) (l := l) (m := m)
  simp only [zero_add] at h
  exact h

end Checked
