import Mathlib.Tactic

/-!
# Tables of descriptors

A process knows its open files by small numbers.  A call that opens a file takes the lowest number
that is free, `dup2` makes a second number stand for a file, and `close` frees a number whatever it
stands for.

* `Table`: what each number stands for, with only finitely many in use;
* `Table.lowest`: the number that the next file gets;
* `Table.close_openFile`: closing what was just opened restores the table.
-/

namespace Descriptors

/-- The files of a process.  Only finitely many numbers are in use, so that one is always free. -/
@[ext]
structure Table (φ : Type*) where
  file : ℕ → Option φ
  finite : ∃ N, ∀ n, N ≤ n → file n = none

namespace Table

variable {φ : Type*} {t : Table φ} {f : φ} {n m : ℕ}

/-- No file is open. -/
def empty : Table φ := ⟨fun _ => none, 0, fun _ _ => rfl⟩

theorem exists_free (t : Table φ) : ∃ n, (t.file n).isNone = true := by
  obtain ⟨N, hN⟩ := t.finite
  exact ⟨N, by rw [hN N le_rfl]; rfl⟩

/-- The lowest free number. -/
def lowest (t : Table φ) : ℕ := Nat.find t.exists_free

@[simp]
theorem file_lowest (t : Table φ) : t.file t.lowest = none := by
  have h := Nat.find_spec t.exists_free
  exact Option.isNone_iff_eq_none.mp h

/-- A number that is in use is not the next one. -/
theorem ne_lowest (h : t.file n = some f) : n ≠ t.lowest := by
  rintro rfl
  rw [file_lowest] at h
  cases h

/-- The table with the number `n` standing for `f`, or for nothing. -/
def put (t : Table φ) (n : ℕ) (f : Option φ) : Table φ where
  file := Function.update t.file n f
  finite := by
    obtain ⟨N, hN⟩ := t.finite
    refine ⟨max N (n + 1), fun m hm => ?_⟩
    have hne : m ≠ n := by omega
    rw [Function.update_of_ne hne]
    exact hN m (le_of_max_le_left hm)

@[simp]
theorem file_put_self (t : Table φ) (n : ℕ) (f : Option φ) : (t.put n f).file n = f := by
  simp [put]

theorem file_put_of_ne (f : Option φ) (h : m ≠ n) : (t.put n f).file m = t.file m := by
  simp [put, h]

/-- The table with one more file. -/
def openFile (t : Table φ) (f : φ) : Table φ := t.put t.lowest (some f)

/-- The table after a `close`, which does nothing to a number that is free. -/
def close (t : Table φ) (n : ℕ) : Table φ := t.put n none

/-- The table after a `dup2`, which fails if `n` stands for nothing. -/
def dup2 (t : Table φ) (n m : ℕ) : Table φ := if (t.file n).isSome then t.put m (t.file n) else t

@[simp]
theorem file_openFile_lowest (t : Table φ) (f : φ) : (t.openFile f).file t.lowest = some f :=
  file_put_self t t.lowest (some f)

theorem file_openFile_of_ne (f : φ) (h : n ≠ t.lowest) : (t.openFile f).file n = t.file n :=
  file_put_of_ne (some f) h

/-- Opening a file leaves the files that are open. -/
theorem file_openFile_of_some {g : φ} (f : φ) (h : t.file n = some g) :
    (t.openFile f).file n = some g := by
  rw [file_openFile_of_ne f (ne_lowest h), h]

@[simp]
theorem file_close_self (t : Table φ) (n : ℕ) : (t.close n).file n = none :=
  file_put_self t n none

theorem file_close_of_ne (h : m ≠ n) : (t.close n).file m = t.file m := file_put_of_ne none h

/-- A number that is open after a `close` was open before it, and is another one. -/
theorem file_close_eq_some (h : (t.close n).file m = some f) : m ≠ n ∧ t.file m = some f := by
  have hne : m ≠ n := by
    rintro rfl
    rw [file_close_self] at h
    cases h
  rw [file_close_of_ne hne] at h
  exact ⟨hne, h⟩

@[simp]
theorem close_openFile (t : Table φ) (f : φ) : (t.openFile f).close t.lowest = t := by
  ext1
  funext n
  by_cases hn : n = t.lowest
  · rw [hn, file_close_self, file_lowest]
  · rw [file_close_of_ne hn, file_openFile_of_ne f hn]

theorem close_comm (t : Table φ) (n m : ℕ) : (t.close n).close m = (t.close m).close n := by
  by_cases h : n = m
  · rw [h]
  · ext1
    exact Function.update_comm h none none t.file

theorem file_dup2_self (h : t.file n = some f) (m : ℕ) : (t.dup2 n m).file m = some f := by
  rw [dup2, if_pos (by rw [h]; rfl), file_put_self, h]

theorem file_dup2_of_ne {k : ℕ} (n : ℕ) (h : k ≠ m) : (t.dup2 n m).file k = t.file k := by
  unfold dup2
  split_ifs with hopen
  · exact file_put_of_ne _ h
  · rfl

end Table
end Descriptors
