import Mathlib.Data.List.DropRight
import Mathlib.Tactic

/-!
# A window over the last values of a stream

A window of `k` places takes values one after the other.  While it has a free place it keeps them
all, and then the oldest one goes for each that comes.  `foldl_push` says that it holds the last `k`
values at every moment.
-/

namespace SlidingWindow

variable {α : Type*} {k : ℕ}

/-- Take a value into a window of `k` places. -/
def push (k : ℕ) (window : List α) (a : α) : List α :=
  if window.length < k then window ++ [a] else window.drop 1 ++ [a]

theorem length_rtake (l : List α) (k : ℕ) : (l.rtake k).length = min k l.length := by
  rw [List.rtake, List.length_drop]
  omega

theorem rtake_of_le {l : List α} (h : l.length ≤ k) : l.rtake k = l := by
  rw [List.rtake, Nat.sub_eq_zero_of_le h, List.drop_zero]

/-- One value more moves the window on. -/
theorem push_rtake (hk : 0 < k) (l : List α) (a : α) :
    push k (l.rtake k) a = (l ++ [a]).rtake k := by
  unfold push
  split_ifs with h
  · rw [length_rtake] at h
    rw [rtake_of_le (show l.length ≤ k by omega),
      rtake_of_le (by rw [List.length_append, List.length_singleton]; omega)]
  · rw [length_rtake] at h
    rw [List.rtake, List.drop_drop, List.rtake, List.length_append, List.length_singleton,
      List.drop_append_of_le_length (by omega)]
    congr 2
    omega

/-- The window holds the last `k` values. -/
theorem foldl_push (hk : 0 < k) (l : List α) : l.foldl (push k) [] = l.rtake k := by
  induction l using List.reverseRecOn with
  | nil => rw [List.foldl_nil, List.rtake_nil]
  | append_singleton l a ih => rw [List.foldl_concat, ih, push_rtake hk]

end SlidingWindow
