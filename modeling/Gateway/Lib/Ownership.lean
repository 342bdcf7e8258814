import Mathlib.Tactic

/-!
# Resources with one owner each

Several parties share a stock of resources (cells of a heap, open files).  The discipline is that
every resource in use is in the hands of exactly one party, which alone may give it up or pass it
on.

* `Exclusive hold live`: the live names are the ones that are held, and none is held twice;
* `Exclusive.acquire`, `Exclusive.release`, `Exclusive.transfer`: what can happen to a name.
-/

namespace Ownership

variable {κ ν : Type*}

/-- `hold k` is the name in the hands of `k`, if any: the live names have one owner each. -/
structure Exclusive (hold : κ → Option ν) (live : ν → Prop) : Prop where
  live_of_hold : ∀ {k n}, hold k = some n → live n
  alone : ∀ {k k' n}, hold k = some n → hold k' = some n → k = k'
  held : ∀ {n}, live n → ∃ k, hold k = some n

namespace Exclusive

variable {hold : κ → Option ν} {live live' : ν → Prop} {k k' : κ} {n : ν}

theorem existsUnique (h : Exclusive hold live) (hn : live n) : ∃! k, hold k = some n := by
  obtain ⟨k, hk⟩ := h.held hn
  exact ⟨k, hk, fun k' hk' => h.alone hk' hk⟩

theorem congr (h : Exclusive hold live) (hlive : ∀ n, live' n ↔ live n) : Exclusive hold live' where
  live_of_hold hk := (hlive _).mpr (h.live_of_hold hk)
  alone := h.alone
  held hn := h.held ((hlive _).mp hn)

variable [DecidableEq κ]

/-- A party with empty hands takes a name that is not in use. -/
theorem acquire (h : Exclusive hold live) (hk : hold k = none) (hn : ¬ live n)
    (hlive : ∀ m, live' m ↔ m = n ∨ live m) :
    Exclusive (Function.update hold k (some n)) live' := by
  have hold_iff : ∀ j m, Function.update hold k (some n) j = some m ↔
      j = k ∧ m = n ∨ j ≠ k ∧ hold j = some m := by
    intro j m
    by_cases hj : j = k
    · subst hj
      simp [eq_comm]
    · simp [hj]
  refine ⟨fun {j m} hj => ?_, fun {j j' m} hj hj' => ?_, fun {m} hm => ?_⟩
  · rcases (hold_iff j m).mp hj with ⟨-, rfl⟩ | ⟨-, hj⟩
    · exact (hlive m).mpr (Or.inl rfl)
    · exact (hlive m).mpr (Or.inr (h.live_of_hold hj))
  · rcases (hold_iff j m).mp hj with ⟨rfl, rfl⟩ | ⟨-, hold_j⟩
    · rcases (hold_iff j' m).mp hj' with ⟨rfl, -⟩ | ⟨-, hold_j'⟩
      · rfl
      · exact absurd (h.live_of_hold hold_j') hn
    · rcases (hold_iff j' m).mp hj' with ⟨-, rfl⟩ | ⟨-, hold_j'⟩
      · exact absurd (h.live_of_hold hold_j) hn
      · exact h.alone hold_j hold_j'
  · rcases (hlive m).mp hm with rfl | hm
    · exact ⟨k, (hold_iff k m).mpr (Or.inl ⟨rfl, rfl⟩)⟩
    · obtain ⟨j, hj⟩ := h.held hm
      have hne : j ≠ k := by
        rintro rfl
        rw [hk] at hj
        cases hj
      exact ⟨j, (hold_iff j m).mpr (Or.inr ⟨hne, hj⟩)⟩

/-- The owner of a name gives it up. -/
theorem release (h : Exclusive hold live) (hk : hold k = some n)
    (hlive : ∀ m, live' m ↔ m ≠ n ∧ live m) : Exclusive (Function.update hold k none) live' := by
  have hold_iff : ∀ j m, Function.update hold k none j = some m ↔ j ≠ k ∧ hold j = some m := by
    intro j m
    by_cases hj : j = k
    · subst hj
      simp
    · simp [hj]
  refine ⟨fun {j m} hj => ?_, fun {j j' m} hj hj' => ?_, fun {m} hm => ?_⟩
  · obtain ⟨hne, hj⟩ := (hold_iff j m).mp hj
    refine (hlive m).mpr ⟨?_, h.live_of_hold hj⟩
    rintro rfl
    exact hne (h.alone hj hk)
  · exact h.alone ((hold_iff j m).mp hj).2 ((hold_iff j' m).mp hj').2
  · obtain ⟨hne, hm⟩ := (hlive m).mp hm
    obtain ⟨j, hj⟩ := h.held hm
    refine ⟨j, (hold_iff j m).mpr ⟨?_, hj⟩⟩
    rintro rfl
    rw [hk] at hj
    exact hne (Option.some.inj hj).symm

/-- The owner of a name passes it on to a party with empty hands. -/
theorem transfer (h : Exclusive hold live) (hk : hold k = some n) (hk' : hold k' = none) :
    Exclusive (Function.update (Function.update hold k none) k' (some n)) live := by
  have hreleased : Exclusive (Function.update hold k none) (fun m => m ≠ n ∧ live m) :=
    h.release hk fun _ => Iff.rfl
  refine hreleased.acquire ?_ (by simp) fun m => ?_
  · by_cases hkk' : k' = k
    · rw [hkk', Function.update_self]
    · rw [Function.update_of_ne hkk', hk']
  · constructor
    · intro hm
      by_cases hmn : m = n
      · exact Or.inl hmn
      · exact Or.inr ⟨hmn, hm⟩
    · rintro (rfl | ⟨-, hm⟩)
      · exact h.live_of_hold hk
      · exact hm

end Exclusive
end Ownership
