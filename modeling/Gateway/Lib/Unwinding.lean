import Gateway.Lib.Run

/-!
# Runs that look the same

An observer of a system sees a part of its state.  When the actions that are not visible leave this
part alone, and the visible ones act on it by itself, what the observer sees of a run depends on the
visible actions only.

The two runs may belong to different systems, which is for a system with a parameter that the
observer should not learn.
-/

namespace Unwinding

open Run

variable {σ α ε ω : Type} {step₁ step₂ : σ → α → Except ε σ} {visible : α → Bool} {obs : σ → ω}

/-- Actions that are not visible change nothing that is observed. -/
def Silent (step : σ → α → Except ε σ) (visible : α → Bool) (obs : σ → ω) : Prop :=
  ∀ s a s', visible a = false → step s a = .ok s' → obs s' = obs s

/-- Visible actions take states that look the same to states that look the same. -/
def Respects (step₁ step₂ : σ → α → Except ε σ) (visible : α → Bool) (obs : σ → ω) : Prop :=
  ∀ s t a s' t', visible a = true → obs s = obs t → step₁ s a = .ok s' → step₂ t a = .ok t' →
    obs s' = obs t'

theorem obs_exec_silent {step : σ → α → Except ε σ} (h : Silent step visible obs)
    {acts : List α} (hacts : acts.filter visible = []) {s s' : σ}
    (hs : exec step s acts = .ok s') : obs s' = obs s := by
  induction acts generalizing s with
  | nil =>
    cases hs
    rfl
  | cons a acts ih =>
    obtain ⟨s₁, hstep, hrest⟩ := exec_cons_ok hs
    rw [List.filter_cons] at hacts
    split_ifs at hacts with ha
    rw [ih hacts hrest, h s a s₁ (Bool.eq_false_of_not_eq_true ha) hstep]

/-- What is observed of a run depends on its visible actions only. -/
theorem obs_exec (h₁ : Silent step₁ visible obs) (h₂ : Silent step₂ visible obs)
    (h : Respects step₁ step₂ visible obs) {acts₁ acts₂ : List α}
    (hacts : acts₁.filter visible = acts₂.filter visible) {s s' t t' : σ} (hst : obs s = obs t)
    (hs : exec step₁ s acts₁ = .ok s') (ht : exec step₂ t acts₂ = .ok t') : obs s' = obs t' := by
  induction acts₁ generalizing s t acts₂ with
  | nil =>
    cases hs
    rw [obs_exec_silent h₂ hacts.symm ht, hst]
  | cons a acts₁ ih =>
    obtain ⟨s₁, hstep₁, hrest₁⟩ := exec_cons_ok hs
    by_cases ha : visible a = true
    · rw [List.filter_cons_of_pos ha] at hacts
      -- the same action comes next in the other run, after some that are not visible
      induction acts₂ generalizing t with
      | nil => cases hacts
      | cons b acts₂ ih₂ =>
        obtain ⟨t₁, hstep₂, hrest₂⟩ := exec_cons_ok ht
        by_cases hb : visible b = true
        · rw [List.filter_cons_of_pos hb, List.cons.injEq] at hacts
          obtain ⟨rfl, hacts⟩ := hacts
          exact ih hacts (h s t a s₁ t₁ ha hst hstep₁ hstep₂) hrest₁ hrest₂
        · rw [List.filter_cons_of_neg hb] at hacts
          have hsame := h₂ t b t₁ (Bool.eq_false_of_not_eq_true hb) hstep₂
          exact ih₂ hacts (hst.trans hsame.symm) hrest₂
    · rw [List.filter_cons_of_neg ha] at hacts
      have hsame := h₁ s a s₁ (Bool.eq_false_of_not_eq_true ha) hstep₁
      exact ih hacts (hsame.trans hst) hrest₁ ht

end Unwinding
