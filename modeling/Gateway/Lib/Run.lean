import Mathlib.Tactic

/-!
# Runs of a step function that can fail

`exec step s acts` takes the actions `acts` one after the other from `s` and stops at the first
failure.  The rules go by induction on the actions from the last one, because the systems they are
for record their past by appending to it.

`exec_rule`: what holds at the start and is carried over every action holds after every run, and no
run fails.
-/

namespace Run

variable {σ α ε : Type}

/-- The state after the actions `acts`. -/
def exec (step : σ → α → Except ε σ) (s : σ) (acts : List α) : Except ε σ := acts.foldlM step s

variable {step : σ → α → Except ε σ} {s s' : σ}

theorem exec_cons {a : α} (h : step s a = .ok s') (acts : List α) :
    exec step s (a :: acts) = exec step s' acts := by
  rw [exec, List.foldlM_cons, h]
  rfl

/-- A run that does not fail has a first step that does not fail. -/
theorem exec_cons_ok {a : α} {acts : List α} (h : exec step s (a :: acts) = .ok s') :
    ∃ s₁, step s a = .ok s₁ ∧ exec step s₁ acts = .ok s' := by
  cases hstep : step s a with
  | error e =>
    rw [exec, List.foldlM_cons, hstep] at h
    cases h
  | ok s₁ => exact ⟨s₁, rfl, by rw [← h, exec_cons hstep]⟩

theorem exec_append {acts : List α} (h : exec step s acts = .ok s') (acts' : List α) :
    exec step s (acts ++ acts') = exec step s' acts' := by
  have hs : acts.foldlM step s = .ok s' := h
  rw [exec, List.foldlM_append, hs]
  rfl

theorem exec_concat {acts : List α} (h : exec step s acts = .ok s') (a : α) :
    exec step s (acts ++ [a]) = step s' a := by
  rw [exec_append h]
  show (step s' a >>= pure) = step s' a
  cases step s' a <;> rfl

theorem exec_rule {P : List α → σ → Prop} (hinit : P [] s)
    (hstep : ∀ acts a s, P acts s → ∃ s', step s a = .ok s' ∧ P (acts ++ [a]) s')
    (acts : List α) : ∃ s', exec step s acts = .ok s' ∧ P acts s' := by
  induction acts using List.reverseRecOn with
  | nil => exact ⟨s, rfl, hinit⟩
  | append_singleton acts a ih =>
    obtain ⟨s₁, hs₁, hP⟩ := ih
    obtain ⟨s₂, hs₂, hP'⟩ := hstep acts a s₁ hP
    exact ⟨s₂, by rw [exec_concat hs₁, hs₂], hP'⟩

end Run
