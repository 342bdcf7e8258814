import Mathlib.Tactic

/-!
# Systems that run dry

A system of threads is a step function in which a step that is not enabled changes nothing.  When
every step that changes something uses up some of the work that is left, the system runs dry: it
comes to a state in which no thread has anything to do, whatever the scheduler does.

* `Effective step s acts`: every action of the run changes something;
* `Quiescent step s`: no action changes anything;
* `length_le_work`: an effective run is no longer than the work at its start;
* `exists_quiescent`: from every state an effective run leads to a quiescent one.
-/

namespace Drain

variable {σ α : Type*}

/-- Every action of the run changes the state. -/
def Effective (step : σ → α → σ) : σ → List α → Prop
  | _, [] => True
  | s, a :: acts => step s a ≠ s ∧ Effective step (step s a) acts

/-- No action changes the state. -/
def Quiescent (step : σ → α → σ) (s : σ) : Prop := ∀ a, step s a = s

/-- Every action that changes the state uses up some work. -/
def Consumes (step : σ → α → σ) (work : σ → ℕ) : Prop :=
  ∀ s a, step s a ≠ s → work (step s a) < work s

variable {step : σ → α → σ} {work : σ → ℕ} {s : σ}

theorem length_le_work (h : Consumes step work) {acts : List α} (hacts : Effective step s acts) :
    acts.length + work (acts.foldl step s) ≤ work s := by
  induction acts generalizing s with
  | nil => simp
  | cons a acts ih =>
    obtain ⟨hne, hrest⟩ := hacts
    have hlt := h s a hne
    have hle := ih hrest
    rw [List.length_cons, List.foldl_cons]
    omega

/-- Work can be done until there is none left to do. -/
theorem exists_quiescent (h : Consumes step work) (s : σ) :
    ∃ acts, Effective step s acts ∧ Quiescent step (acts.foldl step s) := by
  induction hn : work s using Nat.strong_induction_on generalizing s with
  | _ n ih =>
    by_cases hq : Quiescent step s
    · exact ⟨[], trivial, hq⟩
    · obtain ⟨a, ha⟩ := not_forall.mp hq
      obtain ⟨acts, heff, hquiet⟩ := ih _ (hn ▸ h s a ha) (step s a) rfl
      exact ⟨a :: acts, ⟨ha, heff⟩, hquiet⟩

end Drain
