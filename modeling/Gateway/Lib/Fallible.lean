import Mathlib.Tactic

/-!
# Sequences of calls that can fail

A sequence of calls in which the first failure ends everything is an `Except` computation.  A
statement about it has two sides: what holds where it stops, and what holds when it comes through.

* `require ok e`: a call that stops with `e` if it fails;
* `Ends x E P`: `E` holds of what `x` stops with, or `P` of its result;
* `Ends.bind`, `ends_require`, `Ends.mapError`, `ends_foldlM`: the rules, one for each way to
  compose.
-/

namespace Fallible

variable {ε ε' α β : Type}

def require (ok : Bool) (e : ε) : Except ε Unit := if ok then .ok () else .error e

/-- Both sides of what is known about a sequence of calls. -/
def Ends (x : Except ε α) (E : ε → Prop) (P : α → Prop) : Prop :=
  match x with
  | .error e => E e
  | .ok a => P a

variable {x : Except ε α} {f : α → Except ε β} {E : ε → Prop} {P : α → Prop} {Q : β → Prop}

theorem Ends.of_ok {a : α} (h : Ends x E P) (hx : x = .ok a) : P a := by
  rw [hx] at h
  exact h

theorem Ends.of_error {e : ε} (h : Ends x E P) (hx : x = .error e) : E e := by
  rw [hx] at h
  exact h

theorem ends_trivial (x : Except ε α) : Ends x (fun _ => True) fun _ => True := by
  cases x <;> trivial

theorem Ends.bind (hx : Ends x E P) (hf : ∀ a, P a → Ends (f a) E Q) : Ends (x >>= f) E Q := by
  cases x with
  | error e => exact hx
  | ok a => exact hf a hx

/-- What follows a call is only reached if the call succeeds. -/
theorem ends_require_of {ok : Bool} {e : ε} {f : Unit → Except ε β} (he : ok = false → E e)
    (hf : ok = true → Ends (f ()) E Q) : Ends (require ok e >>= f) E Q := by
  cases ok with
  | false => exact he rfl
  | true => exact hf rfl

theorem ends_require {ok : Bool} {e : ε} {f : Unit → Except ε β} (he : E e)
    (hf : Ends (f ()) E Q) : Ends (require ok e >>= f) E Q :=
  ends_require_of (fun _ => he) fun _ => hf

theorem Ends.mapError {E' : ε' → Prop} {g : ε → ε'} (hx : Ends x E P) (hg : ∀ e, E e → E' (g e)) :
    Ends (x.mapError g) E' P := by
  cases x with
  | error e => exact hg e hx
  | ok a => exact hx

/-- A loop over calls, each of which keeps `P` or stops with `E`. -/
theorem ends_foldlM {g : α → β → Except ε α} (hg : ∀ a b, P a → Ends (g a b) E P) {a : α} (ha : P a)
    (bs : List β) : Ends (bs.foldlM g a) E P := by
  induction bs generalizing a with
  | nil => exact ha
  | cons b bs ih =>
    rw [List.foldlM_cons]
    exact (hg a b ha).bind fun a' ha' => ih ha'

end Fallible
