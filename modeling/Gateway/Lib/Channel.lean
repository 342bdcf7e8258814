import Mathlib.Tactic

/-!
# Bounded FIFO channels with their history

A channel holds at most `cap` messages and hands them out in the order in which they were put in.
It records everything that was ever put on it and taken off it; that what was put is what was taken
followed by what is still there is part of the structure, so no channel can lose, repeat or reorder
a message.

`put` and `take` are `none` when the channel is full or empty: a non-blocking call then fails, a
blocking one waits.
-/

/-- A bounded FIFO channel. -/
@[ext]
structure Channel (α : Type) (cap : ℕ) where
  contents : List α
  sent : List α
  received : List α
  length_le : contents.length ≤ cap
  sent_eq : sent = received ++ contents

namespace Channel

variable {α : Type} {cap : ℕ} {c c' : Channel α cap} {a : α}

def empty : Channel α cap := ⟨[], [], [], Nat.zero_le _, rfl⟩

/-- There is a free slot. -/
def HasRoom (c : Channel α cap) : Prop := c.contents.length < cap

instance (c : Channel α cap) : Decidable c.HasRoom := inferInstanceAs (Decidable (_ < _))

def put (c : Channel α cap) (a : α) : Option (Channel α cap) :=
  if h : c.HasRoom then
    some ⟨c.contents ++ [a], c.sent ++ [a], c.received, by rw [List.length_append]; exact h,
      by rw [c.sent_eq, List.append_assoc]⟩
  else none

def take (c : Channel α cap) : Option (α × Channel α cap) :=
  match h : c.contents with
  | [] => none
  | a :: rest =>
      some (a, ⟨rest, c.sent, c.received ++ [a], by
        have hlen := c.length_le
        rw [h, List.length_cons] at hlen
        omega, by rw [c.sent_eq, h, List.append_assoc]; rfl⟩)

@[simp] theorem empty_sent : (empty : Channel α cap).sent = [] := rfl
@[simp] theorem empty_contents : (empty : Channel α cap).contents = [] := rfl

theorem put_eq_none_iff : c.put a = none ↔ ¬ c.HasRoom := by
  unfold put
  split_ifs with h <;> simp [h]

theorem exists_put (h : c.HasRoom) (a : α) : ∃ c', c.put a = some c' := by
  cases hput : c.put a with
  | none => exact absurd h (put_eq_none_iff.mp hput)
  | some c' => exact ⟨c', rfl⟩

theorem hasRoom_of_put (h : c.put a = some c') : c.HasRoom := by
  by_contra hfull
  rw [put_eq_none_iff.mpr hfull] at h
  cases h

theorem sent_put (h : c.put a = some c') : c'.sent = c.sent ++ [a] := by
  unfold put at h
  split_ifs at h
  cases h
  rfl

theorem contents_put (h : c.put a = some c') : c'.contents = c.contents ++ [a] := by
  unfold put at h
  split_ifs at h
  cases h
  rfl

theorem contents_take (h : c.take = some (a, c')) : c.contents = a :: c'.contents := by
  unfold take at h
  split at h
  · cases h
  · rename_i hcontents
    cases h
    exact hcontents

theorem exists_take (h : c.contents ≠ []) : ∃ a c', c.take = some (a, c') := by
  unfold take
  split
  · rename_i hnil
    exact absurd hnil h
  · exact ⟨_, _, rfl⟩

theorem ne_of_take (h : c.take = some (a, c')) : c' ≠ c := by
  intro heq
  have hlen := congrArg List.length (contents_take h)
  rw [heq, List.length_cons] at hlen
  omega

theorem sent_take (h : c.take = some (a, c')) : c'.sent = c.sent := by
  unfold take at h
  split at h
  · cases h
  · cases h
    rfl

theorem received_put (h : c.put a = some c') : c'.received = c.received := by
  unfold put at h
  split_ifs at h
  cases h
  rfl

theorem received_take (h : c.take = some (a, c')) : c'.received = c.received ++ [a] := by
  unfold take at h
  split at h
  · cases h
  · cases h
    rfl

/-- All that was put on an empty channel has been taken off it. -/
theorem received_of_empty (h : c.contents = []) : c.received = c.sent := by
  rw [c.sent_eq, h, List.append_nil]

theorem hasRoom_take (h : c.take = some (a, c')) (hroom : c.HasRoom) : c'.HasRoom := by
  rw [HasRoom, contents_take h, List.length_cons] at hroom
  exact Nat.lt_of_succ_lt hroom

end Channel
