import Mathlib.Tactic

/-!
# Reading a stream as code words

A set of words is a prefix code when no word is empty and none is a proper prefix of another.  A
stream is read as a list of code words followed by a rest that no code word starts; for a prefix
code there is only one such reading, and every list of code words the stream starts with is a
prefix of it.
-/

namespace PrefixCode

variable {α : Type*} {C : List α → Prop}

/-- No code word is empty or a proper prefix of another. -/
structure IsPrefixCode (C : List α → Prop) : Prop where
  ne_nil : ∀ w, C w → w ≠ []
  eq_of_isPrefix : ∀ v w, C v → C w → v <+: w → v = w

/-- `ws` are the words at the start of `l`, as many as there are: what is left starts no word. -/
def Reading (C : List α → Prop) (l : List α) (ws : List (List α)) : Prop :=
  (∀ w ∈ ws, C w) ∧ ∃ rest, l = ws.flatten ++ rest ∧ ∀ w, C w → ¬ w <+: rest

theorem reading_nil {l : List α} (h : ∀ w, C w → ¬ w <+: l) : Reading C l [] :=
  ⟨by simp, l, rfl, h⟩

theorem Reading.cons {l : List α} {w : List α} {ws : List (List α)} (hw : C w)
    (h : Reading C l ws) : Reading C (w ++ l) (w :: ws) := by
  obtain ⟨hws, rest, rfl, hrest⟩ := h
  refine ⟨?_, rest, by simp, hrest⟩
  intro v hv
  rcases List.mem_cons.mp hv with rfl | hv
  · exact hw
  · exact hws v hv

/-- A stream that consists of code words is read as these. -/
theorem reading_flatten (hC : IsPrefixCode C) {ws : List (List α)} (hws : ∀ w ∈ ws, C w) :
    Reading C ws.flatten ws := by
  refine ⟨hws, [], by simp, fun w hw hp => ?_⟩
  exact hC.ne_nil w hw (List.prefix_nil.mp hp)

/-- Of two code words that start the same stream neither is longer. -/
theorem IsPrefixCode.eq_of_append (hC : IsPrefixCode C) {v w s t : List α} (hv : C v) (hw : C w)
    (h : v ++ s = w ++ t) : v = w := by
  rcases List.prefix_or_prefix_of_prefix (List.prefix_append v s) (h ▸ List.prefix_append w t)
    with hp | hp
  · exact hC.eq_of_isPrefix v w hv hw hp
  · exact (hC.eq_of_isPrefix w v hw hv hp).symm

/-- Whatever code words the stream starts with, the reading starts with them. -/
theorem Reading.isPrefix (hC : IsPrefixCode C) {l : List α} {ws vs : List (List α)}
    (h : Reading C l ws) (hvs : ∀ v ∈ vs, C v) (hp : vs.flatten <+: l) : vs <+: ws := by
  induction vs generalizing l ws with
  | nil => exact List.nil_prefix
  | cons v vs ih =>
    obtain ⟨hws, rest, rfl, hrest⟩ := h
    obtain ⟨t, ht⟩ := hp
    have hv : C v := hvs v List.mem_cons_self
    rw [List.flatten_cons, List.append_assoc] at ht
    cases ws with
    | nil =>
      -- the rest would start with `v`
      exact absurd ⟨vs.flatten ++ t, by simpa using ht⟩ (hrest v hv)
    | cons w ws =>
      have hw : C w := hws w List.mem_cons_self
      rw [List.flatten_cons, List.append_assoc] at ht
      obtain rfl := hC.eq_of_append hv hw ht
      have htail : vs.flatten ++ t = ws.flatten ++ rest := List.append_cancel_left ht
      have hread : Reading C (ws.flatten ++ rest) ws :=
        ⟨fun u hu => hws u (List.mem_cons_of_mem _ hu), rest, rfl, hrest⟩
      exact List.cons_prefix_cons.mpr
        ⟨rfl, ih hread (fun u hu => hvs u (List.mem_cons_of_mem _ hu)) ⟨t, htail⟩⟩

theorem Reading.unique (hC : IsPrefixCode C) {l : List α} {ws vs : List (List α)}
    (h : Reading C l ws) (h' : Reading C l vs) : ws = vs := by
  obtain ⟨r, hr, -⟩ := h.2
  obtain ⟨r', hr', -⟩ := h'.2
  have hle : ws <+: vs := h'.isPrefix hC h.1 ⟨r, hr.symm⟩
  have hge : vs <+: ws := h.isPrefix hC h'.1 ⟨r', hr'.symm⟩
  exact hle.eq_of_length (le_antisymm hle.length_le hge.length_le)

end PrefixCode
