import Mathlib.Tactic

/-!
# Segmented streams

A stream socket delivers its bytes in chunks that the sender does not control, and a call may be
interrupted or fail.  A connection is the list of what its `recv` calls will meet: non-empty
chunks, interruptions and failures, with the end of the list standing for the end of the stream.

* `recv len es` is one call for at most `len` elements, `recvAll len es` the usual loop around it
  that asks for the rest until `len` elements are there;
* `content es` is what the connection delivers however it is cut up, and `recvAll_of_complete`,
  `recvAll_complete_iff` describe the loop by `content` alone;
* `sendAll` is the dual loop around `send`; `Reliable` schedules let everything out.
-/

namespace Segmented

variable {α : Type*}

/-- What a `recv` call meets.  A chunk has at least one element, since a call that returns none
reports the end of the stream; an interruption says whether an exit was requested by then. -/
inductive Event (α : Type*)
  | data (head : α) (tail : List α)
  | eintr (exitRequested : Bool)
  | fail
  deriving DecidableEq

/-- The result of one `recv` call: a positive count, `0`, or `-1` with `EINTR` or another error. -/
inductive Received (α : Type*)
  | chunk (bytes : List α)
  | closed
  | interrupted (exitRequested : Bool)
  | failed

/-- One `recv` call for at most `len` elements; the rest of a long chunk stays on the connection. -/
def recv (len : ℕ) : List (Event α) → Received α × List (Event α)
  | [] => (.closed, [])
  | .data b bs :: es =>
      match (b :: bs).drop len with
      | [] => (.chunk (b :: bs), es)
      | c :: cs => (.chunk ((b :: bs).take len), .data c cs :: es)
  | .eintr exit :: es => (.interrupted exit, es)
  | .fail :: es => (.failed, es)

/-- How the receive loop ends: all of it, end of stream, or an error. -/
inductive Outcome
  | complete
  | closed
  | failed
  deriving DecidableEq

/-- The outcome of a receive loop, the elements it stored, and what is left of the connection. -/
structure Reception (α : Type*) where
  outcome : Outcome
  stored : List α
  rest : List (Event α)

/-- Receive until `len` elements are there.  An interruption is retried unless an exit was
requested. -/
def recvAll : ℕ → List (Event α) → Reception α
  | 0, es => ⟨.complete, [], es⟩
  | _ + 1, [] => ⟨.closed, [], []⟩
  | _ + 1, .fail :: es => ⟨.failed, [], es⟩
  | len + 1, .eintr exit :: es => if exit then ⟨.failed, [], es⟩ else recvAll (len + 1) es
  | len + 1, .data b bs :: es =>
      match (b :: bs).drop (len + 1) with
      | [] =>
          let r := recvAll (len + 1 - (b :: bs).length) es
          ⟨r.outcome, b :: bs ++ r.stored, r.rest⟩
      | c :: cs => ⟨.complete, (b :: bs).take (len + 1), .data c cs :: es⟩

@[simp] theorem recvAll_zero (es : List (Event α)) : recvAll 0 es = ⟨.complete, [], es⟩ := by
  cases es <;> rfl

/-- `recvAll` is the loop around `recv`: while elements are missing, ask for the missing ones. -/
theorem recvAll_loop {len : ℕ} (hlen : 0 < len) (es : List (Event α)) :
    recvAll len es =
      match recv len es with
      | (.closed, es') => ⟨.closed, [], es'⟩
      | (.failed, es') => ⟨.failed, [], es'⟩
      | (.interrupted exit, es') => if exit then ⟨.failed, [], es'⟩ else recvAll len es'
      | (.chunk bytes, es') =>
          let r := recvAll (len - bytes.length) es'
          ⟨r.outcome, bytes ++ r.stored, r.rest⟩ := by
  obtain ⟨n, rfl⟩ : ∃ n, len = n + 1 := ⟨len - 1, by omega⟩
  match es with
  | [] => rfl
  | .fail :: es => rfl
  | .eintr exit :: es => rfl
  | .data b bs :: es =>
    simp only [recvAll, recv]
    cases hd : (b :: bs).drop (n + 1) with
    | nil => rfl
    | cons c cs =>
      have hl : n + 1 ≤ (b :: bs).length := by
        by_contra h
        rw [List.drop_eq_nil_of_le (by omega)] at hd
        cases hd
      have hmissing : n + 1 - ((b :: bs).take (n + 1)).length = 0 := by
        rw [List.length_take, Nat.min_eq_left hl, Nat.sub_self]
      simp only [hmissing, recvAll_zero, List.append_nil]

/-! ### What a connection delivers -/

/-- Everything that arrives before the first failure or the end of the stream. -/
def content : List (Event α) → List α
  | [] => []
  | .data b bs :: es => b :: bs ++ content es
  | .eintr _ :: es => content es
  | .fail :: _ => []

/-- No interruption comes with a request to exit. -/
def NoExit (es : List (Event α)) : Prop := Event.eintr true ∉ es

instance [DecidableEq α] (es : List (Event α)) : Decidable (NoExit es) :=
  inferInstanceAs (Decidable (_ ∉ es))

/-- A loop that completes has stored the first `len` elements and leaves the others. -/
theorem recvAll_of_complete {len : ℕ} {es : List (Event α)}
    (h : (recvAll len es).outcome = .complete) :
    len ≤ (content es).length ∧ (recvAll len es).stored = (content es).take len ∧
      content (recvAll len es).rest = (content es).drop len := by
  induction es generalizing len with
  | nil => cases len <;> simp [recvAll] at h ⊢
  | cons e es ih =>
    cases len with
    | zero => simp
    | succ len =>
      cases e with
      | fail => simp [recvAll] at h
      | eintr exit =>
        cases exit with
        | true => simp [recvAll] at h
        | false => exact ih h
      | data b bs =>
        cases hd : (b :: bs).drop (len + 1) with
        | nil =>
          have hl : (b :: bs).length ≤ len + 1 := List.drop_eq_nil_iff.mp hd
          simp only [recvAll, hd] at h ⊢
          obtain ⟨h₁, h₂, h₃⟩ := ih h
          refine ⟨?_, ?_, ?_⟩
          · rw [content, List.length_append]; omega
          · rw [h₂, content, List.take_append, List.take_of_length_le hl]
          · rw [h₃, content, List.drop_append, hd, List.nil_append]
        | cons c cs =>
          have hl : len + 1 ≤ (b :: bs).length := by
            by_contra hgt
            rw [List.drop_eq_nil_of_le (by omega)] at hd
            cases hd
          simp only [recvAll, hd]
          refine ⟨?_, ?_, ?_⟩
          · rw [content, List.length_append]; omega
          · rw [content, List.take_append_of_le_length hl]
          · rw [content, content, List.drop_append_of_le_length hl, hd]

/-- Without a request to exit the loop completes exactly when enough is delivered. -/
theorem recvAll_complete_iff {len : ℕ} {es : List (Event α)} (hx : NoExit es) :
    (recvAll len es).outcome = .complete ↔ len ≤ (content es).length := by
  refine ⟨fun h => (recvAll_of_complete h).1, fun h => ?_⟩
  induction es generalizing len with
  | nil =>
    obtain rfl : len = 0 := by simpa [content] using h
    rfl
  | cons e es ih =>
    have hx' : NoExit es := fun hm => hx (List.mem_cons_of_mem _ hm)
    cases len with
    | zero => simp
    | succ len =>
      cases e with
      | fail => simp [content] at h
      | eintr exit =>
        cases exit with
        | true => exact absurd List.mem_cons_self hx
        | false => exact ih hx' h
      | data b bs =>
        cases hd : (b :: bs).drop (len + 1) with
        | nil =>
          simp only [recvAll, hd]
          apply ih hx'
          rw [content, List.length_append] at h
          omega
        | cons c cs => simp only [recvAll, hd]

theorem noExit_rest {len : ℕ} {es : List (Event α)} (hx : NoExit es) :
    NoExit (recvAll len es).rest := by
  induction es generalizing len with
  | nil => cases len <;> simp [recvAll, NoExit]
  | cons e es ih =>
    have hx' : NoExit es := fun hm => hx (List.mem_cons_of_mem _ hm)
    cases len with
    | zero => simpa using hx
    | succ len =>
      cases e with
      | fail => exact hx'
      | eintr exit =>
        cases exit with
        | true => exact hx'
        | false => exact ih hx'
      | data b bs =>
        cases hd : (b :: bs).drop (len + 1) with
        | nil => simpa only [recvAll, hd] using ih hx'
        | cons c cs =>
          simp only [recvAll, hd]
          intro hm
          rcases List.mem_cons.mp hm with h | h
          · cases h
          · exact hx' h

/-- The elements and the rest of a connection, when the loop completes. -/
def recvExact (len : ℕ) (es : List (Event α)) : Option (List α × List (Event α)) :=
  if (recvAll len es).outcome = .complete then some ((recvAll len es).stored, (recvAll len es).rest)
  else none

/-- Without a request to exit, receiving is taking from the front of what is delivered. -/
theorem recvExact_of_le {len : ℕ} {es : List (Event α)} (hx : NoExit es)
    (h : len ≤ (content es).length) :
    ∃ rest, recvExact len es = some ((content es).take len, rest) ∧
      content rest = (content es).drop len ∧ NoExit rest := by
  have hcomplete := (recvAll_complete_iff hx).mpr h
  obtain ⟨-, hstored, hrest⟩ := recvAll_of_complete hcomplete
  exact ⟨_, by rw [recvExact, if_pos hcomplete, hstored], hrest, noExit_rest hx⟩

theorem recvExact_of_lt {len : ℕ} {es : List (Event α)} (h : (content es).length < len) :
    recvExact len es = none := by
  refine if_neg fun hcomplete => ?_
  have hle := (recvAll_of_complete hcomplete).1
  omega

/-! ### The sending side -/

/-- What a `send` call meets: the number of elements it takes, an interruption, or a failure. -/
inductive SendEvent
  | accept (count : ℕ)
  | eintr
  | fail
  deriving DecidableEq

/-- Whether a send loop got everything out, what went out, and the schedule it leaves. -/
structure Sending (α : Type*) where
  ok : Bool
  sent : List α
  rest : List SendEvent

/-- Send a buffer along a schedule.  A call that takes nothing ends the loop like an error; once
the schedule is used up the peer takes everything at once. -/
def sendAll : List α → List SendEvent → Sending α
  | buf, [] => ⟨true, buf, []⟩
  | [], es => ⟨true, [], es⟩
  | _ :: _, .accept 0 :: es => ⟨false, [], es⟩
  | b :: bs, .accept (n + 1) :: es =>
      let r := sendAll (bs.drop n) es
      ⟨r.ok, b :: bs.take n ++ r.sent, r.rest⟩
  | b :: bs, .eintr :: es => sendAll (b :: bs) es
  | _ :: _, .fail :: es => ⟨false, [], es⟩

/-- A send loop that succeeds has sent exactly its buffer, however it was cut up. -/
theorem sent_of_ok {buf : List α} {es : List SendEvent} (h : (sendAll buf es).ok) :
    (sendAll buf es).sent = buf := by
  induction es generalizing buf with
  | nil => rfl
  | cons e es ih =>
    cases buf with
    | nil => rfl
    | cons b bs =>
      cases e with
      | fail => cases h
      | eintr => exact ih h
      | accept n =>
        cases n with
        | zero => cases h
        | succ n =>
          have hs : (sendAll (bs.drop n) es).sent = bs.drop n := ih h
          simp only [sendAll, hs, List.cons_append, List.take_append_drop]

/-- What a send loop has sent is a front of its buffer. -/
theorem sent_isPrefix (buf : List α) (es : List SendEvent) : (sendAll buf es).sent <+: buf := by
  induction es generalizing buf with
  | nil => exact List.prefix_refl _
  | cons e es ih =>
    cases buf with
    | nil => exact List.prefix_refl _
    | cons b bs =>
      cases e with
      | fail => exact List.nil_prefix
      | eintr => exact ih (b :: bs)
      | accept n =>
        cases n with
        | zero => exact List.nil_prefix
        | succ n =>
          obtain ⟨tail, htail⟩ := ih (bs.drop n)
          refine ⟨tail, ?_⟩
          simp only [sendAll, List.cons_append, List.append_assoc, htail, List.take_append_drop]

/-- A send loop that fails has left something out. -/
theorem sent_ne_of_not_ok {buf : List α} {es : List SendEvent} (h : (sendAll buf es).ok = false) :
    (sendAll buf es).sent ≠ buf := by
  induction es generalizing buf with
  | nil => cases h
  | cons e es ih =>
    cases buf with
    | nil => cases h
    | cons b bs =>
      cases e with
      | fail => exact (List.cons_ne_nil b bs).symm
      | eintr => exact ih h
      | accept n =>
        cases n with
        | zero => exact (List.cons_ne_nil b bs).symm
        | succ n =>
          have hne : (sendAll (bs.drop n) es).sent ≠ bs.drop n := ih h
          intro heq
          simp only [sendAll, List.cons_append, List.cons.injEq, true_and] at heq
          exact hne (List.append_cancel_left (heq.trans (List.take_append_drop n bs).symm))

/-- Every call takes something or is interrupted. -/
def Reliable (es : List SendEvent) : Prop := ∀ e ∈ es, e ≠ .fail ∧ e ≠ .accept 0

instance (es : List SendEvent) : Decidable (Reliable es) :=
  inferInstanceAs (Decidable (∀ e ∈ es, e ≠ .fail ∧ e ≠ .accept 0))

/-- Along a reliable schedule everything goes out. -/
theorem sendAll_of_reliable {es : List SendEvent} (h : Reliable es) (buf : List α) :
    (sendAll buf es).ok = true ∧ (sendAll buf es).sent = buf ∧ Reliable (sendAll buf es).rest := by
  have hok : (sendAll buf es).ok = true ∧ Reliable (sendAll buf es).rest := by
    induction es generalizing buf with
    | nil => exact ⟨rfl, h⟩
    | cons e es ih =>
      obtain ⟨he, hes⟩ := List.forall_mem_cons.mp h
      cases buf with
      | nil => exact ⟨rfl, h⟩
      | cons b bs =>
        cases e with
        | fail => exact absurd rfl he.1
        | eintr => exact ih hes (b :: bs)
        | accept n =>
          cases n with
          | zero => exact absurd rfl he.2
          | succ n => exact ih hes (bs.drop n)
  exact ⟨hok.1, sent_of_ok hok.1, hok.2⟩

end Segmented
