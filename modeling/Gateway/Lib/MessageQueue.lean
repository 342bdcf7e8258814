import Mathlib.Tactic

/-!
# Message queues

A message queue has a largest size for its messages, and a receiver must bring a buffer of that size
at least: `mq_receive` fails before it looks at the messages when the buffer is smaller, whatever
message is there.

* `mqReceive` is a call of `mq_receive`;
* `receiveRetry` repeats the call after an interruption, unless a stop was asked for, and
  `receiveRetry_of_lt` and `receiveRetry_of_le` say what comes of it for a small and for a large
  buffer.
-/

namespace MessageQueue

/-- A queue: the attribute `mq_msgsize`, and the messages in the order in which they are handed
out. -/
@[ext]
structure Queue where
  msgSize : ℤ
  messages : List (List UInt8)
  length_le : ∀ m ∈ messages, (m.length : ℤ) ≤ msgSize

namespace Queue

/-- The queue without its first message. -/
def tail (q : Queue) : Queue :=
  ⟨q.msgSize, q.messages.tail, fun m hm => q.length_le m (List.mem_of_mem_tail hm)⟩

/-- `mq_send`, which refuses a message that is larger than the attribute. -/
def send (q : Queue) (m : List UInt8) : Queue :=
  if h : (m.length : ℤ) ≤ q.msgSize then
    ⟨q.msgSize, q.messages ++ [m], by
      intro m' hm'
      rcases List.mem_append.mp hm' with hm' | hm'
      · exact q.length_le m' hm'
      · rw [List.mem_singleton.mp hm']
        exact h⟩
  else q

theorem msgSize_send (q : Queue) (m : List UInt8) : (q.send m).msgSize = q.msgSize := by
  unfold send
  split_ifs <;> rfl

theorem msgSize_foldl_send (q : Queue) (ms : List (List UInt8)) :
    (ms.foldl send q).msgSize = q.msgSize := by
  induction ms generalizing q with
  | nil => rfl
  | cons m ms ih => rw [List.foldl_cons, ih, msgSize_send]

end Queue

/-- The failures of `mq_receive` on an open queue. -/
inductive Errno
  | eintr
  | emsgsize
  deriving DecidableEq

/-- What becomes of a call: it waits, it fails, or it takes the first message off the queue. -/
inductive Reply
  | blocked
  | error (errno : Errno)
  | message (m : List UInt8) (rest : Queue)

/-- `mq_receive` with a buffer of `len` bytes, and with or without a signal. -/
def mqReceive (len : ℕ) (interrupted : Bool) (q : Queue) : Reply :=
  if (len : ℤ) < q.msgSize then .error .emsgsize
  else if interrupted then .error .eintr
  else
    match q.messages with
    | [] => .blocked
    | m :: _ => .message m q.tail

/-- What becomes of a function that receives: it waits, it returns because a stop was asked for, it
returns with an error, or it has a message. -/
inductive Receipt
  | blocked
  | stopped
  | failed (errno : Errno)
  | received (m : List UInt8) (rest : Queue)

def Reply.receipt : Reply → Receipt
  | .blocked => .blocked
  | .error errno => .failed errno
  | .message m rest => .received m rest

/-- Call `mq_receive` until it is not interrupted.  The list has an entry for each interruption,
which says whether the signal has asked for a stop. -/
def receiveRetry (len : ℕ) (q : Queue) : List Bool → Receipt
  | [] => (mqReceive len false q).receipt
  | stop :: interruptions =>
      match mqReceive len true q with
      | .error .eintr => if stop then .stopped else receiveRetry len q interruptions
      | reply => reply.receipt

variable {len : ℕ} {q : Queue} {m : List UInt8} {ms : List (List UInt8)}

theorem mqReceive_of_lt (h : (len : ℤ) < q.msgSize) (interrupted : Bool) :
    mqReceive len interrupted q = .error .emsgsize := if_pos h

theorem mqReceive_interrupted (h : q.msgSize ≤ len) : mqReceive len true q = .error .eintr := by
  rw [mqReceive, if_neg (not_lt.mpr h), if_pos rfl]

theorem mqReceive_of_le (h : q.msgSize ≤ len) (hm : q.messages = m :: ms) :
    mqReceive len false q = .message m q.tail := by
  rw [mqReceive, if_neg (not_lt.mpr h), if_neg (by decide), hm]

theorem receiveRetry_of_lt (h : (len : ℤ) < q.msgSize) (interruptions : List Bool) :
    receiveRetry len q interruptions = .failed .emsgsize := by
  cases interruptions with
  | nil => rw [receiveRetry, mqReceive_of_lt h, Reply.receipt]
  | cons stop interruptions =>
    rw [receiveRetry, mqReceive_of_lt h]
    rfl

theorem receiveRetry_ne_failed (h : q.msgSize ≤ len) (interruptions : List Bool) :
    ∀ errno, receiveRetry len q interruptions ≠ .failed errno := by
  induction interruptions with
  | nil =>
    intro errno
    rw [receiveRetry, mqReceive, if_neg (not_lt.mpr h), if_neg (by decide)]
    cases q.messages <;> simp [Reply.receipt]
  | cons stop interruptions ih =>
    intro errno
    simp only [receiveRetry, mqReceive_interrupted h]
    split_ifs
    · simp
    · exact ih errno

/-- With a buffer that is large enough, and no stop asked for, the first message is received. -/
theorem receiveRetry_of_le (h : q.msgSize ≤ len) (hm : q.messages = m :: ms)
    {interruptions : List Bool} (hstop : true ∉ interruptions) :
    receiveRetry len q interruptions = .received m q.tail := by
  induction interruptions with
  | nil => rw [receiveRetry, mqReceive_of_le h hm, Reply.receipt]
  | cons stop interruptions ih =>
    rw [List.mem_cons, not_or] at hstop
    obtain ⟨hfirst, hrest⟩ := hstop
    simp only [receiveRetry, mqReceive_interrupted h]
    rw [if_neg (fun hs => hfirst hs.symm)]
    exact ih hrest

end MessageQueue
