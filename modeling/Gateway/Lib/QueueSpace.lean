import Gateway.Lib.MessageQueue

/-!
# A name space of message queues

Message queues have names, they are made by the first call of `mq_open` that asks for it, and they
stay when the processes that use them end.  A call that finds a queue takes it as it is, with the
attributes it was made with.

* `Node`: a queue with the attribute `mq_maxmsg`; `Node.send` is `mq_send`;
* `Space`: which queues there are; `Space.create` is `mq_open` with `O_CREAT`;
* `Space.Fits`: every queue has the attributes that it should have, and holds messages of its kind
  only; `Fits.create`, `Fits.send` and `Fits.tail` say that the calls keep this.
-/

namespace MessageQueue

/-- What is received is the first message, and it is taken off the queue. -/
theorem receiveRetry_eq_received {len : ℕ} {q rest : Queue} {m : List UInt8}
    {interruptions : List Bool} (h : receiveRetry len q interruptions = .received m rest) :
    m ∈ q.messages ∧ rest = q.tail := by
  have hle : q.msgSize ≤ len := by
    by_contra hlt
    rw [receiveRetry_of_lt (not_le.mp hlt)] at h
    cases h
  induction interruptions with
  | nil =>
    cases hm : q.messages with
    | nil => simp [receiveRetry, mqReceive, not_lt.mpr hle, hm, Reply.receipt] at h
    | cons m' ms =>
      rw [receiveRetry, mqReceive_of_le hle hm] at h
      cases h
      exact ⟨List.mem_cons_self, rfl⟩
  | cons stop interruptions ih =>
    simp only [receiveRetry, mqReceive_interrupted hle] at h
    split_ifs at h with hstop
    exact ih h

/-- The attributes with which a queue is made. -/
structure Attr where
  maxMsg : ℕ
  msgSize : ℕ
  deriving DecidableEq

/-- A queue with its capacity. -/
structure Node where
  maxMsg : ℕ
  queue : Queue

/-- What becomes of a call of `mq_send`. -/
inductive SendReply
  | emsgsize
  | full
  | sent (rest : Node)

namespace Node

/-- The queue that `mq_open` makes. -/
def new (attr : Attr) : Node := ⟨attr.maxMsg, ⟨attr.msgSize, [], by simp⟩⟩

/-- `mq_send`: a message that is too long is refused, and a full queue makes the call fail or
wait. -/
def send (n : Node) (m : List UInt8) : SendReply :=
  if n.queue.msgSize < m.length then .emsgsize
  else if n.maxMsg ≤ n.queue.messages.length then .full
  else .sent { n with queue := n.queue.send m }

end Node

/-- The queues that there are, by name. -/
abbrev Space (κ : Type) : Type := κ → Option Node

namespace Space

variable {κ : Type} [DecidableEq κ]

/-- No queue at all. -/
def empty : Space κ := fun _ => none

/-- `mq_open` with `O_CREAT`. -/
def create (sp : Space κ) (k : κ) (attr : Attr) : Space κ :=
  if (sp k).isSome then sp else Function.update sp k (some (Node.new attr))

/-- A queue after a call. -/
def set (sp : Space κ) (k : κ) (n : Node) : Space κ := Function.update sp k (some n)

/-- Every queue has the attributes `spec`, and all messages on it are of the kind `Ok`. -/
def Fits (spec : κ → Attr) (Ok : κ → List UInt8 → Prop) (sp : Space κ) : Prop :=
  ∀ k n, sp k = some n → n.maxMsg = (spec k).maxMsg ∧ n.queue.msgSize = (spec k).msgSize ∧
    n.queue.messages.length ≤ (spec k).maxMsg ∧ ∀ m ∈ n.queue.messages, Ok k m

variable {spec : κ → Attr} {Ok : κ → List UInt8 → Prop} {sp : Space κ} {k k' : κ} {n : Node}

theorem isSome_create (attr : Attr) :
    (sp.create k attr k').isSome = true ↔ (sp k').isSome = true ∨ k' = k := by
  unfold create
  by_cases hk : (sp k).isSome = true
  · rw [if_pos hk]
    constructor
    · exact Or.inl
    · rintro (h | rfl)
      · exact h
      · exact hk
  · rw [if_neg hk]
    by_cases hne : k' = k
    · subst hne
      simp
    · simp [hne]

theorem isSome_set (hk : (sp k).isSome = true) :
    (sp.set k n k').isSome = (sp k').isSome := by
  unfold set
  by_cases hne : k' = k
  · subst hne
    simp [hk]
  · rw [Function.update_of_ne hne]

omit [DecidableEq κ] in
theorem fits_empty : Fits spec Ok (empty : Space κ) := by
  intro k n h
  cases h

namespace Fits

theorem set (h : Fits spec Ok sp) (hmax : n.maxMsg = (spec k).maxMsg)
    (hsize : n.queue.msgSize = (spec k).msgSize)
    (hlength : n.queue.messages.length ≤ (spec k).maxMsg) (hok : ∀ m ∈ n.queue.messages, Ok k m) :
    Fits spec Ok (sp.set k n) := by
  intro k' n' hn'
  by_cases hne : k' = k
  · subst hne
    rw [Space.set, Function.update_self] at hn'
    obtain rfl := Option.some.inj hn'
    exact ⟨hmax, hsize, hlength, hok⟩
  · rw [Space.set, Function.update_of_ne hne] at hn'
    exact h k' n' hn'

theorem create (h : Fits spec Ok sp) (k : κ) : Fits spec Ok (sp.create k (spec k)) := by
  unfold Space.create
  split
  · exact h
  · exact h.set rfl rfl (Nat.zero_le _) (fun m hm => by cases hm)

/-- A message of its kind may be put on a queue. -/
theorem send (h : Fits spec Ok sp) (hk : sp k = some n) {m : List UInt8} (hm : Ok k m) {rest : Node}
    (hsent : n.send m = .sent rest) : Fits spec Ok (sp.set k rest) := by
  obtain ⟨hmax, hsize, hlength, hok⟩ := h k n hk
  unfold Node.send at hsent
  split_ifs at hsent with hlong hfull
  obtain rfl := SendReply.sent.inj hsent
  have hmessages : (n.queue.send m).messages = n.queue.messages ++ [m] := by
    rw [Queue.send, dif_pos (not_lt.mp hlong)]
  refine h.set hmax ?_ ?_ ?_
  · rw [Queue.msgSize_send, hsize]
  · rw [hmessages, List.length_append, List.length_singleton, ← hmax]
    omega
  · intro m' hm'
    rw [hmessages] at hm'
    rcases List.mem_append.mp hm' with hm' | hm'
    · exact hok m' hm'
    · rw [List.mem_singleton.mp hm']
      exact hm

/-- A message may be taken off. -/
theorem tail (h : Fits spec Ok sp) (hk : sp k = some n) :
    Fits spec Ok (sp.set k { n with queue := n.queue.tail }) := by
  obtain ⟨hmax, hsize, hlength, hok⟩ := h k n hk
  refine h.set hmax hsize ?_ ?_
  · simp only [Queue.tail, List.length_tail]
    omega
  · exact fun m hm => hok m (List.mem_of_mem_tail hm)

end Fits

end Space

end MessageQueue
