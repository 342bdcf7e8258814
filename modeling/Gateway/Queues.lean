import Gateway.Lib.MessageQueue
import Gateway.Processing

/-!
# The queues between the daemons

The queues stay when a daemon ends, so a daemon may find one that another build has made.  Each of
`processingd`, `loggingd` and `telemetryd` looks at the attribute `mq_msgsize` of its queue in
`ipc_init` and brings a buffer of a fixed size to `mq_receive` later on.

* `ipcInit` and `receive` are these two functions of a daemon;
* `Turn`, `pass`, `mainLoop`: the main loop of `processingd`, as far as it concerns the queue;
* `receivable_iff`: for which sizes a queue that is accepted can be received from;
* `queue_receivable_iff`: this, and when the main loop goes on for ever without receiving anything.
-/

namespace Gateway
namespace Queues

open MessageQueue

/-! ### `ipc_init` -/

/-- What the calls in `ipc_init` give: whether the queues are opened, and the attribute
`mq_msgsize`, if `mq_getattr` succeeds. -/
structure Calls where
  openRx : Bool
  getattr : Option ℤ
  openLog : Bool
  openTelemetry : Bool

/-- Why `ipc_init` returns `-1`. -/
inductive InitError
  | openRx
  | getattr
  | msgSizeTooSmall (size : ℤ)
  | openLog
  | openTelemetry
  deriving DecidableEq

/-- Open the queue to receive from, and check its attribute. -/
def openRx (tooSmall : ℤ → Bool) (calls : Calls) : Except InitError Unit :=
  if calls.openRx then
    match calls.getattr with
    | none => .error .getattr
    | some size => if tooSmall size then .error (.msgSizeTooSmall size) else .ok ()
  else .error .openRx

namespace Processingd

/-- `ipc_init`, which also opens the two queues to send to. -/
def ipcInit (calls : Calls) : Except InitError Unit := do
  openRx (fun size => size < packetSize) calls
  if calls.openLog then
    if calls.openTelemetry then .ok () else .error .openTelemetry
  else .error .openLog

/-- `receivePacket`: what becomes of the call, and the packet that is returned. -/
def receivePacket (q : Queue) (interruptions : List Bool) : Receipt × Option (List UInt8) :=
  match receiveRetry packetSize q interruptions with
  | .received m rest => (.received m rest, Processing.receivePacket m)
  | receipt => (receipt, none)

end Processingd

namespace Loggingd

def ipcInit (sensorSize : ℕ) (calls : Calls) : Except InitError Unit :=
  openRx (fun size => size < 0 ∨ size.toNat < sensorSize) calls

def receiveFrame (sensorSize : ℕ) (q : Queue) (interruptions : List Bool) : Receipt :=
  receiveRetry sensorSize q interruptions

end Loggingd

namespace Telemetryd

def ipcInit (sensorSize : ℕ) (calls : Calls) : Except InitError Unit :=
  openRx (fun size => size < 0 ∨ size.toNat < sensorSize) calls

/-- `receiveFrame`, which looks at `exitRQ` before each call. -/
def receiveFrame (sensorSize : ℕ) (q : Queue) (exitRQ : Bool) : List Bool → Receipt
  | [] => if exitRQ then .stopped else (mqReceive sensorSize false q).receipt
  | exitRQ' :: interruptions =>
      if exitRQ then .stopped
      else
        match mqReceive sensorSize true q with
        | .error .eintr => receiveFrame sensorSize q exitRQ' interruptions
        | reply => reply.receipt

end Telemetryd

/-! ### The daemons -/

/-- The daemons that receive from a queue. -/
inductive Daemon
  | processingd
  | loggingd
  | telemetryd
  deriving DecidableEq

namespace Daemon

/-- The length that is given to `mq_receive`, where a frame has `sensorSize` bytes. -/
def bufferSize (sensorSize : ℕ) : Daemon → ℕ
  | .processingd => packetSize
  | .loggingd => sensorSize
  | .telemetryd => sensorSize

def ipcInit (sensorSize : ℕ) : Daemon → Calls → Except InitError Unit
  | .processingd => Processingd.ipcInit
  | .loggingd => Loggingd.ipcInit sensorSize
  | .telemetryd => Telemetryd.ipcInit sensorSize

/-- `receivePacket` or `receiveFrame`, as long as no exit was asked for. -/
def receive (sensorSize : ℕ) : Daemon → Queue → List Bool → Receipt
  | .processingd => fun q interruptions => (Processingd.receivePacket q interruptions).1
  | .loggingd => Loggingd.receiveFrame sensorSize
  | .telemetryd => fun q => Telemetryd.receiveFrame sensorSize q false

/-- A queue with messages of this size can be received from, if it is accepted: no call fails with
`EMSGSIZE`, and the first message is taken off unless an exit is asked for. -/
def Receivable (sensorSize : ℕ) (d : Daemon) (size : ℤ) : Prop :=
  ∀ calls : Calls, calls.getattr = some size → d.ipcInit sensorSize calls = .ok () →
    ∀ q : Queue, q.msgSize = size → ∀ interruptions,
      d.receive sensorSize q interruptions ≠ .failed .emsgsize ∧
      ∀ m ms, q.messages = m :: ms → true ∉ interruptions →
        d.receive sensorSize q interruptions = .received m q.tail

end Daemon

section Receive

variable {sensorSize : ℕ} {size : ℤ}

/-- Looking at `exitRQ` before a call or after an interruption comes to the same. -/
theorem receiveFrame_eq_receiveRetry (q : Queue) (interruptions : List Bool) :
    Telemetryd.receiveFrame sensorSize q false interruptions =
      receiveRetry sensorSize q interruptions := by
  induction interruptions with
  | nil => rfl
  | cons exitRQ interruptions ih =>
    have hstopped : Telemetryd.receiveFrame sensorSize q true interruptions = .stopped := by
      cases interruptions <;> rfl
    rw [Telemetryd.receiveFrame, receiveRetry, if_neg (by decide)]
    cases mqReceive sensorSize true q with
    | blocked => rfl
    | message m rest => rfl
    | error errno =>
      cases errno with
      | emsgsize => rfl
      | eintr =>
        cases exitRQ with
        | false => exact ih
        | true => exact hstopped

/-- The checks of the length leave the queue alone. -/
theorem fst_receivePacket (q : Queue) (interruptions : List Bool) :
    (Processingd.receivePacket q interruptions).1 = receiveRetry packetSize q interruptions := by
  unfold Processingd.receivePacket
  cases receiveRetry packetSize q interruptions <;> rfl

/-- All three daemons receive in the same way, with their own buffer. -/
theorem receive_eq (d : Daemon) (q : Queue) (interruptions : List Bool) :
    d.receive sensorSize q interruptions =
      receiveRetry (d.bufferSize sensorSize) q interruptions := by
  cases d with
  | processingd => exact fst_receivePacket q interruptions
  | loggingd => rfl
  | telemetryd => exact receiveFrame_eq_receiveRetry q interruptions

theorem openRx_eq_ok_iff {tooSmall : ℤ → Bool} {calls : Calls}
    (hsize : calls.getattr = some size) :
    openRx tooSmall calls = .ok () ↔ calls.openRx = true ∧ tooSmall size = false := by
  rw [openRx, hsize]
  cases calls.openRx <;> cases hsmall : tooSmall size <;> simp [hsmall]

/-- When `ipc_init` succeeds: the attribute is bounded from below, and the calls have succeeded. -/
theorem ipcInit_eq_ok_iff {d : Daemon} {calls : Calls} (hsize : calls.getattr = some size) :
    d.ipcInit sensorSize calls = .ok () ↔
      calls.openRx = true ∧ (d.bufferSize sensorSize : ℤ) ≤ size ∧
        (d = .processingd → calls.openLog = true ∧ calls.openTelemetry = true) := by
  have hframe : openRx (fun size => size < 0 ∨ size.toNat < sensorSize) calls = .ok () ↔
      calls.openRx = true ∧ (sensorSize : ℤ) ≤ size := by
    rw [openRx_eq_ok_iff hsize, decide_eq_false_iff_not]
    exact and_congr_right fun _ => by omega
  cases d with
  | processingd =>
    have hpacket : openRx (fun size => size < packetSize) calls = .ok () ↔
        calls.openRx = true ∧ (packetSize : ℤ) ≤ size := by
      rw [openRx_eq_ok_iff hsize, decide_eq_false_iff_not, not_lt]
    rw [Daemon.bufferSize, ← and_assoc, ← hpacket]
    show Processingd.ipcInit calls = .ok () ↔ _
    rw [Processingd.ipcInit]
    cases openRx (fun size => size < packetSize) calls with
    | error e => simp [bind, Except.bind]
    | ok u => cases calls.openLog <;> cases calls.openTelemetry <;> simp [bind, Except.bind]
  | loggingd => exact hframe.trans (by simp [Daemon.bufferSize])
  | telemetryd => exact hframe.trans (by simp [Daemon.bufferSize])

/-- A queue that is accepted can be received from exactly when its messages are no larger than the
buffer. -/
theorem receivable_iff (d : Daemon) :
    d.Receivable sensorSize size ↔ size ≤ d.bufferSize sensorSize := by
  constructor
  · intro h
    by_contra hlarge
    have hlarge : (d.bufferSize sensorSize : ℤ) < size := not_le.mp hlarge
    have hinit : d.ipcInit sensorSize ⟨true, some size, true, true⟩ = .ok () :=
      (ipcInit_eq_ok_iff rfl).mpr ⟨rfl, hlarge.le, fun _ => ⟨rfl, rfl⟩⟩
    refine (h _ rfl hinit ⟨size, [], by simp⟩ rfl []).1 ?_
    rw [receive_eq]
    exact receiveRetry_of_lt hlarge []
  · intro hle calls hsize hinit q hq interruptions
    rw [receive_eq]
    have hbuffer : q.msgSize ≤ d.bufferSize sensorSize := hq ▸ hle
    exact ⟨receiveRetry_ne_failed hbuffer interruptions _,
      fun m ms hm hstop => receiveRetry_of_le hbuffer hm hstop⟩

end Receive

/-! ### The main loop of `processingd` -/

/-- What happens around a pass of the loop: the messages that are sent to the queue before it, the
interruptions of `mq_receive`, and `exitRQ` after `receivePacket` has returned. -/
structure Turn where
  arrivals : List (List UInt8)
  interruptions : List Bool
  exitRQ : Bool

/-- No exit is asked for. -/
def Turn.Quiet (t : Turn) : Prop := true ∉ t.interruptions ∧ t.exitRQ = false

/-- The loop: running or left, the queue, and the packets that went on to `generateFrame`. -/
structure Loop where
  running : Bool
  queue : Queue
  packets : List (List UInt8)

/-- What `receivePacket` does in a pass. -/
def Loop.receipt (x : Loop) (t : Turn) : Receipt × Option (List UInt8) :=
  Processingd.receivePacket (t.arrivals.foldl Queue.send x.queue) t.interruptions

/-- One pass.  A call that waits is taken up again in the next one, with what has arrived then. -/
def pass (x : Loop) (t : Turn) : Loop :=
  let queue := t.arrivals.foldl Queue.send x.queue
  if x.running then
    match x.receipt t with
    | (.blocked, _) => { x with queue := queue }
    | (.stopped, _) => { x with running := false, queue := queue }
    | (.failed _, _) => { x with running := ! t.exitRQ, queue := queue }
    | (.received _ rest, packet) => ⟨! t.exitRQ, rest, x.packets ++ packet.toList⟩
  else { x with queue := queue }

/-- The loop from its start. -/
def mainLoop (q : Queue) (turns : List Turn) : Loop := turns.foldl pass ⟨true, q, []⟩

/-- After a start that has accepted a queue with messages of this size, the loop does not go on for
ever with a receive that fails each time. -/
def NeverSpins (size : ℤ) : Prop :=
  ∀ calls : Calls, calls.getattr = some size → Processingd.ipcInit calls = .ok () →
    ∀ q : Queue, q.msgSize = size → ∀ turns : ℕ → Turn, (∀ n, (turns n).Quiet) →
      ¬ ∀ n, ∃ errno, ((mainLoop q ((List.range n).map turns)).receipt (turns n)).1 = .failed errno

section Spinning

variable {q : Queue}

theorem receipt_of_lt {x : Loop} (h : (packetSize : ℤ) < x.queue.msgSize) (t : Turn) :
    x.receipt t = (.failed .emsgsize, none) := by
  have hsize : (packetSize : ℤ) < (t.arrivals.foldl Queue.send x.queue).msgSize := by
    rwa [Queue.msgSize_foldl_send]
  rw [Loop.receipt, Processingd.receivePacket, receiveRetry_of_lt hsize]

/-- A pass over a queue with larger messages leaves them there. -/
theorem pass_of_lt {x : Loop} (hrunning : x.running = true)
    (h : (packetSize : ℤ) < x.queue.msgSize) {t : Turn} (ht : t.Quiet) :
    pass x t = { x with queue := t.arrivals.foldl Queue.send x.queue } := by
  rw [pass, if_pos hrunning, receipt_of_lt h, ht.2, hrunning]
  rfl

/-- A queue with larger messages is never received from, and what is sent to it piles up. -/
theorem mainLoop_of_lt (h : (packetSize : ℤ) < q.msgSize) {turns : List Turn}
    (hquiet : ∀ t ∈ turns, t.Quiet) :
    mainLoop q turns = ⟨true, (turns.flatMap Turn.arrivals).foldl Queue.send q, []⟩ := by
  induction turns using List.reverseRecOn with
  | nil => rfl
  | append_singleton turns t ih =>
    have hturns := ih fun t' ht' => hquiet t' (List.mem_append_left _ ht')
    have ht : t.Quiet := hquiet t (by simp)
    rw [mainLoop, List.foldl_append, ← mainLoop, hturns, List.foldl_cons, List.foldl_nil,
      pass_of_lt rfl (by rwa [Queue.msgSize_foldl_send]) ht, List.flatMap_append,
      List.foldl_append, List.flatMap_singleton]

theorem neverSpins_iff {size : ℤ} : NeverSpins size ↔ size ≤ packetSize := by
  constructor
  · intro h
    by_contra hlarge
    have hlarge : (packetSize : ℤ) < size := not_le.mp hlarge
    have hinit : Daemon.ipcInit 0 .processingd ⟨true, some size, true, true⟩ = .ok () :=
      (ipcInit_eq_ok_iff rfl).mpr ⟨rfl, hlarge.le, fun _ => ⟨rfl, rfl⟩⟩
    have hquiet : ∀ n : ℕ, ((fun _ => ⟨[], [], false⟩ : ℕ → Turn) n).Quiet := fun n =>
      ⟨List.not_mem_nil, rfl⟩
    refine h _ rfl hinit ⟨size, [], by simp⟩ rfl _ hquiet fun n => ⟨.emsgsize, ?_⟩
    rw [mainLoop_of_lt hlarge]
    · rw [receipt_of_lt]
      rwa [Queue.msgSize_foldl_send]
    · intro t ht
      obtain ⟨k, -, rfl⟩ := List.mem_map.mp ht
      exact hquiet k
  · intro hle calls hsize hinit q hq turns hquiet hfails
    obtain ⟨errno, hfailed⟩ := hfails 0
    have hbuffer : ((turns 0).arrivals.foldl Queue.send q).msgSize ≤ packetSize := by
      rw [Queue.msgSize_foldl_send, hq]
      exact hle
    exact receiveRetry_ne_failed hbuffer _ errno ((fst_receivePacket _ _).symm.trans hfailed)

/-- **Which queues can be received from after a start.**  For every size of a frame and every
attribute of an existing queue: each daemon that accepts the queue takes a message off it instead of
failing with `EMSGSIZE`, exactly when the attribute is no larger than the daemon's buffer; and
exactly then the loop of `processingd` never spins. -/
theorem queue_receivable_iff (sensorSize : ℕ) (size : ℤ) :
    (∀ d : Daemon, d.Receivable sensorSize size ↔ size ≤ d.bufferSize sensorSize) ∧
      (NeverSpins size ↔ size ≤ packetSize) :=
  ⟨fun d => receivable_iff d, neverSpins_iff⟩

/-- A queue with the attribute 8192, and a heartbeat in it: all three daemons accept it and cannot
receive from it, and after any number of passes of the loop the heartbeat is still there. -/
theorem queue_default_size :
    let calls : Calls := ⟨true, some 8192, true, true⟩
    let q : Queue := ⟨8192, [[0xAA, 0x4B, 7, 0, 0, 0]], by decide⟩
    (∀ d : Daemon, d.ipcInit 80 calls = .ok () ∧ d.receive 80 q [] = .failed .emsgsize ∧
      ¬ d.Receivable 80 8192) ∧
    (∀ n, mainLoop q (List.replicate n ⟨[], [], false⟩) = ⟨true, q, []⟩) ∧ ¬ NeverSpins 8192 := by
  intro calls q
  have hbuffer : ∀ d : Daemon, (d.bufferSize 80 : ℤ) < 8192 := by
    intro d
    cases d <;> decide
  have hq : ∀ d : Daemon, (d.bufferSize 80 : ℤ) < q.msgSize := hbuffer
  have hpacket : (packetSize : ℤ) < q.msgSize := hbuffer .processingd
  refine ⟨fun d => ⟨?_, ?_, fun h => ?_⟩, fun n => ?_, fun h => ?_⟩
  · exact (ipcInit_eq_ok_iff rfl).mpr ⟨rfl, (hbuffer d).le, fun _ => ⟨rfl, rfl⟩⟩
  · rw [receive_eq]
    exact receiveRetry_of_lt (hq d) []
  · exact absurd ((receivable_iff d).mp h) (not_le.mpr (hbuffer d))
  · have harrivals : (List.replicate n (⟨[], [], false⟩ : Turn)).flatMap Turn.arrivals = [] := by
      rw [List.flatMap_eq_nil_iff]
      intro t ht
      rw [List.eq_of_mem_replicate ht]
    rw [mainLoop_of_lt hpacket, harrivals]
    · rfl
    · intro t ht
      rw [List.eq_of_mem_replicate ht]
      exact ⟨List.not_mem_nil, rfl⟩
  · exact absurd (neverSpins_iff.mp h) (not_le.mpr (hbuffer .processingd))

end Spinning

end Queues
end Gateway
