import Gateway.Acquiring
import Gateway.Processing

/-!
# The pipeline

The four daemons as one system.  Each sensor connection has a thread of `acquiringd`, which reads a
packet and then puts it on the acquisition queue, waiting while that is full.  `processingd` takes a
packet off, makes a frame of it and offers the frame to the log queue and then to the telemetry
queue, neither of which it waits for.  `loggingd` and `telemetryd` take frames off.

Connections are indexed by an arbitrary type, and an action is one step of one thread; a step that
is not enabled changes nothing.  A packet on the acquisition queue carries the index of its
connection, which no step reads.

The log queue acts on the rest of the system, the `Flow`, through one bit only: whether
`forwardFrame` goes on after it.

* `Effect`: what a step can do, each effect with its guard;
* `pipeline_order`: what has been put on the queues, in every state that can be reached;
* `telemetry_isolated`: when the telemetry queue is independent of `loggingd`.
-/

namespace Gateway
namespace Pipeline

open Acquiring PrefixCode Processing Segmented

/-- `uint8_t msg_buffer[PACKET_SIZE]`. -/
def MsgBuffer : Type := { l : List UInt8 // l.length = packetSize }

/-- What a connection starts with: the contents of the thread's buffer, and what `recv` will
meet. -/
structure Source where
  msgBuffer : MsgBuffer
  incoming : List (Event UInt8)

/-- A connection and its thread: the packet in hand that `forwardPacket` has not sent yet, and
whether the thread has left its loop. -/
structure Connection extends Source where
  pending : Option (List UInt8)
  closed : Bool

/-- A pass of `socketConnectionHandler` up to `forwardPacket`. -/
def Connection.read (c : Connection) : Connection :=
  if c.closed ∨ c.pending.isSome then c
  else
    match h : (handlerIteration c.msgBuffer.1 c.incoming).packet with
    | none => { c with closed := true }
    | some p =>
        { c with
          msgBuffer := ⟨(handlerIteration c.msgBuffer.1 c.incoming).msgBuffer,
            (handlerIteration_some c.msgBuffer.2 h).2.2.1⟩
          incoming := (handlerIteration c.msgBuffer.1 c.incoming).rest
          pending := some p }

/-- Where `processingd` stands: in `receivePacket`, with a packet, or with a frame before the first
or the second half of `forwardFrame`. -/
inductive Place
  | receiving
  | received (packet : List UInt8)
  | logging (f : Sensor)
  | reporting (f : Sensor)
  deriving DecidableEq

/-- The system without the log queue; `produced` records the frames that `generateFrame` made. -/
structure Flow (ι : Type) where
  connections : ι → Connection
  acquire : Channel (ι × List UInt8) mqMaxMsg
  place : Place
  produced : List Sensor
  telemetry : FrameQueue

/-- The whole system. -/
structure State (ι : Type) where
  flow : Flow ι
  log : FrameQueue

/-- The steps of the threads. -/
inductive Action (ι : Type)
  | read (i : ι)
  | forward (i : ι)
  | receive
  | generate (realtime monotonic : Option Timespec)
  | sendLog
  | sendTelemetry
  | logReceive
  | telemetryReceive
  deriving DecidableEq

section Steps

variable {ι : Type} [DecidableEq ι]

/-- One step of anything but the log queue, which has let `forwardFrame` go on or not. -/
def Flow.step (goesOn : Bool) (x : Flow ι) : Action ι → Flow ι
  | .read i => { x with connections := Function.update x.connections i (x.connections i).read }
  | .forward i =>
      match (x.connections i).pending with
      | none => x
      | some p =>
          match x.acquire.put (i, p) with
          | none => x
          | some acquire =>
              { x with
                acquire := acquire
                connections :=
                  Function.update x.connections i { x.connections i with pending := none } }
  | .receive =>
      match x.place, x.acquire.take with
      | .receiving, some ((_, message), acquire) =>
          match receivePacket message with
          | none => { x with acquire := acquire }
          | some p => { x with acquire := acquire, place := .received p }
      | _, _ => x
  | .generate realtime monotonic =>
      match x.place with
      | .received p =>
          match generateFrame realtime monotonic p Sensor.zero p.length with
          | none => { x with place := .receiving }
          | some f => { x with place := .logging f, produced := x.produced ++ [f] }
      | _ => x
  | .sendLog =>
      match x.place with
      | .logging f => { x with place := if goesOn then .reporting f else .receiving }
      | _ => x
  | .sendTelemetry =>
      match x.place with
      | .reporting f =>
          { x with place := .receiving, telemetry := (forwardTelemetry f x.telemetry).2 }
      | _ => x
  | .logReceive => x
  | .telemetryReceive =>
      match x.telemetry.take with
      | none => x
      | some (_, telemetry) => { x with telemetry := telemetry }

/-- One step. -/
def step (s : State ι) (a : Action ι) : State ι :=
  match a, s.flow.place with
  | .sendLog, .logging f =>
      { flow := s.flow.step (forwardLog f s.log).1 .sendLog, log := (forwardLog f s.log).2 }
  | .logReceive, _ =>
      match s.log.take with
      | none => s
      | some (_, log) => { s with log := log }
  | a, _ => { s with flow := s.flow.step true a }

/-- All queues empty, nothing read yet. -/
def Flow.init (sources : ι → Source) : Flow ι where
  connections i := { sources i with pending := none, closed := false }
  acquire := Channel.empty
  place := .receiving
  produced := []
  telemetry := Channel.empty

def init (sources : ι → Source) : State ι := ⟨Flow.init sources, Channel.empty⟩

/-- A run of the system. -/
def run (sources : ι → Source) (acts : List (Action ι)) : State ι := acts.foldl step (init sources)

/-! ### What a step does -/

variable {s t : State ι} {a : Action ι}

/-- The effects of a step, each with its guard. -/
inductive Effect (s : State ι) : Action ι → State ι → Prop
  | stay (a : Action ι) : Effect s a s
  | read (i : ι) :
      Effect s (.read i) { s with
        flow := { s.flow with
          connections := Function.update s.flow.connections i (s.flow.connections i).read } }
  | forward (i : ι) (p : List UInt8) (acquire : Channel (ι × List UInt8) mqMaxMsg)
      (hpending : (s.flow.connections i).pending = some p)
      (hput : s.flow.acquire.put (i, p) = some acquire) :
      Effect s (.forward i) { s with
        flow := { s.flow with
          acquire := acquire
          connections := Function.update s.flow.connections i
            { s.flow.connections i with pending := none } } }
  | discard (i : ι) (message : List UInt8) (acquire : Channel (ι × List UInt8) mqMaxMsg)
      (hplace : s.flow.place = .receiving)
      (htake : s.flow.acquire.take = some ((i, message), acquire))
      (hpacket : receivePacket message = none) :
      Effect s .receive { s with flow := { s.flow with acquire := acquire } }
  | receive (i : ι) (message p : List UInt8) (acquire : Channel (ι × List UInt8) mqMaxMsg)
      (hplace : s.flow.place = .receiving)
      (htake : s.flow.acquire.take = some ((i, message), acquire))
      (hpacket : receivePacket message = some p) :
      Effect s .receive { s with flow := { s.flow with acquire := acquire, place := .received p } }
  | reject (realtime monotonic : Option Timespec) (p : List UInt8)
      (hplace : s.flow.place = .received p)
      (hframe : generateFrame realtime monotonic p Sensor.zero p.length = none) :
      Effect s (.generate realtime monotonic)
        { s with flow := { s.flow with place := .receiving } }
  | generate (realtime monotonic : Option Timespec) (p : List UInt8) (f : Sensor)
      (hplace : s.flow.place = .received p)
      (hframe : generateFrame realtime monotonic p Sensor.zero p.length = some f) :
      Effect s (.generate realtime monotonic)
        { s with flow := { s.flow with place := .logging f, produced := s.flow.produced ++ [f] } }
  | dropAtLog (f : Sensor) (hplace : s.flow.place = .logging f) (hdata : f.frameType = .data)
      (hput : s.log.put f = none) :
      Effect s .sendLog { s with flow := { s.flow with place := .receiving } }
  | sendLog (f : Sensor) (log : FrameQueue) (hplace : s.flow.place = .logging f)
      (hdata : f.frameType = .data) (hput : s.log.put f = some log) :
      Effect s .sendLog { flow := { s.flow with place := .reporting f }, log := log }
  | passLog (f : Sensor) (hplace : s.flow.place = .logging f) (hdata : f.frameType ≠ .data) :
      Effect s .sendLog { s with flow := { s.flow with place := .reporting f } }
  | dropAtTelemetry (f : Sensor) (hplace : s.flow.place = .reporting f)
      (hput : s.flow.telemetry.put f = none) :
      Effect s .sendTelemetry { s with flow := { s.flow with place := .receiving } }
  | sendTelemetry (f : Sensor) (telemetry : FrameQueue) (hplace : s.flow.place = .reporting f)
      (hput : s.flow.telemetry.put f = some telemetry) :
      Effect s .sendTelemetry
        { s with flow := { s.flow with place := .receiving, telemetry := telemetry } }
  | logReceive (f : Sensor) (log : FrameQueue) (htake : s.log.take = some (f, log)) :
      Effect s .logReceive { s with log := log }
  | telemetryReceive (f : Sensor) (telemetry : FrameQueue)
      (htake : s.flow.telemetry.take = some (f, telemetry)) :
      Effect s .telemetryReceive { s with flow := { s.flow with telemetry := telemetry } }

theorem effect_forward (s : State ι) (i : ι) : Effect s (.forward i) (step s (.forward i)) := by
  show Effect s _ { s with flow := s.flow.step true (.forward i) }
  simp only [Flow.step]
  split
  · exact .stay _
  · rename_i p hpending
    split
    · exact .stay _
    · rename_i acquire hput
      exact .forward i p acquire hpending hput

theorem effect_receive (s : State ι) : Effect s .receive (step s .receive) := by
  show Effect s _ { s with flow := s.flow.step true .receive }
  simp only [Flow.step]
  split
  · rename_i i message acquire hplace htake
    split
    · rename_i hpacket
      exact .discard i message acquire hplace htake hpacket
    · rename_i p hpacket
      exact .receive i message p acquire hplace htake hpacket
  · exact .stay _

theorem effect_generate (s : State ι) (realtime monotonic : Option Timespec) :
    Effect s (.generate realtime monotonic) (step s (.generate realtime monotonic)) := by
  show Effect s _ { s with flow := s.flow.step true (.generate realtime monotonic) }
  simp only [Flow.step]
  split
  · rename_i p hplace
    split
    · rename_i hframe
      exact .reject realtime monotonic p hplace hframe
    · rename_i f hframe
      exact .generate realtime monotonic p f hplace hframe
  · exact .stay _

theorem effect_sendLog (s : State ι) : Effect s .sendLog (step s .sendLog) := by
  cases hplace : s.flow.place with
  | logging f =>
    simp only [step, hplace, Flow.step]
    by_cases hdata : f.frameType = .data
    · cases hput : s.log.put f with
      | none =>
        simp only [forwardLog, hdata, if_true, hput, Bool.false_eq_true, if_false]
        exact .dropAtLog f hplace hdata hput
      | some log =>
        simp only [forwardLog, hdata, if_true, hput]
        exact .sendLog f log hplace hdata hput
    · simp only [forwardLog, hdata, if_false, if_true]
      exact .passLog f hplace hdata
  | receiving =>
    simp only [step, hplace, Flow.step]
    exact .stay _
  | received p =>
    simp only [step, hplace, Flow.step]
    exact .stay _
  | reporting f =>
    simp only [step, hplace, Flow.step]
    exact .stay _

theorem effect_sendTelemetry (s : State ι) : Effect s .sendTelemetry (step s .sendTelemetry) := by
  show Effect s _ { s with flow := s.flow.step true .sendTelemetry }
  simp only [Flow.step]
  split
  · rename_i f hplace
    cases hput : s.flow.telemetry.put f with
    | none =>
      simp only [forwardTelemetry, hput]
      exact .dropAtTelemetry f hplace hput
    | some telemetry =>
      simp only [forwardTelemetry, hput]
      exact .sendTelemetry f telemetry hplace hput
  · exact .stay _

/-- A step does one of these things. -/
theorem step_effect (s : State ι) (a : Action ι) : Effect s a (step s a) := by
  cases a with
  | read i => exact .read i
  | forward i => exact effect_forward s i
  | receive => exact effect_receive s
  | generate realtime monotonic => exact effect_generate s realtime monotonic
  | sendLog => exact effect_sendLog s
  | sendTelemetry => exact effect_sendTelemetry s
  | logReceive =>
    simp only [step]
    split
    · exact .stay _
    · rename_i f log htake
      exact .logReceive f log htake
  | telemetryReceive =>
    show Effect s _ { s with flow := s.flow.step true .telemetryReceive }
    simp only [Flow.step]
    split
    · exact .stay _
    · rename_i f telemetry htake
      exact .telemetryReceive f telemetry htake

/-! ### The acquisition queue -/

/-- The packets of one connection among those put on the acquisition queue. -/
def packetsOf (i : ι) (sent : List (ι × List UInt8)) : List (List UInt8) :=
  (sent.filter (·.1 = i)).map (·.2)

/-- What a thread has still to send. -/
def Connection.remaining (c : Connection) : List (List UInt8) :=
  c.pending.toList ++ if c.closed then [] else socketConnectionHandler c.msgBuffer.1 c.incoming

/-- A pass of the handler does not change what is to be sent. -/
theorem Connection.remaining_read (c : Connection) : c.read.remaining = c.remaining := by
  unfold Connection.read
  split_ifs with h
  · rfl
  · simp only [not_or, Bool.not_eq_true, Option.isSome_eq_false_iff, Option.isNone_iff_eq_none] at h
    have heq := socketConnectionHandler_eq c.msgBuffer.2 c.incoming
    split
    · rename_i hp
      rw [hp] at heq
      simp [remaining, h.1, h.2, heq]
    · rename_i p hp
      rw [hp] at heq
      simp [remaining, h.1, h.2, heq]

theorem packetsOf_concat (i j : ι) (sent : List (ι × List UInt8)) (p : List UInt8) :
    packetsOf i (sent ++ [(j, p)]) = packetsOf i sent ++ if j = i then [p] else [] := by
  by_cases h : j = i <;> simp [packetsOf, h]

/-- What a connection has sent and what it has still to send stay the same together. -/
theorem Effect.packetsOf_eq (h : Effect s a t) (i : ι) :
    packetsOf i t.flow.acquire.sent ++ (t.flow.connections i).remaining =
      packetsOf i s.flow.acquire.sent ++ (s.flow.connections i).remaining := by
  cases h with
  | read j =>
    show packetsOf i s.flow.acquire.sent ++
      (Function.update s.flow.connections j _ i).remaining = _
    by_cases h : i = j
    · subst h
      rw [Function.update_self, Connection.remaining_read]
    · rw [Function.update_of_ne h]
  | forward j p acquire hpending hput =>
    simp only [Channel.sent_put hput, packetsOf_concat]
    by_cases h : i = j
    · subst h
      simp [Connection.remaining, hpending]
    · rw [Function.update_of_ne h, if_neg (Ne.symm h), List.append_nil]
  | discard j message acquire hplace htake hpacket => simp only [Channel.sent_take htake]
  | receive j message p acquire hplace htake hpacket => simp only [Channel.sent_take htake]
  | _ => rfl

theorem packetsOf_run (sources : ι → Source) (acts : List (Action ι)) (i : ι) :
    packetsOf i (run sources acts).flow.acquire.sent ++
        ((run sources acts).flow.connections i).remaining =
      socketConnectionHandler (sources i).msgBuffer.1 (sources i).incoming := by
  induction acts using List.reverseRecOn with
  | nil => rfl
  | append_singleton acts a ih =>
    rw [run, List.foldl_concat, ← run, (step_effect _ a).packetsOf_eq, ih]

end Steps

/-! ### The log and telemetry queues -/

/-- How the frames put on the telemetry queue and on the log queue lie in the frames made so far. -/
structure Agree (made told logged : List Sensor) : Prop where
  told_sublist : told.Sublist made
  logged_sublist : logged.Sublist made
  logged_data : ∀ f ∈ logged, f.frameType = .data
  data_sublist : (told.filter (·.frameType = .data)).Sublist logged

namespace Agree

variable {made told logged : List Sensor} {f : Sensor}

/-- A frame that is dropped at once. -/
theorem drop (h : Agree made told logged) (f : Sensor) : Agree (made ++ [f]) told logged :=
  ⟨h.told_sublist.trans (List.sublist_append_left _ _),
    h.logged_sublist.trans (List.sublist_append_left _ _), h.logged_data, h.data_sublist⟩

/-- The frames to be logged of a new frame: itself if it has data. -/
theorem log (h : Agree made told logged) (f : Sensor) :
    Agree (made ++ [f]) told (logged ++ if f.frameType = .data then [f] else []) := by
  split_ifs with hf
  · refine ⟨h.told_sublist.trans (List.sublist_append_left _ _),
      h.logged_sublist.append (List.Sublist.refl _), ?_,
      h.data_sublist.trans (List.sublist_append_left _ _)⟩
    intro g hg
    rcases List.mem_append.mp hg with hg | hg
    · exact h.logged_data g hg
    · rw [List.mem_singleton.mp hg]
      exact hf
  · rw [List.append_nil]
    exact h.drop f

/-- A frame that goes to the telemetry queue after the log queue. -/
theorem tell (h : Agree made told logged) (f : Sensor) :
    Agree (made ++ [f]) (told ++ [f]) (logged ++ if f.frameType = .data then [f] else []) := by
  refine ⟨h.told_sublist.append (List.Sublist.refl _), (h.log f).logged_sublist,
    (h.log f).logged_data, ?_⟩
  rw [List.filter_append]
  refine h.data_sublist.append ?_
  by_cases hf : f.frameType = .data <;> simp [hf]

end Agree

variable {ι : Type} {s t : State ι}

/-- The order of the queues, by the place of `processingd`. A frame in hand is the last one made; it
is nowhere yet before the first half of `forwardFrame`, and before the second it is on the log queue
if it has data. -/
def Ordered (s : State ι) : Prop :=
  match s.flow.place with
  | .logging f => ∃ made, s.flow.produced = made ++ [f] ∧
      Agree made s.flow.telemetry.sent s.log.sent
  | .reporting f => ∃ made logged, s.flow.produced = made ++ [f] ∧
      Agree made s.flow.telemetry.sent logged ∧
      s.log.sent = logged ++ if f.frameType = .data then [f] else []
  | _ => Agree s.flow.produced s.flow.telemetry.sent s.log.sent

/-- In any place the queues agree with what was made. -/
theorem Ordered.agree (h : Ordered s) :
    Agree s.flow.produced s.flow.telemetry.sent s.log.sent := by
  unfold Ordered at h
  split at h
  · obtain ⟨made, hmade, hagree⟩ := h
    rw [hmade]
    exact hagree.drop _
  · obtain ⟨made, logged, hmade, hagree, hlog⟩ := h
    rw [hmade, hlog]
    exact hagree.log _
  · exact h

/-- What touches neither the frames made nor what was put on the two queues keeps the order. -/
theorem Ordered.of_eq (h : Ordered s) (hplace : t.flow.place = s.flow.place)
    (hmade : t.flow.produced = s.flow.produced)
    (htold : t.flow.telemetry.sent = s.flow.telemetry.sent) (hlog : t.log.sent = s.log.sent) :
    Ordered t := by
  unfold Ordered at h ⊢
  rwa [hplace, hmade, htold, hlog]

variable [DecidableEq ι]

theorem Effect.ordered {a : Action ι} (he : Effect s a t) (h : Ordered s) : Ordered t := by
  cases he with
  | stay => exact h
  | read i => exact h.of_eq rfl rfl rfl rfl
  | forward i p acquire hpending hput => exact h.of_eq rfl rfl rfl rfl
  | discard i message acquire hplace htake hpacket => exact h.of_eq rfl rfl rfl rfl
  | receive i message p acquire hplace htake hpacket =>
    simp only [Ordered, hplace] at h
    exact h
  | reject realtime monotonic p hplace hframe =>
    simp only [Ordered, hplace] at h
    exact h
  | generate realtime monotonic p f hplace hframe =>
    simp only [Ordered, hplace] at h
    exact ⟨_, rfl, h⟩
  | dropAtLog f hplace hdata hput =>
    -- the log queue is full: the frame is dropped before the telemetry queue
    simp only [Ordered, hplace] at h
    obtain ⟨made, hmade, hagree⟩ := h
    simp only [Ordered, hmade]
    exact hagree.drop f
  | sendLog f log hplace hdata hput =>
    simp only [Ordered, hplace] at h
    obtain ⟨made, hmade, hagree⟩ := h
    simp only [Ordered, hmade, if_pos hdata]
    exact ⟨made, s.log.sent, rfl, hagree, Channel.sent_put hput⟩
  | passLog f hplace hdata =>
    simp only [Ordered, hplace] at h
    obtain ⟨made, hmade, hagree⟩ := h
    simp only [Ordered, hmade, if_neg hdata]
    exact ⟨made, s.log.sent, rfl, hagree, (List.append_nil _).symm⟩
  | dropAtTelemetry f hplace hput =>
    simp only [Ordered, hplace] at h
    obtain ⟨made, logged, hmade, hagree, hlog⟩ := h
    simp only [Ordered, hmade, hlog]
    exact hagree.log f
  | sendTelemetry f telemetry hplace hput =>
    simp only [Ordered, hplace] at h
    obtain ⟨made, logged, hmade, hagree, hlog⟩ := h
    simp only [Ordered, hmade, hlog, Channel.sent_put hput]
    exact hagree.tell f
  | logReceive f log htake => exact h.of_eq rfl rfl rfl (Channel.sent_take htake)
  | telemetryReceive f telemetry htake => exact h.of_eq rfl rfl (Channel.sent_take htake) rfl

theorem ordered_run (sources : ι → Source) (acts : List (Action ι)) :
    Ordered (run sources acts) := by
  induction acts using List.reverseRecOn with
  | nil =>
    exact ⟨List.Sublist.refl _, List.Sublist.refl _, by simp [run, init], List.Sublist.refl _⟩
  | append_singleton acts a ih =>
    rw [run, List.foldl_concat, ← run]
    exact (step_effect _ a).ordered ih

/-- **Order and no duplication.**  Whatever the threads do in whatever order: the packets of a
connection on the acquisition queue are a prefix of the packets its bytes parse into; the frames on
the telemetry queue are a subsequence of the frames made, those on the log queue are one of data
frames, and the data frames on the telemetry queue are a subsequence of these. -/
theorem pipeline_order (sources : ι → Source) (acts : List (Action ι)) :
    let s := run sources acts
    (∀ i, packetsOf i s.flow.acquire.sent <+:
        socketConnectionHandler (sources i).msgBuffer.1 (sources i).incoming ∧
      ∀ ps, Reading IsPacket (content (sources i).incoming) ps →
        packetsOf i s.flow.acquire.sent <+: ps) ∧
    s.flow.telemetry.sent.Sublist s.flow.produced ∧
    s.log.sent.Sublist s.flow.produced ∧
    (∀ f ∈ s.log.sent, f.frameType = .data) ∧
    (s.flow.telemetry.sent.filter (·.frameType = .data)).Sublist s.log.sent := by
  intro s
  have hagree := (ordered_run sources acts).agree
  refine ⟨fun i => ?_, hagree.told_sublist, hagree.logged_sublist, hagree.logged_data,
    hagree.data_sublist⟩
  have hpre : packetsOf i s.flow.acquire.sent <+:
      socketConnectionHandler (sources i).msgBuffer.1 (sources i).incoming :=
    ⟨_, packetsOf_run sources acts i⟩
  refine ⟨hpre, fun ps hps => hpre.trans ?_⟩
  obtain ⟨hpackets, hflat⟩ := socketConnectionHandler_flatten (sources i).msgBuffer.2
  exact hps.isPrefix isPrefixCode_isPacket hpackets hflat

/-! ### Isolation from the logger -/

/-- Along a run from `s`, `forwardFrame` finds a free slot on the log queue for every data frame. -/
def LogHasRoom : State ι → List (Action ι) → Prop
  | _, [] => True
  | s, a :: acts =>
      (∀ f, a = .sendLog → s.flow.place = .logging f → f.frameType = .data → s.log.HasRoom) ∧
        LogHasRoom (step s a) acts

/-- The steps that are not those of `loggingd`. -/
def withoutLogger (acts : List (Action ι)) : List (Action ι) := acts.filter (· ≠ .logReceive)

/-- The steps of `processingd`. -/
def Action.processing : Action ι → Bool
  | .receive => true
  | .generate _ _ => true
  | .sendLog => true
  | .sendTelemetry => true
  | _ => false

theorem forwardLog_fst (f : Sensor) (log : FrameQueue) :
    (forwardLog f log).1 = true ↔ f.frameType = .heartbeat ∨ log.HasRoom := by
  unfold forwardLog
  split_ifs with hf
  · cases hput : log.put f with
    | none => simp [hf, Channel.put_eq_none_iff.mp hput]
    | some log' =>
      have hroom : log.HasRoom := by
        by_contra h
        rw [Channel.put_eq_none_iff.mpr h] at hput
        cases hput
      simp [hroom]
  · have hb : f.frameType = .heartbeat := by
      cases h : f.frameType with
      | heartbeat => rfl
      | data => exact absurd h hf
    simp [hb]

/-- Where the log queue has room for what is offered, a step is that of a system without it. -/
theorem flow_step_of_room {a : Action ι}
    (h : ∀ f, a = .sendLog → s.flow.place = .logging f → f.frameType = .data → s.log.HasRoom) :
    (step s a).flow = s.flow.step true a := by
  unfold step
  split
  · rename_i f hplace
    have hgo : (forwardLog f s.log).1 = true := by
      rw [forwardLog_fst]
      cases hf : f.frameType with
      | heartbeat => exact Or.inl rfl
      | data => exact Or.inr (h f rfl hplace hf)
    rw [hgo]
  · split <;> rfl
  · rfl

theorem flow_foldl_of_room {acts : List (Action ι)} (h : LogHasRoom s acts) :
    (acts.foldl step s).flow = acts.foldl (Flow.step true) s.flow := by
  induction acts generalizing s with
  | nil => rfl
  | cons a acts ih =>
    obtain ⟨hroom, hrest⟩ := h
    rw [List.foldl_cons, List.foldl_cons, ih hrest, flow_step_of_room hroom]

theorem logHasRoom_append {acts acts' : List (Action ι)} :
    LogHasRoom s (acts ++ acts') ↔ LogHasRoom s acts ∧ LogHasRoom (acts.foldl step s) acts' := by
  induction acts generalizing s with
  | nil => simp [LogHasRoom]
  | cons a acts ih => simp [LogHasRoom, ih, and_assoc]

/-- Steps that offer nothing to the log queue need no room there. -/
theorem logHasRoom_of_notMem {acts : List (Action ι)} (h : .sendLog ∉ acts) :
    LogHasRoom s acts := by
  induction acts generalizing s with
  | nil => trivial
  | cons a acts ih =>
    rw [List.mem_cons, not_or] at h
    exact ⟨fun f ha => absurd ha.symm h.1, ih h.2⟩

/-- The steps of `loggingd` do nothing to the rest of the system. -/
theorem foldl_withoutLogger (x : Flow ι) (acts : List (Action ι)) :
    (withoutLogger acts).foldl (Flow.step true) x = acts.foldl (Flow.step true) x := by
  induction acts generalizing x with
  | nil => rfl
  | cons a acts ih =>
    by_cases ha : a = .logReceive
    · subst ha
      have hcons : withoutLogger (.logReceive :: acts) = withoutLogger acts := by
        simp [withoutLogger]
      rw [hcons, ih]
      rfl
    · have hcons : withoutLogger (a :: acts) = a :: withoutLogger acts := by
        simp [withoutLogger, ha]
      rw [hcons, List.foldl_cons, ih, List.foldl_cons]

/-- The other threads leave `processingd` where it is, put nothing on the telemetry queue and take
no room from it. -/
theorem Effect.of_not_processing {a : Action ι} (h : Effect s a t) (ha : a.processing = false) :
    t.flow.place = s.flow.place ∧ t.flow.telemetry.sent = s.flow.telemetry.sent ∧
      (s.flow.telemetry.HasRoom → t.flow.telemetry.HasRoom) := by
  cases h with
  | stay => exact ⟨rfl, rfl, id⟩
  | read i => exact ⟨rfl, rfl, id⟩
  | forward i p acquire hpending hput => exact ⟨rfl, rfl, id⟩
  | logReceive f log htake => exact ⟨rfl, rfl, id⟩
  | telemetryReceive f telemetry htake =>
    exact ⟨rfl, Channel.sent_take htake, Channel.hasRoom_take htake⟩
  | _ => cases ha

theorem foldl_of_not_processing {mid : List (Action ι)} (hmid : ∀ a ∈ mid, a.processing = false) :
    (mid.foldl step s).flow.place = s.flow.place ∧
      (mid.foldl step s).flow.telemetry.sent = s.flow.telemetry.sent ∧
      (s.flow.telemetry.HasRoom → (mid.foldl step s).flow.telemetry.HasRoom) := by
  induction mid generalizing s with
  | nil => exact ⟨rfl, rfl, id⟩
  | cons a mid ih =>
    rw [List.forall_mem_cons] at hmid
    obtain ⟨hplace, hsent, hroom⟩ := (step_effect s a).of_not_processing hmid.1
    obtain ⟨hplace', hsent', hroom'⟩ := ih (s := step s a) hmid.2
    exact ⟨hplace'.trans hplace, hsent'.trans hsent, fun h => hroom' (hroom h)⟩

/-- A call of `forwardFrame` with room on the telemetry queue, other threads running in between,
puts the frame there exactly when it is a heartbeat or the log queue has room. -/
theorem forwardFrame_told_iff {f : Sensor} {mid : List (Action ι)}
    (hplace : s.flow.place = .logging f) (hroom : s.flow.telemetry.HasRoom)
    (hmid : ∀ a ∈ mid, a.processing = false) :
    ((Action.sendLog :: mid ++ [Action.sendTelemetry]).foldl step s).flow.telemetry.sent =
        s.flow.telemetry.sent ++ [f] ↔
      f.frameType = .heartbeat ∨ s.log.HasRoom := by
  have hsend : (step s .sendLog).flow =
      { s.flow with place := if (forwardLog f s.log).1 then .reporting f else .receiving } := by
    simp only [step, hplace, Flow.step]
  obtain ⟨hp, hs, hr⟩ := foldl_of_not_processing (s := step s .sendLog) hmid
  rw [List.cons_append, List.foldl_cons, List.foldl_concat, ← forwardLog_fst]
  generalize mid.foldl step (step s .sendLog) = t at hp hs hr ⊢
  rw [hsend] at hp hs hr
  cases hgo : (forwardLog f s.log).1 with
  | true =>
    rw [hgo, if_pos rfl] at hp
    obtain ⟨telemetry, hput⟩ := Channel.exists_put (hr hroom) f
    have htold : (step t .sendTelemetry).flow.telemetry = telemetry := by
      simp only [step, Flow.step, hp, forwardTelemetry, hput]
    rw [htold, Channel.sent_put hput, hs]
    simp
  | false =>
    rw [hgo, if_neg (by decide)] at hp
    have htold : (step t .sendTelemetry).flow.telemetry = t.flow.telemetry := by
      simp only [step, Flow.step, hp]
    rw [htold, hs]
    simp

/-- **When telemetry is isolated from the logger.**  In every state that can be reached, a call of
`forwardFrame` with room on the telemetry queue puts the frame there exactly when the frame is a
heartbeat or the log queue has room; and two runs in which every data frame finds room on the log
queue, and which differ in the steps of `loggingd` only, agree in everything but the log queue: in
the frames accepted and in what `telemetryd` receives. -/
theorem telemetry_isolated (sources : ι → Source) :
    (∀ acts mid f, (run sources acts).flow.place = .logging f →
      (run sources acts).flow.telemetry.HasRoom → (∀ a ∈ mid, a.processing = false) →
      ((run sources (acts ++ (.sendLog :: mid ++ [.sendTelemetry]))).flow.telemetry.sent =
          (run sources acts).flow.telemetry.sent ++ [f] ↔
        f.frameType = .heartbeat ∨ (run sources acts).log.HasRoom)) ∧
    ∀ acts₁ acts₂, LogHasRoom (init sources) acts₁ → LogHasRoom (init sources) acts₂ →
      withoutLogger acts₁ = withoutLogger acts₂ →
      (run sources acts₁).flow = (run sources acts₂).flow := by
  refine ⟨fun acts mid f hplace hroom hmid => ?_, fun acts₁ acts₂ h₁ h₂ heq => ?_⟩
  · rw [run, List.foldl_append, ← run]
    exact forwardFrame_told_iff hplace hroom hmid
  · rw [run, run, flow_foldl_of_room h₁, flow_foldl_of_room h₂, ← foldl_withoutLogger _ acts₁, heq,
      foldl_withoutLogger]

/-- One sensor sends eleven readings, `telemetryd` takes each frame at once and `loggingd` does not
run: the log queue is full at the last one, which never reaches the empty telemetry queue. -/
theorem dead_logger_stops_telemetry :
    let sources : Unit → Source := fun _ => ⟨⟨List.replicate 18 0, rfl⟩,
      List.replicate 11 (.data 0xAA [0x4B, 7, 0, 4, 0, 0x5F, 0, 0, 0])⟩
    let f : Sensor :=
      ⟨⟨0x5F, 0, 0⟩, ⟨0, 0⟩, ⟨0, 0⟩, 7, "TORQS_0X7".toList, .torque, .frameDefault, .data⟩
    let offer : List (Action Unit) :=
      [.read (), .forward (), .receive, .generate (some ⟨0, 0⟩) (some ⟨0, 0⟩)]
    let pass : List (Action Unit) := offer ++ [.sendLog, .sendTelemetry, .telemetryReceive]
    let before := (List.replicate 10 pass).flatten ++ offer
    ((run sources before).flow.place = .logging f ∧
      (run sources before).flow.telemetry.contents = [] ∧
      (run sources (before ++ [.sendLog, .sendTelemetry])).flow.telemetry.sent =
        (run sources before).flow.telemetry.sent) ∧
    let dead := (List.replicate 11 pass).flatten
    let alive := (List.replicate 11 (pass ++ [.logReceive])).flatten
    withoutLogger dead = withoutLogger alive ∧
      (run sources dead).flow.telemetry.received = List.replicate 10 f ∧
      (run sources alive).flow.telemetry.received = List.replicate 11 f := by
  decide +kernel

/-- A reading that meets an empty log queue reaches the telemetry queue, and it does so as well when
`loggingd` takes it off the log queue in between. -/
theorem telemetry_isolated_torque :
    let sources : Unit → Source := fun _ => ⟨⟨List.replicate 18 0, rfl⟩,
      [.data 0xAA [0x4B, 7, 0, 4, 0, 0x5F, 0, 0, 0]]⟩
    let f : Sensor :=
      ⟨⟨0x5F, 0, 0⟩, ⟨0, 0⟩, ⟨0, 0⟩, 7, "TORQS_0X7".toList, .torque, .frameDefault, .data⟩
    let offer : List (Action Unit) :=
      [.read (), .forward (), .receive, .generate (some ⟨0, 0⟩) (some ⟨0, 0⟩)]
    (run sources (offer ++ [.sendLog, .logReceive, .sendTelemetry])).flow.telemetry.sent = [f] ∧
    (run sources (offer ++ [.sendLog, .sendTelemetry])).flow =
      (run sources (offer ++ [.sendLog, .logReceive, .sendTelemetry])).flow := by
  intro sources f offer
  have hplace : (run sources offer).flow.place = .logging f := by decide +kernel
  have hroom : (run sources offer).flow.telemetry.HasRoom := by decide +kernel
  have hlog : (run sources offer).log.HasRoom := by decide +kernel
  have hnone : (run sources offer).flow.telemetry.sent = [] := by decide +kernel
  obtain ⟨hcall, hruns⟩ := telemetry_isolated sources
  constructor
  · have htold := (hcall offer [.logReceive] f hplace hroom (by decide)).mpr (Or.inr hlog)
    rwa [hnone] at htold
  · have hafter : ∀ rest : List (Action Unit), .sendLog ∉ rest →
        LogHasRoom (init sources) (offer ++ .sendLog :: rest) := fun rest hrest =>
      logHasRoom_append.mpr ⟨logHasRoom_of_notMem (by decide), fun _ _ _ _ => hlog,
        logHasRoom_of_notMem hrest⟩
    exact hruns _ _ (hafter _ (by decide)) (hafter _ (by decide)) (by decide)

end Pipeline
end Gateway
