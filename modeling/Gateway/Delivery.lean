import Gateway.Agreement
import Gateway.Lib.Drain

/-!
# What becomes of every packet

`pipeline_order` says that nothing is invented, repeated or reordered on the way through the
daemons.  Here is the other half: what is lost, and that nothing gets stuck.

* `work`: what is left to do in a state, which every step that does anything uses up;
* `everything_delivered`: while `loggingd` and `telemetryd` keep receiving, the system cannot come
  to a halt before every packet of every connection has gone through, and it comes to a halt on
  every schedule;
* `lostAtLog`, `lostAtTelemetry`: the frames that `forwardFrame` drops along a run, each at a full
  queue;
* `frames_accounted`: every frame made is on its queue, in the hands of `processingd`, or among
  these;
* `Decoding`, `decoding_run`: which packets the frames were made from.
-/

namespace Gateway
namespace Pipeline

open Acquiring Drain Processing
open Agreement (dataFrames dataFrames_append dataFrames_of_data dataFrames_of_not_data)

variable {ι : Type} {s t : State ι} {a : Action ι}

/-! ### Work -/

/-- The work that a connection makes: for each packet to come and for the one in hand, and for the
end of its thread. -/
def Connection.work (c : Connection) : ℕ :=
  (if c.closed then 0 else 8 * (socketConnectionHandler c.msgBuffer.1 c.incoming).length + 1) +
    7 * c.pending.toList.length

/-- The work that `processingd` has in hand. -/
def Place.work : Place → ℕ
  | .receiving => 0
  | .received _ => 5
  | .logging _ => 4
  | .reporting _ => 2

/-- The work that is left in a state. -/
def work [Fintype ι] (s : State ι) : ℕ :=
  ∑ i, (s.flow.connections i).work + 6 * s.flow.acquire.contents.length + s.flow.place.work +
    s.log.contents.length + s.flow.telemetry.contents.length

theorem Connection.work_read {c : Connection} (h : c.read ≠ c) : c.read.work < c.work := by
  unfold Connection.read at h ⊢
  split_ifs at h ⊢ with hidle
  · exact absurd rfl h
  · simp only [not_or, Bool.not_eq_true, Option.isSome_eq_false_iff,
      Option.isNone_iff_eq_none] at hidle
    have heq := socketConnectionHandler_eq c.msgBuffer.2 c.incoming
    split
    · rename_i hp
      rw [hp] at heq
      simp [work, hidle.1, hidle.2, heq]
    · rename_i p hp
      rw [hp] at heq
      simp only [work, hidle.1, hidle.2, heq, Bool.false_eq_true, if_false, List.length_cons,
        Option.toList_some, Option.toList_none, List.length_nil]
      omega

section Work

variable [Fintype ι] [DecidableEq ι]

/-- Replacing one connection replaces its work. -/
theorem sum_work_update (connections : ι → Connection) (i : ι) (c : Connection) :
    ∑ j, (Function.update connections i c j).work + (connections i).work =
      ∑ j, (connections j).work + c.work := by
  have hsum : ∀ f : ι → Connection,
      ∑ j, (f j).work = (f i).work + ∑ j ∈ Finset.univ.erase i, (f j).work := fun f =>
    (Finset.add_sum_erase _ (fun j => (f j).work) (Finset.mem_univ i)).symm
  have hrest : ∑ j ∈ Finset.univ.erase i, (Function.update connections i c j).work =
      ∑ j ∈ Finset.univ.erase i, (connections j).work := by
    apply Finset.sum_congr rfl
    intro j hj
    rw [Function.update_of_ne (Finset.ne_of_mem_erase hj)]
  rw [hsum (Function.update connections i c), hsum connections, hrest, Function.update_self]
  omega

/-- Every effect but none uses up work. -/
theorem Effect.work_lt (h : Effect s a t) (hne : t ≠ s) : work t < work s := by
  cases h with
  | stay => exact absurd rfl hne
  | read i =>
    have hread : (s.flow.connections i).read ≠ s.flow.connections i := by
      intro heq
      rw [heq, Function.update_eq_self] at hne
      exact hne rfl
    have hsum := sum_work_update s.flow.connections i (s.flow.connections i).read
    have hlt := Connection.work_read hread
    simp only [work]
    omega
  | forward i p acquire hpending hput =>
    have hsum := sum_work_update s.flow.connections i
      ⟨(s.flow.connections i).toSource, none, (s.flow.connections i).closed⟩
    have hlt : Connection.work ⟨(s.flow.connections i).toSource, none,
        (s.flow.connections i).closed⟩ + 7 = (s.flow.connections i).work := by
      simp [Connection.work, hpending]
    simp only [work, Channel.contents_put hput, List.length_append, List.length_singleton]
    omega
  | discard i message acquire hplace htake hpacket =>
    simp only [work, hplace, Channel.contents_take htake, List.length_cons]
    omega
  | receive i message p acquire hplace htake hpacket =>
    simp only [work, hplace, Channel.contents_take htake, List.length_cons, Place.work]
    omega
  | reject realtime monotonic p hplace hframe =>
    simp only [work, hplace, Place.work]
    omega
  | generate realtime monotonic p f hplace hframe =>
    simp only [work, hplace, Place.work]
    omega
  | dropAtLog f hplace hdata hput =>
    simp only [work, hplace, Place.work]
    omega
  | sendLog f log hplace hdata hput =>
    simp only [work, hplace, Place.work, Channel.contents_put hput, List.length_append,
      List.length_singleton]
    omega
  | passLog f hplace hdata =>
    simp only [work, hplace, Place.work]
    omega
  | dropAtTelemetry f hplace hput =>
    simp only [work, hplace, Place.work]
    omega
  | sendTelemetry f telemetry hplace hput =>
    simp only [work, hplace, Place.work, Channel.contents_put hput, List.length_append,
      List.length_singleton]
    omega
  | logReceive f log htake =>
    simp only [work, Channel.contents_take htake, List.length_cons]
    omega
  | telemetryReceive f telemetry htake =>
    simp only [work, Channel.contents_take htake, List.length_cons]
    omega

theorem consumes_step : Consumes (step (ι := ι)) work := fun s a hne =>
  (step_effect s a).work_lt hne

omit [DecidableEq ι] in
theorem work_init (sources : ι → Source) :
    work (init sources) = ∑ i,
      (8 * (socketConnectionHandler (sources i).msgBuffer.1 (sources i).incoming).length + 1) := by
  simp [work, init, Flow.init, Connection.work, Place.work]

end Work

/-! ### Nothing gets stuck -/

/-- Nothing is on the way: every thread of `acquiringd` has left its loop with no packet in hand,
`processingd` waits for a packet, and the queues are empty. -/
structure Settled (s : State ι) : Prop where
  closed : ∀ i, (s.flow.connections i).closed = true
  pending : ∀ i, (s.flow.connections i).pending = none
  place : s.flow.place = .receiving
  acquire : s.flow.acquire.contents = []
  log : s.log.contents = []
  telemetry : s.flow.telemetry.contents = []

section Settled

variable [DecidableEq ι]

/-- `processingd` never waits but for a packet. -/
theorem place_of_quiescent (h : Quiescent step s) : s.flow.place = .receiving := by
  have hne : ∀ a place, (step s a).flow.place = place → s.flow.place = place := by
    intro a place hplace
    rw [h a] at hplace
    exact hplace
  cases hplace : s.flow.place with
  | receiving => rfl
  | received p =>
    have hstep : (step s (.generate none none)).flow.place = .receiving := by
      simp only [step, Flow.step, hplace]
      split
      · rfl
      · rename_i f hframe
        simp [generateFrame] at hframe
    rw [← hplace, hne _ _ hstep]
  | logging f =>
    have hstep : (step s .sendLog).flow.place = .receiving ∨
        (step s .sendLog).flow.place = .reporting f := by
      simp only [step, hplace, Flow.step]
      split_ifs
      · exact Or.inr rfl
      · exact Or.inl rfl
    rcases hstep with hstep | hstep
    · rw [← hplace, hne _ _ hstep]
    · rw [hne _ _ hstep] at hplace
      cases hplace
  | reporting f =>
    have hstep : (step s .sendTelemetry).flow.place = .receiving := by
      simp only [step, Flow.step, hplace]
    rw [← hplace, hne _ _ hstep]

/-- A state in which no thread can do anything has nothing left to do. -/
theorem settled_of_quiescent (h : Quiescent step s) : Settled s := by
  have hplace := place_of_quiescent h
  -- `processingd` waits for a packet, so it would take one that is there
  have hacquire : s.flow.acquire.contents = [] := by
    by_contra hne
    obtain ⟨⟨i, message⟩, acquire, htake⟩ := Channel.exists_take hne
    have hstep : (step s .receive).flow.acquire = acquire := by
      simp only [step, Flow.step, hplace, htake]
      split <;> rfl
    rw [h] at hstep
    exact Channel.ne_of_take htake hstep.symm
  -- the queue is empty, so a thread with a packet in hand is not blocked
  have hpending : ∀ i, (s.flow.connections i).pending = none := by
    intro i
    by_contra hne
    obtain ⟨p, hp⟩ := Option.ne_none_iff_exists'.mp hne
    have hroom : s.flow.acquire.HasRoom := by
      rw [Channel.HasRoom, hacquire]
      exact Nat.succ_pos _
    obtain ⟨acquire, hput⟩ := Channel.exists_put hroom (i, p)
    have hstep : (step s (.forward i)).flow.acquire = acquire := by
      simp only [step, Flow.step, hp, hput]
    rw [h] at hstep
    have hcontents := Channel.contents_put hput
    rw [← hstep, hacquire] at hcontents
    cases hcontents
  have hclosed : ∀ i, (s.flow.connections i).closed = true := by
    intro i
    by_contra hopen
    have hstep : (step s (.read i)).flow.connections i = (s.flow.connections i).read := by
      simp only [step, Flow.step, Function.update_self]
    rw [h] at hstep
    unfold Connection.read at hstep
    rw [if_neg (by simp [hopen, hpending i])] at hstep
    split at hstep
    · rw [hstep] at hopen
      exact hopen rfl
    · have hsome := congrArg Connection.pending hstep
      rw [hpending i] at hsome
      cases hsome
  refine ⟨hclosed, hpending, hplace, hacquire, ?_, ?_⟩
  · by_contra hne
    obtain ⟨f, log, htake⟩ := Channel.exists_take hne
    have hstep : (step s .logReceive).log = log := by
      simp only [step, htake]
    rw [h] at hstep
    exact Channel.ne_of_take htake hstep.symm
  · by_contra hne
    obtain ⟨f, telemetry, htake⟩ := Channel.exists_take hne
    have hstep : (step s .telemetryReceive).flow.telemetry = telemetry := by
      simp only [step, Flow.step, htake]
    rw [h] at hstep
    exact Channel.ne_of_take htake hstep.symm

/-- When nothing is on the way, all packets of a connection have been received. -/
theorem packetsOf_of_settled (sources : ι → Source) (acts : List (Action ι))
    (h : Settled (run sources acts)) (i : ι) :
    packetsOf i (run sources acts).flow.acquire.received =
      socketConnectionHandler (sources i).msgBuffer.1 (sources i).incoming := by
  have hrun := packetsOf_run sources acts i
  have hrest : ((run sources acts).flow.connections i).remaining = [] := by
    simp [Connection.remaining, h.closed i, h.pending i]
  rw [hrest, List.append_nil] at hrun
  rw [Channel.received_of_empty h.acquire, hrun]

end Settled

/-- **Everything is delivered in the end, and there is no deadlock.**  With finitely many
connections, whatever bytes they bring, and with `loggingd` and `telemetryd` receiving all the time,
as long as neither of them has ended: no run can go on for longer than the packets make work, from
every state that can be reached the threads can go on to one in which no step has any effect, and in
every such state each connection has been read to its end, `processingd` has received all packets
of each connection in order, and no frame is left on a queue or in the hands of `processingd`. -/
theorem everything_delivered [Fintype ι] [DecidableEq ι] (sources : ι → Source) :
    (∀ acts, Effective step (init sources) acts → acts.length ≤ ∑ i,
      (8 * (socketConnectionHandler (sources i).msgBuffer.1 (sources i).incoming).length + 1)) ∧
    (∀ acts, ∃ more, Effective step (run sources acts) more ∧
      Quiescent step (run sources (acts ++ more))) ∧
    ∀ acts, Quiescent step (run sources acts) →
      let s := run sources acts
      Settled s ∧ s.flow.telemetry.received = s.flow.telemetry.sent ∧
        s.log.received = s.log.sent ∧
        ∀ i, packetsOf i s.flow.acquire.received =
          socketConnectionHandler (sources i).msgBuffer.1 (sources i).incoming := by
  refine ⟨?_, ?_, ?_⟩
  · intro acts hacts
    have hle := length_le_work consumes_step hacts
    rw [work_init] at hle
    omega
  · intro acts
    obtain ⟨more, heff, hquiet⟩ := exists_quiescent consumes_step (run sources acts)
    refine ⟨more, heff, ?_⟩
    rw [run, List.foldl_append]
    exact hquiet
  · intro acts hquiet
    have hsettled := settled_of_quiescent hquiet
    exact ⟨hsettled, Channel.received_of_empty hsettled.telemetry,
      Channel.received_of_empty hsettled.log, packetsOf_of_settled sources acts hsettled⟩

/-! ### What is lost -/

/-- The frame that `forwardFrame` has still to put on the telemetry queue. -/
def carried : Place → List Sensor
  | .logging f => [f]
  | .reporting f => [f]
  | _ => []

/-- The frame that it has still to offer to the log queue. -/
def unlogged : Place → List Sensor
  | .logging f => [f]
  | _ => []

/-- The frame that a step drops because the log queue is full. -/
def dropAtLog (s : State ι) (a : Action ι) : List Sensor :=
  match a, s.flow.place with
  | .sendLog, .logging f => if f.frameType = .data ∧ ¬ s.log.HasRoom then [f] else []
  | _, _ => []

/-- The frame that a step drops because the telemetry queue is full. -/
def dropAtTelemetry (s : State ι) (a : Action ι) : List Sensor :=
  match a, s.flow.place with
  | .sendTelemetry, .reporting f => if s.flow.telemetry.HasRoom then [] else [f]
  | _, _ => []

section Loss

variable [DecidableEq ι]

/-- The frames that the log queue refuses along a run. -/
def lostAtLog : State ι → List (Action ι) → List Sensor
  | _, [] => []
  | s, a :: acts => dropAtLog s a ++ lostAtLog (step s a) acts

/-- The frames that the telemetry queue refuses along a run. -/
def lostAtTelemetry : State ι → List (Action ι) → List Sensor
  | _, [] => []
  | s, a :: acts => dropAtTelemetry s a ++ lostAtTelemetry (step s a) acts

theorem lostAtLog_concat (s : State ι) (acts : List (Action ι)) (a : Action ι) :
    lostAtLog s (acts ++ [a]) = lostAtLog s acts ++ dropAtLog (acts.foldl step s) a := by
  induction acts generalizing s with
  | nil => simp [lostAtLog]
  | cons b acts ih => simp [lostAtLog, ih]

theorem lostAtTelemetry_concat (s : State ι) (acts : List (Action ι)) (a : Action ι) :
    lostAtTelemetry s (acts ++ [a]) =
      lostAtTelemetry s acts ++ dropAtTelemetry (acts.foldl step s) a := by
  induction acts generalizing s with
  | nil => simp [lostAtTelemetry]
  | cons b acts ih => simp [lostAtTelemetry, ih]

omit [DecidableEq ι] in
/-- What comes last may as well come in the middle. -/
theorem perm_append_middle (fs gs hs : List Sensor) : (fs ++ gs ++ hs).Perm (fs ++ hs ++ gs) := by
  rw [List.append_assoc, List.append_assoc]
  exact List.perm_append_comm.append_left fs

/-- The frames made, as they are accounted for by the queues, by the place of `processingd` and by
what was lost. -/
structure Accounted (s : State ι) (atLog atTelemetry : List Sensor) : Prop where
  told : s.flow.produced.Perm
    (s.flow.telemetry.sent ++ carried s.flow.place ++ (atLog ++ atTelemetry))
  logged : (dataFrames s.flow.produced).Perm
    (s.log.sent ++ dataFrames (unlogged s.flow.place) ++ atLog)

omit [DecidableEq ι] in
theorem Accounted.of_eq {atLog atTelemetry : List Sensor} (h : Accounted s atLog atTelemetry)
    (hmade : t.flow.produced = s.flow.produced)
    (htold : t.flow.telemetry.sent = s.flow.telemetry.sent) (hlog : t.log.sent = s.log.sent)
    (hcarried : carried t.flow.place = carried s.flow.place)
    (hunlogged : unlogged t.flow.place = unlogged s.flow.place) :
    Accounted t atLog atTelemetry := by
  constructor
  · rw [hmade, htold, hcarried]
    exact h.told
  · rw [hmade, hlog, hunlogged]
    exact h.logged

/-- A step that is not one of the two sends loses nothing. -/
theorem Accounted.of_effect {atLog atTelemetry : List Sensor} (h : Accounted s atLog atTelemetry)
    (he : Effect s a t) (hlog : a ≠ .sendLog) (htelemetry : a ≠ .sendTelemetry) :
    Accounted t atLog atTelemetry := by
  cases he with
  | stay => exact h
  | read i => exact h.of_eq rfl rfl rfl rfl rfl
  | forward i p acquire hpending hput => exact h.of_eq rfl rfl rfl rfl rfl
  | discard i message acquire hplace htake hpacket => exact h.of_eq rfl rfl rfl rfl rfl
  | receive i message p acquire hplace htake hpacket =>
    exact h.of_eq rfl rfl rfl (by rw [hplace]; rfl) (by rw [hplace]; rfl)
  | reject realtime monotonic p hplace hframe =>
    exact h.of_eq rfl rfl rfl (by rw [hplace]; rfl) (by rw [hplace]; rfl)
  | generate realtime monotonic p f hplace hframe =>
    obtain ⟨htold, hlogged⟩ := h
    rw [hplace] at htold hlogged
    constructor
    · simp only [carried, List.append_nil] at htold ⊢
      exact (htold.append_right [f]).trans (perm_append_middle _ _ _)
    · have hnil : dataFrames [] = [] := rfl
      simp only [unlogged, dataFrames_append, hnil, List.append_nil] at hlogged ⊢
      exact (hlogged.append_right _).trans (perm_append_middle _ _ _)
  | dropAtLog | sendLog | passLog => exact absurd rfl hlog
  | dropAtTelemetry | sendTelemetry => exact absurd rfl htelemetry
  | logReceive f log htake => exact h.of_eq rfl rfl (Channel.sent_take htake) rfl rfl
  | telemetryReceive f telemetry htake => exact h.of_eq rfl (Channel.sent_take htake) rfl rfl rfl

/-- The first half of `forwardFrame`. -/
theorem Accounted.sendLog {atLog atTelemetry : List Sensor} (h : Accounted s atLog atTelemetry) :
    Accounted (step s .sendLog) (atLog ++ Pipeline.dropAtLog s .sendLog) atTelemetry := by
  cases hplace : s.flow.place with
  | logging f =>
    obtain ⟨htold, hlogged⟩ := h
    rw [hplace] at htold hlogged
    simp only [carried, unlogged] at htold hlogged
    simp only [Pipeline.dropAtLog, step, hplace, Flow.step]
    by_cases hdata : f.frameType = .data
    · rw [dataFrames_of_data hdata] at hlogged
      cases hput : s.log.put f with
      | none =>
        -- `forwardFrame` returns here, so the frame is lost to the telemetry queue as well
        have hfull := Channel.put_eq_none_iff.mp hput
        simp only [forwardLog, hdata, if_true, hput, Bool.false_eq_true, if_false, hfull,
          not_false_eq_true, and_self]
        constructor
        · simp only [carried, List.append_nil]
          refine htold.trans ?_
          simp only [List.perm_iff_count, List.count_append]
          intro g
          omega
        · simp only [unlogged, dataFrames, List.filter_nil, List.append_nil] at hlogged ⊢
          refine hlogged.trans ?_
          simp only [List.perm_iff_count, List.count_append]
          intro g
          omega
      | some log =>
        have hroom := Channel.hasRoom_of_put hput
        simp only [forwardLog, hdata, if_true, hput, hroom, not_true_eq_false, and_false,
          if_false, List.append_nil]
        constructor
        · exact htold
        · simp only [unlogged, Channel.sent_put hput, dataFrames, List.filter_nil, List.append_nil]
          exact hlogged
    · -- a heartbeat is not offered to the log queue
      rw [dataFrames_of_not_data hdata] at hlogged
      simp only [forwardLog, hdata, if_false, if_true, false_and, List.append_nil]
      exact ⟨htold, hlogged⟩
  | _ =>
    simp only [Pipeline.dropAtLog, step, hplace, Flow.step, List.append_nil]
    exact h

/-- The second half of `forwardFrame`. -/
theorem Accounted.sendTelemetry {atLog atTelemetry : List Sensor}
    (h : Accounted s atLog atTelemetry) :
    Accounted (step s .sendTelemetry) atLog
      (atTelemetry ++ Pipeline.dropAtTelemetry s .sendTelemetry) := by
  cases hplace : s.flow.place with
  | reporting f =>
    obtain ⟨htold, hlogged⟩ := h
    rw [hplace] at htold hlogged
    simp only [carried, unlogged] at htold hlogged
    simp only [Pipeline.dropAtTelemetry, step, Flow.step, hplace]
    cases hput : s.flow.telemetry.put f with
    | none =>
      have hfull := Channel.put_eq_none_iff.mp hput
      simp only [forwardTelemetry, hput, hfull, if_false]
      refine ⟨?_, hlogged⟩
      simp only [carried, List.append_nil]
      refine htold.trans ?_
      simp only [List.perm_iff_count, List.count_append]
      intro g
      omega
    | some telemetry =>
      have hroom := Channel.hasRoom_of_put hput
      simp only [forwardTelemetry, hput, hroom, if_true, List.append_nil]
      refine ⟨?_, hlogged⟩
      simp only [carried, Channel.sent_put hput, List.append_nil]
      exact htold
  | _ =>
    simp only [Pipeline.dropAtTelemetry, step, hplace, Flow.step, List.append_nil]
    exact h

theorem accounted_run (sources : ι → Source) (acts : List (Action ι)) :
    Accounted (run sources acts) (lostAtLog (init sources) acts)
      (lostAtTelemetry (init sources) acts) := by
  induction acts using List.reverseRecOn with
  | nil => exact ⟨List.Perm.refl _, List.Perm.refl _⟩
  | append_singleton acts a ih =>
    rw [run, List.foldl_concat, ← run, lostAtLog_concat, lostAtTelemetry_concat, ← run]
    by_cases hlog : a = .sendLog
    · subst hlog
      have hnone : Pipeline.dropAtTelemetry (run sources acts) .sendLog = [] := rfl
      rw [hnone, List.append_nil]
      exact ih.sendLog
    · by_cases htelemetry : a = .sendTelemetry
      · subst htelemetry
        have hnone : Pipeline.dropAtLog (run sources acts) .sendTelemetry = [] := rfl
        rw [hnone, List.append_nil]
        exact ih.sendTelemetry
      · have hnone : Pipeline.dropAtLog (run sources acts) a = [] ∧
            Pipeline.dropAtTelemetry (run sources acts) a = [] := by
          cases a with
          | sendLog => exact absurd rfl hlog
          | sendTelemetry => exact absurd rfl htelemetry
          | _ => exact ⟨rfl, rfl⟩
        rw [hnone.1, hnone.2, List.append_nil, List.append_nil]
        exact ih.of_effect (step_effect _ a) hlog htelemetry

omit [DecidableEq ι] in
/-- The frames told and the one that is carried are in the order in which they were made. -/
theorem Ordered.carried_sublist (h : Ordered s) :
    (s.flow.telemetry.sent ++ carried s.flow.place).Sublist s.flow.produced := by
  unfold Ordered at h
  split at h
  · rename_i f hplace
    obtain ⟨made, hmade, hagree⟩ := h
    rw [hplace, hmade]
    exact hagree.told_sublist.append (List.Sublist.refl _)
  · rename_i f hplace
    obtain ⟨made, logged, hmade, hagree, -⟩ := h
    rw [hplace, hmade]
    exact hagree.told_sublist.append (List.Sublist.refl _)
  · have hnone : carried s.flow.place = [] := by
      unfold carried
      split <;> simp_all
    rw [hnone, List.append_nil]
    exact h.told_sublist

omit [DecidableEq ι] in
/-- So are the data frames logged and the one that is to be logged. -/
theorem Ordered.unlogged_sublist (h : Ordered s) :
    (s.log.sent ++ dataFrames (unlogged s.flow.place)).Sublist (dataFrames s.flow.produced) := by
  have hdata : dataFrames s.log.sent = s.log.sent := by
    apply List.filter_eq_self.mpr
    intro f hf
    exact decide_eq_true (h.agree.logged_data f hf)
  have hsub : (s.log.sent ++ unlogged s.flow.place).Sublist s.flow.produced := by
    have hagree := h.agree
    unfold Ordered at h
    split at h
    · rename_i f hplace
      obtain ⟨made, hmade, hmades⟩ := h
      rw [hplace, hmade]
      exact hmades.logged_sublist.append (List.Sublist.refl _)
    · rename_i f hplace
      rw [hplace]
      exact (List.append_nil s.log.sent).symm ▸ hagree.logged_sublist
    · have hnone : unlogged s.flow.place = [] := by
        unfold unlogged
        split <;> simp_all
      rw [hnone, List.append_nil]
      exact h.logged_sublist
  have hfilter := hsub.filter (fun f => decide (f.frameType = .data))
  rw [List.filter_append] at hfilter
  exact hdata ▸ hfilter

/-- **Every frame is accounted for.**  Whatever the threads do in whatever order: each frame that
`generateFrame` has made is on the telemetry queue's record, in the hands of `processingd`, or was
lost at a full log queue or at a full telemetry queue, and it is only one of these; each data frame
is on the log queue's record, not yet offered to it, or was lost at a full log queue.  When no frame
was lost, the queues have got all frames in the order in which they were made. -/
theorem frames_accounted (sources : ι → Source) (acts : List (Action ι)) :
    let s := run sources acts
    let atLog := lostAtLog (init sources) acts
    let atTelemetry := lostAtTelemetry (init sources) acts
    s.flow.produced.Perm
        (s.flow.telemetry.sent ++ carried s.flow.place ++ (atLog ++ atTelemetry)) ∧
      (dataFrames s.flow.produced).Perm
        (s.log.sent ++ dataFrames (unlogged s.flow.place) ++ atLog) ∧
      (atLog = [] → s.log.sent ++ dataFrames (unlogged s.flow.place) = dataFrames s.flow.produced) ∧
      (atLog = [] → atTelemetry = [] →
        s.flow.telemetry.sent ++ carried s.flow.place = s.flow.produced) := by
  intro s atLog atTelemetry
  have hacc : Accounted s atLog atTelemetry := accounted_run sources acts
  have hord : Ordered s := ordered_run sources acts
  refine ⟨hacc.told, hacc.logged, ?_, ?_⟩
  -- what the queues have is in order, and with no loss nothing is missing from it
  · intro hlog
    have hlen := hacc.logged.length_eq
    rw [hlog, List.append_nil] at hlen
    exact hord.unlogged_sublist.eq_of_length hlen.symm
  · intro hlog htelemetry
    have hlen := hacc.told.length_eq
    rw [hlog, htelemetry, List.append_nil, List.append_nil] at hlen
    exact hord.carried_sublist.eq_of_length hlen.symm

end Loss

/-! ### Which packets the frames come from -/

/-- The frame was made from the packet, at some time. -/
def Decodes (p : List UInt8) (f : Sensor) : Prop :=
  ∃ ts mono, generateFrame (some ts) (some mono) p Sensor.zero p.length = some f

/-- A packet of which `generateFrame` makes a frame. -/
def accepts (p : List UInt8) : Bool :=
  (generateFrame (some ⟨0, 0⟩) (some ⟨0, 0⟩) p Sensor.zero p.length).isSome

/-- The packet that `processingd` has received and not looked at yet. -/
def undecoded : Place → List (List UInt8)
  | .received p => [p]
  | _ => []

/-- The frames made are those of the acceptable packets received, one for each and in order. -/
def Decoding (s : State ι) : Prop :=
  ∃ ps, s.flow.acquire.received.map Prod.snd = ps ++ undecoded s.flow.place ∧
    List.Forall₂ Decodes (ps.filter accepts) s.flow.produced

/-- The clocks of `processingd` work. -/
def Action.Clocked (a : Action ι) : Prop :=
  ∀ realtime monotonic, a = .generate realtime monotonic →
    realtime.isSome = true ∧ monotonic.isSome = true

/-- Whether a packet is accepted does not depend on the time. -/
theorem accepts_iff {p : List UInt8} (ts mono : Timespec) :
    accepts p = true ↔
      ∃ f, generateFrame (some ts) (some mono) p Sensor.zero p.length = some f := by
  rw [accepts, Option.isSome_iff_exists, generateFrame_isSome_iff, generateFrame_isSome_iff]

/-- A message that `receivePacket` drops would not have been accepted. -/
theorem accepts_of_discarded {message : List UInt8} (h : receivePacket message = none) :
    accepts message = false := by
  by_contra hne
  have hacc := Option.isSome_iff_exists.mp (Bool.eq_true_of_not_eq_false hne)
  obtain ⟨hle, -, payload, hpayload, hsize, hlen⟩ := (generateFrame_isSome_iff _ _ _ _ _).mp hacc
  have hsmall : message.length ≤ packetSize := by
    simp only [packetSize, packetHeaderFieldsSize, packetDataFieldsSize] at hsize ⊢
    omega
  rw [receivePacket, if_neg (not_lt.mpr hle), if_neg (not_lt.mpr hsmall)] at h
  cases h

theorem receivePacket_eq_some {message p : List UInt8} (h : receivePacket message = some p) :
    p = message := by
  unfold receivePacket at h
  split_ifs at h
  exact (Option.some.inj h).symm

theorem Decoding.of_eq (h : Decoding s)
    (hacquire : t.flow.acquire.received = s.flow.acquire.received)
    (hplace : undecoded t.flow.place = undecoded s.flow.place)
    (hmade : t.flow.produced = s.flow.produced) : Decoding t := by
  unfold Decoding
  rw [hacquire, hplace, hmade]
  exact h

theorem Decoding.of_effect [DecidableEq ι] (h : Decoding s) (he : Effect s a t) (ha : a.Clocked) :
    Decoding t := by
  cases he with
  | stay => exact h
  | read i => exact h.of_eq rfl rfl rfl
  | forward i p acquire hpending hput => exact h.of_eq (Channel.received_put hput) rfl rfl
  | discard i message acquire hplace htake hpacket =>
    obtain ⟨ps, hps, hforall⟩ := h
    simp only [hplace, undecoded, List.append_nil] at hps
    refine ⟨ps ++ [message], ?_, ?_⟩
    · simp only [Channel.received_take htake, List.map_append, hps, hplace, undecoded,
        List.append_nil]
      rfl
    · rw [List.filter_append, List.filter_singleton, accepts_of_discarded hpacket]
      simpa using hforall
  | receive i message p acquire hplace htake hpacket =>
    obtain ⟨ps, hps, hforall⟩ := h
    simp only [hplace, undecoded, List.append_nil] at hps
    refine ⟨ps, ?_, hforall⟩
    simp only [Channel.received_take htake, List.map_append, hps, undecoded,
      receivePacket_eq_some hpacket]
    rfl
  | reject realtime monotonic p hplace hframe =>
    obtain ⟨ps, hps, hforall⟩ := h
    obtain ⟨hrt, hmono⟩ := ha realtime monotonic rfl
    obtain ⟨ts, rfl⟩ := Option.isSome_iff_exists.mp hrt
    obtain ⟨mono, rfl⟩ := Option.isSome_iff_exists.mp hmono
    have hacc : accepts p = false := by
      by_contra hne
      obtain ⟨f, hf⟩ := (accepts_iff ts mono).mp (Bool.eq_true_of_not_eq_false hne)
      rw [hframe] at hf
      cases hf
    rw [hplace] at hps
    refine ⟨ps ++ [p], by simpa [undecoded] using hps, ?_⟩
    rw [List.filter_append, List.filter_singleton, hacc]
    simpa using hforall
  | generate realtime monotonic p f hplace hframe =>
    obtain ⟨ps, hps, hforall⟩ := h
    obtain ⟨hrt, hmono⟩ := ha realtime monotonic rfl
    obtain ⟨ts, rfl⟩ := Option.isSome_iff_exists.mp hrt
    obtain ⟨mono, rfl⟩ := Option.isSome_iff_exists.mp hmono
    have hacc : accepts p = true := (accepts_iff ts mono).mpr ⟨f, hframe⟩
    rw [hplace] at hps
    refine ⟨ps ++ [p], by simpa [undecoded] using hps, ?_⟩
    rw [List.filter_append, List.filter_singleton, hacc]
    exact List.rel_append hforall (List.Forall₂.cons ⟨ts, mono, hframe⟩ .nil)
  | dropAtLog f hplace hdata hput => exact h.of_eq rfl (by rw [hplace]; rfl) rfl
  | sendLog f log hplace hdata hput => exact h.of_eq rfl (by rw [hplace]; rfl) rfl
  | passLog f hplace hdata => exact h.of_eq rfl (by rw [hplace]; rfl) rfl
  | dropAtTelemetry f hplace hput => exact h.of_eq rfl (by rw [hplace]; rfl) rfl
  | sendTelemetry f telemetry hplace hput => exact h.of_eq rfl (by rw [hplace]; rfl) rfl
  | logReceive f log htake => exact h.of_eq rfl rfl rfl
  | telemetryReceive f telemetry htake => exact h.of_eq rfl rfl rfl

end Pipeline
end Gateway
