import Gateway.Logging
import Gateway.Pipeline
import Gateway.Telemetry.Views

/-!
# The log and the registry

`processingd`, `loggingd` and `telemetryd` as one system.  The two consumers keep different things
of the frames, `loggingd` a file of records for each sensor and `telemetryd` one entry for each
sensor, and two functions print them.  When nothing is on the way any more they agree on the latest
reading of every sensor.

* `step`: a step of one of the daemons; `telemetryd` and `loggingd` take their frames off the queues
  of the pipeline, and a frame stays in hand between the receipt and its handling;
* `Synced`: `forwardFrame` puts on the log queue what it puts on the telemetry queue, but for the
  heartbeats and for a frame between its two halves;
* `Sound`: what holds in every state of a run;
* `log_telemetry_agree`: the last line of the log and the line of `giveSensor`.
-/

namespace Gateway
namespace Agreement

open CText Logging Pipeline Processing Telemetry

/-! ### What `forwardFrame` puts on the queues -/

section Queues

variable {ι : Type} [DecidableEq ι] {s t : Pipeline.State ι} {a : Pipeline.Action ι}

/-- The data frames of a list. -/
def dataFrames (fs : List Sensor) : List Sensor := fs.filter (·.frameType = .data)

/-- The data frame that is on the log queue already and not yet on the telemetry queue. -/
def halfway : Pipeline.Place → List Sensor
  | .reporting f => dataFrames [f]
  | _ => []

/-- The log queue has got the data frames of the telemetry queue, and the one halfway. -/
def Synced (s : Pipeline.State ι) : Prop :=
  s.log.sent = dataFrames s.flow.telemetry.sent ++ halfway s.flow.place

theorem dataFrames_append (fs gs : List Sensor) :
    dataFrames (fs ++ gs) = dataFrames fs ++ dataFrames gs := List.filter_append _ _

theorem dataFrames_of_data {f : Sensor} (h : f.frameType = .data) : dataFrames [f] = [f] := by
  simp [dataFrames, h]

theorem dataFrames_of_not_data {f : Sensor} (h : f.frameType ≠ .data) : dataFrames [f] = [] := by
  simp [dataFrames, h]

/-- A step keeps the queues together, if a data frame finds room on the telemetry queue. -/
theorem synced_of_effect (he : Effect s a t) (h : Synced s)
    (hroom : a = .sendTelemetry → ∀ f, s.flow.place = .reporting f → f.frameType = .data →
      s.flow.telemetry.HasRoom) : Synced t := by
  cases he with
  | stay => exact h
  | read i => exact h
  | forward i p acquire hpending hput => exact h
  | discard i message acquire hplace htake hpacket => exact h
  | receive i message p acquire hplace htake hpacket =>
    rw [Synced, hplace] at h
    exact h
  | reject realtime monotonic p hplace hframe =>
    rw [Synced, hplace] at h
    exact h
  | generate realtime monotonic p f hplace hframe =>
    rw [Synced, hplace] at h
    exact h
  | dropAtLog f hplace hdata hput =>
    rw [Synced, hplace] at h
    exact h
  | sendLog f log hplace hdata hput =>
    simp only [Synced, hplace, halfway, List.append_nil] at h
    simp only [Synced, halfway, Channel.sent_put hput, dataFrames_of_data hdata, h]
  | passLog f hplace hdata =>
    simp only [Synced, hplace, halfway, List.append_nil] at h
    simp only [Synced, halfway, dataFrames_of_not_data hdata, List.append_nil, h]
  | dropAtTelemetry f hplace hput =>
    -- only a heartbeat is dropped here
    have hf : f.frameType ≠ .data := fun hf =>
      Channel.put_eq_none_iff.mp hput (hroom rfl f hplace hf)
    rw [Synced, hplace, halfway, dataFrames_of_not_data hf] at h
    exact h
  | sendTelemetry f telemetry hplace hput =>
    rw [Synced, hplace, halfway] at h
    simp only [Synced, halfway, Channel.sent_put hput, dataFrames_append, List.append_nil, h]
  | logReceive f log htake =>
    rw [Synced, ← Channel.sent_take htake] at h
    exact h
  | telemetryReceive f telemetry htake =>
    rw [Synced, ← Channel.sent_take htake] at h
    exact h

/-- A step makes no frame but by `generateFrame`, and takes none back. -/
theorem produced_of_effect (h : Effect s a t) :
    ∃ fs, (∀ f ∈ fs, Accepted f) ∧ t.flow.produced = s.flow.produced ++ fs := by
  cases h with
  | generate realtime monotonic p f hplace hframe =>
    refine ⟨[f], ?_, rfl⟩
    intro g hg
    rw [List.mem_singleton.mp hg]
    exact accepted_of_generateFrame hframe
  | _ => exact ⟨[], by simp, (List.append_nil _).symm⟩

/-- The steps that take a frame off the log or the telemetry queue. -/
def consumes : Pipeline.Action ι → Bool
  | .logReceive => true
  | .telemetryReceive => true
  | _ => false

/-- The other steps take nothing off the two queues. -/
theorem received_of_effect (h : Effect s a t) (ha : consumes a = false) :
    t.flow.telemetry.received = s.flow.telemetry.received ∧ t.log.received = s.log.received := by
  cases h with
  | sendLog f log hplace hdata hput => exact ⟨rfl, Channel.received_put hput⟩
  | sendTelemetry f telemetry hplace hput => exact ⟨Channel.received_put hput, rfl⟩
  | logReceive f log htake => cases ha
  | telemetryReceive f telemetry htake => cases ha
  | _ => exact ⟨rfl, rfl⟩

end Queues

/-! ### The system -/

/-- The pipeline with its queues, the files of `loggingd` with the frame that it has in hand, and
the registry of `telemetryd`, which knows where it stands. -/
structure System (ι : Type) where
  gateway : Pipeline.State ι
  logger : Logging.State
  unwritten : Option Sensor
  registry : Telemetry.State

/-- The steps of the daemons: of `acquiringd` and `processingd`, a receipt of `loggingd`, the
writing of the frame in hand, what else happens to `loggingd`, a receipt of `telemetryd`, and what
else its threads do. -/
inductive Action (ι : Type)
  | gateway (a : Pipeline.Action ι)
  | logReceive
  | logWrite (calls : Calls)
  | logger (a : Logging.Action)
  | telemetryReceive
  | telemetry (a : Telemetry.Action)

section Steps

variable {ι : Type} [DecidableEq ι]

/-- `loggingd` receives a frame when it has none in hand. -/
def System.logReceive (s : System ι) : System ι :=
  match s.unwritten, s.gateway.log.take with
  | none, some (f, _) =>
      if s.logger.running then
        { s with gateway := Pipeline.step s.gateway .logReceive, unwritten := some f }
      else s
  | _, _ => s

/-- `loggingd` writes the frame in hand. -/
def System.logWrite (localtime : ℤ → Option Tm) (calls : Calls) (s : System ι) : System ι :=
  match s.unwritten with
  | none => s
  | some f =>
      { s with logger := Logging.step localtime s.logger (.receive f calls), unwritten := none }

/-- `telemetryd` receives a frame where it waits for one. -/
def System.telemetryReceive (fresh : ℕ → Sensor) (s : System ι) : Except ℕ (System ι) :=
  match s.registry.place, s.gateway.flow.telemetry.take with
  | .waiting, some (f, _) => do
      let registry ← Telemetry.step fresh s.registry (.receive (.frame f))
      .ok { s with gateway := Pipeline.step s.gateway .telemetryReceive, registry := registry }
  | _, _ => .ok s

/-- One step.  The queues have no frames but those of the pipeline, and a signal, an error or a new
start finds `loggingd` between two frames. -/
def step (localtime : ℤ → Option Tm) (fresh : ℕ → Sensor) (s : System ι) :
    Action ι → Except ℕ (System ι)
  | .gateway a =>
      .ok (if consumes a then s else { s with gateway := Pipeline.step s.gateway a })
  | .logReceive => .ok s.logReceive
  | .logWrite calls => .ok (s.logWrite localtime calls)
  | .logger (.receive _ _) => .ok s
  | .logger a =>
      .ok (if s.unwritten.isSome then s
        else { s with logger := Logging.step localtime s.logger a })
  | .telemetryReceive => s.telemetryReceive fresh
  | .telemetry (.receive (.frame _)) => .ok s
  | .telemetry a => do
      let registry ← Telemetry.step fresh s.registry a
      .ok { s with registry := registry }

/-- The start: empty queues, any directory, an empty registry. -/
def init (fresh : ℕ → Sensor) (files : Files) (sources : ι → Source) : System ι :=
  ⟨Pipeline.init sources, Logging.init files, none, Telemetry.init fresh⟩

def run (localtime : ℤ → Option Tm) (fresh : ℕ → Sensor) (files : Files) (sources : ι → Source)
    (acts : List (Action ι)) : Except ℕ (System ι) :=
  Run.exec (step localtime fresh) (init fresh files sources) acts

end Steps

/-! ### What holds in every state -/

section Invariant

variable {ι : Type} [DecidableEq ι] {localtime : ℤ → Option Tm} {fresh : ℕ → Sensor}
  {files : Files} {s s' : System ι}

/-- The effects of a step, each with its guard. -/
inductive Stepped (localtime : ℤ → Option Tm) (fresh : ℕ → Sensor) (s : System ι) :
    Action ι → System ι → Prop
  | stay (a : Action ι) : Stepped localtime fresh s a s
  | gateway (a : Pipeline.Action ι) (ha : consumes a = false) :
      Stepped localtime fresh s (.gateway a) { s with gateway := Pipeline.step s.gateway a }
  | logReceive (f : Sensor) (log : FrameQueue) (hnone : s.unwritten = none)
      (htake : s.gateway.log.take = some (f, log)) (hrunning : s.logger.running = true) :
      Stepped localtime fresh s .logReceive
        { s with gateway := { s.gateway with log := log }, unwritten := some f }
  | logWrite (f : Sensor) (calls : Calls) (hsome : s.unwritten = some f) :
      Stepped localtime fresh s (.logWrite calls)
        { s with logger := Logging.step localtime s.logger (.receive f calls), unwritten := none }
  | logger (a : Logging.Action) (running : Bool) (hnone : s.unwritten = none) :
      Stepped localtime fresh s (.logger a)
        { s with logger := { s.logger with running := running } }
  | telemetryReceive (f : Sensor) (telemetry : FrameQueue) (registry : Telemetry.State)
      (hplace : s.registry.place = .waiting)
      (htake : s.gateway.flow.telemetry.take = some (f, telemetry))
      (hm : Moved fresh s.registry (.receive (.frame f)) registry) :
      Stepped localtime fresh s .telemetryReceive
        { s with
          gateway := { s.gateway with flow := { s.gateway.flow with telemetry := telemetry } }
          registry := registry }
  | telemetry (a : Telemetry.Action) (registry : Telemetry.State)
      (hbrought : brought s.registry a = []) (hm : Moved fresh s.registry a registry) :
      Stepped localtime fresh s (.telemetry a) { s with registry := registry }

theorem step_logger (localtime : ℤ → Option Tm) {a : Logging.Action} (ha : a.frame? = none)
    (r : Logging.State) :
    ∃ running, Logging.step localtime r a = { r with running := running } := by
  cases a with
  | receive frame calls => cases ha
  | incomplete => exact ⟨r.running, rfl⟩
  | failed => exact ⟨false, rfl⟩
  | signal => exact ⟨false, rfl⟩
  | restart => exact ⟨true, rfl⟩

theorem logReceive_stepped (s : System ι) : Stepped localtime fresh s .logReceive s.logReceive := by
  unfold System.logReceive
  split
  · rename_i f log hnone htake
    split_ifs with hrunning
    · have hstep : Pipeline.step s.gateway .logReceive = { s.gateway with log := log } := by
        simp only [Pipeline.step, htake]
      rw [hstep]
      exact .logReceive f log hnone htake hrunning
    · exact .stay _
  · exact .stay _

theorem logWrite_stepped (s : System ι) (calls : Calls) :
    Stepped localtime fresh s (.logWrite calls) (s.logWrite localtime calls) := by
  unfold System.logWrite
  split
  · exact .stay _
  · rename_i f hsome
    exact .logWrite f calls hsome

theorem telemetryReceive_stepped (h : Bounds s.registry) :
    ∃ s', s.telemetryReceive fresh = .ok s' ∧ Stepped localtime fresh s .telemetryReceive s' := by
  unfold System.telemetryReceive
  split
  · rename_i f telemetry hplace htake
    obtain ⟨registry, hstep, hm⟩ : ∃ registry,
        Telemetry.step fresh s.registry (.receive (.frame f)) = .ok registry ∧
          Moved fresh s.registry (.receive (.frame f)) registry := h.step_moved _
    have hgateway : Pipeline.step s.gateway .telemetryReceive =
        { s.gateway with flow := { s.gateway.flow with telemetry := telemetry } } := by
      simp only [Pipeline.step, Flow.step, htake]
    rw [hstep, hgateway]
    exact ⟨_, rfl, .telemetryReceive f telemetry registry hplace htake hm⟩
  · exact ⟨s, rfl, .stay _⟩

/-- A step does one of these things and does not fail. -/
theorem step_stepped (h : Bounds s.registry) (a : Action ι) :
    ∃ s', step localtime fresh s a = .ok s' ∧ Stepped localtime fresh s a s' := by
  cases a with
  | gateway a =>
    refine ⟨_, rfl, ?_⟩
    split_ifs with ha
    · exact .stay _
    · exact .gateway a (by simpa using ha)
  | logReceive => exact ⟨_, rfl, logReceive_stepped s⟩
  | logWrite calls => exact ⟨_, rfl, logWrite_stepped s calls⟩
  | logger a =>
    by_cases ha : a.frame? = none
    · obtain ⟨running, hstep⟩ := step_logger localtime ha s.logger
      have heq : step localtime fresh s (.logger a) = .ok (if s.unwritten.isSome then s
          else { s with logger := { s.logger with running := running } }) := by
        rw [← hstep]
        cases a with
        | receive frame calls => cases ha
        | _ => rfl
      refine ⟨_, heq, ?_⟩
      split_ifs with hsome
      · exact .stay _
      · exact .logger a running (by simpa using hsome)
    · cases a with
      | receive frame calls => exact ⟨s, rfl, .stay _⟩
      | _ => exact absurd rfl ha
  | telemetryReceive => exact telemetryReceive_stepped h
  | telemetry a =>
    obtain ⟨registry, hstep, hm⟩ : ∃ registry, Telemetry.step fresh s.registry a = .ok registry ∧
        Moved fresh s.registry a registry := h.step_moved a
    by_cases ha : ∃ f, a = .receive (.frame f)
    · obtain ⟨f, rfl⟩ := ha
      exact ⟨s, rfl, .stay _⟩
    · have heq : step localtime fresh s (.telemetry a) =
          (Telemetry.step fresh s.registry a).bind fun r => .ok { s with registry := r } := by
        cases a with
        | receive m =>
          cases m with
          | frame f => exact absurd ⟨f, rfl⟩ ha
          | _ => rfl
        | _ => rfl
      have hbrought : brought s.registry a = [] := by
        unfold brought
        split
        · rename_i f hplace
          exact absurd ⟨f, rfl⟩ ha
        · rfl
      rw [heq, hstep]
      exact ⟨_, rfl, .telemetry a registry hbrought hm⟩

/-- `telemetryd` has given up only at a sensor that it does not know. -/
def UnknownAtExit (r : Telemetry.State) : Prop :=
  ∀ f, r.place = .exited (.registryFull f) → f.key ∉ sensors (frames r.history)

theorem UnknownAtExit.of_moved {r r' : Telemetry.State} {a : Telemetry.Action}
    (h : UnknownAtExit r) (hrep : Represents fresh r) (hm : Moved fresh r a r') :
    UnknownAtExit r' := by
  cases hm with
  | stay => exact h
  | signal hplace => exact fun f hf => absurd hf (hplace _)
  | sweep t hplace => exact fun f hf => absurd hf (hplace _)
  | full f hplace hnew hlimit =>
    intro g hg
    obtain rfl : f = g := by simpa using hg
    rwa [hrep.map_key_entries] at hnew
  | _ => simp [UnknownAtExit]

/-- The parts of the system that no failure disturbs. -/
structure Sound (fresh : ℕ → Sensor) (s : System ι) : Prop where
  bounds : Bounds s.registry
  represents : Represents fresh s.registry
  unknownAtExit : UnknownAtExit s.registry
  received : s.gateway.flow.telemetry.received = s.registry.handled ++ inHand s.registry
  ordered : Ordered s.gateway
  accepted : ∀ f ∈ s.gateway.flow.produced, Accepted f
  writing : ∀ f, s.unwritten = some f → s.logger.running = true

theorem sound_init (fresh : ℕ → Sensor) (files : Files) (sources : ι → Source) :
    Sound fresh (init fresh files sources) where
  bounds := bounds_init fresh
  represents := represents_init fresh
  unknownAtExit := fun f hf => by cases hf
  received := rfl
  ordered := ordered_run sources []
  accepted := fun f hf => by cases hf
  writing := fun f hf => by cases hf

namespace Sound

/-- A step of the pipeline that takes nothing off the queues. -/
theorem gateway (h : Sound fresh s) {a : Pipeline.Action ι} (ha : consumes a = false) :
    Sound fresh { s with gateway := Pipeline.step s.gateway a } := by
  have he := step_effect s.gateway a
  obtain ⟨fs, hfs, hproduced⟩ := produced_of_effect he
  refine ⟨h.bounds, h.represents, h.unknownAtExit, ?_, he.ordered h.ordered, ?_, h.writing⟩
  · show (Pipeline.step s.gateway a).flow.telemetry.received = _
    rw [(received_of_effect he ha).1, h.received]
  · show ∀ f ∈ (Pipeline.step s.gateway a).flow.produced, Accepted f
    rw [hproduced, List.forall_mem_append]
    exact ⟨h.accepted, hfs⟩

theorem of_stepped (h : Sound fresh s) {a : Action ι} (hs : Stepped localtime fresh s a s') :
    Sound fresh s' := by
  cases hs with
  | stay => exact h
  | gateway a ha => exact h.gateway ha
  | logReceive f log hnone htake hrunning =>
    exact ⟨h.bounds, h.represents, h.unknownAtExit, h.received,
      h.ordered.of_eq rfl rfl rfl (Channel.sent_take htake), h.accepted, fun _ _ => hrunning⟩
  | logWrite f calls hsome =>
    exact ⟨h.bounds, h.represents, h.unknownAtExit, h.received, h.ordered, h.accepted,
      fun g hg => by cases hg⟩
  | logger a running hnone =>
    refine ⟨h.bounds, h.represents, h.unknownAtExit, h.received, h.ordered, h.accepted, ?_⟩
    intro f hf
    rw [hnone] at hf
    cases hf
  | telemetryReceive f telemetry registry hplace htake hm =>
    refine ⟨h.bounds.of_moved hm, h.represents.of_moved h.bounds hm,
      h.unknownAtExit.of_moved h.represents hm, ?_,
      h.ordered.of_eq rfl rfl (Channel.sent_take htake) rfl, h.accepted, h.writing⟩
    have hbrought : brought s.registry (.receive (.frame f)) = [f] := by
      unfold brought
      rw [hplace]
    show telemetry.received = _
    rw [Channel.received_take htake, h.received, hm.handled, hbrought]
  | telemetry a registry hbrought hm =>
    refine ⟨h.bounds.of_moved hm, h.represents.of_moved h.bounds hm,
      h.unknownAtExit.of_moved h.represents hm, ?_, h.ordered, h.accepted, h.writing⟩
    show s.gateway.flow.telemetry.received = _
    rw [h.received, hm.handled, hbrought, List.append_nil]

end Sound

/-- What `loggingd` has written so far, if its calls have succeeded. -/
def Written (localtime : ℤ → Option Tm) (files : Files) (s : System ι) : Prop :=
  ∃ fs, s.gateway.log.received = fs ++ s.unwritten.toList ∧
    Keeps localtime files fs { s.logger with running := true }

omit [DecidableEq ι] in
/-- The frames received from the log queue are frames of `processingd`. -/
theorem Sound.mem_produced (h : Sound fresh s) {f : Sensor} (hf : f ∈ s.gateway.log.received) :
    f ∈ s.gateway.flow.produced := by
  refine h.ordered.agree.logged_sublist.subset ?_
  rw [s.gateway.log.sent_eq]
  exact List.mem_append_left _ hf

theorem Written.of_stepped (h : Written localtime files s) (hsound : Sound fresh s)
    (hstamps : ∀ f ∈ s.gateway.flow.produced, Convertible localtime f.timestamp) {a : Action ι}
    (hcalls : ∀ calls, a = .logWrite calls → calls.Succeed)
    (hs : Stepped localtime fresh s a s') : Written localtime files s' := by
  obtain ⟨fs, hreceived, hkeeps⟩ := h
  cases hs with
  | stay => exact ⟨fs, hreceived, hkeeps⟩
  | gateway a ha =>
    exact ⟨fs, (received_of_effect (step_effect s.gateway a) ha).2.trans hreceived, hkeeps⟩
  | logReceive f log hnone htake hrunning =>
    refine ⟨fs, ?_, hkeeps⟩
    rw [hnone, Option.toList_none, List.append_nil] at hreceived
    show log.received = fs ++ [f]
    rw [Channel.received_take htake, hreceived]
  | logWrite f calls hsome =>
    rw [hsome] at hreceived
    have hmem : f ∈ s.gateway.flow.produced := by
      apply hsound.mem_produced
      rw [hreceived]
      exact List.mem_append_right _ (List.mem_singleton_self f)
    have hrunning : { s.logger with running := true } = s.logger := by
      rw [← hsound.writing f hsome]
    rw [hrunning] at hkeeps
    have hkeeps' := hkeeps.receive (hsound.accepted f hmem) (hstamps f hmem) (hcalls calls rfl)
    refine ⟨fs ++ [f], by rw [hreceived]; simp, ?_⟩
    exact ⟨rfl, hkeeps'.files_eq, hkeeps'.others⟩
  | logger a running hnone => exact ⟨fs, hreceived, hkeeps⟩
  | telemetryReceive f telemetry registry hplace htake hm => exact ⟨fs, hreceived, hkeeps⟩
  | telemetry a registry hbrought hm => exact ⟨fs, hreceived, hkeeps⟩

theorem synced_of_stepped (h : Synced s.gateway) {a : Action ι}
    (hroom : a = .gateway .sendTelemetry → ∀ f, s.gateway.flow.place = .reporting f →
      f.frameType = .data → s.gateway.flow.telemetry.HasRoom)
    (hs : Stepped localtime fresh s a s') : Synced s'.gateway := by
  cases hs with
  | stay => exact h
  | gateway a ha =>
    exact synced_of_effect (step_effect s.gateway a) h fun heq => hroom (by rw [heq])
  | logReceive f log hnone htake hrunning =>
    rw [Synced, ← Channel.sent_take htake] at h
    exact h
  | logWrite f calls hsome => exact h
  | logger a running hnone => exact h
  | telemetryReceive f telemetry registry hplace htake hm =>
    rw [Synced, ← Channel.sent_take htake] at h
    exact h
  | telemetry a registry hbrought hm => exact h

theorem Stepped.produced_subset {a : Action ι} (hs : Stepped localtime fresh s a s') :
    s.gateway.flow.produced ⊆ s'.gateway.flow.produced := by
  cases hs with
  | gateway a ha =>
    obtain ⟨fs, -, hproduced⟩ := produced_of_effect (step_effect s.gateway a)
    show _ ⊆ (Pipeline.step s.gateway a).flow.produced
    rw [hproduced]
    exact List.subset_append_left _ _
  | _ => exact List.Subset.refl _

/-- Along a run `forwardFrame` finds a free slot on the telemetry queue for every data frame. -/
def RoomForData (localtime : ℤ → Option Tm) (fresh : ℕ → Sensor) (files : Files)
    (sources : ι → Source) (acts : List (Action ι)) : Prop :=
  ∀ pre post s f, acts = pre ++ .gateway .sendTelemetry :: post →
    run localtime fresh files sources pre = .ok s → s.gateway.flow.place = .reporting f →
    f.frameType = .data → s.gateway.flow.telemetry.HasRoom

/-- No call of `loggingd` fails along a run. -/
def WritesSucceed (acts : List (Action ι)) : Prop :=
  ∀ calls, Action.logWrite calls ∈ acts → calls.Succeed

/-- It is enough that there is room after every front part of a run. -/
theorem roomForData_of_take {sources : ι → Source} {acts : List (Action ι)}
    (h : ∀ n < acts.length, ((run localtime fresh files sources (acts.take n)).toOption.all
      fun s => s.gateway.flow.telemetry.HasRoom) = true) :
    RoomForData localtime fresh files sources acts := by
  intro pre post s f hsplit hs _ _
  have htake : acts.take pre.length = pre := by rw [hsplit, List.take_left]
  have hroom := h pre.length (by rw [hsplit]; simp)
  rw [htake, hs] at hroom
  exact of_decide_eq_true hroom

/-- No run fails, and the invariants hold after it. -/
theorem sound_run (localtime : ℤ → Option Tm) (fresh : ℕ → Sensor) (files : Files)
    (sources : ι → Source) (acts : List (Action ι)) :
    ∃ s, run localtime fresh files sources acts = .ok s ∧ Sound fresh s ∧
      (RoomForData localtime fresh files sources acts → Synced s.gateway) ∧
      (WritesSucceed acts →
        (∀ f ∈ s.gateway.flow.produced, Convertible localtime f.timestamp) →
        Written localtime files s) := by
  induction acts using List.reverseRecOn with
  | nil =>
    exact ⟨_, rfl, sound_init fresh files sources, fun _ => rfl,
      fun _ _ => ⟨[], rfl, rfl, fun k _ => rfl, fun path _ => rfl⟩⟩
  | append_singleton acts a ih =>
    obtain ⟨s, hrun, hsound, hsynced, hwritten⟩ := ih
    obtain ⟨s', hstep, hs⟩ : ∃ s', step localtime fresh s a = .ok s' ∧
        Stepped localtime fresh s a s' := step_stepped hsound.bounds a
    refine ⟨s', ?_, hsound.of_stepped hs, fun hroom => ?_, fun hcalls hstamps => ?_⟩
    · rw [run, Run.exec_concat hrun, hstep]
    · refine synced_of_stepped (hsynced ?_) ?_ hs
      · intro pre post t f hacts
        exact hroom pre (post ++ [a]) t f (by rw [hacts]; simp)
      · intro ha f hplace hf
        exact hroom acts [] s f (by rw [ha]) hrun hplace hf
    · have hstamps' := fun f hf => hstamps f (hs.produced_subset hf)
      refine (hwritten ?_ hstamps').of_stepped hsound hstamps' ?_ hs
      · exact fun calls hmem => hcalls calls (List.mem_append_left _ hmem)
      · exact fun calls ha => hcalls calls (by simp [ha])

/-! ### The latest reading -/

/-- Nothing is on the way: the queues are empty, neither `loggingd` nor `telemetryd` has a frame in
hand, and `forwardFrame` is not between its two halves. -/
structure Drained (s : System ι) : Prop where
  log : s.gateway.log.contents = []
  telemetry : s.gateway.flow.telemetry.contents = []
  written : s.unwritten = none
  applied : inHand s.registry = []
  forwarded : ∀ f, s.gateway.flow.place ≠ .reporting f

omit [DecidableEq ι] in
theorem halfway_of_forwarded {place : Pipeline.Place} (h : ∀ f, place ≠ .reporting f) :
    halfway place = [] := by
  cases place with
  | reporting f => exact absurd rfl (h f)
  | _ => rfl

omit [DecidableEq ι] in
/-- Then the frames logged are the data frames that `telemetryd` has handled. -/
theorem Drained.logged_eq (hd : Drained s) (hsound : Sound fresh s) (hsynced : Synced s.gateway)
    {fs : List Sensor} (hfs : s.gateway.log.received = fs ++ s.unwritten.toList) :
    fs = dataFrames s.registry.handled := by
  have htold : s.gateway.flow.telemetry.sent = s.registry.handled := by
    rw [← Channel.received_of_empty hd.telemetry, hsound.received, hd.applied, List.append_nil]
  calc fs = s.gateway.log.received := by
          rw [hfs, hd.written, Option.toList_none, List.append_nil]
    _ = s.gateway.log.sent := Channel.received_of_empty hd.log
    _ = dataFrames s.gateway.flow.telemetry.sent := by
          rw [hsynced, halfway_of_forwarded hd.forwarded, List.append_nil]
    _ = dataFrames s.registry.handled := by rw [htold]

omit [DecidableEq ι] in
/-- The frame at which `telemetryd` gave up is of no registered sensor. -/
theorem Sound.filter_handled (h : Sound fresh s) {e : Sensor} (he : e ∈ s.registry.entries) :
    s.registry.handled.filter (·.key = e.key) =
      (frames s.registry.history).filter (·.key = e.key) := by
  have hkey : e.key ∈ sensors (frames s.registry.history) :=
    mem_sensors.mpr (h.represents.exists_frame he)
  by_cases hfull : ∃ f, s.registry.place = .exited (.registryFull f)
  · obtain ⟨f, hf⟩ := hfull
    have hne : f.key ≠ e.key := by
      intro heq
      rw [← heq] at hkey
      exact h.unknownAtExit f hf hkey
    rw [handled_of_full hf, List.filter_append]
    simp [hne]
  · rw [handled_of_place fun f hf => hfull ⟨f, hf⟩]

omit [DecidableEq ι] in
/-- The frames in the registry are frames of `processingd`. -/
theorem Sound.accepted_frames (h : Sound fresh s) :
    ∀ f ∈ frames s.registry.history, Accepted f := by
  intro f hf
  have hreceived : f ∈ s.gateway.flow.telemetry.received := by
    rw [h.received]
    exact List.mem_append_left _ (List.mem_append_left _ hf)
  refine h.accepted f (h.ordered.agree.told_sublist.subset ?_)
  rw [s.gateway.flow.telemetry.sent_eq]
  exact List.mem_append_left _ hreceived

omit [DecidableEq ι] in
/-- The last frame of a registered sensor that was logged is its last data frame in the registry's
history. -/
theorem Drained.last_logged (hd : Drained s) (hsound : Sound fresh s) (hsynced : Synced s.gateway)
    {fs : List Sensor} (hfs : s.gateway.log.received = fs ++ s.unwritten.toList) {e : Sensor}
    (he : e ∈ s.registry.entries)
    (hreached : ∃ f ∈ s.gateway.flow.telemetry.received, f.key = e.key ∧ f.frameType = .data) :
    ∃ g, lastData e.key (frames s.registry.history) = some g ∧
      (fs.filter (·.key = e.key)).getLast? = some g := by
  have hfilter : fs.filter (·.key = e.key) =
      (frames s.registry.history).filter fun f => f.key = e.key ∧ f.frameType = .data := by
    have hcomm : (dataFrames s.registry.handled).filter (·.key = e.key) =
        (s.registry.handled.filter (·.key = e.key)).filter (·.frameType = .data) :=
      List.filter_comm _ _ _
    rw [hd.logged_eq hsound hsynced hfs, hcomm, hsound.filter_handled he, filter_data]
  obtain ⟨f, hf, hkey, hdata⟩ := hreached
  rw [hsound.received, hd.applied, List.append_nil] at hf
  have hmem : f ∈ (frames s.registry.history).filter (·.key = e.key) := by
    rw [← hsound.filter_handled he]
    exact List.mem_filter.mpr ⟨hf, by simpa using hkey⟩
  have hne : (frames s.registry.history).filter
      (fun f => f.key = e.key ∧ f.frameType = .data) ≠ [] := by
    rw [← filter_data]
    exact List.ne_nil_of_mem (List.mem_filter.mpr ⟨hmem, by simpa using hdata⟩)
  have hlast := List.getLast?_eq_some_getLast hne
  exact ⟨_, hlast, by rw [hfilter, hlast]⟩

/-- The last line of a text that ends with a line end. -/
def lastLine (text : List Char) : Option (List Char) :=
  match text.reverse with
  | [] => none
  | c :: before =>
      if c = '\n' then some (before.takeWhile (· ≠ '\n')).reverse else none

/-- Nothing, or lines with their ends. -/
def EndsLine (text : List Char) : Prop := text = [] ∨ text.getLast? = some '\n'

instance : DecidablePred EndsLine := fun _ => inferInstanceAs (Decidable (_ ∨ _))

theorem lastLine_append {before line : List Char} (hbefore : EndsLine before)
    (hline : '\n' ∉ line) : lastLine (before ++ (line ++ ['\n'])) = some line := by
  have hall : ∀ c ∈ line.reverse, decide (c ≠ '\n') = true := by
    intro c hc
    rw [decide_eq_true_eq]
    rintro rfl
    exact hline (List.mem_reverse.mp hc)
  have hstop : (line.reverse ++ before.reverse).takeWhile (· ≠ '\n') = line.reverse := by
    rw [List.takeWhile_append_of_pos hall]
    rcases hbefore with rfl | hlast
    · rw [List.reverse_nil, List.takeWhile_nil, List.append_nil]
    · obtain ⟨before, rfl⟩ := List.getLast?_eq_some_iff.mp hlast
      rw [List.reverse_append, List.reverse_singleton, List.singleton_append,
        List.takeWhile_cons_of_neg (by simp), List.append_nil]
  have hrev : (before ++ (line ++ ['\n'])).reverse =
      '\n' :: (line.reverse ++ before.reverse) := by
    simp
  rw [lastLine, hrev]
  simp only [if_true, hstop, List.reverse_reverse]

theorem endsLine_append {text text' : List Char} (h : EndsLine text) (h' : EndsLine text') :
    EndsLine (text ++ text') := by
  rcases h' with rfl | hlast
  · rwa [List.append_nil]
  · exact Or.inr (by rw [List.getLast?_append, hlast, Option.some_or])

theorem endsLine_flatten {lines : List (List Char)} (h : ∀ line ∈ lines, EndsLine line) :
    EndsLine lines.flatten := by
  induction lines with
  | nil => exact Or.inl rfl
  | cons line lines ih =>
    obtain ⟨hline, hlines⟩ := List.forall_mem_cons.mp h
    exact endsLine_append hline (ih hlines)

theorem endsLine_titleLine (type : SensorType) : EndsLine (titleLine type) := by
  cases type with
  | unnamed value h => exact Or.inl rfl
  | _ => decide

theorem endsLine_recordOf {f : Sensor} (hacc : Accepted f)
    (hstamp : Convertible localtime f.timestamp) :
    EndsLine ((recordOf localtime f).getD []) := by
  rw [recordOf_of_convertible hacc hstamp, Option.getD_some]
  exact Or.inr List.getLast?_concat

/-- The last line of a file is the record of the last frame. -/
theorem lastLine_fileAfter {start : Option (List Char)} (hstart : EndsLine (start.getD []))
    {k : SensorKey} {fs : List Sensor} {f : Sensor}
    (hlast : (fs.filter (·.key = k)).getLast? = some f)
    (hframes : ∀ f ∈ fs, Accepted f ∧ Convertible localtime f.timestamp) :
    lastLine ((fileAfter start (titleLine k.type) (recordsOf localtime k fs)).getD []) =
      some (getTime localtime f ++ " -> ".toList ++ getDataString f) := by
  obtain ⟨before, hbefore⟩ := List.getLast?_eq_some_iff.mp hlast
  have hmem : ∀ g ∈ before ++ [f], Accepted g ∧ Convertible localtime g.timestamp := by
    rw [← hbefore]
    exact fun g hg => hframes g (List.mem_filter.mp hg).1
  obtain ⟨hacc, hstamp⟩ := hmem f (by simp)
  set record := fun g => (recordOf localtime g).getD [] with hrecord
  set head := if start.getD [] = [] then titleLine k.type else start.getD [] with hhead
  have hrecords : recordsOf localtime k fs = before.map record ++ [record f] := by
    rw [recordsOf, hbefore, List.map_append, List.map_singleton]
  have hline : record f = getTime localtime f ++ " -> ".toList ++ getDataString f ++ ['\n'] := by
    rw [hrecord]
    simp only [recordOf_of_convertible hacc hstamp, Option.getD_some]
  have hends : EndsLine (head ++ (before.map record).flatten) := by
    refine endsLine_append ?_ (endsLine_flatten ?_)
    · rw [hhead]
      split_ifs
      · exact endsLine_titleLine k.type
      · exact hstart
    · intro line hmem'
      obtain ⟨g, hg, rfl⟩ := List.mem_map.mp hmem'
      obtain ⟨hgacc, hgstamp⟩ := hmem g (List.mem_append_left _ hg)
      exact endsLine_recordOf hgacc hgstamp
  have hnewline : '\n' ∉ getTime localtime f ++ " -> ".toList ++ getDataString f := by
    refine Printable.notMem ?_ (by decide)
    simp only [printable_append, printable_getTime, printable_getDataString, and_true, true_and]
    decide
  rw [fileAfter, if_neg (by rw [hrecords]; simp), Option.getD_some, ← hhead, hrecords,
    List.flatten_append, List.flatten_singleton, ← List.append_assoc, hline]
  exact lastLine_append hends hnewline

/-- The entry of a sensor prints as the last data frame of the sensor does. -/
theorem printed_eq (localtime : ℤ → Option Tm) {fs : List Sensor} {e g : Sensor}
    (he : HoldsLast fs e) (hg : lastData e.key fs = some g) :
    getTime localtime e = getTime localtime g ∧ getDataString e = getDataString g := by
  obtain ⟨hdata, hstamp⟩ := he.2 g hg
  have hkey : g.key = e.key := by
    have hmem := (List.mem_filter.mp (List.mem_of_getLast? hg)).2
    rw [decide_eq_true_eq] at hmem
    exact hmem.1
  have htype : g.type = e.type := congrArg SensorKey.type hkey
  constructor
  · unfold getTime
    rw [hstamp]
  · unfold getDataString
    rw [hdata, htype]

/-- **The log and the registry agree on the latest reading.**  In every run of the daemons in which
no data frame is dropped at the telemetry queue and no call of `loggingd` fails, at whose end
nothing is on the way, for every registered sensor but that of the latency probe of which a data
frame has reached `telemetryd`: the last line of its file and the line that `giveSensor` prints have
the same time and the same reading. -/
theorem log_telemetry_agree (localtime : ℤ → Option Tm) (fresh : ℕ → Sensor) (files : Files)
    (hfiles : ∀ path, EndsLine (contents files path)) (sources : ι → Source)
    (acts : List (Action ι)) (hroom : RoomForData localtime fresh files sources acts)
    (hcalls : WritesSucceed acts) (s : System ι)
    (hrun : run localtime fresh files sources acts = .ok s)
    (hstamps : ∀ f ∈ s.gateway.flow.produced, Convertible localtime f.timestamp)
    (hdrained : Drained s) (e : Sensor) (he : e ∈ s.registry.entries) (hid : e.id ≠ latencyID)
    (hreached : ∃ f ∈ s.gateway.flow.telemetry.received, f.key = e.key ∧ f.frameType = .data) :
    ∃ T D, lastLine (contents s.logger.files (keyPath e.key)) = some (T ++ " -> ".toList ++ D) ∧
      ∀ sock, giveSensor localtime e sock =
        sock.send (T ++ ": ".toList ++ e.name ++ ": ".toList ++ D ++ ['\n']) := by
  obtain ⟨s', hrun', hsound, hsynced, hwritten⟩ := sound_run localtime fresh files sources acts
  obtain rfl := Except.ok.inj (hrun'.symm.trans hrun)
  obtain ⟨fs, hreceived, hkeeps⟩ := hwritten hcalls hstamps
  obtain ⟨g, hg, hlast⟩ :=
    hdrained.last_logged hsound (hsynced hroom) hreceived he hreached
  obtain ⟨htime, hstring⟩ := printed_eq localtime (hsound.represents.holdsLast he) hg
  have hframes : ∀ f ∈ fs, Accepted f ∧ Convertible localtime f.timestamp := by
    intro f hf
    have hmem : f ∈ s'.gateway.flow.produced := by
      apply hsound.mem_produced
      rw [hreceived]
      exact List.mem_append_left _ hf
    exact ⟨hsound.accepted f hmem, hstamps f hmem⟩
  have hsupported := hsound.represents.supported hsound.accepted_frames he
  have hname := hsound.represents.length_name_lt hsound.accepted_frames e he
  refine ⟨getTime localtime e, getDataString e, ?_, fun sock => ?_⟩
  · have hfile : s'.logger.files (keyPath e.key) = _ := hkeeps.files_eq e.key hsupported
    rw [htime, hstring, contents, hfile]
    exact lastLine_fileAfter (hfiles _) hlast hframes
  · rw [giveSensor_eq (length_sensorText_lt localtime hname), sensorText, if_neg hid, readingText]

/-- A reading and a heartbeat of a torque sensor, with a sweep between them. -/
theorem log_telemetry_agree_torque :
    let localtime : ℤ → Option Tm := fun _ => some ⟨70, 0, 1, 0, 0, 0⟩
    let sources : Unit → Source := fun _ => ⟨⟨List.replicate 18 0, rfl⟩,
      [.data 0xAA [0x4B, 7, 0, 4, 0, 0x5F, 0, 0, 0], .data 0xAA [0x4B, 7, 0, 0, 0]]⟩
    let pass : List (Action Unit) :=
      [.gateway (.read ()), .gateway (.forward ()), .gateway .receive,
        .gateway (.generate (some ⟨0, 0⟩) (some ⟨0, 0⟩)), .gateway .sendLog, .logReceive,
        .logWrite ⟨[], true, []⟩, .gateway .sendTelemetry, .telemetry (.growth true),
        .telemetryReceive, .telemetry .update]
    let acts := pass ++ .telemetry (.sweep ⟨60, 0⟩) :: pass
    let e : Sensor :=
      ⟨⟨0x5F, 0, 0⟩, ⟨0, 0⟩, ⟨0, 0⟩, 7, "TORQS_0X7".toList, .torque, .online, .heartbeat⟩
    ∃ s, run localtime (fun _ => Sensor.zero) (fun _ => none) sources acts = .ok s ∧
      Drained s ∧ s.registry.entries = [e] ∧
      ∃ T D, lastLine (contents s.logger.files "/var/sensorlog/TORQS_0X7.csv".toList) =
          some (T ++ " -> ".toList ++ D) ∧
        ∀ sock, giveSensor localtime e sock =
          sock.send (T ++ ": ".toList ++ "TORQS_0X7".toList ++ ": ".toList ++ D ++ ['\n']) := by
  intro localtime sources pass acts e
  obtain ⟨s, hs, -⟩ := sound_run localtime (fun _ => Sensor.zero) (fun _ => none) sources acts
  have hstate : ((run localtime (fun _ => Sensor.zero) (fun _ => none) sources acts).toOption.all
      fun s => s.registry.entries = [e] ∧ s.gateway.log.contents = [] ∧
        s.gateway.flow.telemetry.contents = [] ∧ s.unwritten = none ∧ inHand s.registry = [] ∧
        s.gateway.flow.place = .receiving ∧
        ∃ f ∈ s.gateway.flow.telemetry.received, f.key = e.key ∧ f.frameType = .data) = true := by
    decide +kernel
  rw [hs] at hstate
  obtain ⟨hentries, hlog, htelemetry, hwritten, happlied, hplace, hreached⟩ :=
    of_decide_eq_true hstate
  have hdrained : Drained s := ⟨hlog, htelemetry, hwritten, happlied, by simp [hplace]⟩
  have hpath : keyPath e.key = "/var/sensorlog/TORQS_0X7.csv".toList := by decide +kernel
  have hrooms : ∀ n < acts.length, ((run localtime (fun _ => Sensor.zero) (fun _ => none) sources
      (acts.take n)).toOption.all fun s => s.gateway.flow.telemetry.HasRoom) = true := by
    decide +kernel
  refine ⟨s, hs, hdrained, hentries, ?_⟩
  rw [← hpath]
  refine log_telemetry_agree localtime (fun _ => Sensor.zero) (fun _ => none)
    (fun _ => Or.inl rfl) sources acts (roomForData_of_take hrooms) ?_ s hs
    (fun f _ => ⟨_, rfl, by decide⟩) hdrained e (by simp [hentries]) (by decide) hreached
  intro calls hcalls
  obtain rfl : calls = ⟨[], true, []⟩ := by simpa [acts, pass] using hcalls
  decide

/-- A title that a full disk has cut off, as an earlier start of `loggingd` can have left it: the
record of the next frame ends the line of the title. -/
theorem last_line_torn :
    let localtime : ℤ → Option Tm := fun _ => some ⟨70, 0, 1, 0, 0, 0⟩
    let files : Files := fun path =>
      if path = "/var/sensorlog/TORQS_0X7.csv".toList then some "<Time".toList else none
    let sources : Unit → Source := fun _ => ⟨⟨List.replicate 18 0, rfl⟩,
      [.data 0xAA [0x4B, 7, 0, 4, 0, 0x5F, 0, 0, 0]]⟩
    let acts : List (Action Unit) :=
      [.gateway (.read ()), .gateway (.forward ()), .gateway .receive,
        .gateway (.generate (some ⟨0, 0⟩) (some ⟨0, 0⟩)), .gateway .sendLog, .logReceive,
        .logWrite ⟨[], true, []⟩, .gateway .sendTelemetry, .telemetry (.growth true),
        .telemetryReceive, .telemetry .update]
    let e : Sensor :=
      ⟨⟨0x5F, 0, 0⟩, ⟨0, 0⟩, ⟨0, 0⟩, 7, "TORQS_0X7".toList, .torque, .online, .data⟩
    ∃ s, run localtime (fun _ => Sensor.zero) files sources acts = .ok s ∧
      RoomForData localtime (fun _ => Sensor.zero) files sources acts ∧ WritesSucceed acts ∧
      (∀ f ∈ s.gateway.flow.produced, Convertible localtime f.timestamp) ∧ Drained s ∧
      e ∈ s.registry.entries ∧ e.id ≠ latencyID ∧
      (∃ f ∈ s.gateway.flow.telemetry.received, f.key = e.key ∧ f.frameType = .data) ∧
      lastLine (contents s.logger.files (keyPath e.key)) =
        some "<Time1970-01-01 00:00:00 -> 9.500000Nm".toList ∧
      ¬ ∃ T D, lastLine (contents s.logger.files (keyPath e.key)) =
          some (T ++ " -> ".toList ++ D) ∧
        ∀ sock, giveSensor localtime e sock =
          sock.send (T ++ ": ".toList ++ e.name ++ ": ".toList ++ D ++ ['\n']) := by
  intro localtime files sources acts e
  obtain ⟨s, hs, -⟩ := sound_run localtime (fun _ => Sensor.zero) files sources acts
  have hstate : ((run localtime (fun _ => Sensor.zero) files sources acts).toOption.all
      fun s => s.registry.entries = [e] ∧ s.gateway.log.contents = [] ∧
        s.gateway.flow.telemetry.contents = [] ∧ s.unwritten = none ∧ inHand s.registry = [] ∧
        s.gateway.flow.place = .receiving ∧
        (∃ f ∈ s.gateway.flow.telemetry.received, f.key = e.key ∧ f.frameType = .data) ∧
        lastLine (contents s.logger.files (keyPath e.key)) =
          some "<Time1970-01-01 00:00:00 -> 9.500000Nm".toList) = true := by
    decide +kernel
  have hrooms : ∀ n < acts.length, ((run localtime (fun _ => Sensor.zero) files sources
      (acts.take n)).toOption.all fun s => s.gateway.flow.telemetry.HasRoom) = true := by
    decide +kernel
  have hgiven : (giveSensor localtime e ⟨[], []⟩).2.sent =
      "1970-01-01 00:00:00: TORQS_0X7: 9.500000Nm\n".toList := by
    decide +kernel
  rw [hs] at hstate
  obtain ⟨hentries, hlog, htelemetry, hwritten, happlied, hplace, hreached, hlast⟩ :=
    of_decide_eq_true hstate
  refine ⟨s, hs, roomForData_of_take hrooms, ?_, fun f _ => ⟨_, rfl, by decide⟩,
    ⟨hlog, htelemetry, hwritten, happlied, by simp [hplace]⟩, by simp [hentries], by decide,
    hreached, hlast, ?_⟩
  · intro calls hcalls
    obtain rfl : calls = ⟨[], true, []⟩ := by simpa [acts] using hcalls
    decide
  · rintro ⟨T, D, hline, hsent⟩
    rw [hlast] at hline
    rw [hsent] at hgiven
    -- the two lines differ in their first character, which is in `T`
    have hline := congrArg (List.head? ·) (Option.some.inj hline)
    have hgiven := congrArg (List.head? ·) hgiven
    cases T with
    | nil =>
      have hcolon : some ':' = some '1' := hgiven
      exact absurd hcolon (by decide)
    | cons c T =>
      have hlogged : some '<' = some c := hline
      have hshown : some c = some '1' := hgiven
      exact absurd (hlogged.trans hshown) (by decide)

end Invariant

end Agreement
end Gateway
