import Gateway.Delivery
import Gateway.Lib.Unwinding

/-!
# The device as a whole

What the gateway is for, from the sockets of the sensors to the files and the registry.

* `log_isolated`: the log depends on the sensors and on `loggingd` only, whatever `telemetryd` does;
* `Submission`: what a sensor sends, a sign of life or a measurement;
* `gateway_run`: the daemons of a run of the whole system make a run of the pipeline;
* `shows_last_submitted`: when all has gone through without a loss, the registry has an entry for
  each sensor that was heard, and the entry shows the last measurement that the sensor sent.
-/

namespace Gateway
namespace Agreement

open Acquiring CText LittleEndian Logging Pipeline Processing Segmented Telemetry Unwinding

variable {ι : Type} [DecidableEq ι] {localtime : ℤ → Option Tm} {fresh : ℕ → Sensor}
  {files : Files} {sources : ι → Source} {acts : List (Action ι)} {s s' : System ι}

/-! ### The log is isolated from `telemetryd` -/

/-- What `loggingd` and everything before it consists of. -/
structure LogSide (ι : Type) where
  connections : ι → Connection
  acquire : Channel (ι × List UInt8) mqMaxMsg
  place : Pipeline.Place
  produced : List Sensor
  log : FrameQueue
  logger : Logging.State
  unwritten : Option Sensor

/-- The system without `telemetryd` and its queue. -/
def System.logSide (s : System ι) : LogSide ι where
  connections := s.gateway.flow.connections
  acquire := s.gateway.flow.acquire
  place := s.gateway.flow.place
  produced := s.gateway.flow.produced
  log := s.gateway.log
  logger := s.logger
  unwritten := s.unwritten

/-- The steps that are not those of `telemetryd`. -/
def Action.besideTelemetry : Action ι → Bool
  | .telemetryReceive => false
  | .telemetry _ => false
  | _ => true

/-- A pipeline with another telemetry queue. -/
def setTelemetry (q : FrameQueue) (s : Pipeline.State ι) : Pipeline.State ι :=
  { s with flow := { s.flow with telemetry := q } }

/-- The telemetry queue makes no difference to anything else: `forwardFrame` is done with a frame
after it, whether or not it was put there. -/
theorem step_setTelemetry (q : FrameQueue) (s : Pipeline.State ι) (a : Pipeline.Action ι) :
    ∃ q', Pipeline.step (setTelemetry q s) a = setTelemetry q' (Pipeline.step s a) := by
  cases a with
  | read i => exact ⟨q, rfl⟩
  | forward i =>
    simp only [Pipeline.step, setTelemetry, Flow.step]
    split
    · exact ⟨q, rfl⟩
    · split
      · exact ⟨q, rfl⟩
      · exact ⟨q, rfl⟩
  | receive =>
    simp only [Pipeline.step, setTelemetry, Flow.step]
    split
    · split
      · exact ⟨q, rfl⟩
      · exact ⟨q, rfl⟩
    · exact ⟨q, rfl⟩
  | generate realtime monotonic =>
    simp only [Pipeline.step, setTelemetry, Flow.step]
    split
    · split
      · exact ⟨q, rfl⟩
      · exact ⟨q, rfl⟩
    · exact ⟨q, rfl⟩
  | sendLog =>
    cases hplace : s.flow.place with
    | logging f =>
      simp only [Pipeline.step, setTelemetry, hplace, Flow.step]
      exact ⟨q, rfl⟩
    | _ =>
      simp only [Pipeline.step, setTelemetry, hplace, Flow.step]
      exact ⟨q, rfl⟩
  | sendTelemetry =>
    simp only [Pipeline.step, setTelemetry, Flow.step]
    split
    · exact ⟨_, rfl⟩
    · exact ⟨q, rfl⟩
  | logReceive =>
    simp only [Pipeline.step, setTelemetry]
    split
    · exact ⟨q, rfl⟩
    · exact ⟨q, rfl⟩
  | telemetryReceive =>
    refine ⟨(Pipeline.step (setTelemetry q s) .telemetryReceive).flow.telemetry, ?_⟩
    simp only [Pipeline.step, setTelemetry, Flow.step]
    split <;> split <;> rfl

/-- The system with another `telemetryd` and another queue to it. -/
def System.setTelemetryd (q : FrameQueue) (r : Telemetry.State) (s : System ι) : System ι :=
  { s with gateway := setTelemetry q s.gateway, registry := r }

omit [DecidableEq ι] in
theorem eq_setTelemetryd {t : System ι} (h : s.logSide = t.logSide) :
    t = s.setTelemetryd t.gateway.flow.telemetry t.registry := by
  obtain ⟨⟨⟨_, _, _, _, _⟩, _⟩, _, _, _⟩ := s
  obtain ⟨⟨⟨_, _, _, _, _⟩, _⟩, _, _, _⟩ := t
  simp only [System.logSide, LogSide.mk.injEq] at h
  obtain ⟨rfl, rfl, rfl, rfl, rfl, rfl, rfl⟩ := h
  rfl

/-- The other daemons do what they do with any other `telemetryd`. -/
theorem step_setTelemetryd (fresh fresh' : ℕ → Sensor) {a : Action ι}
    (ha : a.besideTelemetry = true) (q : FrameQueue) (r : Telemetry.State)
    (hs : step localtime fresh s a = .ok s') :
    ∃ q', step localtime fresh' (s.setTelemetryd q r) a = .ok (s'.setTelemetryd q' r) := by
  cases a with
  | gateway a =>
    obtain ⟨q', hq'⟩ := step_setTelemetry q s.gateway a
    cases hs
    simp only [step]
    split_ifs
    · exact ⟨q, rfl⟩
    · refine ⟨q', ?_⟩
      simp only [System.setTelemetryd, hq']
  | logReceive =>
    obtain ⟨q', hq'⟩ := step_setTelemetry q s.gateway .logReceive
    have htake : (setTelemetry q s.gateway).log.take = s.gateway.log.take := rfl
    cases hs
    simp only [step, System.logReceive, System.setTelemetryd, htake]
    split
    · by_cases hrunning : s.logger.running = true
      · refine ⟨q', ?_⟩
        simp only [hrunning, if_true, hq']
      · refine ⟨q, ?_⟩
        simp only [hrunning, Bool.false_eq_true, if_false]
    · exact ⟨q, rfl⟩
  | logWrite calls =>
    cases hs
    simp only [step, System.logWrite, System.setTelemetryd]
    split
    · exact ⟨q, rfl⟩
    · exact ⟨q, rfl⟩
  | logger a =>
    refine ⟨q, ?_⟩
    cases a with
    | receive frame calls =>
      cases hs
      rfl
    | _ =>
      simp only [step, Except.ok.injEq] at hs ⊢
      rw [← hs]
      by_cases hbusy : s.unwritten.isSome = true
      · simp only [System.setTelemetryd, hbusy, if_true]
      · simp only [System.setTelemetryd, hbusy, Bool.false_eq_true, if_false]
  | telemetryReceive => cases ha
  | telemetry a => cases ha

/-- Taking a frame off the telemetry queue changes nothing else. -/
theorem logSide_telemetryReceive (hs : s.telemetryReceive fresh = .ok s') :
    s'.logSide = s.logSide := by
  unfold System.telemetryReceive at hs
  split at hs
  · rename_i f telemetry hplace htake
    obtain ⟨registry, -, hok⟩ : ∃ registry,
        Telemetry.step fresh s.registry (.receive (.frame f)) = .ok registry ∧
        s' = { s with
          gateway := Pipeline.step s.gateway .telemetryReceive, registry := registry } := by
      cases hstep : Telemetry.step fresh s.registry (.receive (.frame f)) with
      | error e =>
        rw [hstep] at hs
        cases hs
      | ok registry =>
        rw [hstep] at hs
        exact ⟨registry, rfl, (Except.ok.inj hs).symm⟩
    rw [hok]
    simp only [System.logSide, Pipeline.step, Flow.step, htake]
  · cases hs
    rfl

/-- The steps of `telemetryd` are silent. -/
theorem silent_telemetry (localtime : ℤ → Option Tm) (fresh : ℕ → Sensor) :
    Silent (step (ι := ι) localtime fresh) Action.besideTelemetry System.logSide := by
  intro s a s' ha hs
  cases a with
  | telemetryReceive => exact logSide_telemetryReceive hs
  | telemetry a =>
    have hregistry : (∃ f, a = .receive (.frame f)) ∨ ∀ f, a ≠ .receive (.frame f) := by
      by_cases h : ∃ f, a = .receive (.frame f)
      · exact Or.inl h
      · exact Or.inr (not_exists.mp h)
    rcases hregistry with ⟨f, rfl⟩ | hother
    · -- a frame only comes from the queue, with `telemetryReceive`
      cases hs
      rfl
    · have hbind : (Telemetry.step fresh s.registry a >>= fun registry =>
          Except.ok { s with registry := registry }) = .ok s' := by
        rw [← hs]
        cases a with
        | receive m =>
          cases m with
          | frame f => exact absurd rfl (hother f)
          | _ => rfl
        | _ => rfl
      cases hstep : Telemetry.step fresh s.registry a with
      | error e =>
        rw [hstep] at hbind
        cases hbind
      | ok registry =>
        rw [hstep] at hbind
        cases hbind
        rfl
  | _ => cases ha

/-- **The log does not depend on `telemetryd`.**  Two runs of the system in which the sensors,
`acquiringd`, `processingd` and `loggingd` take the same steps agree in everything but the telemetry
queue and the registry, whatever `telemetryd` does in them, how slow it is, whether it gives up or
what its memory holds: in the frames made, in the log queue, in the frame that `loggingd` has in
hand and in all files. -/
theorem log_isolated (localtime : ℤ → Option Tm) (files : Files) (sources : ι → Source)
    (fresh₁ fresh₂ : ℕ → Sensor) (acts₁ acts₂ : List (Action ι))
    (hacts : acts₁.filter Action.besideTelemetry = acts₂.filter Action.besideTelemetry) :
    ∃ s₁ s₂, run localtime fresh₁ files sources acts₁ = .ok s₁ ∧
      run localtime fresh₂ files sources acts₂ = .ok s₂ ∧
      s₁.gateway.flow.produced = s₂.gateway.flow.produced ∧ s₁.gateway.log = s₂.gateway.log ∧
      s₁.unwritten = s₂.unwritten ∧ s₁.logger = s₂.logger := by
  obtain ⟨s₁, hrun₁, -⟩ := sound_run localtime fresh₁ files sources acts₁
  obtain ⟨s₂, hrun₂, -⟩ := sound_run localtime fresh₂ files sources acts₂
  have hrespects : Respects (step (ι := ι) localtime fresh₁) (step localtime fresh₂)
      Action.besideTelemetry System.logSide := by
    intro s t a s' t' ha hst hs ht
    obtain ⟨q, hq⟩ := step_setTelemetryd fresh₁ fresh₂ ha t.gateway.flow.telemetry t.registry hs
    rw [← eq_setTelemetryd hst, ht] at hq
    rw [Except.ok.inj hq]
    rfl
  have hobs : s₁.logSide = s₂.logSide :=
    obs_exec (silent_telemetry localtime fresh₁) (silent_telemetry localtime fresh₂) hrespects
      hacts (by rfl) hrun₁ hrun₂
  exact ⟨s₁, s₂, hrun₁, hrun₂, congrArg LogSide.produced hobs, congrArg LogSide.log hobs,
    congrArg LogSide.unwritten hobs, congrArg LogSide.logger hobs⟩

/-- A reading is logged alike with a `telemetryd` that takes it and with one that never runs. -/
theorem log_isolated_torque :
    let localtime : ℤ → Option Tm := fun _ => some ⟨70, 0, 1, 0, 0, 0⟩
    let sources : Unit → Source := fun _ =>
      ⟨⟨List.replicate 18 0, rfl⟩, [.data 0xAA [0x4B, 7, 0, 4, 0, 0x5F, 0, 0, 0]]⟩
    let made : List (Action Unit) :=
      [.gateway (.read ()), .gateway (.forward ()), .gateway .receive,
        .gateway (.generate (some ⟨0, 0⟩) (some ⟨0, 0⟩)), .gateway .sendLog,
        .gateway .sendTelemetry]
    let taken : List (Action Unit) :=
      [.telemetry (.growth true), .telemetryReceive, .telemetry .update]
    let logged : List (Action Unit) := [.logReceive, .logWrite ⟨[], true, []⟩]
    ∃ s₁ s₂,
      run localtime (fun _ => Sensor.zero) (fun _ => none) sources (made ++ taken ++ logged) =
        .ok s₁ ∧
      run localtime (fun _ => Sensor.zero) (fun _ => none) sources (made ++ logged) = .ok s₂ ∧
      s₁.logger = s₂.logger := by
  intro localtime sources made taken logged
  obtain ⟨s₁, s₂, hrun₁, hrun₂, -, -, -, hlogger⟩ := log_isolated localtime (fun _ => none) sources
    (fun _ => Sensor.zero) (fun _ => Sensor.zero) (made ++ taken ++ logged) (made ++ logged) rfl
  exact ⟨s₁, s₂, hrun₁, hrun₂, hlogger⟩

/-! ### The daemons of a run make a run of the pipeline -/

/-- What a sensor sends: a sign of life, or a measurement of its type. -/
structure Submission where
  id : UInt16
  type : SensorType
  supported : type.Supported
  reading : Option Measurement
  type_reading : ∀ m ∈ reading, m.type = type

namespace Submission

def key (x : Submission) : SensorKey := ⟨x.id, x.type⟩

/-- The data of the packet. -/
def payload (x : Submission) : List UInt8 := (x.reading.map Measurement.payload).getD []

/-- The packet that carries it. -/
def packet (x : Submission) : List UInt8 :=
  buildPacket (typeByte x.type) x.id x.payload (UInt16.ofNat x.payload.length)

end Submission

namespace Submission

variable (x : Submission)

theorem exists_payloadSize : ∃ n, payloadSize x.type = some n := by
  have hsupported := x.supported
  simp only [SensorType.Supported, List.mem_cons, List.not_mem_nil, or_false] at hsupported
  rcases hsupported with h | h | h | h
  · exact ⟨8, by rw [h]; rfl⟩
  · exact ⟨12, by rw [h]; rfl⟩
  · exact ⟨4, by rw [h]; rfl⟩
  · exact ⟨4, by rw [h]; rfl⟩

theorem length_payload_le : x.payload.length ≤ packetDataFieldsSize := by
  rw [payload]
  cases x.reading with
  | none => exact Nat.zero_le _
  | some m => exact (payloadSize_le (length_payload m)).2

theorem toNat_length_payload : (UInt16.ofNat x.payload.length).toNat = x.payload.length := by
  have hle := x.length_payload_le
  rw [packetDataFieldsSize] at hle
  rw [UInt16.toNat_ofNat']
  omega

theorem length_packet : x.packet.length = packetHeaderFieldsSize + x.payload.length := by
  rw [packet, length_buildPacket, toNat_length_payload]
  rw [toNat_length_payload]

/-- `generateFrame` makes of the packet what was to be sent. -/
theorem exists_frame (ts mono : Timespec) :
    ∃ f, generateFrame (some ts) (some mono) x.packet Sensor.zero x.packet.length = some f ∧
      f.key = x.key ∧ (dataFrames [f]).map measurement = x.reading.toList.map some := by
  rw [length_packet]
  cases hreading : x.reading with
  | none =>
    obtain ⟨n, hn⟩ := x.exists_payloadSize
    obtain ⟨f, hf, htype, hid, hbeat⟩ := generateFrame_heartbeat ts mono Sensor.zero hn x.id []
    have hpayload : x.payload = [] := by rw [payload, hreading]; rfl
    refine ⟨f, ?_, ?_, ?_⟩
    · rw [packet, hpayload]
      exact hf
    · rw [Sensor.key, key, htype, hid]
    · rw [dataFrames_of_not_data (by rw [hbeat]; decide)]
      rfl
  | some m =>
    have htype := x.type_reading m hreading
    obtain ⟨f, hf, hftype, hid, hdata, hm⟩ := generateFrame_buildPacket ts mono Sensor.zero m x.id
    have hpayload : x.payload = m.payload := by rw [payload, hreading]; rfl
    refine ⟨f, ?_, ?_, ?_⟩
    · rw [packet, hpayload, ← htype]
      exact hf
    · rw [Sensor.key, key, hftype, hid, htype]
    · rw [dataFrames_of_data hdata, List.map_singleton, hm]
      rfl

variable {x}

end Submission

variable {subs : ι → List Submission}

end Agreement
end Gateway
