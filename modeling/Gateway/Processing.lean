import Gateway.SenseUtils
import Gateway.Packet
import Gateway.Lib.Channel

/-!
# `processing_d.c`: from packets to frames

`generateFrame` checks a packet taken off the acquisition queue and turns it into a frame.  The two
clocks it reads are arguments, with `none` for a failed `clock_gettime`.

`Measurement` says what a payload of each type means, independently of the union that carries it;
`decode_encode` states that decoding and `buildPacket` are inverse to each other and which packets
are accepted.
-/

namespace Gateway
namespace Processing

open LittleEndian

/-- `generateFrame`: fill `frame` from the first `size` bytes of `buffer`, or `none` for `-1`. -/
def generateFrame (realtime monotonic : Option Timespec) (buffer : List UInt8) (frame : Sensor)
    (size : ℕ) : Option Sensor :=
  if size < packetHeaderFieldsSize then none
  else if buffer.getD 0 0 ≠ syncByte then none
  else
    let type := findSensorType (buffer.getD 1 0)
    if type = .unsupported then none
    else
      let id := word16 (buffer.getD 2 0) (buffer.getD 3 0)
      let len := word16 (buffer.getD 4 0) (buffer.getD 5 0)
      if len.toNat > packetDataFieldsSize then none
      else if len.toNat + packetHeaderFieldsSize ≠ size then none
      else
        let frame := { frame with type := type, id := id, name := nameSensor id type }
        match realtime, monotonic with
        | some timestamp, some lastSeenTime =>
            let frame := { frame with
              timestamp := timestamp, lastSeenTime := lastSeenTime, state := .frameDefault }
            if len = 0 then some { frame with frameType := .heartbeat }
            else
              (recordSensorData frame.data (buffer.drop packetHeaderFieldsSize) len type).map
                fun data => { frame with frameType := .data, data := data }
        | _, _ => none

/-! ### Queues -/

/-- `mq_maxmsg` of the three queues. -/
def mqMaxMsg : ℕ := 10

/-- A queue of frames. -/
abbrev FrameQueue := Channel Sensor mqMaxMsg

/-- `receivePacket`, on a message that `mq_receive` has brought: `none` for `-1`. -/
def receivePacket (message : List UInt8) : Option (List UInt8) :=
  if message.length < packetHeaderFieldsSize then none
  else if message.length > packetSize then none
  else some message

/-- The first half of `forwardFrame`, which concerns the log queue: whether the function goes on,
and the queue. -/
def forwardLog (frame : Sensor) (log : FrameQueue) : Bool × FrameQueue :=
  if frame.frameType = .data then
    match log.put frame with
    | none => (false, log)
    | some log => (true, log)
  else (true, log)

/-- The second half of `forwardFrame`: whether the frame was sent, and the telemetry queue. -/
def forwardTelemetry (frame : Sensor) (telemetry : FrameQueue) : Bool × FrameQueue :=
  match telemetry.put frame with
  | none => (false, telemetry)
  | some telemetry => (true, telemetry)

/-! ### Measurements and their payloads -/

/-- What a sensor reports, by type. -/
inductive Measurement
  | powCurrVolt (power current voltage : Int32)
  | tempPress (temperature : Int32) (pressure : UInt32)
  | torque (torque : Int32)
  | proximity (proximity : UInt32)
  deriving DecidableEq

namespace Measurement

def type : Measurement → SensorType
  | .powCurrVolt .. => .powCurrVolt
  | .tempPress .. => .tempPress
  | .torque .. => .torque
  | .proximity .. => .proximity

/-- The payload that carries a measurement: its fields as little-endian words. -/
def payload : Measurement → List UInt8
  | .powCurrVolt p c v =>
      bytes 4 p.toUInt32.toNat ++ bytes 4 c.toUInt32.toNat ++ bytes 4 v.toUInt32.toNat
  | .tempPress t p => bytes 4 t.toUInt32.toNat ++ bytes 4 p.toNat
  | .torque t => bytes 4 t.toUInt32.toNat
  | .proximity p => bytes 4 p.toNat

end Measurement

/-- The payload size of a supported type. -/
def payloadSize : SensorType → Option ℕ
  | .powCurrVolt => some 12
  | .tempPress => some 8
  | .torque => some 4
  | .proximity => some 4
  | _ => none

/-- The type byte of a packet for a sensor type. -/
def typeByte (type : SensorType) : UInt8 := type.value.toUInt8

/-- The fields of a frame that its type makes meaningful. -/
def measurement (frame : Sensor) : Option Measurement :=
  match frame.type with
  | .powCurrVolt => some (.powCurrVolt frame.data.power frame.data.current frame.data.voltage)
  | .tempPress => some (.tempPress frame.data.temperature frame.data.pressure)
  | .torque => some (.torque frame.data.torque)
  | .proximity => some (.proximity frame.data.proximity)
  | _ => none

/-- The packet payload of a frame: nothing for a heartbeat. -/
def framePayload (frame : Sensor) : List UInt8 :=
  if frame.frameType = .heartbeat then []
  else ((measurement frame).map Measurement.payload).getD []

theorem length_payload (m : Measurement) : payloadSize m.type = some m.payload.length := by
  cases m <;> simp [Measurement.type, Measurement.payload, payloadSize]

theorem payloadSize_le {type : SensorType} {n : ℕ} (h : payloadSize type = some n) :
    0 < n ∧ n ≤ packetDataFieldsSize := by
  cases type <;> cases h <;> decide

/-! ### Decoding a payload -/

theorem take_four {raw : List UInt8} {i : ℕ} (h : i + 4 ≤ raw.length) :
    (raw.drop i).take 4 =
      [raw.getD i 0, raw.getD (i + 1) 0, raw.getD (i + 2) 0, raw.getD (i + 3) 0] := by
  have hget : ∀ j < raw.length, raw.getD j 0 :: raw.drop (j + 1) = raw.drop j := by
    intro j hj
    rw [List.drop_eq_getElem_cons hj, List.getD_eq_getElem?_getD, List.getElem?_eq_getElem hj]
    rfl
  rw [← hget i (by omega), ← hget (i + 1) (by omega), ← hget (i + 2) (by omega),
    ← hget (i + 3) (by omega)]
  rfl

theorem rawWord_toNat {raw : List UInt8} {i : ℕ} (h : i + 4 ≤ raw.length) :
    (rawWord raw i).toNat = value ((raw.drop i).take 4) := by
  rw [rawWord, word32_toNat, take_four h]

theorem bytes_rawWord {raw : List UInt8} {i : ℕ} (h : i + 4 ≤ raw.length) :
    bytes 4 (rawWord raw i).toNat = (raw.drop i).take 4 := by
  rw [rawWord, bytes_word32, take_four h]

/-- The word that was written at an offset is read there. -/
theorem rawWord_of_append (pre post : List UInt8) (w : UInt32) :
    rawWord (pre ++ (bytes 4 w.toNat ++ post)) pre.length = w := by
  apply UInt32.toNat_inj.mp
  rw [rawWord_toNat (by simp), List.drop_left, List.take_left' (length_bytes 4 _)]
  exact value_bytes_of_lt w.toNat_lt

/-- What `recordSensorData` can do. -/
theorem recordSensorData_cases {target d : SensorData} {raw : List UInt8} {len : UInt16}
    {type : SensorType} (h : recordSensorData target raw len type = some d) :
    (type = .powCurrVolt ∧ len = 12 ∧ d = ⟨rawWord raw 0, rawWord raw 4, rawWord raw 8⟩) ∨
      (type = .tempPress ∧ len = 8 ∧ d = ⟨rawWord raw 0, rawWord raw 4, target.word₂⟩) ∨
      (type = .torque ∧ len = 4 ∧ d = ⟨rawWord raw 0, target.word₁, target.word₂⟩) ∨
      (type = .proximity ∧ len = 4 ∧ d = ⟨rawWord raw 0, target.word₁, target.word₂⟩) := by
  unfold recordSensorData at h
  cases type <;>
    simp only [Option.ite_none_left_eq_some, not_not, Option.some.injEq, reduceCtorEq] at h
  · exact Or.inr (Or.inl ⟨rfl, h.1, h.2.symm⟩)
  · exact Or.inl ⟨rfl, h.1, h.2.symm⟩
  · exact Or.inr (Or.inr (Or.inl ⟨rfl, h.1, h.2.symm⟩))
  · exact Or.inr (Or.inr (Or.inr ⟨rfl, h.1, h.2.symm⟩))

/-- Which payloads `recordSensorData` takes. -/
theorem recordSensorData_isSome (target : SensorData) (raw : List UInt8) (len : UInt16)
    (type : SensorType) :
    (∃ d, recordSensorData target raw len type = some d) ↔ payloadSize type = some len.toNat := by
  constructor
  · rintro ⟨d, h⟩
    rcases recordSensorData_cases h with
      ⟨rfl, rfl, -⟩ | ⟨rfl, rfl, -⟩ | ⟨rfl, rfl, -⟩ | ⟨rfl, rfl, -⟩ <;> rfl
  · intro h
    have hlen : ∀ k : UInt16, k.toNat = len.toNat → k = len := fun k => UInt16.toNat_inj.mp
    cases type <;> simp only [payloadSize, Option.some.injEq, reduceCtorEq] at h
    · obtain rfl := hlen 8 h; exact ⟨_, rfl⟩
    · obtain rfl := hlen 12 h; exact ⟨_, rfl⟩
    · obtain rfl := hlen 4 h; exact ⟨_, rfl⟩
    · obtain rfl := hlen 4 h; exact ⟨_, rfl⟩

/-- The payload of a decoded measurement is the payload it was decoded from. -/
theorem payload_of_recordSensorData {target : SensorData} {raw : List UInt8} {len : UInt16}
    {frame : Sensor} (h : recordSensorData target raw len frame.type = some frame.data)
    (hlen : len.toNat ≤ raw.length) :
    (measurement frame).map Measurement.payload = some (raw.take len.toNat) := by
  have h8 : raw.take 8 = raw.take 4 ++ (raw.drop 4).take 4 := List.take_add (i := 4) (j := 4)
  have h12 : raw.take 12 = raw.take 8 ++ (raw.drop 8).take 4 := List.take_add (i := 8) (j := 4)
  rcases recordSensorData_cases h with ⟨ht, rfl, hd⟩ | ⟨ht, rfl, hd⟩ | ⟨ht, rfl, hd⟩ | ⟨ht, rfl, hd⟩
  · have hl : 12 ≤ raw.length := hlen
    simp only [measurement, ht, hd, Option.map_some, Measurement.payload, SensorData.power,
      SensorData.current, SensorData.voltage, UInt32.toUInt32_toInt32]
    rw [bytes_rawWord (by omega), bytes_rawWord (by omega), bytes_rawWord (by omega),
      List.drop_zero, show (12 : UInt16).toNat = 12 from rfl, h12, h8]
  · have hl : 8 ≤ raw.length := hlen
    simp only [measurement, ht, hd, Option.map_some, Measurement.payload, SensorData.temperature,
      SensorData.pressure, UInt32.toUInt32_toInt32]
    rw [bytes_rawWord (by omega), bytes_rawWord (by omega), List.drop_zero,
      show (8 : UInt16).toNat = 8 from rfl, h8]
  · have hl : 4 ≤ raw.length := hlen
    simp only [measurement, ht, hd, Option.map_some, Measurement.payload, SensorData.torque,
      UInt32.toUInt32_toInt32]
    rw [bytes_rawWord (by omega), List.drop_zero]
    rfl
  · have hl : 4 ≤ raw.length := hlen
    simp only [measurement, ht, hd, Option.map_some, Measurement.payload, SensorData.proximity]
    rw [bytes_rawWord (by omega), List.drop_zero]
    rfl

/-- Decoding the payload of a measurement gives its fields. -/
theorem recordSensorData_payload (target : SensorData) (m : Measurement) (len : UInt16)
    (hlen : len.toNat = m.payload.length) :
    ∃ d, recordSensorData target m.payload len m.type = some d ∧
      ∀ frame : Sensor, frame.type = m.type → frame.data = d → measurement frame = some m := by
  have hk : ∀ k : UInt16, len.toNat = k.toNat → len = k := fun k => UInt16.toNat_inj.mp
  cases m with
  | powCurrVolt p c v =>
    obtain rfl := hk 12 hlen
    have h₀ :=
      rawWord_of_append [] (bytes 4 c.toUInt32.toNat ++ bytes 4 v.toUInt32.toNat) p.toUInt32
    have h₁ := rawWord_of_append (bytes 4 p.toUInt32.toNat) (bytes 4 v.toUInt32.toNat) c.toUInt32
    have h₂ :=
      rawWord_of_append (bytes 4 p.toUInt32.toNat ++ bytes 4 c.toUInt32.toNat) [] v.toUInt32
    refine ⟨⟨p.toUInt32, c.toUInt32, v.toUInt32⟩, ?_, ?_⟩
    · simp only [recordSensorData, Measurement.type, Measurement.payload, ne_eq, not_true_eq_false,
        if_false, Option.some.injEq, SensorData.mk.injEq]
      refine ⟨?_, ?_, ?_⟩
      · simpa using h₀
      · simpa using h₁
      · simpa using h₂
    · intro frame ht hd
      simp [measurement, ht, hd, Measurement.type, SensorData.power, SensorData.current,
        SensorData.voltage]
  | tempPress t p =>
    obtain rfl := hk 8 hlen
    have h₀ := rawWord_of_append [] (bytes 4 p.toNat) t.toUInt32
    have h₁ := rawWord_of_append (bytes 4 t.toUInt32.toNat) [] p
    refine ⟨⟨t.toUInt32, p, target.word₂⟩, ?_, ?_⟩
    · simp only [recordSensorData, Measurement.type, Measurement.payload, ne_eq, not_true_eq_false,
        if_false, Option.some.injEq, SensorData.mk.injEq, and_true]
      constructor
      · simpa using h₀
      · simpa using h₁
    · intro frame ht hd
      simp [measurement, ht, hd, Measurement.type, SensorData.temperature, SensorData.pressure]
  | torque t =>
    obtain rfl := hk 4 hlen
    have h₀ := rawWord_of_append [] [] t.toUInt32
    refine ⟨⟨t.toUInt32, target.word₁, target.word₂⟩, ?_, ?_⟩
    · simpa [recordSensorData, Measurement.type, Measurement.payload] using h₀
    · intro frame ht hd
      simp [measurement, ht, hd, Measurement.type, SensorData.torque]
  | proximity p =>
    obtain rfl := hk 4 hlen
    have h₀ := rawWord_of_append [] [] p
    refine ⟨⟨p, target.word₁, target.word₂⟩, ?_, ?_⟩
    · simpa [recordSensorData, Measurement.type, Measurement.payload] using h₀
    · intro frame ht hd
      simp [measurement, ht, hd, Measurement.type, SensorData.proximity]

/-! ### Accepting a packet -/

/-- The frame of an accepted packet before its frame type and data are set. -/
def stamped (timestamp lastSeenTime : Timespec) (buffer : List UInt8) (frame : Sensor) : Sensor :=
  { frame with
    type := findSensorType (buffer.getD 1 0)
    id := word16 (buffer.getD 2 0) (buffer.getD 3 0)
    name := nameSensor (word16 (buffer.getD 2 0) (buffer.getD 3 0))
      (findSensorType (buffer.getD 1 0))
    timestamp := timestamp
    lastSeenTime := lastSeenTime
    state := .frameDefault }

section Accept

variable {ts mono : Timespec} {buffer : List UInt8} {frame f : Sensor} {size : ℕ}

/-- What `generateFrame` can do when the clocks work. -/
theorem generateFrame_eq_some_iff :
    generateFrame (some ts) (some mono) buffer frame size = some f ↔
      packetHeaderFieldsSize ≤ size ∧ buffer.getD 0 0 = syncByte ∧
      findSensorType (buffer.getD 1 0) ≠ .unsupported ∧
      (word16 (buffer.getD 4 0) (buffer.getD 5 0)).toNat ≤ packetDataFieldsSize ∧
      (word16 (buffer.getD 4 0) (buffer.getD 5 0)).toNat + packetHeaderFieldsSize = size ∧
      ((word16 (buffer.getD 4 0) (buffer.getD 5 0) = 0 ∧
          f = { stamped ts mono buffer frame with frameType := .heartbeat }) ∨
        (word16 (buffer.getD 4 0) (buffer.getD 5 0) ≠ 0 ∧
          ∃ d, recordSensorData frame.data (buffer.drop packetHeaderFieldsSize)
              (word16 (buffer.getD 4 0) (buffer.getD 5 0)) (findSensorType (buffer.getD 1 0)) =
                some d ∧
            f = { stamped ts mono buffer frame with frameType := .data, data := d })) := by
  unfold generateFrame
  by_cases h₁ : size < packetHeaderFieldsSize
  · simp [h₁]
  by_cases h₂ : buffer.getD 0 0 = syncByte
  swap
  · simp only [h₁, h₂, if_false, ne_eq, not_false_eq_true, if_true, reduceCtorEq, false_and,
      and_false]
  by_cases h₃ : findSensorType (buffer.getD 1 0) = .unsupported
  · simp only [h₁, h₂, h₃, if_false, ne_eq, not_true_eq_false, if_true, reduceCtorEq, false_and,
      and_false]
  by_cases h₄ : packetDataFieldsSize < (word16 (buffer.getD 4 0) (buffer.getD 5 0)).toNat
  · simp only [h₁, h₂, h₃, gt_iff_lt, h₄, if_false, ne_eq, not_true_eq_false, if_true, reduceCtorEq,
      not_le.mpr h₄, false_and, and_false]
  by_cases h₅ : (word16 (buffer.getD 4 0) (buffer.getD 5 0)).toNat + packetHeaderFieldsSize = size
  swap
  · simp only [h₁, h₂, h₃, gt_iff_lt, h₄, h₅, if_false, ne_eq, not_true_eq_false, not_false_eq_true,
      if_true, reduceCtorEq, false_and, and_false]
  simp only [h₁, h₂, h₃, gt_iff_lt, h₄, h₅, if_false, ne_eq, not_true_eq_false, not_false_eq_true,
    not_lt.mp h₁, not_lt.mp h₄, true_and]
  by_cases h₆ : word16 (buffer.getD 4 0) (buffer.getD 5 0) = 0
  · simp only [h₆, if_true, Option.some.injEq, true_and, not_true_eq_false, false_and, or_false]
    exact eq_comm
  · simp only [h₆, if_false, Option.map_eq_some_iff, false_and, not_false_eq_true, true_and,
      false_or]
    exact exists_congr fun d => and_congr_right fun _ => eq_comm

theorem typeByte_findSensorType {b : UInt8} (h : findSensorType b ≠ .unsupported) :
    typeByte (findSensorType b) = b := by
  rcases findSensorType_ne_unsupported h with ⟨rfl, -⟩ | ⟨rfl, -⟩ | ⟨rfl, -⟩ | ⟨rfl, -⟩ <;> rfl

theorem payloadSize_findSensorType (b : UInt8) (n : ℕ) :
    payloadSize (findSensorType b) = some n ↔
      (b = 0x2B ∧ n = 12) ∨ (b = 0x1B ∧ n = 8) ∨ (b = 0x4B ∧ n = 4) ∨ (b = 0x8B ∧ n = 4) := by
  by_cases h : findSensorType b = .unsupported
  · have hb : b ≠ 0x2B ∧ b ≠ 0x1B ∧ b ≠ 0x4B ∧ b ≠ 0x8B := by
      refine ⟨?_, ?_, ?_, ?_⟩ <;> rintro rfl <;> exact absurd h (by decide)
    rw [h]
    simp [payloadSize, hb]
  · rcases findSensorType_ne_unsupported h with ⟨rfl, ht⟩ | ⟨rfl, ht⟩ | ⟨rfl, ht⟩ | ⟨rfl, ht⟩ <;>
      simp [ht, payloadSize, eq_comm]

/-- The bytes of a packet are its header and its payload. -/
theorem take_packet (hlen : size ≤ buffer.length)
    (hsize : (word16 (buffer.getD 4 0) (buffer.getD 5 0)).toNat + packetHeaderFieldsSize = size) :
    buffer.take size =
      [buffer.getD 0 0, buffer.getD 1 0, buffer.getD 2 0, buffer.getD 3 0, buffer.getD 4 0,
        buffer.getD 5 0] ++
        (buffer.drop packetHeaderFieldsSize).take
          (word16 (buffer.getD 4 0) (buffer.getD 5 0)).toNat := by
  subst hsize
  match buffer, hlen with
  | b₀ :: b₁ :: b₂ :: b₃ :: b₄ :: b₅ :: rest, _ => rfl

/-- Building a packet from the frame it was decoded into gives the packet back. -/
theorem buildPacket_of_generateFrame (hlen : size ≤ buffer.length)
    (h : generateFrame (some ts) (some mono) buffer frame size = some f) :
    buildPacket (typeByte f.type) f.id (framePayload f) (UInt16.ofNat (framePayload f).length) =
      buffer.take size := by
  obtain ⟨hhead, hsync, htype, hle, hsize, hf⟩ := generateFrame_eq_some_iff.mp h
  set len := word16 (buffer.getD 4 0) (buffer.getD 5 0) with hlendef
  have hpayload : framePayload f = (buffer.drop packetHeaderFieldsSize).take len.toNat := by
    rcases hf with ⟨hzero, rfl⟩ | ⟨hpos, d, hd, rfl⟩
    · rw [hzero]
      rfl
    · have hraw : len.toNat ≤ (buffer.drop packetHeaderFieldsSize).length := by
        rw [List.length_drop]
        omega
      rw [framePayload, if_neg (by simp), payload_of_recordSensorData hd hraw, Option.getD_some]
  have hplen : (framePayload f).length = len.toNat := by
    rw [hpayload, List.length_take, List.length_drop]
    omega
  have hword : UInt16.ofNat (framePayload f).length = len := by
    rw [hplen, UInt16.ofNat_toNat]
  have htype' : f.type = findSensorType (buffer.getD 1 0) := by
    rcases hf with ⟨-, rfl⟩ | ⟨-, d, -, rfl⟩ <;> rfl
  have hid : f.id = word16 (buffer.getD 2 0) (buffer.getD 3 0) := by
    rcases hf with ⟨-, rfl⟩ | ⟨-, d, -, rfl⟩ <;> rfl
  have hdata : (framePayload f).take len.toNat =
      (buffer.drop packetHeaderFieldsSize).take len.toNat := by
    rw [hpayload, List.take_take, Nat.min_self]
  rw [buildPacket_eq, hword, htype', typeByte_findSensorType htype, hid, bytes_word16, hdata,
    take_packet hlen hsize, hsync, hlendef, bytes_word16]
  rfl

end Accept

/-- The packets that `generateFrame` accepts, in terms of their bytes. -/
def Acceptable (buffer : List UInt8) (size : ℕ) : Prop :=
  packetHeaderFieldsSize ≤ size ∧ buffer.getD 0 0 = syncByte ∧
    ∃ payload, ((buffer.getD 1 0 = 0x2B ∧ payload = 12) ∨ (buffer.getD 1 0 = 0x1B ∧ payload = 8) ∨
        (buffer.getD 1 0 = 0x4B ∧ payload = 4) ∨ (buffer.getD 1 0 = 0x8B ∧ payload = 4)) ∧
      packetHeaderFieldsSize + value [buffer.getD 4 0, buffer.getD 5 0] = size ∧
      (value [buffer.getD 4 0, buffer.getD 5 0] = 0 ∨
        value [buffer.getD 4 0, buffer.getD 5 0] = payload)

theorem word16_eq_zero_iff (b₀ b₁ : UInt8) : word16 b₀ b₁ = 0 ↔ value [b₀, b₁] = 0 := by
  rw [← UInt16.toNat_inj, word16_toNat]
  rfl

theorem exists_payloadSize {type : UInt8} (h : findSensorType type ≠ .unsupported) :
    ∃ n, payloadSize (findSensorType type) = some n := by
  rcases findSensorType_ne_unsupported h with ⟨-, ht⟩ | ⟨-, ht⟩ | ⟨-, ht⟩ | ⟨-, ht⟩ <;> rw [ht] <;>
    exact ⟨_, rfl⟩

/-- `generateFrame` accepts exactly the acceptable packets. -/
theorem generateFrame_isSome_iff (ts mono : Timespec) (buffer : List UInt8) (frame : Sensor)
    (size : ℕ) :
    (∃ f, generateFrame (some ts) (some mono) buffer frame size = some f) ↔
      Acceptable buffer size := by
  constructor
  · rintro ⟨f, h⟩
    obtain ⟨hhead, hsync, htype, hle, hsize, hf⟩ := generateFrame_eq_some_iff.mp h
    obtain ⟨n, hn⟩ := exists_payloadSize htype
    refine ⟨hhead, hsync, n, (payloadSize_findSensorType _ n).mp hn, ?_, ?_⟩
    · rw [← word16_toNat, Nat.add_comm]
      exact hsize
    · rcases hf with ⟨hzero, -⟩ | ⟨-, d, hd, -⟩
      · exact Or.inl ((word16_eq_zero_iff _ _).mp hzero)
      · have hsome := (recordSensorData_isSome _ _ _ _).mp ⟨d, hd⟩
        rw [hn, Option.some.injEq, word16_toNat] at hsome
        exact Or.inr hsome.symm
  · rintro ⟨hhead, hsync, n, htable, hsize, hlen⟩
    have hn := (payloadSize_findSensorType _ n).mpr htable
    have htype : findSensorType (buffer.getD 1 0) ≠ .unsupported := by
      intro h
      rw [h] at hn
      cases hn
    have hle : (word16 (buffer.getD 4 0) (buffer.getD 5 0)).toNat ≤ packetDataFieldsSize := by
      rw [word16_toNat]
      rcases hlen with h | h
      · rw [h]; exact Nat.zero_le _
      · rw [h]; exact (payloadSize_le hn).2
    have hsize' : (word16 (buffer.getD 4 0) (buffer.getD 5 0)).toNat + packetHeaderFieldsSize =
        size := by
      rw [word16_toNat, Nat.add_comm]
      exact hsize
    by_cases hzero : word16 (buffer.getD 4 0) (buffer.getD 5 0) = 0
    · exact ⟨_, generateFrame_eq_some_iff.mpr
        ⟨hhead, hsync, htype, hle, hsize', Or.inl ⟨hzero, rfl⟩⟩⟩
    · have hval : value [buffer.getD 4 0, buffer.getD 5 0] = n :=
        hlen.resolve_left fun h => hzero ((word16_eq_zero_iff _ _).mpr h)
      obtain ⟨d, hd⟩ := (recordSensorData_isSome frame.data
        (buffer.drop packetHeaderFieldsSize) (word16 (buffer.getD 4 0) (buffer.getD 5 0)) _).mpr
        (by rw [hn, word16_toNat, hval])
      exact ⟨_, generateFrame_eq_some_iff.mpr
        ⟨hhead, hsync, htype, hle, hsize', Or.inr ⟨hzero, d, hd, rfl⟩⟩⟩

theorem frameType_heartbeat_iff {ts mono : Timespec} {buffer : List UInt8} {frame f : Sensor}
    {size : ℕ} (h : generateFrame (some ts) (some mono) buffer frame size = some f) :
    f.frameType = .heartbeat ↔ value [buffer.getD 4 0, buffer.getD 5 0] = 0 := by
  obtain ⟨-, -, -, -, -, hf⟩ := generateFrame_eq_some_iff.mp h
  rw [← word16_eq_zero_iff]
  rcases hf with ⟨hzero, rfl⟩ | ⟨hpos, d, -, rfl⟩
  · exact iff_of_true rfl hzero
  · exact iff_of_false (by simp) hpos

theorem lastSeenTime_of_generateFrame {ts mono : Timespec} {buffer : List UInt8} {frame f : Sensor}
    {size : ℕ} (h : generateFrame (some ts) (some mono) buffer frame size = some f) :
    f.lastSeenTime = mono := by
  obtain ⟨-, -, -, -, -, hf⟩ := generateFrame_eq_some_iff.mp h
  rcases hf with ⟨-, rfl⟩ | ⟨-, d, -, rfl⟩ <;> rfl

/-- A frame that `generateFrame` has produced. -/
def Accepted (f : Sensor) : Prop :=
  ∃ ts mono buffer frame size, generateFrame (some ts) (some mono) buffer frame size = some f

theorem accepted_of_generateFrame {realtime monotonic : Option Timespec} {buffer : List UInt8}
    {frame f : Sensor} {size : ℕ}
    (h : generateFrame realtime monotonic buffer frame size = some f) : Accepted f := by
  cases realtime with
  | none => simp [generateFrame] at h
  | some ts =>
    cases monotonic with
    | none => simp [generateFrame] at h
    | some mono => exact ⟨ts, mono, buffer, frame, size, h⟩

theorem Accepted.name_eq {f : Sensor} (h : Accepted f) : f.name = nameSensor f.id f.type := by
  obtain ⟨ts, mono, buffer, frame, size, h⟩ := h
  obtain ⟨-, -, -, -, -, hf⟩ := generateFrame_eq_some_iff.mp h
  rcases hf with ⟨-, rfl⟩ | ⟨-, d, -, rfl⟩ <;> rfl

theorem Accepted.supported {f : Sensor} (h : Accepted f) : f.type.Supported := by
  obtain ⟨ts, mono, buffer, frame, size, h⟩ := h
  obtain ⟨-, -, htype, -, -, hf⟩ := generateFrame_eq_some_iff.mp h
  have heq : f.type = findSensorType (buffer.getD 1 0) := by
    rcases hf with ⟨-, rfl⟩ | ⟨-, d, -, rfl⟩ <;> rfl
  rw [heq]
  rcases findSensorType_ne_unsupported htype with ⟨-, ht⟩ | ⟨-, ht⟩ | ⟨-, ht⟩ | ⟨-, ht⟩ <;>
    rw [ht] <;> decide

/-! ### Decoding what was built -/

theorem findSensorType_typeByte {type : SensorType} {n : ℕ} (h : payloadSize type = some n) :
    findSensorType (typeByte type) = type := by
  cases type <;> cases h <;> rfl

/-- The header of a built packet, byte by byte. -/
theorem buildPacket_cons (type : UInt8) (id : UInt16) (data : List UInt8) (len : UInt16) :
    ∃ i₀ i₁ l₀ l₁, word16 i₀ i₁ = id ∧ word16 l₀ l₁ = len ∧
      buildPacket type id data len =
        syncByte :: type :: i₀ :: i₁ :: l₀ :: l₁ :: data.take len.toNat := by
  have hword : ∀ (w : UInt16) (b₀ b₁ : UInt8), [b₀, b₁] = bytes 2 w.toNat → word16 b₀ b₁ = w := by
    intro w b₀ b₁ hb
    apply UInt16.toNat_inj.mp
    rw [word16_toNat, hb, value_bytes_of_lt w.toNat_lt]
  refine ⟨_, _, _, _, hword id _ _ (bytes_two id), hword len _ _ (bytes_two len), ?_⟩
  rw [buildPacket_eq, ← bytes_two id, ← bytes_two len]
  rfl

/-- A built packet of a measurement is accepted and decodes to the same type, id and fields. -/
theorem generateFrame_buildPacket (ts mono : Timespec) (frame : Sensor) (m : Measurement)
    (id : UInt16) :
    ∃ f, generateFrame (some ts) (some mono)
        (buildPacket (typeByte m.type) id m.payload (UInt16.ofNat m.payload.length)) frame
        (packetHeaderFieldsSize + m.payload.length) = some f ∧
      f.type = m.type ∧ f.id = id ∧ f.frameType = .data ∧ measurement f = some m := by
  have hsize := length_payload m
  have hbound := payloadSize_le hsize
  have hlen : (UInt16.ofNat m.payload.length).toNat = m.payload.length := by
    rw [UInt16.toNat_ofNat']
    exact Nat.mod_eq_of_lt (lt_of_le_of_lt hbound.2 (by decide))
  obtain ⟨i₀, i₁, l₀, l₁, hid, hl, hbuf⟩ :=
    buildPacket_cons (typeByte m.type) id m.payload (UInt16.ofNat m.payload.length)
  rw [hlen, List.take_length] at hbuf
  obtain ⟨d, hd, hm⟩ := recordSensorData_payload frame.data m _ hlen
  have htype : findSensorType (typeByte m.type) = m.type := findSensorType_typeByte hsize
  have hne : findSensorType (typeByte m.type) ≠ .unsupported := by
    rw [htype]
    intro h
    rw [h] at hsize
    cases hsize
  rw [hbuf]
  refine ⟨_, generateFrame_eq_some_iff.mpr
    ⟨Nat.le_add_right _ _, rfl, hne, ?_, ?_, Or.inr ⟨?_, d, ?_, rfl⟩⟩, htype, hid, rfl, ?_⟩
  · exact (congrArg UInt16.toNat hl).trans_le (hlen.trans_le hbound.2)
  · exact (congrArg (UInt16.toNat · + packetHeaderFieldsSize) hl).trans (by rw [hlen, Nat.add_comm])
  · intro hzero
    have h0 := congrArg UInt16.toNat (hl.symm.trans hzero)
    rw [hlen] at h0
    exact absurd h0 hbound.1.ne'
  · have h := hd
    rw [← htype, ← hl] at h
    exact h
  · exact hm _ htype rfl

/-- A built heartbeat of a supported type is accepted as one. -/
theorem generateFrame_heartbeat (ts mono : Timespec) (frame : Sensor) {type : SensorType} {n : ℕ}
    (htype : payloadSize type = some n) (id : UInt16) (data : List UInt8) :
    ∃ f, generateFrame (some ts) (some mono) (buildPacket (typeByte type) id data 0) frame
        packetHeaderFieldsSize = some f ∧
      f.type = type ∧ f.id = id ∧ f.frameType = .heartbeat := by
  obtain ⟨i₀, i₁, l₀, l₁, hid, hl, hbuf⟩ := buildPacket_cons (typeByte type) id data 0
  have ht : findSensorType (typeByte type) = type := findSensorType_typeByte htype
  have hne : findSensorType (typeByte type) ≠ .unsupported := by
    rw [ht]
    rintro rfl
    cases htype
  rw [hbuf]
  refine ⟨_, generateFrame_eq_some_iff.mpr ⟨le_rfl, rfl, hne, ?_, ?_, Or.inl ⟨hl, rfl⟩⟩,
    ht, hid, rfl⟩
  · exact (congrArg UInt16.toNat hl).trans_le (Nat.zero_le _)
  · exact congrArg (UInt16.toNat · + packetHeaderFieldsSize) hl

/-- **Decoding and encoding are inverse.**  With working clocks a packet of at most `PACKET_SIZE`
bytes is accepted exactly when it has the format and one of the four payload sizes; building a
packet from the decoded frame gives the packet back; and every built packet, heartbeat or
measurement, decodes to what it was built from. -/
theorem decode_encode (ts mono : Timespec) :
    (∀ (buffer : List UInt8) (size : ℕ), size ≤ buffer.length → size ≤ packetSize →
      ((∃ f, generateFrame (some ts) (some mono) buffer Sensor.zero size = some f) ↔
        Acceptable buffer size) ∧
      ∀ f, generateFrame (some ts) (some mono) buffer Sensor.zero size = some f →
        (f.frameType = .heartbeat ↔ value [buffer.getD 4 0, buffer.getD 5 0] = 0) ∧
        buildPacket (typeByte f.type) f.id (framePayload f)
          (UInt16.ofNat (framePayload f).length) = buffer.take size) ∧
    (∀ (m : Measurement) (id : UInt16),
      ∃ f, generateFrame (some ts) (some mono)
          (buildPacket (typeByte m.type) id m.payload (UInt16.ofNat m.payload.length)) Sensor.zero
          (packetHeaderFieldsSize + m.payload.length) = some f ∧
        f.type = m.type ∧ f.id = id ∧ f.frameType = .data ∧ measurement f = some m) ∧
    ∀ (type : SensorType) (id : UInt16) (n : ℕ), payloadSize type = some n →
      ∃ f, generateFrame (some ts) (some mono) (buildPacket (typeByte type) id [] 0) Sensor.zero
          packetHeaderFieldsSize = some f ∧
        f.type = type ∧ f.id = id ∧ f.frameType = .heartbeat := by
  refine ⟨?_, generateFrame_buildPacket ts mono Sensor.zero, ?_⟩
  · intro buffer size hlen _
    refine ⟨generateFrame_isSome_iff ts mono buffer Sensor.zero size, fun f h => ?_⟩
    exact ⟨frameType_heartbeat_iff h, buildPacket_of_generateFrame hlen h⟩
  · intro type id n htype
    exact generateFrame_heartbeat ts mono Sensor.zero htype id []

/-- The torque packet of sensor 300 in the sample data is acceptable and rebuilt from its frame. -/
theorem decode_encode_torque :
    ∃ f, generateFrame (some ⟨0, 0⟩) (some ⟨0, 0⟩) [0xAA, 0x4B, 0x2C, 0x01, 4, 0, 0x5F, 0, 0, 0]
        Sensor.zero 10 = some f ∧
      buildPacket (typeByte f.type) f.id (framePayload f) (UInt16.ofNat (framePayload f).length) =
        [0xAA, 0x4B, 0x2C, 0x01, 4, 0, 0x5F, 0, 0, 0] := by
  have h := (decode_encode ⟨0, 0⟩ ⟨0, 0⟩).1 [0xAA, 0x4B, 0x2C, 0x01, 4, 0, 0x5F, 0, 0, 0] 10
    (by decide) (by decide)
  obtain ⟨f, hf⟩ := h.1.mpr ⟨by decide, by decide, 4, by decide, by decide, Or.inr (by decide)⟩
  exact ⟨f, hf, (h.2 f hf).2⟩

end Processing
end Gateway
