import Gateway.Sense
import Gateway.Lib.Block
import Gateway.Lib.CText
import Gateway.Lib.LittleEndian
import Gateway.Lib.Segmented

/-!
# `sense_utils.c`: what the daemons share

Naming and decoding for `processingd`, the registry operations and the rendering of a reading for
`telemetryd`, the record lines of `loggingd`.  The pointer arguments of the source are values here,
so its checks for `NULL` have no counterpart; the loops over the registry go through `Block` and
fail on an index outside it.

`plainReading` is the text of a reading without any of the buffers it goes through; `getDataString`
and the record lines both hold exactly that text.
-/

namespace Gateway

open CText LittleEndian Segmented

def writeBufferSize : ℕ := 300
def interBufSize : ℕ := 50

/-! ### For `processingd` -/

/-- `findSensorType`. -/
def findSensorType (type : UInt8) : SensorType :=
  match type with
  | 0x1B => .tempPress
  | 0x2B => .powCurrVolt
  | 0x4B => .torque
  | 0x8B => .proximity
  | _ => .unsupported

/-- The stem of a sensor's name, for the types that have one. -/
def nameBase : SensorType → Option (List Char)
  | .powCurrVolt => some "PCVS".toList
  | .proximity => some "PROXS".toList
  | .tempPress => some "TPS".toList
  | .torque => some "TORQS".toList
  | _ => none

/-- `nameSensor`: the format `%s_0X%x` into `SENSOR_NAME_SIZE` bytes. -/
def nameSensor (id : UInt16) (type : SensorType) : List Char :=
  match nameBase type with
  | none => []
  | some base => snprintf sensorNameSize (base ++ "_0X".toList ++ Nat.toDigits 16 id.toNat)

/-- The little-endian word at offset `i`. -/
def rawWord (raw : List UInt8) (i : ℕ) : UInt32 :=
  word32 (raw.getD i 0) (raw.getD (i + 1) 0) (raw.getD (i + 2) 0) (raw.getD (i + 3) 0)

/-- `recordSensorData`: decode a payload into the union, `none` for the result `-1`. -/
def recordSensorData (target : SensorData) (raw : List UInt8) (byteSize : UInt16)
    (type : SensorType) : Option SensorData :=
  match type with
  | .powCurrVolt =>
      if byteSize ≠ 12 then none
      else
        some { target with word₀ := rawWord raw 0, word₁ := rawWord raw 4, word₂ := rawWord raw 8 }
  | .tempPress =>
      if byteSize ≠ 8 then none
      else some { target with word₀ := rawWord raw 0, word₁ := rawWord raw 4 }
  | .proximity => if byteSize ≠ 4 then none else some { target with word₀ := rawWord raw 0 }
  | .torque => if byteSize ≠ 4 then none else some { target with word₀ := rawWord raw 0 }
  | _ => none

/-! ### The registry -/

/-- `sensorExists`: the index of the frame's sensor among the first `count` entries and `false`,
or `count` and `true` for a sensor that is not there yet. -/
def sensorExists (frame : Sensor) (registry : List Sensor) (count : ℕ) : Except ℕ (ℤ × Bool) := do
  match ← Block.search (fun e => e.id = frame.id ∧ e.type = frame.type) registry count 0 with
  | some idx => .ok ((idx : ℤ), false)
  | none => .ok ((count : ℤ), true)

/-- `updateRegistry`: what the entry `target` holds after the frame `source`. Only a data frame
brings a reading. -/
def updateRegistry (source target : Sensor) : Sensor :=
  let target :=
    if source.frameType = .data then
      { target with data := source.data, timestamp := source.timestamp }
    else target
  { target with
    lastSeenTime := source.lastSeenTime
    id := source.id
    type := source.type
    state := .online
    frameType := source.frameType
    name := source.name }

/-- `getSensor_ID`: the first of the `count` entries with the id, or a zeroed record. -/
def getSensorID (id : UInt16) (registry : List Sensor) (count : ℕ) : Except ℕ Sensor := do
  match ← Block.search (fun e => e.id = id) registry count 0 with
  | some idx => Block.load registry idx
  | none => .ok Sensor.zero

/-! ### Rendering -/

/-- `measurement_to_string` into `len` bytes: `%f` of `value / scale`. -/
def measurementToString (len : ℕ) (value : Int32) (scale : ℕ) : List Char :=
  if len = 0 ∨ scale = 0 then [] else snprintf len (fixed6 value.toInt scale)

/-- `getDataString`. -/
def getDataString (frame : Sensor) : List Char :=
  let m := measurementToString interBufSize
  match frame.type with
  | .powCurrVolt =>
      snprintf writeBufferSize
        (m frame.data.power powerScale ++ "W :: ".toList ++ m frame.data.current currentScale ++
          "A :: ".toList ++ m frame.data.voltage voltageScale ++ "V".toList)
  | .tempPress =>
      snprintf writeBufferSize
        (m frame.data.temperature temperatureScale ++ "C :: ".toList ++
          m frame.data.pressure.toInt32 pressureScale ++ "Pa".toList)
  | .proximity =>
      snprintf writeBufferSize (m frame.data.proximity.toInt32 proximityScale ++ "m".toList)
  | .torque => snprintf writeBufferSize (m frame.data.torque torqueScale ++ "Nm".toList)
  | _ => []

/-- `getTime`. The conversion `localtime_r` depends on the time zone of the device and is a
parameter; it may fail, and so may `strftime`. -/
def getTime (localtime : ℤ → Option Tm) (frame : Sensor) : List Char :=
  match localtime frame.timestamp.tvSec with
  | none => []
  | some info => (strftime interBufSize info).getD []

/-! ### For `loggingd` -/

/-- An open log file: what it holds, and how its `write` calls will go. -/
structure LogFile where
  contents : List Char
  schedule : List SendEvent

/-- `write_all`. -/
def writeAll (text : List Char) (fd : LogFile) : Bool × LogFile :=
  let r := sendAll text fd.schedule
  (r.ok, ⟨fd.contents ++ r.sent, r.rest⟩)

/-- The title line of a type's log files. -/
def titleLine : SensorType → List Char
  | .powCurrVolt => "<Timestamp> -> <power>W :: <current>A :: <voltage>V\n".toList
  | .tempPress => "<Timestamp> -> <temperature>C :: <pressure>Pa\n".toList
  | .proximity => "<Timestamp> -> <proximity>m\n".toList
  | .torque => "<Timestamp> -> <torque>Nm\n".toList
  | _ => []

/-- The record line of a reading, for the types that have one. -/
def recordLine (timestamp : List Char) (data : SensorData) (type : SensorType) :
    Option (List Char) :=
  let m := measurementToString interBufSize
  match type with
  | .powCurrVolt =>
      some (timestamp ++ " -> ".toList ++ m data.power powerScale ++ "W :: ".toList ++
        m data.current currentScale ++ "A :: ".toList ++ m data.voltage voltageScale ++
        "V\n".toList)
  | .tempPress =>
      some (timestamp ++ " -> ".toList ++ m data.temperature temperatureScale ++ "C :: ".toList ++
        m data.pressure.toInt32 pressureScale ++ "Pa\n".toList)
  | .proximity =>
      some (timestamp ++ " -> ".toList ++ m data.proximity.toInt32 proximityScale ++ "m\n".toList)
  | .torque => some (timestamp ++ " -> ".toList ++ m data.torque torqueScale ++ "Nm\n".toList)
  | _ => none

/-- Print a line into a buffer of `WRITE_BUFFER_SIZE` bytes and write it, unless it was cut. -/
def writeLine (line : List Char) (fd : LogFile) : Bool × LogFile :=
  if line.length ≥ writeBufferSize then (false, fd)
  else writeAll (snprintf writeBufferSize line) fd

/-- `writeFrameData`: the title line if `flag` asks for it, then the record line. -/
def writeFrameData (localtime : ℤ → Option Tm) (data : SensorData) (type : SensorType)
    (stamp : Timespec) (flag : Bool) (fd : LogFile) : Bool × LogFile :=
  match (localtime stamp.tvSec).bind (strftime interBufSize) with
  | none => (false, fd)
  | some timestamp =>
      match recordLine timestamp data type with
      | none => (false, fd)
      | some record =>
          match if flag then writeLine (titleLine type) fd else (true, fd) with
          | (false, fd) => (false, fd)
          | (true, fd) => writeLine record fd

/-! ### What the operations do -/

/-- Every accepted type byte, with the type it stands for. -/
theorem findSensorType_ne_unsupported {b : UInt8} (h : findSensorType b ≠ .unsupported) :
    (b = 0x1B ∧ findSensorType b = .tempPress) ∨ (b = 0x2B ∧ findSensorType b = .powCurrVolt) ∨
      (b = 0x4B ∧ findSensorType b = .torque) ∨ (b = 0x8B ∧ findSensorType b = .proximity) := by
  unfold findSensorType at h ⊢
  split at h
  · exact Or.inl ⟨rfl, rfl⟩
  · exact Or.inr (Or.inl ⟨rfl, rfl⟩)
  · exact Or.inr (Or.inr (Or.inl ⟨rfl, rfl⟩))
  · exact Or.inr (Or.inr (Or.inr ⟨rfl, rfl⟩))
  · exact absurd rfl h

theorem findIdx?_key (frame : Sensor) (l : List Sensor) :
    l.findIdx? (fun e => e.id = frame.id ∧ e.type = frame.type) =
      if frame.key ∈ l.map Sensor.key then some ((l.map Sensor.key).idxOf frame.key) else none := by
  induction l with
  | nil => simp
  | cons e l ih =>
    rw [List.findIdx?_cons, ih, List.map_cons, List.idxOf_cons]
    have hkey : (e.id = frame.id ∧ e.type = frame.type) ↔ e.key = frame.key := by
      simp [Sensor.key]
    by_cases h : e.key = frame.key
    · simp [hkey, h]
    · have h' : frame.key ≠ e.key := Ne.symm h
      have hbeq : (e.key == frame.key) = false := beq_false_of_ne h
      by_cases hm : frame.key ∈ l.map Sensor.key <;> simp [hkey, h, h', hbeq, hm]

/-- What `sensorExists` returns within the block. -/
theorem sensorExists_eq (frame : Sensor) {registry : List Sensor} {count : ℕ}
    (h : count ≤ registry.length) :
    sensorExists frame registry count =
      .ok (if frame.key ∈ (registry.take count).map Sensor.key then
          ((((registry.take count).map Sensor.key).idxOf frame.key : ℕ), false)
        else ((count : ℤ), true)) := by
  rw [sensorExists, Block.search_eq _ h]
  simp only [bind, Except.bind, findIdx?_key]
  split_ifs with hm <;> rfl

/-- What `getSensorID` returns within the block. -/
theorem getSensorID_eq (id : UInt16) {registry : List Sensor} {count : ℕ}
    (h : count ≤ registry.length) :
    getSensorID id registry count =
      .ok (((registry.take count).find? (·.id = id)).getD Sensor.zero) := by
  rw [getSensorID, Block.search_eq _ h]
  simp only [bind, Except.bind]
  cases hidx : (registry.take count).findIdx? (·.id = id) with
  | none =>
    have hnone : (registry.take count).find? (·.id = id) = none := by
      rw [List.find?_eq_none]
      simpa using List.findIdx?_eq_none_iff.mp hidx
    rw [hnone]
    rfl
  | some i =>
    obtain ⟨hlt, hp, hbefore⟩ := List.findIdx?_eq_some_iff_getElem.mp hidx
    have hlen : i < registry.length := by
      rw [List.length_take] at hlt
      omega
    have hfind : (registry.take count).find? (·.id = id) = some registry[i] := by
      rw [List.find?_eq_some_iff_getElem]
      rw [List.getElem_take] at hp
      refine ⟨hp, i, hlt, List.getElem_take, fun j hj => ?_⟩
      simpa using hbefore j hj
    rw [hfind]
    exact Block.load_eq hlen

section UpdateRegistry

variable (source target : Sensor)

@[simp] theorem updateRegistry_state : (updateRegistry source target).state = .online := rfl

@[simp] theorem updateRegistry_key : (updateRegistry source target).key = source.key := rfl

theorem updateRegistry_data :
    (updateRegistry source target).data =
      if source.frameType = .data then source.data else target.data := by
  simp only [updateRegistry]
  split_ifs <;> rfl

theorem updateRegistry_timestamp :
    (updateRegistry source target).timestamp =
      if source.frameType = .data then source.timestamp else target.timestamp := by
  simp only [updateRegistry]
  split_ifs <;> rfl

end UpdateRegistry

theorem length_getDataString_lt (frame : Sensor) :
    (getDataString frame).length < writeBufferSize := by
  have h : 0 < writeBufferSize := by decide
  unfold getDataString
  cases frame.type <;> simp only [length_snprintf_lt h, List.length_nil, h]

/-! ### Readings without their buffers -/

/-- The text of a reading, for the types that have one. -/
def plainReading (data : SensorData) : SensorType → Option (List Char)
  | .powCurrVolt =>
      some (fixed6 data.power.toInt powerScale ++ "W :: ".toList ++
        fixed6 data.current.toInt currentScale ++ "A :: ".toList ++
        fixed6 data.voltage.toInt voltageScale ++ "V".toList)
  | .tempPress =>
      some (fixed6 data.temperature.toInt temperatureScale ++ "C :: ".toList ++
        fixed6 data.pressure.toInt32.toInt pressureScale ++ "Pa".toList)
  | .proximity => some (fixed6 data.proximity.toInt32.toInt proximityScale ++ "m".toList)
  | .torque => some (fixed6 data.torque.toInt torqueScale ++ "Nm".toList)
  | _ => none

/-- Every measurement fits in 18 characters. -/
theorem length_fixed6_int32 (value : Int32) {scale : ℕ} (hscale : 0 < scale) :
    (fixed6 value.toInt scale).length ≤ 18 := by
  have h₁ := Int32.le_toInt value
  have h₂ := Int32.toInt_lt value
  have habs : value.toInt.natAbs < 10 ^ 10 := by omega
  exact length_fixed6_le hscale (by norm_num) ((Nat.div_le_self _ _).trans_lt habs)

theorem measurementToString_eq (value : Int32) {scale : ℕ} (hscale : 0 < scale) :
    measurementToString interBufSize value scale = fixed6 value.toInt scale := by
  have hlen := length_fixed6_int32 value hscale
  rw [measurementToString, if_neg (by simp [interBufSize, hscale.ne'])]
  exact snprintf_of_lt (hlen.trans_lt (by decide))

theorem length_plainReading_le {data : SensorData} {type : SensorType} {text : List Char}
    (h : plainReading data type = some text) : text.length ≤ 65 := by
  have hlen : ∀ (value : Int32) (scale : ℕ), 0 < scale → (fixed6 value.toInt scale).length ≤ 18 :=
    fun value scale => length_fixed6_int32 value
  have h₁ := hlen data.power powerScale (by decide)
  have h₂ := hlen data.current currentScale (by decide)
  have h₃ := hlen data.voltage voltageScale (by decide)
  have h₄ := hlen data.temperature temperatureScale (by decide)
  have h₅ := hlen data.pressure.toInt32 pressureScale (by decide)
  have h₆ := hlen data.proximity.toInt32 proximityScale (by decide)
  have h₇ := hlen data.torque torqueScale (by decide)
  cases type <;> simp only [plainReading, Option.some.injEq, reduceCtorEq] at h <;> subst h <;>
    simp <;> omega

/-- `getDataString` cuts nothing off. -/
theorem getDataString_eq (frame : Sensor) :
    getDataString frame = (plainReading frame.data frame.type).getD [] := by
  have hfit : ∀ text, plainReading frame.data frame.type = some text →
      snprintf writeBufferSize text = text := fun text h =>
    snprintf_of_lt ((length_plainReading_le h).trans_lt (by decide))
  have hscale : 0 < powerScale ∧ 0 < currentScale ∧ 0 < voltageScale ∧ 0 < temperatureScale ∧
      0 < pressureScale ∧ 0 < proximityScale ∧ 0 < torqueScale := by decide
  obtain ⟨h₁, h₂, h₃, h₄, h₅, h₆, h₇⟩ := hscale
  unfold getDataString
  cases ht : frame.type <;> rw [ht] at hfit <;>
    simp only [measurementToString_eq _ h₁, measurementToString_eq _ h₂,
      measurementToString_eq _ h₃, measurementToString_eq _ h₄, measurementToString_eq _ h₅,
      measurementToString_eq _ h₆,
      measurementToString_eq _ h₇, plainReading, Option.getD_some, Option.getD_none]
  all_goals exact hfit _ rfl

/-- The record line holds the time stamp and the same reading. -/
theorem recordLine_eq (timestamp : List Char) (data : SensorData) (type : SensorType) :
    recordLine timestamp data type =
      (plainReading data type).map fun text => timestamp ++ " -> ".toList ++ text ++ ['\n'] := by
  have hscale : 0 < powerScale ∧ 0 < currentScale ∧ 0 < voltageScale ∧ 0 < temperatureScale ∧
      0 < pressureScale ∧ 0 < proximityScale ∧ 0 < torqueScale := by decide
  obtain ⟨h₁, h₂, h₃, h₄, h₅, h₆, h₇⟩ := hscale
  cases type <;>
    simp [recordLine, plainReading, measurementToString_eq _ h₁, measurementToString_eq _ h₂,
      measurementToString_eq _ h₃, measurementToString_eq _ h₄, measurementToString_eq _ h₅,
      measurementToString_eq _ h₆, measurementToString_eq _ h₇]

/-! ### What `writeFrameData` writes -/

/-- The record line of a reading with its time, when the time can be printed. -/
def frameRecord (localtime : ℤ → Option Tm) (data : SensorData) (type : SensorType)
    (stamp : Timespec) : Option (List Char) :=
  ((localtime stamp.tvSec).bind (strftime interBufSize)).bind (recordLine · data type)

/-- All that `writeFrameData` has to write. -/
def frameText (localtime : ℤ → Option Tm) (data : SensorData) (type : SensorType)
    (stamp : Timespec) (flag : Bool) : Option (List Char) :=
  (frameRecord localtime data type stamp).map ((if flag then titleLine type else []) ++ ·)

theorem length_titleLine_lt (type : SensorType) : (titleLine type).length < writeBufferSize := by
  cases type with
  | unnamed value h => exact show 0 < writeBufferSize by decide
  | _ => decide

theorem length_recordLine_lt {timestamp record : List Char} {data : SensorData} {type : SensorType}
    (htime : timestamp.length < interBufSize) (h : recordLine timestamp data type = some record) :
    record.length < writeBufferSize := by
  rw [recordLine_eq, Option.map_eq_some_iff] at h
  obtain ⟨text, htext, rfl⟩ := h
  have hlen := length_plainReading_le htext
  have harrow : (" -> ".toList).length = 4 := by decide
  simp only [List.length_append, List.length_singleton, harrow, writeBufferSize]
  simp only [interBufSize] at htime
  omega

theorem writeLine_of_lt {line : List Char} (h : line.length < writeBufferSize) (fd : LogFile) :
    writeLine line fd = writeAll line fd := by
  rw [writeLine, if_neg (not_le.mpr h), snprintf_of_lt h]

section WriteFrameData

variable {localtime : ℤ → Option Tm} {data : SensorData} {type : SensorType} {stamp : Timespec}

/-- No buffer of `writeFrameData` is too small: it writes the title if asked to, and the record. -/
theorem writeFrameData_eq (flag : Bool) (fd : LogFile) :
    writeFrameData localtime data type stamp flag fd =
      match frameRecord localtime data type stamp with
      | none => (false, fd)
      | some record =>
          match if flag then writeAll (titleLine type) fd else (true, fd) with
          | (false, fd) => (false, fd)
          | (true, fd) => writeAll record fd := by
  unfold writeFrameData frameRecord
  cases htime : (localtime stamp.tvSec).bind (strftime interBufSize) with
  | none => rfl
  | some timestamp =>
    obtain ⟨info, -, hinfo⟩ := Option.bind_eq_some_iff.mp htime
    simp only [Option.bind_some]
    cases hrecord : recordLine timestamp data type with
    | none => rfl
    | some record =>
      have hlen := length_recordLine_lt (length_strftime_lt hinfo) hrecord
      simp only [writeLine_of_lt (length_titleLine_lt type), writeLine_of_lt hlen]

/-- A frame that is written: the title if asked for and the record, all of it. -/
theorem writeFrameData_ok {flag : Bool} {fd : LogFile}
    (h : (writeFrameData localtime data type stamp flag fd).1 = true) :
    ∃ line, frameText localtime data type stamp flag = some line ∧
      (writeFrameData localtime data type stamp flag fd).2.contents = fd.contents ++ line := by
  rw [writeFrameData_eq] at h ⊢
  unfold frameText
  cases hrecord : frameRecord localtime data type stamp with
  | none => rw [hrecord] at h; cases h
  | some record =>
    rw [hrecord] at h
    refine ⟨_, rfl, ?_⟩
    cases flag with
    | false =>
      have hsent : (sendAll record fd.schedule).sent = record := sent_of_ok h
      simp [writeAll, hsent]
    | true =>
      simp only [writeAll, if_true] at h ⊢
      cases hok : (sendAll (titleLine type) fd.schedule).ok with
      | false => rw [hok] at h; cases h
      | true =>
        rw [hok] at h
        simp only [sent_of_ok hok, sent_of_ok h, List.append_assoc]

/-- A frame that is not: a proper part of that from its start, or nothing if there is nothing to
write. -/
theorem writeFrameData_failed {flag : Bool} {fd : LogFile}
    (h : (writeFrameData localtime data type stamp flag fd).1 = false) :
    ∃ text, (writeFrameData localtime data type stamp flag fd).2.contents = fd.contents ++ text ∧
      ((frameText localtime data type stamp flag = none ∧ text = []) ∨
        ∃ line, frameText localtime data type stamp flag = some line ∧ text <+: line ∧
          text ≠ line) := by
  rw [writeFrameData_eq] at h ⊢
  unfold frameText
  cases hrecord : frameRecord localtime data type stamp with
  | none => exact ⟨[], (List.append_nil _).symm, Or.inl ⟨rfl, rfl⟩⟩
  | some record =>
    rw [hrecord] at h
    have hne : record ≠ [] := by
      obtain ⟨timestamp, -, hline⟩ := Option.bind_eq_some_iff.mp hrecord
      rw [recordLine_eq, Option.map_eq_some_iff] at hline
      obtain ⟨text, -, rfl⟩ := hline
      simp
    cases flag with
    | false => exact ⟨_, rfl, Or.inr ⟨_, rfl, sent_isPrefix record _, sent_ne_of_not_ok h⟩⟩
    | true =>
      simp only [writeAll, if_true] at h ⊢
      cases hok : (sendAll (titleLine type) fd.schedule).ok with
      | false =>
        have hprefix := sent_isPrefix (titleLine type) fd.schedule
        refine ⟨_, rfl, Or.inr ⟨_, rfl, hprefix.trans (List.prefix_append _ _), fun heq => ?_⟩⟩
        -- what was sent is no longer than the title, so the record would be empty
        have hlen := hprefix.length_le
        have hpos := List.length_pos_of_ne_nil hne
        rw [heq, List.length_append] at hlen
        omega
      | true =>
        rw [hok] at h
        refine ⟨titleLine type ++ (sendAll record (sendAll (titleLine type) fd.schedule).rest).sent,
          by simp only [sent_of_ok hok, List.append_assoc], Or.inr ⟨_, rfl, ?_, ?_⟩⟩
        · exact (List.prefix_append_right_inj _).mpr (sent_isPrefix record _)
        · exact fun heq => sent_ne_of_not_ok h (List.append_cancel_left heq)

/-- Along a reliable schedule a frame with a time that can be printed is written. -/
theorem writeFrameData_of_reliable {flag : Bool} {fd : LogFile} (hfd : Reliable fd.schedule)
    {record : List Char} (h : frameRecord localtime data type stamp = some record) :
    (writeFrameData localtime data type stamp flag fd).1 = true := by
  rw [writeFrameData_eq, h]
  cases flag with
  | false => exact (sendAll_of_reliable hfd record).1
  | true =>
    obtain ⟨hok, -, hrest⟩ := sendAll_of_reliable hfd (titleLine type)
    simp only [writeAll, if_true, hok]
    exact (sendAll_of_reliable hrest record).1

end WriteFrameData

/-! ### Times that can be converted -/

/-- `localtime_r` converts the time stamp, with every field in its range. -/
def Convertible (localtime : ℤ → Option Tm) (stamp : Timespec) : Prop :=
  ∃ info, localtime stamp.tvSec = some info ∧ info.Valid

theorem SensorType.Supported.exists_plainReading {type : SensorType} (h : type.Supported)
    (data : SensorData) : ∃ text, plainReading data type = some text := by
  simp only [Supported, List.mem_cons, List.not_mem_nil, or_false] at h
  rcases h with rfl | rfl | rfl | rfl <;> exact ⟨_, rfl⟩

/-- A record line and `getDataString` hold the same reading, and the same time if there is one. -/
theorem frameRecord_cases {localtime : ℤ → Option Tm} {frame : Sensor} {record : List Char}
    (h : frameRecord localtime frame.data frame.type frame.timestamp = some record) :
    plainReading frame.data frame.type = some (getDataString frame) ∧
      record = getTime localtime frame ++ " -> ".toList ++ getDataString frame ++ ['\n'] := by
  obtain ⟨timestamp, htime, hrecord⟩ := Option.bind_eq_some_iff.mp h
  obtain ⟨info, hinfo, hstrf⟩ := Option.bind_eq_some_iff.mp htime
  rw [recordLine_eq, Option.map_eq_some_iff] at hrecord
  obtain ⟨text, htext, rfl⟩ := hrecord
  simp only [getTime, hinfo, hstrf, Option.getD_some, getDataString_eq, htext, and_self]

theorem frameRecord_of_convertible {localtime : ℤ → Option Tm} {frame : Sensor}
    (hstamp : Convertible localtime frame.timestamp) (htype : frame.type.Supported) :
    frameRecord localtime frame.data frame.type frame.timestamp =
      some (getTime localtime frame ++ " -> ".toList ++ getDataString frame ++ ['\n']) := by
  obtain ⟨info, hinfo, hvalid⟩ := hstamp
  obtain ⟨text, htext⟩ := htype.exists_plainReading frame.data
  have hstrf : strftime interBufSize info = some info.stamp := strftime_of_valid hvalid (by decide)
  have hrecord : frameRecord localtime frame.data frame.type frame.timestamp =
      some (info.stamp ++ " -> ".toList ++ text ++ ['\n']) := by
    simp only [frameRecord, hinfo, hstrf, Option.bind_some, recordLine_eq, htext, Option.map_some]
  rw [hrecord, (frameRecord_cases hrecord).2]

theorem printable_plainReading {data : SensorData} {type : SensorType} {text : List Char}
    (h : plainReading data type = some text) : Printable text := by
  have hunits : Printable "W :: ".toList ∧ Printable "A :: ".toList ∧ Printable "V".toList ∧
      Printable "C :: ".toList ∧ Printable "Pa".toList ∧ Printable "m".toList ∧
      Printable "Nm".toList := by decide
  obtain ⟨h₁, h₂, h₃, h₄, h₅, h₆, h₇⟩ := hunits
  cases type <;> simp only [plainReading, Option.some.injEq, reduceCtorEq] at h <;> subst h <;>
    simp only [printable_append, printable_fixed6, h₁, h₂, h₃, h₄, h₅, h₆, h₇, and_self]

theorem printable_getDataString (frame : Sensor) : Printable (getDataString frame) := by
  rw [getDataString_eq]
  cases htext : plainReading frame.data frame.type with
  | none => exact printable_nil
  | some text => exact printable_plainReading htext

theorem printable_getTime (localtime : ℤ → Option Tm) (frame : Sensor) :
    Printable (getTime localtime frame) := by
  unfold getTime
  split
  · exact printable_nil
  · rename_i info _
    unfold strftime
    split_ifs
    · exact printable_stamp info
    · exact printable_nil

theorem length_getTime_lt (localtime : ℤ → Option Tm) (frame : Sensor) :
    (getTime localtime frame).length < interBufSize := by
  unfold getTime
  split
  · decide
  · rename_i info _
    cases h : strftime interBufSize info with
    | none => simp [interBufSize]
    | some text => exact length_strftime_lt h

/-! ### Names -/

theorem SensorType.Supported.exists_nameBase {type : SensorType} (h : type.Supported) :
    ∃ base, nameBase type = some base ∧ base.length ≤ 5 ∧ Printable base := by
  simp only [Supported, List.mem_cons, List.not_mem_nil, or_false] at h
  rcases h with rfl | rfl | rfl | rfl <;> exact ⟨_, rfl, by decide, by decide⟩

theorem length_nameSensor_lt (id : UInt16) (type : SensorType) :
    (nameSensor id type).length < sensorNameSize := by
  unfold nameSensor
  split
  · decide
  · exact length_snprintf_lt (by decide) _

/-- The longest names fill their buffer, and none is cut. -/
theorem length_name_le {base : List Char} (h : base.length ≤ 5) (id : UInt16) :
    (base ++ "_0X".toList ++ Nat.toDigits 16 id.toNat).length < sensorNameSize := by
  have hid : (Nat.toDigits 16 id.toNat).length ≤ 4 :=
    (Nat.length_toDigits_le_iff (by norm_num) (by norm_num)).mpr id.toNat_lt
  have hfix : ("_0X".toList).length = 3 := by decide
  rw [List.length_append, List.length_append, hfix, sensorNameSize]
  omega

theorem nameSensor_eq {type : SensorType} {base : List Char} (hbase : nameBase type = some base)
    (hlen : base.length ≤ 5) (id : UInt16) :
    nameSensor id type = base ++ "_0X".toList ++ Nat.toDigits 16 id.toNat := by
  simp only [nameSensor, hbase]
  exact snprintf_of_lt (length_name_le hlen id)

theorem printable_nameSensor (id : UInt16) {type : SensorType} (h : type.Supported) :
    Printable (nameSensor id type) := by
  obtain ⟨base, hbase, hlen, hprint⟩ := h.exists_nameBase
  rw [nameSensor_eq hbase hlen, printable_append, printable_append]
  exact ⟨⟨hprint, by decide⟩, printable_toDigits (by norm_num) (by norm_num) _⟩

/-- Different sensors have different names. -/
theorem nameSensor_inj {id id' : UInt16} {type type' : SensorType} (h : type.Supported)
    (h' : type'.Supported) (heq : nameSensor id type = nameSensor id' type') :
    id = id' ∧ type = type' := by
  obtain ⟨base, hbase, hlen, -⟩ := h.exists_nameBase
  obtain ⟨base', hbase', hlen', -⟩ := h'.exists_nameBase
  rw [nameSensor_eq hbase hlen, nameSensor_eq hbase' hlen'] at heq
  -- the stems differ in one of their first two letters
  have htype : type = type' := by
    simp only [SensorType.Supported, List.mem_cons, List.not_mem_nil, or_false] at h h'
    rcases h with rfl | rfl | rfl | rfl <;> rcases h' with rfl | rfl | rfl | rfl <;>
      cases hbase <;> cases hbase' <;> first | rfl | (simp at heq)
  subst htype
  obtain rfl := Option.some.inj (hbase.symm.trans hbase')
  have hdigits := toDigits_injective (by norm_num) le_rfl (List.append_cancel_left heq)
  exact ⟨UInt16.toNat_inj.mp hdigits, rfl⟩

end Gateway
