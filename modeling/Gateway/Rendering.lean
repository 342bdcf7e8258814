import Gateway.Lib.CScan
import Gateway.Logging
import Gateway.Telemetry.Lookup

/-!
# What the daemons print

`loggingd` prints a reading into a record line and `telemetryd` into a line of an answer, each
through several buffers of fixed sizes.

* `formatting_safe`: for an accepted packet every text fits its buffer, so that only a failing
  system call can stop `loggingd` at a frame, and `giveSensor` always has its line;
* `denotes_iff`: for which payloads the numbers shown are the fields of the payload.
-/

namespace Gateway
namespace Rendering

open CText LittleEndian Logging Processing Segmented Telemetry

/-! ### Every text fits -/

/-- The factors that a measurement is divided by. -/
def scales : List ℕ :=
  [temperatureScale, pressureScale, voltageScale, currentScale, powerScale, torqueScale,
    proximityScale]

theorem pos_of_mem_scales {scale : ℕ} (h : scale ∈ scales) : 0 < scale := by
  revert scale
  decide

/-- No step of `telemetryd` finds the type of a sensor unsupported. -/
theorem not_sensorUnsupported (fresh : ℕ → Sensor) {acts : List Telemetry.Action}
    {s : Telemetry.State} (hrun : Telemetry.run fresh acts = .ok s) :
    s.place ≠ .exited .sensorUnsupported := by
  have hrule : ∃ s, Telemetry.run fresh acts = .ok s ∧
      (Bounds s ∧ s.place ≠ .exited .sensorUnsupported) := by
    refine Run.exec_rule (P := fun _ s => Bounds s ∧ s.place ≠ .exited .sensorUnsupported)
      ⟨bounds_init fresh, by simp [Telemetry.init]⟩ ?_ acts
    rintro acts a s ⟨hb, hplace⟩
    obtain ⟨s', hs', hm⟩ := hb.step_moved a
    refine ⟨s', hs', hb.of_moved hm, ?_⟩
    cases hm with
    | stay => exact hplace
    | signal => exact hplace
    | sweep => exact hplace
    | _ => simp
  obtain ⟨t, ht, -, hplace⟩ := hrule
  obtain rfl := Except.ok.inj (ht.symm.trans hrun)
  exact hplace

/-- **No accepted packet can drive a daemon into a formatting error.**  The name, the path, every
intermediate string and the line of an answer fit their buffers uncut; `loggingd` goes on after the
frame unless a system call fails; and `telemetryd` never gives up because of a type, and prints the
whole line of every entry. -/
theorem formatting_safe (localtime : ℤ → Option Tm) (f : Sensor) (hacc : Accepted f)
    (hstamp : Convertible localtime f.timestamp) :
    (∃ base, nameBase f.type = some base ∧
      f.name = base ++ "_0X".toList ++ Nat.toDigits 16 f.id.toNat ∧
      f.name.length < sensorNameSize) ∧
    (filename f).length < filenameSize ∧ logPath f = filename f ∧
    (∀ (value : Int32), ∀ scale ∈ scales, (fixed6 value.toInt scale).length < interBufSize ∧
      measurementToString interBufSize value scale = fixed6 value.toInt scale) ∧
    (∃ info, localtime f.timestamp.tvSec = some info ∧
      strftime interBufSize info = some info.stamp ∧ getTime localtime f = info.stamp) ∧
    (titleLine f.type).length < writeBufferSize ∧
    (∃ record, recordLine (getTime localtime f) f.data f.type = some record ∧
      record.length < writeBufferSize) ∧
    (plainReading f.data f.type = some (getDataString f) ∧
      (getDataString f).length < writeBufferSize) ∧
    (sensorText localtime f).length < transmitBufferSize ∧
    (∀ files calls, calls.Succeed → (handleFrame localtime f calls files).1 = true) ∧
    ∀ fresh acts s, Telemetry.run fresh acts = .ok s →
      s.place ≠ .exited .sensorUnsupported ∧
      ((∀ g ∈ frames s.history, Accepted g) → ∀ e ∈ s.entries, ∀ sock,
        (sensorText localtime e).length < transmitBufferSize ∧
        giveSensor localtime e sock = sock.send (sensorText localtime e)) := by
  obtain ⟨base, hbase, hbaselen, -⟩ := hacc.supported.exists_nameBase
  have hname : f.name = base ++ "_0X".toList ++ Nat.toDigits 16 f.id.toNat := by
    rw [hacc.name_eq, nameSensor_eq hbase hbaselen]
  have hnamelen : f.name.length < sensorNameSize := by
    rw [hname]
    exact length_name_le hbaselen f.id
  have hfile := length_filename_of_accepted hacc
  have hrecord := frameRecord_of_convertible hstamp hacc.supported
  obtain ⟨info, hinfo, hvalid⟩ := id hstamp
  have hstrf : strftime interBufSize info = some info.stamp := strftime_of_valid hvalid (by decide)
  have htime : getTime localtime f = info.stamp := by
    simp only [getTime, hinfo, hstrf, Option.getD_some]
  have hline : recordLine (getTime localtime f) f.data f.type =
      some (getTime localtime f ++ " -> ".toList ++ getDataString f ++ ['\n']) := by
    rw [← hrecord, frameRecord, hinfo, Option.bind_some, hstrf, Option.bind_some, htime]
  refine ⟨⟨base, hbase, hname, hnamelen⟩, hfile, snprintf_of_lt hfile, ?_,
    ⟨info, hinfo, hstrf, htime⟩, length_titleLine_lt f.type,
    ⟨_, hline, length_recordLine_lt (length_getTime_lt localtime f) hline⟩,
    ⟨(frameRecord_cases hrecord).1, length_getDataString_lt f⟩,
    length_sensorText_lt localtime hnamelen, ?_, ?_⟩
  · intro value scale hscale
    have hpos := pos_of_mem_scales hscale
    exact ⟨(length_fixed6_int32 value hpos).trans_lt (by decide), measurementToString_eq value hpos⟩
  · intro files calls hcalls
    rw [handleFrame_of_succeed hacc hstamp hcalls]
  · intro fresh acts s hrun
    refine ⟨not_sensorUnsupported fresh hrun, fun hframes e he sock => ?_⟩
    obtain ⟨t, ht, -, hrep⟩ := represents_run fresh acts
    obtain rfl := Except.ok.inj (ht.symm.trans hrun)
    have hlen := length_sensorText_lt localtime (length_name_lt hframes (hrep.holdsLast he))
    exact ⟨hlen, giveSensor_eq hlen sock⟩

/-- The longest name: a proximity sensor with a four-digit id. -/
theorem formatting_safe_proximity :
    let localtime : ℤ → Option Tm := fun _ => some ⟨70, 0, 1, 0, 0, 0⟩
    let f : Sensor :=
      ⟨⟨0xFFFFFFFF, 0, 0⟩, ⟨0, 0⟩, ⟨0, 0⟩, 0xFFFF, "PROXS_0Xffff".toList, .proximity, .frameDefault,
        .data⟩
    generateFrame (some ⟨0, 0⟩) (some ⟨0, 0⟩)
      (buildPacket 0x8B 0xFFFF [0xFF, 0xFF, 0xFF, 0xFF] 4) Sensor.zero 10 = some f ∧
    Convertible localtime f.timestamp ∧ f.name.length + 1 = sensorNameSize ∧
    (filename f).length < filenameSize ∧ (sensorText localtime f).length < transmitBufferSize := by
  intro localtime f
  have hf : generateFrame (some ⟨0, 0⟩) (some ⟨0, 0⟩)
      (buildPacket 0x8B 0xFFFF [0xFF, 0xFF, 0xFF, 0xFF] 4) Sensor.zero 10 = some f := by
    decide +kernel
  have hstamp : Convertible localtime f.timestamp := ⟨_, rfl, by decide⟩
  obtain ⟨-, hfile, -, -, -, -, -, -, hline, -⟩ :=
    formatting_safe localtime f ⟨_, _, _, _, _, hf⟩ hstamp
  exact ⟨hf, hstamp, by decide, hfile, hline⟩

/-! ### The numbers shown -/

/-- The payload of a packet of `size` bytes. -/
def payloadOf (buffer : List UInt8) (size : ℕ) : List UInt8 :=
  (buffer.take size).drop packetHeaderFieldsSize

/-- The little-endian field at offset `i` of a payload, without a sign. -/
def fieldAt (payload : List UInt8) (i : ℕ) : ℕ := value ((payload.drop i).take 4)

/-- A field read as `int32_t`. -/
def asSigned (n : ℕ) : ℤ := if n < 2 ^ 31 then n else n - 2 ^ 32

/-- The fields of a payload with the sign of their declared types, divided by their scales. -/
def declared (payload : List UInt8) : SensorType → List ℚ
  | .powCurrVolt =>
      [asSigned (fieldAt payload 0) / powerScale, asSigned (fieldAt payload 4) / currentScale,
        asSigned (fieldAt payload 8) / voltageScale]
  | .tempPress =>
      [asSigned (fieldAt payload 0) / temperatureScale, (fieldAt payload 4 : ℚ) / pressureScale]
  | .torque => [asSigned (fieldAt payload 0) / torqueScale]
  | .proximity => [(fieldAt payload 0 : ℚ) / proximityScale]
  | _ => []

/-- The numbers in the string of `getDataString`, and in the reading of a record line that
`writeFrameData` appends, are the fields of the payload. -/
def Denotes (f : Sensor) (payload : List UInt8) : Prop :=
  numerals (getDataString f) = declared payload f.type ∧
    ∀ localtime flag fd, (writeFrameData localtime f.data f.type f.timestamp flag fd).1 = true →
      ∃ reading, (writeFrameData localtime f.data f.type f.timestamp flag fd).2.contents =
          fd.contents ++ ((if flag then titleLine f.type else []) ++
            (getTime localtime f ++ " -> ".toList ++ reading ++ ['\n'])) ∧
        numerals reading = declared payload f.type

theorem toInt_toInt32 (w : UInt32) : w.toInt32.toInt = asSigned w.toNat := by
  have h : w.toInt32.toInt = w.toBitVec.toInt := rfl
  have hnat : w.toBitVec.toNat = w.toNat := rfl
  rw [h, BitVec.toInt_eq_toNat_cond, hnat, asSigned]
  split_ifs <;> first | rfl | omega

/-- The numbers that the reading of a frame shows. -/
theorem numerals_getDataString (f : Sensor) :
    numerals (getDataString f) =
      match f.type with
      | .powCurrVolt =>
          [asSigned f.data.word₀.toNat / powerScale, asSigned f.data.word₁.toNat / currentScale,
            asSigned f.data.word₂.toNat / voltageScale]
      | .tempPress =>
          [asSigned f.data.word₀.toNat / temperatureScale,
            asSigned f.data.word₁.toNat / pressureScale]
      | .torque => [asSigned f.data.word₀.toNat / torqueScale]
      | .proximity => [asSigned f.data.word₀.toNat / proximityScale]
      | _ => [] := by
  have hunit : ∀ unit ∈ ["W :: ".toList, "A :: ".toList, "V".toList, "C :: ".toList, "Pa".toList,
      "Nm".toList, "m".toList], unit ≠ [] ∧ ∀ c ∈ unit, isNumeral c = false := by
    intro unit hmem
    have hany : unit ≠ [] ∧ unit.any isNumeral = false := by
      revert unit
      decide
    exact ⟨hany.1, fun c hc => by simpa using List.any_eq_false.mp hany.2 c hc⟩
  have hshow : ∀ (w : UInt32) {scale : ℕ} {unit : List Char}, scale ∣ 10 ^ 6 →
      (unit ≠ [] ∧ ∀ c ∈ unit, isNumeral c = false) → ∀ text,
      numerals (fixed6 w.toInt32.toInt scale ++ (unit ++ text)) =
        (asSigned w.toNat : ℚ) / scale :: numerals text := by
    intro w scale unit hscale hu text
    rw [numerals_fixed6_append _ hscale hu.1 hu.2, toInt_toInt32]
  have hlast : ∀ (w : UInt32) {scale : ℕ} {unit : List Char}, scale ∣ 10 ^ 6 →
      (unit ≠ [] ∧ ∀ c ∈ unit, isNumeral c = false) →
      numerals (fixed6 w.toInt32.toInt scale ++ unit) = [(asSigned w.toNat : ℚ) / scale] := by
    intro w scale unit hscale hu
    have h := hshow w hscale hu []
    rwa [List.append_nil] at h
  rw [getDataString_eq]
  cases f.type with
  | powCurrVolt =>
    simp only [plainReading, Option.getD_some, List.append_assoc]
    rw [SensorData.power, hshow _ (by decide) (hunit _ (by simp)), SensorData.current,
      hshow _ (by decide) (hunit _ (by simp)), SensorData.voltage,
      hlast _ (by decide) (hunit _ (by simp))]
  | tempPress =>
    simp only [plainReading, Option.getD_some, List.append_assoc]
    rw [SensorData.temperature, hshow _ (by decide) (hunit _ (by simp)), SensorData.pressure,
      hlast _ (by decide) (hunit _ (by simp))]
  | torque => exact hlast _ (by decide) (hunit _ (by simp))
  | proximity => exact hlast _ (by decide) (hunit _ (by simp))
  | unsupported => rfl
  | unnamed value h => rfl

/-- Both renderings show the same numbers, so `getDataString` decides. -/
theorem denotes_iff_getDataString {f : Sensor} {payload : List UInt8} :
    Denotes f payload ↔ numerals (getDataString f) = declared payload f.type := by
  refine ⟨fun h => h.1, fun h => ⟨h, fun localtime flag fd hok => ?_⟩⟩
  obtain ⟨line, hline, hcontents⟩ := writeFrameData_ok hok
  obtain ⟨record, hrecord, rfl⟩ := Option.map_eq_some_iff.mp hline
  exact ⟨getDataString f, by rw [hcontents, (frameRecord_cases hrecord).2], h⟩

theorem rawWord_eq_fieldAt {buffer : List UInt8} {size i : ℕ} (hlen : size ≤ buffer.length)
    (hi : packetHeaderFieldsSize + i + 4 ≤ size) :
    (rawWord (buffer.drop packetHeaderFieldsSize) i).toNat = fieldAt (payloadOf buffer size) i := by
  have hraw : i + 4 ≤ (buffer.drop packetHeaderFieldsSize).length := by
    rw [List.length_drop]
    omega
  rw [rawWord_toNat hraw, fieldAt, payloadOf, List.drop_drop, List.drop_drop, List.drop_take,
    List.take_take, Nat.min_eq_left (by omega)]

theorem asSigned_eq_iff (n : ℕ) : asSigned n = n ↔ n < 2 ^ 31 := by
  unfold asSigned
  split_ifs with h
  · exact iff_of_true rfl h
  · exact iff_of_false (by omega) h

theorem asSigned_div_eq_iff (n : ℕ) {scale : ℕ} (hscale : 0 < scale) :
    (asSigned n : ℚ) / scale = (n : ℚ) / scale ↔ n < 2 ^ 31 := by
  have hne : (scale : ℚ) ≠ 0 := by exact_mod_cast hscale.ne'
  rw [div_left_inj' hne, ← asSigned_eq_iff]
  exact_mod_cast Iff.rfl

/-- The numbers shown for an accepted packet with a payload are the fields of the payload exactly
when the field of an unsigned type, the pressure or the proximity, is below `2 ^ 31`. -/
theorem denotes_iff (ts mono : Timespec) (buffer : List UInt8) (frame f : Sensor) (size : ℕ)
    (hlen : size ≤ buffer.length)
    (h : generateFrame (some ts) (some mono) buffer frame size = some f)
    (hdata : f.frameType = .data) :
    Denotes f (payloadOf buffer size) ↔
      (buffer.getD 1 0 = 0x1B → fieldAt (payloadOf buffer size) 4 < 2 ^ 31) ∧
        (buffer.getD 1 0 = 0x8B → fieldAt (payloadOf buffer size) 0 < 2 ^ 31) := by
  rw [denotes_iff_getDataString, numerals_getDataString]
  obtain ⟨-, -, htype, -, hsize, hf⟩ := generateFrame_eq_some_iff.mp h
  have hbyte := typeByte_findSensorType htype
  rcases hf with ⟨-, rfl⟩ | ⟨-, d, hd, rfl⟩
  · cases hdata
  have hword : ∀ i, i + 4 ≤ (word16 (buffer.getD 4 0) (buffer.getD 5 0)).toNat →
      (rawWord (buffer.drop packetHeaderFieldsSize) i).toNat = fieldAt (payloadOf buffer size) i :=
    fun i hi => rawWord_eq_fieldAt hlen (by omega)
  rcases recordSensorData_cases hd with
    ⟨ht, hl, rfl⟩ | ⟨ht, hl, rfl⟩ | ⟨ht, hl, rfl⟩ | ⟨ht, hl, rfl⟩ <;>
    rw [hl] at hword <;> rw [ht] at hbyte <;> simp only [stamped, ht, declared]
  · rw [hword 0 (by decide), hword 4 (by decide), hword 8 (by decide), ← hbyte]
    simp [typeByte, SensorType.value]
  · rw [hword 0 (by decide), hword 4 (by decide), ← hbyte]
    simp only [List.cons.injEq, and_true, true_and,
      asSigned_div_eq_iff _ (show 0 < pressureScale by decide)]
    simp [typeByte, SensorType.value]
  · rw [hword 0 (by decide), ← hbyte]
    simp [typeByte, SensorType.value]
  · rw [hword 0 (by decide), ← hbyte]
    simp only [List.cons.injEq, and_true,
      asSigned_div_eq_iff _ (show 0 < proximityScale by decide)]
    simp [typeByte, SensorType.value]

/-- A proximity of 95 is shown as 9.5. -/
theorem denotes_proximity :
    let buffer := buildPacket 0x8B 7 [0x5F, 0, 0, 0] 4
    ∃ f, generateFrame (some ⟨0, 0⟩) (some ⟨0, 0⟩) buffer Sensor.zero 10 = some f ∧
      getDataString f = "9.500000m".toList ∧ Denotes f (payloadOf buffer 10) := by
  intro buffer
  have hf : generateFrame (some ⟨0, 0⟩) (some ⟨0, 0⟩) buffer Sensor.zero 10 =
      some ⟨⟨0x5F, 0, 0⟩, ⟨0, 0⟩, ⟨0, 0⟩, 7, "PROXS_0X7".toList, .proximity, .frameDefault,
        .data⟩ := by
    decide +kernel
  refine ⟨_, hf, by decide +kernel, ?_⟩
  exact (denotes_iff _ _ buffer _ _ 10 (by decide +kernel) hf rfl).mpr
    ⟨by decide +kernel, by decide +kernel⟩

/-- The largest proximity is shown as a negative number. -/
theorem proximity_negative :
    let buffer := buildPacket 0x8B 7 [0xFF, 0xFF, 0xFF, 0xFF] 4
    ∃ f, generateFrame (some ⟨0, 0⟩) (some ⟨0, 0⟩) buffer Sensor.zero 10 = some f ∧
      getDataString f = "-0.100000m".toList ∧
      declared (payloadOf buffer 10) f.type = [4294967295 / 10] ∧
      ¬ Denotes f (payloadOf buffer 10) := by
  intro buffer
  have hf : generateFrame (some ⟨0, 0⟩) (some ⟨0, 0⟩) buffer Sensor.zero 10 =
      some ⟨⟨0xFFFFFFFF, 0, 0⟩, ⟨0, 0⟩, ⟨0, 0⟩, 7, "PROXS_0X7".toList, .proximity, .frameDefault,
        .data⟩ := by
    decide +kernel
  have hfield : fieldAt (payloadOf buffer 10) 0 = 4294967295 := by decide +kernel
  refine ⟨_, hf, by decide +kernel, ?_, ?_⟩
  · simp only [declared, hfield, proximityScale]
    norm_num
  · intro hdenotes
    have hshown := hdenotes.1
    have hword : (0xFFFFFFFF : UInt32).toNat = 4294967295 := by decide
    rw [numerals_getDataString] at hshown
    simp only [declared, hfield, hword, List.cons.injEq, and_true] at hshown
    exact absurd ((asSigned_div_eq_iff 4294967295 (by decide)).mp hshown) (by decide)

end Rendering
end Gateway
