import Gateway.Acquiring
import Gateway.Telemetry.Lookup

/-!
# The latency probe

`latency_client_thread` of `client-sensors.c` sends the time as a packet of the latency sensor:
eight bytes of seconds and four of nanoseconds.  The gateway takes them for power, current and
voltage, and `giveSensor` prints them as numbers again, which `parse_latency_response` of
`dev-interface.c` reads.

* `sentSeconds_of_rawData`, `sentNanoseconds_of_rawData`: the union holds the bytes that were sent;
* `parseLatencyResponse_latencyText`: printing and parsing are inverse;
* `latency_survives`: the whole way.
-/

namespace Gateway
namespace Latency

open Acquiring CText LittleEndian PrefixCode Processing Segmented Telemetry

def latencySensorType : UInt8 := 0x2B

/-- The payload that `latency_client_thread` writes: both numbers as they lie in memory. -/
def latencyData (seconds : Int64) (nanoseconds : Int32) : List UInt8 :=
  bytes 8 seconds.toUInt64.toNat ++ bytes 4 nanoseconds.toUInt32.toNat

/-- The packet of one pass of `latency_client_thread`. -/
def latencyPacket (seconds : Int64) (nanoseconds : Int32) : List UInt8 :=
  buildPacket latencySensorType latencyID (latencyData seconds nanoseconds) 12

/-- `parse_latency_response`: the format `LATENCY: %ld %ld` of `sscanf`, `none` for `-1`. A blank in
the format skips any blanks. -/
def parseLatencyResponse (response : List Char) : Option (ℤ × ℤ) :=
  if "LATENCY:".toList.isPrefixOf response then do
    let (seconds, rest) ← scanLong ((response.drop 8).dropWhile isSpace)
    let (nanoseconds, _) ← scanLong (rest.dropWhile isSpace)
    some (seconds, nanoseconds)
  else none

variable {seconds : Int64} {nanoseconds : Int32}

/-! ### The bytes -/

theorem length_latencyData (seconds : Int64) (nanoseconds : Int32) :
    (latencyData seconds nanoseconds).length = 12 := by
  simp [latencyData]

theorem sentSeconds_of_rawData {d : SensorData} (h : rawData d = latencyData seconds nanoseconds) :
    sentSeconds d = seconds := by
  rw [sentSeconds, h, latencyData, List.take_left' (length_bytes 8 _),
    value_bytes_of_lt seconds.toUInt64.toNat_lt, UInt64.ofNat_toNat]
  exact Int64.toInt64_toUInt64 seconds

theorem sentNanoseconds_of_rawData {d : SensorData}
    (h : rawData d = latencyData seconds nanoseconds) : sentNanoseconds d = nanoseconds := by
  rw [sentNanoseconds, h, latencyData, List.drop_left' (length_bytes 8 _),
    value_bytes_of_lt nanoseconds.toUInt32.toNat_lt, UInt32.ofNat_toNat]
  exact Int32.toInt32_toUInt32 nanoseconds

/-- Any twelve bytes are the payload of some power measurement. -/
theorem exists_powCurrVolt_payload {raw : List UInt8} (h : raw.length = 12) :
    ∃ m : Measurement, m.type = .powCurrVolt ∧ m.payload = raw := by
  have h8 : raw.take 8 = raw.take 4 ++ (raw.drop 4).take 4 := List.take_add (i := 4) (j := 4)
  have h12 : raw.take 12 = raw.take 8 ++ (raw.drop 8).take 4 := List.take_add (i := 8) (j := 4)
  refine ⟨.powCurrVolt (rawWord raw 0).toInt32 (rawWord raw 4).toInt32 (rawWord raw 8).toInt32,
    rfl, ?_⟩
  simp only [Measurement.payload, UInt32.toUInt32_toInt32]
  rw [bytes_rawWord (by omega), bytes_rawWord (by omega), bytes_rawWord (by omega), List.drop_zero,
    ← h8, ← h12, List.take_of_length_le (by omega)]

theorem rawData_of_measurement {f : Sensor} {m : Measurement} (ht : f.type = .powCurrVolt)
    (h : measurement f = some m) : rawData f.data = m.payload := by
  simp only [measurement, ht, Option.some.injEq] at h
  rw [← h]
  simp only [Measurement.payload, SensorData.power, SensorData.current, SensorData.voltage,
    UInt32.toUInt32_toInt32, rawData]

/-- The frame made from a packet of the latency sensor carries its payload. -/
theorem generateFrame_latencyPayload (ts mono : Timespec) (frame : Sensor) {payload : List UInt8}
    (hlen : payload.length = 12) :
    ∃ f, generateFrame (some ts) (some mono) (buildPacket latencySensorType latencyID payload 12)
        frame packetSize = some f ∧
      f.key = latencyKey ∧ f.frameType = .data ∧ rawData f.data = payload := by
  obtain ⟨m, hm, hpayload⟩ := exists_powCurrVolt_payload hlen
  obtain ⟨f, hf, htype, hid, hdata, hmeas⟩ := generateFrame_buildPacket ts mono frame m latencyID
  rw [hm] at htype
  rw [hpayload, hm, hlen] at hf
  refine ⟨f, hf, ?_, hdata, ?_⟩
  · rw [Sensor.key, htype, hid, latencyKey]
  · rw [rawData_of_measurement htype hmeas, hpayload]

theorem generateFrame_latencyPacket (ts mono : Timespec) (frame : Sensor) (seconds : Int64)
    (nanoseconds : Int32) :
    ∃ f, generateFrame (some ts) (some mono) (latencyPacket seconds nanoseconds) frame
        (latencyPacket seconds nanoseconds).length = some f ∧
      f.key = latencyKey ∧ f.frameType = .data ∧
      rawData f.data = latencyData seconds nanoseconds := by
  have hlen := length_latencyData seconds nanoseconds
  have hsize : (latencyPacket seconds nanoseconds).length = packetSize :=
    length_buildPacket latencySensorType latencyID (by rw [hlen]; decide)
  rw [hsize]
  exact generateFrame_latencyPayload ts mono frame hlen

/-! ### The text -/

/-- What `giveSensor` prints for the latency sensor, without the newline. -/
def latencyLine (e : Sensor) : List Char :=
  "LATENCY: ".toList ++ decimal (sentSeconds e.data).toInt ++ ' ' ::
    decimal (sentNanoseconds e.data).toInt

theorem latencyText_eq (e : Sensor) : latencyText e = latencyLine e ++ ['\n'] := rfl

theorem newline_not_mem_latencyLine (e : Sensor) : '\n' ∉ latencyLine e := by
  have hword : '\n' ∉ "LATENCY: ".toList := by decide
  have hdecimal : ∀ n, '\n' ∉ decimal n := notMem_decimal (by decide) (by decide)
  unfold latencyLine
  simp only [List.mem_append, List.mem_cons, not_or]
  exact ⟨⟨hword, hdecimal _⟩, by decide, hdecimal _⟩

/-- Parsing reads back the numbers that were printed. -/
theorem parseLatencyResponse_latencyLine (e : Sensor) :
    parseLatencyResponse (latencyLine e) =
      some ((sentSeconds e.data).toInt, (sentNanoseconds e.data).toInt) := by
  have hword : "LATENCY: ".toList = "LATENCY:".toList ++ [' '] := by decide
  have hspace : isSpace ' ' = true := by decide
  unfold latencyLine
  generalize sentSeconds e.data = seconds
  generalize sentNanoseconds e.data = nanoseconds
  have hs : scanLong (decimal seconds.toInt ++ ' ' :: decimal nanoseconds.toInt) =
      some (seconds.toInt, ' ' :: decimal nanoseconds.toInt) :=
    scanLong_decimal (Int64.le_toInt seconds) (Int64.toInt_lt seconds) (by simp)
  have hn : scanLong (decimal nanoseconds.toInt ++ []) = some (nanoseconds.toInt, []) := by
    have h₁ := Int32.le_toInt nanoseconds
    have h₂ := Int32.toInt_lt nanoseconds
    exact scanLong_decimal (by omega) (by omega) (by simp)
  rw [List.append_nil] at hn
  have hskip : ∀ text, scanLong ((' ' :: text).dropWhile isSpace) = scanLong text := by
    intro text
    rw [List.dropWhile_cons_of_pos hspace, scanLong_dropWhile]
  rw [parseLatencyResponse, hword, List.append_assoc, List.append_assoc, if_pos (by simp),
    List.drop_left' (by decide), List.singleton_append, hskip, hs]
  show (scanLong ((' ' :: decimal nanoseconds.toInt).dropWhile isSpace)).bind _ = _
  rw [hskip, hn]
  rfl

/-! ### The registry -/

/-- What `GET ID` finds for the latency sensor, when no other type has its id and nothing newer than
`f` has come. -/
theorem getSensorID_latency {fresh : ℕ → Sensor} {s : State} {f : Sensor}
    {before after : List Sensor}
    (hb : Bounds s) (h : Represents fresh s) (hframes : frames s.history = before ++ f :: after)
    (hkey : f.key = latencyKey) (hdata : f.frameType = .data)
    (htype : ∀ g ∈ before ++ after, g.id = latencyID → g.type = .powCurrVolt)
    (hafter : ∀ g ∈ after, g.id = latencyID → g.frameType = .heartbeat) :
    ∃ e, getSensorID latencyID s.sensorRegistry s.sensorCount = .ok e ∧ e.id = latencyID ∧
      e.data = f.data := by
  obtain ⟨e₀, he₀, hkey₀⟩ : ∃ e₀ ∈ s.entries, e₀.key = f.key :=
    h.exists_entry (by rw [hframes]; simp)
  rw [hkey] at hkey₀
  cases hfind : s.entries.find? (·.id = latencyID) with
  | none =>
    have hid : e₀.id = latencyID := congrArg SensorKey.id hkey₀
    exact absurd (List.find?_eq_none.mp hfind e₀ he₀) (by simp [hid])
  | some e =>
    have he : e ∈ s.entries := List.mem_of_find?_eq_some hfind
    have hid : e.id = latencyID := by simpa using List.find?_some hfind
    -- every frame with that id is one of the latency sensor
    have hekey : e.key = latencyKey := by
      obtain ⟨g, hg, hgk⟩ := h.exists_frame he
      have hgid : g.id = latencyID := (congrArg SensorKey.id hgk).trans hid
      rw [hframes, List.mem_append, List.mem_cons] at hg
      rw [← hgk]
      rcases hg with hg | rfl | hg
      · simp [Sensor.key, latencyKey, hgid, htype g (List.mem_append_left _ hg) hgid]
      · exact hkey
      · simp [Sensor.key, latencyKey, hgid, htype g (List.mem_append_right _ hg) hgid]
    have hlast : lastData e.key (frames s.history) = some f := by
      rw [hframes, hekey]
      refine lastData_append_cons before ⟨hkey, hdata⟩ fun g hg hgk => ?_
      have hgid : g.id = latencyID := congrArg SensorKey.id hgk.1
      exact absurd (hafter g hg hgid) (by simp [hgk.2])
    refine ⟨e, ?_, hid, ((h.holdsLast he).2 f hlast).1⟩
    rw [hb.lookup_eq, hfind, Option.getD_some]

/-- **A latency time stamp survives the whole way.**  The packet of any seconds and nanoseconds,
among other packets and cut up in any way, is forwarded and makes a frame `f`; and after any run in
which `f` was applied, with any frames before and after it such that the id belongs to the latency
sensor alone and no later frame of it has data, `GET ID` is answered by a line that parses to
exactly these seconds and nanoseconds. -/
theorem latency_survives (seconds : Int64) (nanoseconds : Int32) (buf : List UInt8)
    (es : List (Segmented.Event UInt8)) (before after : List (List UInt8))
    (hbuf : buf.length = packetSize) (hx : NoExit es) (hpackets : ∀ p ∈ before ++ after, IsPacket p)
    (hcont : content es = (before ++ latencyPacket seconds nanoseconds :: after).flatten)
    (ts mono : Timespec) :
    socketConnectionHandler buf es = before ++ latencyPacket seconds nanoseconds :: after ∧
    ∃ f, generateFrame (some ts) (some mono) (latencyPacket seconds nanoseconds) Sensor.zero
        (latencyPacket seconds nanoseconds).length = some f ∧
      ∀ (fresh : ℕ → Sensor) (acts : List Action) (s : State) (earlier later : List Sensor),
        run fresh acts = .ok s → frames s.history = earlier ++ f :: later →
        (∀ g ∈ earlier ++ later, g.id = latencyID → g.type = .powCurrVolt) →
        (∀ g ∈ later, g.id = latencyID → g.frameType = .heartbeat) →
        ∃ line, '\n' ∉ line ∧
          parseLatencyResponse line = some (seconds.toInt, nanoseconds.toInt) ∧
          ∀ localtime allocated sock, respond localtime allocated s (.getID latencyID) sock =
            .ok (thenEnd (sock.send (line ++ ['\n']))) := by
  constructor
  · refine (socketConnectionHandler_reading hbuf hx).unique isPrefixCode_isPacket ?_
    rw [hcont]
    refine reading_flatten isPrefixCode_isPacket fun p hp => ?_
    rw [List.mem_append, List.mem_cons] at hp
    rcases hp with hp | rfl | hp
    · exact hpackets p (List.mem_append_left _ hp)
    · exact isPacket_buildPacket _ _ (by rw [length_latencyData]; decide) (by decide)
    · exact hpackets p (List.mem_append_right _ hp)
  · obtain ⟨f, hf, hkey, hdata, hraw⟩ :=
      generateFrame_latencyPacket ts mono Sensor.zero seconds nanoseconds
    refine ⟨f, hf, fun fresh acts s earlier later hrun hframes htype hlater => ?_⟩
    obtain ⟨t, ht, hb, h⟩ := represents_run fresh acts
    obtain rfl := Except.ok.inj (ht.symm.trans hrun)
    obtain ⟨e, hlookup, hid, hedata⟩ := getSensorID_latency hb h hframes hkey hdata htype hlater
    have hraw' : rawData e.data = latencyData seconds nanoseconds := by rw [hedata, hraw]
    refine ⟨latencyLine e, newline_not_mem_latencyLine e, ?_, fun localtime allocated sock => ?_⟩
    · rw [parseLatencyResponse_latencyLine, sentSeconds_of_rawData hraw',
        sentNanoseconds_of_rawData hraw']
    · have htext : sensorText localtime e = latencyText e := if_pos hid
      have hlt : (sensorText localtime e).length < transmitBufferSize := by
        rw [htext]
        exact length_latencyText_lt e
      simp only [respond, giveSensorID, hlookup, bind, Except.bind, giveSensor_eq hlt, htext,
        latencyText_eq]

/-- A time stamp that arrives in two pieces, between a torque sensor and a heartbeat. -/
theorem latency_survives_torque :
    let packet : List UInt8 :=
      [0xAA, 0x2B, 0xE8, 0xFD, 12, 0, 0, 0xF1, 0x53, 0x65, 0, 0, 0, 0, 0x15, 0xCD, 0x5B, 0x07]
    let f : Sensor := ⟨⟨0x6553F100, 0, 0x075BCD15⟩, ⟨0, 0⟩, ⟨0, 0⟩, 65000, "PCVS_0Xfde8".toList,
      .powCurrVolt, .frameDefault, .data⟩
    let torque : Sensor := { Sensor.zero with id := 7, type := .torque }
    let heartbeat : Sensor := { Sensor.zero with id := 65000, type := .powCurrVolt }
    socketConnectionHandler (List.replicate packetSize 0)
        [.data 0xAA [0x2B, 0xE8], .eintr false, .data 0xFD (packet.drop 4), .fail] = [packet] ∧
    generateFrame (some ⟨0, 0⟩) (some ⟨0, 0⟩) packet Sensor.zero 18 = some f ∧
    ∃ s line, run (fun _ => Sensor.zero) (serve [torque, f, heartbeat]) = .ok s ∧
      parseLatencyResponse line = some (1700000000, 123456789) ∧
      respond (fun _ => none) true s (.getID 65000) ⟨[], []⟩ =
        .ok (true, ⟨[], line ++ "\nEND\n".toList⟩) := by
  intro packet f torque heartbeat
  have hpacket : latencyPacket 1700000000 123456789 = packet := by decide +kernel
  have hf : generateFrame (some ⟨0, 0⟩) (some ⟨0, 0⟩) packet Sensor.zero 18 = some f := by
    decide +kernel
  obtain ⟨hhandler, f', hf', hall⟩ := latency_survives 1700000000 123456789
    (List.replicate packetSize 0)
    [.data 0xAA [0x2B, 0xE8], .eintr false, .data 0xFD (packet.drop 4), .fail]
    [] [] (by decide) (by decide) (by simp) (by decide +kernel) ⟨0, 0⟩ ⟨0, 0⟩
  rw [hpacket] at hhandler hf'
  obtain rfl := Option.some.inj (hf.symm.trans hf')
  obtain ⟨line, -, hparse, hanswer⟩ := hall (fun _ => Sensor.zero) (serve [torque, f, heartbeat]) _
    [torque] [heartbeat] rfl rfl (by decide) (by decide)
  refine ⟨hhandler, hf, _, line, rfl, hparse, ?_⟩
  rw [show (65000 : UInt16) = latencyID from rfl, hanswer]
  simp [Socket.send, thenEnd, sendResponseEnd, Segmented.sendAll, responseEndMarker]

end Latency
end Gateway
