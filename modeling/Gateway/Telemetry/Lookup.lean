import Gateway.Processing
import Gateway.Telemetry.Memory

/-!
# Which sensor `GET ID` shows

The registry knows a sensor by its id and type.  `getSensor_ID` looks for the id alone and takes the
first entry that has it, and `giveSensor` chooses the format by the id alone.

`shownByID_iff` says for which entries the answer is the entry's own.
-/

namespace Gateway
namespace Telemetry

open CText Processing

/-- The latency sensor. -/
def latencyKey : SensorKey := ⟨latencyID, .powCurrVolt⟩

/-- The line that an entry ought to be shown with: the time stamp for the latency sensor, otherwise
its time, name and reading. -/
def ownText (localtime : ℤ → Option Tm) (e : Sensor) : List Char :=
  if e.key = latencyKey then latencyText e else readingText localtime e

/-- The answer to `GET ID` with the id of the entry `e` is made from `e` and is its own line. -/
def ShownByID (s : State) (e : Sensor) : Prop :=
  getSensorID e.id s.sensorRegistry s.sensorCount = .ok e ∧
    ∀ localtime allocated sock,
      respond localtime allocated s (.getID e.id) sock =
        .ok (thenEnd (sock.send (ownText localtime e)))

variable {fresh : ℕ → Sensor} {s : State} {e : Sensor}

/-! ### The lookup -/

theorem Represents.nodup_keys (h : Represents fresh s) : (s.entries.map Sensor.key).Nodup := by
  rw [h.map_key_entries, ← keys_eventKey]
  exact KeyedTable.nodup_keys _

theorem find?_map_key (id : UInt16) (l : List Sensor) :
    (l.map Sensor.key).find? (·.id = id) = (l.find? (·.id = id)).map Sensor.key := by
  rw [List.find?_map]
  rfl

/-- The entry of a sensor is found by its id exactly when no other sensor of that id is before
it. -/
theorem Represents.find?_id_iff (h : Represents fresh s) (he : e ∈ s.entries) :
    s.entries.find? (·.id = e.id) = some e ↔
      (sensors (frames s.history)).find? (·.id = e.id) = some e.key := by
  rw [← h.map_key_entries, find?_map_key]
  constructor
  · intro hfind
    rw [hfind]
    rfl
  · intro hfind
    obtain ⟨e', he', hkey⟩ := Option.map_eq_some_iff.mp hfind
    have hmem : e' ∈ s.entries := List.mem_of_find?_eq_some he'
    rw [he', List.inj_on_of_nodup_map h.nodup_keys hmem he hkey]

theorem getSensorID_iff (hb : Bounds s) (h : Represents fresh s) (he : e ∈ s.entries) :
    getSensorID e.id s.sensorRegistry s.sensorCount = .ok e ↔
      (sensors (frames s.history)).find? (·.id = e.id) = some e.key := by
  rw [← h.find?_id_iff he, hb.lookup_eq, Except.ok.injEq]
  cases hfind : s.entries.find? (·.id = e.id) with
  | none => exact absurd (List.find?_eq_none.mp hfind e he) (by simp)
  | some e' => simp

/-! ### The format -/

theorem sensorText_eq_ownText (localtime : ℤ → Option Tm)
    (h : e.id = latencyID → e.type = .powCurrVolt) :
    sensorText localtime e = ownText localtime e := by
  unfold sensorText ownText
  by_cases hid : e.id = latencyID
  · have hkey : e.key = latencyKey := by simp [Sensor.key, latencyKey, hid, h hid]
    rw [if_pos hid, if_pos hkey]
  · have hkey : e.key ≠ latencyKey := fun hk => hid (congrArg SensorKey.id hk)
    rw [if_neg hid, if_neg hkey]

/-- A line of the other format starts with another letter. -/
theorem latencyText_append_ne (e e' : Sensor) (rest rest' : List Char) :
    latencyText e ++ rest ≠ readingText (fun _ => none) e' ++ rest' := by
  have hlatency : "LATENCY: ".toList = 'L' :: "ATENCY: ".toList := by decide
  have hcolon : ": ".toList = ':' :: [' '] := by decide
  unfold latencyText readingText getTime
  simp only [hlatency, hcolon, List.nil_append, List.cons_append]
  intro h
  exact absurd (List.cons.inj h).1 (by decide)

theorem type_of_shown (hid : e.id = latencyID) (hname : e.name.length < sensorNameSize)
    (h : ShownByID s e) : e.type = .powCurrVolt := by
  by_contra htype
  have hkey : e.key ≠ latencyKey := fun hk => htype (congrArg SensorKey.type hk)
  obtain ⟨hlookup, hanswer⟩ := h
  have hown := hanswer (fun _ => none) true ⟨[], []⟩
  simp only [respond, giveSensorID, hlookup, bind, Except.bind, Except.ok.injEq,
    giveSensor_eq (length_sensorText_lt _ hname), sensorText, ownText, if_pos hid,
    if_neg hkey] at hown
  exact latencyText_append_ne e e responseEndMarker responseEndMarker
    (congrArg (fun r => r.2.sent) hown)

/-! ### Which entries are shown -/

/-- The name of an entry made from accepted frames fits its buffer. -/
theorem length_name_lt {fs : List Sensor} (hacc : ∀ f ∈ fs, Accepted f) (h : HoldsLast fs e) :
    e.name.length < sensorNameSize := by
  obtain ⟨f, hf, -, -, hname, -, -⟩ := h.1
  have hmem : f ∈ fs := (List.mem_filter.mp (List.mem_of_getLast? hf)).1
  rw [hname, (hacc f hmem).name_eq]
  exact length_nameSensor_lt f.id f.type

/-- After any accepted frames `GET ID` shows a registered sensor, with its last values and its own
line, exactly when no sensor of the same id and another type was heard before it and, for the id of
the latency sensor, it has the type of the latency sensor. -/
theorem shownByID_iff (fresh : ℕ → Sensor) (acts : List Action) (s : State)
    (hrun : run fresh acts = .ok s) (hacc : ∀ f ∈ frames s.history, Accepted f) (e : Sensor)
    (he : e ∈ s.entries) :
    HoldsLast (frames s.history) e ∧
      (ShownByID s e ↔
        (sensors (frames s.history)).find? (·.id = e.id) = some e.key ∧
          (e.id = latencyID → e.type = .powCurrVolt)) := by
  obtain ⟨t, ht, hb, h⟩ := represents_run fresh acts
  obtain rfl := Except.ok.inj (ht.symm.trans hrun)
  have hlast := h.holdsLast he
  have hname := length_name_lt hacc hlast
  refine ⟨hlast, ?_, ?_⟩
  · intro hshown
    exact ⟨(getSensorID_iff hb h he).mp hshown.1, fun hid => type_of_shown hid hname hshown⟩
  · rintro ⟨hfirst, htype⟩
    have hlookup := (getSensorID_iff hb h he).mpr hfirst
    refine ⟨hlookup, fun localtime allocated sock => ?_⟩
    simp only [respond, giveSensorID, hlookup, bind, Except.bind,
      giveSensor_eq (length_sensorText_lt localtime hname), sensorText_eq_ownText localtime htype]

/-- A torque sensor alone with its id is shown. -/
theorem shownByID_torque :
    let f : Sensor :=
      ⟨⟨0x5F, 0, 0⟩, ⟨0, 0⟩, ⟨0, 0⟩, 7, "TORQS_0X7".toList, .torque, .frameDefault, .data⟩
    generateFrame (some ⟨0, 0⟩) (some ⟨0, 0⟩) (buildPacket 0x4B 7 [0x5F, 0, 0, 0] 4)
      Sensor.zero 10 = some f ∧
    ∃ s e, run (fun _ => Sensor.zero) (serve [f]) = .ok s ∧ e ∈ s.entries ∧ e.key = f.key ∧
      ShownByID s e := by
  intro f
  have hf : generateFrame (some ⟨0, 0⟩) (some ⟨0, 0⟩) (buildPacket 0x4B 7 [0x5F, 0, 0, 0] 4)
      Sensor.zero 10 = some f := by decide +kernel
  refine ⟨hf, _, { f with state := .online }, rfl, by decide +kernel, rfl, ?_⟩
  refine ((shownByID_iff (fun _ => Sensor.zero) (serve [f]) _ rfl ?_ { f with state := .online }
    (by decide +kernel)).2).mpr ⟨by decide +kernel, by decide⟩
  intro g hg
  obtain rfl := List.mem_singleton.mp hg
  exact ⟨_, _, _, _, _, hf⟩

/-- A proximity sensor with the id of a torque sensor that was heard before it is registered, but
`GET ID` shows the torque sensor. -/
theorem proximity_shadowed :
    let f₁ : Sensor :=
      ⟨⟨0x5F, 0, 0⟩, ⟨0, 0⟩, ⟨0, 0⟩, 7, "TORQS_0X7".toList, .torque, .frameDefault, .data⟩
    let f₂ : Sensor :=
      ⟨⟨0x0A, 0, 0⟩, ⟨0, 0⟩, ⟨0, 0⟩, 7, "PROXS_0X7".toList, .proximity, .frameDefault, .data⟩
    generateFrame (some ⟨0, 0⟩) (some ⟨0, 0⟩) (buildPacket 0x4B 7 [0x5F, 0, 0, 0] 4)
      Sensor.zero 10 = some f₁ ∧
    generateFrame (some ⟨0, 0⟩) (some ⟨0, 0⟩) (buildPacket 0x8B 7 [0x0A, 0, 0, 0] 4)
      Sensor.zero 10 = some f₂ ∧
    ∃ s e, run (fun _ => Sensor.zero) (serve [f₁, f₂]) = .ok s ∧ e ∈ s.entries ∧ e.key = f₂.key ∧
      respond (fun _ => some ⟨70, 0, 1, 0, 0, 0⟩) true s (.getID 7) ⟨[], []⟩ =
        .ok (true, ⟨[], "1970-01-01 00:00:00: TORQS_0X7: 9.500000Nm\nEND\n".toList⟩) ∧
      ¬ ShownByID s e := by
  intro f₁ f₂
  refine ⟨by decide +kernel, by decide +kernel, _, { f₂ with state := .online }, rfl,
    by decide +kernel, rfl, by decide +kernel, ?_⟩
  intro hshown
  exact absurd hshown.1 (by decide +kernel)

end Telemetry
end Gateway
