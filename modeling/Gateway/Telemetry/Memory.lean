import Gateway.Telemetry.Registry
import Gateway.Telemetry.Response

/-!
# What the registry owes to its memory

`malloc` and `realloc` return cells with arbitrary contents.  `updateRegistry` overwrites all of an
entry but the reading, and the reading only with a data frame, so what is left of the old contents
shows through until the sensor sends data.

* `Control`: the state without the cells moves on its own, so two runs with the same actions over
  different memories differ in the cells only;
* `foldl_applyEvent_eq_iff`: when two cells with different contents become equal;
* `memoryIndependent_iff`: which sequences of frames leave no trace of the memory.
-/

namespace Gateway
namespace Telemetry

open CText KeyedTable

/-- What is reported after the frames `fs` does not depend on the memory: any two runs with the same
actions that have handled `fs` and go on hold the same entries and give the same answers. -/
def MemoryIndependent (fs : List Sensor) : Prop :=
  ∀ acts fresh₁ fresh₂ s₁ s₂, run fresh₁ acts = .ok s₁ → run fresh₂ acts = .ok s₂ →
    s₁.handled = fs → s₁.Running →
    s₁.entries = s₂.entries ∧
      ∀ localtime allocated req sock,
        respond localtime allocated s₁ req sock = respond localtime allocated s₂ req sock

/-! ### Control -/

/-- Everything a state holds but the cells. -/
structure Control where
  sensorCount : ℕ
  sensorReallocation : ℕ
  throughputFrameCount : UInt64
  exitRQ : Bool
  place : Place
  history : List Event

def State.control (s : State) : Control where
  sensorCount := s.sensorCount
  sensorReallocation := s.sensorReallocation
  throughputFrameCount := s.throughputFrameCount
  exitRQ := s.exitRQ
  place := s.place
  history := s.history

/-- One action, as far as the cells do not matter. Which sensors are known is read off the
history. -/
def Control.step (c : Control) (a : Action) : Control :=
  if idle c.place a then c
  else
    match a, c.place with
    | .growth allocated, _ =>
        if c.exitRQ then { c with place := .exited .requested }
        else if sensorAllocationCount * c.sensorReallocation ≤ c.sensorCount ∧
            c.sensorCount < sensorsLimitMax then
          if allocated then
            { c with
              sensorReallocation := newReallocation c.sensorReallocation
              place := .waiting }
          else { c with place := .exited .reallocFailed }
        else { c with place := .waiting }
    | .receive (.frame f), _ =>
        { c with place := .received f, throughputFrameCount := c.throughputFrameCount + 1 }
    | .receive .incomplete, _ => { c with place := .top }
    | .receive .failed, _ =>
        if c.exitRQ then { c with place := .exited .requested }
        else { c with place := .exited .receiveFailed }
    | .update, .received f =>
        if f.key ∈ sensors (frames c.history) then
          { c with place := .top, history := c.history ++ [.frame f] }
        else if c.sensorCount < sensorsLimitMax then
          { c with
            sensorCount := c.sensorCount + 1
            place := .top
            history := c.history ++ [.frame f] }
        else { c with place := .exited (.registryFull f) }
    | .sweep t, _ => { c with history := c.history ++ [.sweep t] }
    | .signal, _ => { c with exitRQ := true }
    | _, _ => c

variable {fresh fresh₁ fresh₂ : ℕ → Sensor} {s s' : State} {a : Action}

/-- The control moves on its own. -/
theorem Represents.control_moved (h : Represents fresh s) (hm : Moved fresh s a s') :
    s'.control = s.control.step a := by
  cases hm with
  | stay _ hidle => simp [Control.step, State.control, hidle]
  | signal hplace => simp [Control.step, State.control, idle_signal hplace]
  | exit ok hplace hexit => simp [Control.step, State.control, hplace, hexit, idle]
  | interrupted hplace hexit => simp [Control.step, State.control, hplace, hexit, idle]
  | receiveFailed hplace hexit => simp [Control.step, State.control, hplace, hexit, idle]
  | reallocFailed hplace hexit hfull hlimit =>
    have hfull' : sensorAllocationCount * s.sensorReallocation ≤ s.sensorCount := hfull
    simp [Control.step, State.control, hplace, hexit, hfull', hlimit, idle]
  | wait ok hplace hexit hn =>
    have hn' : ¬ (sensorAllocationCount * s.sensorReallocation ≤ s.sensorCount ∧
      s.sensorCount < sensorsLimitMax) := hn
    simp only [Control.step, State.control, hplace, hexit, hn', idle, if_false, Bool.false_eq_true]
  | grow hplace hexit hfull hlimit =>
    have hfull' : sensorAllocationCount * s.sensorReallocation ≤ s.sensorCount := hfull
    simp [Control.step, State.control, hplace, hexit, hfull', hlimit, idle]
  | receive f hplace => simp [Control.step, State.control, hplace, idle]
  | skip hplace => simp [Control.step, State.control, hplace, idle]
  | full f hplace hnew hlimit =>
    rw [h.map_key_entries] at hnew
    simp [Control.step, State.control, hplace, hnew, not_lt.mpr hlimit, idle]
  | known f hplace hknown =>
    rw [h.map_key_entries] at hknown
    simp [Control.step, State.control, hplace, hknown, idle]
  | new f hplace hnew hlimit =>
    rw [h.map_key_entries] at hnew
    simp [Control.step, State.control, hplace, hnew, hlimit, idle]
  | sweep t hplace => simp [Control.step, State.control, idle_sweep t hplace]

/-- The control before the first pass. -/
def Control.start : Control where
  sensorCount := 0
  sensorReallocation := 1
  throughputFrameCount := 0
  exitRQ := false
  place := .top
  history := []

/-- The control after a run is a function of its actions. -/
theorem control_run (fresh : ℕ → Sensor) (acts : List Action) :
    ∃ s, run fresh acts = .ok s ∧ Bounds s ∧ Represents fresh s ∧
      s.control = acts.foldl Control.step Control.start := by
  refine Run.exec_rule
    (P := fun acts s => Bounds s ∧ Represents fresh s ∧
      s.control = acts.foldl Control.step Control.start)
    ⟨bounds_init fresh, represents_init fresh, rfl⟩ ?_ acts
  rintro acts a s ⟨hb, h, hc⟩
  obtain ⟨s', hs', hm⟩ := hb.step_moved a
  refine ⟨s', hs', hb.of_moved hm, h.of_moved hb hm, ?_⟩
  rw [h.control_moved hm, hc, List.foldl_concat]

/-! ### What is left of a cell's contents -/

/-- An entry without its reading. -/
def withoutReading (e : Sensor) : Sensor := { e with data := ⟨0, 0, 0⟩, timestamp := ⟨0, 0⟩ }

theorem eq_iff_withoutReading {e₁ e₂ : Sensor} :
    e₁ = e₂ ↔ withoutReading e₁ = withoutReading e₂ ∧
      (e₁.data, e₁.timestamp) = (e₂.data, e₂.timestamp) := by
  constructor
  · rintro rfl
    exact ⟨rfl, rfl⟩
  · rintro ⟨hw, hr⟩
    obtain ⟨hdata, htime⟩ := Prod.mk_inj.mp hr
    simp only [withoutReading, Sensor.mk.injEq, true_and] at hw
    exact Sensor.ext hdata htime hw.1 hw.2.1 hw.2.2.1 hw.2.2.2.1 hw.2.2.2.2.1 hw.2.2.2.2.2

theorem withoutReading_updateRegistry (f e₁ e₂ : Sensor) :
    withoutReading (updateRegistry f e₁) = withoutReading (updateRegistry f e₂) := by
  simp [withoutReading, updateRegistry]

theorem withoutReading_markState (t : Timespec) (e : Sensor) :
    withoutReading (markState t e) = markState t (withoutReading e) := rfl

/-- Past the reading, entries that agree stay in agreement. -/
theorem withoutReading_foldl (es : List Event) {e₁ e₂ : Sensor}
    (h : withoutReading e₁ = withoutReading e₂) :
    withoutReading (es.foldl applyEvent e₁) = withoutReading (es.foldl applyEvent e₂) := by
  induction es generalizing e₁ e₂ with
  | nil => exact h
  | cons ev es ih =>
    rw [List.foldl_cons, List.foldl_cons]
    apply ih
    cases ev with
    | frame f => exact withoutReading_updateRegistry f e₁ e₂
    | sweep t =>
      show withoutReading (markState t e₁) = withoutReading (markState t e₂)
      rw [withoutReading_markState, withoutReading_markState, h]

/-- From a first frame on, two cells become equal exactly when a data frame comes or their readings
were equal from the start. -/
theorem foldl_applyEvent_eq_iff {f : Sensor} {es : List Event} {e₁ e₂ : Sensor} :
    (Event.frame f :: es).foldl applyEvent e₁ = (Event.frame f :: es).foldl applyEvent e₂ ↔
      (∃ g ∈ frames (.frame f :: es), g.frameType = .data) ∨
        (e₁.data, e₁.timestamp) = (e₂.data, e₂.timestamp) := by
  have hrest : withoutReading ((Event.frame f :: es).foldl applyEvent e₁) =
      withoutReading ((Event.frame f :: es).foldl applyEvent e₂) :=
    withoutReading_foldl es (withoutReading_updateRegistry f e₁ e₂)
  rw [eq_iff_withoutReading, and_iff_right hrest, foldl_applyEvent_data, foldl_applyEvent_data]
  cases hlast : ((frames (.frame f :: es)).filter (·.frameType = .data)).getLast? with
  | some g =>
    have hg := List.mem_filter.mp (List.mem_of_getLast? hlast)
    simp only [true_iff]
    exact Or.inl ⟨g, hg.1, by simpa using hg.2⟩
  | none =>
    rw [List.getLast?_eq_none_iff, List.filter_eq_nil_iff] at hlast
    simp only [iff_or_self]
    rintro ⟨g, hg, hdata⟩
    exact absurd hdata (by simpa using hlast g hg)

/-- The tables of one history over two memories. -/
theorem table_eq_of_data {es : List Event}
    (h : ∀ f ∈ frames es, ∃ g ∈ frames es, g.key = f.key ∧ g.frameType = .data) :
    table eventKey applyEvent fresh₁ es = table eventKey applyEvent fresh₂ es := by
  rw [table_eq_iff]
  intro i k hk
  have hmem : k ∈ keys eventKey es := List.mem_of_getElem? hk
  obtain ⟨f, hf, rfl⟩ := mem_sensors.mp (keys_eventKey es ▸ hmem)
  obtain ⟨g, hg, hgk, hgd⟩ := h f hf
  obtain ⟨e, rest, he, hcell⟩ := exists_cell_eq_cons hmem
  cases e with
  | sweep t => cases he
  | frame f' =>
    rw [hcell, foldl_applyEvent_eq_iff, ← hcell, frames_cell]
    exact Or.inl ⟨g, List.mem_filter.mpr ⟨hg, by simpa using hgk⟩, hgd⟩

theorem data_of_table_eq {es : List Event} {f : Sensor} (hf : f ∈ frames es)
    (hne : ∀ i, (fresh₁ i).timestamp ≠ (fresh₂ i).timestamp)
    (h : table eventKey applyEvent fresh₁ es = table eventKey applyEvent fresh₂ es) :
    ∃ g ∈ frames es, g.key = f.key ∧ g.frameType = .data := by
  have hmem : f.key ∈ keys eventKey es := keys_eventKey es ▸ mem_sensors.mpr ⟨f, hf, rfl⟩
  obtain ⟨i, hi⟩ := List.getElem?_of_mem hmem
  have hfold := (table_eq_iff es).mp h i f.key hi
  obtain ⟨e, rest, he, hcell⟩ := exists_cell_eq_cons hmem
  cases e with
  | sweep t => cases he
  | frame f' =>
    rw [hcell, foldl_applyEvent_eq_iff, ← hcell, frames_cell] at hfold
    rcases hfold with ⟨g, hg, hgd⟩ | hsame
    · obtain ⟨hg, hgk⟩ := List.mem_filter.mp hg
      exact ⟨g, hg, by simpa using hgk, hgd⟩
    · exact absurd (Prod.mk_inj.mp hsame).2 (hne i)

/-! ### A run for every sequence of frames -/

/-- The actions that take the frames `fs` one after the other. -/
def serve (fs : List Sensor) : List Action :=
  fs.flatMap fun f => [.growth true, .receive (.frame f), .update]

/-- The control after taking one more frame. -/
theorem Control.serve_step {c : Control} {f : Sensor} (hplace : c.place = .top)
    (hexit : c.exitRQ = false)
    (hroom : f.key ∈ sensors (frames c.history) ∨ c.sensorCount < sensorsLimitMax) :
    let c' := ((c.step (.growth true)).step (.receive (.frame f))).step .update
    c'.place = .top ∧ c'.exitRQ = false ∧ c'.history = c.history ++ [.frame f] := by
  have hwait : (c.step (.growth true)).place = .waiting ∧ (c.step (.growth true)).exitRQ = false ∧
      (c.step (.growth true)).history = c.history ∧
      (c.step (.growth true)).sensorCount = c.sensorCount := by
    simp only [Control.step, hplace, hexit, idle, Bool.false_eq_true, if_false, if_true]
    split_ifs <;> simp
  generalize c.step (.growth true) = c₁ at hwait ⊢
  obtain ⟨hp₁, hx₁, hh₁, hc₁⟩ := hwait
  rw [← hh₁, ← hc₁] at hroom
  rw [← hh₁]
  by_cases hk : f.key ∈ sensors (frames c₁.history)
  · simp [Control.step, hp₁, hx₁, idle, hk]
  · have hlt := hroom.resolve_left hk
    simp [Control.step, hp₁, hx₁, idle, hk, hlt]

theorem frames_map_frame (fs : List Sensor) : frames (fs.map Event.frame) = fs := by
  rw [frames, List.filterMap_map]
  exact List.filterMap_some

/-- Taking any frames of no more than `sensorsLimitMax` sensors ends at the top of the loop. -/
theorem foldl_serve {fs : List Sensor} (hfew : (sensors fs).length ≤ sensorsLimitMax) :
    let c := (serve fs).foldl Control.step Control.start
    c.place = .top ∧ c.exitRQ = false ∧ c.history = fs.map Event.frame := by
  induction fs using List.reverseRecOn with
  | nil => exact ⟨rfl, rfl, rfl⟩
  | append_singleton fs f ih =>
    have hsensors := sensors_concat fs f
    have hle : (sensors fs).length ≤ (sensors (fs ++ [f])).length := by
      rw [hsensors]
      split_ifs <;> simp
    obtain ⟨hplace, hexit, hhist⟩ := ih (hle.trans hfew)
    -- the count of the real run is the number of sensors heard
    obtain ⟨s, -, hb, h, hc⟩ := control_run (fun _ => Sensor.zero) (serve fs)
    have hcount : ((serve fs).foldl Control.step Control.start).sensorCount =
        (sensors fs).length := by
      have hs := h.sensorCount_eq hb
      change s.control.sensorCount = (sensors (frames s.control.history)).length at hs
      rwa [hc, hhist, frames_map_frame] at hs
    have hserve : serve (fs ++ [f]) = serve fs ++ [.growth true, .receive (.frame f), .update] := by
      simp [serve]
    rw [hserve, List.foldl_append, List.map_append, ← hhist]
    refine Control.serve_step hplace hexit ?_
    rw [hhist, frames_map_frame, hcount]
    by_cases hk : f.key ∈ sensors fs
    · exact Or.inl hk
    · rw [length_sensors_concat hk] at hfew
      exact Or.inr (by omega)

theorem exists_run_serve (fresh : ℕ → Sensor) {fs : List Sensor}
    (hfew : (sensors fs).length ≤ sensorsLimitMax) :
    ∃ s, run fresh (serve fs) = .ok s ∧ Bounds s ∧ Represents fresh s ∧ s.handled = fs ∧ s.Running ∧
      s.history = fs.map Event.frame := by
  obtain ⟨s, hs, hb, h, hc⟩ := control_run fresh (serve fs)
  obtain ⟨hplace, -, hhist⟩ := foldl_serve hfew
  rw [← hc] at hplace hhist
  have hp : s.place = .top := hplace
  have hh : s.history = fs.map Event.frame := hhist
  have hrunning : s.Running := by simp [State.Running, hp]
  refine ⟨s, hs, hb, h, ?_, hrunning, hh⟩
  rw [handled_of_running hrunning, hh, frames_map_frame]

/-! ### Which sequences leave no trace -/

/-- What the registry reports after frames of no more than `sensorsLimitMax` sensors is independent
of the memory exactly when each sensor has sent data. -/
theorem memoryIndependent_iff (fs : List Sensor) (hfew : (sensors fs).length ≤ sensorsLimitMax) :
    MemoryIndependent fs ↔ ∀ f ∈ fs, ∃ g ∈ fs, g.key = f.key ∧ g.frameType = .data := by
  constructor
  · intro hind f hf
    obtain ⟨s₁, hs₁, -, h₁, hhandled, hrunning, hhist₁⟩ :=
      exists_run_serve (fun _ => Sensor.zero) hfew
    obtain ⟨s₂, hs₂, -, h₂, -, -, hhist₂⟩ :=
      exists_run_serve (fun _ => { Sensor.zero with timestamp := ⟨1, 0⟩ }) hfew
    obtain ⟨hentries, -⟩ := hind _ _ _ s₁ s₂ hs₁ hs₂ hhandled hrunning
    rw [h₁.entries_eq, h₂.entries_eq, hhist₁, hhist₂] at hentries
    have hdata := data_of_table_eq (f := f) (by rwa [frames_map_frame]) (by simp [Sensor.zero])
      hentries
    rwa [frames_map_frame] at hdata
  · intro hdata acts fresh₁ fresh₂ s₁ s₂ hs₁ hs₂ hhandled hrunning
    obtain ⟨t₁, ht₁, hb₁, h₁, hc₁⟩ := control_run fresh₁ acts
    obtain ⟨t₂, ht₂, hb₂, h₂, hc₂⟩ := control_run fresh₂ acts
    obtain rfl := Except.ok.inj (ht₁.symm.trans hs₁)
    obtain rfl := Except.ok.inj (ht₂.symm.trans hs₂)
    have hhist : t₁.history = t₂.history := congrArg Control.history (hc₁.trans hc₂.symm)
    have hentries : t₁.entries = t₂.entries := by
      rw [h₁.entries_eq, h₂.entries_eq, ← hhist]
      apply table_eq_of_data
      rwa [← handled_of_running hrunning, hhandled]
    exact ⟨hentries, fun localtime allocated req sock => hb₁.respond_congr hb₂ hentries req⟩

/-- A torque sensor that has sent data leaves no trace of the memory. -/
theorem memoryIndependent_torque :
    MemoryIndependent [{ Sensor.zero with id := 7, type := .torque, frameType := .data }] :=
  (memoryIndependent_iff [{ Sensor.zero with id := 7, type := .torque, frameType := .data }]
    (by decide)).mpr (by simp)

/-- After one heartbeat of a torque sensor the entry, and with it the answer to `GET ALL`, shows the
cell that the allocator returned. -/
theorem heartbeat_shows_memory :
    let f : Sensor := { Sensor.zero with id := 7, type := .torque, name := "TORQS_0X7".toList }
    let fresh₂ : ℕ → Sensor := fun _ => { Sensor.zero with data := ⟨1, 0, 0⟩ }
    let localtime : ℤ → Option Tm := fun _ => some ⟨70, 0, 1, 0, 0, 0⟩
    ¬ MemoryIndependent [f] ∧
    ∃ s₁ s₂, run (fun _ => Sensor.zero) (serve [f]) = .ok s₁ ∧ run fresh₂ (serve [f]) = .ok s₂ ∧
      s₁.handled = [f] ∧ s₂.handled = [f] ∧
      respond localtime true s₁ .getAll ⟨[], []⟩ =
        .ok (true, ⟨[], "1970-01-01 00:00:00: TORQS_0X7: 0.000000Nm\nEND\n".toList⟩) ∧
      respond localtime true s₂ .getAll ⟨[], []⟩ =
        .ok (true, ⟨[], "1970-01-01 00:00:00: TORQS_0X7: 0.100000Nm\nEND\n".toList⟩) := by
  intro f fresh₂ localtime
  refine ⟨fun hind => ?_, _, _, rfl, rfl, rfl, rfl, by decide +kernel, by decide +kernel⟩
  obtain ⟨hentries, -⟩ := hind (serve [f]) (fun _ => Sensor.zero) fresh₂ _ _ rfl rfl rfl
    (by simp [State.Running])
  revert hentries
  decide +kernel

end Telemetry
end Gateway
