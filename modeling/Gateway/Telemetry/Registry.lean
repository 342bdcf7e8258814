import Gateway.Telemetry.Loop
import Gateway.Lib.KeyedTable

/-!
# The registry as a keyed table

What the registry is for: one entry for each sensor that has been heard, in the order in which they
were first heard, holding the last reading and the last sign of life.  The abstract registry is
`KeyedTable.table` over the history of frames and sweeps; the array of `telemetryd`, with its linear
search, its partial updates and its growth, holds exactly that table in its first `sensorCount`
cells (`Represents`, `represents_run`).

* `applyEvent`: what an event makes of an entry;
* `lastFrame`, `lastData`: the last frame, and the last data frame, of a sensor;
* `received_run`: every frame received is handled, in order, but the one in hand;
* `registry_refines`: what the entries are after any frames with any sweeps between them, and when
  the loop gives up because the registry is full.
-/

namespace Gateway
namespace Telemetry

open KeyedTable

/-- The sensor an event is about; a sweep is about all of them. -/
def eventKey : Event → Option SensorKey
  | .frame f => some f.key
  | .sweep _ => none

/-- What an event makes of an entry that it reaches. -/
def applyEvent (e : Sensor) : Event → Sensor
  | .frame f => updateRegistry f e
  | .sweep t => markState t e

/-- The frame of an event, if it is one. -/
def Event.frame? : Event → Option Sensor
  | .frame f => some f
  | .sweep _ => none

/-- The frames of a history, in order. -/
def frames (es : List Event) : List Sensor := es.filterMap Event.frame?

/-- The last frame of the sensor `k`. -/
def lastFrame (k : SensorKey) (fs : List Sensor) : Option Sensor :=
  (fs.filter (·.key = k)).getLast?

/-- The last data frame of the sensor `k`. -/
def lastData (k : SensorKey) (fs : List Sensor) : Option Sensor :=
  (fs.filter fun f => f.key = k ∧ f.frameType = .data).getLast?

/-- The sensors of a sequence of frames, in the order of first occurrence. -/
def sensors (fs : List Sensor) : List SensorKey := (fs.map Sensor.key).eraseDups

/-- The entry `e` holds the last values of its sensor among `fs`. -/
def HoldsLast (fs : List Sensor) (e : Sensor) : Prop :=
  (∃ f, lastFrame e.key fs = some f ∧ e.id = f.id ∧ e.type = f.type ∧ e.name = f.name ∧
    e.lastSeenTime = f.lastSeenTime ∧ e.frameType = f.frameType) ∧
  ∀ g, lastData e.key fs = some g → e.data = g.data ∧ e.timestamp = g.timestamp

/-- The main loop has not been left. -/
def State.Running (s : State) : Prop := ∀ e, s.place ≠ .exited e

/-- The frames that the second critical section has taken: those applied to the registry, and the
one it gave up at. -/
def State.handled (s : State) : List Sensor :=
  frames s.history ++
    match s.place with
    | .exited (.registryFull f) => [f]
    | _ => []

/-- The frame that the main thread has in hand. -/
def inHand (s : State) : List Sensor :=
  match s.place with
  | .received f => [f]
  | _ => []

/-- The frame that an action brings: one that comes while the main thread waits for it. -/
def brought (s : State) (a : Action) : List Sensor :=
  match s.place, a with
  | .waiting, .receive (.frame f) => [f]
  | _, _ => []

/-- The frames that `receiveFrame` brings in a run from `s`, in order. -/
def received (fresh : ℕ → Sensor) : State → List Action → List Sensor
  | _, [] => []
  | s, a :: acts =>
      brought s a ++
        match step fresh s a with
        | .ok s' => received fresh s' acts
        | .error _ => []

/-! ### Histories -/

@[simp] theorem eventKey_frame (f : Sensor) : eventKey (.frame f) = some f.key := rfl
@[simp] theorem eventKey_sweep (t : Timespec) : eventKey (.sweep t) = none := rfl

@[simp] theorem frames_append (es es' : List Event) :
    frames (es ++ es') = frames es ++ frames es' := List.filterMap_append

@[simp] theorem frames_frame (f : Sensor) : frames [.frame f] = [f] := rfl
@[simp] theorem frames_sweep (t : Timespec) : frames [.sweep t] = [] := rfl

theorem mem_sensors {k : SensorKey} {fs : List Sensor} :
    k ∈ sensors fs ↔ ∃ f ∈ fs, f.key = k := by
  simp [sensors]

theorem sensors_concat (fs : List Sensor) (f : Sensor) :
    sensors (fs ++ [f]) = if f.key ∈ sensors fs then sensors fs else sensors fs ++ [f.key] := by
  rw [sensors, List.map_append, List.map_singleton, eraseDups_concat]
  simp only [sensors, List.mem_eraseDups]

theorem length_sensors_concat {fs : List Sensor} {f : Sensor} (hf : f.key ∉ sensors fs) :
    (sensors (fs ++ [f])).length = (sensors fs).length + 1 := by
  rw [sensors_concat, if_neg hf, List.length_append, List.length_singleton]

/-- The data frames among the frames of a sensor. -/
theorem filter_data (k : SensorKey) (fs : List Sensor) :
    (fs.filter (·.key = k)).filter (·.frameType = .data) =
      fs.filter fun f => f.key = k ∧ f.frameType = .data := by
  rw [List.filter_filter]
  congr 1
  funext f
  simp [Bool.and_comm]

theorem lastData_append_cons {k : SensorKey} {f : Sensor} (before : List Sensor)
    {after : List Sensor} (hf : f.key = k ∧ f.frameType = .data)
    (hafter : ∀ g ∈ after, ¬ (g.key = k ∧ g.frameType = .data)) :
    lastData k (before ++ f :: after) = some f := by
  have hnil : after.filter (fun g => g.key = k ∧ g.frameType = .data) = [] := by
    simpa [List.filter_eq_nil_iff] using hafter
  rw [lastData, List.filter_append, List.filter_cons_of_pos (by simpa using hf), hnil,
    List.getLast?_concat]

theorem keys_eventKey (es : List Event) : keys eventKey es = sensors (frames es) := by
  have h : es.filterMap eventKey = (frames es).map Sensor.key := by
    rw [frames, List.map_filterMap]
    congr 1
    funext e
    cases e <;> rfl
  rw [keys, h, sensors]

theorem key_applyEvent_some (e : Sensor) (ev : Event) (k : SensorKey) (h : eventKey ev = some k) :
    (applyEvent e ev).key = k := by
  cases ev with
  | frame f => exact Option.some.inj h
  | sweep t => cases h

theorem key_applyEvent_none (e : Sensor) (ev : Event) (h : eventKey ev = none) :
    (applyEvent e ev).key = e.key := by
  cases ev with
  | frame f => cases h
  | sweep t => rfl

/-- The frames in the cell of a sensor are the frames of that sensor. -/
theorem frames_cell (k : SensorKey) (es : List Event) :
    frames (cell eventKey k es) = (frames es).filter (·.key = k) := by
  induction es using List.reverseRecOn with
  | nil => rfl
  | append_singleton es e ih =>
    by_cases hk : k ∈ keys eventKey es
    · rw [cell_concat_of_mem hk, frames_append, frames_append, ih, List.filter_append]
      cases e with
      | frame f => by_cases hf : f.key = k <;> simp [Reaches, eventKey, hf, frames, Event.frame?]
      | sweep t => simp [Reaches, eventKey]
    · -- nothing of `k` before, so the cell starts with `e` or is still empty
      have hnone : (frames es).filter (·.key = k) = [] := by
        rw [keys_eventKey] at hk
        simp only [List.filter_eq_nil_iff, decide_eq_true_eq]
        exact fun f hf hkey => hk (mem_sensors.mpr ⟨f, hf, hkey⟩)
      by_cases he : eventKey e = some k
      · rw [cell_concat_new he hk, frames_append, List.filter_append, hnone]
        cases e with
        | frame f =>
          have hf : f.key = k := Option.some.inj he
          simp [hf]
        | sweep t => cases he
      · rw [frames_append, List.filter_append, hnone]
        have hdrop : cell eventKey k (es ++ [e]) = [] := by
          rw [cell, List.dropWhile_eq_nil_iff.mpr, List.filter_nil]
          intro x hx
          rw [decide_eq_true_eq]
          intro hxk
          rcases List.mem_append.mp hx with hx | hx
          · exact hk (mem_keys.mpr ⟨x, hx, hxk⟩)
          · exact he (List.mem_singleton.mp hx ▸ hxk)
        rw [hdrop]
        cases e with
        | frame f =>
          have hf : f.key ≠ k := fun h => he (congrArg some h)
          simp [frames, Event.frame?, hf]
        | sweep t => rfl

/-! ### What a sequence of events makes of an entry -/

/-- The last frame decides what the entry says about the sensor. -/
theorem foldl_applyEvent_frame {es : List Event} {f : Sensor} (h : (frames es).getLast? = some f)
    (e : Sensor) :
    (es.foldl applyEvent e).id = f.id ∧ (es.foldl applyEvent e).type = f.type ∧
      (es.foldl applyEvent e).name = f.name ∧
      (es.foldl applyEvent e).lastSeenTime = f.lastSeenTime ∧
      (es.foldl applyEvent e).frameType = f.frameType := by
  induction es using List.reverseRecOn with
  | nil => simp [frames] at h
  | append_singleton es ev ih =>
    rw [List.foldl_concat]
    cases ev with
    | frame g =>
      rw [frames_append, frames_frame, List.getLast?_concat, Option.some.injEq] at h
      rw [← h]
      exact ⟨rfl, rfl, rfl, rfl, rfl⟩
    | sweep t =>
      rw [frames_append, frames_sweep, List.append_nil] at h
      exact ih h

/-- The last data frame decides the reading; without one it is what the cell held before. -/
theorem foldl_applyEvent_data (es : List Event) (e : Sensor) :
    ((es.foldl applyEvent e).data, (es.foldl applyEvent e).timestamp) =
      match ((frames es).filter (·.frameType = .data)).getLast? with
      | some g => (g.data, g.timestamp)
      | none => (e.data, e.timestamp) := by
  induction es using List.reverseRecOn with
  | nil => rfl
  | append_singleton es ev ih =>
    rw [List.foldl_concat]
    cases ev with
    | frame g =>
      rw [frames_append, frames_frame, List.filter_append]
      by_cases hg : g.frameType = .data
      · simp [hg, applyEvent, updateRegistry_data, updateRegistry_timestamp]
      · simpa [hg, applyEvent, updateRegistry_data, updateRegistry_timestamp] using ih
    | sweep t =>
      rw [frames_append, frames_sweep, List.append_nil]
      exact ih

/-! ### The array holds the table -/

/-- The entries in use are the table of the history, and the cells behind them hold what the
allocator left there. -/
structure Represents (fresh : ℕ → Sensor) (s : State) : Prop where
  entries_eq : s.entries = table eventKey applyEvent fresh s.history
  unused : ∀ i, s.sensorCount ≤ i → i < s.sensorRegistry.length →
    s.sensorRegistry[i]? = some (fresh i)

variable {fresh : ℕ → Sensor} {s s' : State} {a : Action}

theorem represents_init (fresh : ℕ → Sensor) : Represents fresh (init fresh) where
  entries_eq := by simp [init, State.entries]
  unused := by
    intro i _ hi
    rw [List.getElem?_eq_getElem hi]
    simp [init]

namespace Represents

theorem map_key_entries (h : Represents fresh s) :
    s.entries.map Sensor.key = sensors (frames s.history) := by
  rw [h.entries_eq, ← keys_eventKey]
  exact map_keyOf_table key_applyEvent_some key_applyEvent_none _

/-- Every entry belongs to a sensor that was heard. -/
theorem exists_frame (h : Represents fresh s) {e : Sensor} (he : e ∈ s.entries) :
    ∃ f ∈ frames s.history, f.key = e.key := by
  rw [← mem_sensors, ← h.map_key_entries]
  exact List.mem_map_of_mem he

/-- Every sensor that was heard has an entry. -/
theorem exists_entry (h : Represents fresh s) {f : Sensor} (hf : f ∈ frames s.history) :
    ∃ e ∈ s.entries, e.key = f.key := by
  rw [← List.mem_map, h.map_key_entries]
  exact mem_sensors.mpr ⟨f, hf, rfl⟩

/-- An entry is what the events of its sensor have made of some cell. -/
theorem exists_cell (h : Represents fresh s) {e : Sensor} (he : e ∈ s.entries) :
    ∃ i, (cell eventKey e.key s.history).foldl applyEvent (fresh i) = e := by
  obtain ⟨i, hi⟩ := List.getElem?_of_mem he
  have hkey : (s.entries.map Sensor.key)[i]? = some e.key := by rw [List.getElem?_map, hi]; rfl
  rw [h.map_key_entries, ← keys_eventKey] at hkey
  rw [h.entries_eq, getElem?_table, hkey, Option.map_some, Option.some.injEq] at hi
  exact ⟨i, hi⟩

theorem sensorCount_eq (hb : Bounds s) (h : Represents fresh s) :
    s.sensorCount = (sensors (frames s.history)).length := by
  rw [← h.map_key_entries, List.length_map, hb.length_entries]

theorem keys_history (h : Represents fresh s) :
    keys eventKey s.history = s.entries.map Sensor.key := by
  rw [keys_eventKey, h.map_key_entries]

/-- A larger block has the same entries, and fresh cells behind the old ones. -/
theorem grow (hb : Bounds s) (h : Represents fresh s) (hfull : s.capacity ≤ s.sensorCount)
    (hlimit : s.sensorCount < sensorsLimitMax) :
    Represents fresh
      { s with
        sensorRegistry := Block.realloc fresh s.sensorRegistry
          (sensorAllocationCount * newReallocation s.sensorReallocation)
        sensorReallocation := newReallocation s.sensorReallocation
        place := .waiting } := by
  obtain ⟨-, hlt⟩ := hb.newReallocation hfull hlimit
  constructor
  · rw [← h.entries_eq]
    exact Block.take_realloc fresh hb.count_le_length (le_of_lt hlt)
  · intro i hi hi'
    change i < (Block.realloc fresh s.sensorRegistry _).length at hi'
    rw [Block.length_realloc] at hi'
    show (Block.realloc fresh s.sensorRegistry _)[i]? = _
    rw [Block.getElem?_realloc fresh _ hi', List.getD_eq_getElem?_getD]
    by_cases hold : i < s.sensorRegistry.length
    · rw [h.unused i hi hold, Option.getD_some]
    · rw [List.getElem?_eq_none (not_lt.mp hold), Option.getD_none]

/-- A frame of a known sensor goes to the cell of that sensor. -/
theorem known (hb : Bounds s) (h : Represents fresh s) {f : Sensor}
    (hknown : f.key ∈ s.entries.map Sensor.key) :
    Represents fresh
      { s with
        sensorRegistry :=
          s.sensorRegistry.modify ((s.entries.map Sensor.key).idxOf f.key) (updateRegistry f)
        place := .top
        history := s.history ++ [.frame f] } := by
  have hk : f.key ∈ keys eventKey s.history := by rwa [h.keys_history]
  have hidx := hb.idxOf_lt hknown
  constructor
  · show (s.sensorRegistry.modify _ _).take s.sensorCount =
      table eventKey applyEvent fresh (s.history ++ [.frame f])
    rw [List.take_modify, table_known (eventKey_frame f) hk, ← h.entries_eq, h.keys_history]
    rfl
  · intro i hi hi'
    have hne : (s.entries.map Sensor.key).idxOf f.key ≠ i := fun heq => by
      have hcount : s.sensorCount ≤ i := hi
      omega
    show (s.sensorRegistry.modify _ _)[i]? = _
    rw [List.getElem?_modify_ne _ _ hne]
    exact h.unused i hi (by simpa using hi')

/-- A frame of a new sensor goes to the first cell that is not in use. -/
theorem new (hb : Bounds s) (h : Represents fresh s) {f : Sensor} (hplace : s.place = .received f)
    (hnew : f.key ∉ s.entries.map Sensor.key) (hlimit : s.sensorCount < sensorsLimitMax) :
    Represents fresh
      { s with
        sensorRegistry := s.sensorRegistry.modify s.sensorCount (updateRegistry f)
        sensorCount := s.sensorCount + 1
        place := .top
        history := s.history ++ [.frame f] } := by
  have hk : f.key ∉ keys eventKey s.history := by rwa [h.keys_history]
  have hlt := hb.count_lt hplace hlimit
  have hlen : (keys eventKey s.history).length = s.sensorCount := by
    rw [h.keys_history, List.length_map, hb.length_entries]
  constructor
  · show (s.sensorRegistry.modify _ _).take (s.sensorCount + 1) =
      table eventKey applyEvent fresh (s.history ++ [.frame f])
    -- the new entry is made of what the allocator left in its cell
    rw [table_new (eventKey_frame f) hk, ← h.entries_eq, hlen, List.take_add_one,
      List.take_modify, List.getElem?_modify_eq, h.unused _ le_rfl hlt,
      List.modify_eq_self (by simp)]
    rfl
  · intro i hi hi'
    have hcount : s.sensorCount + 1 ≤ i := hi
    show (s.sensorRegistry.modify _ _)[i]? = _
    rw [List.getElem?_modify_ne _ _ (by omega)]
    exact h.unused i (by omega) (by simpa using hi')

/-- A sweep marks the entries in use and no other cell. -/
theorem sweep (hb : Bounds s) (h : Represents fresh s) (t : Timespec) :
    Represents fresh
      { s with
        sensorRegistry := s.entries.map (markState t) ++ s.sensorRegistry.drop s.sensorCount
        history := s.history ++ [.sweep t] } := by
  have hlen : (s.entries.map (markState t)).length = s.sensorCount := by
    rw [List.length_map, hb.length_entries]
  constructor
  · show (s.entries.map (markState t) ++ _).take s.sensorCount =
      table eventKey applyEvent fresh (s.history ++ [.sweep t])
    rw [table_broadcast _ (eventKey_sweep t), ← h.entries_eq, ← hlen, List.take_left]
    rfl
  · intro i hi hi'
    have hcount : s.sensorCount ≤ i := hi
    have hi'' : i < s.sensorRegistry.length := by
      have hl :
          i < (s.entries.map (markState t) ++ s.sensorRegistry.drop s.sensorCount).length := hi'
      rw [List.length_append, hlen, List.length_drop] at hl
      omega
    show (s.entries.map (markState t) ++ s.sensorRegistry.drop s.sensorCount)[i]? = _
    rw [List.getElem?_append_right (by omega), hlen, List.getElem?_drop,
      Nat.add_sub_cancel' hcount]
    exact h.unused i hi hi''

/-- What a step does keeps the table. -/
theorem of_moved (hb : Bounds s) (h : Represents fresh s) (hm : Moved fresh s a s') :
    Represents fresh s' := by
  cases hm with
  | grow hplace hexit hfull hlimit => exact h.grow hb hfull hlimit
  | known f hplace hknown => exact h.known hb hknown
  | new f hplace hnew hlimit => exact h.new hb hplace hnew hlimit
  | sweep t => exact h.sweep hb t
  -- the other moves touch neither the cells nor the history
  | _ => exact ⟨h.entries_eq, h.unused⟩

end Represents

theorem represents_run (fresh : ℕ → Sensor) (acts : List Action) :
    ∃ s, run fresh acts = .ok s ∧ Bounds s ∧ Represents fresh s := by
  refine Run.exec_rule (P := fun _ s => Bounds s ∧ Represents fresh s)
    ⟨bounds_init fresh, represents_init fresh⟩ ?_ acts
  rintro acts a s ⟨hb, h⟩
  obtain ⟨s', hs', hm⟩ := hb.step_moved a
  exact ⟨s', hs', hb.of_moved hm, h.of_moved hb hm⟩

/-- The entry of a sensor holds its last values. -/
theorem Represents.holdsLast (h : Represents fresh s) {e : Sensor} (he : e ∈ s.entries) :
    HoldsLast (frames s.history) e := by
  obtain ⟨i, hi⟩ := h.exists_cell he
  obtain ⟨f, hf, hfk⟩ := h.exists_frame he
  have hframes := frames_cell e.key s.history
  constructor
  · have hne : (frames (cell eventKey e.key s.history)) ≠ [] := by
      rw [hframes]
      exact List.ne_nil_of_mem (List.mem_filter.mpr ⟨hf, by simpa using hfk⟩)
    have hlast := List.getLast?_eq_some_getLast hne
    have hfields := foldl_applyEvent_frame hlast (fresh i)
    rw [hi] at hfields
    exact ⟨_, by rw [lastFrame, ← hframes, hlast], hfields⟩
  · intro g hg
    have hdata := foldl_applyEvent_data (cell eventKey e.key s.history) (fresh i)
    rw [hi, hframes, filter_data, ← lastData, hg] at hdata
    exact Prod.mk_inj.mp hdata

/-! ### How the entries change -/

section Change

variable (h : Represents fresh s) (h' : Represents fresh s')

include h h'

theorem Represents.entries_congr (hh : s'.history = s.history) : s'.entries = s.entries := by
  rw [h'.entries_eq, hh, h.entries_eq]

theorem Represents.entries_sweep {t : Timespec} (hh : s'.history = s.history ++ [.sweep t]) :
    s'.entries = s.entries.map (markState t) := by
  rw [h'.entries_eq, hh, table_broadcast _ (eventKey_sweep t), h.entries_eq]
  rfl

/-- After a frame an entry is the one the frame was applied to or an old one of another sensor. -/
theorem Represents.mem_entries_frame {f e' : Sensor} (hh : s'.history = s.history ++ [.frame f])
    (he' : e' ∈ s'.entries) :
    (∃ e, e' = updateRegistry f e) ∨ (e' ∈ s.entries ∧ e'.key ≠ f.key) := by
  rw [h'.entries_eq, hh] at he'
  rcases mem_table_concat key_applyEvent_some key_applyEvent_none he' with
    ⟨e, he, heq⟩ | ⟨i, k, -, -, heq⟩
  · split_ifs at heq with hr
    · exact Or.inl ⟨e, heq⟩
    · refine Or.inr ⟨by rw [heq, h.entries_eq]; exact he, fun hk => hr (Or.inr ?_)⟩
      rw [eventKey_frame, ← hk, heq]
  · exact Or.inl ⟨_, heq⟩

/-- No entry is lost to a frame. -/
theorem Represents.mem_entries_of_frame {f e : Sensor} (hh : s'.history = s.history ++ [.frame f])
    (he : e ∈ s.entries) : (if f.key = e.key then updateRegistry f e else e) ∈ s'.entries := by
  rw [h.entries_eq] at he
  obtain ⟨i, hi⟩ := List.getElem?_of_mem he
  have hnext := getElem?_table_concat key_applyEvent_some key_applyEvent_none hi (.frame f)
  rw [h'.entries_eq, hh]
  convert List.mem_of_getElem? hnext using 1
  simp [Reaches, applyEvent]

end Change

/-! ### Every frame received is handled, in order -/

theorem handled_of_place (h : ∀ f, s.place ≠ .exited (.registryFull f)) :
    s.handled = frames s.history := by
  unfold State.handled
  split
  · rename_i f hf
    exact absurd hf (h f)
  · exact List.append_nil _

theorem handled_of_running (h : s.Running) : s.handled = frames s.history :=
  handled_of_place fun f => h (.registryFull f)

theorem handled_of_full {f : Sensor} (h : s.place = .exited (.registryFull f)) :
    s.handled = frames s.history ++ [f] := by
  simp only [State.handled, h]

/-- A step hands the frame it brings to the frames handled or keeps it in hand. -/
theorem Moved.handled (hm : Moved fresh s a s') :
    s'.handled ++ inHand s' = s.handled ++ inHand s ++ brought s a := by
  cases hm with
  | stay _ hidle =>
    have hnone : brought s a = [] := by
      unfold brought
      split
      · rename_i hplace
        rw [hplace] at hidle
        cases hidle
      · rfl
    rw [hnone, List.append_nil]
  | signal hplace => cases hp : s.place <;> simp [State.handled, inHand, brought, hp]
  | sweep t hplace => cases hp : s.place <;> simp [State.handled, inHand, brought, hp]
  | _ => simp [State.handled, inHand, brought, *]

theorem received_run (hb : Bounds s) {acts : List Action}
    (hs : Run.exec (step fresh) s acts = .ok s') :
    s'.handled ++ inHand s' = s.handled ++ inHand s ++ received fresh s acts := by
  induction acts generalizing s with
  | nil =>
    obtain rfl := Except.ok.inj hs
    rw [received, List.append_nil]
  | cons a acts ih =>
    obtain ⟨s₁, hs₁, hm⟩ : ∃ s₁, step fresh s a = .ok s₁ ∧ Moved fresh s a s₁ := hb.step_moved a
    rw [Run.exec_cons hs₁] at hs
    rw [ih (hb.of_moved hm) hs, hm.handled, received, hs₁, List.append_assoc _ (brought s a)]

theorem receive_of_mem_received {f : Sensor} {acts : List Action} (h : f ∈ received fresh s acts) :
    Action.receive (.frame f) ∈ acts := by
  induction acts generalizing s with
  | nil => cases h
  | cons a acts ih =>
    rcases List.mem_append.mp h with h | h
    · unfold brought at h
      split at h
      · rw [List.mem_singleton.mp h]
        exact List.mem_cons_self
      · cases h
    · split at h
      · exact List.mem_cons_of_mem _ (ih h)
      · cases h

/-- The frames in the registry's history have been received. -/
theorem receive_of_mem_frames {acts : List Action} (hs : run fresh acts = .ok s) {f : Sensor}
    (h : f ∈ frames s.history) : Action.receive (.frame f) ∈ acts := by
  refine receive_of_mem_received (?_ : f ∈ received fresh (init fresh) acts)
  have hhandled : f ∈ s.handled ++ inHand s :=
    List.mem_append_left _ (List.mem_append_left _ h)
  rw [received_run (bounds_init fresh) hs] at hhandled
  simpa [init, State.handled, inHand, frames] using hhandled

/-! ### Runs without a disturbance -/

/-- An action in which no allocation and no call of the system fails, and no signal comes. -/
def Action.Succeeds (a : Action) : Prop := a ≠ .growth false ∧ a ≠ .receive .failed ∧ a ≠ .signal

instance : DecidablePred Action.Succeeds := fun _ => inferInstanceAs (Decidable (_ ∧ _ ∧ _))

/-- Without a disturbance the loop is left for one reason only: a new sensor in a full registry. -/
structure Undisturbed (s : State) : Prop where
  exitRQ : s.exitRQ = false
  exited : ∀ e, s.place = .exited e →
    ∃ f, e = .registryFull f ∧ f.key ∉ s.entries.map Sensor.key ∧ sensorsLimitMax ≤ s.sensorCount

theorem Undisturbed.of_moved (h : Undisturbed s) (ha : a.Succeeds) (hm : Moved fresh s a s') :
    Undisturbed s' := by
  cases hm with
  | stay => exact h
  | signal => exact absurd rfl ha.2.2
  | exit ok hplace hexit => exact absurd hexit (by simp [h.exitRQ])
  | interrupted hplace hexit => exact absurd hexit (by simp [h.exitRQ])
  | reallocFailed => exact absurd rfl ha.1
  | receiveFailed => exact absurd rfl ha.2.1
  | full f hplace hnew hlimit =>
    refine ⟨h.exitRQ, fun e he => ⟨f, ?_, hnew, hlimit⟩⟩
    exact (Place.exited.inj he).symm
  | sweep t hplace => exact ⟨h.exitRQ, fun e he => absurd he (hplace e)⟩
  | _ => exact ⟨h.exitRQ, by simp⟩

theorem undisturbed_run (fresh : ℕ → Sensor) {acts : List Action} (hacts : ∀ a ∈ acts, a.Succeeds) :
    ∃ s, run fresh acts = .ok s ∧ Bounds s ∧ Represents fresh s ∧ Undisturbed s := by
  have hrule : ∃ s, run fresh acts = .ok s ∧
      (Bounds s ∧ Represents fresh s ∧ ((∀ a ∈ acts, a.Succeeds) → Undisturbed s)) := by
    refine Run.exec_rule
      (P := fun acts s =>
        Bounds s ∧ Represents fresh s ∧ ((∀ a ∈ acts, a.Succeeds) → Undisturbed s))
      ⟨bounds_init fresh, represents_init fresh, fun _ => ⟨rfl, by simp [init]⟩⟩ ?_ acts
    rintro acts a s ⟨hb, h, hu⟩
    obtain ⟨s', hs', hm⟩ := hb.step_moved a
    refine ⟨s', hs', hb.of_moved hm, h.of_moved hb hm, fun hall => ?_⟩
    rw [List.forall_mem_append] at hall
    exact (hu hall.1).of_moved (hall.2 a (by simp)) hm
  obtain ⟨s, hs, hb, h, hu⟩ := hrule
  exact ⟨s, hs, hb, h, hu hacts⟩

/-- A loop left with the registry full has heard as many sensors as it can hold, and then
another. -/
theorem Undisturbed.full (hu : Undisturbed s) (hb : Bounds s) (h : Represents fresh s) {f : Sensor}
    (hf : s.place = .exited (.registryFull f)) :
    (sensors (frames s.history)).length = sensorsLimitMax ∧ f.key ∉ sensors (frames s.history) := by
  obtain ⟨f', hf', hnew, hlimit⟩ := hu.exited _ hf
  obtain rfl := Exit.registryFull.inj hf'
  have hle : s.sensorCount ≤ sensorsLimitMax := hb.count_le.trans hb.capacity_le
  rw [h.map_key_entries] at hnew
  rw [← h.sensorCount_eq hb]
  exact ⟨le_antisymm hle hlimit, hnew⟩

/-- The registry is a keyed table of last values.  Every frame received has been handled, in order,
but the one in hand.  While no more than `sensorsLimitMax` sensors have been heard the loop goes on,
and the entries are one for each sensor in the order of first occurrence with its last values; it is
left with the registry full exactly at the frame of the sensor after these. -/
theorem registry_refines (fresh : ℕ → Sensor) (acts : List Action)
    (hacts : ∀ a ∈ acts, a.Succeeds) :
    ∃ s, run fresh acts = .ok s ∧
      received fresh (init fresh) acts = s.handled ++ inHand s ∧
      ((sensors s.handled).length ≤ sensorsLimitMax →
        s.Running ∧
        s.sensorCount = (sensors s.handled).length ∧
        s.entries.map Sensor.key = sensors s.handled ∧
        ∀ e ∈ s.entries, HoldsLast s.handled e) ∧
      ∀ f, s.place = .exited (.registryFull f) ↔
        ∃ gs, s.handled = gs ++ [f] ∧ (sensors gs).length = sensorsLimitMax ∧
          f.key ∉ sensors gs := by
  obtain ⟨s, hs, hb, h, hu⟩ := undisturbed_run fresh hacts
  have hcount := h.sensorCount_eq hb
  have hle : s.sensorCount ≤ sensorsLimitMax := hb.count_le.trans hb.capacity_le
  have hrun : (sensors s.handled).length ≤ sensorsLimitMax → s.Running := by
    intro hfew e he
    obtain ⟨f, rfl, -, -⟩ := hu.exited e he
    obtain ⟨hlen, hnew⟩ := hu.full hb h he
    rw [handled_of_full he, length_sensors_concat hnew] at hfew
    omega
  refine ⟨s, hs, (received_run (bounds_init fresh) hs).symm, fun hfew => ?_,
    fun f => ⟨fun hf => ?_, ?_⟩⟩
  · have hrunning := hrun hfew
    rw [handled_of_running hrunning]
    exact ⟨hrunning, hcount, h.map_key_entries, fun e he => h.holdsLast he⟩
  · obtain ⟨hlen, hnew⟩ := hu.full hb h hf
    exact ⟨frames s.history, handled_of_full hf, hlen, hnew⟩
  · rintro ⟨gs, hgs, hlen, hnew⟩
    by_cases hex : ∃ e, s.place = .exited e
    · obtain ⟨e, he⟩ := hex
      obtain ⟨f', rfl, -, -⟩ := hu.exited e he
      rw [handled_of_full he] at hgs
      obtain ⟨-, hff⟩ := List.append_inj' hgs rfl
      rw [he, List.singleton_inj.mp hff]
    · -- the loop goes on, so no more than the limit have been heard
      have hrunning : s.Running := fun e he => hex ⟨e, he⟩
      have hsize := length_sensors_concat hnew
      rw [← hgs, handled_of_running hrunning] at hsize
      omega

/-- A torque sensor that sends a reading, is swept, and then sends a heartbeat. -/
theorem registry_refines_torque :
    let f : Sensor := { Sensor.zero with id := 7, type := .torque, frameType := .data }
    let g : Sensor := { Sensor.zero with id := 7, type := .torque, lastSeenTime := ⟨1, 0⟩ }
    ∃ s, run (fun _ => Sensor.zero)
        [.growth true, .receive (.frame f), .update, .sweep ⟨40, 0⟩, .growth true,
          .receive (.frame g), .update] = .ok s ∧
      received (fun _ => Sensor.zero) (init fun _ => Sensor.zero)
        [.growth true, .receive (.frame f), .update, .sweep ⟨40, 0⟩, .growth true,
          .receive (.frame g), .update] = [f, g] ∧
      s.handled = [f, g] ∧ s.Running ∧ s.sensorCount = 1 ∧
      s.entries.map Sensor.key = [f.key] ∧ ∀ e ∈ s.entries, HoldsLast [f, g] e := by
  intro f g
  obtain ⟨s, hs, hreceived, hfew, -⟩ := registry_refines (fun _ => Sensor.zero)
    [.growth true, .receive (.frame f), .update, .sweep ⟨40, 0⟩, .growth true,
      .receive (.frame g), .update] (by decide)
  have hhandled : s.handled = [f, g] := by
    obtain rfl := Except.ok.inj hs
    rfl
  have hhand : inHand s = [] := by
    obtain rfl := Except.ok.inj hs
    rfl
  rw [hhandled, hhand] at hreceived
  rw [hhandled] at hfew
  exact ⟨s, hs, hreceived, hhandled, hfew (by decide)⟩

end Telemetry
end Gateway
