import Gateway.SenseUtils
import Gateway.Lib.Run

/-!
# `telemetry_d.c`: the registry and the threads that use it

`telemetryd` keeps a registry of sensors in an array that its main loop grows and fills from the
queue, while a watchdog thread and one thread per user read and mark it.  Every access stands in a
critical section of `registry_mutex`, so a run is a sequence of these sections and of the blocking
calls between them, in any order the scheduler likes.

* `State` is the shared state with the place of the main thread; `history` records what has been
  applied to the registry and is read by no step;
* `step fresh s a` is one action; `fresh i` is what the allocator leaves in cell `i`, and an access
  outside the allocated block makes the step fail with its index;
* `Moved` lists what a step can do, and `step_moved` says that a step from a state with `Bounds`
  does one of these things and does not fail;
* `bounds_run` and `registry_bounds`: every run keeps the bounds.

The model stops where the main loop is left.  The source does not: the watchdog and the threads of
the users are detached and go on until `main` has returned, also after it has freed the registry.
`Gateway.Telemetry.Locking` has these steps, and `registry_atomic` says what holds up to them.
-/

namespace Gateway
namespace Telemetry

def sensorAllocationCount : ℕ := 16
def sensorActivityTime : ℚ := sensorInactiveSecsMax

/-- `elapsedSeconds`, in exact arithmetic: `markState_eq_double` says that the comparison of the
watchdog, for readings of the clock, comes out as in the type `double`. -/
def elapsedSeconds (prev curr : Timespec) : ℚ :=
  ((curr.tvSec - prev.tvSec : ℤ) : ℚ) + ((curr.tvNsec - prev.tvNsec : ℤ) : ℚ) / 1000000000

/-- What a sweep of `WDT_SensorHandler` with the time `currTime` makes of an entry. -/
def markState (currTime : Timespec) (e : Sensor) : Sensor :=
  { e with
    state :=
      if elapsedSeconds e.lastSeenTime currTime ≥ sensorActivityTime then .offline else .online }

/-- What `receiveFrame` brings: a message of the size of a frame, of another size, or `-1`. -/
inductive Message
  | frame (f : Sensor)
  | incomplete
  | failed
  deriving DecidableEq

/-- The ways out of the main loop. -/
inductive Exit
  | requested
  | reallocFailed
  | receiveFailed
  | sensorUnsupported
  | registryFull (frame : Sensor)
  deriving DecidableEq

/-- Where the main thread stands: at the top of the loop, in `receiveFrame`, before the second
critical section with a frame in hand, or out of the loop. -/
inductive Place
  | top
  | waiting
  | received (f : Sensor)
  | exited (reason : Exit)
  deriving DecidableEq

/-- What has happened to the registry: a frame was applied, or a sweep ran with a time. -/
inductive Event
  | frame (f : Sensor)
  | sweep (currTime : Timespec)
  deriving DecidableEq

/-- The state that the threads share, and the place of the main thread. -/
structure State where
  sensorRegistry : List Sensor
  sensorCount : ℕ
  sensorReallocation : ℕ
  throughputFrameCount : UInt64
  exitRQ : Bool
  place : Place
  history : List Event

/-- The steps of the threads: of the main loop, of the watchdog, of the users, and a signal. -/
inductive Action
  | growth (allocated : Bool)
  | receive (m : Message)
  | update
  | sweep (currTime : Timespec)
  | snapshot
  | lookup (id : UInt16)
  | signal
  deriving DecidableEq

namespace State

/-- The number of entries that the allocated block has room for. -/
def capacity (s : State) : ℕ := sensorAllocationCount * s.sensorReallocation

/-- The entries in use. -/
def entries (s : State) : List Sensor := s.sensorRegistry.take s.sensorCount

end State

/-- The state before the first pass: a block of `sensor_allocation_count` cells as `malloc`
returned it. -/
def init (fresh : ℕ → Sensor) : State where
  sensorRegistry := (List.range sensorAllocationCount).map fresh
  sensorCount := 0
  sensorReallocation := 1
  throughputFrameCount := 0
  exitRQ := false
  place := .top
  history := []

/-! ### The sections -/

/-- The reallocation count after growing: doubled, but no more than the limit needs. -/
def newReallocation (n : ℕ) : ℕ :=
  if n * 2 > sensorsLimitMax / sensorAllocationCount then sensorsLimitMax / sensorAllocationCount
  else n * 2

/-- The top of the loop: make room if the block is full and the limit is not reached. -/
def growth (fresh : ℕ → Sensor) (allocated : Bool) (s : State) : State :=
  if s.exitRQ then { s with place := .exited .requested }
  else if s.sensorCount ≥ sensorAllocationCount * s.sensorReallocation ∧
      s.sensorCount < sensorsLimitMax then
    if allocated then
      { s with
        sensorRegistry := Block.realloc fresh s.sensorRegistry
          (sensorAllocationCount * newReallocation s.sensorReallocation)
        sensorReallocation := newReallocation s.sensorReallocation
        place := .waiting }
    else { s with place := .exited .reallocFailed }
  else { s with place := .waiting }

/-- The return of `receiveFrame`. It is `-1` also for an interruption by the signal that asks for
the exit. -/
def receive (m : Message) (s : State) : State :=
  match m with
  | .frame f => { s with place := .received f, throughputFrameCount := s.throughputFrameCount + 1 }
  | .incomplete => { s with place := .top }
  | .failed =>
      if s.exitRQ then { s with place := .exited .requested }
      else { s with place := .exited .receiveFailed }

/-- The second critical section of the loop: find or claim the entry and update it. -/
def update (f : Sensor) (s : State) : Except ℕ State := do
  let (sensorIndex, newSensorFlag) ← sensorExists f s.sensorRegistry s.sensorCount
  if sensorIndex < 0 then .ok { s with place := .exited .sensorUnsupported }
  else if newSensorFlag ∧ s.sensorCount ≥ sensorsLimitMax then
    .ok { s with place := .exited (.registryFull f) }
  else
    let count := if newSensorFlag then s.sensorCount + 1 else s.sensorCount
    let target ← Block.load s.sensorRegistry sensorIndex.toNat
    let registry ← Block.store s.sensorRegistry sensorIndex.toNat (updateRegistry f target)
    .ok { s with
      sensorRegistry := registry
      sensorCount := count
      place := .top
      history := s.history ++ [.frame f] }

/-- The sweep of `WDT_SensorHandler`. -/
def sweep (currTime : Timespec) (s : State) : Except ℕ State := do
  let registry ← Block.modifyUpTo (markState currTime) s.sensorCount 0 s.sensorRegistry
  .ok { s with sensorRegistry := registry, history := s.history ++ [.sweep currTime] }

/-- The copy that the `giveSensorAll` functions take of the registry. -/
def snapshot (s : State) : Except ℕ (List Sensor) := Block.copy s.sensorRegistry s.sensorCount 0

/-- One action.  The main thread acts only where it stands, an exit ends the process. -/
def step (fresh : ℕ → Sensor) (s : State) (a : Action) : Except ℕ State :=
  match s.place, a with
  | .exited _, _ => .ok s
  | .top, .growth allocated => .ok (growth fresh allocated s)
  | .waiting, .receive m => .ok (receive m s)
  | .received f, .update => update f s
  | _, .sweep currTime => sweep currTime s
  | _, .snapshot => do let _ ← snapshot s; .ok s
  | _, .lookup id => do let _ ← getSensorID id s.sensorRegistry s.sensorCount; .ok s
  | _, .signal => .ok { s with exitRQ := true }
  | _, _ => .ok s

/-- A run of the daemon from its start. -/
def run (fresh : ℕ → Sensor) (acts : List Action) : Except ℕ State :=
  Run.exec (step fresh) (init fresh) acts

/-! ### The actions at their places -/

section Step

variable {fresh : ℕ → Sensor} {s : State}

theorem step_exited {e : Exit} (a : Action) (hplace : s.place = .exited e) :
    step fresh s a = .ok s := by
  unfold step
  rw [hplace]

theorem step_growth (ok : Bool) (hplace : s.place = .top) :
    step fresh s (.growth ok) = .ok (growth fresh ok s) := by
  unfold step
  rw [hplace]

theorem step_receive (m : Message) (hplace : s.place = .waiting) :
    step fresh s (.receive m) = .ok (receive m s) := by
  unfold step
  rw [hplace]

theorem step_update {f : Sensor} (hplace : s.place = .received f) :
    step fresh s .update = update f s := by
  unfold step
  rw [hplace]

theorem step_sweep (t : Timespec) (hplace : ∀ e, s.place ≠ .exited e) :
    step fresh s (.sweep t) = sweep t s := by
  unfold step
  cases hp : s.place with
  | exited e => exact absurd hp (hplace e)
  | _ => rfl

theorem step_snapshot (hplace : ∀ e, s.place ≠ .exited e) :
    step fresh s .snapshot = (do let _ ← snapshot s; .ok s) := by
  unfold step
  cases hp : s.place with
  | exited e => exact absurd hp (hplace e)
  | _ => rfl

theorem step_lookup (id : UInt16) (hplace : ∀ e, s.place ≠ .exited e) :
    step fresh s (.lookup id) =
      (do let _ ← getSensorID id s.sensorRegistry s.sensorCount; .ok s) := by
  unfold step
  cases hp : s.place with
  | exited e => exact absurd hp (hplace e)
  | _ => rfl

theorem step_signal (hplace : ∀ e, s.place ≠ .exited e) :
    step fresh s .signal = .ok { s with exitRQ := true } := by
  unfold step
  cases hp : s.place with
  | exited e => exact absurd hp (hplace e)
  | _ => rfl

end Step

/-! ### What a step can do -/

/-- Whether an action leaves the state as it is where the main thread stands. -/
def idle : Place → Action → Bool
  | .exited _, _ => true
  | .top, .growth _ => false
  | .waiting, .receive _ => false
  | .received _, .update => false
  | _, .sweep _ => false
  | _, .signal => false
  | _, _ => true

theorem idle_sweep {s : State} (t : Timespec) (h : ∀ e, s.place ≠ .exited e) :
    idle s.place (.sweep t) = false := by
  cases hp : s.place with
  | exited e => exact absurd hp (h e)
  | _ => rfl

theorem idle_signal {s : State} (h : ∀ e, s.place ≠ .exited e) : idle s.place .signal = false := by
  cases hp : s.place with
  | exited e => exact absurd hp (h e)
  | _ => rfl

/-- The effects of a step, each with its guard. -/
inductive Moved (fresh : ℕ → Sensor) (s : State) : Action → State → Prop
  | stay (a : Action) (h : idle s.place a = true) : Moved fresh s a s
  | signal (hplace : ∀ e, s.place ≠ .exited e) : Moved fresh s .signal { s with exitRQ := true }
  | exit (ok : Bool) (hplace : s.place = .top) (hexit : s.exitRQ = true) :
      Moved fresh s (.growth ok) { s with place := .exited .requested }
  | interrupted (hplace : s.place = .waiting) (hexit : s.exitRQ = true) :
      Moved fresh s (.receive .failed) { s with place := .exited .requested }
  | receiveFailed (hplace : s.place = .waiting) (hexit : s.exitRQ = false) :
      Moved fresh s (.receive .failed) { s with place := .exited .receiveFailed }
  | reallocFailed (hplace : s.place = .top) (hexit : s.exitRQ = false)
      (hfull : s.capacity ≤ s.sensorCount) (hlimit : s.sensorCount < sensorsLimitMax) :
      Moved fresh s (.growth false) { s with place := .exited .reallocFailed }
  | wait (ok : Bool) (hplace : s.place = .top) (hexit : s.exitRQ = false)
      (h : ¬ (s.capacity ≤ s.sensorCount ∧ s.sensorCount < sensorsLimitMax)) :
      Moved fresh s (.growth ok) { s with place := .waiting }
  | grow (hplace : s.place = .top) (hexit : s.exitRQ = false) (hfull : s.capacity ≤ s.sensorCount)
      (hlimit : s.sensorCount < sensorsLimitMax) :
      Moved fresh s (.growth true)
        { s with
          sensorRegistry := Block.realloc fresh s.sensorRegistry
            (sensorAllocationCount * newReallocation s.sensorReallocation)
          sensorReallocation := newReallocation s.sensorReallocation
          place := .waiting }
  | receive (f : Sensor) (hplace : s.place = .waiting) :
      Moved fresh s (.receive (.frame f))
        { s with place := .received f, throughputFrameCount := s.throughputFrameCount + 1 }
  | skip (hplace : s.place = .waiting) :
      Moved fresh s (.receive .incomplete) { s with place := .top }
  | full (f : Sensor) (hplace : s.place = .received f) (hnew : f.key ∉ s.entries.map Sensor.key)
      (hlimit : sensorsLimitMax ≤ s.sensorCount) :
      Moved fresh s .update { s with place := .exited (.registryFull f) }
  | known (f : Sensor) (hplace : s.place = .received f)
      (hknown : f.key ∈ s.entries.map Sensor.key) :
      Moved fresh s .update
        { s with
          sensorRegistry :=
            s.sensorRegistry.modify ((s.entries.map Sensor.key).idxOf f.key) (updateRegistry f)
          place := .top
          history := s.history ++ [.frame f] }
  | new (f : Sensor) (hplace : s.place = .received f) (hnew : f.key ∉ s.entries.map Sensor.key)
      (hlimit : s.sensorCount < sensorsLimitMax) :
      Moved fresh s .update
        { s with
          sensorRegistry := s.sensorRegistry.modify s.sensorCount (updateRegistry f)
          sensorCount := s.sensorCount + 1
          place := .top
          history := s.history ++ [.frame f] }
  | sweep (t : Timespec) (hplace : ∀ e, s.place ≠ .exited e) :
      Moved fresh s (.sweep t)
        { s with
          sensorRegistry := s.entries.map (markState t) ++ s.sensorRegistry.drop s.sensorCount
          history := s.history ++ [.sweep t] }

/-- The history grows by the frame in hand, by a sweep, or not at all; and only a receipt brings a
frame in hand. -/
theorem Moved.history_cases {fresh : ℕ → Sensor} {s s' : State} {a : Action}
    (h : Moved fresh s a s') :
    (s'.history = s.history ∧
      ∀ f, s'.place = .received f → s.place = .received f ∨ a = .receive (.frame f)) ∨
    (∃ f, a = .update ∧ s.place = .received f ∧ s'.place = .top ∧
      s'.history = s.history ++ [.frame f]) ∨
    ∃ t, a = .sweep t ∧ s'.place = s.place ∧ s'.history = s.history ++ [.sweep t] := by
  cases h with
  | known f hplace => exact Or.inr (Or.inl ⟨f, rfl, hplace, rfl, rfl⟩)
  | new f hplace => exact Or.inr (Or.inl ⟨f, rfl, hplace, rfl, rfl⟩)
  | sweep t => exact Or.inr (Or.inr ⟨t, rfl, rfl, rfl⟩)
  | stay => exact Or.inl ⟨rfl, fun f hf => Or.inl hf⟩
  | signal => exact Or.inl ⟨rfl, fun f hf => Or.inl hf⟩
  | receive g => exact Or.inl ⟨rfl, fun f hf => Or.inr (by rw [Place.received.inj hf])⟩
  | _ => exact Or.inl ⟨rfl, by simp⟩

/-! ### Bounds -/

/-- The bounds of the registry: the block is as long as the reallocation count says, no more than
the limit needs, the entries in use fit in, and past the top of the loop there is room for one more
entry unless the limit is reached. -/
structure Bounds (s : State) : Prop where
  length_registry : s.sensorRegistry.length = s.capacity
  reallocation : s.sensorReallocation ∈ [1, 2, 4, 8]
  count_le : s.sensorCount ≤ s.capacity
  room : (s.place = .waiting ∨ ∃ f, s.place = .received f) →
    s.sensorCount < s.capacity ∨ s.sensorCount = sensorsLimitMax

variable {fresh : ℕ → Sensor} {s s' : State} {a : Action}

theorem bounds_init (fresh : ℕ → Sensor) : Bounds (init fresh) where
  length_registry := by simp [init, State.capacity]
  reallocation := by simp [init]
  count_le := by simp [init]
  room := by simp [init]

namespace Bounds

theorem capacity_le (h : Bounds s) : s.capacity ≤ sensorsLimitMax := by
  have hr := h.reallocation
  simp only [List.mem_cons, List.not_mem_nil, or_false] at hr
  simp only [State.capacity, sensorAllocationCount, sensorsLimitMax]
  omega

theorem count_le_length (h : Bounds s) : s.sensorCount ≤ s.sensorRegistry.length := by
  rw [h.length_registry]
  exact h.count_le

theorem length_entries (h : Bounds s) : s.entries.length = s.sensorCount := by
  rw [State.entries, List.length_take, Nat.min_eq_left h.count_le_length]

/-- Growing a full block below the limit makes room. -/
theorem newReallocation (h : Bounds s) (hfull : s.capacity ≤ s.sensorCount)
    (hlimit : s.sensorCount < sensorsLimitMax) :
    newReallocation s.sensorReallocation ∈ [1, 2, 4, 8] ∧
      s.sensorCount < sensorAllocationCount * newReallocation s.sensorReallocation := by
  have hr := h.reallocation
  have hle := h.count_le
  simp only [List.mem_cons, List.not_mem_nil, or_false] at hr
  simp only [State.capacity, sensorAllocationCount, sensorsLimitMax] at hfull hle hlimit
  rcases hr with hr | hr | hr | hr <;> rw [hr] at hfull hle ⊢ <;>
    simp [Telemetry.newReallocation, sensorsLimitMax, sensorAllocationCount] <;> omega

/-- A frame in hand whose sensor is new has a cell to go to, unless the limit is reached. -/
theorem count_lt (h : Bounds s) {f : Sensor} (hplace : s.place = .received f)
    (hlimit : s.sensorCount < sensorsLimitMax) : s.sensorCount < s.sensorRegistry.length := by
  rw [h.length_registry]
  rcases h.room (Or.inr ⟨f, hplace⟩) with hroom | hroom
  · exact hroom
  · omega

theorem idxOf_lt (h : Bounds s) {k : SensorKey} (hk : k ∈ s.entries.map Sensor.key) :
    (s.entries.map Sensor.key).idxOf k < s.sensorCount := by
  have hlt := List.idxOf_lt_length_of_mem hk
  rwa [List.length_map, h.length_entries] at hlt

/-! ### No step fails -/

theorem update_moved (h : Bounds s) {f : Sensor} (hplace : s.place = .received f) :
    ∃ s', update f s = .ok s' ∧ Moved fresh s .update s' := by
  by_cases hk : f.key ∈ s.entries.map Sensor.key
  · have hexists := sensorExists_eq f h.count_le_length
    rw [← State.entries, if_pos hk] at hexists
    have hlt : (s.entries.map Sensor.key).idxOf f.key < s.sensorRegistry.length :=
      lt_of_lt_of_le (h.idxOf_lt hk) h.count_le_length
    refine ⟨_, ?_, Moved.known f hplace hk⟩
    simp only [update, hexists, bind, Except.bind, Int.toNat_natCast, Block.load_eq hlt,
      Block.store_apply hlt, Int.natCast_nonneg, not_lt.mpr, Bool.false_eq_true, false_and,
      if_false]
  · have hexists := sensorExists_eq f h.count_le_length
    rw [← State.entries, if_neg hk] at hexists
    by_cases hlimit : s.sensorCount < sensorsLimitMax
    · have hlt := h.count_lt hplace hlimit
      refine ⟨_, ?_, Moved.new f hplace hk hlimit⟩
      simp only [update, hexists, bind, Except.bind, Int.toNat_natCast, Block.load_eq hlt,
        Block.store_apply hlt, Int.natCast_nonneg, not_lt.mpr, if_false, if_true, true_and,
        ge_iff_le, not_le.mpr hlimit]
    · refine ⟨_, ?_, Moved.full f hplace hk (not_lt.mp hlimit)⟩
      simp only [update, hexists, bind, Except.bind, Int.natCast_nonneg, not_lt.mpr, if_false,
        true_and, ge_iff_le, not_lt.mp hlimit, if_true]

theorem sweep_eq (h : Bounds s) (t : Timespec) :
    sweep t s = .ok
      { s with
        sensorRegistry := s.entries.map (markState t) ++ s.sensorRegistry.drop s.sensorCount
        history := s.history ++ [.sweep t] } := by
  simp only [sweep, Block.modifyUpTo_eq _ h.count_le_length, bind, Except.bind, State.entries]

theorem snapshot_eq (h : Bounds s) : snapshot s = .ok s.entries := Block.copy_eq h.count_le_length

theorem growth_moved (ok : Bool) (hplace : s.place = .top) :
    Moved fresh s (.growth ok) (growth fresh ok s) := by
  unfold growth
  split_ifs with hexit hfull hok
  · exact Moved.exit ok hplace hexit
  · rw [hok]
    exact Moved.grow hplace (Bool.not_eq_true _ ▸ hexit) hfull.1 hfull.2
  · rw [Bool.not_eq_true] at hok
    rw [hok]
    exact Moved.reallocFailed hplace (Bool.not_eq_true _ ▸ hexit) hfull.1 hfull.2
  · exact Moved.wait ok hplace (Bool.not_eq_true _ ▸ hexit) hfull

theorem receive_moved (m : Message) (hplace : s.place = .waiting) :
    Moved fresh s (.receive m) (receive m s) := by
  cases m with
  | frame f => exact Moved.receive f hplace
  | incomplete => exact Moved.skip hplace
  | failed =>
    simp only [receive]
    split_ifs with hexit
    · exact Moved.interrupted hplace hexit
    · exact Moved.receiveFailed hplace (Bool.not_eq_true _ ▸ hexit)

theorem lookup_eq (h : Bounds s) (id : UInt16) :
    getSensorID id s.sensorRegistry s.sensorCount =
      .ok ((s.entries.find? (·.id = id)).getD Sensor.zero) :=
  getSensorID_eq id h.count_le_length

/-- The reads of the users succeed, and the main thread does not act out of its place. -/
theorem step_idle (h : Bounds s) (hidle : idle s.place a = true) : step fresh s a = .ok s := by
  cases a with
  | snapshot =>
    by_cases hplace : ∃ e, s.place = .exited e
    · obtain ⟨e, hplace⟩ := hplace
      exact step_exited .snapshot hplace
    · rw [step_snapshot (not_exists.mp hplace), h.snapshot_eq]
      rfl
  | lookup id =>
    by_cases hplace : ∃ e, s.place = .exited e
    · obtain ⟨e, hplace⟩ := hplace
      exact step_exited (.lookup id) hplace
    · rw [step_lookup id (not_exists.mp hplace), h.lookup_eq id]
      rfl
  | _ =>
    unfold step
    cases hplace : s.place <;> first | rfl | (rw [hplace] at hidle; cases hidle)

/-- From a state within the bounds every step does one of the things `Moved` lists, and none
reads or writes outside the block. -/
theorem step_moved (h : Bounds s) (a : Action) :
    ∃ s', step fresh s a = .ok s' ∧ Moved fresh s a s' := by
  by_cases hidle : idle s.place a = true
  · exact ⟨s, h.step_idle hidle, Moved.stay a hidle⟩
  -- an action that is not idle finds the main thread where it can act, or needs only that it has
  -- not left the loop
  cases a with
  | growth ok =>
    have hplace : s.place = .top := by
      cases hp : s.place <;> first | rfl | exact absurd (by rw [hp]; rfl) hidle
    exact ⟨_, step_growth ok hplace, growth_moved ok hplace⟩
  | receive m =>
    have hplace : s.place = .waiting := by
      cases hp : s.place <;> first | rfl | exact absurd (by rw [hp]; rfl) hidle
    exact ⟨_, step_receive m hplace, receive_moved m hplace⟩
  | update =>
    obtain ⟨f, hplace⟩ : ∃ f, s.place = .received f := by
      cases hp : s.place <;> first | exact ⟨_, rfl⟩ | exact absurd (by rw [hp]; rfl) hidle
    rw [step_update hplace]
    exact h.update_moved hplace
  | sweep t =>
    have hplace : ∀ e, s.place ≠ .exited e := fun e he => hidle (by rw [he]; rfl)
    exact ⟨_, (step_sweep t hplace).trans (h.sweep_eq t), Moved.sweep t hplace⟩
  | signal =>
    have hplace : ∀ e, s.place ≠ .exited e := fun e he => hidle (by rw [he]; rfl)
    exact ⟨_, step_signal hplace, Moved.signal hplace⟩
  | snapshot => exact absurd (by cases s.place <;> rfl) hidle
  | lookup id => exact absurd (by cases s.place <;> rfl) hidle

/-- What a step does keeps the bounds. -/
theorem of_moved (h : Bounds s) (hm : Moved fresh s a s') : Bounds s' := by
  have hroom := h.room
  cases hm with
  | stay => exact h
  | signal => exact ⟨h.length_registry, h.reallocation, h.count_le, hroom⟩
  | wait ok hplace hexit hn =>
    refine ⟨h.length_registry, h.reallocation, h.count_le, fun _ => ?_⟩
    have hcap := h.capacity_le
    have hle := h.count_le
    show s.sensorCount < s.capacity ∨ s.sensorCount = sensorsLimitMax
    omega
  | grow hplace hexit hfull hlimit =>
    obtain ⟨hmem, hlt⟩ := h.newReallocation hfull hlimit
    exact ⟨Block.length_realloc _ _ _, hmem, le_of_lt hlt, fun _ => Or.inl hlt⟩
  | receive f hplace =>
    exact ⟨h.length_registry, h.reallocation, h.count_le, fun _ => hroom (Or.inl hplace)⟩
  | known f hplace hknown =>
    refine ⟨?_, h.reallocation, h.count_le, by simp⟩
    exact (List.length_modify ..).trans h.length_registry
  | new f hplace hnew hlimit =>
    have hlt := h.count_lt hplace hlimit
    rw [h.length_registry] at hlt
    exact ⟨(List.length_modify ..).trans h.length_registry, h.reallocation, hlt, by simp⟩
  | sweep t hplace =>
    refine ⟨?_, h.reallocation, h.count_le, hroom⟩
    have hle := h.count_le_length
    have hlen := h.length_registry
    show (s.entries.map (markState t) ++ s.sensorRegistry.drop s.sensorCount).length = s.capacity
    rw [List.length_append, List.length_map, h.length_entries, List.length_drop]
    omega
  -- the other moves go to the top or leave the loop, where no room is needed
  | _ => exact ⟨h.length_registry, h.reallocation, h.count_le, by simp⟩

end Bounds

theorem bounds_run (fresh : ℕ → Sensor) (acts : List Action) :
    ∃ s, run fresh acts = .ok s ∧ Bounds s := by
  refine Run.exec_rule (P := fun _ s => Bounds s) (bounds_init fresh) ?_ acts
  intro acts a s h
  obtain ⟨s', hs', hm⟩ := h.step_moved a
  exact ⟨s', hs', h.of_moved hm⟩

/-- Every run, whatever comes in and however the threads interleave, stays within the block: it
reaches a state, and there the count, the capacity and the room for the next sensor are as the loop
needs them, the index at which a frame in hand will be written lies in the block, and so do the
entries that a sweep, a snapshot or a lookup would read. -/
theorem registry_bounds (fresh : ℕ → Sensor) (acts : List Action) :
    ∃ s, run fresh acts = .ok s ∧
      s.sensorRegistry.length = s.capacity ∧
      s.sensorCount ≤ s.capacity ∧ s.capacity ≤ sensorsLimitMax ∧
      (s.place = .waiting → s.sensorCount < s.capacity ∨ s.sensorCount = sensorsLimitMax) ∧
      (∀ f idx new, s.place = .received f →
        sensorExists f s.sensorRegistry s.sensorCount = .ok (idx, new) →
        ¬ (new = true ∧ sensorsLimitMax ≤ s.sensorCount) → 0 ≤ idx ∧ idx < s.capacity) ∧
      (∀ t, ∃ s', sweep t s = .ok s') ∧
      snapshot s = .ok s.entries ∧
      ∀ id, ∃ e, getSensorID id s.sensorRegistry s.sensorCount = .ok e := by
  obtain ⟨s, hs, h⟩ := bounds_run fresh acts
  refine ⟨s, hs, h.length_registry, h.count_le, h.capacity_le, fun hw => h.room (Or.inl hw), ?_,
    fun t => ⟨_, h.sweep_eq t⟩, h.snapshot_eq, fun id => ⟨_, h.lookup_eq id⟩⟩
  intro f idx new hplace hexists hlimit
  rw [sensorExists_eq f h.count_le_length, ← State.entries] at hexists
  split_ifs at hexists with hk
  · obtain ⟨rfl, rfl⟩ := Prod.mk_inj.mp (Except.ok.inj hexists)
    have hlt := h.idxOf_lt hk
    have hle := h.count_le
    omega
  · obtain ⟨rfl, rfl⟩ := Prod.mk_inj.mp (Except.ok.inj hexists)
    have hlt := h.count_lt hplace (by simpa using hlimit)
    rw [h.length_registry] at hlt
    omega

end Telemetry
end Gateway
