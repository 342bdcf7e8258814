import Gateway.Telemetry.Loop
import Gateway.Lib.CriticalSection
import Gateway.Lib.Fallible

/-!
# `telemetry_d.c`: the threads and `registry_mutex`

In `Gateway.Telemetry.Loop` a critical section is one step.  Here the threads interleave between
any two accesses of the registry, and what keeps them apart is `registry_mutex` alone.

* `MainPlace`, `WatchdogPlace`, `UserPlace`: where a thread stands, with the local variables that it
  has there;
* `Shared`: what the mutex protects, with the block of the registry on the heap, and `Flags`, what
  it does not protect;
* `program`: the code of the threads, access by access;
* `step`: one operation, or the `free` of `main` behind its loop, which does not take the mutex.

`realloc` always moves the block, and an access through a pointer to a freed block or outside of it
is a `Fault`.  The section of `throughput_mutex` is one step, since it has one access.
-/

namespace Gateway
namespace Telemetry
namespace Locking

open CriticalSection Fallible

variable {ι : Type}

inductive Thread (ι : Type)
  | main
  | watchdog
  | user (i : ι)
  | signals
  deriving DecidableEq

/-! ### What the threads share -/

/-- An access to a block that is not allocated, or past the end of a block. -/
inductive Fault
  | freed (address : ℕ)
  | outside (idx : ℕ)
  deriving DecidableEq

/-- What `registry_mutex` protects: `sensor_registry` is the address of a block, and no block has
an address from `brk` on.  `history` records what has been applied to the registry, and no thread
reads it. -/
structure Shared where
  heap : ℕ → Option (List Sensor)
  brk : ℕ
  sensorRegistry : ℕ
  sensorCount : ℕ
  sensorReallocation : ℕ
  history : List Event

/-- What is read and written without `registry_mutex`. -/
structure Flags where
  exitRQ : Bool
  throughputFrameCount : UInt64

namespace Shared

def block (x : Shared) (address : ℕ) : Except Fault (List Sensor) :=
  match x.heap address with
  | some b => .ok b
  | none => .error (.freed address)

/-- Read `registry[idx]`. -/
def load (x : Shared) (registry idx : ℕ) : Except Fault Sensor := do
  let b ← x.block registry
  (Block.load b idx).mapError .outside

/-- Rewrite `registry[idx]`. -/
def modify (x : Shared) (registry idx : ℕ) (f : Sensor → Sensor) : Except Fault Shared := do
  let b ← x.block registry
  let e ← (Block.load b idx).mapError .outside
  let b ← (Block.store b idx (f e)).mapError .outside
  .ok { x with heap := Function.update x.heap registry (some b) }

/-- `realloc` of the registry to `n` more blocks of `sensor_allocation_count` entries. -/
def grow (fresh : ℕ → Sensor) (x : Shared) (n : ℕ) : Except Fault Shared := do
  let b ← x.block x.sensorRegistry
  .ok { x with
    heap := Function.update (Function.update x.heap x.sensorRegistry none) x.brk
      (some (Block.realloc fresh b (sensorAllocationCount * n)))
    brk := x.brk + 1
    sensorRegistry := x.brk
    sensorReallocation := n }

def free (x : Shared) : Shared :=
  { x with heap := Function.update x.heap x.sensorRegistry none }

end Shared

/-! ### Where the threads stand -/

/-- The main loop: its condition, the growth of the registry, `receiveFrame`, the count of the
frames and the update of the registry.  `leaving` is behind the loop and before `free`. -/
inductive MainPlace
  | top
  | lockGrowth
  | growth
  | realloc
  | unlockGrowth (allocated : Bool)
  | waiting
  | count (f : Sensor)
  | lockUpdate (f : Sensor)
  | callExists (f : Sensor)
  | sensorExists (f : Sensor) (registry count idx : ℕ)
  | claim (f : Sensor) (sensorIndex : ℤ) (newSensorFlag : Bool)
  | updateRegistry (f : Sensor) (idx : ℕ)
  | unlockUpdate (exit : Option Exit)
  | leaving (reason : Exit)
  | exited (reason : Exit)
  deriving DecidableEq

inductive WatchdogPlace
  | top
  | clockGettime
  | lock (currTime : Timespec)
  | sweep (currTime : Timespec) (senseIdx : ℕ)
  | unlock
  | usleep
  | returned
  deriving DecidableEq

inductive Request
  | lookup (id : UInt16)
  | snapshot
  deriving DecidableEq

/-- What a request has read: the sensor with the id, or a copy of the registry if there was memory
for it. -/
inductive Reply
  | sensor (id : UInt16) (e : Sensor)
  | copy (entries : Option (List Sensor))
  deriving DecidableEq

inductive UserPlace
  | top
  | receive
  | lockLookup (id : UInt16)
  | callLookup (id : UInt16)
  | getSensorID (id : UInt16) (registry count idx : ℕ)
  | lockSnapshot
  | malloc
  | memcpy (registry count : ℕ) (copied : List Sensor)
  | unlock (reply : Reply)
  | give (reply : Reply)
  | returned
  deriving DecidableEq

abbrev Place : Thread ι → Type
  | .main => MainPlace
  | .watchdog => WatchdogPlace
  | .user _ => UserPlace
  | .signals => Unit

/-- What a call answers, where something depends on it.  With `closed` the connection of a user is
at its end, or the handler gives it up. -/
inductive Answer
  | done
  | closed
  | allocated
  | message (m : Message)
  | clock (t : Timespec)
  | request (r : Request)
  deriving DecidableEq

/-! ### `main` -/

def mainPhase : MainPlace → Phase MainPlace
  | .lockGrowth => .waits .growth
  | .lockUpdate f => .waits (.callExists f)
  | .growth => .inside
  | .realloc => .inside
  | .unlockGrowth _ => .inside
  | .callExists _ => .inside
  | .sensorExists _ _ _ _ => .inside
  | .claim _ _ _ => .inside
  | .updateRegistry _ _ => .inside
  | .unlockUpdate _ => .inside
  | _ => .outside

/-- The loop outside its sections. -/
def mainOutside (p : MainPlace) (a : Answer) (o : Flags) : MainPlace × Flags :=
  match p, a with
  | .top, _ => (if o.exitRQ then .leaving .requested else .lockGrowth, o)
  | .waiting, .message (.frame f) => (.count f, o)
  | .waiting, .message .incomplete => (.top, o)
  | .waiting, .message .failed =>
      (.leaving (if o.exitRQ then .requested else .receiveFailed), o)
  | .count f, _ =>
      (.lockUpdate f, { o with throughputFrameCount := o.throughputFrameCount + 1 })
  | p, _ => (p, o)

theorem isInside_mainOutside {p : MainPlace} (a : Answer) (o : Flags) (h : mainPhase p = .outside) :
    (mainPhase (mainOutside p a o).1).isInside = false := by
  fun_cases mainOutside p a o with
  | case1 => split <;> rfl
  | case6 => rw [h]; rfl
  | _ => rfl

/-- The two sections of the loop. -/
def mainAccess (fresh : ℕ → Sensor) (p : MainPlace) (a : Answer) (x : Shared) :
    Except Fault (MainPlace × Shared) :=
  match p, a with
  | .growth, _ =>
      if x.sensorCount ≥ sensorAllocationCount * x.sensorReallocation ∧
        x.sensorCount < sensorsLimitMax then .ok (.realloc, x)
      else .ok (.unlockGrowth true, x)
  | .realloc, .allocated => do
      let x ← x.grow fresh (newReallocation x.sensorReallocation)
      .ok (.unlockGrowth true, x)
  | .realloc, _ => .ok (.unlockGrowth false, x)
  | .unlockGrowth true, _ => .ok (.waiting, x)
  | .unlockGrowth false, _ => .ok (.leaving .reallocFailed, x)
  | .callExists f, _ => .ok (.sensorExists f x.sensorRegistry x.sensorCount 0, x)
  | .sensorExists f registry count idx, _ =>
      if idx < count then do
        let e ← x.load registry idx
        if e.id = f.id ∧ e.type = f.type then .ok (.claim f idx false, x)
        else .ok (.sensorExists f registry count (idx + 1), x)
      else .ok (.claim f count true, x)
  | .claim f sensorIndex newSensorFlag, _ =>
      if sensorIndex < 0 then .ok (.unlockUpdate (some .sensorUnsupported), x)
      else if newSensorFlag ∧ x.sensorCount ≥ sensorsLimitMax then
        .ok (.unlockUpdate (some (.registryFull f)), x)
      else
        .ok (.updateRegistry f sensorIndex.toNat,
          { x with sensorCount := if newSensorFlag then x.sensorCount + 1 else x.sensorCount })
  | .updateRegistry f idx, _ => do
      let x ← x.modify x.sensorRegistry idx (Gateway.updateRegistry f)
      .ok (.unlockUpdate none, { x with history := x.history ++ [.frame f] })
  | .unlockUpdate none, _ => .ok (.top, x)
  | .unlockUpdate (some e), _ => .ok (.leaving e, x)
  | p, _ => .ok (p, x)

/-! ### `WDT_SensorHandler` -/

def watchdogPhase : WatchdogPlace → Phase WatchdogPlace
  | .lock t => .waits (.sweep t 0)
  | .sweep _ _ => .inside
  | .unlock => .inside
  | _ => .outside

def watchdogOutside (p : WatchdogPlace) (a : Answer) (o : Flags) : WatchdogPlace × Flags :=
  match p, a with
  | .top, _ => (if o.exitRQ then .returned else .clockGettime, o)
  | .clockGettime, .clock t => (.lock t, o)
  | .usleep, _ => (.top, o)
  | p, _ => (p, o)

theorem isInside_watchdogOutside {p : WatchdogPlace} (a : Answer) (o : Flags)
    (h : watchdogPhase p = .outside) :
    (watchdogPhase (watchdogOutside p a o).1).isInside = false := by
  fun_cases watchdogOutside p a o with
  | case1 => split <;> rfl
  | case4 => rw [h]; rfl
  | _ => rfl

/-- The loop reads `sensor_count` and `sensor_registry` anew for every entry. -/
def watchdogAccess (p : WatchdogPlace) (x : Shared) : Except Fault (WatchdogPlace × Shared) :=
  match p with
  | .sweep t senseIdx =>
      if senseIdx < x.sensorCount then do
        let x ← x.modify x.sensorRegistry senseIdx (markState t)
        .ok (.sweep t (senseIdx + 1), x)
      else .ok (.unlock, { x with history := x.history ++ [.sweep t] })
  | .unlock => .ok (.usleep, x)
  | p => .ok (p, x)

/-! ### `userHandler` and the `giveSensorAll` functions -/

def userPhase : UserPlace → Phase UserPlace
  | .lockLookup id => .waits (.callLookup id)
  | .lockSnapshot => .waits .malloc
  | .callLookup _ => .inside
  | .getSensorID _ _ _ _ => .inside
  | .malloc => .inside
  | .memcpy _ _ _ => .inside
  | .unlock _ => .inside
  | _ => .outside

/-- Where a request takes the mutex. -/
def Request.lock : Request → UserPlace
  | .lookup id => .lockLookup id
  | .snapshot => .lockSnapshot

/-- What `userHandler` does with what it has received.  A request for the throughput is `done`
without the mutex. -/
def received : Answer → UserPlace
  | .request r => r.lock
  | .done => .top
  | .closed => .returned
  | _ => .receive

/-- Without memory for the copy of the registry the connection is given up. -/
def userOutside (p : UserPlace) (a : Answer) (o : Flags) : UserPlace × Flags :=
  match p with
  | .top => (if o.exitRQ then .returned else .receive, o)
  | .receive => (received a, o)
  | .give r => (if a = .closed ∨ r = .copy none then .returned else .top, o)
  | p => (p, o)

theorem isInside_userOutside {p : UserPlace} (a : Answer) (o : Flags) (h : userPhase p = .outside) :
    (userPhase (userOutside p a o).1).isInside = false := by
  fun_cases userOutside p a o with
  | case1 => split <;> rfl
  | case2 =>
    cases a with
    | request r => cases r <;> rfl
    | _ => rfl
  | case3 => split <;> rfl
  | case4 => rw [h]; rfl

/-- The two kinds of sections of a user: `getSensor_ID`, and the copy of the registry. -/
def userAccess (p : UserPlace) (a : Answer) (x : Shared) : Except Fault (UserPlace × Shared) :=
  match p with
  | .callLookup id => .ok (.getSensorID id x.sensorRegistry x.sensorCount 0, x)
  | .getSensorID id registry count idx =>
      if idx < count then do
        let e ← x.load registry idx
        if e.id = id then .ok (.unlock (.sensor id e), x)
        else .ok (.getSensorID id registry count (idx + 1), x)
      else .ok (.unlock (.sensor id Sensor.zero), x)
  | .malloc =>
      if x.sensorCount > 0 then
        if a = .allocated then .ok (.memcpy x.sensorRegistry x.sensorCount [], x)
        else .ok (.unlock (.copy none), x)
      else .ok (.unlock (.copy (some [])), x)
  | .memcpy registry count copied =>
      if copied.length < count then do
        let e ← x.load registry copied.length
        .ok (.memcpy registry count (copied ++ [e]), x)
      else .ok (.unlock (.copy (some copied)), x)
  | .unlock reply => .ok (.give reply, x)
  | .top | .receive | .lockLookup _ | .lockSnapshot | .give _ | .returned => .ok (p, x)

/-! ### The program -/

/-- A signal can come at any time, the handler only sets `exitRQ`. -/
def program (fresh : ℕ → Sensor) : Program (Thread ι) Place Shared Flags Answer Fault where
  phase
    | .main, p => mainPhase p
    | .watchdog, p => watchdogPhase p
    | .user _, p => userPhase p
    | .signals, _ => .outside
  outside
    | .main, p, a, o => mainOutside p a o
    | .watchdog, p, a, o => watchdogOutside p a o
    | .user _, p, a, o => userOutside p a o
    | .signals, _, _, o => ((), { o with exitRQ := true })
  access
    | .main, p, a, x => mainAccess fresh p a x
    | .watchdog, p, _, x => watchdogAccess p x
    | .user _, p, a, x => userAccess p a x
    | .signals, _, _, x => .ok ((), x)
  isInside_next := by
    rintro (_ | _ | i | _) p next h
    · cases p <;> cases h <;> rfl
    · cases p with
      | lock t => cases h; rfl
      | _ => cases h
    · cases p <;> cases h <;> rfl
    · cases h
  isInside_outside := by
    rintro (_ | _ | i | _) p a o h
    · exact isInside_mainOutside a o h
    · exact isInside_watchdogOutside a o h
    · exact isInside_userOutside a o h
    · rfl

/-! ### The length of a section -/

/-- The number of accesses that are left of a section, with the call that gives the mutex back. -/
def accessesLeft : (i : Thread ι) → Place i → Shared → ℕ
  | .main, .growth, _ => 3
  | .main, .realloc, _ => 2
  | .main, .unlockGrowth _, _ => 1
  | .main, .callExists _, x => x.sensorCount + 5
  | .main, .sensorExists _ _ count idx, _ => count - idx + 4
  | .main, .claim _ _ _, _ => 3
  | .main, .updateRegistry _ _, _ => 2
  | .main, .unlockUpdate _, _ => 1
  | .watchdog, .sweep _ senseIdx, x => x.sensorCount - senseIdx + 2
  | .watchdog, .unlock, _ => 1
  | .user _, .callLookup _, x => x.sensorCount + 3
  | .user _, .getSensorID _ _ count idx, _ => count - idx + 2
  | .user _, .malloc, x => x.sensorCount + 3
  | .user _, .memcpy _ count copied, _ => count - copied.length + 2
  | .user _, .unlock _, _ => 1
  | _, _, _ => 0

/-- Rewriting an entry changes nothing but the memory. -/
theorem ends_modify (x : Shared) (registry idx : ℕ) (f : Sensor → Sensor) :
    Ends (x.modify registry idx f) (fun _ => True)
      fun x' => ∃ heap, x' = { x with heap := heap } := by
  refine (ends_trivial _).bind fun b _ => ?_
  refine (ends_trivial _).bind fun e _ => ?_
  exact (ends_trivial _).bind fun b' _ => ⟨_, rfl⟩

theorem accessesLeft_main (fresh : ℕ → Sensor) {p : MainPlace}
    (hin : (mainPhase p).isInside = true) (ans : Answer) (x : Shared) :
    Ends (mainAccess fresh p ans x) (fun _ => True)
      fun next => accessesLeft (ι := ι) .main next.1 next.2 < accessesLeft (ι := ι) .main p x := by
  cases p with
  | growth =>
    simp only [mainAccess]
    split_ifs
    · show 2 < 3
      omega
    · show 1 < 3
      omega
  | realloc =>
    cases ans with
    | allocated => exact (ends_trivial _).bind fun x' _ => Nat.one_lt_two
    | _ => exact Nat.one_lt_two
  | unlockGrowth allocated => cases allocated <;> exact Nat.zero_lt_one
  | callExists f =>
    show x.sensorCount - 0 + 4 < x.sensorCount + 5
    omega
  | sensorExists f registry count idx =>
    simp only [mainAccess]
    split_ifs with hidx
    · refine (ends_trivial _).bind fun e _ => ?_
      split_ifs
      · show 3 < count - idx + 4
        omega
      · show count - (idx + 1) + 4 < count - idx + 4
        omega
    · show 3 < count - idx + 4
      omega
  | claim f sensorIndex newSensorFlag =>
    simp only [mainAccess]
    split
    · show 1 < 3
      omega
    · split
      · show 1 < 3
        omega
      · show 2 < 3
        omega
  | updateRegistry f idx => exact (ends_trivial _).bind fun x' _ => Nat.one_lt_two
  | unlockUpdate exit => cases exit <;> exact Nat.zero_lt_one
  | _ => cases hin

theorem accessesLeft_watchdog {p : WatchdogPlace} (hin : (watchdogPhase p).isInside = true)
    (x : Shared) :
    Ends (watchdogAccess p x) (fun _ => True) fun next =>
      accessesLeft (ι := ι) .watchdog next.1 next.2 < accessesLeft (ι := ι) .watchdog p x := by
  cases p with
  | sweep t senseIdx =>
    simp only [watchdogAccess]
    split_ifs with hidx
    · refine (ends_modify x x.sensorRegistry senseIdx (markState t)).bind fun x' hx' => ?_
      obtain ⟨heap, rfl⟩ := hx'
      show x.sensorCount - (senseIdx + 1) + 2 < x.sensorCount - senseIdx + 2
      omega
    · show 1 < x.sensorCount - senseIdx + 2
      omega
  | unlock => exact Nat.zero_lt_one
  | _ => cases hin

theorem accessesLeft_user {i : ι} {p : UserPlace} (hin : (userPhase p).isInside = true)
    (ans : Answer) (x : Shared) :
    Ends (userAccess p ans x) (fun _ => True) fun next =>
      accessesLeft (.user i) next.1 next.2 < accessesLeft (.user i) p x := by
  cases p with
  | callLookup id =>
    show x.sensorCount - 0 + 2 < x.sensorCount + 3
    omega
  | getSensorID id registry count idx =>
    simp only [userAccess]
    split_ifs with hidx
    · refine (ends_trivial _).bind fun e _ => ?_
      split_ifs
      · show 1 < count - idx + 2
        omega
      · show count - (idx + 1) + 2 < count - idx + 2
        omega
    · show 1 < count - idx + 2
      omega
  | malloc =>
    simp only [userAccess]
    split_ifs
    · show x.sensorCount - 0 + 2 < x.sensorCount + 3
      omega
    · show 1 < x.sensorCount + 3
      omega
    · show 1 < x.sensorCount + 3
      omega
  | memcpy registry count copied =>
    simp only [userAccess]
    split_ifs with hmore
    · refine (ends_trivial _).bind fun e _ => ?_
      show count - (copied ++ [e]).length + 2 < count - copied.length + 2
      rw [List.length_append, List.length_singleton]
      omega
    · show 1 < count - copied.length + 2
      omega
  | unlock reply => exact Nat.zero_lt_one
  | _ => cases hin

/-- Every access brings a thread closer to the end of its section. -/
theorem accessesLeft_lt {fresh : ℕ → Sensor} {i : Thread ι} {p : Place i} {ans : Answer}
    {x : Shared} {next : Place i × Shared}
    (hin : ((program fresh).phase i p).isInside = true)
    (h : (program fresh).access i p ans x = .ok next) :
    accessesLeft i next.1 next.2 < accessesLeft i p x := by
  cases i with
  | main => exact (accessesLeft_main fresh hin ans x).of_ok h
  | watchdog => exact (accessesLeft_watchdog hin x).of_ok h
  | user i => exact (accessesLeft_user hin ans x).of_ok h
  | signals => cases hin

/-! ### Runs -/

abbrev State (ι : Type) := CriticalSection.State (Thread ι) Place Shared Flags

/-- A thread is in a section of `registry_mutex`. -/
def Inside (s : State ι) : Thread ι → Prop
  | .main => (mainPhase (s.place .main)).isInside = true
  | .watchdog => (watchdogPhase (s.place .watchdog)).isInside = true
  | .user i => (userPhase (s.place (.user i))).isInside = true
  | .signals => False

theorem inside_iff (fresh : ℕ → Sensor) {s : State ι} (t : Thread ι) :
    Inside s t ↔ ((program fresh).phase t (s.place t)).isInside = true := by
  cases t with
  | signals => exact iff_of_false id Bool.false_ne_true
  | _ => exact Iff.rfl

/-- The threads have been started, the registry is the block that `main` has allocated. -/
def init (fresh : ℕ → Sensor) : Config (Thread ι) Place Shared Flags where
  shared :=
    { heap := Function.update (fun _ => none) 0
        (some ((List.range sensorAllocationCount).map fresh))
      brk := 1
      sensorRegistry := 0
      sensorCount := 0
      sensorReallocation := 1
      history := [] }
  flags := ⟨false, 0⟩
  place
    | .main => .top
    | .watchdog => .top
    | .user _ => .top
    | .signals => ()

/-- One operation of a thread, or the `free` of `main`, with which the process is about to end. -/
inductive Act (ι : Type)
  | thread (t : Thread ι) (a : Answer)
  | free

variable [DecidableEq ι]

def step (fresh : ℕ → Sensor) (s : State ι) : Act ι → Except Fault (State ι)
  | .thread t a => CriticalSection.step (program fresh) s (t, a)
  | .free =>
      match s.place .main with
      | .leaving e =>
          .ok ⟨⟨s.shared.free, s.flags, Function.update s.place .main (.exited e)⟩, s.mutex⟩
      | _ => .ok s

def run (fresh : ℕ → Sensor) (acts : List (Act ι)) : Except Fault (State ι) :=
  Run.exec (step fresh) (start (init fresh)) acts

end Locking
end Telemetry
end Gateway
