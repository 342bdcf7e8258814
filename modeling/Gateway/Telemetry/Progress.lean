import Gateway.Telemetry.Locking
import Gateway.Telemetry.Registry

/-!
# `telemetry_d.c`: the main loop among the other threads

The threads of `Gateway.Telemetry.Locking` as far as the main loop is concerned.  A frame that
`receiveFrame` returns is counted in one operation and applied in a later one, and the other threads
run in between.

* `MainMoved`: the operations of `main`, each with its guard;
* `step_cases`: a step is one of them, or the `free` of `main`, or leaves the main loop alone;
* `taken`: the frames that `receiveFrame` returns along a run;
* `Accounted`, `accounted_exec`: what has become of them, and what the counter shows.
-/

namespace Gateway
namespace Telemetry
namespace Locking

open CriticalSection Fallible

variable {ι : Type} {fresh : ℕ → Sensor}

/-! ### The operations of `main` -/

/-- What an operation of `main` can do with the answer `a`, from the shared state `x` and the flags
`o`.  In a section the other threads do not touch `x`. -/
inductive MainMoved (x : Shared) (o : Flags) :
    Answer → MainPlace → MainPlace → Shared → Flags → Prop
  | wait (a : Answer) (ha : ∀ m, a ≠ .message m) : MainMoved x o a .waiting .waiting x o
  | left (a : Answer) (e : Exit) : MainMoved x o a (.leaving e) (.leaving e) x o
  | exited (a : Answer) (e : Exit) : MainMoved x o a (.exited e) (.exited e) x o
  | exit (a : Answer) (hexit : o.exitRQ = true) :
      MainMoved x o a .top (.leaving .requested) x o
  | goOn (a : Answer) (hexit : o.exitRQ = false) : MainMoved x o a .top .lockGrowth x o
  | lockGrowth (a : Answer) : MainMoved x o a .lockGrowth .growth x o
  | full (a : Answer) : MainMoved x o a .growth .realloc x o
  | room (a : Answer) : MainMoved x o a .growth (.unlockGrowth true) x o
  | grow (a : Answer) (x' : Shared) (hcount : x'.sensorCount = x.sensorCount)
      (hhistory : x'.history = x.history) :
      MainMoved x o a .realloc (.unlockGrowth true) x' o
  | reallocFailed (a : Answer) : MainMoved x o a .realloc (.unlockGrowth false) x o
  | unlockGrowth (a : Answer) : MainMoved x o a (.unlockGrowth true) .waiting x o
  | giveUp (a : Answer) :
      MainMoved x o a (.unlockGrowth false) (.leaving .reallocFailed) x o
  | frame (f : Sensor) : MainMoved x o (.message (.frame f)) .waiting (.count f) x o
  | incomplete : MainMoved x o (.message .incomplete) .waiting .top x o
  | failed : MainMoved x o (.message .failed) .waiting
      (.leaving (if o.exitRQ then .requested else .receiveFailed)) x o
  | count (a : Answer) (f : Sensor) :
      MainMoved x o a (.count f) (.lockUpdate f) x
        { o with throughputFrameCount := o.throughputFrameCount + 1 }
  | lockUpdate (a : Answer) (f : Sensor) :
      MainMoved x o a (.lockUpdate f) (.callExists f) x o
  | callExists (a : Answer) (f : Sensor) :
      MainMoved x o a (.callExists f) (.sensorExists f x.sensorRegistry x.sensorCount 0) x o
  | found (a : Answer) (f : Sensor) (registry count idx : ℕ) (hidx : idx < count) :
      MainMoved x o a (.sensorExists f registry count idx) (.claim f idx false) x o
  | next (a : Answer) (f : Sensor) (registry count idx : ℕ) (hidx : idx < count) :
      MainMoved x o a (.sensorExists f registry count idx)
        (.sensorExists f registry count (idx + 1)) x o
  | unknown (a : Answer) (f : Sensor) (registry count idx : ℕ) :
      MainMoved x o a (.sensorExists f registry count idx) (.claim f count true) x o
  | unsupported (a : Answer) (f : Sensor) (sensorIndex : ℤ) (newSensorFlag : Bool)
      (hindex : sensorIndex < 0) :
      MainMoved x o a (.claim f sensorIndex newSensorFlag)
        (.unlockUpdate (some .sensorUnsupported)) x o
  | registryFull (a : Answer) (f : Sensor) (sensorIndex : ℤ) (newSensorFlag : Bool) :
      MainMoved x o a (.claim f sensorIndex newSensorFlag)
        (.unlockUpdate (some (.registryFull f))) x o
  | claim (a : Answer) (f : Sensor) (sensorIndex : ℤ) (newSensorFlag : Bool)
      (hroom : newSensorFlag = true → x.sensorCount < sensorsLimitMax) :
      MainMoved x o a (.claim f sensorIndex newSensorFlag) (.updateRegistry f sensorIndex.toNat)
        { x with sensorCount := if newSensorFlag then x.sensorCount + 1 else x.sensorCount } o
  | update (a : Answer) (f : Sensor) (idx : ℕ) (x' : Shared)
      (hcount : x'.sensorCount = x.sensorCount)
      (hreallocation : x'.sensorReallocation = x.sensorReallocation)
      (hhistory : x'.history = x.history ++ [.frame f]) :
      MainMoved x o a (.updateRegistry f idx) (.unlockUpdate none) x' o
  | unlockUpdate (a : Answer) : MainMoved x o a (.unlockUpdate none) .top x o
  | leave (a : Answer) (e : Exit) :
      MainMoved x o a (.unlockUpdate (some e)) (.leaving e) x o

theorem mainMoved_outside {p : MainPlace} (x : Shared) (o : Flags) (a : Answer)
    (h : mainPhase p = .outside) :
    MainMoved x o a p (mainOutside p a o).1 x (mainOutside p a o).2 := by
  cases p with
  | top =>
    cases hexit : o.exitRQ with
    | true => simpa [mainOutside, hexit] using MainMoved.exit (x := x) a hexit
    | false => simpa [mainOutside, hexit] using MainMoved.goOn (x := x) a hexit
  | waiting =>
    cases a with
    | message m =>
      cases m with
      | frame f => exact .frame f
      | incomplete => exact .incomplete
      | failed => exact .failed
    | _ => exact .wait _ (by simp)
  | count f => exact .count a f
  | leaving e => exact .left a e
  | exited e => exact .exited a e
  | _ => cases h

theorem mainMoved_waits {p next : MainPlace} (x : Shared) (o : Flags) (a : Answer)
    (h : mainPhase p = .waits next) : MainMoved x o a p next x o := by
  cases p with
  | lockGrowth =>
    cases h
    exact .lockGrowth a
  | lockUpdate f =>
    cases h
    exact .lockUpdate a f
  | _ => cases h

theorem mainMoved_access {p : MainPlace} (x : Shared) (o : Flags) (a : Answer)
    (h : (mainPhase p).isInside = true) :
    Ends (mainAccess fresh p a x) (fun _ => True) fun r => MainMoved x o a p r.1 r.2 o := by
  cases p with
  | growth =>
    simp only [mainAccess]
    split_ifs
    · exact MainMoved.full a
    · exact MainMoved.room a
  | realloc =>
    cases a with
    | allocated =>
      refine Ends.bind (P := fun x' => x'.sensorCount = x.sensorCount ∧ x'.history = x.history)
        ?_ fun x' hx' => MainMoved.grow _ x' hx'.1 hx'.2
      exact (ends_trivial _).bind fun b _ => ⟨rfl, rfl⟩
    | _ => exact MainMoved.reallocFailed _
  | unlockGrowth allocated =>
    cases allocated with
    | true => exact MainMoved.unlockGrowth a
    | false => exact MainMoved.giveUp a
  | callExists f => exact MainMoved.callExists a f
  | sensorExists f registry count idx =>
    simp only [mainAccess]
    split_ifs with hidx
    · refine (ends_trivial _).bind fun e _ => ?_
      split_ifs
      · exact MainMoved.found a f registry count idx hidx
      · exact MainMoved.next a f registry count idx hidx
    · exact MainMoved.unknown a f registry count idx
  | claim f sensorIndex newSensorFlag =>
    simp only [mainAccess]
    split
    · rename_i hindex
      exact MainMoved.unsupported a f sensorIndex newSensorFlag hindex
    · split
      · exact MainMoved.registryFull a f sensorIndex newSensorFlag
      · rename_i hroom
        exact MainMoved.claim a f sensorIndex newSensorFlag fun hnew =>
          not_le.mp fun hle => hroom ⟨hnew, hle⟩
  | updateRegistry f idx =>
    refine (ends_modify x x.sensorRegistry idx (Gateway.updateRegistry f)).bind fun x' hx' => ?_
    obtain ⟨heap, rfl⟩ := hx'
    exact MainMoved.update a f idx _ rfl rfl rfl
  | unlockUpdate exit =>
    cases exit with
    | none => exact MainMoved.unlockUpdate a
    | some e => exact MainMoved.leave a e
  | _ => cases h

/-! ### One step -/

/-- A step that leaves the main loop alone: it does not go on, and its variables stay as they
are. -/
structure Aside (s s' : State ι) : Prop where
  place : s'.place .main = s.place .main
  exitRQ : s.flags.exitRQ = true → s'.flags.exitRQ = true
  counter : s'.flags.throughputFrameCount = s.flags.throughputFrameCount
  count : s'.shared.sensorCount = s.shared.sensorCount
  reallocation : s'.shared.sensorReallocation = s.shared.sensorReallocation
  frames : Telemetry.frames s'.shared.history = Telemetry.frames s.shared.history

theorem Aside.refl (s : State ι) : Aside s s := ⟨rfl, id, rfl, rfl, rfl, rfl⟩

variable [DecidableEq ι] {s s' : State ι} {act : Act ι}

theorem aside_outside {t : Thread ι} (ht : t ≠ .main) (a : Answer) :
    Aside s ⟨s.goOutside t ((program fresh).outside t (s.place t) a s.flags), s.mutex⟩ := by
  have hplace : (s.goOutside t ((program fresh).outside t (s.place t) a s.flags)).place .main =
      s.place .main := Function.update_of_ne ht.symm _ _
  cases t with
  | main => exact absurd rfl ht
  | watchdog =>
    have hflags : (watchdogOutside (s.place .watchdog) a s.flags).2 = s.flags := by
      fun_cases watchdogOutside (s.place .watchdog) a s.flags <;> rfl
    refine ⟨hplace, fun hexit => ?_, ?_, rfl, rfl, rfl⟩
    · exact (congrArg Flags.exitRQ hflags).trans hexit
    · exact congrArg Flags.throughputFrameCount hflags
  | user i =>
    have hflags : (userOutside (s.place (.user i)) a s.flags).2 = s.flags := by
      fun_cases userOutside (s.place (.user i)) a s.flags <;> rfl
    refine ⟨hplace, fun hexit => ?_, ?_, rfl, rfl, rfl⟩
    · exact (congrArg Flags.exitRQ hflags).trans hexit
    · exact congrArg Flags.throughputFrameCount hflags
  | signals => exact ⟨hplace, fun _ => rfl, rfl, rfl, rfl, rfl⟩

/-- A sweep records no frame. -/
theorem watchdogAccess_ends (p : WatchdogPlace) (x : Shared) :
    Ends (watchdogAccess p x) (fun _ => True) fun next =>
      next.2.sensorCount = x.sensorCount ∧ next.2.sensorReallocation = x.sensorReallocation ∧
        frames next.2.history = frames x.history := by
  cases p with
  | sweep t senseIdx =>
    simp only [watchdogAccess]
    split_ifs
    · refine (ends_modify x x.sensorRegistry senseIdx (markState t)).bind fun x' hx' => ?_
      obtain ⟨heap, rfl⟩ := hx'
      exact ⟨rfl, rfl, rfl⟩
    · refine ⟨rfl, rfl, ?_⟩
      rw [frames, List.filterMap_append]
      exact List.append_nil _
  | _ => exact ⟨rfl, rfl, rfl⟩

theorem userAccess_ends (p : UserPlace) (a : Answer) (x : Shared) :
    Ends (userAccess p a x) (fun _ => True) fun next => next.2 = x := by
  cases p with
  | getSensorID id registry count idx =>
    simp only [userAccess]
    split_ifs
    · refine (ends_trivial _).bind fun e _ => ?_
      split_ifs <;> exact rfl
    · exact rfl
  | malloc =>
    simp only [userAccess]
    split_ifs <;> exact rfl
  | memcpy registry count copied =>
    simp only [userAccess]
    split_ifs
    · exact (ends_trivial _).bind fun e _ => rfl
    · exact rfl
  | _ => exact rfl

/-- The other threads do not touch the variables of the main loop in their sections. -/
theorem aside_access {t : Thread ι} (ht : t ≠ .main) {a : Answer} {next : Place t × Shared}
    (h : (program fresh).access t (s.place t) a s.shared = .ok next) (mutex : Option (Thread ι)) :
    Aside s ⟨s.goInside t next, mutex⟩ := by
  have hplace : (s.goInside t next).place .main = s.place .main :=
    Function.update_of_ne ht.symm _ _
  have hshared : next.2.sensorCount = s.shared.sensorCount ∧
      next.2.sensorReallocation = s.shared.sensorReallocation ∧
      frames next.2.history = frames s.shared.history := by
    cases t with
    | main => exact absurd rfl ht
    | watchdog => exact (watchdogAccess_ends _ _).of_ok h
    | user i =>
      have hsame : next.2 = s.shared := (userAccess_ends _ _ _).of_ok h
      rw [hsame]
      exact ⟨rfl, rfl, rfl⟩
    | signals =>
      obtain rfl := Except.ok.inj h
      exact ⟨rfl, rfl, rfl⟩
  exact ⟨hplace, id, rfl, hshared.1, hshared.2.1, hshared.2.2⟩

/-- What `receiveFrame` returns at a place of `main`. -/
def takenAt : MainPlace → Answer → List Sensor
  | .waiting, .message (.frame f) => [f]
  | _, _ => []

/-- The frame that a step brings. -/
def takenBy (s : State ι) : Act ι → List Sensor
  | .thread .main a => takenAt (s.place .main) a
  | _ => []

/-- A step of `main` is an operation, unless it waits for the mutex.  It gives the mutex to no other
thread. -/
theorem main_cases {a : Answer} (h : CriticalSection.step (program fresh) s (.main, a) = .ok s') :
    (s' = s ∧ s.mutex ≠ none ∧ ∃ next, mainPhase (s.place .main) = .waits next) ∨
      MainMoved s.shared s.flags a (s.place .main) (s'.place .main) s'.shared s'.flags ∧
        (s'.mutex = s.mutex ∨ s'.mutex = none ∨ s'.mutex = some .main) := by
  cases hphase : (program fresh).phase .main (s.place .main) with
  | outside =>
    rw [step_outside hphase] at h
    obtain rfl := Except.ok.inj h
    have hmoved := mainMoved_outside s.shared s.flags a hphase
    exact Or.inr ⟨by simpa [Config.goOutside, program] using hmoved, Or.inl rfl⟩
  | waits next =>
    by_cases hmutex : s.mutex = none
    · rw [step_enter hphase hmutex] at h
      obtain rfl := Except.ok.inj h
      have hmoved := mainMoved_waits s.shared s.flags a hphase
      exact Or.inr ⟨by simpa [Config.goInside] using hmoved, Or.inr (Or.inr rfl)⟩
    · rw [step_blocked hphase hmutex] at h
      obtain rfl := Except.ok.inj h
      exact Or.inl ⟨rfl, hmutex, next, hphase⟩
  | inside =>
    have hin : ((program fresh).phase .main (s.place .main)).isInside = true := by
      rw [hphase]
      rfl
    cases hnext : (program fresh).access .main (s.place .main) a s.shared with
    | error e =>
      simp only [CriticalSection.step, hphase, hnext, bind, Except.bind] at h
      cases h
    | ok next =>
      rw [step_access hphase hnext] at h
      obtain rfl := Except.ok.inj h
      have hmoved := (mainMoved_access s.shared s.flags a hin).of_ok hnext
      refine Or.inr ⟨by simpa [Config.goInside] using hmoved, ?_⟩
      split_ifs
      · exact Or.inl rfl
      · exact Or.inr (Or.inl rfl)

/-- A step of another thread leaves the main loop alone. -/
theorem aside_of_step {t : Thread ι} (ht : t ≠ .main) {a : Answer}
    (h : CriticalSection.step (program fresh) s (t, a) = .ok s') : Aside s s' := by
  cases hphase : (program fresh).phase t (s.place t) with
  | outside =>
    rw [step_outside hphase] at h
    obtain rfl := Except.ok.inj h
    exact aside_outside ht a
  | waits next =>
    by_cases hmutex : s.mutex = none
    · rw [step_enter hphase hmutex] at h
      obtain rfl := Except.ok.inj h
      exact ⟨Function.update_of_ne (Ne.symm ht) _ _, id, rfl, rfl, rfl, rfl⟩
    · rw [step_blocked hphase hmutex] at h
      obtain rfl := Except.ok.inj h
      exact Aside.refl s
  | inside =>
    cases hnext : (program fresh).access t (s.place t) a s.shared with
    | error e =>
      simp only [CriticalSection.step, hphase, hnext, bind, Except.bind] at h
      cases h
    | ok next =>
      rw [step_access hphase hnext] at h
      obtain rfl := Except.ok.inj h
      exact aside_access ht hnext _

/-- A step leaves the main loop alone, or is an operation of `main`, or its `free`. -/
theorem step_cases (h : step fresh s act = .ok s') :
    (Aside s s' ∧ takenBy s act = []) ∨
    (∃ a, act = .thread .main a ∧
      MainMoved s.shared s.flags a (s.place .main) (s'.place .main) s'.shared s'.flags) ∨
    ∃ e, act = .free ∧ s.place .main = .leaving e ∧ s'.place .main = .exited e ∧
      s'.flags = s.flags ∧ s'.shared = s.shared.free := by
  cases act with
  | thread t a =>
    by_cases ht : t = .main
    · subst ht
      rcases main_cases h with ⟨rfl, -, next, hwaits⟩ | ⟨hmoved, -⟩
      · refine Or.inl ⟨Aside.refl _, ?_⟩
        rw [takenBy]
        cases hp : s'.place .main with
        | waiting =>
          rw [hp] at hwaits
          cases hwaits
        | _ => rfl
      · exact Or.inr (Or.inl ⟨a, rfl, hmoved⟩)
    · refine Or.inl ⟨aside_of_step ht h, ?_⟩
      cases t with
      | main => exact absurd rfl ht
      | _ => rfl
  | free =>
    simp only [step] at h
    split at h
    · rename_i e hplace
      obtain rfl := Except.ok.inj h
      exact Or.inr (Or.inr ⟨e, rfl, hplace, by simp, rfl, rfl⟩)
    · obtain rfl := Except.ok.inj h
      exact Or.inl ⟨Aside.refl s, rfl⟩

/-! ### Bounds -/

/-- What the places of the main loop bring with them: a count within the limit, an index, and no
sensor that is not supported, since `sensorExists` does not return a negative number. -/
def MainPlace.Bounded : MainPlace → Prop
  | .sensorExists _ _ n _ => n ≤ sensorsLimitMax
  | .claim _ sensorIndex _ => 0 ≤ sensorIndex
  | .unlockUpdate (some e) => ∃ f, e = .registryFull f
  | .leaving e => e ≠ .sensorUnsupported
  | .exited e => e ≠ .sensorUnsupported
  | _ => True

structure Bounded (s : State ι) : Prop where
  count_le : s.shared.sensorCount ≤ sensorsLimitMax
  place : (s.place .main).Bounded

omit [DecidableEq ι] in
theorem bounded_init (fresh : ℕ → Sensor) : Bounded (start (init (ι := ι) fresh)) :=
  ⟨Nat.zero_le _, trivial⟩

theorem MainMoved.bounded {x x' : Shared} {o o' : Flags} {a : Answer} {p p' : MainPlace}
    (h : MainMoved x o a p p' x' o') (hcount : x.sensorCount ≤ sensorsLimitMax)
    (hplace : p.Bounded) : x'.sensorCount ≤ sensorsLimitMax ∧ p'.Bounded := by
  cases h with
  | grow _ x' hsame => exact ⟨hsame ▸ hcount, trivial⟩
  | failed =>
    refine ⟨hcount, ?_⟩
    cases o.exitRQ <;> simp [MainPlace.Bounded]
  | found _ f registry count idx hidx => exact ⟨hcount, Int.natCast_nonneg idx⟩
  | unknown _ f registry count idx => exact ⟨hcount, Int.natCast_nonneg count⟩
  | unsupported _ f sensorIndex newSensorFlag hindex => exact absurd hplace (not_le.mpr hindex)
  | registryFull _ f => exact ⟨hcount, f, rfl⟩
  | claim _ f sensorIndex newSensorFlag hroom =>
    refine ⟨?_, trivial⟩
    show (if newSensorFlag then x.sensorCount + 1 else x.sensorCount) ≤ sensorsLimitMax
    split_ifs with hnew
    · exact hroom hnew
    · exact hcount
  | update _ f idx x' hsame => exact ⟨hsame ▸ hcount, trivial⟩
  | leave _ e =>
    obtain ⟨f, rfl⟩ := hplace
    exact ⟨hcount, Exit.noConfusion⟩
  | exit => exact ⟨hcount, Exit.noConfusion⟩
  | giveUp => exact ⟨hcount, Exit.noConfusion⟩
  | callExists _ f => exact ⟨hcount, hcount⟩
  | next _ f registry count idx hidx => exact ⟨hcount, hplace⟩
  | left _ e => exact ⟨hcount, hplace⟩
  | exited _ e => exact ⟨hcount, hplace⟩
  | _ => exact ⟨hcount, trivial⟩

theorem Bounded.step (hb : Bounded s) (h : step fresh s act = .ok s') : Bounded s' := by
  rcases step_cases h with ⟨haside, -⟩ | ⟨a, rfl, hmoved⟩ | ⟨e, rfl, hplace, hplace', -, hshared⟩
  · exact ⟨haside.count ▸ hb.count_le, haside.place ▸ hb.place⟩
  · obtain ⟨hcount, hplace⟩ := hmoved.bounded hb.count_le hb.place
    exact ⟨hcount, hplace⟩
  · have hbefore := hb.place
    rw [hplace] at hbefore
    refine ⟨?_, ?_⟩
    · rw [hshared]
      exact hb.count_le
    · rw [hplace']
      exact hbefore

/-! ### What becomes of the frames -/

/-- The frame that `main` has in hand, or has given up. -/
def MainPlace.inHand : MainPlace → List Sensor
  | .count f => [f]
  | .lockUpdate f => [f]
  | .callExists f => [f]
  | .sensorExists f _ _ _ => [f]
  | .claim f _ _ => [f]
  | .updateRegistry f _ => [f]
  | .unlockUpdate (some (.registryFull f)) => [f]
  | .leaving (.registryFull f) => [f]
  | .exited (.registryFull f) => [f]
  | _ => []

/-- The frame that has been received and not been counted yet. -/
def MainPlace.uncounted : MainPlace → List Sensor
  | .count f => [f]
  | _ => []

/-- The frames that `receiveFrame` returns along a run from `s`. -/
def taken (fresh : ℕ → Sensor) : State ι → List (Act ι) → List Sensor
  | _, [] => []
  | s, act :: acts =>
      takenBy s act ++
        match step fresh s act with
        | .ok s' => taken fresh s' acts
        | .error _ => []

/-- Between `s` and `s'` the frames `fs` have come and the frames `counted` have been counted.
Every frame is in the registry or in hand, and only the one that was received last can still be
uncounted. -/
structure Accounted (s s' : State ι) (fs counted : List Sensor) : Prop where
  handled : frames s'.shared.history ++ (s'.place .main).inHand =
    frames s.shared.history ++ (s.place .main).inHand ++ fs
  received : (s.place .main).uncounted ++ fs = counted ++ (s'.place .main).uncounted
  counter : s'.flags.throughputFrameCount =
    s.flags.throughputFrameCount + UInt64.ofNat counted.length

omit [DecidableEq ι] in
theorem Accounted.trans {s₁ s₂ s₃ : State ι} {fs gs counted counted' : List Sensor}
    (h : Accounted s₁ s₂ fs counted) (h' : Accounted s₂ s₃ gs counted') :
    Accounted s₁ s₃ (fs ++ gs) (counted ++ counted') := by
  refine ⟨by rw [h'.handled, h.handled, List.append_assoc _ fs], ?_, ?_⟩
  · rw [← List.append_assoc, h.received, List.append_assoc, h'.received, List.append_assoc]
  · rw [h'.counter, h.counter, List.length_append, UInt64.ofNat_add, UInt64.add_assoc]

theorem MainMoved.accounted {x x' : Shared} {o o' : Flags} {a : Answer} {p p' : MainPlace}
    (h : MainMoved x o a p p' x' o') (hplace : p.Bounded) :
    frames x'.history ++ p'.inHand = frames x.history ++ p.inHand ++ takenAt p a ∧
      takenAt p a = p'.uncounted ∧
      o'.throughputFrameCount = o.throughputFrameCount + UInt64.ofNat p.uncounted.length := by
  cases h with
  | unsupported _ f sensorIndex newSensorFlag hindex => exact absurd hplace (not_le.mpr hindex)
  | wait a ha =>
    have hnone : takenAt .waiting a = [] := by
      cases a with
      | message m => exact absurd rfl (ha m)
      | _ => rfl
    simp [hnone, MainPlace.uncounted]
  | failed =>
    cases hexit : o.exitRQ <;> simp [MainPlace.inHand, MainPlace.uncounted, takenAt]
  | update _ f idx x' hcount hreallocation hhistory =>
    simp [hhistory, frames, MainPlace.inHand, MainPlace.uncounted, takenAt, Event.frame?]
  | grow _ x' hcount hhistory =>
    simp [hhistory, MainPlace.inHand, MainPlace.uncounted, takenAt]
  | leave _ e =>
    obtain ⟨f, rfl⟩ := hplace
    simp [MainPlace.inHand, MainPlace.uncounted, takenAt]
  | _ => simp [MainPlace.inHand, MainPlace.uncounted, takenAt]

theorem Accounted.step (hb : Bounded s) (h : step fresh s act = .ok s') :
    ∃ counted, Accounted s s' (takenBy s act) counted := by
  rcases step_cases h with
    ⟨haside, hnone⟩ | ⟨a, rfl, hmoved⟩ | ⟨e, rfl, hplace, hplace', hflags, hshared⟩
  · rw [hnone]
    refine ⟨[], ?_, ?_, ?_⟩
    · rw [haside.frames, haside.place, List.append_nil]
    · rw [haside.place, List.append_nil, List.nil_append]
    · rw [haside.counter]
      exact (UInt64.add_zero _).symm
  · obtain ⟨hhandled, hreceived, hcounter⟩ := hmoved.accounted hb.place
    exact ⟨(s.place .main).uncounted, hhandled, congrArg _ hreceived, hcounter⟩
  · refine ⟨[], ?_, ?_, ?_⟩
    · rw [hshared, hplace, hplace']
      cases e <;> simp [Shared.free, MainPlace.inHand, takenBy]
    · rw [hplace, hplace']
      rfl
    · rw [hflags]
      exact (UInt64.add_zero _).symm

/-- Every frame that `receiveFrame` returns is accounted for. -/
theorem accounted_exec (hb : Bounded s) {acts : List (Act ι)}
    (h : Run.exec (step fresh) s acts = .ok s') :
    (∃ counted, Accounted s s' (taken fresh s acts) counted) ∧ Bounded s' := by
  induction acts generalizing s with
  | nil =>
    obtain rfl := Except.ok.inj h
    exact ⟨⟨[], (List.append_nil _).symm, List.append_nil _, (UInt64.add_zero _).symm⟩, hb⟩
  | cons act acts ih =>
    obtain ⟨s₁, hstep, hrest⟩ := Run.exec_cons_ok h
    obtain ⟨counted, haccounted⟩ := Accounted.step hb hstep
    obtain ⟨⟨counted', haccounted'⟩, hb'⟩ := ih (hb.step hstep) hrest
    rw [taken, hstep]
    exact ⟨⟨counted ++ counted', haccounted.trans haccounted'⟩, hb'⟩

end Locking
end Telemetry
end Gateway
