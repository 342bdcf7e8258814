import Gateway.Processing
import Gateway.Telemetry.Registry

/-!
# The watchdog

`processingd` stamps a frame with the monotonic clock and puts it on the telemetry queue;
`telemetryd` takes it off and applies it under the mutex; the watchdog reads the clock, waits for
the mutex and sweeps the registry with the time it read.  All of this happens in any order while the
clock goes on.

`Timeline` is what makes the marks sound: the frames on their way are stamped in the order in which
they will be applied, no earlier than any that was applied and no later than now.

`watchdog_sound`: no entry's last sign of life goes back, and a sensor is marked offline only when
it has been silent for `sensorActivityTime`.
-/

namespace Gateway
namespace Watchdog

open KeyedTable Processing Telemetry

/-- A time in seconds. -/
def seconds (t : Timespec) : ℚ := t.tvSec + t.tvNsec / 1000000000

theorem elapsedSeconds_eq (prev curr : Timespec) :
    elapsedSeconds prev curr = seconds curr - seconds prev := by
  simp only [elapsedSeconds, seconds]
  push_cast
  ring

/-- The clock, the frame that `processingd` has stamped and not sent yet, the telemetry queue,
`telemetryd`, and the time that the watchdog has read and not swept with yet. -/
structure State where
  now : Timespec
  stamped : Option Sensor
  queue : FrameQueue
  telemetry : Telemetry.State
  currTime : Option Timespec

/-- The steps: time passes; `processingd` stamps a packet's frame, and sends it if the log queue has
let `forwardFrame` go on; `telemetryd` takes a frame off the queue, or does anything else of its
own; the watchdog reads the clock, and sweeps. -/
inductive Action
  | advance (t : Timespec)
  | stamp (packet : List UInt8) (realtime : Timespec)
  | send (goesOn : Bool)
  | receive
  | telemetryd (a : Telemetry.Action)
  | readClock
  | sweep
  deriving DecidableEq

/-- The actions of `telemetryd` that neither bring a frame nor sweep. -/
def internal : Telemetry.Action → Bool
  | .receive (.frame _) => false
  | .sweep _ => false
  | _ => true

/-- One step. -/
def step (fresh : ℕ → Sensor) (s : State) : Action → Except ℕ State
  | .advance t => .ok (if seconds s.now ≤ seconds t then { s with now := t } else s)
  | .stamp packet realtime =>
      match s.stamped with
      | some _ => .ok s
      | none =>
          .ok { s with
            stamped := generateFrame (some realtime) (some s.now) packet Sensor.zero packet.length }
  | .send goesOn =>
      match s.stamped with
      | none => .ok s
      | some f =>
          .ok { s with
            stamped := none
            queue := if goesOn then (forwardTelemetry f s.queue).2 else s.queue }
  | .receive =>
      match s.telemetry.place, s.queue.take with
      | .waiting, some (f, queue) => do
          let telemetry ← Telemetry.step fresh s.telemetry (.receive (.frame f))
          .ok { s with telemetry := telemetry, queue := queue }
      | _, _ => .ok s
  | .telemetryd a => do
      if internal a then
        let telemetry ← Telemetry.step fresh s.telemetry a
        .ok { s with telemetry := telemetry }
      else .ok s
  | .readClock => .ok { s with currTime := some s.now }
  | .sweep =>
      match s.currTime with
      | none => .ok s
      | some t => do
          let telemetry ← Telemetry.step fresh s.telemetry (.sweep t)
          .ok { s with telemetry := telemetry, currTime := none }

/-- Nothing has been stamped, and the clock shows `now`. -/
def init (fresh : ℕ → Sensor) (now : Timespec) : State where
  now := now
  stamped := none
  queue := Channel.empty
  telemetry := Telemetry.init fresh
  currTime := none

/-- A run from the start at time `now`. -/
def run (fresh : ℕ → Sensor) (now : Timespec) (acts : List Action) : Except ℕ State :=
  Run.exec (step fresh) (init fresh now) acts

/-! ### The timeline -/

/-- The times of the frames on their way, in the order in which they will be applied, and the
present. -/
def times (s : State) : List ℚ :=
  (inHand s.telemetry ++ s.queue.contents ++ s.stamped.toList).map (seconds ·.lastSeenTime) ++
    [seconds s.now]

/-- The times on the way are in order, and none is before what has been applied. -/
structure Timeline (s : State) : Prop where
  sorted : (times s).Pairwise (· ≤ ·)
  entries_le : ∀ e ∈ s.telemetry.entries, ∀ x ∈ times s, seconds e.lastSeenTime ≤ x

/-- The sweep of the history `es` that turned the entry of a sensor offline, with no frame of that
sensor after it. -/
def MarkedBy (fresh : ℕ → Sensor) (es : List Event) (k : SensorKey) : Prop :=
  ∃ es₁ t es₂ e, es = es₁ ++ .sweep t :: es₂ ∧ e ∈ table eventKey applyEvent fresh es₁ ∧ e.key = k ∧
    e.state ≠ .offline ∧ (markState t e).state = .offline ∧ ∀ f ∈ frames es₂, f.key ≠ k

/-- The invariant of the system. -/
structure Sound (fresh : ℕ → Sensor) (s : State) : Prop where
  bounds : Bounds s.telemetry
  represents : Represents fresh s.telemetry
  timeline : Timeline s
  currTime_le : ∀ t, s.currTime = some t → seconds t ≤ seconds s.now
  offline : ∀ e ∈ s.telemetry.entries, e.state = .offline →
    sensorActivityTime ≤ seconds s.now - seconds e.lastSeenTime ∧
      MarkedBy fresh s.telemetry.history e.key

variable {fresh : ℕ → Sensor} {s s' : State}

theorem now_mem_times (s : State) : seconds s.now ∈ times s := by simp [times]

theorem Timeline.le_now (h : Timeline s) {e : Sensor} (he : e ∈ s.telemetry.entries) :
    seconds e.lastSeenTime ≤ seconds s.now := h.entries_le e he _ (now_mem_times s)

/-- Dropping frames keeps the timeline. -/
theorem Timeline.of_sublist (h : Timeline s) (hsub : (times s').Sublist (times s))
    (hentries : s'.telemetry.entries = s.telemetry.entries) : Timeline s' where
  sorted := h.sorted.sublist hsub
  entries_le e he x hx := h.entries_le e (hentries ▸ he) x (hsub.subset hx)

theorem sound_init (fresh : ℕ → Sensor) (now : Timespec) : Sound fresh (init fresh now) where
  bounds := bounds_init fresh
  represents := represents_init fresh
  timeline := by
    constructor
    · simp [times, init, inHand, Telemetry.init]
    · simp [init, Telemetry.init, State.entries]
  currTime_le := by simp [init]
  offline := by simp [init, Telemetry.init, State.entries]

/-! ### What a step can do -/

/-- Every entry of `s` is still there in `s'`, and was not seen earlier. -/
def Covers (s s' : State) : Prop :=
  ∀ e ∈ s.telemetry.entries, ∃ e' ∈ s'.telemetry.entries, e'.key = e.key ∧
    seconds e.lastSeenTime ≤ seconds e'.lastSeenTime

theorem Covers.trans {s₁ s₂ s₃ : State} (h₁ : Covers s₁ s₂) (h₂ : Covers s₂ s₃) : Covers s₁ s₃ := by
  intro e he
  obtain ⟨e', he', hkey, hle⟩ := h₁ e he
  obtain ⟨e'', he'', hkey', hle'⟩ := h₂ e' he'
  exact ⟨e'', he'', hkey'.trans hkey, hle.trans hle'⟩

theorem covers_of_entries_eq (h : s'.telemetry.entries = s.telemetry.entries) : Covers s s' :=
  fun e he => ⟨e, h ▸ he, rfl, le_rfl⟩

theorem MarkedBy.concat {es : List Event} {k : SensorKey} (h : MarkedBy fresh es k) {ev : Event}
    (hev : ∀ f, ev = .frame f → f.key ≠ k) : MarkedBy fresh (es ++ [ev]) k := by
  obtain ⟨es₁, t, es₂, e, rfl, he, hkey, hon, hoff, hno⟩ := h
  refine ⟨es₁, t, es₂ ++ [ev], e, by simp, he, hkey, hon, hoff, ?_⟩
  intro f hf
  rw [frames_append, List.mem_append] at hf
  rcases hf with hf | hf
  · exact hno f hf
  · cases ev with
    | frame g =>
      rw [frames_frame, List.mem_singleton] at hf
      exact hev f (by rw [hf])
    | sweep t' => cases hf

/-- Steps that leave the registry alone. -/
theorem Sound.of_quiet (h : Sound fresh s) (hb : Bounds s'.telemetry)
    (hr : Represents fresh s'.telemetry) (hhist : s'.telemetry.history = s.telemetry.history)
    (ht : Timeline s') (hnow : seconds s.now ≤ seconds s'.now)
    (hcurr : ∀ t, s'.currTime = some t → seconds t ≤ seconds s'.now) :
    Sound fresh s' ∧ Covers s s' := by
  have hentries := h.represents.entries_congr hr hhist
  refine ⟨⟨hb, hr, ht, hcurr, fun e he hoff => ?_⟩, covers_of_entries_eq hentries⟩
  obtain ⟨hsilent, hmark⟩ := h.offline e (hentries ▸ he) hoff
  refine ⟨?_, by rwa [hhist]⟩
  linarith

theorem inHand_sublist {s s' : Telemetry.State}
    (h : ∀ f, s'.place = .received f → s.place = .received f) :
    (inHand s').Sublist (inHand s) := by
  unfold inHand
  cases hp : s'.place with
  | received f => rw [h f hp]
  | _ => exact List.nil_sublist _

/-- A step of `telemetryd` that leaves the registry alone and brings no frame; the watchdog may give
up the time it read. -/
theorem Sound.of_still (h : Sound fresh s) {t : Telemetry.State} {currTime : Option Timespec}
    (hb : Bounds t) (hr : Represents fresh t) (hhist : t.history = s.telemetry.history)
    (hplace : ∀ f, t.place = .received f → s.telemetry.place = .received f)
    (hcurr : ∀ time, currTime = some time → seconds time ≤ seconds s.now) :
    Sound fresh { s with telemetry := t, currTime := currTime } ∧
      Covers s { s with telemetry := t, currTime := currTime } := by
  refine h.of_quiet hb hr hhist ?_ le_rfl hcurr
  refine h.timeline.of_sublist ?_ (h.represents.entries_congr hr hhist)
  exact ((((inHand_sublist hplace).append_right _).append_right _).map _).append_right _

/-- A frame in hand is applied. -/
theorem Sound.of_frame (h : Sound fresh s) {t : Telemetry.State} {f : Sensor} (hb : Bounds t)
    (hr : Represents fresh t) (hplace : s.telemetry.place = .received f) (htop : t.place = .top)
    (hhist : t.history = s.telemetry.history ++ [.frame f]) :
    Sound fresh { s with telemetry := t } ∧ Covers s { s with telemetry := t } := by
  have hline : times s = seconds f.lastSeenTime :: times { s with telemetry := t } := by
    simp [times, inHand, hplace, htop]
  have hsorted := h.timeline.sorted
  rw [hline, List.pairwise_cons] at hsorted
  obtain ⟨hf, hsorted⟩ := hsorted
  have hfnow : seconds f.lastSeenTime ≤ seconds s.now :=
    hf _ (now_mem_times { s with telemetry := t })
  refine ⟨⟨hb, hr, ⟨hsorted, ?_⟩, h.currTime_le, ?_⟩, ?_⟩
  · intro e' he' x hx
    rcases h.represents.mem_entries_frame hr hhist he' with ⟨e, rfl⟩ | ⟨he, -⟩
    · exact hf x hx
    · exact h.timeline.entries_le e' he x (by rw [hline]; exact List.mem_cons_of_mem _ hx)
  · intro e' he' hoff
    rcases h.represents.mem_entries_frame hr hhist he' with ⟨e, rfl⟩ | ⟨he, hne⟩
    · -- an entry that a frame was applied to is online
      simp at hoff
    · obtain ⟨hsilent, hmark⟩ := h.offline e' he hoff
      refine ⟨hsilent, ?_⟩
      show MarkedBy fresh t.history e'.key
      rw [hhist]
      exact hmark.concat fun g hg => Event.frame.inj hg ▸ hne.symm
  · intro e he
    refine ⟨_, h.represents.mem_entries_of_frame hr hhist he, ?_⟩
    have hle : seconds e.lastSeenTime ≤ seconds f.lastSeenTime :=
      h.timeline.entries_le e he _ (by rw [hline]; exact List.mem_cons_self)
    split_ifs with hk
    · exact ⟨hk, hle⟩
    · exact ⟨rfl, le_rfl⟩

theorem markState_offline_iff (t : Timespec) (e : Sensor) :
    (markState t e).state = .offline ↔ sensorActivityTime ≤ seconds t - seconds e.lastSeenTime := by
  rw [markState, elapsedSeconds_eq]
  split_ifs with h
  · exact iff_of_true rfl h
  · exact iff_of_false (by simp) h

/-- The watchdog sweeps with a time that has passed. -/
theorem Sound.of_sweep (h : Sound fresh s) {t : Telemetry.State} {time : Timespec} (hb : Bounds t)
    (hr : Represents fresh t) (hplace : t.place = s.telemetry.place)
    (hhist : t.history = s.telemetry.history ++ [.sweep time])
    (htime : seconds time ≤ seconds s.now) :
    Sound fresh { s with telemetry := t, currTime := none } ∧
      Covers s { s with telemetry := t, currTime := none } := by
  have hentries := h.represents.entries_sweep hr hhist
  have hline : times { s with telemetry := t, currTime := none } = times s := by
    simp [times, inHand, hplace]
  refine ⟨⟨hb, hr, ⟨by rw [hline]; exact h.timeline.sorted, ?_⟩, by simp, ?_⟩, ?_⟩
  · intro e' he' x hx
    change e' ∈ t.entries at he'
    rw [hentries] at he'
    obtain ⟨e, he, rfl⟩ := List.mem_map.mp he'
    exact h.timeline.entries_le e he x (hline ▸ hx)
  · intro e' he' hoff
    change e' ∈ t.entries at he'
    rw [hentries] at he'
    obtain ⟨e, he, rfl⟩ := List.mem_map.mp he'
    have hsilent := (markState_offline_iff time e).mp hoff
    constructor
    · show sensorActivityTime ≤ seconds s.now - seconds e.lastSeenTime
      linarith
    · show MarkedBy fresh t.history e.key
      rw [hhist]
      -- either this sweep turned it offline or an earlier one did
      by_cases hwas : e.state = .offline
      · exact ((h.offline e he hwas).2).concat (by simp)
      · refine ⟨s.telemetry.history, time, [], e, rfl, ?_, rfl, hwas, hoff, by simp [frames]⟩
        rw [← h.represents.entries_eq]
        exact he
  · intro e he
    refine ⟨markState time e, ?_, rfl, le_rfl⟩
    show _ ∈ t.entries
    rw [hentries]
    exact List.mem_map_of_mem he

/-! ### Every step is sound -/

/-- The present may move on, and may be repeated as the time of one more frame. -/
theorem pairwise_concat_of_le {l : List ℚ} {x y : ℚ} (h : (l ++ [x]).Pairwise (· ≤ ·))
    (hxy : x ≤ y) :
    (l ++ [y]).Pairwise (· ≤ ·) := by
  rw [List.pairwise_append] at h ⊢
  refine ⟨h.1, List.pairwise_singleton _ _, fun a ha b hb => ?_⟩
  rw [List.mem_singleton.mp hb]
  exact (h.2.2 a ha x (List.mem_singleton_self x)).trans hxy

theorem pairwise_concat_twice {l : List ℚ} {x : ℚ} (h : (l ++ [x]).Pairwise (· ≤ ·)) :
    (l ++ [x] ++ [x]).Pairwise (· ≤ ·) := by
  refine List.pairwise_append.mpr ⟨h, List.pairwise_singleton _ _, fun a ha b hb => ?_⟩
  rw [List.mem_singleton.mp hb]
  rcases List.mem_append.mp ha with ha | ha
  · exact (List.pairwise_append.mp h).2.2 a ha x (List.mem_singleton_self x)
  · rw [List.mem_singleton.mp ha]

/-- A step of `telemetryd` within the bounds does not fail, and it applies a frame, sweeps, or
leaves the registry alone. -/
theorem Sound.telemetry_step (h : Sound fresh s) (a : Telemetry.Action) :
    ∃ t, Telemetry.step fresh s.telemetry a = .ok t ∧ Bounds t ∧ Represents fresh t ∧
      Moved fresh s.telemetry a t := by
  obtain ⟨t, ht, hm⟩ := h.bounds.step_moved a
  exact ⟨t, ht, h.bounds.of_moved hm, h.represents.of_moved h.bounds hm, hm⟩

theorem Sound.telemetryd (h : Sound fresh s) {a : Telemetry.Action} (ha : internal a = true) :
    ∃ s', step fresh s (.telemetryd a) = .ok s' ∧ Sound fresh s' ∧ Covers s s' := by
  obtain ⟨t, ht, hb, hr, hm⟩ := h.telemetry_step a
  refine ⟨{ s with telemetry := t }, by simp only [step, ha, if_true, ht, bind, Except.bind], ?_⟩
  rcases hm.history_cases with ⟨hhist, hplace⟩ | ⟨f, rfl, hplace, htop, hhist⟩ | ⟨time, rfl, -, -⟩
  · refine h.of_still hb hr hhist (fun f hf => (hplace f hf).resolve_right ?_) h.currTime_le
    rintro rfl
    cases ha
  · exact h.of_frame hb hr hplace htop hhist
  · cases ha

theorem Sound.sweep (h : Sound fresh s) {time : Timespec} (htime : s.currTime = some time) :
    ∃ s', step fresh s .sweep = .ok s' ∧ Sound fresh s' ∧ Covers s s' := by
  obtain ⟨t, ht, hb, hr, hm⟩ := h.telemetry_step (.sweep time)
  refine ⟨{ s with telemetry := t, currTime := none },
    by simp only [step, htime, ht, bind, Except.bind], ?_⟩
  rcases hm.history_cases with ⟨hhist, hplace⟩ | ⟨f, hsw, -, -, -⟩ | ⟨time', hsw, hplace, hhist⟩
  · exact h.of_still hb hr hhist (fun f hf => (hplace f hf).resolve_right (by simp)) (by simp)
  · cases hsw
  · obtain rfl := Telemetry.Action.sweep.inj hsw
    exact h.of_sweep hb hr hplace hhist (h.currTime_le _ htime)

theorem Sound.receive (h : Sound fresh s) {f : Sensor} {queue : FrameQueue}
    (hplace : s.telemetry.place = .waiting) (htake : s.queue.take = some (f, queue)) :
    ∃ s', step fresh s .receive = .ok s' ∧ Sound fresh s' ∧ Covers s s' := by
  have ht : Telemetry.step fresh s.telemetry (.receive (.frame f)) =
      .ok (Telemetry.receive (.frame f) s.telemetry) := Telemetry.step_receive _ hplace
  have hm : Moved fresh s.telemetry (.receive (.frame f))
      (Telemetry.receive (.frame f) s.telemetry) := Bounds.receive_moved _ hplace
  refine ⟨{ s with telemetry := Telemetry.receive (.frame f) s.telemetry, queue := queue },
    by simp only [step, hplace, htake, ht, bind, Except.bind], ?_⟩
  refine h.of_quiet (h.bounds.of_moved hm) (h.represents.of_moved h.bounds hm) rfl ?_ le_rfl
    h.currTime_le
  refine h.timeline.of_sublist ?_ rfl
  simp [times, inHand, hplace, Telemetry.receive, Channel.contents_take htake]

/-- A frame that is sent moves on to the queue; one that meets a full queue is gone. -/
theorem Sound.send (h : Sound fresh s) {f : Sensor} (hstamped : s.stamped = some f)
    (goesOn : Bool) :
    ∃ s', step fresh s (.send goesOn) = .ok s' ∧ Sound fresh s' ∧ Covers s s' := by
  refine ⟨{ s with
    stamped := none
    queue := if goesOn then (forwardTelemetry f s.queue).2 else s.queue },
    by simp only [step, hstamped], ?_⟩
  refine h.of_quiet h.bounds h.represents rfl ?_ le_rfl h.currTime_le
  refine h.timeline.of_sublist ?_ rfl
  cases goesOn with
  | false => simp [times, hstamped]
  | true =>
    cases hput : s.queue.put f with
    | none => simp [times, hstamped, forwardTelemetry, hput]
    | some queue => simp [times, hstamped, forwardTelemetry, hput, Channel.contents_put hput]

theorem Sound.stamp (h : Sound fresh s) (packet : List UInt8) (realtime : Timespec)
    (hstamped : s.stamped = none) :
    ∃ s', step fresh s (.stamp packet realtime) = .ok s' ∧ Sound fresh s' ∧ Covers s s' := by
  refine ⟨{ s with
    stamped := generateFrame (some realtime) (some s.now) packet Sensor.zero packet.length },
    by simp only [step, hstamped], ?_⟩
  refine h.of_quiet h.bounds h.represents rfl ?_ le_rfl h.currTime_le
  cases hf : generateFrame (some realtime) (some s.now) packet Sensor.zero packet.length with
  | none =>
    refine h.timeline.of_sublist ?_ rfl
    simp [times, hstamped]
  | some f =>
    have htimes : times { s with stamped := some f } = times s ++ [seconds s.now] := by
      simp [times, hstamped, lastSeenTime_of_generateFrame hf]
    refine ⟨?_, fun e he x hx => ?_⟩
    · rw [htimes]
      exact pairwise_concat_twice h.timeline.sorted
    · rw [htimes] at hx
      rcases List.mem_append.mp hx with hx | hx
      · exact h.timeline.entries_le e he x hx
      · rw [List.mem_singleton.mp hx]
        exact h.timeline.le_now he

theorem Sound.advance (h : Sound fresh s) {t : Timespec} (ht : seconds s.now ≤ seconds t) :
    Sound fresh { s with now := t } ∧ Covers s { s with now := t } := by
  refine h.of_quiet h.bounds h.represents rfl ⟨?_, fun e he x hx => ?_⟩ ht
    fun t' ht' => (h.currTime_le t' ht').trans ht
  · exact pairwise_concat_of_le h.timeline.sorted ht
  · rcases List.mem_append.mp hx with hx | hx
    · exact h.timeline.entries_le e he x (List.mem_append_left _ hx)
    · rw [List.mem_singleton.mp hx]
      exact (h.timeline.le_now he).trans ht

theorem sound_step (h : Sound fresh s) (a : Action) :
    ∃ s', step fresh s a = .ok s' ∧ Sound fresh s' ∧ Covers s s' := by
  have hstay : Sound fresh s ∧ Covers s s := ⟨h, covers_of_entries_eq rfl⟩
  cases a with
  | advance t =>
    simp only [step]
    split_ifs with ht
    · exact ⟨_, rfl, h.advance ht⟩
    · exact ⟨_, rfl, hstay⟩
  | stamp packet realtime =>
    cases hstamped : s.stamped with
    | none => exact h.stamp packet realtime hstamped
    | some f => exact ⟨s, by simp only [step, hstamped], hstay⟩
  | send goesOn =>
    cases hstamped : s.stamped with
    | none => exact ⟨s, by simp only [step, hstamped], hstay⟩
    | some f => exact h.send hstamped goesOn
  | receive =>
    by_cases hready : s.telemetry.place = .waiting ∧ ∃ r, s.queue.take = some r
    · obtain ⟨hplace, ⟨f, queue⟩, htake⟩ := hready
      exact h.receive hplace htake
    · refine ⟨s, ?_, hstay⟩
      simp only [step]
      split
      · rename_i hplace htake
        exact absurd ⟨hplace, _, htake⟩ hready
      · rfl
  | telemetryd a =>
    cases ha : internal a with
    | true => exact h.telemetryd ha
    | false => exact ⟨s, by simp only [step, ha, Bool.false_eq_true, if_false], hstay⟩
  | readClock =>
    refine ⟨_, rfl, h.of_quiet h.bounds h.represents rfl ?_ le_rfl ?_⟩
    · exact h.timeline.of_sublist (List.Sublist.refl _) rfl
    · rintro t ⟨⟩
      exact le_rfl
  | sweep =>
    cases htime : s.currTime with
    | none => exact ⟨s, by simp only [step, htime], hstay⟩
    | some time => exact h.sweep htime

theorem sound_run (h : Sound fresh s) (acts : List Action) :
    ∃ s', Run.exec (step fresh) s acts = .ok s' ∧ Sound fresh s' ∧ Covers s s' := by
  refine Run.exec_rule (P := fun _ s' => Sound fresh s' ∧ Covers s s')
    ⟨h, covers_of_entries_eq rfl⟩ ?_ acts
  rintro acts a s₁ ⟨h₁, hcov⟩
  obtain ⟨s₂, hs₂, h₂, hcov'⟩ := sound_step h₁ a
  exact ⟨s₂, hs₂, h₂, hcov.trans hcov'⟩

/-- The entries right after a sweep. -/
theorem entries_of_sweep (h : Sound fresh s) {time : Timespec} (htime : s.currTime = some time)
    (hrunning : s.telemetry.Running) (hs : step fresh s .sweep = .ok s') :
    s'.telemetry.entries = s.telemetry.entries.map (markState time) := by
  obtain ⟨t, ht, hb, hr, hm⟩ := h.telemetry_step (.sweep time)
  simp only [step, htime, ht, bind, Except.bind, Except.ok.injEq] at hs
  subst hs
  cases hm with
  | stay _ hidle => rw [idle_sweep time hrunning] at hidle; cases hidle
  | sweep => exact h.represents.entries_sweep hr rfl

/-- **The watchdog is sound.**  In every state that can be reached: no entry was last seen later at
an earlier moment of the run; an entry that is offline has been silent for `sensorActivityTime`
until now, and no frame of its sensor was applied since the sweep that turned it offline; and right
after a sweep with the time `t` exactly the entries silent for that long at `t` are offline. -/
theorem watchdog_sound (fresh : ℕ → Sensor) (start : Timespec) (acts : List Action) :
    ∃ s, run fresh start acts = .ok s ∧
      (∀ before after s₀, acts = before ++ after → run fresh start before = .ok s₀ →
        ∀ e ∈ s₀.telemetry.entries, ∃ e' ∈ s.telemetry.entries, e'.key = e.key ∧
          seconds e.lastSeenTime ≤ seconds e'.lastSeenTime) ∧
      (∀ e ∈ s.telemetry.entries, e.state = .offline →
        sensorActivityTime ≤ elapsedSeconds e.lastSeenTime s.now ∧
          MarkedBy fresh s.telemetry.history e.key) ∧
      ∀ before s₀ t, acts = before ++ [.sweep] → run fresh start before = .ok s₀ →
        s₀.currTime = some t → s₀.telemetry.Running →
        ∀ e ∈ s.telemetry.entries,
          (e.state = .offline ↔ sensorActivityTime ≤ elapsedSeconds e.lastSeenTime t) := by
  obtain ⟨s, hs, h, -⟩ := sound_run (sound_init fresh start) acts
  refine ⟨s, hs, ?_, ?_, ?_⟩
  · rintro before after s₀ rfl hs₀
    obtain ⟨t₀, ht₀, h₀, -⟩ := sound_run (sound_init fresh start) before
    obtain rfl := Except.ok.inj (ht₀.symm.trans hs₀)
    obtain ⟨t, ht, -, hcov⟩ := sound_run h₀ after
    rw [Run.exec_append hs₀, ht] at hs
    obtain rfl := Except.ok.inj hs
    exact hcov
  · intro e he hoff
    rw [elapsedSeconds_eq]
    exact h.offline e he hoff
  · rintro before s₀ t rfl hs₀ htime hrunning e he
    obtain ⟨t₀, ht₀, h₀, -⟩ := sound_run (sound_init fresh start) before
    obtain rfl := Except.ok.inj (ht₀.symm.trans hs₀)
    rw [Run.exec_concat hs₀] at hs
    rw [entries_of_sweep h₀ htime hrunning hs] at he
    obtain ⟨e₀, -, rfl⟩ := List.mem_map.mp he
    rw [elapsedSeconds_eq]
    exact markState_offline_iff t e₀

/-- A torque sensor is silent for forty seconds and then sends a sign of life: a sweep marks it
offline, and the next one online again. -/
theorem watchdog_sound_silent :
    let fresh : ℕ → Sensor := fun _ => Sensor.zero
    let bring : List Action := [.stamp [0xAA, 0x4B, 7, 0, 0, 0] ⟨0, 0⟩, .send true,
      .telemetryd (.growth true), .receive, .telemetryd .update]
    let silent := bring ++ [.advance ⟨40, 0⟩, .readClock, .sweep]
    let back := silent ++ bring ++ [.readClock, .sweep]
    let states (acts : List Action) : Option (List SensorState) :=
      (run fresh ⟨0, 0⟩ acts).toOption.map fun s => s.telemetry.entries.map Sensor.state
    states bring = some [.online] ∧ states silent = some [.offline] ∧
      states back = some [.online] ∧
      ∃ s, run fresh ⟨0, 0⟩ silent = .ok s ∧
        ∀ e ∈ s.telemetry.entries, e.state = .offline →
          sensorActivityTime ≤ elapsedSeconds e.lastSeenTime s.now := by
  intro fresh bring silent back states
  obtain ⟨s, hs, -, hoffline, -⟩ := watchdog_sound fresh ⟨0, 0⟩ silent
  exact ⟨by decide +kernel, by decide +kernel, by decide +kernel, s, hs,
    fun e he hoff => (hoffline e he hoff).1⟩

end Watchdog
end Gateway
