import Gateway.LatencyLog

/-!
# `dev-interface.c`: the latency that is shown

The thread that polls the latency sensor writes a file, and the command `GET LATENCY` reads it
while the thread goes on.  Every line of the file is the time from the clock of the sensor to that
of the interface.

* `Probe`: a time stamp with the time at which its line is written;
* `Probe.ShownBy`, `Probed`: what the file has to do with the polls of a run;
* `average_shown`: the average that is printed is that of the last five time stamps that the polls
  have shown.
-/

namespace Gateway
namespace LatencyLog

open Checked CText Telemetry

/-- A time stamp, and the time at which its line was written. -/
abbrev Probe := (ℤ × ℤ) × Timespec

/-- The line for a time stamp. -/
def Probe.line (probe : Probe) : Line := ⟨probe.1, latencyUs probe.1 probe.2⟩

/-- The time in between, in microseconds. -/
def Probe.delay (probe : Probe) : ℤ :=
  (probe.2.tvSec * 1000000 + probe.2.tvNsec.tdiv 1000) -
    (probe.1.1 * 1000000 + probe.1.2.tdiv 1000)

/-- What a clock shows: seconds below `2 ^ 40`, and nanoseconds. -/
def IsTime (seconds nanoseconds : ℤ) : Prop :=
  (0 ≤ seconds ∧ seconds < 2 ^ 40) ∧ 0 ≤ nanoseconds ∧ nanoseconds < 10 ^ 9

/-- The two times of a probe are times of a clock. -/
def Probe.Timed (probe : Probe) : Prop :=
  IsTime probe.1.1 probe.1.2 ∧ IsTime probe.2.tvSec probe.2.tvNsec

variable {probe : Probe}

/-- A number of microseconds below `2 ^ 40` seconds. -/
theorem IsTime.microseconds_mem {seconds nanoseconds : ℤ} (h : IsTime seconds nanoseconds) :
    0 ≤ seconds * 1000000 ∧ 0 ≤ seconds * 1000000 + nanoseconds.tdiv 1000 ∧
      seconds * 1000000 + nanoseconds.tdiv 1000 < 2 ^ 40 * 1000000 := by
  obtain ⟨⟨hs₀, hs⟩, hn₀, hn⟩ := h
  have hdiv : nanoseconds.tdiv 1000 = nanoseconds / 1000 := Int.tdiv_eq_ediv_of_nonneg hn₀
  rw [hdiv]
  omega

theorem Probe.Timed.delay_mem (h : probe.Timed) :
    -(2 ^ 40 * 1000000) ≤ probe.delay ∧ probe.delay ≤ 2 ^ 40 * 1000000 := by
  obtain ⟨-, hsent₀, hsent⟩ := h.1.microseconds_mem
  obtain ⟨-, hnow₀, hnow⟩ := h.2.microseconds_mem
  rw [Probe.delay]
  omega

/-- The arithmetic of `log_latency` is exact for the times of a clock. -/
theorem Probe.Timed.latencyUs_eq (h : probe.Timed) :
    latencyUs probe.1 probe.2 = some probe.delay := by
  obtain ⟨hs, hsent₀, hsent⟩ := h.1.microseconds_mem
  obtain ⟨hn, hnow₀, hnow⟩ := h.2.microseconds_mem
  have hdelay := h.delay_mem
  have hs' := h.1.1.2
  have hn' := h.2.1.2
  have hsentTime : sentTimeUs probe.1 = some (probe.1.1 * 1000000 + probe.1.2.tdiv 1000) := by
    rw [sentTimeUs, result_of_fits ⟨by omega, by omega⟩]
    exact result_of_fits ⟨by omega, by omega⟩
  have hcurrentTime : currentTimeUs probe.2 =
      some (probe.2.tvSec * 1000000 + probe.2.tvNsec.tdiv 1000) := by
    rw [currentTimeUs, result_of_fits ⟨by omega, by omega⟩]
    exact result_of_fits ⟨by omega, by omega⟩
  rw [latencyUs, hsentTime, hcurrentTime]
  exact result_of_fits ⟨by rw [← Probe.delay]; omega, by rw [← Probe.delay]; omega⟩

/-! ### The file -/

/-- The numbers in the lines of the file. -/
def Log.latencies (log : Log) : List ℤ := log.written.filterMap Line.latency

theorem latencies_eq {log : Log} {probes : List Probe} (h : log.written = probes.map Probe.line)
    (htimed : ∀ probe ∈ probes, probe.Timed) : log.latencies = probes.map Probe.delay := by
  have hlatency : ∀ probe ∈ probes, (Line.latency ∘ Probe.line) probe = some probe.delay :=
    fun probe hprobe => (htimed probe hprobe).latencyUs_eq
  rw [Log.latencies, h, List.filterMap_map, List.filterMap_congr hlatency, ← List.filterMap_eq_map]
  rfl

/-- The sum of up to five such times has a value. -/
theorem partialSumsFit_of_timed {probes : List Probe} (h : ∀ probe ∈ probes, probe.Timed) :
    PartialSumsFit 63 ((probes.map Probe.delay).rtake 5) := by
  intro p hp
  have hpre : p <+: (probes.map Probe.delay).rtake 5 := (List.mem_inits _ _).mp hp
  have hlen : p.length ≤ 5 := by
    have hle := hpre.length_le
    rw [SlidingWindow.length_rtake] at hle
    omega
  have hmem : ∀ n ∈ p, -(2 ^ 40 * 1000000) ≤ n ∧ n ≤ 2 ^ 40 * 1000000 := by
    intro n hn
    obtain ⟨probe, hprobe, rfl⟩ :=
      List.mem_map.mp ((List.drop_sublist _ _).subset (hpre.subset hn))
    exact (h probe hprobe).delay_mem
  have hlower := List.card_nsmul_le_sum p _ fun n hn => (hmem n hn).1
  have hupper := List.sum_le_card_nsmul p _ fun n hn => (hmem n hn).2
  rw [nsmul_eq_mul] at hlower hupper
  have hcast : (p.length : ℤ) ≤ 5 := by exact_mod_cast hlen
  exact ⟨by omega, by omega⟩

/-- What the thread has written is read back, and the average is that of the last five. -/
theorem printAverageLatency_logFile {probes : List Probe} (h : ∀ probe ∈ probes, probe.Timed)
    (stack : { l : List ℤ // l.length = Average.windowSize }) :
    Average.printAverageLatency stack (some (logFile (probes.map Probe.delay))) =
      some (if probes = [] then .noSamples
        else .average (min 5 probes.length)
          (((probes.map Probe.delay).rtake 5).sum.tdiv (min 5 probes.length : ℕ))) := by
  have hfits : ∀ n ∈ probes.map Probe.delay, Fits 63 n := by
    intro n hn
    obtain ⟨probe, hprobe, rfl⟩ := List.mem_map.mp hn
    have hdelay := (h probe hprobe).delay_mem
    exact ⟨by omega, by omega⟩
  have hcontents := contents_logFile hfits stack
  have hcount : (Average.readWindow (.start stack) (logFile (probes.map Probe.delay))).count =
      min 5 probes.length := by
    rw [← Average.length_contents, hcontents, SlidingWindow.length_rtake, List.length_map]
  have hsum : Average.sumWindow
      (Average.readWindow (.start stack) (logFile (probes.map Probe.delay))) =
      some ((probes.map Probe.delay).rtake 5).sum := by
    rw [Average.sumWindow, hcontents]
    exact sum_eq_some_iff.mpr ⟨partialSumsFit_of_timed h, rfl⟩
  simp only [Average.printAverageLatency, hcount, hsum, Option.map_some]
  by_cases hnil : probes = []
  · rw [if_pos hnil, hnil]
    rfl
  · have hpos : 0 < probes.length := List.length_pos_iff.mpr hnil
    rw [if_neg hnil, if_neg (by omega)]

/-! ### Every run -/

section Runs

variable {fresh : ℕ → Sensor} {localtime : ℤ → Option Tm} {acts : List MonitorAction}
  {a : MonitorAction} {x x' : Monitor}

/-- The time stamp of a probe was the reading in the registry when a poll was answered, and at the
time of the probe the line of this very poll has been read; the poll before it showed another. -/
def Probe.ShownBy (fresh : ℕ → Sensor) (localtime : ℤ → Option Tm) (acts : List MonitorAction)
    (probe : Probe) : Prop :=
  ∃ before es after y, acts = before ++ .read es (some probe.2) :: after ∧
    Monitor.run fresh localtime before = .ok y ∧ y.asked = some probe.1 ∧
    Segmented.content es <+: y.answer ∧ '\n' ∈ Segmented.content es ∧ y.log.previous ≠ probe.1

theorem Probe.ShownBy.append (h : probe.ShownBy fresh localtime acts) (a : MonitorAction) :
    probe.ShownBy fresh localtime (acts ++ [a]) := by
  obtain ⟨before, es, after, y, rfl, hy⟩ := h
  exact ⟨before, es, after ++ [a], y, by simp, hy⟩

/-- The lines of the file were written for time stamps that polls have shown. -/
def Probed (fresh : ℕ → Sensor) (localtime : ℤ → Option Tm) (acts : List MonitorAction)
    (x : Monitor) : Prop :=
  ∃ probes : List Probe, x.log.written = probes.map Probe.line ∧
    ∀ probe ∈ probes, probe.ShownBy fresh localtime acts

theorem Probed.of_log (h : Probed fresh localtime acts x) (a : MonitorAction)
    (hlog : x'.log.written = x.log.written) : Probed fresh localtime (acts ++ [a]) x' := by
  obtain ⟨probes, hwritten, hshown⟩ := h
  exact ⟨probes, by rw [hlog, hwritten], fun probe hprobe => (hshown probe hprobe).append a⟩

/-- The reading of a poll writes a line for the time stamp that the poll shows, if it is not the
last that was seen. -/
theorem Traced.written_read (h : Traced x) {es : List (Segmented.Event Char)}
    (hes : Segmented.content es <+: x.answer) (now : Timespec) :
    let log := (Interface.receiveUntilEnd false true [] ⟨[], [], []⟩ es).2.samples.foldl
      (logLatency (some now)) x.log
    log.written = x.log.written ∨ ∃ p, x.asked = some p ∧ '\n' ∈ Segmented.content es ∧
      x.log.previous ≠ p ∧ log.written = x.log.written ++ [Probe.line (p, now)] := by
  intro log
  obtain ⟨line, hanswer, hline, hparse⟩ := h.answer
  have hsamples := samples_receiveUntilEnd hline (hes.trans hanswer)
  rw [hparse] at hsamples
  by_cases hnew : '\n' ∈ Segmented.content es
  · rw [if_pos hnew] at hsamples
    cases hasked : x.asked with
    | none =>
      rw [hasked] at hsamples
      exact Or.inl (by simp only [log, hsamples, Option.toList_none, List.foldl_nil])
    | some p =>
      rw [hasked] at hsamples
      simp only [log, hsamples, Option.toList_some, List.foldl_cons, List.foldl_nil, logLatency]
      split_ifs with hprevious
      · exact Or.inl rfl
      · exact Or.inr ⟨p, rfl, hnew, Ne.symm hprevious, rfl⟩
  · rw [if_neg hnew] at hsamples
    exact Or.inl (by simp only [log, hsamples, List.foldl_nil])

/-- What a step does to the daemon and to the lines. -/
theorem Monitor.step_cases (hb : Bounds x.daemon) (hstep : x.step fresh localtime a = .ok x') :
    frames x.daemon.history <+: frames x'.daemon.history ∧
      (x'.log.written = x.log.written ∨ ∃ es now, a = .read es now ∧
        Segmented.content es <+: x.answer ∧
        x'.log = (Interface.receiveUntilEnd false true [] ⟨[], [], []⟩ es).2.samples.foldl
          (logLatency now) x.log) := by
  cases a with
  | daemon b =>
    obtain ⟨d, hd, hm⟩ : ∃ d, Telemetry.step fresh x.daemon b = .ok d ∧ Moved fresh x.daemon b d :=
      hb.step_moved b
    simp only [Monitor.step, hd, bind, Except.bind] at hstep
    obtain rfl := Except.ok.inj hstep
    exact ⟨frames_isPrefix hm, Or.inl rfl⟩
  | ask schedule =>
    simp only [Monitor.step] at hstep
    split at hstep
    · obtain rfl := Except.ok.inj hstep
      exact ⟨List.prefix_rfl, Or.inl rfl⟩
    · cases hr : respond localtime true x.daemon (.getID latencyID) ⟨schedule, []⟩ with
      | error e =>
        rw [hr] at hstep
        cases hstep
      | ok r =>
        rw [hr] at hstep
        obtain rfl := Except.ok.inj hstep
        exact ⟨List.prefix_rfl, Or.inl rfl⟩
  | read es now =>
    by_cases hes : Segmented.content es <+: x.answer
    · rw [Monitor.step, if_pos hes] at hstep
      obtain rfl := Except.ok.inj hstep
      exact ⟨List.prefix_rfl, Or.inr ⟨es, now, rfl, hes, rfl⟩⟩
    · rw [Monitor.step, if_neg hes] at hstep
      obtain rfl := Except.ok.inj hstep
      exact ⟨List.prefix_rfl, Or.inl rfl⟩

theorem Probed.step (hx : Monitor.run fresh localtime acts = .ok x) (hb : Bounds x.daemon)
    (htraced : Proper acts x → Traced x) (h : Proper acts x → Probed fresh localtime acts x)
    (hstep : x.step fresh localtime a = .ok x') (hproper : Proper (acts ++ [a]) x') :
    Probed fresh localtime (acts ++ [a]) x' := by
  obtain ⟨hgrow, hcases⟩ := Monitor.step_cases hb hstep
  have hbefore : Proper acts x := hproper.of_append hgrow
  rcases hcases with hsame | ⟨es, now, rfl, hes, hlog⟩
  · exact (h hbefore).of_log a hsame
  · obtain ⟨time, rfl⟩ := Option.isSome_iff_exists.mp (hproper.clock es now (by simp))
    rcases (htraced hbefore).written_read hes time with hsame | ⟨p, hasked, hnew, hother, hline⟩
    · exact (h hbefore).of_log _ (by rw [hlog, hsame])
    · obtain ⟨probes, hwritten, hshown⟩ := h hbefore
      refine ⟨probes ++ [(p, time)], ?_, fun probe hprobe => ?_⟩
      · rw [hlog, hline, hwritten, List.map_append, List.map_singleton]
      · rcases List.mem_append.mp hprobe with hprobe | hprobe
        · exact (hshown probe hprobe).append _
        · obtain rfl := List.mem_singleton.mp hprobe
          exact ⟨acts, es, [], x, rfl, hx, hasked, hes, hnew, hother⟩

/-- In every run the lines of the file are those of the polls. -/
theorem probed_run (fresh : ℕ → Sensor) (localtime : ℤ → Option Tm) (acts : List MonitorAction) :
    ∃ x, Monitor.run fresh localtime acts = .ok x ∧ (Proper acts x → Traced x) ∧
      (Proper acts x → Probed fresh localtime acts x) := by
  have hinit : Traced ⟨init fresh, [], .init, none, []⟩ :=
    ⟨rfl, List.nil_sublist _, fun p => Iff.rfl, by simp, exists_line_of_nil⟩
  have hrun : ∃ x, Monitor.run fresh localtime acts = .ok x ∧
      Monitor.run fresh localtime acts = .ok x ∧ Bounds x.daemon ∧ Represents fresh x.daemon ∧
      (Proper acts x → Traced x) ∧ (Proper acts x → Probed fresh localtime acts x) := by
    refine Run.exec_rule (P := fun acts (x : Monitor) => Monitor.run fresh localtime acts = .ok x ∧
      Bounds x.daemon ∧ Represents fresh x.daemon ∧ (Proper acts x → Traced x) ∧
      (Proper acts x → Probed fresh localtime acts x))
      ⟨rfl, bounds_init fresh, represents_init fresh, fun _ => hinit, fun _ => ⟨[], rfl, nofun⟩⟩ ?_
      acts
    rintro acts a x ⟨hx, hb, hrep, htraced, hprobed⟩
    obtain ⟨x', hx', hb', hrep', htraced'⟩ := Monitor.step_traced hb hrep htraced a
    refine ⟨x', hx', ?_, hb', hrep', htraced', Probed.step hx hb htraced hprobed hx'⟩
    rw [Monitor.run, Run.exec_concat hx, hx']
  obtain ⟨x, hx, -, -, -, htraced, hprobed⟩ := hrun
  exact ⟨x, hx, htraced, hprobed⟩

end Runs

/-- **What `GET LATENCY` prints.**  In every run of `telemetryd` with the thread that polls it,
where the packets of the latency sensor are the only ones with its id and all clocks show a time,
there are time stamps, each with the time at which the poll that showed it was read, such that the
time stamps are some of those that have arrived, in this order, and those that the polls have shown;
and the average that is printed is that of the last five times in between, rounded towards zero. -/
theorem average_shown (fresh : ℕ → Sensor) (localtime : ℤ → Option Tm)
    (acts : List MonitorAction) (x : Monitor) (hrun : Monitor.run fresh localtime acts = .ok x)
    (hproper : Proper acts x)
    (hsent : ∀ p ∈ arrived (frames x.daemon.history), IsTime p.1 p.2)
    (hnow : ∀ es now, .read es (some now) ∈ acts → IsTime now.tvSec now.tvNsec)
    (stack : { l : List ℤ // l.length = Average.windowSize }) :
    ∃ probes : List Probe,
      (probes.map Prod.fst).Sublist (arrived (frames x.daemon.history)) ∧
      (∀ p, p ∈ probes.map Prod.fst ↔ p ∈ x.polled) ∧
      (∀ probe ∈ probes, probe.ShownBy fresh localtime acts) ∧
      Average.printAverageLatency stack (some (logFile x.log.latencies)) =
        some (if probes = [] then .noSamples
          else .average (min 5 probes.length)
            (((probes.map Probe.delay).rtake 5).sum.tdiv (min 5 probes.length : ℕ))) := by
  obtain ⟨y, hy, htraced, hprobed⟩ := probed_run fresh localtime acts
  obtain rfl := Except.ok.inj (hy.symm.trans hrun)
  have htraced := htraced hproper
  obtain ⟨probes, hwritten, hshown⟩ := hprobed hproper
  have hlogged : probes.map Prod.fst = y.log.logged := by
    rw [Log.logged, hwritten, List.map_map]
    rfl
  have htimed : ∀ probe ∈ probes, probe.Timed := by
    intro probe hprobe
    obtain ⟨before, es, after, -, hacts, -⟩ := hshown probe hprobe
    refine ⟨hsent probe.1 (htraced.sublist.subset ?_), hnow es probe.2 (by simp [hacts])⟩
    rw [← hlogged]
    exact List.mem_map_of_mem hprobe
  refine ⟨probes, by rw [hlogged]; exact htraced.sublist, by rw [hlogged]; exact htraced.polled,
    hshown, ?_⟩
  rw [latencies_eq hwritten htimed]
  exact printAverageLatency_logFile htimed stack

/-- One packet that a poll shows nine seconds later. -/
theorem average_shown_probe :
    let probe : Sensor := { Sensor.zero with
      data := ⟨1, 0, 5000⟩, id := latencyID, type := .powCurrVolt, frameType := .data }
    let acts : List MonitorAction := (serve [probe]).map .daemon ++
      [.ask [], .read [.data 'L' "ATENCY: 1 5000\nEND\n".toList] (some ⟨10, 0⟩)]
    ∃ x, Monitor.run (fun _ => Sensor.zero) (fun _ => none) acts = .ok x ∧
      x.polled = [(1, 5000)] ∧ ∃ probes : List Probe, (1, 5000) ∈ probes.map Prod.fst ∧
        (∀ probe ∈ probes, probe.ShownBy (fun _ => Sensor.zero) (fun _ => none) acts) ∧
        Average.printAverageLatency ⟨[0, 0, 0, 0, 0], rfl⟩ (some (logFile x.log.latencies)) =
          some (if probes = [] then .noSamples
            else .average (min 5 probes.length)
              (((probes.map Probe.delay).rtake 5).sum.tdiv (min 5 probes.length : ℕ))) := by
  intro probe acts
  obtain ⟨x, hx, -⟩ := traced_run (fun _ => Sensor.zero) (fun _ => none) acts
  have hview : (Monitor.run (fun _ => Sensor.zero) (fun _ => none) acts).toOption.map
      (fun x => (frames x.daemon.history, x.polled)) = some ([probe], [(1, 5000)]) := by
    decide +kernel
  rw [hx] at hview
  obtain ⟨hframes, hpolled⟩ := Prod.mk_inj.mp (Option.some.inj hview)
  have honly : OnlyProbes [probe] := by
    unfold OnlyProbes
    decide +kernel
  have harrived : arrived (frames x.daemon.history) = [(1, 5000)] := by
    rw [hframes]
    decide +kernel
  have hread : ∀ es now, .read es now ∈ acts → now = some ⟨10, 0⟩ := by
    intro es now hmem
    simp only [acts, List.mem_append, List.mem_map, List.mem_cons, MonitorAction.read.injEq,
      List.not_mem_nil, reduceCtorEq, and_false, exists_false, or_false, false_or] at hmem
    exact hmem.2
  have hproper : Proper acts x :=
    ⟨by rwa [hframes], by rw [harrived]; decide, fun es now h => by rw [hread es now h]; rfl⟩
  obtain ⟨probes, -, hmem, hshown, haverage⟩ := average_shown (fun _ => Sensor.zero) (fun _ => none)
    acts x hx hproper (by rw [harrived]; simp [IsTime])
    (fun es now h => by rw [Option.some.inj (hread es _ h)]; simp [IsTime]) ⟨[0, 0, 0, 0, 0], rfl⟩
  exact ⟨x, hx, hpolled, probes, (hmem _).mpr (by rw [hpolled]; simp), hshown, haverage⟩

end LatencyLog
end Gateway
