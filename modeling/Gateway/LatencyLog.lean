import Gateway.Average
import Gateway.Interface
import Mathlib.Data.List.Find

/-!
# `dev-interface.c`: the log of the latencies

`latency_receiver_thread` asks for the latency sensor again and again, and `log_latency` writes a
line for each time stamp that is not the one it has seen last.

* `latencyUs` is the number of the line, which has no value when the arithmetic overflows;
* `Monitor` is `telemetryd` with the thread that polls it: a poll is answered in one step and read
  in a later one, with any steps of the daemon in between;
* `Traced` is what holds after every step, and `latency_logged_once` says that each time stamp that
  a poll has shown is logged once, in the order of arrival;
* `Sample` is a payload with the time at which its line is logged, and `latency_exact_iff` says for
  which samples the arithmetic is exact, up to the sum that is taken from the file.
-/

namespace Gateway
namespace LatencyLog

open Checked CText Interface Latency LittleEndian Processing Segmented Telemetry

/-! ### `log_latency` -/

/-- `sent_time_us`. -/
def sentTimeUs (sent : ℤ × ℤ) : Option ℤ := do
  let seconds ← result 63 (sent.1 * 1000000)
  result 63 (seconds + sent.2.tdiv 1000)

/-- `current_time_us`. -/
def currentTimeUs (now : Timespec) : Option ℤ := do
  let seconds ← result 63 (now.tvSec * 1000000)
  result 63 (seconds + now.tvNsec.tdiv 1000)

/-- `latency_us`. -/
def latencyUs (sent : ℤ × ℤ) (now : Timespec) : Option ℤ := do
  let sentTime ← sentTimeUs sent
  let currentTime ← currentTimeUs now
  result 63 (currentTime - sentTime)

/-- A line of the log: the time stamp it was written for, and the number in it. -/
structure Line where
  sent : ℤ × ℤ
  latency : Option ℤ
  deriving DecidableEq

/-- The static variables of `log_latency`, and the lines it has written. -/
structure Log where
  previous : ℤ × ℤ
  written : List Line
  deriving DecidableEq

/-- The static variables before the first call. -/
def Log.init : Log := ⟨(-1, -1), []⟩

/-- The time stamps for which a line was written. -/
def Log.logged (log : Log) : List (ℤ × ℤ) := log.written.map Line.sent

/-- `log_latency`, with what `clock_gettime` gives. -/
def logLatency (now : Option Timespec) (log : Log) (sent : ℤ × ℤ) : Log :=
  if sent = log.previous then log
  else
    match now with
    | none => { log with previous := sent }
    | some now => ⟨sent, log.written ++ [⟨sent, latencyUs sent now⟩]⟩

/-! ### The polls -/

/-- The time stamp that an entry carries. -/
def timeSent (e : Sensor) : ℤ × ℤ := ((sentSeconds e.data).toInt, (sentNanoseconds e.data).toInt)

/-- The time stamps of the latency packets among the frames, in order. -/
def arrived (fs : List Sensor) : List (ℤ × ℤ) := (fs.filter (·.key = latencyKey)).map timeSent

/-- The reading of the latency sensor in the registry. -/
def reading (s : State) : Option (ℤ × ℤ) :=
  (s.entries.find? (·.key = latencyKey)).map timeSent

/-- `telemetryd` and the thread that polls it: what was sent to the poll that is to be read, and the
log.  `asked` records the reading in the registry when the poll was answered, and `polled` the
readings of the polls whose line has arrived; no step looks at them. -/
structure Monitor where
  daemon : State
  answer : List Char
  log : Log
  asked : Option (ℤ × ℤ)
  polled : List (ℤ × ℤ)

/-- The steps: of the daemon, the answer to a poll, and its reading, with what `recv` meets and what
the clock says. -/
inductive MonitorAction
  | daemon (a : Action)
  | ask (schedule : List SendEvent)
  | read (es : List (Segmented.Event Char)) (now : Option Timespec)

/-- One step.  The user threads answer as long as the daemon has not left its main loop; a poll
reads some part of what was sent to it, from its start, and the next one has a new connection. -/
def Monitor.step (fresh : ℕ → Sensor) (localtime : ℤ → Option Tm) (x : Monitor) :
    MonitorAction → Except ℕ Monitor
  | .daemon a => do
      let daemon ← Telemetry.step fresh x.daemon a
      .ok { x with daemon := daemon }
  | .ask schedule =>
      match x.daemon.place with
      | .exited _ => .ok x
      | _ => do
          let (_, sock) ← respond localtime true x.daemon (.getID latencyID) ⟨schedule, []⟩
          .ok { x with answer := sock.sent, asked := reading x.daemon }
  | .read es now =>
      if content es <+: x.answer then
        .ok { x with
          answer := []
          log := (receiveUntilEnd false true [] ⟨[], [], []⟩ es).2.samples.foldl (logLatency now)
            x.log
          asked := none
          polled := if '\n' ∈ content es then x.polled ++ x.asked.toList else x.polled }
      else .ok x

/-- A run from the start of both. -/
def Monitor.run (fresh : ℕ → Sensor) (localtime : ℤ → Option Tm) (acts : List MonitorAction) :
    Except ℕ Monitor :=
  Run.exec (Monitor.step fresh localtime) ⟨init fresh, [], .init, none, []⟩ acts

/-! ### What an answer carries -/

section Answer

variable {localtime : ℤ → Option Tm} {fresh : ℕ → Sensor} {s : State}

/-- The latency sensor sends data only, and no other sensor has its id. -/
def OnlyProbes (fs : List Sensor) : Prop :=
  ∀ f ∈ fs, f.id = latencyID → f.key = latencyKey ∧ f.frameType = .data

theorem arrived_append (fs gs : List Sensor) : arrived (fs ++ gs) = arrived fs ++ arrived gs := by
  rw [arrived, List.filter_append, List.map_append, arrived, arrived]

/-- The last time stamp belongs to the last frame of the latency sensor. -/
theorem exists_of_arrived_concat {fs : List Sensor} {stamps : List (ℤ × ℤ)} {p : ℤ × ℤ}
    (h : arrived fs = stamps ++ [p]) :
    ∃ before f after, fs = before ++ f :: after ∧ f.key = latencyKey ∧ timeSent f = p ∧
      ∀ g ∈ after, g.key ≠ latencyKey := by
  obtain ⟨l₁, l₂, hfilter, -, hlast⟩ := List.map_eq_append_iff.mp h
  obtain ⟨fs₁, fs₂, rfl, -, hfs₂⟩ := List.filter_eq_append_iff.mp hfilter
  obtain ⟨f, rest, hl₂, hsent, hnil⟩ := List.map_eq_cons_iff.mp hlast
  rw [List.map_eq_nil_iff.mp hnil] at hl₂
  rw [hl₂] at hfs₂
  obtain ⟨fs₃, after, rfl, -, hf, hafter⟩ := List.filter_eq_cons_iff.mp hfs₂
  refine ⟨fs₁ ++ fs₃, f, after, by simp, by simpa using hf, hsent, fun g hg hkey => ?_⟩
  exact List.filter_eq_nil_iff.mp hafter g hg (by simpa using hkey)

/-- The entry of the latency sensor carries the time stamp that has arrived last. -/
theorem reading_eq_getLast? (h : Represents fresh s) (honly : OnlyProbes (frames s.history)) :
    reading s = (arrived (frames s.history)).getLast? := by
  cases hfind : s.entries.find? (·.key = latencyKey) with
  | none =>
    have hnone : arrived (frames s.history) = [] := by
      rw [arrived, List.map_eq_nil_iff, List.filter_eq_nil_iff]
      intro f hf hkey
      obtain ⟨e, he, hekey⟩ := h.exists_entry hf
      exact List.find?_eq_none.mp hfind e he (by simpa [hekey] using hkey)
    rw [reading, hfind, hnone]
    rfl
  | some e =>
    have he : e ∈ s.entries := List.mem_of_find?_eq_some hfind
    have hkey : e.key = latencyKey := by simpa using List.find?_some hfind
    obtain ⟨g, hg, hgk⟩ := h.exists_frame he
    have hne : arrived (frames s.history) ≠ [] := by
      rw [arrived, Ne, List.map_eq_nil_iff, List.filter_eq_nil_iff]
      exact fun hall => hall g hg (by simpa using hgk.trans hkey)
    have hstamps := (List.dropLast_append_getLast hne).symm
    obtain ⟨before, f, after, hframes, hfk, hfp, hafter⟩ := exists_of_arrived_concat hstamps
    have hfdata : f.frameType = .data :=
      (honly f (by rw [hframes]; simp) (congrArg SensorKey.id hfk)).2
    have hlast : lastData e.key (frames s.history) = some f := by
      rw [hframes, hkey]
      exact lastData_append_cons before ⟨hfk, hfdata⟩ fun g hg hgk => hafter g hg hgk.1
    have hdata : e.data = f.data := ((h.holdsLast he).2 f hlast).1
    rw [reading, hfind, hstamps, List.getLast?_concat, ← hfp]
    simp only [Option.map_some, timeSent, hdata]

/-- Looking for the id finds what looking for the latency sensor finds. -/
theorem find?_id_eq (h : Represents fresh s) (honly : OnlyProbes (frames s.history)) :
    s.entries.find? (·.id = latencyID) = s.entries.find? (·.key = latencyKey) := by
  have hiff : ∀ e ∈ s.entries, e.id = latencyID ↔ e.key = latencyKey := by
    intro e he
    refine ⟨fun hid => ?_, fun hkey => congrArg SensorKey.id hkey⟩
    obtain ⟨g, hg, hgk⟩ := h.exists_frame he
    rw [← hgk]
    exact (honly g hg ((congrArg SensorKey.id hgk).trans hid)).1
  exact List.find?_congr fun e he => by simp [hiff e he]

theorem readable_latencyLine {e : Sensor} (hid : e.id = latencyID) :
    Readable (sensorLine localtime e) := by
  have hline : sensorLine localtime e = sensorLine localtime { e with name := [] } := by
    rw [sensorLine, if_pos hid, sensorLine, if_pos hid]
    rfl
  rw [hline]
  exact readable_sensorLine localtime printable_nil (show 0 < sensorNameSize by decide)

/-- A date has digits, dashes, colons and a blank only. -/
theorem notMem_stamp {c : Char} (hdigit : c.isDigit = false) (hother : c ∉ ['-', ':', ' '])
    (tm : Tm) : c ∉ tm.stamp := by
  have hpadded : ∀ w n, c ∉ padded w n := fun w n hc => by
    rw [isDigit_of_mem_padded hc] at hdigit
    cases hdigit
  simp only [List.mem_cons, List.not_mem_nil, or_false, not_or] at hother
  obtain ⟨hdash, hcolon, hblank⟩ := hother
  simp [Tm.stamp, notMem_decimal hdigit hdash, hpadded, hdash, hcolon, hblank]

/-- The line for a sensor that is not known is no time stamp. -/
theorem parseLatencyResponse_zero :
    parseLatencyResponse (sensorLine localtime Sensor.zero) = none := by
  have hline : sensorLine localtime Sensor.zero = getTime localtime Sensor.zero ++ ':' ::
      (" : ".toList ++ getDataString Sensor.zero) := by
    rw [sensorLine, if_neg (by decide)]
    simp [Sensor.zero]
  have hletter : 'L' ∉ getTime localtime Sensor.zero := by
    unfold getTime
    split
    · exact List.not_mem_nil
    · rename_i info _
      unfold strftime
      split_ifs
      · exact notMem_stamp (by decide) (by decide) info
      · exact List.not_mem_nil
  rw [parseLatencyResponse, if_neg]
  rw [List.isPrefixOf_iff_prefix, hline]
  rintro ⟨rest, heq⟩
  cases htime : getTime localtime Sensor.zero with
  | nil =>
    rw [htime] at heq
    exact absurd (List.cons.inj heq).1 (by decide)
  | cons c text =>
    rw [htime] at heq hletter
    have hc : 'L' = c := (List.cons.inj heq).1
    exact hletter (by rw [hc]; exact List.mem_cons_self)

theorem sent_thenEnd_isPrefix (schedule : List SendEvent) (text : List Char) :
    (thenEnd (Socket.send ⟨schedule, []⟩ text)).2.sent <+: text ++ responseEndMarker := by
  have hpart := sent_isPrefix text schedule
  rcases hsend : Socket.send ⟨schedule, []⟩ text with ⟨ok, sock⟩
  obtain ⟨hok, rfl⟩ := Prod.mk_inj.mp hsend
  cases ok with
  | false => exact hpart.trans (List.prefix_append _ _)
  | true =>
    rw [thenEnd, sendResponseEnd, Socket.send, List.nil_append, sent_of_ok hok]
    exact List.prefix_append_right_inj text |>.mpr (sent_isPrefix responseEndMarker _)

/-- What is sent to a poll is some part of one line and the end marker, from the start, and the line
is read as the reading in the registry. -/
theorem exists_answer (hb : Bounds s) (h : Represents fresh s)
    (honly : OnlyProbes (frames s.history)) (schedule : List SendEvent) :
    ∃ r line, respond localtime true s (.getID latencyID) ⟨schedule, []⟩ = .ok r ∧
      r.2.sent <+: line ++ '\n' :: responseEndMarker ∧ Readable line ∧
      parseLatencyResponse line = reading s := by
  obtain ⟨e, he, hread⟩ : ∃ e, (s.entries.find? (·.id = latencyID)).getD Sensor.zero = e ∧
      (sensorText localtime e).length < transmitBufferSize ∧ Readable (sensorLine localtime e) ∧
      parseLatencyResponse (sensorLine localtime e) = reading s := by
    refine ⟨_, rfl, ?_⟩
    rw [reading, ← find?_id_eq h honly]
    cases hfind : s.entries.find? (·.id = latencyID) with
    | none =>
      exact ⟨length_sensorText_lt localtime (by decide),
        readable_sensorLine localtime printable_nil (by decide), parseLatencyResponse_zero⟩
    | some e =>
      have hid : e.id = latencyID := by simpa using List.find?_some hfind
      refine ⟨?_, readable_latencyLine hid, ?_⟩
      · rw [Option.getD_some, sensorText, if_pos hid]
        exact length_latencyText_lt e
      · rw [Option.getD_some, sensorLine, if_pos hid, parseLatencyResponse_latencyLine]
        rfl
  obtain ⟨hlen, hreadable, hparse⟩ := hread
  refine ⟨thenEnd (Socket.send ⟨schedule, []⟩ (sensorText localtime e)), sensorLine localtime e, ?_,
    ?_, hreadable, hparse⟩
  · rw [respond, hb.giveSensorID_eq, he, giveSensor_eq hlen]
  · have hsent := sent_thenEnd_isPrefix schedule (sensorLine localtime e ++ ['\n'])
    rw [sensorText_eq]
    rwa [List.append_assoc, List.singleton_append] at hsent

/-! ### What a poll reads -/

/-- What the client has made of the characters so far. -/
def client : Scan → Client
  | .more _ c => c
  | .returned _ c => c

/-- The client's result depends on the characters that were delivered only. -/
theorem receiveUntilEnd_snd (printResponse latencyFile : Bool) (line : List Char) (c : Client)
    (es : List (Segmented.Event Char)) :
    (receiveUntilEnd printResponse latencyFile line c es).2 =
      client (scanBuffer printResponse latencyFile (content es) line c) := by
  induction es generalizing line c with
  | nil => rfl
  | cons e es ih =>
    cases e with
    | fail => rfl
    | eintr exit => exact ih line c
    | data ch chs =>
      rw [receiveUntilEnd, content, scanBuffer_append]
      rcases scanBuffer printResponse latencyFile (ch :: chs) line c with ⟨line, c⟩ | ⟨code, c⟩
      · exact ih line c
      · rfl

/-- The end marker, or a part of it, is no time stamp. -/
theorem samples_scanBuffer_end {text : List Char} (h : text <+: responseEndMarker) (c : Client) :
    (client (scanBuffer false true text [] c)).samples = c.samples := by
  have hlen : text.length ≤ 4 := h.length_le
  rw [List.prefix_iff_eq_take.mp h]
  generalize text.length = n at hlen
  interval_cases n <;> rfl

/-- A poll logs the time stamp in the line when the line has arrived. -/
theorem samples_receiveUntilEnd {line : List Char} (hline : Readable line)
    {es : List (Segmented.Event Char)} (h : content es <+: line ++ '\n' :: responseEndMarker) :
    (receiveUntilEnd false true [] ⟨[], [], []⟩ es).2.samples =
      if '\n' ∈ content es then (parseLatencyResponse line).toList else [] := by
  rw [receiveUntilEnd_snd]
  generalize content es = text at h ⊢
  by_cases hlen : text.length ≤ line.length
  · have htext : text <+: line := List.prefix_of_prefix_length_le h (List.prefix_append _ _) hlen
    have hnew : '\n' ∉ text := fun hmem => hline.no_newline (htext.subset hmem)
    have hshort := hline.short
    have hscan : scanBuffer false true (text ++ []) [] ⟨[], [], []⟩ =
        scanBuffer false true [] ([] ++ text) ⟨[], [], []⟩ :=
      scanBuffer_text hnew (by rw [List.length_nil]; omega) ⟨[], [], []⟩
    rw [List.append_nil] at hscan
    rw [if_neg hnew, hscan]
    rfl
  · obtain ⟨rest, rfl⟩ := List.prefix_of_prefix_length_le (List.prefix_append _ _) h (by omega)
    have hrest := (List.prefix_append_right_inj line).mp h
    obtain ⟨ch, rest, rfl⟩ := List.exists_cons_of_ne_nil (l := rest) (by rintro rfl; simp at hlen)
    obtain ⟨rfl, hmarker⟩ := List.cons_prefix_cons.mp hrest
    have hprocess : processLine line false true ⟨[], [], []⟩ =
        (false, ⟨[line], [], (parseLatencyResponse line).toList⟩) := by
      simp only [processLine, cString_of_notMem hline.no_zero, if_neg hline.not_end]
      rfl
    rw [if_pos (by simp), scanBuffer_text hline.no_newline (by simpa using hline.short),
      List.nil_append, scanBuffer, if_pos rfl, hprocess]
    exact samples_scanBuffer_end hmarker _

end Answer

/-! ### Every run -/

section Runs

variable {localtime : ℤ → Option Tm} {fresh : ℕ → Sensor} {x : Monitor}

/-- What the log and the polls have to do with what has arrived.  The poll under way shows the last
time stamp of some part of the arrivals, and nothing newer was logged before it is read. -/
structure Traced (x : Monitor) : Prop where
  previous : x.log.previous = x.log.logged.getLast?.getD (-1, -1)
  sublist : x.log.logged.Sublist (arrived (frames x.daemon.history))
  polled : ∀ p, p ∈ x.log.logged ↔ p ∈ x.polled
  asked : ∀ p, x.asked = some p → ∃ before,
    before ++ [p] <+: arrived (frames x.daemon.history) ∧ x.log.logged.Sublist (before ++ [p])
  answer : ∃ line, x.answer <+: line ++ '\n' :: responseEndMarker ∧ Readable line ∧
    parseLatencyResponse line = x.asked

theorem Traced.of_daemon (h : Traced x) {daemon : State}
    (hgrow : frames x.daemon.history <+: frames daemon.history) :
    Traced { x with daemon := daemon } := by
  have harrived : arrived (frames x.daemon.history) <+: arrived (frames daemon.history) := by
    obtain ⟨more, hmore⟩ := hgrow
    rw [← hmore, arrived_append]
    exact List.prefix_append _ _
  refine ⟨h.previous, h.sublist.trans harrived.sublist, h.polled, fun p hp => ?_, h.answer⟩
  obtain ⟨before, hbefore, hlogged⟩ := h.asked p hp
  exact ⟨before, hbefore.trans harrived, hlogged⟩

theorem Traced.of_ask (h : Traced x) (hrep : Represents fresh x.daemon)
    (honly : OnlyProbes (frames x.daemon.history)) {answer line : List Char}
    (hanswer : answer <+: line ++ '\n' :: responseEndMarker) (hline : Readable line)
    (hparse : parseLatencyResponse line = reading x.daemon) :
    Traced { x with answer := answer, asked := reading x.daemon } := by
  refine ⟨h.previous, h.sublist, h.polled, fun p hp => ?_, line, hanswer, hline, hparse⟩
  have hlast : (arrived (frames x.daemon.history)).getLast? = some p := by
    rw [← reading_eq_getLast? hrep honly]
    exact hp
  obtain ⟨before, hbefore⟩ := List.getLast?_eq_some_iff.mp hlast
  refine ⟨before, ?_, ?_⟩
  · rw [hbefore]
  · rw [← hbefore]
    exact h.sublist

/-- A new time stamp comes behind everything that was logged. -/
theorem sublist_concat_of_ne {logged before : List (ℤ × ℤ)} {p : ℤ × ℤ}
    (h : logged.Sublist (before ++ [p])) (hne : logged.getLast? ≠ some p) :
    (logged ++ [p]).Sublist (before ++ [p]) := by
  obtain ⟨l₁, l₂, rfl, h₁, h₂⟩ := List.sublist_append_iff.mp h
  rcases List.sublist_singleton.mp h₂ with rfl | rfl
  · rw [List.append_nil]
    exact h₁.append (List.Sublist.refl _)
  · exact absurd List.getLast?_concat hne

/-- With no poll under way there is nothing to read. -/
theorem exists_line_of_nil : ∃ line, ([] : List Char) <+: line ++ '\n' :: responseEndMarker ∧
    Readable line ∧ parseLatencyResponse line = none :=
  ⟨sensorLine (fun _ => none) Sensor.zero, List.nil_prefix,
    readable_sensorLine _ printable_nil (by decide), parseLatencyResponse_zero⟩

/-- A time stamp that has arrived and is the last that was seen was logged. -/
theorem Traced.mem_logged (h : Traced x) (hfirst : (-1, -1) ∉ arrived (frames x.daemon.history))
    {p : ℤ × ℤ} (hp : p ∈ arrived (frames x.daemon.history)) (heq : p = x.log.previous) :
    p ∈ x.log.logged := by
  rw [h.previous] at heq
  cases hlast : x.log.logged.getLast? with
  | none =>
    rw [hlast, Option.getD_none] at heq
    rw [heq] at hp
    exact absurd hp hfirst
  | some q =>
    rw [hlast, Option.getD_some] at heq
    rw [heq]
    exact List.mem_of_getLast? hlast

/-- The line of a poll is read: its time stamp is logged, if it is not the last that was. -/
theorem Traced.of_sample (h : Traced x) (hfirst : (-1, -1) ∉ arrived (frames x.daemon.history))
    {p : ℤ × ℤ} (hasked : x.asked = some p) (now : Timespec) :
    Traced { x with
      answer := []
      log := logLatency (some now) x.log p
      asked := none
      polled := x.polled ++ [p] } := by
  obtain ⟨before, hbefore, hlogged⟩ := h.asked p hasked
  have hp : p ∈ arrived (frames x.daemon.history) := hbefore.subset (by simp)
  unfold logLatency
  split_ifs with heq
  · have hmem : p ∈ x.log.logged := h.mem_logged hfirst hp heq
    refine ⟨h.previous, h.sublist, fun q => ?_, by simp, exists_line_of_nil⟩
    rw [List.mem_append, List.mem_singleton, ← h.polled]
    exact ⟨Or.inl, fun hq => hq.elim id fun hqp => hqp ▸ hmem⟩
  · have hlast : x.log.logged.getLast? ≠ some p := fun hlast => heq (by
      rw [h.previous, hlast]
      rfl)
    have hwritten : (⟨p, x.log.written ++ [⟨p, latencyUs p now⟩]⟩ : Log).logged =
        x.log.logged ++ [p] := by
      rw [Log.logged, List.map_append]
      rfl
    refine ⟨?_, ?_, fun q => ?_, by simp, exists_line_of_nil⟩
    · rw [hwritten, List.getLast?_concat]
      rfl
    · rw [hwritten]
      exact (sublist_concat_of_ne hlogged hlast).trans hbefore.sublist
    · rw [hwritten, List.mem_append, List.mem_append, h.polled]

theorem Traced.of_read (h : Traced x) (hfirst : (-1, -1) ∉ arrived (frames x.daemon.history))
    {es : List (Segmented.Event Char)} (hes : content es <+: x.answer) (now : Timespec) :
    Traced { x with
      answer := []
      log := (receiveUntilEnd false true [] ⟨[], [], []⟩ es).2.samples.foldl
        (logLatency (some now)) x.log
      asked := none
      polled := if '\n' ∈ content es then x.polled ++ x.asked.toList else x.polled } := by
  obtain ⟨line, hanswer, hline, hparse⟩ := h.answer
  rw [samples_receiveUntilEnd hline (hes.trans hanswer), hparse]
  split_ifs with hnew
  · cases hasked : x.asked with
    | none =>
      simp only [Option.toList_none, List.foldl_nil, List.append_nil]
      exact ⟨h.previous, h.sublist, h.polled, by simp, exists_line_of_nil⟩
    | some p =>
      simp only [Option.toList_some, List.foldl_cons, List.foldl_nil]
      exact h.of_sample hfirst hasked now
  · exact ⟨h.previous, h.sublist, h.polled, by simp, exists_line_of_nil⟩

/-- The frames that were handled stay at the front of the history. -/
theorem frames_isPrefix {s s' : State} {a : Action} (hm : Moved fresh s a s') :
    frames s.history <+: frames s'.history := by
  have happend : ∃ es, s'.history = s.history ++ es := by
    rcases hm.history_cases with ⟨h, -⟩ | ⟨f, -, -, -, h⟩ | ⟨t, -, -, h⟩
    · exact ⟨[], by rw [h, List.append_nil]⟩
    · exact ⟨_, h⟩
    · exact ⟨_, h⟩
  obtain ⟨es, hes⟩ := happend
  rw [hes]
  exact (List.prefix_append _ _).filterMap _

/-- The probes come from the latency sensor alone, no time stamp is the one that stands for none,
and the clock works at every poll. -/
structure Proper (acts : List MonitorAction) (x : Monitor) : Prop where
  only : OnlyProbes (frames x.daemon.history)
  stamped : (-1, -1) ∉ arrived (frames x.daemon.history)
  clock : ∀ es now, .read es now ∈ acts → now.isSome = true

theorem Proper.of_append {acts : List MonitorAction} {a : MonitorAction} {x' : Monitor}
    (h : Proper (acts ++ [a]) x')
    (hgrow : frames x.daemon.history <+: frames x'.daemon.history) : Proper acts x := by
  refine ⟨fun f hf => h.only f (hgrow.subset hf), fun hmem => h.stamped ?_,
    fun es now hmem => h.clock es now (List.mem_append_left _ hmem)⟩
  obtain ⟨more, hmore⟩ := hgrow
  rw [← hmore, arrived_append]
  exact List.mem_append_left _ hmem

/-- A step does not fail and keeps what the log has to do with the arrivals. -/
theorem Monitor.step_traced {acts : List MonitorAction} (hb : Bounds x.daemon)
    (hrep : Represents fresh x.daemon) (h : Proper acts x → Traced x) (a : MonitorAction) :
    ∃ x', x.step fresh localtime a = .ok x' ∧ Bounds x'.daemon ∧ Represents fresh x'.daemon ∧
      (Proper (acts ++ [a]) x' → Traced x') := by
  cases a with
  | daemon a =>
    obtain ⟨d, hd, hm⟩ : ∃ d, Telemetry.step fresh x.daemon a = .ok d ∧ Moved fresh x.daemon a d :=
      hb.step_moved a
    refine ⟨{ x with daemon := d }, ?_, hb.of_moved hm, hrep.of_moved hb hm, fun hproper => ?_⟩
    · simp only [Monitor.step, hd, bind, Except.bind]
    · exact (h (hproper.of_append (frames_isPrefix hm))).of_daemon (frames_isPrefix hm)
  | ask schedule =>
    by_cases hexit : ∃ e, x.daemon.place = .exited e
    · obtain ⟨e, hexit⟩ := hexit
      refine ⟨x, ?_, hb, hrep, fun hproper => h (hproper.of_append List.prefix_rfl)⟩
      simp only [Monitor.step, hexit]
    · have hstep : x.step fresh localtime (.ask schedule) = (do
          let (_, sock) ← respond localtime true x.daemon (.getID latencyID) ⟨schedule, []⟩
          .ok { x with answer := sock.sent, asked := reading x.daemon }) := by
        unfold Monitor.step
        cases hplace : x.daemon.place with
        | exited e => exact absurd ⟨e, hplace⟩ hexit
        | _ => rfl
      obtain ⟨r, hr⟩ : ∃ r, respond localtime true x.daemon (.getID latencyID) ⟨schedule, []⟩ =
          .ok r := ⟨_, hb.giveSensorID_eq latencyID⟩
      refine ⟨{ x with answer := r.2.sent, asked := reading x.daemon }, ?_, hb, hrep,
        fun hproper => ?_⟩
      · rw [hstep, hr]
        rfl
      · have hbefore : Proper acts x := hproper.of_append List.prefix_rfl
        obtain ⟨r', line, hr', hsent, hline, hparse⟩ := exists_answer hb hrep hbefore.only schedule
        obtain rfl := Except.ok.inj (hr'.symm.trans hr)
        exact (h hbefore).of_ask hrep hbefore.only hsent hline hparse
  | read es now =>
    by_cases hes : content es <+: x.answer
    · refine ⟨_, if_pos hes, hb, hrep, fun hproper => ?_⟩
      have hbefore : Proper acts x := hproper.of_append List.prefix_rfl
      obtain ⟨time, rfl⟩ := Option.isSome_iff_exists.mp (hproper.clock es now (by simp))
      exact (h hbefore).of_read hbefore.stamped hes time
    · exact ⟨x, if_neg hes, hb, hrep,
        fun hproper => h (hproper.of_append List.prefix_rfl)⟩

theorem traced_run (fresh : ℕ → Sensor) (localtime : ℤ → Option Tm) (acts : List MonitorAction) :
    ∃ x, Monitor.run fresh localtime acts = .ok x ∧ (Proper acts x → Traced x) := by
  have hinit : Traced ⟨init fresh, [], .init, none, []⟩ :=
    ⟨rfl, List.nil_sublist _, fun p => Iff.rfl, by simp, exists_line_of_nil⟩
  have hrun : ∃ x, Monitor.run fresh localtime acts = .ok x ∧ Bounds x.daemon ∧
      Represents fresh x.daemon ∧ (Proper acts x → Traced x) := by
    refine Run.exec_rule (P := fun acts (x : Monitor) => Bounds x.daemon ∧
      Represents fresh x.daemon ∧ (Proper acts x → Traced x))
      ⟨bounds_init fresh, represents_init fresh, fun _ => hinit⟩ ?_ acts
    rintro acts a x ⟨hb, hrep, h⟩
    exact Monitor.step_traced hb hrep h a
  obtain ⟨x, hx, -, -, h⟩ := hrun
  exact ⟨x, hx, h⟩

/-- **Each latency packet is logged at most once, in order.**  In every run of `telemetryd` with the
thread that polls it, where the packets of the latency sensor are the only ones with its id and
carry different time stamps, the time stamps that were logged are some of those that have arrived,
in the order of arrival and each once.  They are those that were the reading in the registry at a
poll whose line has come, and nothing is logged before the first packet. -/
theorem latency_logged_once (fresh : ℕ → Sensor) (localtime : ℤ → Option Tm)
    (acts : List MonitorAction) (x : Monitor) (hrun : Monitor.run fresh localtime acts = .ok x)
    (honly : OnlyProbes (frames x.daemon.history))
    (hdistinct : (arrived (frames x.daemon.history)).Nodup)
    (hstamped : (-1, -1) ∉ arrived (frames x.daemon.history))
    (hclock : ∀ es now, .read es now ∈ acts → now.isSome = true) :
    x.log.logged.Sublist (arrived (frames x.daemon.history)) ∧ x.log.logged.Nodup ∧
      (∀ p, p ∈ x.log.logged ↔ p ∈ x.polled) ∧
      (arrived (frames x.daemon.history) = [] → x.log.logged = []) := by
  obtain ⟨y, hy, h⟩ := traced_run fresh localtime acts
  obtain rfl := Except.ok.inj (hy.symm.trans hrun)
  have htraced : Traced y := h ⟨honly, hstamped, hclock⟩
  refine ⟨htraced.sublist, htraced.sublist.nodup hdistinct, htraced.polled, fun hnone => ?_⟩
  rw [← List.sublist_nil, ← hnone]
  exact htraced.sublist

/-- Three packets, with a poll before the first, two polls between the first and the second, and one
after the third: the first and the third are logged. -/
theorem latency_logged_twice :
    let probe : UInt32 → Sensor := fun seconds => { Sensor.zero with
      data := ⟨seconds, 0, 5000⟩, id := latencyID, type := .powCurrVolt, frameType := .data }
    let torque : Sensor := { Sensor.zero with id := 7, type := .torque }
    let poll : List Char → List MonitorAction := fun text =>
      [.ask [], .read [.data 'L' text] (some ⟨10, 0⟩)]
    let acts : List MonitorAction :=
      [.ask [], .read [.data ':' " : \nEND\n".toList] (some ⟨10, 0⟩)] ++
      (serve [torque, probe 1]).map .daemon ++ poll "ATENCY: 1 5000\nEND\n".toList ++
      poll "ATENCY: 1 5000\nEND\n".toList ++ (serve [probe 2, probe 3]).map .daemon ++
      poll "ATENCY: 3 5000\nEND\n".toList
    ∃ x, Monitor.run (fun _ => Sensor.zero) (fun _ => none) acts = .ok x ∧
      arrived (frames x.daemon.history) = [(1, 5000), (2, 5000), (3, 5000)] ∧
      x.log.logged = [(1, 5000), (3, 5000)] ∧
      x.log.logged.Sublist (arrived (frames x.daemon.history)) ∧ x.log.logged.Nodup ∧
      (∀ p, p ∈ x.log.logged ↔ p ∈ x.polled) := by
  intro probe torque poll acts
  obtain ⟨x, hx, -⟩ := traced_run (fun _ => Sensor.zero) (fun _ => none) acts
  have hview : (Monitor.run (fun _ => Sensor.zero) (fun _ => none) acts).toOption.map
      (fun x => (frames x.daemon.history, x.log.logged)) =
      some ([torque, probe 1, probe 2, probe 3], [(1, 5000), (3, 5000)]) := by decide +kernel
  rw [hx] at hview
  obtain ⟨hframes, hlogged⟩ := Prod.mk_inj.mp (Option.some.inj hview)
  have honly : OnlyProbes [torque, probe 1, probe 2, probe 3] := by
    unfold OnlyProbes
    decide +kernel
  have hclock : ∀ es now, .read es now ∈ acts → now.isSome = true := by
    intro es now hmem
    simp only [acts, poll, List.append_assoc, List.cons_append, List.nil_append, List.mem_cons,
      List.mem_append, List.mem_map, MonitorAction.read.injEq, List.not_mem_nil, reduceCtorEq,
      and_false, exists_false, or_false, false_or, or_self_left] at hmem
    rcases hmem with ⟨-, rfl⟩ | ⟨-, rfl⟩ | ⟨-, rfl⟩ <;> rfl
  have harrived : arrived (frames x.daemon.history) = [(1, 5000), (2, 5000), (3, 5000)] := by
    rw [hframes]
    decide +kernel
  obtain ⟨hsublist, hnodup, hpolled, -⟩ := latency_logged_once (fun _ => Sensor.zero)
    (fun _ => none) acts x hx (by rwa [hframes]) (by rw [harrived]; decide)
    (by rw [harrived]; decide) hclock
  exact ⟨x, hx, harrived, hlogged, hsublist, hnodup, hpolled⟩

end Runs

/-! ### Exact arithmetic -/

/-- The file that `latency_receiver_thread` writes: the header, and a line for each number. -/
def logFile (latencies : List ℤ) : List Char :=
  Average.header ++ '\n' :: latencies.flatMap fun latency => decimal latency ++ ['\n']

/-- The payload of a latency packet, and the time at which its line is logged. -/
structure Sample where
  payload : List UInt8
  now : Timespec
  length_payload : payload.length = 12
  tvSec_mem : 0 ≤ now.tvSec ∧ now.tvSec < 2 ^ 40
  tvNsec_mem : 0 ≤ now.tvNsec ∧ now.tvNsec < 10 ^ 9

namespace Sample

/-- The first eight bytes of the payload. -/
def seconds (x : Sample) : ℤ := (UInt64.ofNat (value (x.payload.take 8))).toInt64.toInt

/-- The four bytes after them. -/
def nanoseconds (x : Sample) : ℤ := (UInt32.ofNat (value (x.payload.drop 8))).toInt32.toInt

/-- The time that was sent, in microseconds. -/
def sentTime (x : Sample) : ℤ := x.seconds * 1000000 + x.nanoseconds.tdiv 1000

/-- The time at which it is logged, in microseconds. -/
def currentTime (x : Sample) : ℤ := x.now.tvSec * 1000000 + x.now.tvNsec.tdiv 1000

/-- The time in between. -/
def latency (x : Sample) : ℤ := x.currentTime - x.sentTime

/-- The packet makes a frame, and the three numbers that `log_latency` computes from the line for
it are the exact ones. -/
def Exact (x : Sample) : Prop :=
  ∀ ts mono : Timespec, ∃ f sent,
    generateFrame (some ts) (some mono) (buildPacket latencySensorType latencyID x.payload 12)
      Sensor.zero packetSize = some f ∧
    parseLatencyResponse (latencyLine f) = some sent ∧
    sentTimeUs sent = some x.sentTime ∧ currentTimeUs x.now = some x.currentTime ∧
    latencyUs sent x.now = some x.latency

/-- The time stamps for which nothing overflows. -/
structure InRange (x : Sample) : Prop where
  seconds_mem : -9223372036854 ≤ x.seconds ∧ x.seconds ≤ 9223372036854
  sentTime_le : x.sentTime ≤ 2 ^ 63 - 1
  latency_le : x.latency ≤ 2 ^ 63 - 1

end Sample

section Exact

variable {x : Sample}

/-- The line for the frame of a payload is read as its two numbers. -/
theorem Sample.exists_frame (x : Sample) (ts mono : Timespec) :
    ∃ f, generateFrame (some ts) (some mono) (buildPacket latencySensorType latencyID x.payload 12)
        Sensor.zero packetSize = some f ∧
      parseLatencyResponse (latencyLine f) = some (x.seconds, x.nanoseconds) := by
  obtain ⟨f, hf, -, -, hraw⟩ :=
    generateFrame_latencyPayload ts mono Sensor.zero x.length_payload
  refine ⟨f, hf, ?_⟩
  rw [parseLatencyResponse_latencyLine, sentSeconds, sentNanoseconds, hraw]
  rfl

theorem Sample.currentTime_mem (x : Sample) :
    0 ≤ x.now.tvSec * 1000000 ∧ x.now.tvSec * 1000000 ≤ x.currentTime ∧
      x.currentTime < 2 ^ 40 * 1000000 := by
  obtain ⟨hs₀, hs⟩ := x.tvSec_mem
  obtain ⟨hn₀, hn⟩ := x.tvNsec_mem
  rw [Sample.currentTime, Int.tdiv_eq_ediv_of_nonneg hn₀]
  omega

theorem Sample.sentTimeUs_eq_some_iff (x : Sample) :
    sentTimeUs (x.seconds, x.nanoseconds) = some x.sentTime ↔
      Fits 63 (x.seconds * 1000000) ∧ Fits 63 x.sentTime := by
  simp only [sentTimeUs, bind, Option.bind_eq_some_iff, result_eq_some_iff]
  constructor
  · rintro ⟨s, ⟨hs, rfl⟩, ht, -⟩
    exact ⟨hs, ht⟩
  · rintro ⟨hs, ht⟩
    exact ⟨_, ⟨hs, rfl⟩, ht, rfl⟩

theorem Sample.currentTimeUs_eq (x : Sample) : currentTimeUs x.now = some x.currentTime := by
  obtain ⟨h₀, hle, hlt⟩ := x.currentTime_mem
  have hs : Fits 63 (x.now.tvSec * 1000000) := ⟨by omega, by omega⟩
  have ht : Fits 63 x.currentTime := ⟨by omega, by omega⟩
  simp only [currentTimeUs, bind, result_of_fits hs, Option.bind_some]
  exact result_of_fits ht

theorem Sample.latencyUs_eq_some_iff {sent : ℤ × ℤ} (hsent : sentTimeUs sent = some x.sentTime) :
    latencyUs sent x.now = some x.latency ↔ Fits 63 x.latency := by
  simp only [latencyUs, bind, hsent, x.currentTimeUs_eq, Option.bind_some, result_eq_some_iff]
  exact and_iff_left rfl

/-- What is computed from a time stamp is exact exactly when the time stamp is in range. -/
theorem Sample.exact_iff : x.Exact ↔ x.InRange := by
  obtain ⟨hcur₀, hcur, hcur₁⟩ := x.currentTime_mem
  have hlatency : x.latency = x.currentTime - x.sentTime := rfl
  constructor
  · intro h
    obtain ⟨f, sent, hf, hparse, hsent, -, hl⟩ := h ⟨0, 0⟩ ⟨0, 0⟩
    obtain ⟨g, hg, hread⟩ := x.exists_frame ⟨0, 0⟩ ⟨0, 0⟩
    obtain rfl := Option.some.inj (hg.symm.trans hf)
    obtain rfl := Option.some.inj (hread.symm.trans hparse)
    obtain ⟨⟨hs₀, hs⟩, -, ht⟩ := x.sentTimeUs_eq_some_iff.mp hsent
    obtain ⟨-, hl⟩ := (Sample.latencyUs_eq_some_iff hsent).mp hl
    exact ⟨⟨by omega, by omega⟩, by omega, by omega⟩
  · intro h ts mono
    obtain ⟨f, hf, hparse⟩ := x.exists_frame ts mono
    obtain ⟨hs₀, hs⟩ := h.seconds_mem
    have ht := h.sentTime_le
    have hl := h.latency_le
    have hsent : sentTimeUs (x.seconds, x.nanoseconds) = some x.sentTime :=
      x.sentTimeUs_eq_some_iff.mpr ⟨⟨by omega, by omega⟩, by omega, by omega⟩
    exact ⟨f, _, hf, hparse, hsent, x.currentTimeUs_eq,
      (Sample.latencyUs_eq_some_iff hsent).mpr ⟨by omega, by omega⟩⟩

theorem Sample.InRange.fits (h : x.InRange) : Fits 63 x.latency := by
  obtain ⟨hcur₀, hcur, hcur₁⟩ := x.currentTime_mem
  have hlatency : x.latency = x.currentTime - x.sentTime := rfl
  have ht := h.sentTime_le
  have hl := h.latency_le
  exact ⟨by omega, by omega⟩

/-- The lines of the file, with what stands behind the last line end. -/
theorem splitOn_logFile (latencies : List ℤ) :
    (logFile latencies).splitOn '\n' = Average.header :: latencies.map decimal ++ [[]] := by
  have hlines : ∀ l : List ℤ, (l.flatMap fun latency => decimal latency ++ ['\n']).splitOn '\n' =
      l.map decimal ++ [[]] := by
    intro l
    induction l with
    | nil => rfl
    | cons latency l ih =>
      have hline : '\n' ∉ decimal latency := notMem_decimal (by decide) (by decide) latency
      rw [List.flatMap_cons, List.append_assoc, List.singleton_append,
        List.splitOn_append_cons_self_of_not_mem hline, ih]
      rfl
  rw [logFile, List.splitOn_append_cons_self_of_not_mem (by decide), hlines]
  rfl

/-- `print_average_latency` finds the last five numbers of the file. -/
theorem contents_logFile {latencies : List ℤ} (h : ∀ n ∈ latencies, Fits 63 n)
    (stack : { l : List ℤ // l.length = Average.windowSize }) :
    (Average.readWindow (.start stack) (logFile latencies)).contents = latencies.rtake 5 := by
  have hvalues : ((logFile latencies).splitOn '\n').filterMap Average.sampleValue = latencies := by
    have hmap : (latencies.map decimal).filterMap Average.sampleValue = latencies := by
      have hsome : latencies.filterMap (Average.sampleValue ∘ decimal) = latencies.filterMap some :=
        List.filterMap_congr fun n hn => Average.sampleValue_decimal (h n hn)
      rw [List.filterMap_map, hsome, List.filterMap_some]
    rw [splitOn_logFile, List.cons_append, List.filterMap_cons_none (by decide),
      List.filterMap_append, hmap, List.filterMap_cons_none (by decide), List.filterMap_nil,
      List.append_nil]
  have hshort : ∀ line ∈ (logFile latencies).splitOn '\n', line.length < Average.lineSize := by
    intro line hline
    rw [splitOn_logFile, List.cons_append, List.mem_cons, List.mem_append, List.mem_map,
      List.mem_singleton] at hline
    rcases hline with rfl | ⟨n, hn, rfl⟩ | rfl
    · decide
    · obtain ⟨hn₀, hn₁⟩ := h n hn
      have hlen := length_decimal_le (n := n) (k := 19) (by decide) (by omega)
      exact lt_of_le_of_lt hlen (by decide)
    · decide
  rw [Average.contents_readWindow stack hshort, hvalues]
  rfl

/-- **When the arithmetic of the latencies is exact.**  For any packets of the latency sensor and
any times at which their lines are logged, the numbers that are computed are exact, and so is the
sum that is taken from the file with these lines, exactly when every time stamp is in range and so
are the partial sums of the last five latencies. -/
theorem latency_exact_iff (samples : List Sample) :
    ((∀ x ∈ samples, x.Exact) ∧
      ∀ stack, Average.sumWindow
          (Average.readWindow (.start stack) (logFile (samples.map Sample.latency))) =
        some ((samples.map Sample.latency).rtake 5).sum) ↔
    (∀ x ∈ samples, x.InRange) ∧ PartialSumsFit 63 ((samples.map Sample.latency).rtake 5) := by
  have hexact : (∀ x ∈ samples, x.Exact) ↔ ∀ x ∈ samples, x.InRange :=
    forall₂_congr fun x _ => x.exact_iff
  rw [hexact]
  refine and_congr_right fun hrange => ?_
  have hfits : ∀ n ∈ samples.map Sample.latency, Fits 63 n := by
    intro n hn
    obtain ⟨x, hx, rfl⟩ := List.mem_map.mp hn
    exact (hrange x hx).fits
  have hsum : ∀ stack, Average.sumWindow
      (Average.readWindow (.start stack) (logFile (samples.map Sample.latency))) =
        some ((samples.map Sample.latency).rtake 5).sum ↔
      PartialSumsFit 63 ((samples.map Sample.latency).rtake 5) := by
    intro stack
    rw [Average.sumWindow, contents_logFile hfits, sum_eq_some_iff]
    exact and_iff_left rfl
  constructor
  · exact fun h => (hsum ⟨List.replicate 5 0, rfl⟩).mp (h _)
  · exact fun h stack => (hsum stack).mpr h

/-- The clock of a client, as the clock here, gives seconds below `2 ^ 40`. -/
def Sample.Clocked (x : Sample) : Prop :=
  (0 ≤ x.seconds ∧ x.seconds < 2 ^ 40) ∧ 0 ≤ x.nanoseconds ∧ x.nanoseconds < 10 ^ 9

theorem Sample.Clocked.sentTime_mem (h : x.Clocked) :
    0 ≤ x.sentTime ∧ x.sentTime < 2 ^ 40 * 1000000 := by
  obtain ⟨⟨hs₀, hs⟩, hn₀, hn⟩ := h
  rw [Sample.sentTime, Int.tdiv_eq_ediv_of_nonneg hn₀]
  omega

/-- Time stamps that a clock has given are in range, and so are the sums of five latencies. -/
theorem partialSumsFit_of_clocked {samples : List Sample} (h : ∀ x ∈ samples, x.Clocked) :
    (∀ x ∈ samples, x.InRange) ∧ PartialSumsFit 63 ((samples.map Sample.latency).rtake 5) := by
  have hlatency : ∀ x ∈ samples, -(2 ^ 40 * 1000000) ≤ x.latency ∧
      x.latency ≤ 2 ^ 40 * 1000000 := by
    intro x hx
    obtain ⟨hcur₀, hcur, hcur₁⟩ := x.currentTime_mem
    obtain ⟨hsent₀, hsent⟩ := (h x hx).sentTime_mem
    rw [Sample.latency]
    omega
  refine ⟨fun x hx => ?_, fun p hp => ?_⟩
  · obtain ⟨hl₀, hl⟩ := hlatency x hx
    obtain ⟨hsent₀, hsent⟩ := (h x hx).sentTime_mem
    obtain ⟨⟨hs₀, hs⟩, -⟩ := h x hx
    exact ⟨⟨by omega, by omega⟩, by omega, by omega⟩
  · have hpre : p <+: (samples.map Sample.latency).rtake 5 := (List.mem_inits _ _).mp hp
    have hlen : p.length ≤ 5 := by
      have hle := hpre.length_le
      rw [SlidingWindow.length_rtake] at hle
      omega
    have hmem : ∀ n ∈ p, -(2 ^ 40 * 1000000) ≤ n ∧ n ≤ 2 ^ 40 * 1000000 := by
      intro n hn
      obtain ⟨x, hx, rfl⟩ := List.mem_map.mp ((List.drop_sublist _ _).subset (hpre.subset hn))
      exact hlatency x hx
    have hlower := List.card_nsmul_le_sum p _ fun n hn => (hmem n hn).1
    have hupper := List.sum_le_card_nsmul p _ fun n hn => (hmem n hn).2
    rw [nsmul_eq_mul] at hlower hupper
    have hcast : (p.length : ℤ) ≤ 5 := by exact_mod_cast hlen
    exact ⟨by omega, by omega⟩

/-- With the largest number of seconds the first multiplication overflows; and two time stamps that
are in range by themselves make a file whose sum overflows. -/
theorem latency_overflows :
    let x : Sample := ⟨[255, 255, 255, 255, 255, 255, 255, 127, 0, 0, 0, 0], ⟨1700000000, 0⟩, rfl,
      by decide, by decide⟩
    let y : Sample := ⟨[0, 176, 198, 216, 115, 251, 255, 255, 0, 0, 0, 0], ⟨0, 0⟩, rfl, by decide,
      by decide⟩
    x.seconds = 2 ^ 63 - 1 ∧ sentTimeUs (x.seconds, x.nanoseconds) = none ∧ ¬ x.Exact ∧
      y.Exact ∧ y.latency = 5000000000000000000 ∧
      ∀ stack, Average.sumWindow
        (Average.readWindow (.start stack) (logFile ([y, y].map Sample.latency))) = none := by
  intro x y
  have hx : x.seconds = 2 ^ 63 - 1 := by decide +kernel
  have hy : y.latency = 5000000000000000000 := by decide +kernel
  refine ⟨hx, by decide +kernel, fun h => ?_, ?_, hy, fun stack => ?_⟩
  · have hrange := (x.exact_iff.mp h).seconds_mem.2
    rw [hx] at hrange
    omega
  · exact y.exact_iff.mpr ⟨by decide +kernel, by decide +kernel, by decide +kernel⟩
  · have hfits : ∀ n ∈ [y, y].map Sample.latency, Fits 63 n := by
      rw [List.map_cons, List.map_cons, List.map_nil, hy]
      decide +kernel
    rw [Average.sumWindow, contents_logFile hfits, List.map_cons, List.map_cons, List.map_nil, hy]
    decide +kernel

end Exact

end LatencyLog
end Gateway
