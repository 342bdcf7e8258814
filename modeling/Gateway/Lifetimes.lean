import Gateway.ProcessInit

/-!
# The lifetimes of `processingd` and `loggingd`

The two daemons that do not listen open their queues, run their loop and close what they have opened
on every way out of `main`.  `loggingd` opens a file for every frame in addition.

* `processingMain`, `loggingMain`: `main` of the two, as far as descriptors are concerned;
* `loggingLoop_ends`: however many frames are logged, the loop neither loses nor collects
  descriptors;
* `returns_clean_iff`: the one way out on which a descriptor is left open.
-/

namespace Gateway
namespace Lifetimes

open Descriptors Fallible ProcessInit

/-! ### `processing_d.c` -/

structure ProcessingCalls where
  daemon : DaemonCalls
  signals : Bool
  mqOpenAcquire : Bool
  mqGetattr : Bool
  mqSize : Bool
  mqOpenLog : Bool
  mqOpenTelemetry : Bool

/-- `ipc_init` of `processing_d.c`: the descriptors of the three queues. -/
def processingIpcInit (t : Table File) (sys : ProcessingCalls) :
    Except (Table File) ((ℕ × ℕ × ℕ) × Table File) := do
  require sys.mqOpenAcquire t
  let rxAcquireMq := t.lowest
  let t := t.openFile .queue
  require sys.mqGetattr (t.close rxAcquireMq)
  require sys.mqSize (t.close rxAcquireMq)
  require sys.mqOpenLog (t.close rxAcquireMq)
  let txLogMq := t.lowest
  let t := t.openFile .queue
  require sys.mqOpenTelemetry ((t.close rxAcquireMq).close txLogMq)
  let txTelemetryMq := t.lowest
  let t := t.openFile .queue
  return ((rxAcquireMq, txLogMq, txTelemetryMq), t)

/-- `main` of `processing_d.c`: the descriptors that are open when it returns.  Its loop opens and
closes nothing. -/
def processingMain (t : Table File) (sys : ProcessingCalls) : Except Stop (Table File) := do
  let t ← daemonInit t sys.daemon
  require sys.signals (.failed t)
  let ((rxAcquireMq, txLogMq, txTelemetryMq), t) ← (processingIpcInit t sys).mapError .failed
  return ((t.close rxAcquireMq).close txLogMq).close txTelemetryMq

/-! ### `logging_d.c` -/

structure LoggingCalls where
  daemon : DaemonCalls
  signals : Bool
  mqOpen : Bool
  mqGetattr : Bool
  mqSize : Bool

/-- `ipc_init` of `logging_d.c`, which does not close the queue if `mq_getattr` fails. -/
def loggingIpcInit (t : Table File) (sys : LoggingCalls) :
    Except (Table File) (ℕ × Table File) := do
  require sys.mqOpen t
  let rxProcessMq := t.lowest
  let t := t.openFile .queue
  require sys.mqGetattr t
  require sys.mqSize (t.close rxProcessMq)
  return (rxProcessMq, t)

/-- What the calls for one frame answer: the path fits its buffer, `open`, `lseek`, and
`writeFrameData`. -/
structure FileCalls where
  fits : Bool
  openFile : Bool
  lseek : Bool
  writeFrameData : Bool

/-- What `receiveFrame` brings. -/
inductive Received
  | failed
  | incomplete
  | frame (sys : FileCalls)

def openLogFile (t : Table File) (sys : FileCalls) : Except (Table File) (ℕ × Table File) := do
  require sys.fits t
  require sys.openFile t
  let fileDescriptor := t.lowest
  let t := t.openFile .other
  require sys.lseek (t.close fileDescriptor)
  return (fileDescriptor, t)

/-- One pass of the loop: the table at the next test of `exitRQ`, or when `main` returns `-1`. -/
def loggingPass (rxProcessMq : ℕ) (t : Table File) : Received → Except (Table File) (Table File)
  | .failed => .error (t.close rxProcessMq)
  | .incomplete => .ok t
  | .frame sys => do
      let (fd, t) ← (openLogFile t sys).mapError fun t => t.close rxProcessMq
      require sys.writeFrameData ((t.close rxProcessMq).close fd)
      return t.close fd

/-- `main` of `logging_d.c`, with the passes that it makes before it sees `exitRQ`. -/
def loggingMain (t : Table File) (sys : LoggingCalls) (passes : List Received) :
    Except Stop (Table File) := do
  let t ← daemonInit t sys.daemon
  require sys.signals (.failed t)
  let (rxProcessMq, t) ← (loggingIpcInit t sys).mapError .failed
  let t ← (passes.foldlM (loggingPass rxProcessMq) t).mapError .failed
  return t.close rxProcessMq

/-! ### The two daemons -/

inductive Receiver
  | processingd
  | loggingd
  deriving DecidableEq

/-- What the calls of a lifetime answer. -/
abbrev Receiver.Calls : Receiver → Type
  | .processingd => ProcessingCalls
  | .loggingd => LoggingCalls × List Received

def Receiver.main (t : Table File) : (receiver : Receiver) → receiver.Calls →
    Except Stop (Table File)
  | .processingd, sys => processingMain t sys
  | .loggingd, sys => loggingMain t sys.1 sys.2

/-- `mq_getattr` of `loggingd` is called and fails. -/
def Receiver.getattrFails : (receiver : Receiver) → receiver.Calls → Bool
  | .processingd, _ => false
  | .loggingd, sys =>
      sys.1.daemon.fork = .child && sys.1.daemon.setsid && sys.1.daemon.chdir &&
        sys.1.daemon.openDevNull && sys.1.signals && sys.1.mqOpen && ! sys.1.mqGetattr

/-! ### What is closed -/

variable {t t' : Table File}

theorem processingIpcInit_ends (t : Table File) (sys : ProcessingCalls) :
    Ends (processingIpcInit t sys) (· = t) fun r =>
      ((r.2.close r.1.1).close r.1.2.1).close r.1.2.2 = t := by
  have hclosed : (t.openFile .queue).close t.lowest = t := Table.close_openFile t .queue
  set u := t.openFile .queue with hu
  have hboth : ((u.openFile .queue).close t.lowest).close u.lowest = t := by
    rw [Table.close_comm, Table.close_openFile, hclosed]
  refine ends_require rfl ?_
  refine ends_require hclosed ?_
  refine ends_require hclosed ?_
  refine ends_require hclosed ?_
  refine ends_require hboth ?_
  set v := u.openFile .queue with hv
  -- the queues are closed in the order in which they were opened
  show (((v.openFile .queue).close t.lowest).close u.lowest).close v.lowest = t
  rw [Table.close_comm _ u.lowest, Table.close_comm _ t.lowest, Table.close_openFile, hboth]

theorem openLogFile_ends (t : Table File) (sys : FileCalls) :
    Ends (openLogFile t sys) (· = t) (· = (t.lowest, t.openFile .other)) := by
  refine ends_require rfl ?_
  refine ends_require rfl ?_
  refine ends_require (Table.close_openFile t .other) ?_
  rfl

/-- A pass closes the file that it opens, and the queue as well if it is the last one. -/
theorem loggingPass_ends (rxProcessMq : ℕ) (t : Table File) (received : Received) :
    Ends (loggingPass rxProcessMq t received) (· = t.close rxProcessMq) (· = t) := by
  cases received with
  | failed => rfl
  | incomplete => rfl
  | frame sys =>
    refine ((openLogFile_ends t sys).mapError ?_).bind ?_
    · rintro u rfl
      rfl
    · rintro _ rfl
      refine ends_require ?_ (Table.close_openFile t .other)
      rw [Table.close_comm, Table.close_openFile]

/-- However many frames are logged, the table at the top of the loop is the same. -/
theorem loggingLoop_ends (rxProcessMq : ℕ) (t : Table File) (passes : List Received) :
    Ends (passes.foldlM (loggingPass rxProcessMq) t) (· = t.close rxProcessMq) (· = t) := by
  refine ends_foldlM (P := (· = t)) (fun u received hu => ?_) rfl passes
  rw [hu]
  exact loggingPass_ends rxProcessMq t received

theorem processingMain_ends (t : Table File) (sys : ProcessingCalls) :
    Ends (processingMain t sys) (Stop.Clean t) fun t' => Stop.Clean t (.failed t') := by
  refine (daemonInit_ends t sys.daemon).bind fun u hu => ?_
  refine ends_require hu.clean ?_
  refine ((processingIpcInit_ends u sys).mapError ?_).bind ?_
  · rintro v rfl
    exact hu.clean
  · rintro ⟨⟨rxAcquireMq, txLogMq, txTelemetryMq⟩, v⟩ hv
    show Stop.Clean t (.failed (((v.close rxAcquireMq).close txLogMq).close txTelemetryMq))
    rw [hv]
    exact hu.clean

theorem daemonInit_succeeds (t : Table File) (sys : DaemonCalls) :
    Ends (daemonInit t sys) (fun _ => True) fun _ =>
      sys.fork = .child ∧ sys.setsid = true ∧ sys.chdir = true ∧ sys.openDevNull = true := by
  unfold daemonInit
  split
  · trivial
  · trivial
  · rename_i hfork
    refine ends_require_of (fun _ => trivial) fun hsetsid => ?_
    refine ends_require_of (fun _ => trivial) fun hchdir => ?_
    refine ends_require_of (fun _ => trivial) fun hopen => ?_
    exact ⟨hfork, hsetsid, hchdir, hopen⟩

theorem loggingMain_ends (t : Table File) {sys : LoggingCalls} {passes : List Received}
    (h : Receiver.getattrFails .loggingd (sys, passes) = false) :
    Ends (loggingMain t sys passes) (Stop.Clean t) fun t' => Stop.Clean t (.failed t') := by
  cases hinit : daemonInit t sys.daemon with
  | error stop =>
    rw [loggingMain, hinit]
    exact (daemonInit_ends t sys.daemon).of_error hinit
  | ok u =>
    have hu : Redirected t u := (daemonInit_ends t sys.daemon).of_ok hinit
    obtain ⟨hfork, hsetsid, hchdir, hopen⟩ := (daemonInit_succeeds t sys.daemon).of_ok hinit
    have hclosed : (u.openFile .queue).close u.lowest = u := Table.close_openFile u .queue
    rw [loggingMain, hinit]
    refine ends_require_of (fun _ => hu.clean) fun hsignals => ?_
    have hipc : Ends (loggingIpcInit u sys) (· = u) (· = (u.lowest, u.openFile .queue)) := by
      refine ends_require_of (fun _ => rfl) fun hmq => ?_
      -- all calls before `mq_getattr` have succeeded, so it does not fail
      refine ends_require_of (fun hgetattr => ?_) fun _ => ends_require hclosed rfl
      simp [Receiver.getattrFails, hfork, hsetsid, hchdir, hopen, hsignals, hmq, hgetattr] at h
    refine (hipc.mapError ?_).bind ?_
    · rintro v rfl
      exact hu.clean
    rintro _ rfl
    refine ((loggingLoop_ends u.lowest (u.openFile .queue) passes).mapError ?_).bind ?_
    · rintro v rfl
      rw [hclosed]
      exact hu.clean
    · rintro v rfl
      show Stop.Clean t (.failed ((u.openFile .queue).close u.lowest))
      rw [hclosed]
      exact hu.clean

/-- If `mq_getattr` fails, the start ends with the queue open. -/
theorem loggingMain_of_getattrFails (t : Table File) {sys : LoggingCalls} {passes : List Received}
    (h : Receiver.getattrFails .loggingd (sys, passes) = true) :
    loggingMain t sys passes = .error (.failed ((redirect t).openFile .queue)) := by
  simp only [Receiver.getattrFails, Bool.and_eq_true, decide_eq_true_eq, Bool.not_eq_true'] at h
  obtain ⟨⟨⟨⟨⟨⟨hfork, hsetsid⟩, hchdir⟩, hopen⟩, hsignals⟩, hmq⟩, hgetattr⟩ := h
  simp only [loggingMain, daemonInit, hfork, hsetsid, hchdir, hopen, hsignals, loggingIpcInit, hmq,
    hgetattr, require]
  rfl

/-- When `main` of one of the two daemons returns, everything that it has opened beyond the standard
descriptors is closed, unless it is `loggingd` and `mq_getattr` has failed. -/
theorem returns_clean_iff (receiver : Receiver) (t : Table File) (sys : receiver.Calls)
    (t' : Table File)
    (h : receiver.main t sys = .error (.failed t') ∨ receiver.main t sys = .ok t') :
    (∀ n, 2 < n → t'.file n = t.file n) ↔ receiver.getattrFails sys = false := by
  have hclean : Ends (receiver.main t sys) (Stop.Clean t) (fun t' => Stop.Clean t (.failed t')) →
      ∀ n, 2 < n → t'.file n = t.file n := by
    intro hends
    rcases h with h | h
    · exact hends.of_error h
    · exact hends.of_ok h
  cases receiver with
  | processingd => exact iff_of_true (hclean (processingMain_ends t sys)) rfl
  | loggingd =>
    obtain ⟨sys, passes⟩ := sys
    cases hfails : Receiver.getattrFails .loggingd (sys, passes) with
    | false => exact iff_of_true (hclean (loggingMain_ends t hfails)) rfl
    | true =>
      refine iff_of_false (fun hsame => ?_) Bool.noConfusion
      have hmain : Receiver.main t .loggingd (sys, passes) = _ :=
        loggingMain_of_getattrFails t hfails
      rw [hmain] at h
      obtain rfl : (redirect t).openFile .queue = t' := by
        rcases h with h | h
        · exact Stop.failed.inj (Except.error.inj h)
        · cases h
      -- the queue has a number that was free before
      have hlt : 2 < (redirect t).lowest := (redirected t).lt_of_free (Table.file_lowest _)
      have hqueue := hsame _ hlt
      rw [Table.file_openFile_lowest, ← (redirected t).rest _ hlt, Table.file_lowest] at hqueue
      cases hqueue

/-- A start in which `mq_getattr` fails. -/
theorem returns_clean_iff_getattr :
    let sys : Receiver.Calls .loggingd :=
      (⟨⟨.child, true, true, true⟩, true, true, false, true⟩, [])
    ∃ t', Receiver.main Table.empty .loggingd sys = .error (.failed t') ∧
      ¬ ∀ n, 2 < n → t'.file n = Table.empty.file n := by
  intro sys
  obtain ⟨t', ht'⟩ : ∃ t', Receiver.main Table.empty .loggingd sys = .error (.failed t') := ⟨_, rfl⟩
  refine ⟨t', ht', fun hsame => ?_⟩
  have hfails := (returns_clean_iff .loggingd Table.empty sys t' (Or.inl ht')).mp hsame
  cases hfails

end Lifetimes
end Gateway
