import Gateway.Queues
import Gateway.Lib.QueueSpace

/-!
# Starting, stopping and starting again

The daemons find each other through three named queues.  `acquiringd` makes the first one in its
`ipc_init` and `processingd` the other two, and each daemon that receives opens a queue that must be
there already.  Nothing ever removes a queue, so a daemon can end at any time and be started again,
and it goes on with the messages that it finds.

Any number of processes run the four programs here; an action is one call of one of them, in any
order.

* `Program.ipcInit`: the calls of the four functions `ipc_init`, in order;
* `Sound`: what holds in every state of a run that starts without any queue;
* `deployment_sound`: no receive and no send ever fails for the size of a message, and no message of
  a wrong length is received;
* `start_fails_iff`: a start fails only where it opens a queue that no process has made yet.
-/

namespace Gateway
namespace Startup

open MessageQueue Queues

/-- The queues: `"/mq-acquire-process"`, `"/mq-process-log"` and `"/mq-process-telemetry"`. -/
inductive QueueName
  | acquireProcess
  | processLog
  | processTelemetry
  deriving DecidableEq

inductive Program
  | acquiringd
  | processingd
  | loggingd
  | telemetryd
  deriving DecidableEq

/-! ### `ipc_init` -/

/-- The calls in `ipc_init`: `mq_open`, with the attributes if it may make the queue, and the look
at the attribute `mq_msgsize`. -/
inductive Call
  | mqOpen (name : QueueName) (create : Option Attr)
  | mqGetattr (name : QueueName) (tooSmall : ℤ → Bool)

namespace Program

/-- The attributes of the queue of `acquiringd`. -/
def attr : Attr := ⟨10, packetSize⟩

/-- The attributes of the two queues of `processingd`, where a frame has `sensorSize` bytes. -/
def txAttr (sensorSize : ℕ) : Attr := ⟨10, sensorSize⟩

/-- The calls of `ipc_init`, in order; the first that fails ends the program. -/
def ipcInit (sensorSize : ℕ) : Program → List Call
  | .acquiringd => [.mqOpen .acquireProcess (some attr)]
  | .processingd =>
      [.mqOpen .acquireProcess none, .mqGetattr .acquireProcess fun size => size < packetSize,
        .mqOpen .processLog (some (txAttr sensorSize)),
        .mqOpen .processTelemetry (some (txAttr sensorSize))]
  | .loggingd =>
      [.mqOpen .processLog none,
        .mqGetattr .processLog fun size => size < 0 ∨ size.toNat < sensorSize]
  | .telemetryd =>
      [.mqOpen .processTelemetry none,
        .mqGetattr .processTelemetry fun size => size < 0 ∨ size.toNat < sensorSize]

/-- How a program receives, if it does. -/
def daemon? : Program → Option Daemon
  | .acquiringd => none
  | .processingd => some .processingd
  | .loggingd => some .loggingd
  | .telemetryd => some .telemetryd

end Program

/-- The queue that a daemon receives from. -/
def rxQueue : Daemon → QueueName
  | .processingd => .acquireProcess
  | .loggingd => .processLog
  | .telemetryd => .processTelemetry

/-- A call, which may also fail for a reason of the system. -/
def Call.exec (sp : Space QueueName) (fails : Bool) : Call → Option (Space QueueName)
  | .mqOpen name (some attr) => if fails then none else some (sp.create name attr)
  | .mqOpen name none => if fails then none else if (sp name).isSome then some sp else none
  | .mqGetattr name tooSmall =>
      match sp name with
      | none => none
      | some n => if fails ∨ tooSmall n.queue.msgSize then none else some sp

/-! ### Processes -/

/-- Where a process stands: not there, in `ipc_init` with calls left, or past it. -/
inductive Stage
  | down
  | starting (calls : List Call)
  | running

/-- A packet as `forwardPacket` sends it. -/
abbrev Packet := { m : List UInt8 // IsPacket m }

/-- The bytes of a frame as `forwardFrame` sends it. -/
abbrev FrameImage (sensorSize : ℕ) := { m : List UInt8 // m.length = sensorSize }

section Processes

variable {π : Type} [DecidableEq π] (sensorSize : ℕ) (program : π → Program)

/-- What the processes do: a start, a call of `ipc_init`, a send, a receive, and an end at any
point for any reason. -/
inductive Action (π : Type) (sensorSize : ℕ)
  | start (p : π)
  | call (p : π) (fails : Bool)
  | forwardPacket (p : π) (packet : Packet)
  | forwardLog (p : π) (frame : FrameImage sensorSize)
  | forwardTelemetry (p : π) (frame : FrameImage sensorSize)
  | receive (p : π) (interruptions : List Bool)
  | exit (p : π)

structure State (π : Type) where
  space : Space QueueName
  stage : π → Stage

namespace State

variable {π : Type} [DecidableEq π]

def setStage (s : State π) (p : π) (stage : Stage) : State π :=
  { s with stage := Function.update s.stage p stage }

/-- `mq_send` to a queue. -/
def send (s : State π) (name : QueueName) (m : List UInt8) : State π :=
  match s.space name with
  | none => s
  | some n =>
      match n.send m with
      | .sent rest => { s with space := s.space.set name rest }
      | _ => s

/-- `receivePacket` or `receiveFrame`. -/
def receive (sensorSize : ℕ) (s : State π) (d : Daemon) (interruptions : List Bool) : State π :=
  match s.space (rxQueue d) with
  | none => s
  | some n =>
      match d.receive sensorSize n.queue interruptions with
      | .received _ rest => { s with space := s.space.set (rxQueue d) { n with queue := rest } }
      | _ => s

/-- The next call of `ipc_init`. -/
def call (s : State π) (p : π) (fails : Bool) : State π :=
  match s.stage p with
  | .starting (c :: rest) =>
      match c.exec s.space fails with
      | none => s.setStage p .down
      | some space =>
          { s.setStage p (if rest.isEmpty then .running else .starting rest) with space := space }
  | _ => s

/-- The process is past `ipc_init`. -/
def Running (s : State π) (p : π) : Prop := s.stage p = .running

end State

/-- One action of a process.  A send or a receive is one of a process that is past `ipc_init` and
runs the program that makes it. -/
def step (s : State π) : Action π sensorSize → State π
  | .start p =>
      match s.stage p with
      | .down => s.setStage p (.starting ((program p).ipcInit sensorSize))
      | _ => s
  | .call p fails => s.call p fails
  | .forwardPacket p packet =>
      match s.stage p, program p with
      | .running, .acquiringd => s.send .acquireProcess packet.1
      | _, _ => s
  | .forwardLog p frame =>
      match s.stage p, program p with
      | .running, .processingd => s.send .processLog frame.1
      | _, _ => s
  | .forwardTelemetry p frame =>
      match s.stage p, program p with
      | .running, .processingd => s.send .processTelemetry frame.1
      | _, _ => s
  | .receive p interruptions =>
      match s.stage p, (program p).daemon? with
      | .running, some d => s.receive sensorSize d interruptions
      | _, _ => s
  | .exit p => s.setStage p .down

/-- No queue and no process. -/
def init : State π := ⟨Space.empty, fun _ => .down⟩

def run (acts : List (Action π sensorSize)) : State π := acts.foldl (step sensorSize program) init

/-! ### What a step does to the queues -/

/-- The attributes that a queue should have. -/
def spec : QueueName → Attr
  | .acquireProcess => Program.attr
  | .processLog => Program.txAttr sensorSize
  | .processTelemetry => Program.txAttr sensorSize

/-- The messages that belong on a queue. -/
def Ok : QueueName → List UInt8 → Prop
  | .acquireProcess => fun m => IsPacket m
  | .processLog => fun m => m.length = sensorSize
  | .processTelemetry => fun m => m.length = sensorSize

def Call.name : Call → QueueName
  | .mqOpen name _ => name
  | .mqGetattr name _ => name

variable {sensorSize program} {s t : State π} {a : Action π sensorSize}

/-- Every program makes its queues with the same attributes. -/
theorem create_ipcInit {pr : Program} {name : QueueName} {attr : Attr}
    (h : Call.mqOpen name (some attr) ∈ pr.ipcInit sensorSize) : attr = spec sensorSize name := by
  cases pr with
  | acquiringd =>
    simp only [Program.ipcInit, List.mem_singleton, Call.mqOpen.injEq, Option.some.injEq] at h
    rw [h.1, h.2]
    rfl
  | processingd =>
    simp only [Program.ipcInit, List.mem_cons, Call.mqOpen.injEq, Option.some.injEq, reduceCtorEq,
      and_false, List.not_mem_nil, or_false, false_or] at h
    rcases h with ⟨rfl, rfl⟩ | ⟨rfl, rfl⟩
    · rfl
    · rfl
  | loggingd => simp [Program.ipcInit] at h
  | telemetryd => simp [Program.ipcInit] at h

/-- A call that succeeds leaves its queue there, and makes it if it was not. -/
theorem Call.exec_eq_some {sp sp' : Space QueueName} {fails : Bool} {c : Call}
    (h : c.exec sp fails = some sp') :
    fails = false ∧ (sp' c.name).isSome = true ∧
      (sp' = sp ∨ ∃ attr, c = .mqOpen c.name (some attr) ∧ sp' = sp.create c.name attr) := by
  cases c with
  | mqOpen name create =>
    cases create with
    | some attr =>
      simp only [Call.exec] at h
      split_ifs at h with hfails
      obtain rfl := Option.some.inj h
      refine ⟨by simpa using hfails, ?_, Or.inr ⟨attr, rfl, rfl⟩⟩
      exact (Space.isSome_create attr).mpr (Or.inr rfl)
    | none =>
      simp only [Call.exec] at h
      split_ifs at h with hfails hsome
      obtain rfl := Option.some.inj h
      exact ⟨by simpa using hfails, hsome, Or.inl rfl⟩
  | mqGetattr name tooSmall =>
    simp only [Call.exec] at h
    split at h
    · cases h
    · rename_i n hn
      split_ifs at h with hbad
      obtain rfl := Option.some.inj h
      refine ⟨?_, ?_, Or.inl rfl⟩
      · cases fails with
        | false => rfl
        | true => exact absurd (Or.inl rfl) hbad
      · rw [Call.name, hn]
        rfl

/-- The effects of a step on the queues, each with its guard. -/
inductive Touched (sensorSize : ℕ) (s : State π) : Action π sensorSize → Space QueueName → Prop
  | stay (a : Action π sensorSize) : Touched sensorSize s a s.space
  | create (p : π) (name : QueueName) (attr : Attr) (rest : List Call)
      (hstage : s.stage p = .starting (.mqOpen name (some attr) :: rest)) :
      Touched sensorSize s (.call p false) (s.space.create name attr)
  | send (a : Action π sensorSize) (name : QueueName) (n rest : Node) (m : List UInt8)
      (hn : s.space name = some n) (hm : Ok sensorSize name m) (hsent : n.send m = .sent rest) :
      Touched sensorSize s a (s.space.set name rest)
  | receive (a : Action π sensorSize) (name : QueueName) (n : Node) (hn : s.space name = some n) :
      Touched sensorSize s a (s.space.set name { n with queue := n.queue.tail })

omit [DecidableEq π] in
theorem touched_send (a : Action π sensorSize) {name : QueueName} {m : List UInt8}
    (hm : Ok sensorSize name m) : Touched sensorSize s a (s.send name m).space := by
  unfold State.send
  split
  · exact .stay a
  · rename_i n hn
    split
    · rename_i rest hsent
      exact .send a name n rest m hn hm hsent
    · exact .stay a

omit [DecidableEq π] in
theorem touched_receive (a : Action π sensorSize) (d : Daemon) (interruptions : List Bool) :
    Touched sensorSize s a (s.receive sensorSize d interruptions).space := by
  unfold State.receive
  split
  · exact .stay a
  · rename_i n hn
    split
    · rename_i m rest hreceived
      rw [receive_eq] at hreceived
      obtain ⟨-, rfl⟩ := receiveRetry_eq_received hreceived
      exact .receive a (rxQueue d) n hn
    · exact .stay a

theorem touched_call (p : π) (fails : Bool) :
    Touched sensorSize s (.call p fails) (s.call p fails).space := by
  unfold State.call
  split
  · rename_i c rest hstage
    split
    · exact .stay _
    · rename_i space hexec
      obtain ⟨rfl, -, hspace | ⟨attr, hc, hspace⟩⟩ := Call.exec_eq_some hexec
      · rw [hspace]
        exact .stay _
      · rw [hspace]
        rw [hc] at hstage
        exact .create p c.name attr rest hstage
  · exact .stay _

theorem step_touched (program : π → Program) (s : State π) (a : Action π sensorSize) :
    Touched sensorSize s a (step sensorSize program s a).space := by
  cases a with
  | start p =>
    simp only [step]
    split
    · exact .stay _
    · exact .stay _
  | call p fails => exact touched_call p fails
  | forwardPacket p packet =>
    simp only [step]
    split
    · exact touched_send _ packet.2
    · exact .stay _
  | forwardLog p frame =>
    simp only [step]
    split
    · exact touched_send _ frame.2
    · exact .stay _
  | forwardTelemetry p frame =>
    simp only [step]
    split
    · exact touched_send _ frame.2
    · exact .stay _
  | receive p interruptions =>
    simp only [step]
    split
    · exact touched_receive _ _ interruptions
    · exact .stay _
  | exit p => exact .stay _

namespace Touched

variable {sp : Space QueueName}

omit [DecidableEq π] in
/-- No queue ever goes away. -/
theorem isSome (h : Touched sensorSize s a sp) {name : QueueName}
    (hsome : (s.space name).isSome = true) : (sp name).isSome = true := by
  cases h with
  | stay => exact hsome
  | create p name' attr rest hstage => exact (Space.isSome_create attr).mpr (Or.inl hsome)
  | send _ name' n rest m hn hm hsent => rwa [Space.isSome_set (by rw [hn]; rfl)]
  | receive _ name' n hn => rwa [Space.isSome_set (by rw [hn]; rfl)]

omit [DecidableEq π] in
/-- A new queue was made by a call that is there for it. -/
theorem isSome_or (h : Touched sensorSize s a sp) {name : QueueName}
    (hsome : (sp name).isSome = true) :
    (s.space name).isSome = true ∨ ∃ p attr rest, a = .call p false ∧
      s.stage p = .starting (.mqOpen name (some attr) :: rest) := by
  cases h with
  | stay => exact Or.inl hsome
  | create p name' attr rest hstage =>
    rcases (Space.isSome_create attr).mp hsome with hold | rfl
    · exact Or.inl hold
    · exact Or.inr ⟨p, attr, rest, rfl, hstage⟩
  | send _ name' n rest m hn hm hsent =>
    rw [Space.isSome_set (by rw [hn]; rfl)] at hsome
    exact Or.inl hsome
  | receive _ name' n hn =>
    rw [Space.isSome_set (by rw [hn]; rfl)] at hsome
    exact Or.inl hsome

end Touched

/-! ### What holds in every state -/

/-- A process has made or found the queues of the calls that it has behind it. -/
def Progress (sensorSize : ℕ) (sp : Space QueueName) (pr : Program) : Stage → Prop
  | .down => True
  | .starting calls => ∃ behind, pr.ipcInit sensorSize = behind ++ calls ∧ calls ≠ [] ∧
      ∀ c ∈ behind, (sp c.name).isSome = true
  | .running => ∀ c ∈ pr.ipcInit sensorSize, (sp c.name).isSome = true

structure Sound (sensorSize : ℕ) (program : π → Program) (s : State π) : Prop where
  fits : Space.Fits (spec sensorSize) (Ok sensorSize) s.space
  progress : ∀ p, Progress sensorSize s.space (program p) (s.stage p)

theorem Progress.mono {sp sp' : Space QueueName} {pr : Program} {stage : Stage}
    (h : Progress sensorSize sp pr stage)
    (hmono : ∀ name, (sp name).isSome = true → (sp' name).isSome = true) :
    Progress sensorSize sp' pr stage := by
  cases stage with
  | down => trivial
  | starting calls =>
    obtain ⟨behind, hcalls, hne, hsome⟩ := h
    exact ⟨behind, hcalls, hne, fun c hc => hmono _ (hsome c hc)⟩
  | running => exact fun c hc => hmono _ (h c hc)

theorem ipcInit_ne_nil (sensorSize : ℕ) (pr : Program) : pr.ipcInit sensorSize ≠ [] := by
  cases pr with
  | _ => exact List.cons_ne_nil _ _

/-- A call brings a process forward. -/
theorem Progress.call {sp sp' : Space QueueName} {pr : Program} {c : Call} {rest : List Call}
    {fails : Bool} (h : Progress sensorSize sp pr (.starting (c :: rest)))
    (hexec : c.exec sp fails = some sp')
    (hmono : ∀ name, (sp name).isSome = true → (sp' name).isSome = true) :
    Progress sensorSize sp' pr (if rest.isEmpty then .running else .starting rest) := by
  obtain ⟨behind, hcalls, -, hsome⟩ := h
  obtain ⟨-, hc, -⟩ := Call.exec_eq_some hexec
  have hbehind : ∀ c' ∈ behind ++ [c], (sp' c'.name).isSome = true := by
    intro c' hc'
    rcases List.mem_append.mp hc' with hc' | hc'
    · exact hmono _ (hsome c' hc')
    · rw [List.mem_singleton.mp hc']
      exact hc
  cases rest with
  | nil =>
    intro c' hc'
    rw [hcalls] at hc'
    exact hbehind c' hc'
  | cons c' rest => exact ⟨behind ++ [c], by rw [hcalls]; simp, List.cons_ne_nil _ _, hbehind⟩

omit [DecidableEq π] in
theorem stage_send (s : State π) (name : QueueName) (m : List UInt8) :
    (s.send name m).stage = s.stage := by
  unfold State.send
  split
  · rfl
  · split
    · rfl
    · rfl

omit [DecidableEq π] in
theorem stage_receive (s : State π) (d : Daemon) (interruptions : List Bool) :
    (s.receive sensorSize d interruptions).stage = s.stage := by
  unfold State.receive
  split
  · rfl
  · split
    · rfl
    · rfl

theorem stage_setStage (s : State π) (p q : π) (stage : Stage) :
    (s.setStage p stage).stage q = if q = p then stage else s.stage q := by
  exact Function.update_apply s.stage p stage q

/-- The stage of a process changes by a start, a call, or the end. -/
theorem stage_step (program : π → Program) (s : State π) (a : Action π sensorSize) (p : π) :
    (step sensorSize program s a).stage p = s.stage p ∨
      (step sensorSize program s a).stage p = .down ∨
      (step sensorSize program s a).stage p = .starting ((program p).ipcInit sensorSize) ∨
      ∃ c rest fails, s.stage p = .starting (c :: rest) ∧
        c.exec s.space fails = some (step sensorSize program s a).space ∧
        (step sensorSize program s a).stage p =
          if rest.isEmpty then .running else .starting rest := by
  cases a with
  | start q =>
    simp only [step]
    split
    · rw [stage_setStage]
      split_ifs with hp
      · subst hp
        exact Or.inr (Or.inr (Or.inl rfl))
      · exact Or.inl rfl
    · exact Or.inl rfl
  | call q fails =>
    simp only [step, State.call]
    split
    · rename_i c rest hstage
      split
      · rw [stage_setStage]
        split_ifs with hp
        · exact Or.inr (Or.inl rfl)
        · exact Or.inl rfl
      · rename_i space hexec
        by_cases hp : p = q
        · subst hp
          refine Or.inr (Or.inr (Or.inr ⟨c, rest, fails, hstage, hexec, ?_⟩))
          rw [stage_setStage, if_pos rfl]
        · left
          rw [stage_setStage, if_neg hp]
    · exact Or.inl rfl
  | forwardPacket q packet =>
    simp only [step]
    split
    · rw [stage_send]
      exact Or.inl rfl
    · exact Or.inl rfl
  | forwardLog q frame =>
    simp only [step]
    split
    · rw [stage_send]
      exact Or.inl rfl
    · exact Or.inl rfl
  | forwardTelemetry q frame =>
    simp only [step]
    split
    · rw [stage_send]
      exact Or.inl rfl
    · exact Or.inl rfl
  | receive q interruptions =>
    simp only [step]
    split
    · rw [stage_receive]
      exact Or.inl rfl
    · exact Or.inl rfl
  | exit q =>
    simp only [step]
    rw [stage_setStage]
    split_ifs with hp
    · exact Or.inr (Or.inl rfl)
    · exact Or.inl rfl

omit [DecidableEq π] in
/-- The calls that a process has left are calls of its `ipc_init`. -/
theorem Sound.create_eq (h : Sound sensorSize program s) {p : π} {name : QueueName} {attr : Attr}
    {rest : List Call} (hstage : s.stage p = .starting (.mqOpen name (some attr) :: rest)) :
    attr = spec sensorSize name := by
  have hprogress := h.progress p
  rw [hstage] at hprogress
  obtain ⟨behind, hcalls, -⟩ := hprogress
  have hmem : Call.mqOpen name (some attr) ∈ (program p).ipcInit sensorSize := by
    rw [hcalls]
    exact List.mem_append_right _ List.mem_cons_self
  exact create_ipcInit hmem

omit [DecidableEq π] in
theorem Sound.fits_of_touched (h : Sound sensorSize program s) {sp : Space QueueName}
    (ht : Touched sensorSize s a sp) : Space.Fits (spec sensorSize) (Ok sensorSize) sp := by
  cases ht with
  | stay => exact h.fits
  | create p name attr rest hstage =>
    rw [h.create_eq hstage]
    exact h.fits.create name
  | send _ name n rest m hn hm hsent => exact h.fits.send hn hm hsent
  | receive _ name n hn => exact h.fits.tail hn

theorem Sound.step (h : Sound sensorSize program s) (a : Action π sensorSize) :
    Sound sensorSize program (step sensorSize program s a) := by
  have htouched := step_touched program s a
  refine ⟨h.fits_of_touched htouched, ?_⟩
  · intro p
    have hprogress := h.progress p
    rcases stage_step program s a p with hstay | hdown | hstart | ⟨c, rest, fails, hc, hexec, hnext⟩
    · rw [hstay]
      exact hprogress.mono fun name hname => htouched.isSome hname
    · rw [hdown]
      trivial
    · rw [hstart]
      exact ⟨[], rfl, ipcInit_ne_nil sensorSize (program p), by simp⟩
    · rw [hc] at hprogress
      rw [hnext]
      exact hprogress.call hexec fun name hname => htouched.isSome hname

theorem sound_run (sensorSize : ℕ) (program : π → Program) (acts : List (Action π sensorSize)) :
    Sound sensorSize program (run sensorSize program acts) := by
  induction acts using List.reverseRecOn with
  | nil => exact ⟨Space.fits_empty, fun _ => trivial⟩
  | append_singleton acts a ih =>
    rw [run, List.foldl_concat]
    exact ih.step a

/-! ### No message of a wrong size -/

/-- What a daemon relies on in what it receives: `processingd` on a length that `receivePacket` lets
through, the others on the length of a frame. -/
def Expects (sensorSize : ℕ) (m : List UInt8) : Daemon → Prop
  | .processingd => Processing.receivePacket m = some m
  | .loggingd => m.length = sensorSize
  | .telemetryd => m.length = sensorSize

theorem expects_of_ok {d : Daemon} {m : List UInt8} (h : Ok sensorSize (rxQueue d) m) :
    Expects sensorSize m d := by
  cases d with
  | processingd =>
    have hpacket : IsPacket m := h
    rw [Expects, Processing.receivePacket, if_neg (not_lt.mpr hpacket.header_le),
      if_neg (not_lt.mpr hpacket.length_le)]
  | loggingd => exact h
  | telemetryd => exact h

theorem msgSize_spec (d : Daemon) :
    (spec sensorSize (rxQueue d)).msgSize = d.bufferSize sensorSize := by
  cases d with
  | _ => rfl

theorem rxQueue_mem_ipcInit (sensorSize : ℕ) {pr : Program} {d : Daemon}
    (h : pr.daemon? = some d) :
    ∃ rest, pr.ipcInit sensorSize = .mqOpen (rxQueue d) none :: rest := by
  cases pr with
  | acquiringd => cases h
  | processingd =>
    obtain rfl := Option.some.inj h
    exact ⟨_, rfl⟩
  | loggingd =>
    obtain rfl := Option.some.inj h
    exact ⟨_, rfl⟩
  | telemetryd =>
    obtain rfl := Option.some.inj h
    exact ⟨_, rfl⟩

/-- The queues that a program sends to. -/
def Program.txQueues : Program → List QueueName
  | .acquiringd => [.acquireProcess]
  | .processingd => [.processLog, .processTelemetry]
  | _ => []

omit [DecidableEq π] in
theorem Sound.exists_rx (h : Sound sensorSize program s) {p : π} (hp : s.Running p) {d : Daemon}
    (hd : (program p).daemon? = some d) : ∃ n, s.space (rxQueue d) = some n := by
  have hprogress := h.progress p
  rw [hp] at hprogress
  obtain ⟨rest, hinit⟩ := rxQueue_mem_ipcInit sensorSize hd
  have hsome := hprogress (.mqOpen (rxQueue d) none) (by rw [hinit]; exact List.mem_cons_self)
  exact Option.isSome_iff_exists.mp hsome

omit [DecidableEq π] in
theorem Sound.exists_tx (h : Sound sensorSize program s) {p : π} (hp : s.Running p)
    {name : QueueName} (hname : name ∈ (program p).txQueues) : ∃ n, s.space name = some n := by
  have hprogress := h.progress p
  rw [hp] at hprogress
  have hcall : ∃ c ∈ (program p).ipcInit sensorSize, c.name = name := by
    cases hpr : program p with
    | acquiringd =>
      rw [hpr] at hname
      obtain rfl := List.mem_singleton.mp hname
      exact ⟨_, List.mem_singleton.mpr rfl, rfl⟩
    | processingd =>
      rw [hpr] at hname
      refine ⟨.mqOpen name (some (Program.txAttr sensorSize)), ?_, rfl⟩
      simp only [Program.txQueues, List.mem_cons, List.not_mem_nil, or_false] at hname
      rcases hname with rfl | rfl
      · simp [Program.ipcInit]
      · simp [Program.ipcInit]
    | loggingd =>
      rw [hpr] at hname
      cases hname
    | telemetryd =>
      rw [hpr] at hname
      cases hname
  obtain ⟨c, hc, rfl⟩ := hcall
  exact Option.isSome_iff_exists.mp (hprogress c hc)

/-- **No message is ever too long or too short.**  Any processes run the four programs; they are
started, end and are started again in any order, and their calls come in any order.  In every state
reached from a system without queues: every queue has the attributes of its maker and holds no more
than ten messages; a process past `ipc_init` has the queues it uses; its receives never fail with
`EMSGSIZE`, and what it receives has a length that its checks let through; and no send of a packet
or a frame is refused for its length. -/
theorem deployment_sound (sensorSize : ℕ) (program : π → Program)
    (acts : List (Action π sensorSize)) :
    let s := run sensorSize program acts
    (∀ name n, s.space name = some n → n.maxMsg = 10 ∧
      n.queue.msgSize = (spec sensorSize name).msgSize ∧ n.queue.messages.length ≤ 10) ∧
    (∀ p d, s.Running p → (program p).daemon? = some d → ∃ n, s.space (rxQueue d) = some n ∧
      ∀ interruptions, (∀ errno, d.receive sensorSize n.queue interruptions ≠ .failed errno) ∧
        ∀ m rest, d.receive sensorSize n.queue interruptions = .received m rest →
          Expects sensorSize m d) ∧
    ∀ p, s.Running p → ∀ name ∈ (program p).txQueues, ∃ n, s.space name = some n ∧
      ∀ m, Ok sensorSize name m → n.send m ≠ .emsgsize := by
  intro s
  have hsound : Sound sensorSize program s := sound_run sensorSize program acts
  refine ⟨?_, ?_, ?_⟩
  · intro name n hn
    obtain ⟨hmax, hsize, hlength, -⟩ := hsound.fits name n hn
    have hten : (spec sensorSize name).maxMsg = 10 := by
      cases name with
      | _ => rfl
    rw [hten] at hmax hlength
    exact ⟨hmax, hsize, hlength⟩
  · intro p d hp hd
    obtain ⟨n, hn⟩ := hsound.exists_rx hp hd
    obtain ⟨-, hsize, -, hok⟩ := hsound.fits _ n hn
    refine ⟨n, hn, fun interruptions => ?_⟩
    rw [msgSize_spec] at hsize
    rw [receive_eq]
    refine ⟨receiveRetry_ne_failed hsize.le interruptions, fun m rest hreceived => ?_⟩
    exact expects_of_ok (hok m (receiveRetry_eq_received hreceived).1)
  · intro p hp name hname
    obtain ⟨n, hn⟩ := hsound.exists_tx hp hname
    obtain ⟨-, hsize, -, -⟩ := hsound.fits _ n hn
    refine ⟨n, hn, fun m hm hlong => ?_⟩
    -- a packet is at most as long as the buffer of `acquiringd`, a frame has the size of the queue
    have hle : (m.length : ℤ) ≤ n.queue.msgSize := by
      rw [hsize]
      cases name with
      | acquireProcess => exact Int.ofNat_le.mpr (IsPacket.length_le hm)
      | processLog => exact Int.ofNat_le.mpr (le_of_eq hm)
      | processTelemetry => exact Int.ofNat_le.mpr (le_of_eq hm)
    unfold Node.send at hlong
    rw [if_neg (not_lt.mpr hle)] at hlong
    split_ifs at hlong

/-! ### When a start fails -/

/-- Along the run a process has got through the call that makes the queue. -/
def Made (program : π → Program) (acts : List (Action π sensorSize)) (name : QueueName) : Prop :=
  ∃ pre post p attr rest, acts = pre ++ .call p false :: post ∧
    (run sensorSize program pre).stage p = .starting (.mqOpen name (some attr) :: rest)

/-- A queue that is there stays there. -/
theorem isSome_foldl (program : π → Program) {name : QueueName}
    (acts : List (Action π sensorSize)) (h : (s.space name).isSome = true) :
    ((acts.foldl (step sensorSize program) s).space name).isSome = true := by
  induction acts generalizing s with
  | nil => exact h
  | cons a acts ih => exact ih ((step_touched program s a).isSome h)

/-- A queue is there exactly when a process has made it. -/
theorem isSome_iff_made {acts : List (Action π sensorSize)} {name : QueueName} :
    ((run sensorSize program acts).space name).isSome = true ↔ Made program acts name := by
  constructor
  · induction acts using List.reverseRecOn with
    | nil =>
      intro h
      cases h
    | append_singleton acts a ih =>
      intro h
      rw [run, List.foldl_concat] at h
      rcases (step_touched program _ a).isSome_or h with hold | ⟨p, attr, rest, rfl, hstage⟩
      · obtain ⟨pre, post, p, attr, rest, rfl, hstage⟩ := ih hold
        exact ⟨pre, post ++ [a], p, attr, rest, by simp, hstage⟩
      · exact ⟨acts, [], p, attr, rest, rfl, hstage⟩
  · rintro ⟨pre, post, p, attr, rest, rfl, hstage⟩
    rw [run, List.foldl_append, List.foldl_cons]
    refine isSome_foldl program post ?_
    have hstep : (step sensorSize program (run sensorSize program pre) (.call p false)).space =
        (run sensorSize program pre).space.create name attr := by
      simp only [step, State.call, hstage, Call.exec, Bool.false_eq_true, if_false]
    rw [run] at hstep
    rw [hstep]
    exact (Space.isSome_create attr).mpr (Or.inr rfl)

/-- The queue that a program opens is the one it receives from, and it does so first of all. -/
theorem open_ipcInit {pr : Program} {name : QueueName} {behind rest : List Call}
    (h : pr.ipcInit sensorSize = behind ++ .mqOpen name none :: rest) :
    behind = [] ∧ ∃ d, pr.daemon? = some d ∧ name = rxQueue d := by
  cases behind with
  | nil =>
    cases pr with
    | acquiringd => simp [Program.ipcInit] at h
    | processingd => exact ⟨rfl, .processingd, rfl, by simp_all [Program.ipcInit, rxQueue]⟩
    | loggingd => exact ⟨rfl, .loggingd, rfl, by simp_all [Program.ipcInit, rxQueue]⟩
    | telemetryd => exact ⟨rfl, .telemetryd, rfl, by simp_all [Program.ipcInit, rxQueue]⟩
  | cons c behind =>
    have hmem : Call.mqOpen name none ∈ (pr.ipcInit sensorSize).tail := by
      rw [h]
      simp
    cases pr with
    | _ => simp [Program.ipcInit] at hmem

/-- The attribute that a program looks at is that of the queue it has opened before. -/
theorem getattr_ipcInit {pr : Program} {name : QueueName} {tooSmall : ℤ → Bool}
    {behind rest : List Call}
    (h : pr.ipcInit sensorSize = behind ++ .mqGetattr name tooSmall :: rest) :
    tooSmall (spec sensorSize name).msgSize = false ∧ ∃ c ∈ behind, c.name = name := by
  have hmem : Call.mqGetattr name tooSmall ∈ pr.ipcInit sensorSize := by
    rw [h]
    exact List.mem_append_right _ List.mem_cons_self
  have hhead := congrArg List.head? h
  cases behind with
  | nil =>
    cases pr with
    | _ => simp [Program.ipcInit] at hhead
  | cons c behind =>
    refine ⟨?_, c, List.mem_cons_self, ?_⟩
    · cases pr with
      | acquiringd => simp [Program.ipcInit] at hmem
      | _ =>
        simp only [Program.ipcInit, List.mem_cons, Call.mqGetattr.injEq, reduceCtorEq, false_or,
          List.not_mem_nil, or_false] at hmem
        obtain ⟨rfl, rfl⟩ := hmem
        simp [spec, Program.attr, Program.txAttr]
    · cases pr with
      | acquiringd => simp [Program.ipcInit] at hmem
      | _ =>
        simp only [Program.ipcInit, List.mem_cons, Call.mqGetattr.injEq, reduceCtorEq, false_or,
          List.not_mem_nil, or_false] at hmem
        simp only [Program.ipcInit, List.head?_cons, List.cons_append, Option.some.injEq] at hhead
        rw [← hhead, hmem.1]
        rfl

/-- A call that the system lets through fails only where it opens a queue that is not there. -/
theorem exec_eq_none_iff {pr : Program} {c : Call} {behind rest : List Call}
    {sp : Space QueueName} (hfits : Space.Fits (spec sensorSize) (Ok sensorSize) sp)
    (hcalls : pr.ipcInit sensorSize = behind ++ c :: rest)
    (hbehind : ∀ c ∈ behind, (sp c.name).isSome = true) :
    c.exec sp false = none ↔
      behind = [] ∧ ∃ d, pr.daemon? = some d ∧ sp (rxQueue d) = none := by
  cases c with
  | mqOpen name create =>
    cases create with
    | some attr =>
      refine iff_of_false (by simp [Call.exec]) ?_
      rintro ⟨rfl, d, hd, -⟩
      obtain ⟨rest', hinit⟩ := rxQueue_mem_ipcInit sensorSize hd
      rw [hinit] at hcalls
      simp at hcalls
    | none =>
      obtain ⟨rfl, d, hd, rfl⟩ := open_ipcInit hcalls
      have hexec : (Call.mqOpen (rxQueue d) none).exec sp false = none ↔ sp (rxQueue d) = none := by
        simp [Call.exec]
      rw [hexec]
      constructor
      · exact fun hnone => ⟨rfl, d, hd, hnone⟩
      · rintro ⟨-, d', hd', hnone⟩
        obtain rfl := Option.some.inj (hd.symm.trans hd')
        exact hnone
  | mqGetattr name tooSmall =>
    obtain ⟨hsmall, c, hc, rfl⟩ := getattr_ipcInit hcalls
    obtain ⟨n, hn⟩ := Option.isSome_iff_exists.mp (hbehind c hc)
    obtain ⟨-, hsize, -, -⟩ := hfits _ n hn
    refine iff_of_false ?_ ?_
    · simp only [Call.exec, hn, hsize, hsmall]
      simp
    · rintro ⟨rfl, -⟩
      cases hc

/-- A call ends its process exactly when it fails. -/
theorem stage_call_eq_down_iff {p : π} {c : Call} {rest : List Call}
    (hstage : s.stage p = .starting (c :: rest)) :
    (s.call p false).stage p = .down ↔ c.exec s.space false = none := by
  unfold State.call
  rw [hstage]
  dsimp only
  split
  · rename_i hexec
    rw [stage_setStage, if_pos rfl, hexec]
    exact iff_of_true rfl rfl
  · rename_i space hexec
    rw [hexec]
    refine iff_of_false ?_ (by simp)
    rw [stage_setStage, if_pos rfl]
    split_ifs
    · simp
    · simp

/-- **When a start fails.**  In every run of any processes, a process in `ipc_init` whose next call
the system lets through ends there exactly when the call is its first one and opens a queue that no
process has made yet.  So a process that has once been past `ipc_init` gets past it again however
often it is started, and once a `processingd` has been there no start of any of the four programs
fails. -/
theorem start_fails_iff (sensorSize : ℕ) (program : π → Program)
    (acts : List (Action π sensorSize)) (p : π) (calls : List Call)
    (hstage : (run sensorSize program acts).stage p = .starting calls) :
    ((run sensorSize program (acts ++ [.call p false])).stage p = .down ↔
      calls = (program p).ipcInit sensorSize ∧
        ∃ d, (program p).daemon? = some d ∧ ¬ Made program acts (rxQueue d)) ∧
    ∀ pre q, pre <+: acts → (run sensorSize program pre).Running q →
      program q = program p ∨ program q = .processingd →
      (run sensorSize program (acts ++ [.call p false])).stage p ≠ .down := by
  have hsound := sound_run sensorSize program acts
  have hprogress := hsound.progress p
  rw [hstage] at hprogress
  obtain ⟨behind, hcalls, hne, hbehind⟩ := hprogress
  obtain ⟨c, rest, rfl⟩ := List.exists_cons_of_ne_nil hne
  -- the calls that the process has behind it found or made their queues, so only the first can fail
  have hdown : (run sensorSize program (acts ++ [.call p false])).stage p = .down ↔
      behind = [] ∧ ∃ d, (program p).daemon? = some d ∧
        (run sensorSize program acts).space (rxQueue d) = none := by
    rw [← exec_eq_none_iff hsound.fits hcalls hbehind, ← stage_call_eq_down_iff hstage, run,
      List.foldl_concat]
    rfl
  refine ⟨?_, ?_⟩
  · rw [hdown]
    refine and_congr ?_ ?_
    · rw [hcalls]
      constructor
      · rintro rfl
        rfl
      · intro h
        exact List.append_left_eq_self.mp h.symm
    · refine exists_congr fun d => and_congr_right fun _ => ?_
      rw [← isSome_iff_made, Bool.not_eq_true, Option.isSome_eq_false_iff,
        Option.isNone_iff_eq_none]
  · rintro pre q ⟨post, rfl⟩ hq hprogram hfails
    obtain ⟨-, d, hd, hnone⟩ := hdown.mp hfails
    have hthere : ((run sensorSize program pre).space (rxQueue d)).isSome = true := by
      have hsound' := sound_run sensorSize program pre
      rcases hprogram with hsame | hprocessingd
      · rw [← hsame] at hd
        exact Option.isSome_iff_exists.mpr (hsound'.exists_rx hq hd)
      · -- `processingd` opens the first queue and makes the other two
        have hpassed := hsound'.progress q
        rw [hq, hprocessingd] at hpassed
        cases d with
        | processingd => exact hpassed (.mqOpen .acquireProcess none) (by simp [Program.ipcInit])
        | loggingd =>
          exact hpassed (.mqOpen .processLog (some (Program.txAttr sensorSize)))
            (by simp [Program.ipcInit])
        | telemetryd =>
          exact hpassed (.mqOpen .processTelemetry (some (Program.txAttr sensorSize)))
            (by simp [Program.ipcInit])
    -- no daemon calls `mq_unlink`
    have hstays := isSome_foldl program post hthere
    rw [run, ← List.foldl_append] at hstays
    rw [run] at hnone
    rw [hnone] at hstays
    cases hstays

/-- Started before anything else has run, `loggingd` does not get past its first call; after
`acquiringd` and `processingd` it does. -/
theorem start_fails_loggingd :
    let program : Program → Program := id
    let start : Program → List (Action Program 80) := fun p =>
      .start p :: List.replicate (p.ipcInit 80).length (.call p false)
    (run 80 program [.start .loggingd, .call .loggingd false]).stage .loggingd = .down ∧
      (run 80 program (start .acquiringd ++ start .processingd ++
        [.start .loggingd, .call .loggingd false])).stage .loggingd ≠ .down := by
  intro program start
  constructor
  · refine (start_fails_iff 80 program [.start .loggingd] .loggingd _ rfl).1.mpr
      ⟨rfl, .loggingd, rfl, ?_⟩
    rw [← isSome_iff_made]
    exact Bool.false_ne_true
  · have hstaged : (run 80 program (start .acquiringd ++ start .processingd ++
        [.start .loggingd])).stage .loggingd = .starting (Program.loggingd.ipcInit 80) := rfl
    have hfails := (start_fails_iff 80 program _ .loggingd _ hstaged).2
      (start .acquiringd ++ start .processingd) .processingd ⟨_, rfl⟩ rfl (Or.inr rfl)
    exact hfails

end Processes

end Startup
end Gateway
