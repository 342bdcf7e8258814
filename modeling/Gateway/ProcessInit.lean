import Gateway.Lib.Descriptors
import Gateway.Lib.Fallible

/-!
# `process_init.c`, and the way to a listening socket

`acquiringd` and `telemetryd` turn themselves into daemons, open their queue and make the socket on
which they listen.  Each of these calls can fail, and what was opened before it has to be closed
then.

* `daemonInit`: `daemon_init`, which points the standard descriptors to `/dev/null`;
* `Server.start`: `main` of the two daemons as far as their loops;
* `start_sound`: a start that fails leaves nothing open, and one that succeeds leaves the queue and
  the socket open, away from the standard descriptors.

A call that can fail is a field of a record that says whether it succeeds.  The descriptor that
`syslog` may open for itself is left out, and so is a failure of `dup2`, which the source ignores.
-/

namespace Gateway
namespace ProcessInit

open Descriptors Fallible

/-- What a descriptor stands for: `client k` is the `k`th connection that was accepted. -/
inductive File
  | devNull
  | queue
  | listener
  | client (k : ℕ)
  | other
  deriving DecidableEq

inductive Fork
  | failed
  | parent
  | child
  deriving DecidableEq

/-- Why a start ends: the parent exits after `fork`, or a function returns `-1` with these
descriptors open. -/
inductive Stop
  | parent
  | failed (table : Table File)

/-- The descriptors beyond the standard ones are as they were in `t`. -/
def Stop.Clean (t : Table File) : Stop → Prop
  | .parent => True
  | .failed t' => ∀ n, 2 < n → t'.file n = t.file n

/-! ### `daemon_init` -/

structure DaemonCalls where
  fork : Fork
  setsid : Bool
  chdir : Bool
  openDevNull : Bool

/-- The standard descriptors are made copies of `devnull`, which is closed unless it is one of
them. -/
def redirect (t : Table File) : Table File :=
  let devnull := t.lowest
  let t := (((t.openFile .devNull).dup2 devnull 0).dup2 devnull 1).dup2 devnull 2
  if devnull > 2 then t.close devnull else t

def daemonInit (t : Table File) (sys : DaemonCalls) : Except Stop (Table File) :=
  match sys.fork with
  | .failed => .error (.failed t)
  | .parent => .error .parent
  | .child => do
      require sys.setsid (.failed t)
      require sys.chdir (.failed t)
      require sys.openDevNull (.failed t)
      return redirect t

variable {t t' : Table File}

/-- What the descriptors stand for once the standard ones are redirected. -/
structure Redirected (t t' : Table File) : Prop where
  std : ∀ n, n ≤ 2 → t'.file n = some .devNull
  rest : ∀ n, 2 < n → t'.file n = t.file n

/-- The number that `open` returns is one of the standard ones if one of them was closed. -/
theorem redirected (t : Table File) : Redirected t (redirect t) := by
  set d := t.lowest with hd
  set t₀ := (t.openFile .devNull).dup2 d 0 with ht₀
  set t₁ := t₀.dup2 d 1 with ht₁
  set t₂ := t₁.dup2 d 2 with ht₂
  have hopen : (t.openFile .devNull).file d = some .devNull := Table.file_openFile_lowest t .devNull
  -- a `dup2` to a number keeps `devnull`, whether it is that number or not
  have hkeep : ∀ {u : Table File} (m : ℕ), u.file d = some .devNull →
      (u.dup2 d m).file d = some .devNull := by
    intro u m hu
    by_cases hm : d = m
    · rw [hm] at hu ⊢
      exact Table.file_dup2_self hu m
    · rw [Table.file_dup2_of_ne d hm, hu]
  have h₀ : t₀.file d = some .devNull := hkeep 0 hopen
  have h₁ : t₁.file d = some .devNull := hkeep 1 h₀
  have h₂ : t₂.file d = some .devNull := hkeep 2 h₁
  have hstd : ∀ n, n ≤ 2 → t₂.file n = some .devNull := by
    intro n hn
    rcases (by omega : n = 0 ∨ n = 1 ∨ n = 2) with rfl | rfl | rfl
    · rw [ht₂, Table.file_dup2_of_ne d (by omega), ht₁, Table.file_dup2_of_ne d (by omega)]
      exact Table.file_dup2_self hopen 0
    · rw [ht₂, Table.file_dup2_of_ne d (by omega)]
      exact Table.file_dup2_self h₀ 1
    · exact Table.file_dup2_self h₁ 2
  have hrest : ∀ n, 2 < n → n ≠ d → t₂.file n = t.file n := by
    intro n hn hne
    rw [ht₂, Table.file_dup2_of_ne d (by omega), ht₁, Table.file_dup2_of_ne d (by omega), ht₀,
      Table.file_dup2_of_ne d (by omega), Table.file_openFile_of_ne _ hne]
  have hredirect : redirect t = if d > 2 then t₂.close d else t₂ := rfl
  rw [hredirect]
  split_ifs with hlarge
  · refine ⟨fun n hn => ?_, fun n hn => ?_⟩
    · rw [Table.file_close_of_ne (by omega), hstd n hn]
    · by_cases hne : n = d
      · rw [hne, Table.file_close_self, hd, Table.file_lowest]
      · rw [Table.file_close_of_ne hne, hrest n hn hne]
  · exact ⟨hstd, fun n hn => hrest n hn (by omega)⟩

theorem daemonInit_ends (t : Table File) (sys : DaemonCalls) :
    Ends (daemonInit t sys) (Stop.Clean t) (Redirected t) := by
  have hclean : Stop.Clean t (.failed t) := fun _ _ => rfl
  unfold daemonInit
  split
  · exact hclean
  · trivial
  · refine ends_require hclean ?_
    refine ends_require hclean ?_
    refine ends_require hclean ?_
    exact redirected t

/-! ### The socket -/

structure SocketCalls where
  getaddrinfo : Bool
  socket : Bool
  setsockopt : Bool
  bind : Bool

/-- `socket_init`, which is the same in both daemons but for the address family: the descriptor of
the socket, or what is open when it returns `-1`. -/
def socketInit (t : Table File) (sys : SocketCalls) : Except (Table File) (ℕ × Table File) := do
  require sys.getaddrinfo t
  require sys.socket t
  let serverFd := t.lowest
  let t := t.openFile .listener
  require sys.setsockopt (t.close serverFd)
  require sys.bind (t.close serverFd)
  return (serverFd, t)

/-- A socket is there only if everything succeeds. -/
theorem socketInit_ends (t : Table File) (sys : SocketCalls) :
    Ends (socketInit t sys) (· = t) (· = (t.lowest, t.openFile .listener)) := by
  have hclosed : (t.openFile .listener).close t.lowest = t := Table.close_openFile t .listener
  refine ends_require rfl ?_
  refine ends_require rfl ?_
  refine ends_require hclosed ?_
  refine ends_require hclosed ?_
  rfl

/-! ### The two daemons -/

/-- The state in which the loop starts. -/
structure Listening where
  table : Table File
  mq : ℕ
  serverFd : ℕ

structure AcquiringCalls where
  daemon : DaemonCalls
  signals : Bool
  mqOpen : Bool
  socket : SocketCalls
  listen : Bool

/-- `main` of `acquiring_d.c` as far as its loop. -/
def acquiringStart (t : Table File) (sys : AcquiringCalls) : Except Stop Listening := do
  let t ← daemonInit t sys.daemon
  require sys.signals (.failed t)
  require sys.mqOpen (.failed t)
  let mq := t.lowest
  let t := t.openFile .queue
  let (serverFd, t) ← (socketInit t sys.socket).mapError fun t => .failed (t.close mq)
  require sys.listen (.failed ((t.close mq).close serverFd))
  return ⟨t, mq, serverFd⟩

structure TelemetryCalls where
  daemon : DaemonCalls
  signals : Bool
  mqOpen : Bool
  /-- `mq_getattr` succeeds and `mq_msgsize` is large enough. -/
  mqSize : Bool
  mallocRegistry : Bool
  watchdog : Bool
  mallocServerFd : Bool
  socket : SocketCalls
  listen : Bool
  pthreadCreate : Bool

/-- `userInterface_init`: the descriptor that the new thread gets. -/
def userInterfaceInit (t : Table File) (sys : TelemetryCalls) :
    Except (Table File) (ℕ × Table File) := do
  require sys.mallocServerFd t
  let (serverFd, t) ← socketInit t sys.socket
  require sys.listen (t.close serverFd)
  require sys.pthreadCreate (t.close serverFd)
  return (serverFd, t)

/-- `main` of `telemetry_d.c` as far as its loop, with the thread that accepts connections
started. -/
def telemetryStart (t : Table File) (sys : TelemetryCalls) : Except Stop Listening := do
  let t ← daemonInit t sys.daemon
  require sys.signals (.failed t)
  require sys.mqOpen (.failed t)
  let mq := t.lowest
  let t := t.openFile .queue
  require sys.mqSize (.failed (t.close mq))
  require sys.mallocRegistry (.failed (t.close mq))
  require sys.watchdog (.failed (t.close mq))
  let (serverFd, t) ← (userInterfaceInit t sys).mapError fun t => .failed (t.close mq)
  return ⟨t, mq, serverFd⟩

/-- The daemons that accept connections. -/
inductive Server
  | acquiringd
  | telemetryd
  deriving DecidableEq

/-- What the system calls of a start answer. -/
abbrev Server.Calls : Server → Type
  | .acquiringd => AcquiringCalls
  | .telemetryd => TelemetryCalls

def Server.start (t : Table File) : (server : Server) → server.Calls → Except Stop Listening
  | .acquiringd, sys => acquiringStart t sys
  | .telemetryd, sys => telemetryStart t sys

/-- What is open when a daemon listens: the queue, the socket and what was open before, none of
them under a standard number. -/
structure Prepared (t : Table File) (l : Listening) : Prop where
  std : ∀ n, n ≤ 2 → l.table.file n = some .devNull
  queue : l.table.file l.mq = some .queue
  listener : l.table.file l.serverFd = some .listener
  unused : 2 < l.mq ∧ t.file l.mq = none ∧ 2 < l.serverFd ∧ t.file l.serverFd = none
  rest : ∀ n, 2 < n → n ≠ l.mq → n ≠ l.serverFd → l.table.file n = t.file n

/-- A number that is free once the standard ones are redirected is not a standard one. -/
theorem Redirected.lt_of_free {n : ℕ} (h : Redirected t t') (hn : t'.file n = none) : 2 < n := by
  by_contra hle
  rw [h.std n (by omega)] at hn
  cases hn

/-- The queue and then the socket take the lowest numbers that are free. -/
theorem Redirected.prepared (h : Redirected t t') :
    Prepared t ⟨(t'.openFile .queue).openFile .listener, t'.lowest,
      (t'.openFile .queue).lowest⟩ := by
  set u := t'.openFile .queue with hu
  have hmq : u.file t'.lowest = some .queue := Table.file_openFile_lowest t' .queue
  have hne : u.lowest ≠ t'.lowest := (Table.ne_lowest hmq).symm
  have hfree : t'.file u.lowest = none := by
    have hlowest := Table.file_lowest u
    rwa [hu, Table.file_openFile_of_ne _ hne] at hlowest
  have hmq_lt : 2 < t'.lowest := h.lt_of_free (Table.file_lowest t')
  have hfd_lt : 2 < u.lowest := h.lt_of_free hfree
  refine ⟨fun n hn => ?_, ?_, ?_, ⟨hmq_lt, ?_, hfd_lt, ?_⟩, fun n hn hnmq hnfd => ?_⟩
  · exact Table.file_openFile_of_some _ (Table.file_openFile_of_some _ (h.std n hn))
  · exact Table.file_openFile_of_some _ hmq
  · exact Table.file_openFile_lowest u .listener
  · rw [← h.rest _ hmq_lt, Table.file_lowest]
  · rw [← h.rest _ hfd_lt, hfree]
  · show (u.openFile .listener).file n = t.file n
    rw [Table.file_openFile_of_ne _ hnfd, hu, Table.file_openFile_of_ne _ hnmq, h.rest n hn]

theorem Redirected.clean (h : Redirected t t') : Stop.Clean t (.failed t') := h.rest

theorem acquiringStart_ends (t : Table File) (sys : AcquiringCalls) :
    Ends (acquiringStart t sys) (Stop.Clean t) (Prepared t) := by
  refine (daemonInit_ends t sys.daemon).bind fun u hu => ?_
  have hclosed : (u.openFile .queue).close u.lowest = u := Table.close_openFile u .queue
  refine ends_require hu.clean ?_
  refine ends_require hu.clean ?_
  refine ((socketInit_ends _ sys.socket).mapError ?_).bind ?_
  · rintro v rfl
    rw [hclosed]
    exact hu.clean
  · rintro _ rfl
    refine ends_require ?_ hu.prepared
    rw [Table.close_comm, Table.close_openFile, hclosed]
    exact hu.clean

theorem userInterfaceInit_ends (t : Table File) (sys : TelemetryCalls) :
    Ends (userInterfaceInit t sys) (· = t) (· = (t.lowest, t.openFile .listener)) := by
  have hclosed : (t.openFile .listener).close t.lowest = t := Table.close_openFile t .listener
  refine ends_require rfl ?_
  refine (socketInit_ends t sys.socket).bind ?_
  rintro _ rfl
  refine ends_require hclosed ?_
  refine ends_require hclosed ?_
  rfl

theorem telemetryStart_ends (t : Table File) (sys : TelemetryCalls) :
    Ends (telemetryStart t sys) (Stop.Clean t) (Prepared t) := by
  refine (daemonInit_ends t sys.daemon).bind fun u hu => ?_
  have hclosed : (u.openFile .queue).close u.lowest = u := Table.close_openFile u .queue
  have hclean : Stop.Clean t (.failed ((u.openFile .queue).close u.lowest)) := by
    rw [hclosed]
    exact hu.clean
  refine ends_require hu.clean ?_
  refine ends_require hu.clean ?_
  refine ends_require hclean ?_
  refine ends_require hclean ?_
  refine ends_require hclean ?_
  refine ((userInterfaceInit_ends _ sys).mapError ?_).bind ?_
  · rintro v rfl
    exact hclean
  · rintro _ rfl
    exact hu.prepared

theorem start_ends (server : Server) (t : Table File) (sys : server.Calls) :
    Ends (server.start t sys) (Stop.Clean t) (Prepared t) := by
  cases server with
  | acquiringd => exact acquiringStart_ends t sys
  | telemetryd => exact telemetryStart_ends t sys

/-- A start that fails leaves open what was open before, and one that succeeds adds the queue and
the socket. -/
theorem start_sound (server : Server) (t : Table File) (sys : server.Calls) :
    (∀ t', server.start t sys = .error (.failed t') → ∀ n, 2 < n → t'.file n = t.file n) ∧
      ∀ l, server.start t sys = .ok l → Prepared t l :=
  ⟨fun _ h => (start_ends server t sys).of_error h, fun _ h => (start_ends server t sys).of_ok h⟩

end ProcessInit
end Gateway
