import Gateway.ProcessInit

/-!
# The loops that accept connections

`main` of `acquiring_d.c` and `socketConnectionHandler` of `telemetry_d.c` are the same loop: a cell
for the descriptor is allocated, `accept` fills it, and a new thread gets its address, reads the
descriptor and frees the cell.  The thread serves the connection and closes it at its end.  Either
of the two may find that a call fails, and the threads run in any order.

* `step`: one operation of the loop, of a thread or of the rest of the process;
* `Moved`: everything that an operation can do;
* `step_moved`: the operations, where the cells in use are allocated.

What a thread does with its connection is the subject of `Acquiring` and `UserHandler`; here it only
holds it.
-/

namespace Gateway
namespace Accepting

open Descriptors ProcessInit

/-! ### The loop -/

/-- `CLIENT_ACCEPT_FAILURE_LIMIT_MAX`. -/
def clientAcceptFailureLimitMax : ℕ := 16

/-- Why the loop was left. -/
inductive Reason
  | exitRQ
  | malloc
  | accept
  deriving DecidableEq

/-- Where the loop stands.  `p` is the address `client_fd`, `k` the number of the connection. -/
inductive Place
  /-- The condition of the loop. -/
  | test
  | malloc
  | accept (p : ℕ)
  /-- `accept` has failed, with `EINTR` or not. -/
  | failed (p : ℕ) (eintr : Bool)
  /-- After `EINTR`. -/
  | interrupted
  | create (k p : ℕ)
  /-- `pthread_create` has failed. -/
  | refused (k p : ℕ)
  | discard (p : ℕ)
  /-- The `close` after the loop. -/
  | leaving (r : Reason)
  | left (r : Reason)
  deriving DecidableEq

/-- The thread of a connection: it gets the address of a cell, has read the cell, has freed it, has
closed the connection. -/
inductive Handler
  | absent
  | started (p : ℕ)
  | reading (p : ℕ) (fd : Option ℕ)
  | serving (fd : Option ℕ)
  | returned
  deriving DecidableEq

/-- What `accept` answers. -/
inductive Accepted
  | client
  | eintr
  | failed
  deriving DecidableEq

/-- The state.  A descriptor that a cell holds is `none` where the source has `-1`.  The last two
fields are a record: the file that each `close` was meant for with the file that it closed, and the
answers of `accept`. -/
structure State where
  table : Table File
  heap : ℕ → Option (Option ℕ)
  serverFd : ℕ
  place : Place
  failureCount : ℕ
  accepted : ℕ
  handler : ℕ → Handler
  exitRQ : Bool
  closes : List (File × Option File)
  answers : List Accepted

/-- The use of a cell that is not allocated. -/
inductive Fault
  | cell (p : ℕ)
  deriving DecidableEq

/-- One operation: a signal, one of the loop, the next one of the thread of connection `k`, or the
opening or closing of a file elsewhere in the process.  The operations of the loop carry what the
call answers; `malloc` gives an address with whatever the cell there holds. -/
inductive Action
  | signal
  | next
  | malloc (cell : Option (ℕ × Option ℕ))
  | accept (answer : Accepted)
  | create (ok : Bool)
  | handler (k : ℕ)
  | openOther
  | closeOther (fd : ℕ)

namespace State

variable (s : State)

def load (p : ℕ) : Except Fault (Option ℕ) :=
  match s.heap p with
  | none => .error (.cell p)
  | some v => .ok v

def store (p : ℕ) (v : Option ℕ) : Except Fault State :=
  match s.heap p with
  | none => .error (.cell p)
  | some _ => .ok { s with heap := Function.update s.heap p (some v) }

def free (p : ℕ) : Except Fault State :=
  match s.heap p with
  | none => .error (.cell p)
  | some _ => .ok { s with heap := Function.update s.heap p none }

/-- `close(fd)`, meant for `file`. -/
def close (fd : Option ℕ) (file : File) : State :=
  { s with
    table := fd.elim s.table s.table.close
    closes := s.closes ++ [(file, fd.bind s.table.file)] }

end State

/-- `telemetryd` closes the socket where `malloc` fails, and again after the loop. -/
def closesAtMalloc : Server → Bool
  | .acquiringd => false
  | .telemetryd => true

/-- The operations of the loop that depend on no answer. -/
def next (s : State) : Except Fault State :=
  match s.place with
  | .test => .ok { s with place := if s.exitRQ then .leaving .exitRQ else .malloc }
  | .failed p eintr => do
      let s ← s.free p
      if eintr then return { s with place := .interrupted }
      let count := s.failureCount + 1
      return { s with
        failureCount := count
        place := if count ≥ clientAcceptFailureLimitMax then .leaving .accept else .test }
  | .interrupted => .ok { s with place := if s.exitRQ then .leaving .exitRQ else .test }
  | .refused k p => do
      let fd ← s.load p
      return { s.close fd (.client k) with place := .discard p }
  | .discard p => do
      let s ← s.free p
      return { s with place := .test }
  | .leaving r => .ok { s.close (some s.serverFd) .listener with place := .left r }
  | _ => .ok s

/-- `malloc(sizeof(int))`, which never returns an address that is in use. -/
def malloc (server : Server) (s : State) : Option (ℕ × Option ℕ) → State
  | none =>
      { (if closesAtMalloc server then s.close (some s.serverFd) .listener else s) with
        place := .leaving .malloc }
  | some (p, v) =>
      if (s.heap p).isNone then
        { s with heap := Function.update s.heap p (some v), place := .accept p }
      else s

/-- `*client_fd = accept(server_fd, ..)`, where there is a connection only on an open socket. -/
def accept (s : State) (p : ℕ) : Accepted → Except Fault State
  | .client =>
      if s.table.file s.serverFd = some .listener then do
        let s ← s.store p (some s.table.lowest)
        return { s with
          table := s.table.openFile (.client s.accepted)
          place := .create s.accepted p
          failureCount := 0
          accepted := s.accepted + 1
          answers := s.answers ++ [.client] }
      else .ok s
  | answer => do
      let s ← s.store p none
      return { s with place := .failed p (answer = .eintr), answers := s.answers ++ [answer] }

/-- The next operation of the thread of connection `k`. -/
def handlerStep (s : State) (k : ℕ) : Except Fault State :=
  match s.handler k with
  | .started p => do
      let fd ← s.load p
      return { s with handler := Function.update s.handler k (.reading p fd) }
  | .reading p fd => do
      let s ← s.free p
      return { s with handler := Function.update s.handler k (.serving fd) }
  | .serving fd =>
      .ok { s.close fd (.client k) with handler := Function.update s.handler k .returned }
  | _ => .ok s

def step (server : Server) (s : State) : Action → Except Fault State
  | .signal => .ok { s with exitRQ := true }
  | .next => next s
  | .malloc cell =>
      match s.place with
      | .malloc => .ok (malloc server s cell)
      | _ => .ok s
  | .accept answer =>
      match s.place with
      | .accept p => accept s p answer
      | _ => .ok s
  | .create ok =>
      match s.place with
      | .create k p =>
          if ok then
            .ok { s with handler := Function.update s.handler k (.started p), place := .test }
          else .ok { s with place := .refused k p }
      | _ => .ok s
  | .handler k => handlerStep s k
  | .openOther => .ok { s with table := s.table.openFile .other }
  | .closeOther fd =>
      if s.table.file fd = some .other then .ok { s with table := s.table.close fd } else .ok s

/-- The loop with its socket open. -/
def init (l : Listening) : State where
  table := l.table
  heap _ := none
  serverFd := l.serverFd
  place := .test
  failureCount := 0
  accepted := 0
  handler _ := .absent
  exitRQ := false
  closes := []
  answers := []

/-! ### Owners -/

/-- Those that can have a cell or a connection in their hands. -/
inductive Owner
  | loop
  | handler (k : ℕ)
  deriving DecidableEq

/-- The cell of the loop. -/
def Place.cell : Place → Option ℕ
  | .accept p => some p
  | .failed p _ => some p
  | .create _ p => some p
  | .refused _ p => some p
  | .discard p => some p
  | _ => none

/-- The connection that the loop has accepted and not passed on. -/
def Place.conn : Place → Option ℕ
  | .create k _ => some k
  | .refused k _ => some k
  | _ => none

def Handler.cell : Handler → Option ℕ
  | .started p => some p
  | .reading p _ => some p
  | _ => none

/-- The thread has its connection still open. -/
def Handler.isOpen : Handler → Bool
  | .started _ => true
  | .reading _ _ => true
  | .serving _ => true
  | _ => false

def cellOf (s : State) : Owner → Option ℕ
  | .loop => s.place.cell
  | .handler k => (s.handler k).cell

def connOf (s : State) : Owner → Option ℕ
  | .loop => s.place.conn
  | .handler k => if (s.handler k).isOpen then some k else none

/-- The descriptor that an owner uses for its connection: the one in its cell, until a thread has
read it. -/
def fdOf (s : State) : Owner → Option ℕ
  | .loop => s.place.cell.bind fun p => (s.heap p).join
  | .handler k =>
      match s.handler k with
      | .started p => (s.heap p).join
      | .reading _ fd => fd
      | .serving fd => fd
      | _ => none

variable {server : Server} {s s' : State} {a : Action}

/-- Everything that an operation can do, with what was so before it. -/
inductive Moved (server : Server) (s : State) : Action → State → Prop
  | stay (a : Action) : Moved server s a s
  | signal : Moved server s .signal { s with exitRQ := true }
  | proceed (hplace : s.place = .test) (hexit : s.exitRQ = false) :
      Moved server s .next { s with place := .malloc }
  | resume (hplace : s.place = .interrupted) (hexit : s.exitRQ = false) :
      Moved server s .next { s with place := .test }
  | exit (hplace : s.place = .test ∨ s.place = .interrupted) (hexit : s.exitRQ = true) :
      Moved server s .next { s with place := .leaving .exitRQ }
  | allocate (p : ℕ) (v : Option ℕ) (hplace : s.place = .malloc) (hp : s.heap p = none) :
      Moved server s (.malloc (some (p, v)))
        { s with heap := Function.update s.heap p (some v), place := .accept p }
  | noMemory (hplace : s.place = .malloc) :
      Moved server s (.malloc none)
        { (if closesAtMalloc server then s.close (some s.serverFd) .listener else s) with
          place := .leaving .malloc }
  | client (p : ℕ) (v : Option ℕ) (hplace : s.place = .accept p) (hp : s.heap p = some v)
      (hlistener : s.table.file s.serverFd = some .listener) :
      Moved server s (.accept .client)
        { s with
          heap := Function.update s.heap p (some (some s.table.lowest))
          table := s.table.openFile (.client s.accepted)
          place := .create s.accepted p
          failureCount := 0
          accepted := s.accepted + 1
          answers := s.answers ++ [.client] }
  | acceptFails (p : ℕ) (v : Option ℕ) (answer : Accepted) (hanswer : answer ≠ .client)
      (hplace : s.place = .accept p) (hp : s.heap p = some v) :
      Moved server s (.accept answer)
        { s with
          heap := Function.update s.heap p (some none)
          place := .failed p (answer = .eintr)
          answers := s.answers ++ [answer] }
  | retry (p : ℕ) (v : Option ℕ) (hplace : s.place = .failed p true) (hp : s.heap p = some v) :
      Moved server s .next
        { s with heap := Function.update s.heap p none, place := .interrupted }
  | count (p : ℕ) (v : Option ℕ) (hplace : s.place = .failed p false) (hp : s.heap p = some v) :
      Moved server s .next
        { s with
          heap := Function.update s.heap p none
          failureCount := s.failureCount + 1
          place := if s.failureCount + 1 ≥ clientAcceptFailureLimitMax then .leaving .accept
            else .test }
  | create (k p : ℕ) (hplace : s.place = .create k p) :
      Moved server s (.create true)
        { s with handler := Function.update s.handler k (.started p), place := .test }
  | refuse (k p : ℕ) (hplace : s.place = .create k p) :
      Moved server s (.create false) { s with place := .refused k p }
  | drop (k p : ℕ) (v : Option ℕ) (hplace : s.place = .refused k p) (hp : s.heap p = some v) :
      Moved server s .next { s.close v (.client k) with place := .discard p }
  | discard (p : ℕ) (v : Option ℕ) (hplace : s.place = .discard p) (hp : s.heap p = some v) :
      Moved server s .next { s with heap := Function.update s.heap p none, place := .test }
  | leave (r : Reason) (hplace : s.place = .leaving r) :
      Moved server s .next { s.close (some s.serverFd) .listener with place := .left r }
  | read (k p : ℕ) (v : Option ℕ) (hk : s.handler k = .started p) (hp : s.heap p = some v) :
      Moved server s (.handler k)
        { s with handler := Function.update s.handler k (.reading p v) }
  | release (k p : ℕ) (fd v : Option ℕ) (hk : s.handler k = .reading p fd)
      (hp : s.heap p = some v) :
      Moved server s (.handler k)
        { s with
          heap := Function.update s.heap p none
          handler := Function.update s.handler k (.serving fd) }
  | finish (k : ℕ) (fd : Option ℕ) (hk : s.handler k = .serving fd) :
      Moved server s (.handler k)
        { s.close fd (.client k) with handler := Function.update s.handler k .returned }
  | openOther : Moved server s .openOther { s with table := s.table.openFile .other }
  | closeOther (fd : ℕ) (hfd : s.table.file fd = some .other) :
      Moved server s (.closeOther fd) { s with table := s.table.close fd }

/-- The cells in use are allocated. -/
def CellsLive (s : State) : Prop := ∀ o p, cellOf s o = some p → ∃ v, s.heap p = some v

theorem State.load_eq {p : ℕ} {v : Option ℕ} (h : s.heap p = some v) : s.load p = .ok v := by
  rw [State.load, h]

theorem State.store_eq {p : ℕ} {v : Option ℕ} (w : Option ℕ) (h : s.heap p = some v) :
    s.store p w = .ok { s with heap := Function.update s.heap p (some w) } := by
  rw [State.store, h]

theorem State.free_eq {p : ℕ} {v : Option ℕ} (h : s.heap p = some v) :
    s.free p = .ok { s with heap := Function.update s.heap p none } := by
  rw [State.free, h]

theorem next_moved (h : CellsLive s) : ∃ s', next s = .ok s' ∧ Moved server s .next s' := by
  have hcell : ∀ p, s.place.cell = some p → ∃ v, s.heap p = some v := fun p hp => h .loop p hp
  unfold next
  split
  · rename_i hplace
    split_ifs with hexit
    · exact ⟨_, rfl, .exit (Or.inl hplace) hexit⟩
    · exact ⟨_, rfl, .proceed hplace (by simpa using hexit)⟩
  · rename_i p eintr hplace
    obtain ⟨v, hp⟩ := hcell p (by rw [hplace]; rfl)
    rw [State.free_eq hp]
    cases eintr with
    | true => exact ⟨_, rfl, .retry p v hplace hp⟩
    | false => exact ⟨_, rfl, .count p v hplace hp⟩
  · rename_i hplace
    split_ifs with hexit
    · exact ⟨_, rfl, .exit (Or.inr hplace) hexit⟩
    · exact ⟨_, rfl, .resume hplace (by simpa using hexit)⟩
  · rename_i k p hplace
    obtain ⟨v, hp⟩ := hcell p (by rw [hplace]; rfl)
    rw [State.load_eq hp]
    exact ⟨_, rfl, .drop k p v hplace hp⟩
  · rename_i p hplace
    obtain ⟨v, hp⟩ := hcell p (by rw [hplace]; rfl)
    rw [State.free_eq hp]
    exact ⟨_, rfl, .discard p v hplace hp⟩
  · rename_i r hplace
    exact ⟨_, rfl, .leave r hplace⟩
  · exact ⟨s, rfl, .stay _⟩

theorem accept_moved {p : ℕ} (h : CellsLive s) (hplace : s.place = .accept p) (answer : Accepted) :
    ∃ s', accept s p answer = .ok s' ∧ Moved server s (.accept answer) s' := by
  obtain ⟨v, hp⟩ := h .loop p (by rw [cellOf, hplace]; rfl)
  cases answer with
  | client =>
    simp only [accept]
    split_ifs with hlistener
    · rw [State.store_eq _ hp]
      exact ⟨_, rfl, .client p v hplace hp hlistener⟩
    · exact ⟨s, rfl, .stay _⟩
  | eintr =>
    simp only [accept, State.store_eq _ hp]
    exact ⟨_, rfl, .acceptFails p v .eintr (by decide) hplace hp⟩
  | failed =>
    simp only [accept, State.store_eq _ hp]
    exact ⟨_, rfl, .acceptFails p v .failed (by decide) hplace hp⟩

theorem handler_moved (h : CellsLive s) (k : ℕ) :
    ∃ s', handlerStep s k = .ok s' ∧ Moved server s (.handler k) s' := by
  unfold handlerStep
  split
  · rename_i p hk
    obtain ⟨v, hp⟩ := h (.handler k) p (by rw [cellOf, hk]; rfl)
    rw [State.load_eq hp]
    exact ⟨_, rfl, .read k p v hk hp⟩
  · rename_i p fd hk
    obtain ⟨v, hp⟩ := h (.handler k) p (by rw [cellOf, hk]; rfl)
    rw [State.free_eq hp]
    exact ⟨_, rfl, .release k p fd v hk hp⟩
  · rename_i fd hk
    exact ⟨_, rfl, .finish k fd hk⟩
  · exact ⟨s, rfl, .stay _⟩

/-- Where the cells in use are allocated, no operation is one on a cell that is not. -/
theorem step_moved (h : CellsLive s) (a : Action) :
    ∃ s', step server s a = .ok s' ∧ Moved server s a s' := by
  cases a with
  | signal => exact ⟨_, rfl, .signal⟩
  | next => exact next_moved h
  | malloc cell =>
    simp only [step]
    split
    · rename_i hplace
      rcases cell with _ | ⟨p, v⟩
      · exact ⟨_, rfl, .noMemory hplace⟩
      · simp only [malloc]
        split_ifs with hp
        · exact ⟨_, rfl, .allocate p v hplace (Option.isNone_iff_eq_none.mp hp)⟩
        · exact ⟨s, rfl, .stay _⟩
    · exact ⟨s, rfl, .stay _⟩
  | accept answer =>
    simp only [step]
    split
    · rename_i p hplace
      exact accept_moved h hplace answer
    · exact ⟨s, rfl, .stay _⟩
  | create ok =>
    simp only [step]
    split
    · rename_i k p hplace
      cases ok with
      | true => exact ⟨_, rfl, .create k p hplace⟩
      | false => exact ⟨_, rfl, .refuse k p hplace⟩
    · exact ⟨s, rfl, .stay _⟩
  | handler k => exact handler_moved h k
  | openOther => exact ⟨_, rfl, .openOther⟩
  | closeOther fd =>
    simp only [step]
    split_ifs with hfd
    · exact ⟨_, rfl, .closeOther fd hfd⟩
    · exact ⟨s, rfl, .stay _⟩

end Accepting
end Gateway
