import Gateway.Lib.Descriptors

/-!
# `dev-interface.c`: one request at a time

`main` sends the commands that are typed and `latency_receiver_thread` polls.  Both make a new
connection for every request, and `request_mutex` keeps them apart.  At the end of the input the
thread is cancelled wherever it is, and the mutex is destroyed.

* `connectToServer`: the loop over the addresses;
* `step`: one operation of one of the two;
* `Inv`: the mutex is held from before `connect_to_server` until after `close`;
* `one_at_a_time`: at most one connection is open, and a thread that waits for the mutex waits for
  one that goes on; the mutex is destroyed while it is held exactly if the thread was cancelled in
  the middle of a request.
-/

namespace Gateway
namespace Session

open Descriptors

inductive Thread
  | main
  | latency
  deriving DecidableEq

/-- What a descriptor stands for. -/
inductive File
  | connection (t : Thread)
  | other
  deriving DecidableEq

/-! ### `connect_to_server` -/

/-- What the attempt on an address gives. -/
inductive Attempt
  | noSocket
  | refused
  | connected
  deriving DecidableEq

/-- `connect_to_server`, for the addresses that `getaddrinfo` gives: the loop stops at the first
connection. -/
def connectToServer (t : Thread) (table : Table File) : List Attempt → Option ℕ × Table File
  | [] => (none, table)
  | .noSocket :: rest => connectToServer t table rest
  | .refused :: rest => connectToServer t ((table.openFile (.connection t)).close table.lowest) rest
  | .connected :: _ => (some table.lowest, table.openFile (.connection t))

/-- A socket that does not get a connection is closed. -/
theorem connectToServer_eq (t : Thread) (table : Table File) (attempts : List Attempt) :
    connectToServer t table attempts =
      if .connected ∈ attempts then (some table.lowest, table.openFile (.connection t))
      else (none, table) := by
  induction attempts with
  | nil => rfl
  | cons attempt rest ih =>
    cases attempt with
    | noSocket => simp [connectToServer, ih]
    | refused => simp [connectToServer, ih]
    | connected => simp [connectToServer]

/-! ### The two threads -/

/-- Where a thread stands: before the log is opened, at the prompt or asleep, before one of the
calls of a request, or behind the end of the input.  The latency thread may have been cancelled,
holding the mutex or not, and with a connection or not. -/
inductive Place
  | fopen
  | idle
  | lock
  | connect
  | send (fd : ℕ)
  | receive (fd : ℕ)
  | close (fd : ℕ)
  | unlock
  | join
  | destroy
  | returned
  | cancelled (locked : Bool) (fd : Option ℕ)
  deriving DecidableEq

/-- The thread holds the mutex. -/
def Place.locked : Place → Bool
  | .connect => true
  | .send _ => true
  | .receive _ => true
  | .close _ => true
  | .unlock => true
  | .cancelled locked _ => locked
  | _ => false

/-- The connection of the thread. -/
def Place.fd : Place → Option ℕ
  | .send fd => some fd
  | .receive fd => some fd
  | .close fd => some fd
  | .cancelled _ fd => fd
  | _ => none

/-- The calls in which a thread can be cancelled; `pthread_mutex_lock` and `pthread_mutex_unlock`
are none. -/
def Place.cancellable : Place → Bool
  | .fopen => true
  | .idle => true
  | .connect => true
  | .send _ => true
  | .receive _ => true
  | .close _ => true
  | _ => false

def Place.isCancelled : Place → Bool
  | .cancelled _ _ => true
  | _ => false

/-- The thread has ended. -/
def Place.ended : Place → Bool
  | .returned => true
  | .cancelled _ _ => true
  | _ => false

/-- `main` is behind the end of the input. -/
def Place.ending : Place → Bool
  | .join => true
  | .destroy => true
  | .returned => true
  | _ => false

/-- The state; `destroyedLocked` records whether the mutex was held when it was destroyed. -/
structure State where
  table : Table File
  mutex : Option Thread
  place : Thread → Place
  destroyedLocked : Option Bool

/-- The operations of the two threads, with what the calls answer; a file that is opened or closed
elsewhere, such as the log; the end of the input, and the cancellation that it asks for. -/
inductive Action
  | fopen (ok : Bool)
  | request (t : Thread)
  | lock (t : Thread)
  | connect (t : Thread) (attempts : List Attempt)
  | send (t : Thread) (ok : Bool)
  | receive (t : Thread)
  | close (t : Thread)
  | unlock (t : Thread)
  | openOther
  | closeOther (fd : ℕ)
  | endOfInput
  | cancel
  | join
  | destroy

namespace State

def goto (s : State) (t : Thread) (p : Place) : State :=
  { s with place := Function.update s.place t p }

end State

def step (s : State) : Action → State
  | .fopen ok =>
      match s.place .latency with
      | .fopen => s.goto .latency (if ok then .lock else .returned)
      | _ => s
  | .request t =>
      match s.place t with
      | .idle => s.goto t .lock
      | _ => s
  | .lock t =>
      match s.place t, s.mutex with
      | .lock, none => { s.goto t .connect with mutex := some t }
      | _, _ => s
  | .connect t attempts =>
      match s.place t with
      | .connect =>
          match connectToServer t s.table attempts with
          | (none, table) => { s.goto t .unlock with table := table }
          | (some fd, table) => { s.goto t (.send fd) with table := table }
      | _ => s
  | .send t ok =>
      match s.place t with
      | .send fd => s.goto t (if ok then .receive fd else .close fd)
      | _ => s
  | .receive t =>
      match s.place t with
      | .receive fd => s.goto t (.close fd)
      | _ => s
  | .close t =>
      match s.place t with
      | .close fd => { s.goto t .unlock with table := s.table.close fd }
      | _ => s
  | .unlock t =>
      match s.place t with
      | .unlock => { s.goto t .idle with mutex := none }
      | _ => s
  | .openOther => { s with table := s.table.openFile .other }
  | .closeOther fd =>
      if s.table.file fd = some .other then { s with table := s.table.close fd } else s
  | .endOfInput =>
      match s.place .main with
      | .idle => s.goto .main .join
      | _ => s
  | .cancel =>
      if s.place .main = .join ∧ (s.place .latency).cancellable then
        s.goto .latency (.cancelled (s.place .latency).locked (s.place .latency).fd)
      else s
  | .join =>
      if s.place .main = .join ∧ (s.place .latency).ended then s.goto .main .destroy else s
  | .destroy =>
      match s.place .main with
      | .destroy => { s.goto .main .returned with destroyedLocked := some s.mutex.isSome }
      | _ => s

/-- No request has been made. -/
def init (table : Table File) : State where
  table := table
  mutex := none
  place
    | .main => .idle
    | .latency => .fopen
  destroyedLocked := none

def run (table : Table File) (acts : List Action) : State := acts.foldl step (init table)

variable {s s' : State} {t : Thread} {p : Place}

@[simp]
theorem State.place_goto_self (s : State) (t : Thread) (p : Place) : (s.goto t p).place t = p := by
  simp [State.goto]

theorem State.place_goto_of_ne {u : Thread} (p : Place) (h : u ≠ t) :
    (s.goto t p).place u = s.place u := by
  simp [State.goto, h]

/-- Everything that an operation can do. -/
inductive Moved (s : State) : State → Prop
  | stay : Moved s s
  | fopen (ok : Bool) (hplace : s.place .latency = .fopen) :
      Moved s (s.goto .latency (if ok then .lock else .returned))
  | request (t : Thread) (hplace : s.place t = .idle) : Moved s (s.goto t .lock)
  | lock (t : Thread) (hplace : s.place t = .lock) (hmutex : s.mutex = none) :
      Moved s { s.goto t .connect with mutex := some t }
  | refused (t : Thread) (hplace : s.place t = .connect) : Moved s (s.goto t .unlock)
  | connected (t : Thread) (hplace : s.place t = .connect) :
      Moved s { s.goto t (.send s.table.lowest) with table := s.table.openFile (.connection t) }
  | sent (t : Thread) (fd : ℕ) (ok : Bool) (hplace : s.place t = .send fd) :
      Moved s (s.goto t (if ok then .receive fd else .close fd))
  | received (t : Thread) (fd : ℕ) (hplace : s.place t = .receive fd) :
      Moved s (s.goto t (.close fd))
  | closed (t : Thread) (fd : ℕ) (hplace : s.place t = .close fd) :
      Moved s { s.goto t .unlock with table := s.table.close fd }
  | unlock (t : Thread) (hplace : s.place t = .unlock) :
      Moved s { s.goto t .idle with mutex := none }
  | openOther : Moved s { s with table := s.table.openFile .other }
  | closeOther (fd : ℕ) (hfd : s.table.file fd = some .other) :
      Moved s { s with table := s.table.close fd }
  | endOfInput (hplace : s.place .main = .idle) : Moved s (s.goto .main .join)
  | cancel (hmain : s.place .main = .join) (hplace : (s.place .latency).cancellable = true) :
      Moved s (s.goto .latency (.cancelled (s.place .latency).locked (s.place .latency).fd))
  | join (hmain : s.place .main = .join) (hended : (s.place .latency).ended = true) :
      Moved s (s.goto .main .destroy)
  | destroy (hmain : s.place .main = .destroy) :
      Moved s { s.goto .main .returned with destroyedLocked := some s.mutex.isSome }

theorem step_moved (s : State) (a : Action) : Moved s (step s a) := by
  cases a with
  | fopen ok =>
    simp only [step]
    split
    · exact .fopen ok ‹_›
    · exact .stay
  | request t =>
    simp only [step]
    split
    · exact .request t ‹_›
    · exact .stay
  | lock t =>
    simp only [step]
    split
    · exact .lock t ‹_› ‹_›
    · exact .stay
  | connect t attempts =>
    simp only [step]
    split
    · rename_i hplace
      rw [connectToServer_eq]
      split_ifs
      · exact .connected t hplace
      · exact .refused t hplace
    · exact .stay
  | send t ok =>
    simp only [step]
    split
    · exact .sent t _ ok ‹_›
    · exact .stay
  | receive t =>
    simp only [step]
    split
    · exact .received t _ ‹_›
    · exact .stay
  | close t =>
    simp only [step]
    split
    · exact .closed t _ ‹_›
    · exact .stay
  | unlock t =>
    simp only [step]
    split
    · exact .unlock t ‹_›
    · exact .stay
  | openOther => exact .openOther
  | closeOther fd =>
    simp only [step]
    split_ifs with hfd
    · exact .closeOther fd hfd
    · exact .stay
  | endOfInput =>
    simp only [step]
    split
    · exact .endOfInput ‹_›
    · exact .stay
  | cancel =>
    simp only [step]
    split_ifs with h
    · exact .cancel h.1 h.2
    · exact .stay
  | join =>
    simp only [step]
    split_ifs with h
    · exact .join h.1 h.2
    · exact .stay
  | destroy =>
    simp only [step]
    split
    · exact .destroy ‹_›
    · exact .stay

/-! ### The invariant -/

/-- The mutex is held by the thread that is between its two calls for it, and the open connections
are those of the threads. -/
structure Inv (s : State) : Prop where
  owner : ∀ t, (s.place t).locked = true ↔ s.mutex = some t
  conn : ∀ t fd, (s.place t).fd = some fd ↔ s.table.file fd = some (.connection t)
  held : ∀ t fd, (s.place t).fd = some fd → (s.place t).locked = true
  main : (s.place .main).isCancelled = false
  ending : (s.place .latency).isCancelled = true → (s.place .main).ending = true
  joined : s.place .main = .destroy → (s.place .latency).ended = true
  destroyed : ∀ b, s.destroyedLocked = some b →
    s.place .main = .returned ∧ (s.place .latency).ended = true ∧ b = (s.place .latency).locked

/-- A thread that has ended with the mutex was cancelled with it. -/
theorem Place.exists_cancelled (hended : p.ended = true) (hlocked : p.locked = true) :
    ∃ fd, p = .cancelled true fd := by
  cases p with
  | cancelled locked fd => exact ⟨fd, by rw [show locked = true from hlocked]⟩
  | returned => cases hlocked
  | _ => cases hended

/-- A thread that has not ended has not been waited for. -/
theorem Inv.not_destroyed (h : Inv s) (hactive : (s.place t).ended = false) :
    s.destroyedLocked = none := by
  by_contra hne
  obtain ⟨b, hb⟩ := Option.ne_none_iff_exists'.mp hne
  obtain ⟨hmain, hlatency, -⟩ := h.destroyed b hb
  cases t with
  | main =>
    rw [hmain] at hactive
    cases hactive
  | latency =>
    rw [hlatency] at hactive
    cases hactive

/-- A step of a thread that has not ended: what is left to show of the mutex and the connections. -/
theorem Inv.of_step (h : Inv s) (hactive : (s.place t).ended = false)
    (hplace : s'.place = (s.goto t p).place)
    (howner : ∀ u, (s'.place u).locked = true ↔ s'.mutex = some u)
    (hconn : ∀ u fd, (s'.place u).fd = some fd ↔ s'.table.file fd = some (.connection u))
    (hheld : ∀ fd, p.fd = some fd → p.locked = true)
    (hmain : t = .main → p.isCancelled = false ∧ ((s.place .main).ending = true → p.ending = true) ∧
      (p = .destroy → (s.place .latency).ended = true))
    (hlatency : t = .latency → p.isCancelled = true → (s.place .main).ending = true)
    (hdestroyed : s'.destroyedLocked = s.destroyedLocked) : Inv s' := by
  have hself : s'.place t = p := by rw [hplace, State.place_goto_self]
  have hother : ∀ u, u ≠ t → s'.place u = s.place u := fun u hu => by
    rw [hplace, State.place_goto_of_ne p hu]
  have hnone : s'.destroyedLocked = none := by rw [hdestroyed, h.not_destroyed hactive]
  refine ⟨howner, hconn, fun u fd hfd => ?_, ?_, ?_, ?_, fun b hb => ?_⟩
  · by_cases hu : u = t
    · rw [hu, hself] at hfd ⊢
      exact hheld fd hfd
    · rw [hother u hu] at hfd ⊢
      exact h.held u fd hfd
  · cases t with
    | main => rw [hself, (hmain rfl).1]
    | latency => rw [hother .main (by decide), h.main]
  · cases t with
    | main =>
      rw [hself, hother .latency (by decide)]
      exact fun hcancelled => (hmain rfl).2.1 (h.ending hcancelled)
    | latency =>
      rw [hself, hother .main (by decide)]
      exact hlatency rfl
  · cases t with
    | main =>
      rw [hself, hother .latency (by decide)]
      exact (hmain rfl).2.2
    | latency =>
      rw [hother .main (by decide)]
      intro hdestroy
      rw [h.joined hdestroy] at hactive
      cases hactive
  · rw [hnone] at hb
    cases hb

/-- The owners of the mutex after a step of one thread. -/
theorem Inv.owner_goto (h : Inv s) (hlocked : p.locked = (s.place t).locked) (u : Thread) :
    ((s.goto t p).place u).locked = true ↔ s.mutex = some u := by
  by_cases hu : u = t
  · rw [hu, State.place_goto_self, hlocked]
    exact h.owner t
  · rw [State.place_goto_of_ne p hu]
    exact h.owner u

theorem Inv.conn_goto (h : Inv s) (hfd : p.fd = (s.place t).fd) (u : Thread) (fd : ℕ) :
    ((s.goto t p).place u).fd = some fd ↔ s.table.file fd = some (.connection u) := by
  by_cases hu : u = t
  · rw [hu, State.place_goto_self, hfd]
    exact h.conn t fd
  · rw [State.place_goto_of_ne p hu]
    exact h.conn u fd

/-- A step that leaves the mutex and the connections alone. -/
theorem Inv.goto (h : Inv s) (hactive : (s.place t).ended = false)
    (hlocked : p.locked = (s.place t).locked) (hfd : p.fd = (s.place t).fd)
    (hmain : t = .main → p.isCancelled = false ∧ ((s.place .main).ending = true → p.ending = true) ∧
      (p = .destroy → (s.place .latency).ended = true))
    (hlatency : t = .latency → p.isCancelled = true → (s.place .main).ending = true) :
    Inv (s.goto t p) := by
  refine h.of_step hactive rfl (h.owner_goto hlocked) (h.conn_goto hfd) (fun fd => ?_) hmain
    hlatency rfl
  rw [hfd, hlocked]
  exact h.held t fd

/-- A step inside a request. -/
theorem Inv.proceed (h : Inv s) (hactive : (s.place t).ended = false)
    (hending : (s.place t).ending = false) (hlocked : p.locked = (s.place t).locked)
    (hfd : p.fd = (s.place t).fd) (hcancelled : p.isCancelled = false) (hdestroy : p ≠ .destroy) :
    Inv (s.goto t p) := by
  refine h.goto hactive hlocked hfd ?_ ?_
  · rintro rfl
    exact ⟨hcancelled, by simp [hending], fun hp => absurd hp hdestroy⟩
  · intro _ hp
    rw [hcancelled] at hp
    cases hp

/-- A step inside a request that changes the mutex or the connections. -/
theorem Inv.of_request (h : Inv s) (hactive : (s.place t).ended = false)
    (hending : (s.place t).ending = false) (hplace : s'.place = (s.goto t p).place)
    (howner : ∀ u, (s'.place u).locked = true ↔ s'.mutex = some u)
    (hconn : ∀ u fd, (s'.place u).fd = some fd ↔ s'.table.file fd = some (.connection u))
    (hheld : ∀ fd, p.fd = some fd → p.locked = true) (hcancelled : p.isCancelled = false)
    (hdestroy : p ≠ .destroy) (hdestroyed : s'.destroyedLocked = s.destroyedLocked) : Inv s' := by
  refine h.of_step hactive hplace howner hconn hheld ?_ ?_ hdestroyed
  · rintro rfl
    exact ⟨hcancelled, by simp [hending], fun hp => absurd hp hdestroy⟩
  · intro _ hp
    rw [hcancelled] at hp
    cases hp

theorem Inv.lock (h : Inv s) (hplace : s.place t = .lock) (hmutex : s.mutex = none) :
    Inv { s.goto t .connect with mutex := some t } := by
  refine h.of_request (p := .connect) (by rw [hplace]; rfl) (by rw [hplace]; rfl) rfl (fun u => ?_)
    (h.conn_goto (by rw [hplace]; rfl)) nofun rfl (by simp) rfl
  by_cases hu : u = t
  · rw [hu]
    simp [State.goto, Place.locked]
  · have hfree : (s.place u).locked = false := by
      by_contra hlocked
      have howner := (h.owner u).mp (by simpa using hlocked)
      rw [hmutex] at howner
      cases howner
    simp [State.goto, hu, hfree, Ne.symm hu]

theorem Inv.unlock (h : Inv s) (hplace : s.place t = .unlock) :
    Inv { s.goto t .idle with mutex := none } := by
  have hmutex : s.mutex = some t := (h.owner t).mp (by rw [hplace]; rfl)
  refine h.of_request (p := .idle) (by rw [hplace]; rfl) (by rw [hplace]; rfl) rfl (fun u => ?_)
    (h.conn_goto (by rw [hplace]; rfl)) nofun rfl (by simp) rfl
  by_cases hu : u = t
  · rw [hu]
    simp [State.goto, Place.locked]
  · have hfree : (s.place u).locked = false := by
      by_contra hlocked
      have howner := (h.owner u).mp (by simpa using hlocked)
      rw [hmutex] at howner
      exact hu (Option.some.inj howner).symm
    simp [State.goto, hu, hfree]

/-- The new connection has a number that was free. -/
theorem Inv.connected (h : Inv s) (hplace : s.place t = .connect) :
    Inv { s.goto t (.send s.table.lowest) with
      table := s.table.openFile (.connection t) } := by
  refine h.of_request (p := .send s.table.lowest) (by rw [hplace]; rfl) (by rw [hplace]; rfl) rfl
    (h.owner_goto (by rw [hplace]; rfl)) (fun u fd => ?_) (fun _ _ => rfl) rfl (by simp) rfl
  have hbefore : (s.place t).fd = none := by rw [hplace]; rfl
  show ((s.goto t (.send s.table.lowest)).place u).fd = some fd ↔
    (s.table.openFile (.connection t)).file fd = some (.connection u)
  by_cases hfd : fd = s.table.lowest
  · have hfree : (s.place u).fd ≠ some fd := by
      rw [Ne, h.conn u fd, hfd, Table.file_lowest]
      exact nofun
    rw [hfd, Table.file_openFile_lowest]
    by_cases hu : u = t
    · rw [hu, State.place_goto_self]
      simp [Place.fd]
    · rw [hfd] at hfree
      rw [State.place_goto_of_ne _ hu]
      simp [hfree, Ne.symm hu]
  · rw [Table.file_openFile_of_ne _ hfd, ← h.conn u fd]
    by_cases hu : u = t
    · rw [hu, State.place_goto_self, hbefore]
      simp [Place.fd, Ne.symm hfd]
    · rw [State.place_goto_of_ne _ hu]

/-- The connection that is closed is the one of the thread. -/
theorem Inv.closed (h : Inv s) {fd : ℕ} (hplace : s.place t = .close fd) :
    Inv { s.goto t .unlock with table := s.table.close fd } := by
  have hfile : s.table.file fd = some (.connection t) := (h.conn t fd).mp (by rw [hplace]; rfl)
  refine h.of_request (p := .unlock) (by rw [hplace]; rfl) (by rw [hplace]; rfl) rfl
    (h.owner_goto (by rw [hplace]; rfl)) (fun u n => ?_) nofun rfl (by simp) rfl
  show ((s.goto t .unlock).place u).fd = some n ↔ (s.table.close fd).file n = some (.connection u)
  by_cases hu : u = t
  · rw [hu, State.place_goto_self]
    refine iff_of_false nofun fun hopen => ?_
    obtain ⟨hne, hopen⟩ := Table.file_close_eq_some hopen
    rw [← h.conn t n, hplace] at hopen
    exact hne (Option.some.inj hopen).symm
  · rw [State.place_goto_of_ne _ hu, h.conn u n]
    by_cases hn : n = fd
    · rw [hn, hfile, Table.file_close_self]
      simp [Ne.symm hu]
    · rw [Table.file_close_of_ne hn]

/-- A change of the other files. -/
theorem Inv.of_table (h : Inv s) {table : Table File}
    (htable : ∀ fd t, table.file fd = some (.connection t) ↔
      s.table.file fd = some (.connection t)) : Inv { s with table := table } where
  owner := h.owner
  conn t fd := (h.conn t fd).trans (htable fd t).symm
  held := h.held
  main := h.main
  ending := h.ending
  joined := h.joined
  destroyed := h.destroyed

theorem Inv.destroy (h : Inv s) (hmain : s.place .main = .destroy) :
    Inv { s.goto .main .returned with destroyedLocked := some s.mutex.isSome } := by
  have hlatency : (s.goto .main .returned).place .latency = s.place .latency :=
    State.place_goto_of_ne _ (by decide)
  have hended : (s.place .latency).ended = true := h.joined hmain
  have howner := h.owner_goto (t := .main) (p := .returned) (by rw [hmain]; rfl)
  refine ⟨howner, h.conn_goto (by rw [hmain]; rfl), fun u fd hfd => ?_, rfl, fun _ => rfl, ?_,
    fun b hb => ⟨State.place_goto_self s .main .returned, ?_, ?_⟩⟩
  · cases u with
    | main => cases hfd
    | latency =>
      have hfd : (s.place .latency).fd = some fd := by rw [← hlatency]; exact hfd
      exact (congrArg Place.locked hlatency).trans (h.held .latency fd hfd)
  · exact nofun
  · exact (congrArg Place.ended hlatency).trans hended
  · -- `main` does not hold the mutex, so if anyone does it is the other thread
    obtain rfl := Option.some.inj hb
    have hmutex : s.mutex ≠ some .main := by
      rw [Ne, ← h.owner .main, hmain]
      simp [Place.locked]
    have hlocked := h.owner .latency
    show s.mutex.isSome = ((s.goto .main .returned).place .latency).locked
    rw [hlatency]
    cases hm : s.mutex with
    | none =>
      rw [hm] at hlocked
      simpa using hlocked
    | some u =>
      rw [hm] at hlocked hmutex
      cases u with
      | main => exact absurd rfl hmutex
      | latency => exact (hlocked.mpr rfl).symm

theorem Inv.of_moved (h : Inv s) (hm : Moved s s') : Inv s' := by
  cases hm with
  | stay => exact h
  | fopen ok hplace =>
    cases ok with
    | true =>
      exact h.proceed (by rw [hplace]; rfl) (by rw [hplace]; rfl) (by rw [hplace]; rfl)
        (by rw [hplace]; rfl) rfl (by simp)
    | false =>
      exact h.proceed (by rw [hplace]; rfl) (by rw [hplace]; rfl) (by rw [hplace]; rfl)
        (by rw [hplace]; rfl) rfl (by simp)
  | request t hplace =>
    exact h.proceed (by rw [hplace]; rfl) (by rw [hplace]; rfl) (by rw [hplace]; rfl)
      (by rw [hplace]; rfl) rfl (by simp)
  | lock t hplace hmutex => exact h.lock hplace hmutex
  | refused t hplace =>
    exact h.proceed (by rw [hplace]; rfl) (by rw [hplace]; rfl) (by rw [hplace]; rfl)
      (by rw [hplace]; rfl) rfl (by simp)
  | connected t hplace => exact h.connected hplace
  | sent t fd ok hplace =>
    cases ok with
    | true =>
      exact h.proceed (by rw [hplace]; rfl) (by rw [hplace]; rfl) (by rw [hplace]; rfl)
        (by rw [hplace]; rfl) rfl (by simp)
    | false =>
      exact h.proceed (by rw [hplace]; rfl) (by rw [hplace]; rfl) (by rw [hplace]; rfl)
        (by rw [hplace]; rfl) rfl (by simp)
  | received t fd hplace =>
    exact h.proceed (by rw [hplace]; rfl) (by rw [hplace]; rfl) (by rw [hplace]; rfl)
      (by rw [hplace]; rfl) rfl (by simp)
  | closed t fd hplace => exact h.closed hplace
  | unlock t hplace => exact h.unlock hplace
  | openOther =>
    refine h.of_table fun fd t => ?_
    by_cases hfd : fd = s.table.lowest
    · rw [hfd, Table.file_openFile_lowest, Table.file_lowest]
      simp
    · rw [Table.file_openFile_of_ne _ hfd]
  | closeOther fd hfd =>
    refine h.of_table fun n t => ?_
    by_cases hn : n = fd
    · rw [hn, hfd, Table.file_close_self]
      simp
    · rw [Table.file_close_of_ne hn]
  | endOfInput hplace =>
    exact h.goto (by rw [hplace]; rfl) (by rw [hplace]; rfl) (by rw [hplace]; rfl)
      (fun _ => ⟨rfl, fun _ => rfl, nofun⟩) nofun
  | cancel hmain hplace =>
    have hactive : (s.place .latency).ended = false := by
      cases hp : s.place .latency with
      | returned =>
        rw [hp] at hplace
        cases hplace
      | cancelled locked fd =>
        rw [hp] at hplace
        cases hplace
      | _ => rfl
    exact h.goto hactive rfl rfl nofun fun _ _ => by rw [hmain]; rfl
  | join hmain hended =>
    exact h.goto (by rw [hmain]; rfl) (by rw [hmain]; rfl) (by rw [hmain]; rfl)
      (fun _ => ⟨rfl, fun _ => rfl, fun _ => hended⟩) nofun
  | destroy hmain => exact h.destroy hmain

/-! ### Whole runs -/

theorem inv_init {table : Table File} (h : ∀ fd t, table.file fd ≠ some (.connection t)) :
    Inv (init table) := by
  refine ⟨fun t => ?_, fun t fd => iff_of_false ?_ (h fd t), fun t fd hfd => ?_, rfl, nofun, nofun,
    nofun⟩
  · cases t with
    | main => exact iff_of_false nofun nofun
    | latency => exact iff_of_false nofun nofun
  · cases t with
    | main => exact nofun
    | latency => exact nofun
  · cases t with
    | main => cases hfd
    | latency => cases hfd

theorem inv_run {table : Table File} (h : ∀ fd t, table.file fd ≠ some (.connection t))
    (acts : List Action) : Inv (run table acts) := by
  induction acts using List.reverseRecOn with
  | nil => exact inv_init h
  | append_singleton acts a ih =>
    rw [run, List.foldl_concat]
    exact ih.of_moved (step_moved _ a)

/-- **One request at a time.**  In every run of the two threads at most one connection is open, and
the thread it belongs to holds the mutex; a thread that waits for the mutex is kept from it only by
a thread that goes on; and the mutex is held when it is destroyed exactly if the latency thread was
cancelled while it held it. -/
theorem one_at_a_time (table : Table File) (h : ∀ fd t, table.file fd ≠ some (.connection t))
    (acts : List Action) :
    let s := run table acts
    (∀ fd fd' t t', s.table.file fd = some (.connection t) →
      s.table.file fd' = some (.connection t') → fd = fd' ∧ t = t' ∧ s.mutex = some t) ∧
    (∀ t u, s.place t = .lock → s.mutex = some u → (s.place u).ended = false) ∧
    ∀ b, s.destroyedLocked = some b →
      (b = true ↔ ∃ fd, s.place .latency = .cancelled true fd) := by
  intro s
  have hinv : Inv s := inv_run h acts
  have hmutex : ∀ fd t, s.table.file fd = some (.connection t) →
      (s.place t).fd = some fd ∧ s.mutex = some t := by
    intro fd t hfile
    have hfd := (hinv.conn t fd).mpr hfile
    exact ⟨hfd, (hinv.owner t).mp (hinv.held t fd hfd)⟩
  refine ⟨fun fd fd' t t' hfd hfd' => ?_, fun t u hlock hu => ?_, fun b hb => ?_⟩
  · obtain ⟨hplace, hm⟩ := hmutex fd t hfd
    obtain ⟨hplace', hm'⟩ := hmutex fd' t' hfd'
    have ht : t = t' := Option.some.inj (hm.symm.trans hm')
    rw [← ht, hplace] at hplace'
    exact ⟨Option.some.inj hplace', ht, hm⟩
  · by_contra hended
    obtain ⟨fd, hplace⟩ := Place.exists_cancelled (by simpa using hended) ((hinv.owner u).mpr hu)
    have hmain := hinv.main
    have hending := hinv.ending
    -- only the latency thread is cancelled, and only when `main` asks for no more
    cases u with
    | main =>
      rw [hplace] at hmain
      cases hmain
    | latency =>
      cases t with
      | main =>
        rw [hplace, hlock] at hending
        cases hending rfl
      | latency =>
        rw [hlock] at hplace
        cases hplace
  · obtain ⟨-, hended, rfl⟩ := hinv.destroyed b hb
    constructor
    · exact Place.exists_cancelled hended
    · rintro ⟨fd, hplace⟩
      rw [hplace]
      rfl

/-- The end of the input while a poll waits for its answer. -/
theorem one_at_a_time_poll :
    let s := run Table.empty [.fopen true, .lock .latency, .connect .latency [.refused, .connected],
      .send .latency true, .endOfInput, .cancel, .join, .destroy]
    s.destroyedLocked = some true ∧ ∃ fd, s.place .latency = .cancelled true fd := by
  intro s
  obtain ⟨-, -, hdestroyed⟩ := one_at_a_time Table.empty (fun _ _ => nofun)
    [.fopen true, .lock .latency, .connect .latency [.refused, .connected], .send .latency true,
      .endOfInput, .cancel, .join, .destroy]
  have hlocked : s.destroyedLocked = some true := rfl
  exact ⟨hlocked, (hdestroyed true hlocked).mp rfl⟩

end Session
end Gateway
