import Mathlib.Data.List.DropRight
import Gateway.Lib.Run
import Gateway.Accepting.Owners

/-!
# Runs of the loops

* `FilesMoved`: what an operation does to the files, from which the rest follows;
* `connections_owned`: in every run no cell is used or freed twice and none is lost, and every
  connection is open in exactly one place;
* `closes_exact`: every `close` hits the file that it is meant for, except for the second one of
  `telemetryd` after a `malloc` that fails;
* `left_for_reason`: why the loop ends.
-/

namespace Gateway
namespace Accepting

open Descriptors ProcessInit

variable {server : Server} {s s' : State} {a : Action}

/-! ### What happens to the files -/

/-- The socket has been closed. -/
def socketClosed (server : Server) : Place → Bool
  | .left _ => true
  | .leaving .malloc => closesAtMalloc server
  | _ => false

/-- Every `close` hit the file that it was meant for. -/
def Right (closes : List (File × Option File)) : Prop := ∀ e ∈ closes, e.2 = some e.1

theorem right_concat {closes : List (File × Option File)} {f : File} {hit : Option File} :
    Right (closes ++ [(f, hit)]) ↔ Right closes ∧ hit = some f := by
  simp [Right, or_imp, forall_and]

/-- The loop stays where it is, or the socket is open before and after. -/
def Steady (server : Server) (s s' : State) : Prop :=
  s'.place = s.place ∨
    (socketClosed server s.place = false ∧ socketClosed server s'.place = false)

/-- The effects of an operation on the files: none, a file more, a file less that is no socket, or
the `close` of the socket. -/
inductive FilesMoved (server : Server) (s s' : State) : Prop
  | same (htable : s'.table = s.table) (hcloses : s'.closes = s.closes)
      (hplace : Steady server s s')
  | opened (f : File) (hf : f ≠ .listener) (htable : s'.table = s.table.openFile f)
      (hcloses : s'.closes = s.closes) (hplace : Steady server s s')
  | closed (fd : ℕ) (f : File) (hfd : s.table.file fd = some f)
      (hf : f ≠ .devNull ∧ f ≠ .listener) (htable : s'.table = s.table.close fd)
      (hcloses : Right s'.closes ↔ Right s.closes) (hplace : Steady server s s')
  | socket (htable : s'.table = s.table.close s.serverFd)
      (hcloses : s'.closes = s.closes ++ [(.listener, s.table.file s.serverFd)])
      (hplace : (s.place = .malloc ∧ closesAtMalloc server = true ∧ s'.place = .leaving .malloc) ∨
        ∃ r, s.place = .leaving r ∧ s'.place = .left r)

/-- A thread or the loop closes its connection. -/
theorem Inv.files_closed (h : Inv s) {o : Owner} {k : ℕ} {v : Option ℕ}
    (hk : connOf s o = some k) (hv : fdOf s o = v)
    (htable : s'.table = (s.close v (.client k)).table)
    (hcloses : s'.closes = (s.close v (.client k)).closes) (hplace : Steady server s s') :
    FilesMoved server s s' := by
  obtain ⟨fd, rfl, hfile⟩ := h.fd_eq hk hv
  refine .closed fd (.client k) hfile ⟨by simp, by simp⟩ htable ?_ hplace
  rw [hcloses]
  show Right (s.closes ++ [(.client k, s.table.file fd)]) ↔ Right s.closes
  rw [right_concat, hfile]
  exact and_iff_left rfl

theorem Inv.files_moved (h : Inv s) (hm : Moved server s a s') : FilesMoved server s s' := by
  -- a step of the loop with the socket open on both sides
  have hsteady : ∀ {p : Place} {s' : State}, s.place = p → socketClosed server p = false →
      socketClosed server s'.place = false → Steady server s s' := by
    rintro p s' rfl hbefore hafter
    exact Or.inr ⟨hbefore, hafter⟩
  cases hm with
  | stay => exact .same rfl rfl (Or.inl rfl)
  | signal => exact .same rfl rfl (Or.inl rfl)
  | proceed hplace hexit => exact .same rfl rfl (hsteady hplace rfl rfl)
  | resume hplace hexit => exact .same rfl rfl (hsteady hplace rfl rfl)
  | exit hplace hexit =>
    rcases hplace with hplace | hplace
    · exact .same rfl rfl (hsteady hplace rfl rfl)
    · exact .same rfl rfl (hsteady hplace rfl rfl)
  | allocate p v hplace hp => exact .same rfl rfl (hsteady hplace rfl rfl)
  | noMemory hplace =>
    by_cases hserver : closesAtMalloc server = true
    · rw [if_pos hserver]
      exact .socket rfl rfl (Or.inl ⟨hplace, hserver, rfl⟩)
    · rw [if_neg hserver]
      exact .same rfl rfl (hsteady hplace rfl (by simpa [socketClosed] using hserver))
  | client p v hplace hp hlistener =>
    exact .opened (.client s.accepted) (by simp) rfl rfl (hsteady hplace rfl rfl)
  | acceptFails p v answer hanswer hplace hp => exact .same rfl rfl (hsteady hplace rfl rfl)
  | retry p v hplace hp => exact .same rfl rfl (hsteady hplace rfl rfl)
  | count p v hplace hp =>
    refine .same rfl rfl (hsteady hplace rfl ?_)
    show socketClosed server (if _ then _ else _) = false
    split_ifs
    · rfl
    · rfl
  | create k p hplace => exact .same rfl rfl (hsteady hplace rfl rfl)
  | refuse k p hplace => exact .same rfl rfl (hsteady hplace rfl rfl)
  | drop k p v hplace hp =>
    exact h.files_closed (o := .loop) (by rw [connOf, hplace]; rfl) (fdOf_refused hplace hp) rfl rfl
      (hsteady hplace rfl rfl)
  | discard p v hplace hp => exact .same rfl rfl (hsteady hplace rfl rfl)
  | leave r hplace => exact .socket rfl rfl (Or.inr ⟨r, hplace, rfl⟩)
  | read k p v hk hp => exact .same rfl rfl (Or.inl rfl)
  | release k p fd v hk hp => exact .same rfl rfl (Or.inl rfl)
  | finish k fd hk =>
    exact h.files_closed (o := .handler k) (by rw [connOf, hk]; rfl) (by simp only [fdOf, hk]) rfl
      rfl (Or.inl rfl)
  | openOther => exact .opened .other (by simp) rfl rfl (Or.inl rfl)
  | closeOther fd hfd => exact .closed fd .other hfd ⟨by simp, by simp⟩ rfl Iff.rfl (Or.inl rfl)

theorem Moved.serverFd_eq (hm : Moved server s a s') : s'.serverFd = s.serverFd := by
  cases hm with
  | noMemory hplace =>
    cases closesAtMalloc server with
    | false => rfl
    | true => rfl
  | _ => rfl

/-! ### The standard descriptors and the socket -/

/-- The standard descriptors stand for `/dev/null`, and the socket is none of them. -/
structure Std (s : State) : Prop where
  std : ∀ n, n ≤ 2 → s.table.file n = some .devNull
  server : 2 < s.serverFd

theorem Std.of_files (h : Std s) (hserver : s'.serverFd = s.serverFd)
    (hm : FilesMoved server s s') : Std s' := by
  refine ⟨fun n hn => ?_, by rw [hserver]; exact h.server⟩
  have hstd := h.std n hn
  cases hm with
  | same htable hcloses hplace => rw [htable, hstd]
  | opened f hf htable hcloses hplace =>
    rw [htable]
    exact Table.file_openFile_of_some f hstd
  | closed fd f hfd hf htable hcloses hplace =>
    rw [htable, Table.file_close_of_ne, hstd]
    rintro rfl
    rw [hstd] at hfd
    exact hf.1 (Option.some.inj hfd).symm
  | socket htable hcloses hplace =>
    have hlt := h.server
    rw [htable, Table.file_close_of_ne (by omega), hstd]

/-- The socket is open until it is closed, which happens once unless `closesAtMalloc` makes it
twice. -/
structure Socket (server : Server) (s : State) : Prop where
  listening : socketClosed server s.place = false → s.table.file s.serverFd = some .listener
  closed : socketClosed server (.leaving .malloc) = true → s.place = .leaving .malloc →
    s.table.file s.serverFd ≠ some .listener
  right : Right s.closes ↔ ¬ (closesAtMalloc server = true ∧ s.place = .left .malloc)

theorem Socket.right_of_open (h : Socket server s) (hopen : socketClosed server s.place = false) :
    Right s.closes := by
  refine h.right.mpr ?_
  rintro ⟨-, hplace⟩
  rw [hplace] at hopen
  cases hopen

/-- An operation that leaves the socket alone. -/
theorem Socket.of_steady (h : Socket server s) (hplace : Steady server s s')
    (hfile : s'.table.file s'.serverFd = some .listener ↔
      s.table.file s.serverFd = some .listener)
    (hcloses : Right s'.closes ↔ Right s.closes) : Socket server s' := by
  rcases hplace with hplace | ⟨hbefore, hafter⟩
  · refine ⟨fun hopen => ?_, fun hserver hleaving => ?_, ?_⟩
    · rw [hplace] at hopen
      exact hfile.mpr (h.listening hopen)
    · rw [hplace] at hleaving
      exact fun hlistener => h.closed hserver hleaving (hfile.mp hlistener)
    · rw [hcloses, hplace]
      exact h.right
  · refine ⟨fun _ => hfile.mpr (h.listening hbefore), fun hserver hleaving => ?_, ?_⟩
    · rw [hleaving, hserver] at hafter
      cases hafter
    · refine iff_of_true (hcloses.mpr (h.right_of_open hbefore)) ?_
      rintro ⟨-, hleft⟩
      rw [hleft] at hafter
      cases hafter

theorem Socket.of_files (h : Socket server s) (hserver : s'.serverFd = s.serverFd)
    (hm : FilesMoved server s s') : Socket server s' := by
  cases hm with
  | same htable hcloses hplace =>
    exact h.of_steady hplace (by rw [htable, hserver]) (by rw [hcloses])
  | opened f hf htable hcloses hplace =>
    refine h.of_steady hplace ?_ (by rw [hcloses])
    rw [htable, hserver]
    by_cases hne : s.serverFd = s.table.lowest
    · rw [hne, Table.file_openFile_lowest, Table.file_lowest]
      simp [hf]
    · rw [Table.file_openFile_of_ne f hne]
  | closed fd f hfd hf htable hcloses hplace =>
    refine h.of_steady hplace ?_ hcloses
    rw [htable, hserver]
    by_cases hne : s.serverFd = fd
    · rw [hne, Table.file_close_self, hfd]
      simp [hf.2]
    · rw [Table.file_close_of_ne hne]
  | socket htable hcloses hplace =>
    have hgone : s'.table.file s'.serverFd = none := by
      rw [htable, hserver, Table.file_close_self]
    rcases hplace with ⟨hplace, hearly, hplace'⟩ | ⟨r, hplace, hplace'⟩
    · have hopen : socketClosed server s.place = false := by rw [hplace]; rfl
      refine ⟨fun hopen' => ?_, fun _ _ => by rw [hgone]; simp, ?_⟩
      · rw [hplace'] at hopen'
        exact absurd (hopen'.symm.trans hearly) (by simp)
      · rw [hcloses, right_concat, hplace']
        exact iff_of_true ⟨h.right_of_open hopen, h.listening hopen⟩ (by simp)
    · refine ⟨fun hopen' => ?_, fun _ hleaving => ?_, ?_⟩
      · rw [hplace'] at hopen'
        cases hopen'
      · rw [hplace'] at hleaving
        cases hleaving
      · rw [hcloses, right_concat, hplace']
        by_cases htwice : closesAtMalloc server = true ∧ r = .malloc
        · -- the second `close` does not find the socket
          obtain ⟨hearly, rfl⟩ := htwice
          exact iff_of_false (fun hright => h.closed hearly hplace hright.2) (by simp [hearly])
        · have hopen : socketClosed server s.place = false := by
            rw [hplace]
            cases r with
            | malloc => simpa [socketClosed] using htwice
            | exitRQ => rfl
            | accept => rfl
          refine iff_of_true ⟨h.right_of_open hopen, h.listening hopen⟩ ?_
          rintro ⟨hearly, hleft⟩
          exact htwice ⟨hearly, Place.left.inj hleft⟩

/-! ### Why the loop ends -/

/-- The failures of `accept` since the last connection, without the interruptions. -/
def failuresInRow (answers : List Accepted) : ℕ :=
  ((answers.filter (· ≠ .eintr)).rtakeWhile (· = .failed)).length

@[simp]
theorem failuresInRow_client (answers : List Accepted) :
    failuresInRow (answers ++ [.client]) = 0 := by
  simp [failuresInRow, List.filter_append]

@[simp]
theorem failuresInRow_eintr (answers : List Accepted) :
    failuresInRow (answers ++ [.eintr]) = failuresInRow answers := by
  simp [failuresInRow, List.filter_append]

@[simp]
theorem failuresInRow_failed (answers : List Accepted) :
    failuresInRow (answers ++ [.failed]) = failuresInRow answers + 1 := by
  simp [failuresInRow, List.filter_append]

def Place.reason : Place → Option Reason
  | .leaving r => some r
  | .left r => some r
  | _ => none

/-- The failures that have not been counted yet. -/
def Place.uncounted : Place → ℕ
  | .failed _ false => 1
  | _ => 0

theorem Place.uncounted_cases (q : Place) :
    q.uncounted = 0 ∨ (q.uncounted = 1 ∧ ∃ p, q = .failed p false) := by
  rcases q with _ | _ | _ | ⟨p, _ | _⟩ | _ | _ | _ | _ | _ | _
  all_goals first | exact Or.inl rfl | exact Or.inr ⟨rfl, p, rfl⟩

theorem Place.uncounted_of_reason {q : Place} {r : Reason} (h : q.reason = some r) :
    q.uncounted = 0 := by
  rcases q.uncounted_cases with hzero | ⟨-, p, rfl⟩
  · exact hzero
  · cases h

/-- The counter of failures, and what has led out of the loop. -/
structure Count (acts : List Action) (s : State) : Prop where
  inRow : failuresInRow s.answers = s.failureCount + s.place.uncounted
  limit : s.place.reason ≠ some .accept → s.failureCount < clientAcceptFailureLimitMax
  gaveUp : s.place.reason = some .accept → s.failureCount = clientAcceptFailureLimitMax
  exit : s.place.reason = some .exitRQ → s.exitRQ = true
  signal : s.exitRQ = true → Action.signal ∈ acts
  malloc : s.place.reason = some .malloc → Action.malloc none ∈ acts

variable {acts : List Action}

/-- An operation that leaves the counter as it is, and does not give up. -/
theorem Count.of_eq (h : Count acts s) (hanswers : s'.answers = s.answers)
    (hcount : s'.failureCount = s.failureCount) (hexitRQ : s'.exitRQ = s.exitRQ)
    (huncounted : s'.place.uncounted = s.place.uncounted)
    (haccept : s'.place.reason = some .accept ↔ s.place.reason = some .accept)
    (hexit : s'.place.reason = some .exitRQ → s.exitRQ = true)
    (hmalloc : s'.place.reason = some .malloc → Action.malloc none ∈ acts ++ [a]) :
    Count (acts ++ [a]) s' where
  inRow := by rw [hanswers, hcount, huncounted, h.inRow]
  limit hreason := by
    rw [hcount]
    exact h.limit fun hgaveUp => hreason (haccept.mpr hgaveUp)
  gaveUp hreason := by
    rw [hcount]
    exact h.gaveUp (haccept.mp hreason)
  exit hreason := by
    rw [hexitRQ]
    exact hexit hreason
  signal hsignal := by
    rw [hexitRQ] at hsignal
    exact List.mem_append_left _ (h.signal hsignal)
  malloc := hmalloc

/-- The loop stays in. -/
theorem Count.of_inside (h : Count acts s) (hplace : s.place.reason = none)
    (hplace' : s'.place.reason = none) (huncounted : s'.place.uncounted = s.place.uncounted)
    (hanswers : s'.answers = s.answers) (hcount : s'.failureCount = s.failureCount)
    (hexitRQ : s'.exitRQ = s.exitRQ) : Count (acts ++ [a]) s' :=
  h.of_eq hanswers hcount hexitRQ huncounted (by rw [hplace, hplace']) (by simp [hplace'])
    (by simp [hplace'])

/-- The loop goes on with its reason to leave, if any. -/
theorem Count.of_reason (h : Count acts s) (hplace : s'.place.reason = s.place.reason)
    (huncounted : s'.place.uncounted = s.place.uncounted) (hanswers : s'.answers = s.answers)
    (hcount : s'.failureCount = s.failureCount) (hexitRQ : s'.exitRQ = s.exitRQ) :
    Count (acts ++ [a]) s' := by
  refine h.of_eq hanswers hcount hexitRQ huncounted (by rw [hplace]) ?_ ?_
  · rw [hplace]
    exact h.exit
  · rw [hplace]
    exact fun hreason => List.mem_append_left _ (h.malloc hreason)

/-- A failure is counted, and the sixteenth in a row is the last. -/
theorem Count.counted (h : Count acts s) {p : ℕ} (hplace : s.place = .failed p false)
    (hplace' : s'.place = if s.failureCount + 1 ≥ clientAcceptFailureLimitMax then
      .leaving .accept else .test)
    (hanswers : s'.answers = s.answers) (hcount : s'.failureCount = s.failureCount + 1)
    (hexitRQ : s'.exitRQ = s.exitRQ) : Count (acts ++ [a]) s' := by
  have hinRow : failuresInRow s'.answers = s.failureCount + 1 := by
    rw [hanswers, h.inRow, hplace]
    rfl
  have hlt : s.failureCount < clientAcceptFailureLimitMax :=
    h.limit (by rw [hplace]; simp [Place.reason])
  have hsignal : s'.exitRQ = true → Action.signal ∈ acts ++ [a] := fun hexit =>
    List.mem_append_left _ (h.signal (by rw [← hexitRQ, hexit]))
  split_ifs at hplace' with hlimit
  · have hreason : s'.place.reason = some .accept := by rw [hplace']; rfl
    refine ⟨?_, fun hne => absurd hreason hne, fun _ => by omega, ?_, hsignal, ?_⟩
    · rw [hinRow, hcount, hplace']
      rfl
    · simp [hreason]
    · simp [hreason]
  · have hreason : s'.place.reason = none := by rw [hplace']; rfl
    refine ⟨?_, fun _ => by omega, ?_, ?_, hsignal, ?_⟩
    · rw [hinRow, hcount, hplace']
      rfl
    · simp [hreason]
    · simp [hreason]
    · simp [hreason]

/-- An answer of `accept`. -/
theorem Count.answered (h : Count acts s) (hplace' : s'.place.reason = none)
    (hinRow : failuresInRow s'.answers = s'.failureCount + s'.place.uncounted)
    (hcount : s'.failureCount ≤ s.failureCount) (hplace : s.place.reason = none)
    (hexitRQ : s'.exitRQ = s.exitRQ) : Count (acts ++ [a]) s' := by
  refine ⟨hinRow, fun _ => ?_, ?_, ?_, fun hexit => ?_, ?_⟩
  · exact hcount.trans_lt (h.limit (by simp [hplace]))
  · simp [hplace']
  · simp [hplace']
  · exact List.mem_append_left _ (h.signal (by rw [← hexitRQ, hexit]))
  · simp [hplace']

theorem Count.of_moved (h : Count acts s) (hm : Moved server s a s') :
    Count (acts ++ [a]) s' := by
  cases hm with
  | stay => exact h.of_reason rfl rfl rfl rfl rfl
  | signal =>
    refine ⟨h.inRow, h.limit, h.gaveUp, fun _ => rfl, fun _ => by simp, fun hreason => ?_⟩
    exact List.mem_append_left _ (h.malloc hreason)
  | proceed hplace hexit =>
    exact h.of_inside (by rw [hplace]; rfl) rfl (by rw [hplace]; rfl) rfl rfl rfl
  | resume hplace hexit =>
    exact h.of_inside (by rw [hplace]; rfl) rfl (by rw [hplace]; rfl) rfl rfl rfl
  | exit hplace hexit =>
    have hinside : s.place.reason = none ∧ s.place.uncounted = 0 := by
      rcases hplace with hplace | hplace
      · rw [hplace]
        exact ⟨rfl, rfl⟩
      · rw [hplace]
        exact ⟨rfl, rfl⟩
    exact h.of_eq rfl rfl rfl (by rw [hinside.2]; rfl) (by rw [hinside.1]; simp [Place.reason])
      (fun _ => hexit) nofun
  | allocate p v hplace hp =>
    exact h.of_inside (by rw [hplace]; rfl) rfl (by rw [hplace]; rfl) rfl rfl rfl
  | noMemory hplace =>
    -- `telemetryd` closes the socket here already
    have huncounted : s.place.uncounted = 0 := by rw [hplace]; rfl
    have hinside : s.place.reason = none := by rw [hplace]; rfl
    split_ifs
    · exact h.of_eq rfl rfl rfl huncounted.symm (by rw [hinside]; simp [Place.reason]) nofun
        fun _ => by simp
    · exact h.of_eq rfl rfl rfl huncounted.symm (by rw [hinside]; simp [Place.reason]) nofun
        fun _ => by simp
  | client p v hplace hp hlistener =>
    exact h.answered rfl (failuresInRow_client s.answers) (Nat.zero_le _) (by rw [hplace]; rfl) rfl
  | acceptFails p v answer hanswer hplace hp =>
    have hinRow : failuresInRow s.answers = s.failureCount := by
      rw [h.inRow, hplace]
      rfl
    refine h.answered rfl ?_ le_rfl (by rw [hplace]; rfl) rfl
    cases answer with
    | client => exact absurd rfl hanswer
    | eintr => exact (failuresInRow_eintr s.answers).trans hinRow
    -- the failure is in the record before the loop has counted it
    | failed =>
      show failuresInRow (s.answers ++ [.failed]) = s.failureCount + 1
      rw [failuresInRow_failed, hinRow]
  | retry p v hplace hp =>
    exact h.of_inside (by rw [hplace]; rfl) rfl (by rw [hplace]; rfl) rfl rfl rfl
  | count p v hplace hp => exact h.counted hplace rfl rfl rfl rfl
  | create k p hplace =>
    exact h.of_inside (by rw [hplace]; rfl) rfl (by rw [hplace]; rfl) rfl rfl rfl
  | refuse k p hplace =>
    exact h.of_inside (by rw [hplace]; rfl) rfl (by rw [hplace]; rfl) rfl rfl rfl
  | drop k p v hplace hp =>
    exact h.of_inside (by rw [hplace]; rfl) rfl (by rw [hplace]; rfl) rfl rfl rfl
  | discard p v hplace hp =>
    exact h.of_inside (by rw [hplace]; rfl) rfl (by rw [hplace]; rfl) rfl rfl rfl
  | leave r hplace =>
    exact h.of_reason (by rw [hplace]; rfl) (by rw [hplace]; rfl) rfl rfl rfl
  | read k p v hk hp => exact h.of_reason rfl rfl rfl rfl rfl
  | release k p fd v hk hp => exact h.of_reason rfl rfl rfl rfl rfl
  | finish k fd hk => exact h.of_reason rfl rfl rfl rfl rfl
  | openOther => exact h.of_reason rfl rfl rfl rfl rfl
  | closeOther fd hfd => exact h.of_reason rfl rfl rfl rfl rfl

/-! ### Whole runs -/

/-- What is known of the state that the operations `acts` lead to. -/
structure Reached (server : Server) (acts : List Action) (s : State) : Prop where
  inv : Inv s
  std : Std s
  socket : Socket server s
  count : Count acts s

theorem Reached.step (h : Reached server acts s) (a : Action) :
    ∃ s', step server s a = .ok s' ∧ Reached server (acts ++ [a]) s' := by
  obtain ⟨s', hs', hm⟩ : ∃ s', Accepting.step server s a = .ok s' ∧ Moved server s a s' :=
    step_moved h.inv.cellsLive a
  have hfiles : FilesMoved server s s' := h.inv.files_moved hm
  exact ⟨s', hs', h.inv.of_moved hm, h.std.of_files hm.serverFd_eq hfiles,
    h.socket.of_files hm.serverFd_eq hfiles, h.count.of_moved hm⟩

variable {t : Table File} {sys : server.Calls} {l : Listening}

/-- No connection is open when a daemon starts to listen. -/
theorem client_ne_of_prepared (hl : Prepared t l) (ht : ∀ n k, t.file n ≠ some (.client k))
    (n k : ℕ) : l.table.file n ≠ some (.client k) := by
  intro hclient
  by_cases hstd : n ≤ 2
  · rw [hl.std n hstd] at hclient
    cases hclient
  · by_cases hmq : n = l.mq
    · rw [hmq, hl.queue] at hclient
      cases hclient
    · by_cases hfd : n = l.serverFd
      · rw [hfd, hl.listener] at hclient
        cases hclient
      · rw [hl.rest n (by omega) hmq hfd] at hclient
        exact ht n k hclient

theorem reached_init (hl : Prepared t l) (ht : ∀ n k, t.file n ≠ some (.client k)) :
    Reached server [] (init l) := by
  have hclient := client_ne_of_prepared hl ht
  have hcell : ∀ o p, cellOf (init l) o ≠ some p := by
    intro o p
    cases o with
    | loop => exact nofun
    | handler k => exact nofun
  have hconn : ∀ o k, connOf (init l) o ≠ some k := by
    intro o k
    cases o with
    | loop => exact nofun
    | handler j => exact nofun
  refine ⟨?_, ⟨hl.std, hl.unused.2.2.1⟩, ?_, ?_⟩
  · refine ⟨⟨fun h => absurd h (hcell _ _), fun h => absurd h (hcell _ _), ?_⟩,
      ⟨fun h => absurd h (hconn _ _), fun h => absurd h (hconn _ _), ?_⟩,
      fun h => absurd h (hconn _ _), fun h => absurd h (hclient _ _),
      fun h => absurd h (hclient _ _), hclient l.serverFd⟩
    · rintro p ⟨v, hv⟩
      cases hv
    · rintro k ⟨fd, hfd⟩
      exact absurd hfd (hclient fd k)
  · exact ⟨fun _ => hl.listener, nofun, iff_of_true nofun (by simp [init])⟩
  · exact ⟨rfl, fun _ => by simp [init, clientAcceptFailureLimitMax], nofun, nofun, nofun, nofun⟩

theorem reached (hstart : server.start t sys = .ok l) (ht : ∀ n k, t.file n ≠ some (.client k))
    (acts : List Action) :
    ∃ s, Run.exec (step server) (init l) acts = .ok s ∧ Reached server acts s :=
  Run.exec_rule (reached_init ((start_ends server t sys).of_ok hstart) ht)
    (fun _ a _ h => h.step a) acts

/-- In every run the loop and the threads use only cells that are allocated.  Every cell and every
open connection has one owner, which has the descriptor of its own connection and not one of the
standard ones; and when the loop has been left and no thread has a connection, no cell and no
connection remains. -/
theorem connections_owned (server : Server) (t : Table File) (sys : server.Calls) (l : Listening)
    (hstart : server.start t sys = .ok l) (ht : ∀ n k, t.file n ≠ some (.client k))
    (acts : List Action) :
    ∃ s, Run.exec (step server) (init l) acts = .ok s ∧
      (∀ p, CellLive s p → ∃! o, cellOf s o = some p) ∧
      (∀ k, ConnOpen s k → ∃! o, connOf s o = some k) ∧
      (∀ o k, connOf s o = some k →
        ∃ fd, fdOf s o = some fd ∧ 2 < fd ∧ s.table.file fd = some (.client k)) ∧
      ((∃ r, s.place = .left r) → (∀ k, (s.handler k).isOpen = false) →
        (∀ p, s.heap p = none) ∧ ∀ fd k, s.table.file fd ≠ some (.client k)) := by
  obtain ⟨s, hs, h⟩ := reached hstart ht acts
  refine ⟨s, hs, fun p hp => h.inv.cells.existsUnique hp, fun k hk => h.inv.conns.existsUnique hk,
    fun o k hk => ?_, ?_⟩
  · obtain ⟨fd, hfd, hfile⟩ := h.inv.agree hk
    refine ⟨fd, hfd, ?_, hfile⟩
    by_contra hle
    rw [h.std.std fd (by omega)] at hfile
    cases hfile
  · rintro ⟨r, hplace⟩ hclosed
    refine ⟨fun p => ?_, fun fd k hfile => ?_⟩
    · by_contra hp
      obtain ⟨v, hv⟩ := Option.ne_none_iff_exists'.mp hp
      obtain ⟨o, ho⟩ := h.inv.cells.held ⟨v, hv⟩
      cases o with
      | loop => simp [cellOf, hplace, Place.cell] at ho
      | handler k => simp [cellOf, Handler.cell_eq_none (hclosed k)] at ho
    · obtain ⟨o, ho⟩ := h.inv.conns.held ⟨fd, hfile⟩
      cases o with
      | loop => simp [connOf, hplace, Place.conn] at ho
      | handler j => simp [connOf, hclosed j] at ho

/-- Calls that all succeed. -/
def succeeding : (server : Server) → server.Calls
  | .acquiringd => ⟨⟨.child, true, true, true⟩, true, true, ⟨true, true, true, true⟩, true⟩
  | .telemetryd =>
      ⟨⟨.child, true, true, true⟩, true, true, true, true, true, true, ⟨true, true, true, true⟩,
        true, true⟩

/-- `acquiringd` has accepted its first connection and has started the thread for it. -/
theorem connections_owned_started :
    ∃ l s, Server.start Table.empty .acquiringd (succeeding .acquiringd) = .ok l ∧
      Run.exec (step .acquiringd) (init l)
        [.next, .malloc (some (7, none)), .accept .client, .create true] = .ok s ∧
      s.handler 0 = .started 7 ∧ ∃! o, cellOf s o = some 7 := by
  obtain ⟨l, hl⟩ : ∃ l, Server.start Table.empty .acquiringd (succeeding .acquiringd) = .ok l :=
    ⟨_, rfl⟩
  have hlistener : l.table.file l.serverFd = some .listener :=
    ((start_ends _ _ _).of_ok hl).listener
  obtain ⟨s, hs, hcells, -⟩ := connections_owned .acquiringd Table.empty (succeeding .acquiringd) l
    hl (fun _ _ => nofun) [.next, .malloc (some (7, none)), .accept .client, .create true]
  refine ⟨l, s, hl, hs, ?_⟩
  simp [Run.exec, step, next, init, malloc, accept, State.store, hlistener, pure, Except.pure, bind,
    Except.bind] at hs
  subst hs
  exact ⟨by simp, hcells 7 ⟨some l.table.lowest, by simp⟩⟩

/-- Every `close` of the loop and of the threads hits the file that it is meant for, and fails to do
so exactly in `telemetryd` once the loop has been left because `malloc` failed. -/
theorem closes_exact (server : Server) (t : Table File) (sys : server.Calls) (l : Listening)
    (hstart : server.start t sys = .ok l) (ht : ∀ n k, t.file n ≠ some (.client k))
    (acts : List Action) :
    ∃ s, Run.exec (step server) (init l) acts = .ok s ∧
      ((∀ e ∈ s.closes, e.2 = some e.1) ↔ ¬ (server = .telemetryd ∧ s.place = .left .malloc)) := by
  obtain ⟨s, hs, h⟩ := reached hstart ht acts
  refine ⟨s, hs, ?_⟩
  have hserver : closesAtMalloc server = true ↔ server = .telemetryd := by
    cases server with
    | acquiringd => simp [closesAtMalloc]
    | telemetryd => simp [closesAtMalloc]
  rw [← hserver]
  exact h.socket.right

/-- `telemetryd` closes its socket twice where `malloc` fails. -/
theorem closes_exact_malloc :
    ∃ l s, Server.start Table.empty .telemetryd (succeeding .telemetryd) = .ok l ∧
      Run.exec (step .telemetryd) (init l) [.next, .malloc none, .next] = .ok s ∧
      s.place = .left .malloc ∧ ¬ ∀ e ∈ s.closes, e.2 = some e.1 := by
  obtain ⟨l, hl⟩ : ∃ l, Server.start Table.empty .telemetryd (succeeding .telemetryd) = .ok l :=
    ⟨_, rfl⟩
  obtain ⟨s, hs, hright⟩ := closes_exact .telemetryd Table.empty (succeeding .telemetryd) l hl
    (fun _ _ => nofun) [.next, .malloc none, .next]
  have hplace : s.place = .left .malloc := by
    obtain rfl := Except.ok.inj hs
    rfl
  exact ⟨l, s, hl, hs, hplace, fun h => hright.mp h ⟨rfl, hplace⟩⟩

/-- The loop is left for one of three reasons only: a signal, a `malloc` that failed, or sixteen
failures of `accept` with no connection between them, interruptions not counted.  There are never
more than sixteen, and the loop gives up with the next operation when there are. -/
theorem left_for_reason (server : Server) (t : Table File) (sys : server.Calls) (l : Listening)
    (hstart : server.start t sys = .ok l) (ht : ∀ n k, t.file n ≠ some (.client k))
    (acts : List Action) :
    ∃ s, Run.exec (step server) (init l) acts = .ok s ∧
      (s.place.reason = some .exitRQ → Action.signal ∈ acts) ∧
      (s.place.reason = some .malloc → Action.malloc none ∈ acts) ∧
      (s.place.reason = some .accept → failuresInRow s.answers = 16) ∧
      failuresInRow s.answers ≤ 16 ∧
      (failuresInRow s.answers = 16 → s.place.reason ≠ some .accept →
        ∃ s', step server s .next = .ok s' ∧ s'.place = .leaving .accept) := by
  obtain ⟨s, hs, h⟩ := reached hstart ht acts
  have hinRow := h.count.inRow
  have hlimit : s.place.reason ≠ some .accept → s.failureCount < 16 := h.count.limit
  have hgaveUp : s.place.reason = some .accept → failuresInRow s.answers = 16 := by
    intro hreason
    rw [hinRow, Place.uncounted_of_reason hreason]
    exact h.count.gaveUp hreason
  refine ⟨s, hs, fun hreason => h.count.signal (h.count.exit hreason), h.count.malloc, hgaveUp, ?_,
    fun hsixteen hin => ?_⟩
  · by_cases hreason : s.place.reason = some .accept
    · exact (hgaveUp hreason).le
    · have hlt := hlimit hreason
      rcases s.place.uncounted_cases with hzero | ⟨hone, -⟩
      · omega
      · omega
  · have hlt := hlimit hin
    rcases s.place.uncounted_cases with hzero | ⟨hone, p, hplace⟩
    · omega
    · obtain ⟨v, hp⟩ := h.inv.cellsLive .loop p (by rw [cellOf, hplace]; rfl)
      have hcount : s.failureCount + 1 ≥ clientAcceptFailureLimitMax := by
        rw [clientAcceptFailureLimitMax]
        omega
      refine ⟨{ s with
        heap := Function.update s.heap p none
        failureCount := s.failureCount + 1
        place := .leaving .accept }, ?_, rfl⟩
      simp only [step, next, hplace, State.free_eq hp]
      show Except.ok _ = Except.ok _
      rw [if_pos hcount]

/-- A signal while `accept` waits ends the loop. -/
theorem left_for_reason_signal :
    ∃ l s, Server.start Table.empty .telemetryd (succeeding .telemetryd) = .ok l ∧
      Run.exec (step .telemetryd) (init l)
        [.next, .malloc (some (7, none)), .signal, .accept .eintr, .next, .next] = .ok s ∧
      s.place = .leaving .exitRQ ∧ failuresInRow s.answers ≤ 16 := by
  obtain ⟨l, hl⟩ : ∃ l, Server.start Table.empty .telemetryd (succeeding .telemetryd) = .ok l :=
    ⟨_, rfl⟩
  obtain ⟨s, hs, -, -, -, hle, -⟩ := left_for_reason .telemetryd Table.empty
    (succeeding .telemetryd) l hl (fun _ _ => nofun)
    [.next, .malloc (some (7, none)), .signal, .accept .eintr, .next, .next]
  have hplace : s.place = .leaving .exitRQ := by
    obtain rfl := Except.ok.inj hs
    rfl
  exact ⟨l, s, hl, hs, hplace, hle⟩

end Accepting
end Gateway
