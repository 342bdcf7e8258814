import Gateway.Lib.Ownership
import Gateway.Accepting.Loop

/-!
# The owners of cells and connections

Each cell belongs to the loop until it is passed to a thread, and so does each connection.  Nobody
else may free the one or close the other.

* `Inv`: every allocated cell and every open connection has one owner, and the owner of a connection
  has its descriptor;
* `Inv.of_moved`: every operation keeps this so.
-/

namespace Gateway
namespace Accepting

open Descriptors Ownership ProcessInit

variable {server : Server} {s s' : State} {a : Action}

/-! ### What changes hands -/

theorem cellOf_congr (hplace : s'.place.cell = s.place.cell) (hhandler : s'.handler = s.handler) :
    cellOf s' = cellOf s := by
  funext o
  cases o with
  | loop => exact hplace
  | handler k => rw [cellOf, cellOf, hhandler]

theorem cellOf_loop (hhandler : s'.handler = s.handler) :
    cellOf s' = Function.update (cellOf s) .loop s'.place.cell := by
  funext o
  cases o with
  | loop => rw [Function.update_self, cellOf]
  | handler k => rw [Function.update_of_ne (by simp), cellOf, cellOf, hhandler]

theorem cellOf_handler {k : ℕ} {x : Handler} (hplace : s'.place.cell = s.place.cell)
    (hhandler : s'.handler = Function.update s.handler k x) :
    cellOf s' = Function.update (cellOf s) (.handler k) x.cell := by
  funext o
  cases o with
  | loop => rw [Function.update_of_ne (by simp), cellOf, cellOf, hplace]
  | handler j =>
    by_cases hj : j = k
    · rw [hj, Function.update_self, cellOf, hhandler, Function.update_self]
    · rw [Function.update_of_ne (by simpa using hj), cellOf, cellOf, hhandler,
        Function.update_of_ne hj]

theorem connOf_congr (hplace : s'.place.conn = s.place.conn) (hhandler : s'.handler = s.handler) :
    connOf s' = connOf s := by
  funext o
  cases o with
  | loop => exact hplace
  | handler k => rw [connOf, connOf, hhandler]

theorem connOf_loop (hhandler : s'.handler = s.handler) :
    connOf s' = Function.update (connOf s) .loop s'.place.conn := by
  funext o
  cases o with
  | loop => rw [Function.update_self, connOf]
  | handler k => rw [Function.update_of_ne (by simp), connOf, connOf, hhandler]

theorem connOf_handler {k : ℕ} {x : Handler} (hplace : s'.place.conn = s.place.conn)
    (hhandler : s'.handler = Function.update s.handler k x) :
    connOf s' =
      Function.update (connOf s) (.handler k) (if x.isOpen then some k else none) := by
  funext o
  cases o with
  | loop => rw [Function.update_of_ne (by simp), connOf, connOf, hplace]
  | handler j =>
    by_cases hj : j = k
    · rw [hj, Function.update_self, connOf, hhandler, Function.update_self]
    · rw [Function.update_of_ne (by simpa using hj), connOf, connOf, hhandler,
        Function.update_of_ne hj]

/-- An owner of a connection has its descriptor in its cell or in its hands, so that it depends on
no other cell. -/
theorem fdOf_congr {o : Owner} (hplace : s'.place.cell = s.place.cell ∨ o ≠ .loop)
    (hhandler : ∀ k, o = .handler k → s'.handler k = s.handler k)
    (hheap : ∀ p, cellOf s o = some p → s'.heap p = s.heap p) : fdOf s' o = fdOf s o := by
  cases o with
  | loop =>
    have hcell : s'.place.cell = s.place.cell := hplace.resolve_right (by simp)
    rw [fdOf, fdOf, hcell]
    cases hp : s.place.cell with
    | none => rfl
    | some p => rw [Option.bind_some, Option.bind_some, hheap p hp]
  | handler k =>
    have hk : s'.handler k = s.handler k := hhandler k rfl
    cases hx : s.handler k with
    | started p =>
      rw [hx] at hk
      have hp : s'.heap p = s.heap p := hheap p (by rw [cellOf, hx]; rfl)
      simp only [fdOf, hx, hk, hp]
    | absent =>
      rw [hx] at hk
      simp only [fdOf, hx, hk]
    | reading p fd =>
      rw [hx] at hk
      simp only [fdOf, hx, hk]
    | serving fd =>
      rw [hx] at hk
      simp only [fdOf, hx, hk]
    | returned =>
      rw [hx] at hk
      simp only [fdOf, hx, hk]

/-! ### The invariant -/

def ConnOpen (s : State) (k : ℕ) : Prop := ∃ fd, s.table.file fd = some (.client k)

def CellLive (s : State) (p : ℕ) : Prop := ∃ v, s.heap p = some v

/-- Every allocated cell and every open connection has one owner, and the owner of a connection has
its descriptor. -/
structure Inv (s : State) : Prop where
  cells : Exclusive (cellOf s) (CellLive s)
  conns : Exclusive (connOf s) (ConnOpen s)
  agree : ∀ {o k}, connOf s o = some k →
    ∃ fd, fdOf s o = some fd ∧ s.table.file fd = some (.client k)
  single : ∀ {fd fd' k}, s.table.file fd = some (.client k) →
    s.table.file fd' = some (.client k) → fd = fd'
  bound : ∀ {fd k}, s.table.file fd = some (.client k) → k < s.accepted
  server : ∀ k, s.table.file s.serverFd ≠ some (.client k)

theorem Inv.cellsLive (h : Inv s) : CellsLive s := fun _ _ hp => h.cells.live_of_hold hp

/-- The connection that the loop has in its hands has no thread yet. -/
theorem Inv.handler_closed (h : Inv s) {k : ℕ} (hk : s.place.conn = some k) :
    (s.handler k).isOpen = false := by
  by_contra hopen
  have hk' : connOf s (.handler k) = some k := by
    rw [connOf, if_pos (by simpa using hopen)]
  cases h.conns.alone (show connOf s .loop = some k from hk) hk'

theorem Handler.cell_eq_none {x : Handler} (h : x.isOpen = false) : x.cell = none := by
  cases x with
  | started p => cases h
  | reading p fd => cases h
  | absent => rfl
  | serving fd => cases h
  | returned => rfl

/-- An operation that leaves the connections with their owners. -/
theorem Inv.frame (h : Inv s) (hcells : Exclusive (cellOf s') (CellLive s'))
    (hconn : connOf s' = connOf s) (hfd : ∀ o k, connOf s o = some k → fdOf s' o = fdOf s o)
    (htable : ∀ fd k, s'.table.file fd = some (.client k) ↔ s.table.file fd = some (.client k))
    (haccepted : s'.accepted = s.accepted) (hserver : s'.serverFd = s.serverFd) : Inv s' where
  cells := hcells
  conns := by
    rw [hconn]
    exact h.conns.congr fun k => exists_congr fun fd => htable fd k
  agree := by
    intro o k hk
    rw [hconn] at hk
    obtain ⟨fd, hfdo, hfile⟩ := h.agree hk
    exact ⟨fd, by rw [hfd o k hk, hfdo], (htable fd k).mpr hfile⟩
  single hfd hfd' := h.single ((htable _ _).mp hfd) ((htable _ _).mp hfd')
  bound hfd := by
    rw [haccepted]
    exact h.bound ((htable _ _).mp hfd)
  server k hfd := by
    rw [hserver] at hfd
    exact h.server k ((htable _ _).mp hfd)

/-- The owner of a connection closes its descriptor. -/
theorem Inv.close_conn (h : Inv s) {o : Owner} {k fd : ℕ} (hk : connOf s o = some k)
    (hfdo : fdOf s o = some fd) (hcells : Exclusive (cellOf s') (CellLive s'))
    (hconn : connOf s' = Function.update (connOf s) o none)
    (hfd : ∀ o' k', o' ≠ o → connOf s o' = some k' → fdOf s' o' = fdOf s o')
    (htable : s'.table = s.table.close fd) (haccepted : s'.accepted = s.accepted)
    (hserver : s'.serverFd = s.serverFd) : Inv s' := by
  have hfile : s.table.file fd = some (.client k) := by
    obtain ⟨fd', hfdo', hfile⟩ := h.agree hk
    rw [hfdo] at hfdo'
    rw [Option.some.inj hfdo', hfile]
  -- the other connections stand under other numbers
  have hclient : ∀ fd' k', s'.table.file fd' = some (.client k') ↔
      k' ≠ k ∧ s.table.file fd' = some (.client k') := by
    intro fd' k'
    rw [htable]
    constructor
    · intro hopen
      obtain ⟨hne, hopen⟩ := Table.file_close_eq_some hopen
      refine ⟨?_, hopen⟩
      rintro rfl
      exact hne (h.single hopen hfile)
    · rintro ⟨hne, hopen⟩
      rw [Table.file_close_of_ne, hopen]
      rintro rfl
      rw [hfile] at hopen
      exact hne (File.client.inj (Option.some.inj hopen)).symm
  refine ⟨hcells, ?_, fun {o' k'} hk' => ?_, fun hfd₁ hfd₂ => ?_, fun hfd => ?_, fun k' hfd => ?_⟩
  · rw [hconn]
    refine h.conns.release hk fun k' => ?_
    simp only [ConnOpen, hclient, exists_and_left]
  · rw [hconn] at hk'
    have hne : o' ≠ o := by
      rintro rfl
      rw [Function.update_self] at hk'
      cases hk'
    rw [Function.update_of_ne hne] at hk'
    obtain ⟨fd', hfdo', hfile'⟩ := h.agree hk'
    refine ⟨fd', by rw [hfd o' k' hne hk', hfdo'], (hclient fd' k').mpr ⟨?_, hfile'⟩⟩
    rintro rfl
    exact hne (h.conns.alone hk' hk)
  · exact h.single ((hclient _ _).mp hfd₁).2 ((hclient _ _).mp hfd₂).2
  · rw [haccepted]
    exact h.bound ((hclient _ _).mp hfd).2
  · rw [hserver] at hfd
    exact h.server k' ((hclient _ _).mp hfd).2

/-! ### Cells -/

theorem cellLive_congr (h : s'.heap = s.heap) (p : ℕ) : CellLive s' p ↔ CellLive s p := by
  rw [CellLive, CellLive, h]

theorem cellLive_update {p : ℕ} {v : Option ℕ} (h : s'.heap = Function.update s.heap p (some v))
    (q : ℕ) : CellLive s' q ↔ q = p ∨ CellLive s q := by
  by_cases hq : q = p
  · subst hq
    simp [CellLive, h]
  · simp [CellLive, h, hq]

theorem cellLive_free {p : ℕ} (h : s'.heap = Function.update s.heap p none) (q : ℕ) :
    CellLive s' q ↔ q ≠ p ∧ CellLive s q := by
  by_cases hq : q = p
  · subst hq
    simp [CellLive, h]
  · simp [CellLive, h, hq]

/-- The cells stay with their owners, and none is allocated or freed. -/
theorem Inv.cells_congr (h : Inv s) (hplace : s'.place.cell = s.place.cell)
    (hhandler : s'.handler = s.handler) (hheap : s'.heap = s.heap) :
    Exclusive (cellOf s') (CellLive s') := by
  rw [cellOf_congr hplace hhandler]
  exact h.cells.congr (cellLive_congr hheap)

/-- The loop gets a cell. -/
theorem Inv.cells_malloc (h : Inv s) {p : ℕ} {v : Option ℕ} (hp : s.heap p = none)
    (hcell : s.place.cell = none) (hplace : s'.place.cell = some p)
    (hhandler : s'.handler = s.handler) (hheap : s'.heap = Function.update s.heap p (some v)) :
    Exclusive (cellOf s') (CellLive s') := by
  rw [cellOf_loop hhandler, hplace]
  refine h.cells.acquire hcell ?_ (cellLive_update hheap)
  rintro ⟨w, hw⟩
  rw [hp] at hw
  cases hw

/-- The loop stores a descriptor in its cell. -/
theorem Inv.cells_store (h : Inv s) {p : ℕ} {v w : Option ℕ} (hp : s.heap p = some v)
    (hplace : s'.place.cell = s.place.cell) (hhandler : s'.handler = s.handler)
    (hheap : s'.heap = Function.update s.heap p (some w)) :
    Exclusive (cellOf s') (CellLive s') := by
  rw [cellOf_congr hplace hhandler]
  refine h.cells.congr fun q => ?_
  rw [cellLive_update hheap]
  constructor
  · rintro (rfl | hq)
    · exact ⟨v, hp⟩
    · exact hq
  · exact Or.inr

/-- The loop frees its cell. -/
theorem Inv.cells_free (h : Inv s) {p : ℕ} (hcell : s.place.cell = some p)
    (hplace : s'.place.cell = none) (hhandler : s'.handler = s.handler)
    (hheap : s'.heap = Function.update s.heap p none) : Exclusive (cellOf s') (CellLive s') := by
  rw [cellOf_loop hhandler, hplace]
  exact h.cells.release hcell (cellLive_free hheap)

/-- A thread that stays as it is with regard to its cell. -/
theorem Inv.cells_handler (h : Inv s) {k : ℕ} {x : Handler} (hx : x.cell = (s.handler k).cell)
    (hplace : s'.place.cell = s.place.cell) (hhandler : s'.handler = Function.update s.handler k x)
    (hheap : s'.heap = s.heap) : Exclusive (cellOf s') (CellLive s') := by
  have hcell : cellOf s' = cellOf s := by
    rw [cellOf_handler hplace hhandler, hx]
    exact Function.update_eq_self (Owner.handler k) (cellOf s)
  rw [hcell]
  exact h.cells.congr (cellLive_congr hheap)

/-- A thread frees its cell. -/
theorem Inv.cells_release (h : Inv s) {k p : ℕ} {x : Handler} (hcell : (s.handler k).cell = some p)
    (hx : x.cell = none) (hplace : s'.place.cell = s.place.cell)
    (hhandler : s'.handler = Function.update s.handler k x)
    (hheap : s'.heap = Function.update s.heap p none) : Exclusive (cellOf s') (CellLive s') := by
  have hk : cellOf s (.handler k) = some p := hcell
  rw [cellOf_handler hplace hhandler, hx]
  exact h.cells.release hk (cellLive_free hheap)

/-! ### Descriptors -/

/-- A file that is no connection changes nothing for the connections. -/
theorem client_openFile_other (t : Table File) (fd k : ℕ) :
    (t.openFile .other).file fd = some (.client k) ↔ t.file fd = some (.client k) := by
  by_cases hfd : fd = t.lowest
  · rw [hfd, Table.file_openFile_lowest, Table.file_lowest]
    simp
  · rw [Table.file_openFile_of_ne _ hfd]

theorem client_close {t : Table File} {fd : ℕ} (h : ∀ k, t.file fd ≠ some (.client k))
    (fd' k : ℕ) : (t.close fd).file fd' = some (.client k) ↔ t.file fd' = some (.client k) := by
  by_cases hfd : fd' = fd
  · rw [hfd, Table.file_close_self]
    exact ⟨nofun, fun hk => absurd hk (h k)⟩
  · rw [Table.file_close_of_ne hfd]

/-- The loop moves on with its cell and its connection, if any. -/
theorem Inv.of_place (h : Inv s) (hcell : s'.place.cell = s.place.cell)
    (hconn : s'.place.conn = s.place.conn) (hhandler : s'.handler = s.handler)
    (hheap : s'.heap = s.heap)
    (htable : ∀ fd k, s'.table.file fd = some (.client k) ↔ s.table.file fd = some (.client k))
    (haccepted : s'.accepted = s.accepted) (hserver : s'.serverFd = s.serverFd) : Inv s' := by
  refine h.frame (h.cells_congr hcell hhandler hheap) (connOf_congr hconn hhandler)
    (fun o k _ => fdOf_congr (Or.inl hcell) (fun k _ => by rw [hhandler]) fun p _ => by rw [hheap])
    htable haccepted hserver

theorem Inv.goto (h : Inv s) {q : Place} (hcell : q.cell = s.place.cell)
    (hconn : q.conn = s.place.conn) : Inv { s with place := q } :=
  h.of_place hcell hconn rfl rfl (fun _ _ => Iff.rfl) rfl rfl

/-- The loop uses its cell while it has no connection. -/
theorem Inv.of_cell (h : Inv s) {p : ℕ} (hcells : Exclusive (cellOf s') (CellLive s'))
    (hp : s.place.cell = some p ∨ s.heap p = none) (hconn : s.place.conn = none)
    (hconn' : s'.place.conn = none) (hhandler : s'.handler = s.handler)
    (hheap : ∀ q, q ≠ p → s'.heap q = s.heap q) (htable : s'.table = s.table)
    (haccepted : s'.accepted = s.accepted) (hserver : s'.serverFd = s.serverFd) : Inv s' := by
  refine h.frame hcells (connOf_congr (by rw [hconn, hconn']) hhandler) (fun o k hk => ?_)
    (fun fd k => by rw [htable]) haccepted hserver
  have hloop : o ≠ .loop := by
    rintro rfl
    rw [connOf, hconn] at hk
    cases hk
  refine fdOf_congr (Or.inr hloop) (fun k _ => by rw [hhandler]) fun q hq => hheap q ?_
  rintro rfl
  rcases hp with hp | hp
  · exact hloop (h.cells.alone hq hp)
  · obtain ⟨v, hv⟩ := h.cells.live_of_hold hq
    rw [hp] at hv
    cases hv

/-! ### The operations on connections -/

/-- `accept` returns a connection, under a number that was free. -/
theorem Inv.client (h : Inv s) {p : ℕ} {v : Option ℕ} (hplace : s.place = .accept p)
    (hp : s.heap p = some v) (hlistener : s.table.file s.serverFd = some .listener)
    (hplace' : s'.place = .create s.accepted p) (hhandler : s'.handler = s.handler)
    (hheap : s'.heap = Function.update s.heap p (some (some s.table.lowest)))
    (htable : s'.table = s.table.openFile (.client s.accepted))
    (haccepted : s'.accepted = s.accepted + 1) (hserver : s'.serverFd = s.serverFd) : Inv s' := by
  have hcell : s.place.cell = some p := by rw [hplace]; rfl
  have hcell' : s'.place.cell = some p := by rw [hplace']; rfl
  have hclient : ∀ fd k, s'.table.file fd = some (.client k) ↔
      (fd = s.table.lowest ∧ k = s.accepted) ∨ s.table.file fd = some (.client k) := by
    intro fd k
    rw [htable]
    by_cases hfd : fd = s.table.lowest
    · rw [hfd, Table.file_openFile_lowest, Table.file_lowest]
      simp [eq_comm]
    · rw [Table.file_openFile_of_ne _ hfd]
      simp [hfd]
  -- connections are numbered in the order of `accept`
  have hnew : ¬ ConnOpen s s.accepted := by
    rintro ⟨fd, hfd⟩
    exact (h.bound hfd).false
  have hloop : connOf s .loop = none := by rw [connOf, hplace]; rfl
  have hconn : connOf s' = Function.update (connOf s) .loop (some s.accepted) := by
    rw [connOf_loop hhandler, hplace']
    rfl
  refine ⟨h.cells_store hp (by rw [hcell, hcell']) hhandler hheap, ?_, fun {o k} hk => ?_,
    fun {fd fd' k} hfd hfd' => ?_, fun {fd k} hfd => ?_, fun k hfd => ?_⟩
  · rw [hconn]
    refine h.conns.acquire hloop hnew fun k => ?_
    simp only [ConnOpen, hclient, exists_or, exists_and_right, exists_eq, true_and]
  · rw [hconn] at hk
    by_cases ho : o = .loop
    · rw [ho, Function.update_self] at hk
      refine ⟨s.table.lowest, ?_, (hclient _ k).mpr (Or.inl ⟨rfl, (Option.some.inj hk).symm⟩)⟩
      rw [ho, fdOf, hcell', Option.bind_some, hheap, Function.update_self]
      rfl
    · rw [Function.update_of_ne ho] at hk
      obtain ⟨fd, hfdo, hfile⟩ := h.agree hk
      refine ⟨fd, ?_, (hclient fd k).mpr (Or.inr hfile)⟩
      rw [← hfdo]
      -- the descriptor was written to the cell of the loop, which is no other owner's
      refine fdOf_congr (Or.inr ho) (fun k _ => by rw [hhandler]) fun q hq => ?_
      rw [hheap, Function.update_of_ne]
      rintro rfl
      exact ho (h.cells.alone hq hcell)
  · rcases (hclient fd k).mp hfd with ⟨rfl, rfl⟩ | hfile
    · rcases (hclient fd' _).mp hfd' with ⟨rfl, -⟩ | hfile'
      · rfl
      · exact absurd ⟨fd', hfile'⟩ hnew
    · rcases (hclient fd' k).mp hfd' with ⟨rfl, rfl⟩ | hfile'
      · exact absurd ⟨fd, hfile⟩ hnew
      · exact h.single hfile hfile'
  · rw [haccepted]
    rcases (hclient fd k).mp hfd with ⟨-, rfl⟩ | hfile
    · omega
    · have hlt := h.bound hfile
      omega
  · rw [hserver] at hfd
    rcases (hclient _ k).mp hfd with ⟨hlowest, -⟩ | hfile
    · exact Table.ne_lowest hlistener hlowest
    · exact h.server k hfile

/-- The new thread gets the cell, and with it the connection. -/
theorem Inv.create (h : Inv s) {k p : ℕ} (hplace : s.place = .create k p) :
    Inv { s with handler := Function.update s.handler k (.started p), place := .test } := by
  set s' : State := { s with handler := Function.update s.handler k (.started p), place := .test }
  -- first the loop lets go of the two, then the thread takes them
  set u : State := { s with place := .test }
  have hclosed : (s.handler k).isOpen = false := h.handler_closed (by rw [hplace]; rfl)
  have hcell : cellOf s .loop = some p := by rw [cellOf, hplace]; rfl
  have hconn : connOf s .loop = some k := by rw [connOf, hplace]; rfl
  have hstarted : s'.handler = Function.update u.handler k (.started p) := rfl
  have hcells : cellOf s' =
      Function.update (Function.update (cellOf s) .loop none) (.handler k) (some p) := by
    have hlet : cellOf u = Function.update (cellOf s) .loop none := cellOf_loop rfl
    have htake : cellOf s' = Function.update (cellOf u) (.handler k) (some p) :=
      cellOf_handler (show s'.place.cell = u.place.cell from rfl) hstarted
    rw [htake, hlet]
  have hconns : connOf s' =
      Function.update (Function.update (connOf s) .loop none) (.handler k) (some k) := by
    have hlet : connOf u = Function.update (connOf s) .loop none := connOf_loop rfl
    have htake : connOf s' = Function.update (connOf u) (.handler k) (some k) :=
      connOf_handler (show s'.place.conn = u.place.conn from rfl) hstarted
    rw [htake, hlet]
  refine ⟨?_, ?_, fun {o j} hj => ?_, h.single, h.bound, h.server⟩
  · rw [hcells]
    exact h.cells.transfer hcell (Handler.cell_eq_none hclosed)
  · rw [hconns]
    exact h.conns.transfer hconn (by rw [connOf, if_neg (by simp [hclosed])])
  · by_cases ho : o = .handler k
    · rw [hconns, ho, Function.update_self] at hj
      obtain rfl := Option.some.inj hj
      obtain ⟨fd, hfd, hfile⟩ := h.agree hconn
      refine ⟨fd, ?_, hfile⟩
      have hloop : fdOf s .loop = (s.heap p).join := by rw [fdOf, hplace]; rfl
      rw [ho, ← hfd, hloop, fdOf]
      simp only [s', Function.update_self]
    · have hloop : o ≠ .loop := by
        rintro rfl
        rw [hconns, Function.update_of_ne (by simp), Function.update_self] at hj
        cases hj
      rw [hconns, Function.update_of_ne ho, Function.update_of_ne hloop] at hj
      obtain ⟨fd, hfd, hfile⟩ := h.agree hj
      refine ⟨fd, ?_, hfile⟩
      rw [← hfd]
      refine fdOf_congr (Or.inr hloop) (fun i hi => ?_) fun _ _ => rfl
      refine Function.update_of_ne ?_ _ _
      rintro rfl
      exact ho hi

/-- A thread goes on with its connection. -/
theorem Inv.of_handler (h : Inv s) {k : ℕ} {x : Handler} (hopen : (s.handler k).isOpen = true)
    (hx : x.isOpen = true) (hcells : Exclusive (cellOf s') (CellLive s'))
    (hplace : s'.place = s.place) (hhandler : s'.handler = Function.update s.handler k x)
    (hfd : fdOf s' (.handler k) = fdOf s (.handler k))
    (hheap : ∀ o p, o ≠ .handler k → cellOf s o = some p → s'.heap p = s.heap p)
    (htable : s'.table = s.table) (haccepted : s'.accepted = s.accepted)
    (hserver : s'.serverFd = s.serverFd) : Inv s' := by
  refine h.frame hcells ?_ (fun o j _ => ?_) (fun fd k => by rw [htable]) haccepted hserver
  · rw [connOf_handler (by rw [hplace]) hhandler, if_pos hx]
    refine Function.update_eq_self_iff.mpr ?_
    rw [connOf, if_pos hopen]
  · by_cases ho : o = .handler k
    · rw [ho, hfd]
    · refine fdOf_congr (Or.inl (by rw [hplace])) (fun i hi => ?_) fun p hp => hheap o p ho hp
      rw [hhandler, Function.update_of_ne]
      rintro rfl
      exact ho hi

/-- The descriptor that a thread or the loop is about to close is that of its connection. -/
theorem Inv.fd_eq (h : Inv s) {o : Owner} {k : ℕ} {v : Option ℕ} (hk : connOf s o = some k)
    (hv : fdOf s o = v) : ∃ fd, v = some fd ∧ s.table.file fd = some (.client k) := by
  rw [← hv]
  exact h.agree hk

theorem fdOf_refused {k p : ℕ} {v : Option ℕ} (hplace : s.place = .refused k p)
    (hp : s.heap p = some v) : fdOf s .loop = v := by
  rw [fdOf, hplace]
  show (s.heap p).join = v
  rw [hp, Option.join_some]

/-- Every operation keeps the invariant. -/
theorem Inv.of_moved (h : Inv s) (hm : Moved server s a s') : Inv s' := by
  cases hm with
  | stay => exact h
  | signal => exact h.of_place rfl rfl rfl rfl (fun _ _ => Iff.rfl) rfl rfl
  | proceed hplace hexit =>
    exact h.goto (by rw [hplace]; rfl) (by rw [hplace]; rfl)
  | resume hplace hexit =>
    exact h.goto (by rw [hplace]; rfl) (by rw [hplace]; rfl)
  | exit hplace hexit =>
    rcases hplace with hplace | hplace
    · exact h.goto (by rw [hplace]; rfl) (by rw [hplace]; rfl)
    · exact h.goto (by rw [hplace]; rfl) (by rw [hplace]; rfl)
  | allocate p v hplace hp =>
    exact h.of_cell (h.cells_malloc hp (by rw [hplace]; rfl) rfl rfl rfl) (Or.inr hp)
      (by rw [hplace]; rfl) rfl rfl (fun q hq => Function.update_of_ne hq _ _) rfl rfl rfl
  | noMemory hplace =>
    cases closesAtMalloc server with
    | false =>
      exact h.goto (by rw [hplace]; rfl) (by rw [hplace]; rfl)
    | true =>
      exact h.of_place (by rw [hplace]; rfl) (by rw [hplace]; rfl) rfl rfl (client_close h.server)
        rfl rfl
  | client p v hplace hp hlistener => exact h.client hplace hp hlistener rfl rfl rfl rfl rfl rfl
  | acceptFails p v answer hanswer hplace hp =>
    exact h.of_cell (h.cells_store hp (by rw [hplace]; rfl) rfl rfl) (Or.inl (by rw [hplace]; rfl))
      (by rw [hplace]; rfl) rfl rfl (fun q hq => Function.update_of_ne hq _ _) rfl rfl rfl
  | retry p v hplace hp =>
    exact h.of_cell (h.cells_free (by rw [hplace]; rfl) rfl rfl rfl) (Or.inl (by rw [hplace]; rfl))
      (by rw [hplace]; rfl) rfl rfl (fun q hq => Function.update_of_ne hq _ _) rfl rfl rfl
  | count p v hplace hp =>
    have hnone : ∀ {q : Place}, q = .leaving .accept ∨ q = .test →
        q.cell = none ∧ q.conn = none := by
      rintro q (rfl | rfl)
      · exact ⟨rfl, rfl⟩
      · exact ⟨rfl, rfl⟩
    have hnext := hnone (ite_eq_or_eq (s.failureCount + 1 ≥ clientAcceptFailureLimitMax)
      (Place.leaving .accept) .test)
    exact h.of_cell (h.cells_free (by rw [hplace]; rfl) hnext.1 rfl rfl)
      (Or.inl (by rw [hplace]; rfl)) (by rw [hplace]; rfl) hnext.2 rfl
      (fun q hq => Function.update_of_ne hq _ _) rfl rfl rfl
  | create k p hplace => exact h.create hplace
  | refuse k p hplace =>
    exact h.goto (by rw [hplace]; rfl) (by rw [hplace]; rfl)
  | drop k p v hplace hp =>
    have hk : connOf s .loop = some k := by rw [connOf, hplace]; rfl
    have hv : fdOf s .loop = v := fdOf_refused hplace hp
    obtain ⟨fd, rfl, hfile⟩ := h.fd_eq hk hv
    refine h.close_conn hk hv (h.cells_congr (by rw [hplace]; rfl) rfl rfl)
      (connOf_loop rfl) (fun o k' ho hk' => ?_) rfl rfl rfl
    exact fdOf_congr (Or.inr ho) (fun _ _ => rfl) fun _ _ => rfl
  | discard p v hplace hp =>
    exact h.of_cell (h.cells_free (by rw [hplace]; rfl) rfl rfl rfl) (Or.inl (by rw [hplace]; rfl))
      (by rw [hplace]; rfl) rfl rfl (fun q hq => Function.update_of_ne hq _ _) rfl rfl rfl
  | leave r hplace =>
    exact h.of_place (by rw [hplace]; rfl) (by rw [hplace]; rfl) rfl rfl (client_close h.server) rfl
      rfl
  | read k p v hk hp =>
    refine h.of_handler (by rw [hk]; rfl) rfl (h.cells_handler (by rw [hk]; rfl) rfl rfl rfl) rfl
      rfl ?_ (fun _ _ _ _ => rfl) rfl rfl rfl
    simp only [fdOf, Function.update_self, hk, hp, Option.join_some]
  | release k p fd v hk hp =>
    have hcell : cellOf s (.handler k) = some p := by rw [cellOf, hk]; rfl
    refine h.of_handler (by rw [hk]; rfl) rfl (h.cells_release hcell rfl rfl rfl rfl) rfl rfl ?_
      (fun o q ho hq => ?_) rfl rfl rfl
    · simp only [fdOf, Function.update_self, hk]
    · refine Function.update_of_ne ?_ _ _
      rintro rfl
      exact ho (h.cells.alone hq hcell)
  | finish k fd hk =>
    have hconn : connOf s (.handler k) = some k := by rw [connOf, hk]; rfl
    have hfd : fdOf s (.handler k) = fd := by simp only [fdOf, hk]
    obtain ⟨n, rfl, hfile⟩ := h.fd_eq hconn hfd
    refine h.close_conn hconn hfd (h.cells_handler (by rw [hk]; rfl) rfl rfl rfl)
      (connOf_handler (x := .returned) rfl rfl) (fun o k' ho hk' => ?_) rfl rfl rfl
    refine fdOf_congr (Or.inl rfl) (fun i hi => Function.update_of_ne ?_ _ _) fun _ _ => rfl
    rintro rfl
    exact ho hi
  | openOther => exact h.of_place rfl rfl rfl rfl (client_openFile_other s.table) rfl rfl
  | closeOther fd hfd =>
    exact h.of_place rfl rfl rfl rfl (client_close fun k => by rw [hfd]; simp) rfl rfl

end Accepting
end Gateway
