import Gateway.Telemetry.Lookup

/-!
# What the answers show

The requests that list sensors each select some entries of the registry.  `view s req` is the
selection, and an answer that goes out whole is the lines of the view and the end marker
(`respond_ok`, `respond_of_reliable`).

* `views_partition`: the views by type, and those by state, divide the registry;
* `Session` is a user thread beside the others: it copies the registry in one critical section and
  sends line by line afterwards, while the registry goes on changing.  `session_single_state` says
  that its answer is the one for the state it copied.
-/

namespace Gateway
namespace Telemetry

open CText KeyedTable Processing Segmented

/-- The entries that a request selects. -/
def Request.selects : Request → Sensor → Bool
  | .getAll, _ => true
  | .getType typeByte, e => e.type = findSensorType typeByte
  | .getID _, _ => true
  | .getOnline, e => e.state = .online
  | .getOffline, e => e.state = .offline

/-- The requests that are answered. -/
def Request.Supported : Request → Prop
  | .getType typeByte => findSensorType typeByte ≠ .unsupported
  | _ => True

instance : DecidablePred Request.Supported
  | .getAll => inferInstanceAs (Decidable True)
  | .getType typeByte => inferInstanceAs (Decidable (findSensorType typeByte ≠ .unsupported))
  | .getID _ => inferInstanceAs (Decidable True)
  | .getOnline => inferInstanceAs (Decidable True)
  | .getOffline => inferInstanceAs (Decidable True)

/-- What a request copies out of the registry: one entry for an id, else all of them. -/
def captured (s : State) : Request → List Sensor
  | .getID id => [(s.entries.find? (·.id = id)).getD Sensor.zero]
  | _ => s.entries

/-- The sensors that the answer to a request shows, in order. -/
def view (s : State) (req : Request) : List Sensor := (captured s req).filter req.selects

/-- The lines for some sensors and the end marker. -/
def responseText (localtime : ℤ → Option Tm) (es : List Sensor) : List Char :=
  es.flatMap (sensorText localtime) ++ responseEndMarker

variable {localtime : ℤ → Option Tm} {fresh : ℕ → Sensor} {s : State} {sock sock' : Socket}

/-! ### Answers that go out whole -/

theorem Socket.send_ok {text : List Char} (h : sock.send text = (true, sock')) :
    sock'.sent = sock.sent ++ text := by
  obtain ⟨hok, rfl⟩ := Prod.mk_inj.mp h
  rw [sent_of_ok hok]

theorem Socket.send_of_reliable (h : Reliable sock.schedule) (text : List Char) :
    (sock.send text).1 = true ∧ Reliable (sock.send text).2.schedule := by
  obtain ⟨hok, -, hrest⟩ := sendAll_of_reliable h text
  exact ⟨hok, hrest⟩

section GiveSelected

variable {selected : Sensor → Bool} {es : List Sensor}

/-- A loop over a snapshot that succeeds has sent the lines of the selected entries. -/
theorem giveSelected_ok (hlen : ∀ e ∈ es, (sensorText localtime e).length < transmitBufferSize)
    (h : giveSelected localtime selected es sock = (true, sock')) :
    sock'.sent = sock.sent ++ (es.filter selected).flatMap (sensorText localtime) := by
  induction es generalizing sock with
  | nil =>
    obtain ⟨-, rfl⟩ := Prod.mk_inj.mp h
    simp
  | cons e es ih =>
    obtain ⟨he, hes⟩ := List.forall_mem_cons.mp hlen
    rw [giveSelected, giveSensor_eq he] at h
    by_cases hsel : selected e = true
    · rw [if_pos hsel] at h
      rcases hsend : sock.send (sensorText localtime e) with ⟨_ | _, sock₁⟩
      · rw [hsend] at h
        cases h
      · rw [hsend] at h
        rw [ih hes h, Socket.send_ok hsend, List.filter_cons_of_pos hsel, List.flatMap_cons,
          List.append_assoc]
    · rw [if_neg hsel] at h
      rw [ih hes h, List.filter_cons_of_neg hsel]

theorem giveSelected_of_reliable (selected : Sensor → Bool)
    (hlen : ∀ e ∈ es, (sensorText localtime e).length < transmitBufferSize)
    (h : Reliable sock.schedule) :
    (giveSelected localtime selected es sock).1 = true ∧
      Reliable (giveSelected localtime selected es sock).2.schedule := by
  induction es generalizing sock with
  | nil => exact ⟨rfl, h⟩
  | cons e es ih =>
    obtain ⟨he, hes⟩ := List.forall_mem_cons.mp hlen
    rw [giveSelected, giveSensor_eq he]
    split_ifs
    · obtain ⟨hok, hrest⟩ := Socket.send_of_reliable h (sensorText localtime e)
      rcases hsend : sock.send (sensorText localtime e) with ⟨_ | _, sock₁⟩
      · rw [hsend] at hok
        cases hok
      · rw [hsend] at hrest
        exact ih hes hrest
    · exact ih hes h

theorem thenEnd_ok {r : Bool × Socket} (h : thenEnd r = (true, sock')) :
    ∃ sock₁, r = (true, sock₁) ∧ sock'.sent = sock₁.sent ++ responseEndMarker := by
  rcases r with ⟨_ | _, sock₁⟩
  · cases h
  · exact ⟨sock₁, rfl, Socket.send_ok h⟩

theorem thenEnd_of_reliable {r : Bool × Socket} (hok : r.1 = true) (h : Reliable r.2.schedule) :
    (thenEnd r).1 = true ∧ Reliable (thenEnd r).2.schedule := by
  obtain ⟨_, sock₁⟩ := r
  obtain rfl : _ = true := hok
  exact Socket.send_of_reliable h responseEndMarker

end GiveSelected

/-- The loop with a single entry. -/
theorem giveSelected_singleton (e : Sensor) (sock : Socket) :
    giveSelected localtime (fun _ => true) [e] sock = giveSensor localtime e sock := by
  rw [giveSelected, if_pos rfl]
  rcases giveSensor localtime e sock with ⟨_ | _, sock₁⟩ <;> rfl

/-- The answer to a request is the loop over what it has captured, and the end marker. -/
theorem Bounds.respond_eq (hb : Bounds s) {req : Request} (hreq : req.Supported) (sock : Socket) :
    respond localtime true s req sock =
      .ok (thenEnd (giveSelected localtime req.selects (captured s req) sock)) := by
  have hview : ∀ selected, giveSensorView localtime selected true s sock =
      .ok (thenEnd (giveSelected localtime selected s.entries sock)) := by
    intro selected
    simp only [giveSensorView, not_true_eq_false, and_false, if_false, hb.snapshot_eq, bind,
      Except.bind]
  cases req with
  | getAll => exact hview _
  | getType typeByte =>
    simp only [respond, giveSensorAllType, if_neg (show ¬ _ from hreq)]
    exact hview _
  | getID id =>
    simp only [respond, hb.giveSensorID_eq, captured]
    exact congrArg (fun r => Except.ok (thenEnd r)) (giveSelected_singleton _ sock).symm
  | getOnline => exact hview _
  | getOffline => exact hview _

/-- The lines of what a request captures fit their buffer. -/
theorem length_captured_lt (localtime : ℤ → Option Tm)
    (hname : ∀ e ∈ s.entries, e.name.length < sensorNameSize) (req : Request) :
    ∀ e ∈ captured s req, (sensorText localtime e).length < transmitBufferSize := by
  have hall : ∀ e ∈ s.entries, (sensorText localtime e).length < transmitBufferSize := fun e he =>
    length_sensorText_lt localtime (hname e he)
  intro e he
  cases req with
  | getID id =>
    rw [captured, List.mem_singleton] at he
    cases hfind : s.entries.find? (·.id = id) with
    | none =>
      rw [he, hfind]
      exact length_sensorText_lt localtime (by decide)
    | some e' =>
      rw [he, hfind]
      exact hall e' (List.mem_of_find?_eq_some hfind)
  | _ => exact hall e he

/-- A request that is answered in full is a supported one, and its memory was allocated or not
needed. -/
theorem respond_true_of_ok {allocated : Bool} {req : Request}
    (h : respond localtime allocated s req sock = .ok (true, sock')) :
    req.Supported ∧ respond localtime true s req sock = .ok (true, sock') := by
  have hview : ∀ selected, giveSensorView localtime selected allocated s sock = .ok (true, sock') →
      giveSensorView localtime selected true s sock = .ok (true, sock') := by
    intro selected hsel
    cases allocated with
    | true => exact hsel
    | false =>
      by_cases hcount : s.sensorCount > 0
      · simp [giveSensorView, hcount] at hsel
      · simpa [giveSensorView, hcount] using hsel
  cases req with
  | getAll => exact ⟨trivial, hview _ h⟩
  | getType typeByte =>
    rw [respond, giveSensorAllType] at h ⊢
    split_ifs at h with htype
    · cases h
    · rw [if_neg htype]
      exact ⟨htype, hview _ h⟩
  | getID id => exact ⟨trivial, h⟩
  | getOnline => exact ⟨trivial, hview _ h⟩
  | getOffline => exact ⟨trivial, hview _ h⟩

/-- An answer that goes out whole is the lines of the view and the end marker. -/
theorem Bounds.respond_ok (hb : Bounds s) (hname : ∀ e ∈ s.entries, e.name.length < sensorNameSize)
    {allocated : Bool} {req : Request}
    (h : respond localtime allocated s req sock = .ok (true, sock')) :
    sock'.sent = sock.sent ++ responseText localtime (view s req) := by
  obtain ⟨hreq, h⟩ := respond_true_of_ok h
  rw [hb.respond_eq hreq, Except.ok.injEq] at h
  obtain ⟨sock₁, hloop, hsent⟩ := thenEnd_ok h
  rw [hsent, giveSelected_ok (length_captured_lt localtime hname req) hloop, List.append_assoc]
  rfl

/-- Along a reliable schedule the answer goes out whole. -/
theorem Bounds.respond_of_reliable (hb : Bounds s)
    (hname : ∀ e ∈ s.entries, e.name.length < sensorNameSize) {req : Request}
    (hreq : req.Supported) (hsock : Reliable sock.schedule) :
    ∃ schedule, Reliable schedule ∧ respond localtime true s req sock =
      .ok (true, ⟨schedule, sock.sent ++ responseText localtime (view s req)⟩) := by
  have hloop :=
    giveSelected_of_reliable req.selects (length_captured_lt localtime hname req) hsock
  obtain ⟨hok, hrest⟩ := thenEnd_of_reliable hloop.1 hloop.2
  have heq : respond localtime true s req sock = _ := hb.respond_eq hreq sock
  rcases hend : thenEnd (giveSelected localtime req.selects (captured s req) sock) with ⟨ok, sock₁⟩
  rw [hend] at hok hrest heq
  obtain rfl : ok = true := hok
  have hsent := hb.respond_ok hname heq
  exact ⟨sock₁.schedule, hrest, by rw [heq, ← hsent]⟩

/-! ### What the entries can be -/

/-- The name of an entry made from accepted frames fits its buffer. -/
theorem Represents.length_name_lt (h : Represents fresh s)
    (hacc : ∀ f ∈ frames s.history, Accepted f) :
    ∀ e ∈ s.entries, e.name.length < sensorNameSize := fun _ he =>
  Telemetry.length_name_lt hacc (h.holdsLast he)

/-- Every entry has the type of an accepted frame. -/
theorem Represents.supported (h : Represents fresh s) (hacc : ∀ f ∈ frames s.history, Accepted f)
    {e : Sensor} (he : e ∈ s.entries) : e.type.Supported := by
  obtain ⟨f, hf, -, htype, -⟩ := (h.holdsLast he).1
  rw [htype]
  exact (hacc f (List.mem_filter.mp (List.mem_of_getLast? hf)).1).supported

/-- After an event an entry is online or offline. -/
theorem applyEvent_state (e : Sensor) (ev : Event) :
    (applyEvent e ev).state = .online ∨ (applyEvent e ev).state = .offline := by
  cases ev with
  | frame f => exact Or.inl rfl
  | sweep t =>
    simp only [applyEvent, markState]
    split_ifs
    · exact Or.inr rfl
    · exact Or.inl rfl

/-- No entry keeps the state that frames come with. -/
theorem Represents.online_or_offline (h : Represents fresh s) {e : Sensor} (he : e ∈ s.entries) :
    e.state = .online ∨ e.state = .offline := by
  obtain ⟨i, hi⟩ := h.exists_cell he
  -- the cell of a sensor that was heard is not empty
  rcases List.eq_nil_or_concat (cell eventKey e.key s.history) with hnil | ⟨before, last, hcell⟩
  · obtain ⟨f, hf, hfk⟩ := h.exists_frame he
    have hframes := frames_cell e.key s.history
    rw [hnil] at hframes
    have hmem : f ∈ (frames s.history).filter (·.key = e.key) :=
      List.mem_filter.mpr ⟨hf, by simpa using hfk⟩
    rw [← hframes] at hmem
    cases hmem
  · rw [hcell, List.concat_eq_append, List.foldl_concat] at hi
    rw [← hi]
    exact applyEvent_state _ last

/-! ### The views divide the registry -/

/-- The type bytes that `GET TYPE` takes. -/
def typeBytes : List UInt8 := [0x1B, 0x2B, 0x4B, 0x8B]

/-- Elements sorted into classes, one after the other. -/
theorem flatMap_filter_perm {α κ : Type*} [DecidableEq κ] (f : α → κ) {keys : List κ}
    (hnodup : keys.Nodup) {l : List α} (hl : ∀ a ∈ l, f a ∈ keys) :
    (keys.flatMap fun k => l.filter (f · = k)).Perm l := by
  induction keys generalizing l with
  | nil =>
    rw [List.eq_nil_iff_forall_not_mem.mpr fun a ha => List.not_mem_nil (hl a ha)]
    rfl
  | cons k keys ih =>
    obtain ⟨hk, hkeys⟩ := List.nodup_cons.mp hnodup
    -- the later classes do not see the elements of the first one
    have hrest : (keys.flatMap fun k' => l.filter (f · = k')) =
        keys.flatMap fun k' => (l.filter fun a => !decide (f a = k)).filter (f · = k') := by
      apply List.flatMap_congr
      intro k' hk'
      rw [List.filter_filter]
      apply List.filter_congr
      intro a _
      by_cases ha : f a = k'
      · have hne : k' ≠ k := fun h => hk (h ▸ hk')
        simp [ha, hne]
      · simp [ha]
    rw [List.flatMap_cons, hrest]
    refine ((ih hkeys fun a ha => ?_).append_left _).trans (List.filter_append_perm _ l)
    obtain ⟨hal, hne⟩ := List.mem_filter.mp ha
    exact (List.mem_cons.mp (hl a hal)).resolve_left (by simpa using hne)

theorem exists_typeByte {type : SensorType} (h : type.Supported) :
    ∃ b ∈ typeBytes, type = findSensorType b := by
  simp only [SensorType.Supported, List.mem_cons, List.not_mem_nil, or_false] at h
  rcases h with rfl | rfl | rfl | rfl
  · exact ⟨0x1B, by decide, rfl⟩
  · exact ⟨0x2B, by decide, rfl⟩
  · exact ⟨0x4B, by decide, rfl⟩
  · exact ⟨0x8B, by decide, rfl⟩

theorem typeByte_inj {b b' : UInt8} (hb : b ∈ typeBytes) (hb' : b' ∈ typeBytes)
    (h : findSensorType b = findSensorType b') : b = b' := by
  have hnodup : (typeBytes.map findSensorType).Nodup := by decide
  exact List.inj_on_of_nodup_map hnodup hb hb' h

theorem mem_view_getType {e : Sensor} {b : UInt8} :
    e ∈ view s (.getType b) ↔ e ∈ s.entries ∧ e.type = findSensorType b := by
  show e ∈ s.entries.filter _ ↔ _
  rw [List.mem_filter]
  simp [Request.selects]

section Partition

variable (h : Represents fresh s) (hacc : ∀ f ∈ frames s.history, Accepted f)

include h

theorem Represents.state_views :
    (view s .getOnline ++ view s .getOffline).Perm s.entries ∧
      ∀ e ∈ s.entries, (e ∈ view s .getOnline ∧ e ∉ view s .getOffline) ∨
        (e ∉ view s .getOnline ∧ e ∈ view s .getOffline) := by
  have hmem : ∀ {e : Sensor}, (e ∈ view s .getOnline ↔ e ∈ s.entries ∧ e.state = .online) ∧
      (e ∈ view s .getOffline ↔ e ∈ s.entries ∧ e.state = .offline) := by
    intro e
    simp [view, captured, Request.selects]
  constructor
  · have hclass : ∀ e ∈ s.entries, e.state ∈ [SensorState.online, .offline] := fun e he => by
      simpa using h.online_or_offline he
    have hperm := flatMap_filter_perm Sensor.state (by decide) hclass
    simp only [List.flatMap_cons, List.flatMap_nil, List.append_nil] at hperm
    exact hperm
  · intro e he
    rw [hmem.1, hmem.2]
    rcases h.online_or_offline he with hstate | hstate <;> simp [he, hstate]

include hacc

theorem Represents.type_views :
    (typeBytes.flatMap fun b => view s (.getType b)).Perm s.entries ∧
      ∀ e ∈ s.entries, ∃ b ∈ typeBytes, e ∈ view s (.getType b) ∧
        ∀ b' ∈ typeBytes, e ∈ view s (.getType b') → b' = b := by
  constructor
  · have hclass : ∀ e ∈ s.entries, e.type ∈ typeBytes.map findSensorType := fun e he => by
      obtain ⟨b, hb, htype⟩ := exists_typeByte (h.supported hacc he)
      exact List.mem_map.mpr ⟨b, hb, htype.symm⟩
    have hperm := flatMap_filter_perm Sensor.type (by decide) hclass
    rwa [List.flatMap_map] at hperm
  · intro e he
    obtain ⟨b, hb, htype⟩ := exists_typeByte (h.supported hacc he)
    refine ⟨b, hb, mem_view_getType.mpr ⟨he, htype⟩, fun b' hb' hmem => ?_⟩
    exact typeByte_inj hb' hb ((mem_view_getType.mp hmem).2.symm.trans htype)

end Partition

/-! ### A user thread beside the others -/

/-- The copy that a listing takes of the registry, `none` where its memory could not be
allocated. -/
def copyRegistry (allocated : Bool) (s : State) : Except ℕ (Option (List Sensor)) := do
  if s.sensorCount > 0 ∧ ¬ allocated then .ok none
  else
    let copied ← snapshot s
    .ok (some copied)

/-- The critical section of a request: what it takes out of the registry, or `none` for `-1`. -/
def capture (req : Request) (allocated : Bool) (s : State) : Except ℕ (Option (List Sensor)) :=
  match req with
  | .getID id => do
      let target ← getSensorID id s.sensorRegistry s.sensorCount
      .ok (some [target])
  | .getType typeByte =>
      if findSensorType typeByte = .unsupported then .ok none else copyRegistry allocated s
  | _ => copyRegistry allocated s

/-- Where a user thread stands with a request: before its critical section, with the entries that it
has still to go through, or at the end with the result. -/
inductive Stage
  | waiting
  | sending (todo : List Sensor)
  | finished (ok : Bool)
  deriving DecidableEq

/-- The registry with a user thread that answers a request. -/
structure Session where
  daemon : State
  stage : Stage
  sock : Socket

/-- The steps: of the other threads, the critical section of the request, and one more entry. -/
inductive SessionAction
  | daemon (a : Action)
  | capture (allocated : Bool)
  | send
  deriving DecidableEq

/-- The action of the other threads, if it is one. -/
def SessionAction.daemon? : SessionAction → Option Action
  | .daemon a => some a
  | _ => none

theorem SessionAction.eq_of_daemon? {x : SessionAction} {a : Action} (h : x.daemon? = some a) :
    x = .daemon a := by
  cases x with
  | daemon b => exact congrArg _ (Option.some.inj h)
  | capture allocated => cases h
  | send => cases h

/-- Sending the next entry if it is selected, or the end marker after the last one. -/
def Session.sendNext (localtime : ℤ → Option Tm) (req : Request) (x : Session) : Session :=
  match x.stage with
  | .sending [] =>
      let r := sendResponseEnd x.sock
      { x with stage := .finished r.1, sock := r.2 }
  | .sending (e :: es) =>
      if req.selects e then
        match giveSensor localtime e x.sock with
        | (true, sock) => { x with stage := .sending es, sock := sock }
        | (false, sock) => { x with stage := .finished false, sock := sock }
      else { x with stage := .sending es }
  | _ => x

/-- One step.  The exit of the main loop ends the user threads too. -/
def Session.step (fresh : ℕ → Sensor) (localtime : ℤ → Option Tm) (req : Request) (x : Session) :
    SessionAction → Except ℕ Session
  | .daemon a => do
      let daemon ← Telemetry.step fresh x.daemon a
      .ok { x with daemon := daemon }
  | .capture allocated =>
      match x.daemon.place, x.stage with
      | .exited _, _ => .ok x
      | _, .waiting => do
          match ← Telemetry.capture req allocated x.daemon with
          | none => .ok { x with stage := .finished false }
          | some todo => .ok { x with stage := .sending todo }
      | _, _ => .ok x
  | .send =>
      match x.daemon.place with
      | .exited _ => .ok x
      | _ => .ok (x.sendNext localtime req)

/-- A run of a session from the start of the daemon. -/
def Session.run (fresh : ℕ → Sensor) (localtime : ℤ → Option Tm) (req : Request) (sock : Socket)
    (acts : List SessionAction) : Except ℕ Session :=
  Run.exec (Session.step fresh localtime req) ⟨init fresh, .waiting, sock⟩ acts

/-- The answer of a session that has captured the registry in the state `s`, where `r` is what is
still to come. -/
def AnswersFrom (fresh : ℕ → Sensor) (localtime : ℤ → Option Tm) (req : Request) (sock : Socket)
    (acts : List SessionAction) (r : Bool × Socket) : Prop :=
  ∃ pre allocated post s, acts = pre ++ .capture allocated :: post ∧
    Telemetry.run fresh (pre.filterMap SessionAction.daemon?) = .ok s ∧
    respond localtime allocated s req sock = .ok r

/-- What a session has done so far is a part of one answer. -/
def Session.Consistent (fresh : ℕ → Sensor) (localtime : ℤ → Option Tm) (req : Request)
    (sock : Socket) (acts : List SessionAction) (x : Session) : Prop :=
  match x.stage with
  | .waiting => x.sock = sock
  | .sending todo => AnswersFrom fresh localtime req sock acts
      (thenEnd (giveSelected localtime req.selects todo x.sock))
  | .finished ok => AnswersFrom fresh localtime req sock acts (ok, x.sock)

section Session

variable {req : Request} {acts : List SessionAction} {x : Session}

theorem AnswersFrom.append {r : Bool × Socket} (h : AnswersFrom fresh localtime req sock acts r)
    (a : SessionAction) : AnswersFrom fresh localtime req sock (acts ++ [a]) r := by
  obtain ⟨pre, allocated, post, s, rfl, hrun, hrespond⟩ := h
  exact ⟨pre, allocated, post ++ [a], s, by simp, hrun, hrespond⟩

theorem Session.Consistent.append (h : x.Consistent fresh localtime req sock acts)
    (a : SessionAction) : x.Consistent fresh localtime req sock (acts ++ [a]) := by
  unfold Session.Consistent at h ⊢
  split
  · rename_i hstage
    rwa [hstage] at h
  · rename_i todo hstage
    rw [hstage] at h
    exact h.append a
  · rename_i ok hstage
    rw [hstage] at h
    exact h.append a

/-- The critical section decides the answer. -/
theorem capture_eq (localtime : ℤ → Option Tm) (hb : Bounds s) (req : Request) (allocated : Bool)
    (sock : Socket) :
    (capture req allocated s = .ok none ∧
        respond localtime allocated s req sock = .ok (false, sock)) ∨
      ∃ todo, capture req allocated s = .ok (some todo) ∧
        respond localtime allocated s req sock =
          .ok (thenEnd (giveSelected localtime req.selects todo sock)) := by
  have hcopy : ∀ selected, (copyRegistry allocated s = .ok none ∧
        giveSensorView localtime selected allocated s sock = .ok (false, sock)) ∨
      ∃ todo, copyRegistry allocated s = .ok (some todo) ∧
        giveSensorView localtime selected allocated s sock =
          .ok (thenEnd (giveSelected localtime selected todo sock)) := by
    intro selected
    unfold copyRegistry giveSensorView
    split_ifs
    · exact Or.inl ⟨rfl, rfl⟩
    · refine Or.inr ⟨s.entries, ?_⟩
      simp only [hb.snapshot_eq, bind, Except.bind, and_self]
  cases req with
  | getAll => exact hcopy _
  | getType typeByte =>
    simp only [capture, respond, giveSensorAllType]
    split_ifs
    · exact Or.inl ⟨rfl, rfl⟩
    · exact hcopy _
  | getID id =>
    refine Or.inr ⟨[(s.entries.find? (·.id = id)).getD Sensor.zero], ?_, ?_⟩
    · simp only [capture, hb.lookup_eq, bind, Except.bind]
    · rw [respond, hb.giveSensorID_eq]
      exact congrArg (fun r => Except.ok (thenEnd r)) (giveSelected_singleton _ sock).symm
  | getOnline => exact hcopy _
  | getOffline => exact hcopy _

/-- Sending the next entry leaves the answer as it is. -/
theorem Session.Consistent.sendNext (h : x.Consistent fresh localtime req sock acts) :
    (x.sendNext localtime req).Consistent fresh localtime req sock acts := by
  cases hstage : x.stage with
  | waiting => simpa only [Session.sendNext, hstage] using h
  | finished ok => simpa only [Session.sendNext, hstage] using h
  | sending todo =>
    simp only [Session.Consistent, hstage] at h
    cases todo with
    | nil =>
      simp only [Session.sendNext, hstage, Session.Consistent]
      exact h
    | cons e es =>
      simp only [Session.sendNext, hstage]
      rw [giveSelected] at h
      split_ifs with hsel
      · rw [if_pos hsel] at h
        rcases hgive : giveSensor localtime e x.sock with ⟨_ | _, sock₁⟩ <;> rw [hgive] at h <;>
          exact h
      · rwa [if_neg hsel] at h

theorem Session.step_capture (hplace : ∀ e, x.daemon.place ≠ .exited e)
    (hstage : x.stage = .waiting) (allocated : Bool) :
    x.step fresh localtime req (.capture allocated) =
      (do
        match ← Telemetry.capture req allocated x.daemon with
        | none => .ok { x with stage := .finished false }
        | some todo => .ok { x with stage := .sending todo }) := by
  unfold Session.step
  cases hp : x.daemon.place with
  | exited e => exact absurd hp (hplace e)
  | _ => rw [hstage]

theorem Session.step_captured (h : (∃ e, x.daemon.place = .exited e) ∨ x.stage ≠ .waiting)
    (allocated : Bool) : x.step fresh localtime req (.capture allocated) = .ok x := by
  unfold Session.step
  cases hp : x.daemon.place with
  | exited e => rfl
  | _ =>
    have hstage : x.stage ≠ .waiting := h.resolve_left (by simp [hp])
    cases hs : x.stage with
    | waiting => exact absurd hs hstage
    | _ => rfl

theorem Session.step_send (x : Session) :
    x.step fresh localtime req .send = .ok x ∨
      x.step fresh localtime req .send = .ok (x.sendNext localtime req) := by
  unfold Session.step
  cases x.daemon.place with
  | exited e => exact Or.inl rfl
  | _ => exact Or.inr rfl

/-- Sending does nothing to the registry. -/
theorem Session.daemon_sendNext (x : Session) : (x.sendNext localtime req).daemon = x.daemon := by
  unfold Session.sendNext
  split
  · rfl
  · split
    · split <;> rfl
    · rfl
  · rfl

/-- A step of a session does not fail and keeps to the answer. -/
theorem Session.step_consistent (hb : Bounds x.daemon)
    (hrun : Telemetry.run fresh (acts.filterMap SessionAction.daemon?) = .ok x.daemon)
    (h : x.Consistent fresh localtime req sock acts) (a : SessionAction) :
    ∃ x', x.step fresh localtime req a = .ok x' ∧ Bounds x'.daemon ∧
      Telemetry.run fresh ((acts ++ [a]).filterMap SessionAction.daemon?) = .ok x'.daemon ∧
      x'.Consistent fresh localtime req sock (acts ++ [a]) := by
  have hsame : a.daemon? = none →
      Telemetry.run fresh ((acts ++ [a]).filterMap SessionAction.daemon?) = .ok x.daemon := by
    intro ha
    rw [List.filterMap_append, List.filterMap_cons_none ha, List.filterMap_nil, List.append_nil,
      hrun]
  cases a with
  | daemon a =>
    obtain ⟨d, hd, hm⟩ : ∃ d, Telemetry.step fresh x.daemon a = .ok d ∧ Moved fresh x.daemon a d :=
      hb.step_moved a
    refine ⟨{ x with daemon := d }, ?_, hb.of_moved hm, ?_, h.append _⟩
    · simp only [Session.step, hd, bind, Except.bind]
    · rw [List.filterMap_append]
      exact (Run.exec_concat hrun a).trans hd
  | capture allocated =>
    by_cases hact : (∃ e, x.daemon.place = .exited e) ∨ x.stage ≠ .waiting
    · exact ⟨x, Session.step_captured hact allocated, hb, hsame rfl, h.append _⟩
    · obtain ⟨hplace, hstage⟩ := not_or.mp hact
      rw [not_not] at hstage
      have hsock : x.sock = sock := by simpa only [Session.Consistent, hstage] using h
      rw [Session.step_capture (not_exists.mp hplace) hstage]
      rcases capture_eq localtime hb req allocated sock with
        ⟨hcapture, hrespond⟩ | ⟨todo, hcapture, hrespond⟩
      · refine ⟨{ x with stage := .finished false }, ?_, hb, hsame rfl, ?_⟩
        · simp only [hcapture, bind, Except.bind]
        · exact ⟨acts, allocated, [], x.daemon, rfl, hrun, by rw [hrespond, ← hsock]⟩
      · refine ⟨{ x with stage := .sending todo }, ?_, hb, hsame rfl, ?_⟩
        · simp only [hcapture, bind, Except.bind]
        · exact ⟨acts, allocated, [], x.daemon, rfl, hrun, by rw [hrespond, ← hsock]⟩
  | send =>
    rcases Session.step_send x with hstep | hstep
    · exact ⟨x, hstep, hb, hsame rfl, h.append _⟩
    · refine ⟨_, hstep, ?_, ?_, h.sendNext.append _⟩
      · rwa [Session.daemon_sendNext]
      · rw [Session.daemon_sendNext]
        exact hsame rfl

/-- Every run of a session reaches a state, and what it has sent belongs to one answer. -/
theorem session_run (fresh : ℕ → Sensor) (localtime : ℤ → Option Tm) (req : Request) (sock : Socket)
    (acts : List SessionAction) :
    ∃ x, Session.run fresh localtime req sock acts = .ok x ∧ Bounds x.daemon ∧
      Telemetry.run fresh (acts.filterMap SessionAction.daemon?) = .ok x.daemon ∧
      x.Consistent fresh localtime req sock acts := by
  have hinit : (⟨init fresh, .waiting, sock⟩ : Session).Consistent fresh localtime req sock [] :=
    rfl
  refine Run.exec_rule (P := fun acts (x : Session) => Bounds x.daemon ∧
    Telemetry.run fresh (acts.filterMap SessionAction.daemon?) = .ok x.daemon ∧
    x.Consistent fresh localtime req sock acts) ⟨bounds_init fresh, rfl, hinit⟩ ?_ acts
  rintro acts a x ⟨hb, hrun, h⟩
  exact Session.step_consistent hb hrun h a

end Session

/-- **The views divide the registry, and an answer shows one state of it.**  In every state that can
be reached with accepted frames each sensor is in exactly one view by type and in exactly one view
by state, every view is in the order of the registry, and the views of each kind together hold the
lines of `GET ALL`, each once.  And the answer of a user thread is the lines of the view of the
state that it has copied, whatever the other threads do between its lines. -/
theorem views_partition (fresh : ℕ → Sensor) (localtime : ℤ → Option Tm) :
    (∀ acts s, run fresh acts = .ok s → (∀ f ∈ frames s.history, Accepted f) →
      (s.entries.map Sensor.key).Nodup ∧
      (∀ e ∈ s.entries, ∃ b ∈ typeBytes, e ∈ view s (.getType b) ∧
        ∀ b' ∈ typeBytes, e ∈ view s (.getType b') → b' = b) ∧
      (∀ e ∈ s.entries, (e ∈ view s .getOnline ∧ e ∉ view s .getOffline) ∨
        (e ∉ view s .getOnline ∧ e ∈ view s .getOffline)) ∧
      (∀ b, (view s (.getType b)).Sublist (view s .getAll)) ∧
      (view s .getOnline).Sublist (view s .getAll) ∧
      (view s .getOffline).Sublist (view s .getAll) ∧
      view s .getAll = s.entries ∧
      ((typeBytes.flatMap fun b => view s (.getType b)).map (sensorText localtime)).Perm
        ((view s .getAll).map (sensorText localtime)) ∧
      ((view s .getOnline ++ view s .getOffline).map (sensorText localtime)).Perm
        ((view s .getAll).map (sensorText localtime)) ∧
      ∀ (req : Request) (sock : Socket), req.Supported → Reliable sock.schedule →
        ∃ schedule, respond localtime true s req sock =
          .ok (true, ⟨schedule, sock.sent ++ responseText localtime (view s req)⟩)) ∧
    ∀ (req : Request) (sock : Socket) (acts : List SessionAction) (x : Session) (ok : Bool),
      Session.run fresh localtime req sock acts = .ok x → x.stage = .finished ok →
      ∃ pre allocated post s, acts = pre ++ .capture allocated :: post ∧
        run fresh (pre.filterMap SessionAction.daemon?) = .ok s ∧
        respond localtime allocated s req sock = .ok (ok, x.sock) ∧
        (ok = true → (∀ f ∈ frames s.history, Accepted f) →
          x.sock.sent = sock.sent ++ responseText localtime (view s req)) := by
  constructor
  · intro acts s hrun hacc
    obtain ⟨t, ht, hb, h⟩ := represents_run fresh acts
    obtain rfl := Except.ok.inj (ht.symm.trans hrun)
    have hall : view t .getAll = t.entries := List.filter_true _
    obtain ⟨htypes, htype⟩ := h.type_views hacc
    obtain ⟨hstates, hstate⟩ := h.state_views
    rw [hall]
    refine ⟨h.nodup_keys, htype, hstate, fun b => List.filter_sublist, List.filter_sublist,
      List.filter_sublist, rfl, htypes.map _, hstates.map _, fun req sock hreq hsock => ?_⟩
    obtain ⟨schedule, -, hrespond⟩ := hb.respond_of_reliable (h.length_name_lt hacc) hreq hsock
    exact ⟨schedule, hrespond⟩
  · intro req sock acts x ok hrun hstage
    obtain ⟨y, hy, -, -, hconsistent⟩ := session_run fresh localtime req sock acts
    obtain rfl := Except.ok.inj (hy.symm.trans hrun)
    simp only [Session.Consistent, hstage] at hconsistent
    obtain ⟨pre, allocated, post, s, hacts, hs, hrespond⟩ := hconsistent
    refine ⟨pre, allocated, post, s, hacts, hs, hrespond, fun hok hacc => ?_⟩
    obtain ⟨t, ht, hb, h⟩ := represents_run fresh (pre.filterMap SessionAction.daemon?)
    obtain rfl := Except.ok.inj (ht.symm.trans hs)
    subst hok
    exact hb.respond_ok (h.length_name_lt hacc) hrespond

/-- A torque sensor is swept offline between the copy and the line of `GET ONLINE`: it is still in
the answer, and in one view of each kind. -/
theorem views_partition_torque :
    let localtime : ℤ → Option Tm := fun _ => some ⟨70, 0, 1, 0, 0, 0⟩
    let f : Sensor :=
      ⟨⟨0x5F, 0, 0⟩, ⟨0, 0⟩, ⟨0, 0⟩, 7, "TORQS_0X7".toList, .torque, .frameDefault, .data⟩
    let acts : List SessionAction := (serve [f]).map .daemon ++
      [.capture true, .daemon (.sweep ⟨40, 0⟩), .send, .send]
    generateFrame (some ⟨0, 0⟩) (some ⟨0, 0⟩) (buildPacket 0x4B 7 [0x5F, 0, 0, 0] 4)
      Sensor.zero 10 = some f ∧
    (∃ s, run (fun _ => Sensor.zero) (serve [f]) = .ok s ∧
      (s.entries.map Sensor.key).Nodup ∧ view s .getOnline = s.entries) ∧
    ∃ x s, Session.run (fun _ => Sensor.zero) localtime .getOnline ⟨[], []⟩ acts = .ok x ∧
      x.stage = .finished true ∧ view x.daemon .getOnline = [] ∧
      x.sock.sent = responseText localtime (view s .getOnline) ∧
      x.sock.sent = "1970-01-01 00:00:00: TORQS_0X7: 9.500000Nm\nEND\n".toList := by
  intro localtime f acts
  have hf : generateFrame (some ⟨0, 0⟩) (some ⟨0, 0⟩) (buildPacket 0x4B 7 [0x5F, 0, 0, 0] 4)
      Sensor.zero 10 = some f := by decide +kernel
  have hpart := views_partition (fun _ => Sensor.zero) localtime
  refine ⟨hf, ⟨_, rfl, (hpart.1 (serve [f]) _ rfl fun g hg => ?_).1, by decide +kernel⟩, ?_⟩
  · obtain rfl := List.mem_singleton.mp hg
    exact ⟨_, _, _, _, _, hf⟩
  · obtain ⟨x, hx, -⟩ := session_run (fun _ => Sensor.zero) localtime .getOnline ⟨[], []⟩ acts
    have hend : (Session.run (fun _ => Sensor.zero) localtime .getOnline ⟨[], []⟩ acts).map
        (fun x => (x.stage, view x.daemon .getOnline, x.sock.sent)) =
          .ok (.finished true, [],
            "1970-01-01 00:00:00: TORQS_0X7: 9.500000Nm\nEND\n".toList) := by decide +kernel
    rw [hx] at hend
    obtain ⟨hstage, hview, hsent⟩ : x.stage = .finished true ∧ view x.daemon .getOnline = [] ∧
        x.sock.sent = "1970-01-01 00:00:00: TORQS_0X7: 9.500000Nm\nEND\n".toList := by
      simpa using Except.ok.inj hend
    obtain ⟨pre, allocated, post, s, hacts, hs, -, hshown⟩ :=
      hpart.2 .getOnline ⟨[], []⟩ acts x true hx hstage
    refine ⟨x, s, hx, hstage, hview, hshown rfl fun g hg => ?_, hsent⟩
    -- the frames in the copied state are among those that the session was run with
    obtain ⟨a, ha, haction⟩ := List.mem_filterMap.mp (receive_of_mem_frames hs hg)
    have hmem : SessionAction.daemon (.receive (.frame g)) ∈ acts := by
      rw [hacts, ← SessionAction.eq_of_daemon? haction]
      exact List.mem_append_left _ ha
    obtain rfl : g = f := by simpa [acts, serve] using hmem
    exact ⟨_, _, _, _, _, hf⟩

end Telemetry
end Gateway
