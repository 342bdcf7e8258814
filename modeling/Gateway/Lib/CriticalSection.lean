import Gateway.Lib.Run

/-!
# Critical sections of one mutex

Threads share a state `σ` that they access only while they hold a mutex, and flags `τ` that they
read and write without it.  The scheduler interleaves single accesses.

* `Program`: what the threads do, where they wait for the mutex and where they hold it;
* `step`: one operation of one thread, an access of `σ` can fail;
* `Ahead P c s`: in `s` the thread with the mutex, if any, is somewhere in the section that it has
  entered from `c`, and all other threads are as in `c`;
* `Keeps.step`, `Keeps.exec`: what the whole sections keep, taken one at a time, every interleaving
  of their accesses keeps, and no access fails;
* `exists_released`: the thread with the mutex can go on alone until it gives the mutex back.
-/

namespace CriticalSection

variable {ι : Type} {π : ι → Type} {σ τ α ε : Type}

/-- Where a thread stands: without the mutex, before the call that takes it with `next` the place
behind the call, or between this call and the one that gives it back. -/
inductive Phase (π : Type)
  | outside
  | waits (next : π)
  | inside

def Phase.isInside {π : Type} : Phase π → Bool
  | .inside => true
  | _ => false

/-- The program of the threads, with `α` what the calls outside of it answer. -/
structure Program (ι : Type) (π : ι → Type) (σ τ α ε : Type) where
  phase : (i : ι) → π i → Phase (π i)
  outside : (i : ι) → π i → α → τ → π i × τ
  access : (i : ι) → π i → α → σ → Except ε (π i × σ)
  isInside_next : ∀ {i p next}, phase i p = .waits next → (phase i next).isInside = true
  isInside_outside : ∀ {i p} a o, phase i p = .outside →
    (phase i (outside i p a o).1).isInside = false

/-- The state without the mutex. -/
@[ext]
structure Config (ι : Type) (π : ι → Type) (σ τ : Type) where
  shared : σ
  flags : τ
  place : (i : ι) → π i

structure State (ι : Type) (π : ι → Type) (σ τ : Type) extends Config ι π σ τ where
  mutex : Option ι

variable [DecidableEq ι]

namespace Config

/-- Thread `i` goes on without the mutex. -/
def goOutside (c : Config ι π σ τ) (i : ι) (next : π i × τ) : Config ι π σ τ :=
  { c with flags := next.2, place := Function.update c.place i next.1 }

/-- Thread `i` goes on with the mutex. -/
def goInside (c : Config ι π σ τ) (i : ι) (next : π i × σ) : Config ι π σ τ :=
  { c with shared := next.2, place := Function.update c.place i next.1 }

end Config

/-- The threads start without the mutex. -/
def start (c : Config ι π σ τ) : State ι π σ τ := ⟨c, none⟩

/-- One operation of the thread `act.1`. -/
def step (P : Program ι π σ τ α ε) (s : State ι π σ τ) (act : ι × α) :
    Except ε (State ι π σ τ) :=
  match P.phase act.1 (s.place act.1) with
  | .outside =>
      .ok ⟨s.goOutside act.1 (P.outside act.1 (s.place act.1) act.2 s.flags), s.mutex⟩
  | .waits next =>
      if s.mutex = none then .ok ⟨s.goInside act.1 (next, s.shared), some act.1⟩ else .ok s
  | .inside => do
      let next ← P.access act.1 (s.place act.1) act.2 s.shared
      .ok ⟨s.goInside act.1 next, if (P.phase act.1 next.1).isInside then s.mutex else none⟩

/-! ### Sections as a whole -/

/-- One access of a section. -/
def Access (P : Program ι π σ τ α ε) (i : ι) (q q' : π i × σ) : Prop :=
  (P.phase i q.1).isInside = true ∧ ∃ a, P.access i q.1 a q.2 = .ok q'

/-- The state `s` with the thread that has the mutex taken back to where it entered its section. -/
structure Ahead (P : Program ι π σ τ α ε) (c : Config ι π σ τ) (s : State ι π σ τ) : Prop where
  quiet : ∀ i, (P.phase i (c.place i)).isInside = false
  free : s.mutex = none → s.toConfig = c
  held : ∀ i, s.mutex = some i → (P.phase i (s.place i)).isInside = true ∧
    s.toConfig = c.goInside i (s.place i, s.shared) ∧
    ∃ next, P.phase i (c.place i) = .waits next ∧
      Relation.ReflTransGen (Access P i) (next, c.shared) (s.place i, s.shared)

variable {P : Program ι π σ τ α ε} {c : Config ι π σ τ} {s s' : State ι π σ τ} {i j : ι}

theorem Ahead.start (h : ∀ i, (P.phase i (c.place i)).isInside = false) :
    Ahead P c (start c) :=
  ⟨h, fun _ => rfl, by simp [CriticalSection.start]⟩

/-- A thread is in its section exactly if it has the mutex. -/
theorem Ahead.isInside_iff (h : Ahead P c s) (i : ι) :
    (P.phase i (s.place i)).isInside = true ↔ s.mutex = some i := by
  constructor
  · intro hinside
    cases hmutex : s.mutex with
    | none =>
      have hquiet := h.quiet i
      rw [← h.free hmutex, hinside] at hquiet
      cases hquiet
    | some j =>
      by_contra hne
      have hji : i ≠ j := fun e => hne (congrArg some e.symm)
      have hquiet := h.quiet i
      have hplace := congrArg (fun c => c.place i) (h.held j hmutex).2.1
      simp only [Config.goInside, Function.update_of_ne hji] at hplace
      rw [← hplace, hinside] at hquiet
      cases hquiet
  · exact fun hmutex => (h.held i hmutex).1

/-- The threads without the mutex are where the sections that are over have left them. -/
theorem Ahead.place_eq (h : Ahead P c s) (hi : s.mutex ≠ some i) : s.place i = c.place i := by
  cases hmutex : s.mutex with
  | none => rw [← h.free hmutex]
  | some j =>
    have hij : i ≠ j := fun e => hi (by rw [hmutex, e])
    have hplace := congrArg (fun c => c.place i) (h.held j hmutex).2.1
    simpa only [Config.goInside, Function.update_of_ne hij] using hplace

theorem Ahead.flags_eq (h : Ahead P c s) : s.flags = c.flags := by
  cases hmutex : s.mutex with
  | none => rw [← h.free hmutex]
  | some j => rw [(h.held j hmutex).2.1, Config.goInside]

/-! ### One operation -/

theorem step_outside (hphase : P.phase i (s.place i) = .outside) (a : α) :
    step P s (i, a) = .ok ⟨s.goOutside i (P.outside i (s.place i) a s.flags), s.mutex⟩ := by
  simp only [step, hphase]

theorem step_enter {next : π i} (hphase : P.phase i (s.place i) = .waits next)
    (hmutex : s.mutex = none) (a : α) :
    step P s (i, a) = .ok ⟨s.goInside i (next, s.shared), some i⟩ := by
  simp only [step, hphase, hmutex, if_true]

theorem step_blocked {next : π i} (hphase : P.phase i (s.place i) = .waits next)
    (hmutex : s.mutex ≠ none) (a : α) : step P s (i, a) = .ok s := by
  simp only [step, hphase, hmutex, if_false]

theorem step_access (hphase : P.phase i (s.place i) = .inside) {a : α} {next : π i × σ}
    (hnext : P.access i (s.place i) a s.shared = .ok next) :
    step P s (i, a) =
      .ok ⟨s.goInside i next, if (P.phase i next.1).isInside then s.mutex else none⟩ := by
  simp only [step, hphase, hnext, bind, Except.bind]

/-- The other threads stay where they are. -/
theorem place_of_step {a : α} (h : step P s (i, a) = .ok s') (hji : j ≠ i) :
    s'.place j = s.place j := by
  cases hphase : P.phase i (s.place i) with
  | outside =>
    rw [step_outside hphase] at h
    obtain rfl := Except.ok.inj h
    exact Function.update_of_ne hji _ _
  | waits next =>
    by_cases hmutex : s.mutex = none
    · rw [step_enter hphase hmutex] at h
      obtain rfl := Except.ok.inj h
      exact Function.update_of_ne hji _ _
    · rw [step_blocked hphase hmutex] at h
      rw [Except.ok.inj h]
  | inside =>
    cases hnext : P.access i (s.place i) a s.shared with
    | error e =>
      simp only [step, hphase, hnext, bind, Except.bind] at h
      cases h
    | ok next =>
      rw [step_access hphase hnext] at h
      obtain rfl := Except.ok.inj h
      exact Function.update_of_ne hji _ _

@[simp]
theorem Config.goInside_goInside (c : Config ι π σ τ) (i : ι) (next next' : π i × σ) :
    (c.goInside i next).goInside i next' = c.goInside i next' := by
  simp [Config.goInside]

/-- A thread outside and the thread inside do not touch the same things. -/
theorem Config.goOutside_goInside (hij : i ≠ j) (next : π i × τ) (next' : π j × σ) :
    (c.goInside j next').goOutside i next = (c.goOutside i next).goInside j next' := by
  simp [Config.goInside, Config.goOutside, Function.update_comm hij]

/-- An operation outside happens before the section of another thread as well. -/
theorem Ahead.goOutside (h : Ahead P c s) (hphase : P.phase i (s.place i) = .outside) (a : α) :
    Ahead P (c.goOutside i (P.outside i (c.place i) a c.flags))
      ⟨s.goOutside i (P.outside i (s.place i) a s.flags), s.mutex⟩ := by
  have hmutex : s.mutex ≠ some i := by
    rw [Ne, ← h.isInside_iff, hphase]
    exact Bool.false_ne_true
  rw [h.place_eq hmutex] at hphase ⊢
  rw [h.flags_eq]
  refine ⟨fun j => ?_, fun hfree => ?_, fun j hj => ?_⟩
  · by_cases hji : j = i
    · subst hji
      simpa [Config.goOutside] using P.isInside_outside a c.flags hphase
    · simpa [Config.goOutside, Function.update_of_ne hji] using h.quiet j
  · show s.toConfig.goOutside i _ = _
    rw [h.free hfree]
  · have hji : j ≠ i := fun e => hmutex (by rw [← e]; exact hj)
    obtain ⟨hinside, hconfig, next, hnext, hsolo⟩ := h.held j hj
    refine ⟨?_, ?_, next, ?_, ?_⟩
    · simpa [Config.goOutside, Function.update_of_ne hji] using hinside
    · have hplace : (s.goOutside i (P.outside i (c.place i) a c.flags)).place j = s.place j :=
        Function.update_of_ne hji _ _
      show s.goOutside i _ = (c.goOutside i _).goInside j (Config.place _ j, s.shared)
      rw [hplace, ← Config.goOutside_goInside hji.symm, ← hconfig]
    · simpa [Config.goOutside, Function.update_of_ne hji] using hnext
    · simpa [Config.goOutside, Function.update_of_ne hji] using hsolo

theorem Ahead.enter (h : Ahead P c s) {next : π i} (hphase : P.phase i (s.place i) = .waits next)
    (hmutex : s.mutex = none) :
    Ahead P c ⟨s.goInside i (next, s.shared), some i⟩ := by
  rw [h.free hmutex] at hphase ⊢
  refine ⟨h.quiet, fun hfree => ?_, fun j hj => ?_⟩
  · cases hfree
  · obtain rfl := Option.some.inj hj
    refine ⟨?_, ?_, next, hphase, ?_⟩
    · simpa [Config.goInside] using P.isInside_next hphase
    · simp [Config.goInside]
    · simp only [Config.goInside, Function.update_self]
      exact Relation.ReflTransGen.refl

/-- An access inside a section. -/
theorem Ahead.access (h : Ahead P c s) (hmutex : s.mutex = some i) {a : α} {next : π i × σ}
    (hnext : P.access i (s.place i) a s.shared = .ok next)
    (hinside : (P.phase i next.1).isInside = true) :
    Ahead P c ⟨s.goInside i next, s.mutex⟩ := by
  obtain ⟨hin, hconfig, first, hfirst, hsolo⟩ := h.held i hmutex
  rw [hmutex, hconfig, Config.goInside_goInside]
  refine ⟨h.quiet, fun hfree => ?_, fun j hj => ?_⟩
  · cases hfree
  · obtain rfl := Option.some.inj hj
    refine ⟨?_, ?_, first, hfirst, ?_⟩
    · simpa [Config.goInside] using hinside
    · simp [Config.goInside]
    · simp only [Config.goInside, Function.update_self]
      exact hsolo.tail ⟨hin, a, hnext⟩

/-- The last access of a section. -/
theorem Ahead.release (h : Ahead P c s) (hmutex : s.mutex = some i) {next : π i × σ}
    (hinside : (P.phase i next.1).isInside = false) :
    Ahead P (c.goInside i next) ⟨s.goInside i next, none⟩ := by
  rw [(h.held i hmutex).2.1, Config.goInside_goInside]
  refine ⟨fun j => ?_, fun _ => rfl, fun j hj => ?_⟩
  · by_cases hji : j = i
    · subst hji
      simpa [Config.goInside] using hinside
    · simpa [Config.goInside, Function.update_of_ne hji] using h.quiet j
  · cases hj

/-! ### The rule -/

/-- `I` holds between the sections.  `J c i p x` holds in the section that thread `i` has entered
from `c`, at the place `p` and with the shared state `x`. -/
structure Keeps (P : Program ι π σ τ α ε) (I : Config ι π σ τ → Prop)
    (J : Config ι π σ τ → (i : ι) → π i → σ → Prop) : Prop where
  outside : ∀ {c i}, I c → P.phase i (c.place i) = .outside → ∀ a,
    I (c.goOutside i (P.outside i (c.place i) a c.flags))
  enter : ∀ {c i next}, I c → P.phase i (c.place i) = .waits next → J c i next c.shared
  access : ∀ {c i p x}, I c → J c i p x → (P.phase i p).isInside = true → ∀ a,
    ∃ next, P.access i p a x = .ok next ∧
      ((P.phase i next.1).isInside = true → J c i next.1 next.2) ∧
      ((P.phase i next.1).isInside = false → I (c.goInside i next))

variable {I : Config ι π σ τ → Prop} {J : Config ι π σ τ → (i : ι) → π i → σ → Prop}

/-- The invariant of a section holds along its accesses. -/
theorem Keeps.along (hk : Keeps P I J) (hI : I c) {next : π i}
    (hnext : P.phase i (c.place i) = .waits next) {q : π i × σ}
    (h : Relation.ReflTransGen (Access P i) (next, c.shared) q)
    (hq : (P.phase i q.1).isInside = true) : J c i q.1 q.2 := by
  induction h with
  | refl => exact hk.enter hI hnext
  | tail _ hstep ih =>
    obtain ⟨hin, a, ha⟩ := hstep
    obtain ⟨next', hnext', hJ, -⟩ := hk.access hI (ih hin) hin a
    obtain rfl := Except.ok.inj (hnext'.symm.trans ha)
    exact hJ hq

theorem Keeps.inside (hk : Keeps P I J) (hI : I c) (h : Ahead P c s) (hmutex : s.mutex = some i) :
    J c i (s.place i) s.shared := by
  obtain ⟨hin, -, next, hnext, hsolo⟩ := h.held i hmutex
  exact hk.along hI hnext hsolo hin

/-- An operation of a thread, wherever the others are. -/
theorem Keeps.step (hk : Keeps P I J) (hI : I c) (h : Ahead P c s) (act : ι × α) :
    ∃ s', step P s act = .ok s' ∧ ∃ c', I c' ∧ Ahead P c' s' := by
  obtain ⟨i, a⟩ := act
  cases hphase : P.phase i (s.place i) with
  | outside =>
    refine ⟨_, step_outside hphase a, _, ?_, h.goOutside hphase a⟩
    have hmutex : s.mutex ≠ some i := by
      rw [Ne, ← h.isInside_iff, hphase]
      exact Bool.false_ne_true
    rw [h.place_eq hmutex] at hphase
    exact hk.outside hI hphase a
  | waits next =>
    cases hmutex : s.mutex with
    | none => exact ⟨_, step_enter hphase hmutex a, c, hI, h.enter hphase hmutex⟩
    | some j => exact ⟨s, step_blocked hphase (by simp [hmutex]) a, c, hI, h⟩
  | inside =>
    have hin : (P.phase i (s.place i)).isInside = true := by
      rw [hphase]
      rfl
    have hmutex : s.mutex = some i := (h.isInside_iff i).mp hin
    obtain ⟨next, hnext, hJ, hI'⟩ := hk.access hI (hk.inside hI h hmutex) hin a
    refine ⟨_, step_access hphase hnext, ?_⟩
    cases hinside : (P.phase i next.1).isInside with
    | true => exact ⟨c, hI, h.access hmutex hnext hinside⟩
    | false => exact ⟨_, hI' hinside, h.release hmutex hinside⟩

/-- Any operations of the threads, one after the other. -/
theorem Keeps.exec (hk : Keeps P I J) (hI : I c) (h : Ahead P c s) (acts : List (ι × α)) :
    ∃ s', Run.exec (CriticalSection.step P) s acts = .ok s' ∧ ∃ c', I c' ∧ Ahead P c' s' := by
  induction acts generalizing c s with
  | nil => exact ⟨s, rfl, c, hI, h⟩
  | cons act acts ih =>
    obtain ⟨s₁, hstep, c₁, hI₁, h₁⟩ := hk.step hI h act
    rw [Run.exec_cons hstep]
    exact ih hI₁ h₁

/-! ### The mutex is given back -/

/-- With a measure that every access of a section decreases, the thread with the mutex leaves its
section after at most that many accesses of its own. -/
theorem exists_released (hk : Keeps P I J) (m : (i : ι) → π i → σ → ℕ)
    (hm : ∀ {i p a x next}, (P.phase i p).isInside = true → P.access i p a x = .ok next →
      m i next.1 next.2 < m i p x)
    (a : α) (hI : I c) (h : Ahead P c s) (hmutex : s.mutex = some i) :
    ∃ n, n ≤ m i (s.place i) s.shared ∧
      ∃ s', Run.exec (step P) s (List.replicate n (i, a)) = .ok s' ∧ s'.mutex = none := by
  induction hmeasure : m i (s.place i) s.shared using Nat.strong_induction_on generalizing s with
  | _ k ih =>
    subst hmeasure
    have hin : (P.phase i (s.place i)).isInside = true := (h.isInside_iff i).mpr hmutex
    obtain ⟨next, hnext, -, -⟩ := hk.access hI (hk.inside hI h hmutex) hin a
    have hlt := hm hin hnext
    have hphase : P.phase i (s.place i) = .inside := by
      cases hp : P.phase i (s.place i) <;> first | rfl | (rw [hp] at hin; cases hin)
    have hstep := step_access hphase hnext
    cases hinside : (P.phase i next.1).isInside with
    | true =>
      simp only [hinside, if_true] at hstep
      have hahead := h.access hmutex hnext hinside
      obtain ⟨n, hn, s', hs', hfree⟩ :=
        ih _ (by simpa [Config.goInside] using hlt) hahead hmutex rfl
      refine ⟨n + 1, ?_, s', ?_, hfree⟩
      · simp only [Config.goInside, Function.update_self] at hn
        omega
      · rw [List.replicate_succ, Run.exec_cons hstep, hs']
    | false =>
      simp only [hinside, Bool.false_eq_true, if_false] at hstep
      refine ⟨1, by omega, ⟨s.goInside i next, none⟩, ?_, rfl⟩
      rw [List.replicate_one, Run.exec_cons hstep]
      rfl

end CriticalSection
