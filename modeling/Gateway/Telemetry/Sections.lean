import Gateway.Telemetry.Locking

/-!
# `telemetry_d.c`: the sections of `registry_mutex`, access by access

A section of `Gateway.Telemetry.Locking` is a sequence of accesses.  It is followed here from the
call that takes the mutex to the one that gives it back, along with the one step that it is in
`Gateway.Telemetry.Loop`.

* `Reflects`, `AtMain`, `Coupled`: how the memory and the places of the threads stand for a state of
  `Gateway.Telemetry.Loop`;
* `MainSection`, `WatchdogSection`, `UserSection`: how far a thread has come in its section;
* `coupled_outside`: what the threads do without the mutex;
* `continues_main`, `continues_watchdog`, `continues_user`: one access, with which a thread is
  further in its section or has left it.

A signal may come between the condition of the main loop, which is outside of its section, and the
section.  In the run with atomic sections it comes after the section then.
-/

namespace Gateway
namespace Telemetry
namespace Locking

open CriticalSection

variable {ι : Type} {fresh : ℕ → Sensor} {x : Shared} {a : Telemetry.State}

/-! ### The memory -/

/-- The registry in memory is the one of `a`, and no other block is allocated. -/
structure Reflects (x : Shared) (a : Telemetry.State) : Prop where
  heap : x.heap x.sensorRegistry = some a.sensorRegistry
  only : ∀ address, address ≠ x.sensorRegistry → x.heap address = none
  count : x.sensorCount = a.sensorCount
  reallocation : x.sensorReallocation = a.sensorReallocation
  history : x.history = a.history

namespace Reflects

theorem block_eq (h : Reflects x a) : x.block x.sensorRegistry = .ok a.sensorRegistry := by
  rw [Shared.block, h.heap]

theorem load_eq (h : Reflects x a) {idx : ℕ} (hidx : idx < a.sensorRegistry.length) :
    x.load x.sensorRegistry idx = .ok a.sensorRegistry[idx] := by
  simp only [Shared.load, h.block_eq, bind, Except.bind, Block.load_eq hidx]
  rfl

/-- Rewriting an entry rewrites it in the list. -/
theorem exists_modify (h : Reflects x a) {idx : ℕ} (hidx : idx < a.sensorRegistry.length)
    (f : Sensor → Sensor) :
    ∃ x', x.modify x.sensorRegistry idx f = .ok x' ∧
      Reflects x' { a with sensorRegistry := a.sensorRegistry.modify idx f } := by
  let heap' := Function.update x.heap x.sensorRegistry (some (a.sensorRegistry.modify idx f))
  refine ⟨{ x with heap := heap' }, ?_, ?_⟩
  · simp only [Shared.modify, h.block_eq, bind, Except.bind, Block.load_eq hidx, Except.mapError,
      Block.store_apply hidx, heap']
  · refine ⟨Function.update_self .., fun address hne => ?_, h.count, h.reallocation,
      h.history⟩
    exact (Function.update_of_ne hne _ _).trans (h.only address hne)

/-- The new block has the entries of the old one, which is freed. -/
theorem exists_grow (h : Reflects x a) (fresh : ℕ → Sensor) (n : ℕ) :
    ∃ x', x.grow fresh n = .ok x' ∧
      Reflects x' { a with
        sensorRegistry := Block.realloc fresh a.sensorRegistry (sensorAllocationCount * n)
        sensorReallocation := n } := by
  refine ⟨_, by simp only [Shared.grow, h.block_eq, bind, Except.bind]; rfl, ?_⟩
  refine ⟨Function.update_self .., fun address hne => (Function.update_of_ne hne _ _).trans ?_,
    h.count, rfl, h.history⟩
  by_cases hold : address = x.sensorRegistry
  · rw [hold, Function.update_self]
  · rw [Function.update_of_ne hold, h.only address hold]

theorem record (h : Reflects x a) (e : Event) :
    Reflects { x with history := x.history ++ [e] } { a with history := a.history ++ [e] } :=
  ⟨h.heap, h.only, h.count, h.reallocation, congrArg (· ++ [e]) h.history⟩

/-- What happens to the other variables does not matter. -/
theorem congr {a' : Telemetry.State} (h : Reflects x a)
    (hregistry : a'.sensorRegistry = a.sensorRegistry) (hcount : a'.sensorCount = a.sensorCount)
    (hreallocation : a'.sensorReallocation = a.sensorReallocation)
    (hhistory : a'.history = a.history) : Reflects x a' where
  heap := by rw [hregistry, h.heap]
  only := h.only
  count := by rw [hcount, h.count]
  reallocation := by rw [hreallocation, h.reallocation]
  history := by rw [hhistory, h.history]

end Reflects

/-! ### The places -/

/-- In `a` the next step of the main loop leaves it with the reason `e`. -/
def Leaves (e : Exit) (a : Telemetry.State) : Prop :=
  match e with
  | .requested => (a.place = .top ∨ a.place = .waiting) ∧ a.exitRQ = true
  | .reallocFailed =>
      a.place = .top ∧ a.exitRQ = false ∧ a.capacity ≤ a.sensorCount ∧
        a.sensorCount < sensorsLimitMax
  | .receiveFailed => a.place = .waiting ∧ a.exitRQ = false
  | .sensorUnsupported => False
  | .registryFull f =>
      a.place = .received f ∧ f.key ∉ a.entries.map Sensor.key ∧ sensorsLimitMax ≤ a.sensorCount

/-- The place of `main` outside its sections, for the value of `exitRQ` that the threads see.  Past
a test of `exitRQ` in the loop, `a` has the value that was tested. -/
def AtMain (exitRQ : Bool) (p : MainPlace) (a : Telemetry.State) : Prop :=
  match p with
  | .top => a.place = .top ∧ a.exitRQ = exitRQ
  | .lockGrowth => a.place = .top ∧ a.exitRQ = false
  | .waiting => a.place = .waiting ∧ a.exitRQ = exitRQ
  | .count _ => a.place = .waiting ∧ a.exitRQ = exitRQ
  | .lockUpdate f => a.place = .received f ∧ a.exitRQ = exitRQ
  | .leaving e => Leaves e a
  | _ => False

/-- The reply has what was in the registry in `b`. -/
def Reply.TakenFrom (b : Telemetry.State) : Reply → Prop
  | .sensor id e => e = (b.entries.find? (·.id = id)).getD Sensor.zero
  | .copy none => True
  | .copy (some l) => l = b.entries

/-- The reply was taken in the course of a run. -/
def Reply.Taken (fresh : ℕ → Sensor) (past : List Action) (r : Reply) : Prop :=
  ∃ pre b, pre <+: past ∧ Telemetry.run fresh pre = .ok b ∧ r.TakenFrom b

/-- Between the sections the threads are where the run `past` has brought them. -/
structure Coupled (fresh : ℕ → Sensor) (c : Config (Thread ι) Place Shared Flags)
    (past : List Action) (a : Telemetry.State) : Prop where
  run : Telemetry.run fresh past = .ok a
  shared : Reflects c.shared a
  counted : c.flags.throughputFrameCount = a.throughputFrameCount
  main : AtMain c.flags.exitRQ (c.place .main) a
  replies : ∀ i r, c.place (.user i) = .give r → r.Taken fresh past

theorem coupled_init (fresh : ℕ → Sensor) :
    Coupled fresh (init (ι := ι) fresh) [] (Telemetry.init fresh) where
  run := rfl
  shared := by
    refine ⟨by simp [init, Telemetry.init], fun address hne => ?_, rfl, rfl, rfl⟩
    have hne' : address ≠ 0 := hne
    simp [init, hne']
  counted := rfl
  main := ⟨rfl, rfl⟩
  replies := fun _ _ hr => by cases hr

/-- A run keeps its bounds. -/
theorem bounds_of_run {past : List Action} (h : Telemetry.run fresh past = .ok a) : Bounds a := by
  obtain ⟨a', ha', hbounds⟩ := bounds_run fresh past
  obtain rfl := Except.ok.inj (ha'.symm.trans h)
  exact hbounds

theorem Leaves.not_exited {e e' : Exit} (h : Leaves e a) : a.place ≠ .exited e' := by
  intro hplace
  cases e <;> simp [Leaves, hplace] at h

theorem AtMain.not_exited {exitRQ : Bool} {p : MainPlace} {e : Exit} (h : AtMain exitRQ p a) :
    a.place ≠ .exited e := by
  intro hplace
  cases p with
  | leaving e' => exact Leaves.not_exited h hplace
  | _ => simp [AtMain, hplace] at h

/-- The step that leaves the loop. -/
theorem Leaves.exists_step {e : Exit} (h : Leaves e a) (hbounds : Bounds a) :
    ∃ act, Telemetry.step fresh a act = .ok { a with place := .exited e } := by
  cases e with
  | requested =>
    obtain ⟨hplace | hplace, hexit⟩ := h
    · refine ⟨.growth true, ?_⟩
      rw [step_growth true hplace, Telemetry.growth, if_pos hexit]
    · refine ⟨.receive .failed, ?_⟩
      rw [step_receive .failed hplace, receive, if_pos hexit]
  | reallocFailed =>
    obtain ⟨hplace, hexit, hfull⟩ := h
    rw [Telemetry.State.capacity] at hfull
    refine ⟨.growth false, ?_⟩
    rw [step_growth false hplace, Telemetry.growth, hexit, if_neg Bool.false_ne_true, if_pos hfull,
      if_neg Bool.false_ne_true]
  | receiveFailed =>
    obtain ⟨hplace, hexit⟩ := h
    refine ⟨.receive .failed, ?_⟩
    rw [step_receive .failed hplace, receive, hexit, if_neg Bool.false_ne_true]
  | sensorUnsupported => exact absurd h id
  | registryFull f =>
    obtain ⟨hplace, hnew, hlimit⟩ := h
    refine ⟨.update, ?_⟩
    have hexists := sensorExists_eq f hbounds.count_le_length
    rw [← Telemetry.State.entries, if_neg hnew] at hexists
    rw [step_update hplace]
    simp only [update, hexists, bind, Except.bind, Int.natCast_nonneg, not_lt.mpr, if_false,
      true_and, ge_iff_le, hlimit, if_true]

/-- A sweep does not keep `main` from leaving the loop. -/
theorem Leaves.of_sweep {e : Exit} {t : Timespec} (h : Leaves e a) (hbounds : Bounds a)
    {a' : Telemetry.State} (hsweep : Telemetry.sweep t a = .ok a') : Leaves e a' := by
  rw [hbounds.sweep_eq] at hsweep
  obtain rfl := Except.ok.inj hsweep
  cases e with
  | registryFull f =>
    obtain ⟨hplace, hnew, hlimit⟩ := h
    refine ⟨hplace, ?_, hlimit⟩
    have hlen : (a.entries.map (markState t)).length = a.sensorCount := by
      rw [List.length_map, hbounds.length_entries]
    have hentries : Telemetry.State.entries { a with
        sensorRegistry := a.entries.map (markState t) ++ a.sensorRegistry.drop a.sensorCount
        history := a.history ++ [.sweep t] } = a.entries.map (markState t) := by
      rw [Telemetry.State.entries]
      show List.take a.sensorCount (a.entries.map (markState t) ++ _) = _
      rw [← hlen, List.take_left]
    rw [hentries, List.map_map]
    exact hnew
  | _ => exact h

theorem AtMain.of_sweep {exitRQ : Bool} {p : MainPlace} {t : Timespec} (h : AtMain exitRQ p a)
    (hbounds : Bounds a) {a' : Telemetry.State} (hsweep : Telemetry.sweep t a = .ok a') :
    AtMain exitRQ p a' := by
  have hsame : a'.place = a.place ∧ a'.exitRQ = a.exitRQ := by
    rw [hbounds.sweep_eq] at hsweep
    obtain rfl := Except.ok.inj hsweep
    exact ⟨rfl, rfl⟩
  cases p with
  | leaving e => exact Leaves.of_sweep h hbounds hsweep
  | _ => first | exact ⟨hsame.1.trans h.1, hsame.2.trans h.2⟩ | exact absurd h id

/-! ### Inside the sections -/

variable {c c' : Config (Thread ι) Place Shared Flags} {past past' : List Action}
  {a' : Telemetry.State}

/-- A step to the place `q` of the main loop that changes nothing but the registry. -/
structure Goes (fresh : ℕ → Sensor) (a : Telemetry.State) (act : Action) (q : Telemetry.Place)
    (a' : Telemetry.State) : Prop where
  step : Telemetry.step fresh a act = .ok a'
  place : a'.place = q
  exitRQ : a'.exitRQ = a.exitRQ
  counted : a'.throughputFrameCount = a.throughputFrameCount

/-- How far `main` has come in the section that it has entered from `c`. -/
def MainSection (fresh : ℕ → Sensor) (c : Config (Thread ι) Place Shared Flags)
    (a : Telemetry.State) (p : MainPlace) (x : Shared) : Prop :=
  match p with
  | .growth => c.place .main = .lockGrowth ∧ Reflects x a
  | .realloc =>
      c.place .main = .lockGrowth ∧ Reflects x a ∧ a.capacity ≤ a.sensorCount ∧
        a.sensorCount < sensorsLimitMax
  | .unlockGrowth true =>
      c.place .main = .lockGrowth ∧ ∃ ok a', Goes fresh a (.growth ok) .waiting a' ∧ Reflects x a'
  | .unlockGrowth false => Leaves .reallocFailed a ∧ Reflects x a
  | .callExists f => c.place .main = .lockUpdate f ∧ Reflects x a
  | .sensorExists f registry count idx =>
      c.place .main = .lockUpdate f ∧ Reflects x a ∧ registry = x.sensorRegistry ∧
        count = x.sensorCount ∧ idx ≤ count ∧
        -- what is left of the loop finds what the whole loop finds
        Block.search (fun e => e.id = f.id ∧ e.type = f.type) a.sensorRegistry (count - idx) idx =
          Block.search (fun e => e.id = f.id ∧ e.type = f.type) a.sensorRegistry count 0
  | .claim f sensorIndex newSensorFlag =>
      c.place .main = .lockUpdate f ∧ Reflects x a ∧
        sensorExists f a.sensorRegistry a.sensorCount = .ok (sensorIndex, newSensorFlag)
  | .updateRegistry f idx =>
      c.place .main = .lockUpdate f ∧ idx < a.sensorRegistry.length ∧
        ∃ a', Goes fresh a .update .top a' ∧
          a'.sensorRegistry = a.sensorRegistry.modify idx (updateRegistry f) ∧
          a'.history = a.history ++ [.frame f] ∧
          Reflects x { a' with sensorRegistry := a.sensorRegistry, history := a.history }
  | .unlockUpdate none =>
      (∃ f, c.place .main = .lockUpdate f) ∧ ∃ a', Goes fresh a .update .top a' ∧ Reflects x a'
  | .unlockUpdate (some e) => Leaves e a ∧ Reflects x a
  | _ => False

/-- How far a sweep has come: the entries from `senseIdx` on are left. -/
def WatchdogSection (a : Telemetry.State) (p : WatchdogPlace) (x : Shared) : Prop :=
  match p with
  | .sweep t senseIdx =>
      senseIdx ≤ a.sensorCount ∧ ∃ block, Reflects x { a with sensorRegistry := block } ∧
        block.length = a.sensorRegistry.length ∧
        Block.modifyUpTo (markState t) (a.sensorCount - senseIdx) senseIdx block =
          Block.modifyUpTo (markState t) a.sensorCount 0 a.sensorRegistry
  | .unlock => ∃ t a', Telemetry.sweep t a = .ok a' ∧ Reflects x a'
  | _ => False

def UserSection (a : Telemetry.State) (p : UserPlace) (x : Shared) : Prop :=
  match p with
  | .callLookup _ => Reflects x a
  | .getSensorID id registry count idx =>
      Reflects x a ∧ registry = x.sensorRegistry ∧ count = x.sensorCount ∧ idx ≤ count ∧
        Block.search (fun e => e.id = id) a.sensorRegistry (count - idx) idx =
          Block.search (fun e => e.id = id) a.sensorRegistry count 0
  | .malloc => Reflects x a
  | .memcpy registry count copied =>
      Reflects x a ∧ registry = x.sensorRegistry ∧ count = x.sensorCount ∧
        copied = a.entries.take copied.length
  | .unlock reply => Reflects x a ∧ reply.TakenFrom a
  | _ => False

/-- Where a thread is in its section. -/
def Within (fresh : ℕ → Sensor) (c : Config (Thread ι) Place Shared Flags) :
    (i : Thread ι) → Place i → Shared → Prop
  | .main, p, x => ∃ past a, Coupled fresh c past a ∧ MainSection fresh c a p x
  | .watchdog, p, x => ∃ past a, Coupled fresh c past a ∧ WatchdogSection a p x
  | .user _, p, x => ∃ past a, Coupled fresh c past a ∧ UserSection a p x
  | .signals, _, _ => False

theorem Coupled.count_le (h : Coupled fresh c past a) : a.sensorCount ≤ sensorsLimitMax := by
  have hbounds := bounds_of_run h.run
  exact hbounds.count_le.trans hbounds.capacity_le

/-- A section has no more accesses than the limit of the registry and its frame need. -/
theorem Within.accessesLeft_le {i : Thread ι} {p : Place i} (h : Within fresh c i p x) :
    accessesLeft i p x ≤ sensorsLimitMax + 5 := by
  cases i with
  | main =>
    obtain ⟨past, a, h, hs⟩ := h
    have hle := h.count_le
    cases p with
    | callExists f =>
      have hcount := hs.2.count
      show x.sensorCount + 5 ≤ sensorsLimitMax + 5
      omega
    | sensorExists f registry count idx =>
      obtain ⟨-, hx, -, rfl, -⟩ := hs
      have hcount := hx.count
      show x.sensorCount - idx + 4 ≤ sensorsLimitMax + 5
      omega
    | _ =>
      simp only [accessesLeft]
      omega
  | watchdog =>
    obtain ⟨past, a, h, hs⟩ := h
    have hle := h.count_le
    cases p with
    | sweep t senseIdx =>
      obtain ⟨-, block, hx, -⟩ := hs
      have hcount : x.sensorCount = a.sensorCount := hx.count
      show x.sensorCount - senseIdx + 2 ≤ sensorsLimitMax + 5
      omega
    | _ =>
      simp only [accessesLeft]
      omega
  | user i =>
    obtain ⟨past, a, h, hs⟩ := h
    have hle := h.count_le
    cases p with
    | callLookup id =>
      have hcount := Reflects.count hs
      show x.sensorCount + 3 ≤ sensorsLimitMax + 5
      omega
    | getSensorID id registry count idx =>
      obtain ⟨hx, -, rfl, -⟩ := hs
      have hcount := hx.count
      show x.sensorCount - idx + 2 ≤ sensorsLimitMax + 5
      omega
    | malloc =>
      have hcount := Reflects.count hs
      show x.sensorCount + 3 ≤ sensorsLimitMax + 5
      omega
    | memcpy registry count copied =>
      obtain ⟨hx, -, rfl, -⟩ := hs
      have hcount := hx.count
      show x.sensorCount - copied.length + 2 ≤ sensorsLimitMax + 5
      omega
    | _ =>
      simp only [accessesLeft]
      omega
  | signals => exact h.elim

/-! ### Outside the sections -/

theorem Reply.Taken.mono {r : Reply} (h : r.Taken fresh past) (hpast : past <+: past') :
    r.Taken fresh past' := by
  obtain ⟨pre, b, hpre, hb⟩ := h
  exact ⟨pre, b, hpre.trans hpast, hb⟩

theorem Coupled.run_step (h : Coupled fresh c past a) {act : Action}
    (hstep : Telemetry.step fresh a act = .ok a') :
    Telemetry.run fresh (past ++ [act]) = .ok a' := by
  rw [Telemetry.run, Run.exec_concat h.run, hstep]

/-- The run goes on, and no thread has a new reply that was not taken in it. -/
theorem Coupled.of_run (h : Coupled fresh c past a) (hpast : past <+: past')
    (hrun : Telemetry.run fresh past' = .ok a') (hshared : Reflects c'.shared a')
    (hcounted : c'.flags.throughputFrameCount = a'.throughputFrameCount)
    (hmain : AtMain c'.flags.exitRQ (c'.place .main) a')
    (hreplies : ∀ i r, c'.place (.user i) = .give r →
      c.place (.user i) = .give r ∨ r.Taken fresh past') : Coupled fresh c' past' a' := by
  refine ⟨hrun, hshared, hcounted, hmain, fun i r hr => ?_⟩
  rcases hreplies i r hr with hold | hnew
  · exact (h.replies i r hold).mono hpast
  · exact hnew

variable [DecidableEq ι]

/-- `main` goes on outside its sections. -/
theorem Coupled.of_main (h : Coupled fresh c past a) {p : MainPlace} {o : Flags}
    (hpast : past <+: past') (hrun : Telemetry.run fresh past' = .ok a')
    (hshared : Reflects c.shared a') (hcounted : o.throughputFrameCount = a'.throughputFrameCount)
    (hmain : AtMain o.exitRQ p a') : Coupled fresh (c.goOutside .main (p, o)) past' a' := by
  refine h.of_run hpast hrun hshared hcounted ?_ fun i r hr => Or.inl ?_
  · simpa [Config.goOutside] using hmain
  · simpa [Config.goOutside] using hr

theorem coupled_mainOutside (h : Coupled fresh c past a) (ans : Answer) :
    ∃ past' a', Coupled fresh (c.goOutside .main (mainOutside (c.place .main) ans c.flags))
      past' a' := by
  have hmain := h.main
  have hstay : ∀ p, AtMain c.flags.exitRQ p a →
      ∃ past' a', Coupled fresh (c.goOutside .main (p, c.flags)) past' a' := fun p hp =>
    ⟨past, a, h.of_main List.prefix_rfl h.run h.shared h.counted hp⟩
  generalize c.place .main = p at hmain ⊢
  fun_cases mainOutside p ans c.flags with
  | case1 =>
    refine hstay _ ?_
    cases hexit : c.flags.exitRQ with
    | true => exact ⟨Or.inl hmain.1, hmain.2.trans hexit⟩
    | false => exact ⟨hmain.1, hmain.2.trans hexit⟩
  | case2 => exact hstay _ hmain
  | case3 =>
    have hrun := h.run_step (step_receive .incomplete hmain.1)
    exact ⟨_, _, h.of_main (List.prefix_append _ _) hrun (h.shared.congr rfl rfl rfl rfl) h.counted
      ⟨rfl, hmain.2⟩⟩
  | case4 =>
    refine hstay _ ?_
    cases hexit : c.flags.exitRQ with
    | true => exact ⟨Or.inr hmain.1, hmain.2.trans hexit⟩
    | false => exact ⟨hmain.1, hmain.2.trans hexit⟩
  | case5 _ f =>
    have hrun := h.run_step (step_receive (.frame f) hmain.1)
    exact ⟨_, _, h.of_main (List.prefix_append _ _) hrun (h.shared.congr rfl rfl rfl rfl)
      (congrArg (· + 1) h.counted) ⟨rfl, hmain.2⟩⟩
  | case6 => exact hstay _ hmain

/-- The signal handler.  If `main` is past a test of `exitRQ`, the run does not have the signal
yet. -/
theorem coupled_signal (h : Coupled fresh c past a) :
    ∃ past' a', Coupled fresh (c.goOutside .signals ((), { c.flags with exitRQ := true }))
      past' a' := by
  by_cases hlate : AtMain true (c.place .main) a
  · exact ⟨past, a, h.of_run List.prefix_rfl h.run h.shared h.counted
      (by simpa [Config.goOutside] using hlate) fun i r hr => Or.inl (by
        simpa [Config.goOutside] using hr)⟩
  · have hstep : Telemetry.step fresh a .signal = .ok { a with exitRQ := true } :=
      step_signal fun e => h.main.not_exited
    have hrun := h.run_step hstep
    refine ⟨_, _, h.of_run (List.prefix_append _ _) hrun (h.shared.congr rfl rfl rfl rfl)
      h.counted ?_ fun i r hr => Or.inl (by simpa [Config.goOutside] using hr)⟩
    have hmain := h.main
    simp only [Config.goOutside, ne_eq, reduceCtorEq, not_false_eq_true, Function.update_of_ne]
    cases hp : c.place .main <;> rw [hp] at hmain hlate <;>
      first | exact absurd hmain hlate | exact ⟨hmain.1, rfl⟩

/-- A reply is made in a section. -/
theorem userOutside_ne_give (p : UserPlace) (ans : Answer) (o : Flags) (r : Reply) :
    (userOutside p ans o).1 ≠ .give r := by
  fun_cases userOutside p ans o with
  | case1 => split_ifs <;> exact UserPlace.noConfusion
  | case2 =>
    cases ans with
    | request req => cases req <;> exact UserPlace.noConfusion
    | _ => exact UserPlace.noConfusion
  | case3 => split_ifs <;> exact UserPlace.noConfusion
  | case4 _ _ _ hgive => exact hgive r

theorem coupled_outside {i : Thread ι} (h : Coupled fresh c past a)
    (hphase : (program fresh).phase i (c.place i) = .outside) (ans : Answer) :
    ∃ past' a', Coupled fresh
      (c.goOutside i ((program fresh).outside i (c.place i) ans c.flags)) past' a' := by
  cases i with
  | main => exact coupled_mainOutside h ans
  | watchdog =>
    have hflags : (watchdogOutside (c.place .watchdog) ans c.flags).2 = c.flags := by
      fun_cases watchdogOutside (c.place .watchdog) ans c.flags <;> rfl
    refine ⟨past, a, h.of_run List.prefix_rfl h.run h.shared ?_ ?_ fun j r hr => Or.inl ?_⟩
    · exact (congrArg Flags.throughputFrameCount hflags).trans h.counted
    · simpa [Config.goOutside, program, hflags] using h.main
    · simpa [Config.goOutside] using hr
  | user i =>
    have hflags : (userOutside (c.place (.user i)) ans c.flags).2 = c.flags := by
      fun_cases userOutside (c.place (.user i)) ans c.flags <;> rfl
    refine ⟨past, a, h.of_run List.prefix_rfl h.run h.shared ?_ ?_ fun j r hr => Or.inl ?_⟩
    · exact (congrArg Flags.throughputFrameCount hflags).trans h.counted
    · simpa [Config.goOutside, program, hflags] using h.main
    · by_cases hji : j = i
      · subst hji
        simp only [Config.goOutside, Function.update_self] at hr
        exact absurd hr (userOutside_ne_give _ ans c.flags r)
      · have hne : Thread.user j ≠ Thread.user i := fun e => hji (Thread.user.inj e)
        simpa [Config.goOutside, Function.update_of_ne hne] using hr
  | signals => exact coupled_signal h

/-! ### One access of a section -/

/-- The outcome of an access: the thread is further in its section, or has left it. -/
def Continues (fresh : ℕ → Sensor) (c : Config (Thread ι) Place Shared Flags) (i : Thread ι)
    (r : Except Fault (Place i × Shared)) : Prop :=
  ∃ next, r = .ok next ∧
    (((program fresh).phase i next.1).isInside = true → Within fresh c i next.1 next.2) ∧
    (((program fresh).phase i next.1).isInside = false →
      ∃ past a, Coupled fresh (c.goInside i next) past a)

section Continues

variable {i : Thread ι} {r : Except Fault (Place i × Shared)} {p : Place i}

theorem Continues.inside (hr : r = .ok (p, x))
    (hin : ((program fresh).phase i p).isInside = true) (hw : Within fresh c i p x) :
    Continues fresh c i r := by
  refine ⟨(p, x), hr, fun _ => hw, fun hout => ?_⟩
  rw [hin] at hout
  cases hout

theorem Continues.left (hr : r = .ok (p, x))
    (hout : ((program fresh).phase i p).isInside = false)
    (hc : ∃ past a, Coupled fresh (c.goInside i (p, x)) past a) : Continues fresh c i r := by
  refine ⟨(p, x), hr, fun hin => ?_, fun _ => hc⟩
  rw [hout] at hin
  cases hin

end Continues

/-! ### The growth of the registry -/

/-- `main` leaves a section. -/
theorem Coupled.of_mainSection (h : Coupled fresh c past a) {p : MainPlace}
    (hpast : past <+: past') (hrun : Telemetry.run fresh past' = .ok a') (hshared : Reflects x a')
    (hcounted : a'.throughputFrameCount = a.throughputFrameCount)
    (hmain : AtMain c.flags.exitRQ p a') :
    ∃ past' a', Coupled fresh (c.goInside .main (p, x)) past' a' := by
  refine ⟨past', a', h.of_run hpast hrun hshared (h.counted.trans hcounted.symm) ?_
    fun i r hr => Or.inl ?_⟩
  · simpa [Config.goInside] using hmain
  · simpa [Config.goInside] using hr

theorem continues_growth (h : Coupled fresh c past a) (hs : MainSection fresh c a .growth x)
    (ans : Answer) : Continues fresh c .main (mainAccess fresh .growth ans x) := by
  obtain ⟨hplace, hx⟩ := hs
  have hmain := h.main
  rw [hplace] at hmain
  by_cases hfull : x.sensorCount ≥ sensorAllocationCount * x.sensorReallocation ∧
      x.sensorCount < sensorsLimitMax
  · refine Continues.inside (if_pos hfull) rfl ⟨past, a, h, hplace, hx, ?_⟩
    rwa [hx.count, hx.reallocation] at hfull
  · refine Continues.inside (if_neg hfull) rfl ⟨past, a, h, hplace, true,
      { a with place := .waiting }, ⟨?_, rfl, rfl, rfl⟩, hx.congr rfl rfl rfl rfl⟩
    rw [hx.count, hx.reallocation] at hfull
    rw [step_growth true hmain.1, Telemetry.growth, hmain.2, if_neg Bool.false_ne_true,
      if_neg hfull, ← hmain.2]

theorem continues_realloc (h : Coupled fresh c past a) (hs : MainSection fresh c a .realloc x)
    (ans : Answer) : Continues fresh c .main (mainAccess fresh .realloc ans x) := by
  obtain ⟨hplace, hx, hfull⟩ := hs
  have hmain := h.main
  rw [hplace] at hmain
  by_cases hans : ans = .allocated
  · subst hans
    obtain ⟨x', hx', hgrown⟩ := hx.exists_grow fresh (newReallocation x.sensorReallocation)
    rw [hx.reallocation] at hx' hgrown
    have hstep : Telemetry.step fresh a (.growth true) = .ok { a with
        sensorRegistry := Block.realloc fresh a.sensorRegistry
          (sensorAllocationCount * newReallocation a.sensorReallocation)
        sensorReallocation := newReallocation a.sensorReallocation
        place := .waiting } := by
      rw [Telemetry.State.capacity] at hfull
      rw [step_growth true hmain.1, Telemetry.growth, hmain.2, if_neg Bool.false_ne_true,
        if_pos hfull, if_pos rfl, ← hmain.2]
    refine Continues.inside (p := .unlockGrowth true) (x := x') ?_ rfl
      ⟨past, a, h, hplace, true, _, ⟨hstep, rfl, rfl, rfl⟩, hgrown.congr rfl rfl rfl rfl⟩
    simp only [mainAccess, hx.reallocation, hx', bind, Except.bind]
  · refine Continues.inside (p := .unlockGrowth false) (x := x) ?_ rfl
      ⟨past, a, h, ⟨hmain.1, hmain.2, hfull⟩, hx⟩
    cases ans <;> first | rfl | exact absurd rfl hans

/-- A signal that came after the test of `exitRQ` comes after the section in the run. -/
theorem continues_unlockGrowth (h : Coupled fresh c past a) {allocated : Bool}
    (hs : MainSection fresh c a (.unlockGrowth allocated) x) (ans : Answer) :
    Continues fresh c .main (mainAccess fresh (.unlockGrowth allocated) ans x) := by
  cases allocated with
  | true =>
    obtain ⟨hplace, ok, a', hgoes, hx⟩ := hs
    have hmain := h.main
    rw [hplace] at hmain
    have hrun := h.run_step hgoes.step
    refine Continues.left (p := .waiting) (x := x) rfl rfl ?_
    cases hexit : c.flags.exitRQ with
    | false =>
      refine h.of_mainSection (List.prefix_append _ _) hrun hx hgoes.counted ?_
      rw [hexit]
      exact ⟨hgoes.place, hgoes.exitRQ.trans hmain.2⟩
    | true =>
      have hsignal : Telemetry.run fresh (past ++ [.growth ok] ++ [.signal]) =
          .ok { a' with exitRQ := true } := by
        have hin : ∀ e, a'.place ≠ .exited e := fun e => by simp [hgoes.place]
        rw [Telemetry.run, Run.exec_concat hrun, step_signal hin]
      rw [List.append_assoc] at hsignal
      refine h.of_mainSection (List.prefix_append _ _) hsignal (hx.congr rfl rfl rfl rfl)
        hgoes.counted ?_
      rw [hexit]
      exact ⟨hgoes.place, rfl⟩
  | false =>
    obtain ⟨hleaves, hx⟩ := hs
    exact Continues.left (p := .leaving .reallocFailed) (x := x) rfl rfl
      (h.of_mainSection List.prefix_rfl h.run hx rfl hleaves)

/-! ### The update of the registry -/

theorem continues_callExists (h : Coupled fresh c past a) {f : Sensor}
    (hs : MainSection fresh c a (.callExists f) x) (ans : Answer) :
    Continues fresh c .main (mainAccess fresh (.callExists f) ans x) := by
  obtain ⟨hplace, hx⟩ := hs
  exact Continues.inside (p := .sensorExists f x.sensorRegistry x.sensorCount 0) (x := x) rfl rfl
    ⟨past, a, h, hplace, hx, rfl, rfl, Nat.zero_le _, rfl⟩

theorem continues_sensorExists (h : Coupled fresh c past a) {f : Sensor} {registry count idx : ℕ}
    (hs : MainSection fresh c a (.sensorExists f registry count idx) x) (ans : Answer) :
    Continues fresh c .main (mainAccess fresh (.sensorExists f registry count idx) ans x) := by
  obtain ⟨hplace, hx, rfl, rfl, hle, hsearch⟩ := hs
  have hbounds := bounds_of_run h.run
  have hcount := hx.count
  by_cases hidx : idx < x.sensorCount
  · have hlt : idx < a.sensorRegistry.length := by
      have := hbounds.count_le_length
      omega
    rw [Block.search_of_lt _ hidx hlt] at hsearch
    by_cases hfound : a.sensorRegistry[idx].id = f.id ∧ a.sensorRegistry[idx].type = f.type
    · refine Continues.inside (p := .claim f idx false) (x := x) ?_ rfl
        ⟨past, a, h, hplace, hx, ?_⟩
      · simp only [mainAccess, hidx, if_true, hx.load_eq hlt, bind, Except.bind, hfound, and_self]
      · rw [if_pos (by simpa using hfound)] at hsearch
        rw [sensorExists, ← hcount, ← hsearch]
        rfl
    · refine Continues.inside (p := .sensorExists f x.sensorRegistry x.sensorCount (idx + 1))
        (x := x) ?_ rfl ⟨past, a, h, hplace, hx, rfl, rfl, hidx, ?_⟩
      · simp only [mainAccess, hidx, if_true, hx.load_eq hlt, bind, Except.bind, hfound, if_false]
      · rwa [if_neg (by simpa using hfound)] at hsearch
  · refine Continues.inside (p := .claim f x.sensorCount true) (x := x) ?_ rfl
      ⟨past, a, h, hplace, hx, ?_⟩
    · simp only [mainAccess, hidx, if_false]
    · obtain rfl : idx = x.sensorCount := by omega
      rw [Nat.sub_self, Block.search] at hsearch
      rw [sensorExists, ← hcount, ← hsearch]
      rfl

/-- The entry that `sensorExists` finds or claims lies in the block, and the step writes there. -/
theorem exists_goes_update (fresh : ℕ → Sensor) (hbounds : Bounds a) {f : Sensor}
    (hplace : a.place = .received f) {sensorIndex : ℤ} {newSensorFlag : Bool}
    (hexists : sensorExists f a.sensorRegistry a.sensorCount = .ok (sensorIndex, newSensorFlag))
    (hroom : ¬ (newSensorFlag = true ∧ a.sensorCount ≥ sensorsLimitMax)) :
    sensorIndex.toNat < a.sensorRegistry.length ∧ ∃ a', Goes fresh a .update .top a' ∧
      a'.sensorRegistry = a.sensorRegistry.modify sensorIndex.toNat (updateRegistry f) ∧
      a'.sensorCount = (if newSensorFlag then a.sensorCount + 1 else a.sensorCount) ∧
      a'.sensorReallocation = a.sensorReallocation ∧ a'.history = a.history ++ [.frame f] := by
  have hlt : sensorIndex.toNat < a.sensorRegistry.length ∧ ¬ sensorIndex < 0 := by
    have hcases := sensorExists_eq f hbounds.count_le_length
    rw [hexists, ← Telemetry.State.entries] at hcases
    split_ifs at hcases with hk
    · obtain ⟨rfl, -⟩ := Prod.mk_inj.mp (Except.ok.inj hcases)
      have hidx := hbounds.idxOf_lt hk
      have hle := hbounds.count_le_length
      omega
    · obtain ⟨rfl, rfl⟩ := Prod.mk_inj.mp (Except.ok.inj hcases)
      have hidx := hbounds.count_lt hplace (by simpa using hroom)
      omega
  refine ⟨hlt.1,
    { a with
      sensorRegistry := a.sensorRegistry.modify sensorIndex.toNat (updateRegistry f)
      sensorCount := if newSensorFlag then a.sensorCount + 1 else a.sensorCount
      place := .top
      history := a.history ++ [.frame f] }, ⟨?_, rfl, rfl, rfl⟩, rfl, rfl, rfl, rfl⟩
  rw [step_update hplace]
  simp only [update, hexists, bind, Except.bind, hlt.2, if_false, hroom, Block.load_eq hlt.1,
    Block.store_apply hlt.1]

theorem continues_claim (h : Coupled fresh c past a) {f : Sensor} {sensorIndex : ℤ}
    {newSensorFlag : Bool} (hs : MainSection fresh c a (.claim f sensorIndex newSensorFlag) x)
    (ans : Answer) :
    Continues fresh c .main (mainAccess fresh (.claim f sensorIndex newSensorFlag) ans x) := by
  obtain ⟨hplace, hx, hexists⟩ := hs
  have hbounds := bounds_of_run h.run
  have hmain := h.main
  rw [hplace] at hmain
  have hcases := sensorExists_eq f hbounds.count_le_length
  rw [hexists, ← Telemetry.State.entries] at hcases
  have hindex : ¬ sensorIndex < 0 := by
    split_ifs at hcases <;>
    · obtain ⟨rfl, -⟩ := Prod.mk_inj.mp (Except.ok.inj hcases)
      omega
  by_cases hfull : newSensorFlag = true ∧ x.sensorCount ≥ sensorsLimitMax
  · refine Continues.inside (p := .unlockUpdate (some (.registryFull f))) (x := x) ?_ rfl
      ⟨past, a, h, ⟨hmain.1, ?_, hx.count ▸ hfull.2⟩, hx⟩
    · simp only [mainAccess, hindex, if_false, hfull, and_self, if_true]
    · intro hk
      rw [if_pos hk] at hcases
      have hflag := (Prod.mk_inj.mp (Except.ok.inj hcases)).2
      rw [hfull.1] at hflag
      cases hflag
  · obtain ⟨hlt, a', hgoes, hregistry, hcount, hreallocation, hhistory⟩ :=
      exists_goes_update fresh hbounds hmain.1 hexists (hx.count ▸ hfull)
    refine Continues.inside (p := .updateRegistry f sensorIndex.toNat) (x := { x with
      sensorCount := if newSensorFlag then x.sensorCount + 1 else x.sensorCount }) ?_ rfl
      ⟨past, a, h, hplace, hlt, a', hgoes, hregistry, hhistory, ?_⟩
    · simp only [mainAccess, hindex, if_false, hfull]
    · refine ⟨hx.heap, hx.only, ?_, hx.reallocation.trans hreallocation.symm, hx.history⟩
      show (if newSensorFlag then x.sensorCount + 1 else x.sensorCount) = a'.sensorCount
      rw [hcount, hx.count]

theorem continues_updateRegistry (h : Coupled fresh c past a) {f : Sensor} {idx : ℕ}
    (hs : MainSection fresh c a (.updateRegistry f idx) x) (ans : Answer) :
    Continues fresh c .main (mainAccess fresh (.updateRegistry f idx) ans x) := by
  obtain ⟨hplace, hlt, a', hgoes, hregistry, hhistory, hx⟩ := hs
  obtain ⟨x', hx', hmodified⟩ := hx.exists_modify hlt (updateRegistry f)
  refine Continues.inside (p := .unlockUpdate none)
    (x := { x' with history := x'.history ++ [.frame f] }) ?_ rfl
    ⟨past, a, h, ⟨f, hplace⟩, a', hgoes,
      (hmodified.record (.frame f)).congr hregistry rfl rfl hhistory⟩
  simp only [mainAccess, hx', bind, Except.bind]

theorem continues_unlockUpdate (h : Coupled fresh c past a) {exit : Option Exit}
    (hs : MainSection fresh c a (.unlockUpdate exit) x) (ans : Answer) :
    Continues fresh c .main (mainAccess fresh (.unlockUpdate exit) ans x) := by
  cases exit with
  | none =>
    obtain ⟨⟨f, hplace⟩, a', hgoes, hx⟩ := hs
    have hmain := h.main
    rw [hplace] at hmain
    exact Continues.left (p := .top) (x := x) rfl rfl
      (h.of_mainSection (List.prefix_append _ _) (h.run_step hgoes.step) hx hgoes.counted
        ⟨hgoes.place, hgoes.exitRQ.trans hmain.2⟩)
  | some e =>
    obtain ⟨hleaves, hx⟩ := hs
    exact Continues.left (p := .leaving e) (x := x) rfl rfl
      (h.of_mainSection List.prefix_rfl h.run hx rfl hleaves)

theorem continues_main (h : Coupled fresh c past a) {p : MainPlace}
    (hs : MainSection fresh c a p x) (ans : Answer) :
    Continues fresh c .main (mainAccess fresh p ans x) := by
  cases p with
  | growth => exact continues_growth h hs ans
  | realloc => exact continues_realloc h hs ans
  | unlockGrowth allocated => exact continues_unlockGrowth h hs ans
  | callExists f => exact continues_callExists h hs ans
  | sensorExists f registry count idx => exact continues_sensorExists h hs ans
  | claim f sensorIndex newSensorFlag => exact continues_claim h hs ans
  | updateRegistry f idx => exact continues_updateRegistry h hs ans
  | unlockUpdate exit => exact continues_unlockUpdate h hs ans
  | _ => exact absurd hs id

/-! ### The sweep of the watchdog -/

theorem continues_watchdog (h : Coupled fresh c past a) {p : WatchdogPlace}
    (hs : WatchdogSection a p x) : Continues fresh c .watchdog (watchdogAccess p x) := by
  have hbounds := bounds_of_run h.run
  cases p with
  | sweep t senseIdx =>
    obtain ⟨hle, block, hx, hlen, hmodify⟩ := hs
    have hcount := hx.count
    by_cases hidx : senseIdx < x.sensorCount
    · have hlt : senseIdx < block.length := by
        have hle' := hbounds.count_le_length
        rw [hlen]
        exact lt_of_lt_of_le (hcount ▸ hidx) hle'
      obtain ⟨x', hx', hmodified⟩ := hx.exists_modify hlt (markState t)
      refine Continues.inside (p := .sweep t (senseIdx + 1)) (x := x') ?_ rfl
        ⟨past, a, h, hcount ▸ hidx, _, hmodified, ?_, ?_⟩
      · simp only [watchdogAccess, hidx, if_true, hx', bind, Except.bind]
      · rw [List.length_modify, hlen]
      · rw [← hmodify, Block.modifyUpTo_of_lt _ (hcount ▸ hidx) hlt]
    · refine Continues.inside (p := .unlock)
        (x := { x with history := x.history ++ [.sweep t] }) ?_ rfl
        ⟨past, a, h, t, { a with sensorRegistry := block, history := a.history ++ [.sweep t] }, ?_,
          hx.record (.sweep t)⟩
      · simp only [watchdogAccess, hidx, if_false]
      · obtain rfl : senseIdx = a.sensorCount := le_antisymm hle (not_lt.mp (hcount ▸ hidx))
        rw [Nat.sub_self, Block.modifyUpTo] at hmodify
        rw [sweep, ← hmodify]
        rfl
  | unlock =>
    obtain ⟨t, a', hsweep, hx⟩ := hs
    have hrun := h.run_step ((step_sweep t fun e => h.main.not_exited).trans hsweep)
    have hcounted : a'.throughputFrameCount = a.throughputFrameCount := by
      rw [hbounds.sweep_eq] at hsweep
      rw [← Except.ok.inj hsweep]
    refine Continues.left (p := .usleep) (x := x) rfl rfl ⟨_, a', h.of_run (List.prefix_append _ _)
      hrun hx (h.counted.trans hcounted.symm) ?_ fun i r hr => Or.inl ?_⟩
    · simpa [Config.goInside] using h.main.of_sweep hbounds hsweep
    · simpa [Config.goInside] using hr
  | _ => exact absurd hs id

/-! ### The requests of the users -/

theorem continues_getSensorID (h : Coupled fresh c past a) (i : ι) {id : UInt16}
    {registry count idx : ℕ} (hs : UserSection a (.getSensorID id registry count idx) x)
    (ans : Answer) :
    Continues fresh c (.user i) (userAccess (.getSensorID id registry count idx) ans x) := by
  obtain ⟨hx, rfl, rfl, hle, hsearch⟩ := hs
  have hbounds := bounds_of_run h.run
  have hcount := hx.count
  have hlookup := hbounds.lookup_eq id
  rw [getSensorID, ← hcount] at hlookup
  by_cases hidx : idx < x.sensorCount
  · have hlt : idx < a.sensorRegistry.length := by
      have := hbounds.count_le_length
      omega
    rw [Block.search_of_lt _ hidx hlt] at hsearch
    by_cases hfound : a.sensorRegistry[idx].id = id
    · refine Continues.inside (p := .unlock (.sensor id a.sensorRegistry[idx])) (x := x) ?_ rfl
        ⟨past, a, h, hx, ?_⟩
      · simp only [userAccess, hidx, if_true, hx.load_eq hlt, bind, Except.bind, hfound]
      · rw [if_pos (by simpa using hfound)] at hsearch
        rw [← hsearch] at hlookup
        exact Except.ok.inj ((Block.load_eq hlt).symm.trans hlookup)
    · refine Continues.inside (p := .getSensorID id x.sensorRegistry x.sensorCount (idx + 1))
        (x := x) ?_ rfl ⟨past, a, h, hx, rfl, rfl, hidx, ?_⟩
      · simp only [userAccess, hidx, if_true, hx.load_eq hlt, bind, Except.bind, hfound, if_false]
      · rwa [if_neg (by simpa using hfound)] at hsearch
  · refine Continues.inside (p := .unlock (.sensor id Sensor.zero)) (x := x) ?_ rfl
      ⟨past, a, h, hx, ?_⟩
    · simp only [userAccess, hidx, if_false]
    · obtain rfl : idx = x.sensorCount := by omega
      rw [Nat.sub_self, Block.search] at hsearch
      rw [← hsearch] at hlookup
      exact Except.ok.inj hlookup

theorem continues_memcpy (h : Coupled fresh c past a) (i : ι) {registry count : ℕ}
    {copied : List Sensor} (hs : UserSection a (.memcpy registry count copied) x) (ans : Answer) :
    Continues fresh c (.user i) (userAccess (.memcpy registry count copied) ans x) := by
  obtain ⟨hx, rfl, rfl, hcopied⟩ := hs
  have hbounds := bounds_of_run h.run
  have hlen : a.entries.length = x.sensorCount := hbounds.length_entries.trans hx.count.symm
  by_cases hmore : copied.length < x.sensorCount
  · have hlt : copied.length < a.sensorRegistry.length := by
      have hle := hbounds.count_le_length
      rw [← hx.count] at hle
      omega
    refine Continues.inside
      (p := .memcpy x.sensorRegistry x.sensorCount (copied ++ [a.sensorRegistry[copied.length]]))
      (x := x) ?_ rfl ⟨past, a, h, hx, rfl, rfl, ?_⟩
    · simp only [userAccess, hmore, if_true, hx.load_eq hlt, bind, Except.bind]
    · have hentry : a.entries[copied.length]? = some a.sensorRegistry[copied.length] := by
        rw [Telemetry.State.entries, List.getElem?_take_of_lt (hx.count ▸ hmore),
          List.getElem?_eq_getElem hlt]
      rw [List.length_append, List.length_singleton, List.take_add_one, ← hcopied, hentry]
      rfl
  · refine Continues.inside (p := .unlock (.copy (some copied))) (x := x) ?_ rfl
      ⟨past, a, h, hx, ?_⟩
    · simp only [userAccess, hmore, if_false]
    · show copied = a.entries
      rw [hcopied, List.take_of_length_le (by omega)]

theorem continues_user (h : Coupled fresh c past a) (i : ι) {p : UserPlace}
    (hs : UserSection a p x) (ans : Answer) :
    Continues fresh c (.user i) (userAccess p ans x) := by
  cases p with
  | callLookup id =>
    exact Continues.inside (p := .getSensorID id x.sensorRegistry x.sensorCount 0) (x := x) rfl rfl
      ⟨past, a, h, hs, rfl, rfl, Nat.zero_le _, rfl⟩
  | getSensorID id registry count idx => exact continues_getSensorID h i hs ans
  | malloc =>
    by_cases hcount : x.sensorCount > 0
    · by_cases hans : ans = .allocated
      · refine Continues.inside (p := .memcpy x.sensorRegistry x.sensorCount []) (x := x) ?_ rfl
          ⟨past, a, h, hs, rfl, rfl, rfl⟩
        simp only [userAccess, hcount, if_true, hans]
      · refine Continues.inside (p := .unlock (.copy none)) (x := x) ?_ rfl
          ⟨past, a, h, hs, trivial⟩
        simp only [userAccess, hcount, if_true, hans, if_false]
    · refine Continues.inside (p := .unlock (.copy (some []))) (x := x) ?_ rfl
        ⟨past, a, h, hs, ?_⟩
      · simp only [userAccess, hcount, if_false]
      · have hzero : a.sensorCount = 0 := by
          rw [← Reflects.count hs]
          omega
        show [] = a.entries
        rw [Telemetry.State.entries, hzero, List.take_zero]
  | memcpy registry count copied => exact continues_memcpy h i hs ans
  | unlock reply =>
    obtain ⟨hx, htaken⟩ := hs
    refine Continues.left (p := .give reply) (x := x) rfl rfl ⟨past, a, h.of_run List.prefix_rfl
      h.run hx h.counted ?_ fun j r hr => ?_⟩
    · simpa [Config.goInside] using h.main
    · by_cases hji : j = i
      · subst hji
        simp only [Config.goInside, Function.update_self, UserPlace.give.injEq] at hr
        exact Or.inr ⟨past, a, List.prefix_rfl, h.run, hr ▸ htaken⟩
      · have hne : Thread.user j ≠ Thread.user i := fun e => hji (Thread.user.inj e)
        exact Or.inl (by simpa [Config.goInside, Function.update_of_ne hne] using hr)
  | _ => exact absurd hs id

end Locking
end Telemetry
end Gateway
