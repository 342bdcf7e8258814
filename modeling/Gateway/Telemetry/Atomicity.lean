import Gateway.Telemetry.Sections

/-!
# `telemetry_d.c`: the sections of `registry_mutex` are atomic

The threads of `Gateway.Telemetry.Locking` interleave between any two accesses.  With the mutex
free, the registry is the one of a run of `Gateway.Telemetry.Loop`, in which every section is a
single step.

* `keeps`: the sections of all threads;
* `run_cases`: no access fails before `main` has freed the registry;
* `registry_atomic`: every interleaving, up to the `free` of `main`.
-/

namespace Gateway
namespace Telemetry
namespace Locking

open CriticalSection

variable {ι : Type} [DecidableEq ι] {fresh : ℕ → Sensor} {s s' : State ι}
  {c : Config (Thread ι) Place Shared Flags} {past : List Action} {a : Telemetry.State}

theorem keeps (fresh : ℕ → Sensor) :
    Keeps (program (ι := ι) fresh) (fun c => ∃ past a, Coupled fresh c past a) (Within fresh) where
  outside := by
    rintro c i ⟨past, a, h⟩ hphase ans
    exact coupled_outside h hphase ans
  enter := by
    rintro c (_ | _ | i | _) next ⟨past, a, h⟩ hphase
    · cases hp : c.place .main <;> rw [hp] at hphase <;> cases hphase
      · exact ⟨past, a, h, hp, h.shared⟩
      · exact ⟨past, a, h, hp, h.shared⟩
    · cases hp : c.place .watchdog <;> rw [hp] at hphase <;> cases hphase
      exact ⟨past, a, h, Nat.zero_le _, _, h.shared, rfl, rfl⟩
    · cases hp : c.place (.user i) <;> rw [hp] at hphase <;> cases hphase
      · exact ⟨past, a, h, h.shared⟩
      · exact ⟨past, a, h, h.shared⟩
    · cases hphase
  access := by
    rintro c (_ | _ | i | _) p x - hw - ans
    · obtain ⟨past, a, h, hs⟩ := hw
      exact continues_main h hs ans
    · obtain ⟨past, a, h, hs⟩ := hw
      exact continues_watchdog h hs
    · obtain ⟨past, a, h, hs⟩ := hw
      exact continues_user h i hs ans
    · exact hw.elim

theorem Coupled.not_exited (h : Coupled fresh c past a) (hahead : Ahead (program fresh) c s)
    (e : Exit) : s.place .main ≠ .exited e := by
  intro hplace
  have hmutex : s.mutex ≠ some .main := by
    rw [Ne, ← hahead.isInside_iff, hplace]
    exact Bool.false_ne_true
  have hmain := h.main
  rw [← hahead.place_eq hmutex, hplace] at hmain
  exact hmain

theorem exited_of_step {act : Act ι} {e : Exit} (h : step fresh s act = .ok s')
    (hplace : s.place .main = .exited e) : s'.place .main = .exited e := by
  cases act with
  | free =>
    simp only [step, hplace] at h
    rw [← Except.ok.inj h, hplace]
  | thread t ans =>
    by_cases ht : t = .main
    · subst ht
      have hphase : (program fresh).phase .main (s.place .main) = .outside := by
        rw [hplace]
        rfl
      have hstep : step fresh s (.thread .main ans) = _ := step_outside hphase ans
      rw [hstep] at h
      obtain rfl := Except.ok.inj h
      simp [Config.goOutside, program, hplace, mainOutside]
    · rw [place_of_step h (Ne.symm ht), hplace]

theorem exited_of_exec {e : Exit} (acts : List (Act ι)) (h : Run.exec (step fresh) s acts = .ok s')
    (hplace : s.place .main = .exited e) : s'.place .main = .exited e := by
  induction acts generalizing s with
  | nil =>
    rw [← Except.ok.inj h]
    exact hplace
  | cons act acts ih =>
    obtain ⟨s₁, hstep, hrest⟩ := Run.exec_cons_ok h
    exact ih hrest (exited_of_step hstep hplace)

/-- Up to the `free` of `main` no access fails. -/
theorem run_cases (fresh : ℕ → Sensor) (acts : List (Act ι)) :
    (∃ s c past a, run fresh acts = .ok s ∧ Coupled fresh c past a ∧ Ahead (program fresh) c s) ∨
      ∃ pre s e, pre <+: acts ∧ run fresh pre = .ok s ∧ s.place .main = .exited e := by
  induction acts using List.reverseRecOn with
  | nil =>
    refine Or.inl ⟨_, _, _, _, rfl, coupled_init fresh, Ahead.start fun i => ?_⟩
    cases i <;> rfl
  | append_singleton acts act ih =>
    rcases ih with ⟨s, c, past, a, hs, h, hahead⟩ | ⟨pre, s, e, hpre, hs, hplace⟩
    · cases act with
      | thread t ans =>
        obtain ⟨s', hs', c', ⟨past', a', h'⟩, hahead'⟩ :=
          (keeps fresh).step ⟨past, a, h⟩ hahead (t, ans)
        refine Or.inl ⟨s', c', past', a', ?_, h', hahead'⟩
        rw [run, Run.exec_concat hs]
        exact hs'
      | free =>
        have hrun : run fresh (acts ++ [.free]) = step fresh s .free := Run.exec_concat hs .free
        cases hplace : s.place .main with
        | leaving e =>
          have hstep : step fresh s .free = .ok
              ⟨⟨s.shared.free, s.flags, Function.update s.place .main (.exited e)⟩, s.mutex⟩ := by
            simp only [step, hplace]
          exact Or.inr ⟨acts ++ [.free], _, e, List.prefix_rfl, hrun.trans hstep, by simp⟩
        | _ =>
          refine Or.inl ⟨s, c, past, a, ?_, h, hahead⟩
          rw [hrun]
          simp only [step, hplace]
    · exact Or.inr ⟨pre, s, e, hpre.trans (List.prefix_append _ _), hs, hplace⟩

theorem exec_threads (fresh : ℕ → Sensor) (s : State ι) (acts : List (Thread ι × Answer)) :
    Run.exec (step fresh) s (acts.map fun act => .thread act.1 act.2) =
      Run.exec (CriticalSection.step (program fresh)) s acts := by
  rw [Run.exec, List.foldlM_map]
  rfl

/-- The thread with the mutex gives it back on its own. -/
theorem exists_release (hI : ∃ past a, Coupled fresh c past a) (hahead : Ahead (program fresh) c s)
    {t : Thread ι} (ht : s.mutex = some t) :
    ∃ n ≤ sensorsLimitMax + 5, ∃ s',
      Run.exec (step fresh) s (List.replicate n (.thread t .done)) = .ok s' ∧ s'.mutex = none ∧
      ∃ c', (∃ past a, Coupled fresh c' past a) ∧ Ahead (program fresh) c' s' := by
  obtain ⟨n, hn, s', hs', hfree⟩ :=
    exists_released (keeps fresh) accessesLeft accessesLeft_lt .done hI hahead ht
  have hwithin := (keeps fresh).inside hI hahead ht
  obtain ⟨s₁, hs₁, hkept⟩ := (keeps fresh).exec hI hahead (List.replicate n (t, .done))
  obtain rfl := Except.ok.inj (hs₁.symm.trans hs')
  refine ⟨n, hn.trans hwithin.accessesLeft_le, s₁, ?_, hfree, hkept⟩
  have hexec := exec_threads fresh s (List.replicate n (t, .done))
  rw [List.map_replicate] at hexec
  rw [hexec, hs₁]

/-- Every interleaving of the accesses of the threads.  No access fails before `main` has left its
loop and freed the registry.  Until then exactly the thread with the mutex is in a section, and it
can leave the section on its own; with the mutex free, the memory, the count of the frames and the
place of `main` are those of a run in which every section is one step; and what a user has read was
in the registry at one point of that run. -/
theorem registry_atomic (fresh : ℕ → Sensor) (acts : List (Act ι)) :
    (∀ fault, run fresh acts = .error fault →
      ∃ pre s e, pre <+: acts ∧ run fresh pre = .ok s ∧ s.place .main = .exited e) ∧
    ∀ s, run fresh acts = .ok s → (∀ e, s.place .main ≠ .exited e) →
      (∀ t, Inside s t ↔ s.mutex = some t) ∧
      (∀ t, s.mutex = some t → ∃ n ≤ sensorsLimitMax + 5, ∃ s',
        run fresh (acts ++ List.replicate n (.thread t .done)) = .ok s' ∧ s'.mutex = none) ∧
      ∃ past a, Telemetry.run fresh past = .ok a ∧
        (s.mutex = none → Reflects s.shared a ∧
          s.flags.throughputFrameCount = a.throughputFrameCount ∧
          AtMain s.flags.exitRQ (s.place .main) a) ∧
        (∀ e, s.place .main = .leaving e →
          ∃ act, Telemetry.run fresh (past ++ [act]) = .ok { a with place := .exited e }) ∧
        ∀ i r, s.place (.user i) = .give r → r.Taken fresh past := by
  constructor
  · intro fault hfault
    rcases run_cases fresh acts with ⟨s, c, past, a, hs, -⟩ | hexited
    · rw [hs] at hfault
      cases hfault
    · exact hexited
  intro s hs hactive
  rcases run_cases fresh acts with
    ⟨s₁, c, past, a, hs₁, h, hahead⟩ | ⟨pre, s₁, e, hpre, hs₁, hplace⟩
  swap
  · -- once `main` has freed the registry it does not come back
    obtain ⟨rest, rfl⟩ := hpre
    rw [run, Run.exec_append hs₁] at hs
    exact absurd (exited_of_exec rest hs hplace) (hactive e)
  obtain rfl := Except.ok.inj (hs₁.symm.trans hs)
  refine ⟨fun t => (inside_iff fresh t).trans (hahead.isInside_iff t), fun t ht => ?_, past, a,
    h.run, fun hmutex => ?_, fun e he => ?_, fun i r hr => ?_⟩
  · obtain ⟨n, hn, s', hs', hfree, -⟩ := exists_release ⟨past, a, h⟩ hahead ht
    exact ⟨n, hn, s', by rw [run, Run.exec_append hs, hs'], hfree⟩
  · have hconfig := hahead.free hmutex
    rw [hconfig]
    exact ⟨h.shared, h.counted, h.main⟩
  · have hmutex : s₁.mutex ≠ some .main := by
      rw [Ne, ← hahead.isInside_iff, he]
      exact Bool.false_ne_true
    have hmain := h.main
    rw [← hahead.place_eq hmutex, he] at hmain
    obtain ⟨act, hact⟩ := Leaves.exists_step hmain (bounds_of_run h.run)
    exact ⟨act, h.run_step hact⟩
  · have hmutex : s₁.mutex ≠ some (.user i) := by
      rw [Ne, ← hahead.isInside_iff, hr]
      exact Bool.false_ne_true
    exact h.replies i r ((hahead.place_eq hmutex).symm.trans hr)

/-- A user has a copy of the registry.  Then the watchdog takes the mutex, a signal comes, and the
watchdog sweeps the block that `main` has freed. -/
theorem registry_atomic_freed :
    let f : Sensor := { Sensor.zero with id := 7, type := .torque, frameType := .data }
    let main : Act Unit := .thread .main .done
    let user : Act Unit := .thread (.user ()) .done
    let acts : List (Act Unit) :=
      List.replicate 4 main ++ [.thread .main (.message (.frame f))] ++ List.replicate 7 main ++
        [user, .thread (.user ()) (.request .snapshot), user, .thread (.user ()) .allocated] ++
        List.replicate 3 user
    let acts' : List (Act Unit) := acts ++
      [.thread .watchdog .done, .thread .watchdog (.clock ⟨0, 0⟩), .thread .watchdog .done,
        .thread .signals .done, main, .free, .thread .watchdog .done]
    (∃ s, run (fun _ => Sensor.zero) acts = .ok s ∧
      s.place (.user ()) = .give (.copy (some [updateRegistry f Sensor.zero])) ∧
      ∃ past b, Telemetry.run (fun _ => Sensor.zero) past = .ok b ∧
        b.entries = [updateRegistry f Sensor.zero]) ∧
    run (fun _ => Sensor.zero) acts' = .error (.freed 0) ∧
      ∃ pre s e, pre <+: acts' ∧ run (fun _ => Sensor.zero) pre = .ok s ∧
        s.place .main = .exited e := by
  intro f main user acts acts'
  obtain ⟨s, hs, hmain, hreply⟩ : ∃ s, run (fun _ => Sensor.zero) acts = .ok s ∧
      s.place .main = .top ∧
      s.place (.user ()) = .give (.copy (some [updateRegistry f Sensor.zero])) :=
    ⟨_, rfl, rfl, rfl⟩
  have hfault : run (fun _ => Sensor.zero) acts' = .error (.freed 0) := by rfl
  obtain ⟨-, -, past, a, -, -, -, hreplies⟩ :=
    (registry_atomic (fun _ => Sensor.zero) acts).2 s hs (by simp [hmain])
  obtain ⟨pre, b, -, hb, hentries⟩ := hreplies () _ hreply
  exact ⟨⟨s, hs, hreply, pre, b, hb, hentries.symm⟩, hfault,
    (registry_atomic (fun _ => Sensor.zero) acts').1 _ hfault⟩

end Locking
end Telemetry
end Gateway
