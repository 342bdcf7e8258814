import Gateway.Lib.CScan
import Gateway.Telemetry.Progress
import Gateway.Telemetry.UserHandler

/-!
# What `GET THROUGHPUT` measures

A user thread reads the counter of frames twice, ten seconds apart, while the main loop goes on
receiving and counting, in two operations.  The counter is a `uint64_t` and its difference is taken
modulo `2 ^ 64`; the rate is computed in the type `double`.

* `within_throughputBps`: how far the computed rate is from the rate;
* `throughputText_of_rate`: the number and the unit of the line;
* `throughput_measured`: the line shows the rate of the frames that were counted between the two
  looks at the counter, and which frames these are.
-/

namespace Gateway
namespace Telemetry

open Binary64 CText

/-! ### The rate -/

/-- The rate of `n` frames in bits per second. -/
def bitRate (n : ℕ) (elapsed : ℚ) : ℚ := n * sensorSize * 8 / elapsed

theorem bitRate_nonneg (n : ℕ) {elapsed : ℚ} (h : 0 ≤ elapsed) : 0 ≤ bitRate n elapsed := by
  unfold bitRate
  positivity

theorem within_totalBits (n : UInt64) : Within 3 (totalBits n) (n.toNat * sensorSize * 8) := by
  have hframes : Within 1 (nearest n.toNat) n.toNat := within_nearest (by positivity)
  have hsize : Within 2 (nearest (nearest n.toNat * sensorSize)) (n.toNat * sensorSize) :=
    (hframes.mul_const (by positivity)).nearest (by positivity)
  exact (hsize.mul_const (by norm_num)).nearest (by positivity)

/-- A second or more apart, the rate takes seventeen roundings. -/
theorem within_throughputBps (n : UInt64) {t t' : Timespec} (h : IsReading t) (h' : IsReading t')
    (hone : 1 ≤ elapsedSeconds t t') :
    Within 17 (nearest (totalBits n / elapsedDouble t t'))
      (bitRate n.toNat (elapsedSeconds t t')) :=
  ((within_totalBits n).div (within_elapsedDouble h h' hone) (by positivity) (by linarith)).nearest
    (bitRate_nonneg _ (by linarith))

/-- A number of the line: one more rounding and two decimals. -/
theorem abs_shown_sub_le {x rate c : ℚ} (h : Within 17 x rate) (hrate : 0 ≤ rate) (hc : 0 < c) :
    |readNumeral (fixed2 (nearest (x / c))) - rate / c| ≤ 1 / 200 + rate / c / 2 ^ 48 := by
  have hscaled : 0 ≤ rate / c := by positivity
  have hwithin : Within 18 (nearest (x / c)) (rate / c) := (h.div_const hc).nearest hscaled
  have herror : |nearest (x / c) - rate / c| ≤ rate / c * (1 / 2 ^ 48) :=
    hwithin.abs_sub_le hscaled (by norm_num) (by norm_num)
  have hprinted := abs_readNumeral_fixed2_sub_le (nearest (x / c))
  calc |readNumeral (fixed2 (nearest (x / c))) - rate / c|
      ≤ |readNumeral (fixed2 (nearest (x / c))) - nearest (x / c)| + |nearest (x / c) - rate / c| :=
        abs_sub_le _ _ _
    _ ≤ 1 / 200 + rate / c / 2 ^ 48 := by linarith

/-! ### The line -/

/-- The line `line` shows the rate `rate`: one number with two decimals, in megabits from
`10 ^ 6` bits per second on and in kilobits below, up to the roundings. -/
def ShowsRate (line : List Char) (rate : ℚ) : Prop :=
  ∃ shown, numerals line = [shown] ∧
    ((1000000 * (1 - 1 / 2 ^ 48) ≤ rate ∧ " Mbps\n".toList <:+ line ∧
        |shown - rate / 1000000| ≤ 1 / 200 + rate / 1000000 / 2 ^ 48) ∨
      (rate < 1000000 * (1 + 1 / 2 ^ 48) ∧ " Kbps\n".toList <:+ line ∧
        |shown - rate / 1000| ≤ 1 / 200 + rate / 1000 / 2 ^ 48))

theorem numerals_line (q : ℚ) {unit : List Char}
    (hunit : unit ∈ [" Mbps\n".toList, " Kbps\n".toList]) :
    numerals ("THROUGHPUT: ".toList ++ fixed2 q ++ unit) = [readNumeral (fixed2 q)] := by
  have hwords : ∀ words ∈ ["THROUGHPUT: ".toList, " Mbps\n".toList, " Kbps\n".toList],
      ∀ c ∈ words, isNumeral c = false := by
    intro words hwords
    have hany : words.any isNumeral = false := by
      revert words
      decide
    exact fun c hc => by simpa using List.any_eq_false.mp hany c hc
  have hne : unit ≠ [] := by
    rintro rfl
    revert hunit
    decide
  rw [List.append_assoc, numerals_append_of_none (hwords _ (by simp)),
    numerals_fixed2_append _ hne (hwords _ (List.mem_cons_of_mem _ hunit))]

/-- A second or more apart, the line shows the rate. -/
theorem throughputText_of_rate (n : UInt64) {t t' : Timespec} (h : IsReading t) (h' : IsReading t')
    (hone : 1 ≤ elapsedSeconds t t') :
    ShowsRate (throughputText n (elapsedDouble t t'))
      (bitRate n.toNat (elapsedSeconds t t')) := by
  have hrate := bitRate_nonneg n.toNat (show 0 ≤ elapsedSeconds t t' by linarith)
  have hwithin := within_throughputBps n h h' hone
  have helapsed : 0 < elapsedDouble t t' := (within_elapsedDouble h h' hone).pos (by linarith)
  have herror := hwithin.abs_sub_le (ε := 18 / 2 ^ 53) hrate (by norm_num) (by norm_num)
  rw [abs_le] at herror
  unfold throughputText
  rw [if_neg helapsed.ne', if_neg fun hneg => absurd hneg.2 (not_lt.mpr helapsed.le)]
  split_ifs with hlarge
  · refine ⟨_, numerals_line _ (by simp), Or.inl ⟨?_, List.suffix_append _ _,
      abs_shown_sub_le hwithin hrate (by norm_num)⟩⟩
    linarith [herror.2]
  · refine ⟨_, numerals_line _ (by simp), Or.inr ⟨?_, List.suffix_append _ _,
      abs_shown_sub_le hwithin hrate (by norm_num)⟩⟩
    linarith [herror.1, not_le.mp hlarge]

/-- The line fits its buffer and is sent as it is. -/
theorem giveSensorThroughput_eq (state : State) (allocated : Bool) (t t' : Timespec)
    (startCount endCount : UInt64) (sock : Socket) :
    giveSensorThroughput ⟨state, allocated, some t, some t', startCount, endCount⟩ sock =
      thenEnd (sock.send (throughputText (endCount - startCount) (elapsedDouble t t'))) := by
  obtain ⟨line, htext, -, -, hshort⟩ := throughputText_spec (endCount - startCount) t t'
  have hlen : (throughputText (endCount - startCount) (elapsedDouble t t')).length <
      responseSize := by
    rw [htext, List.length_append, List.length_singleton, responseSize]
    omega
  unfold giveSensorThroughput
  dsimp only
  rw [if_neg (not_le.mpr hlen), snprintf_of_lt hlen]

namespace Locking

open CriticalSection

variable {ι : Type} [DecidableEq ι]

/-- **What `GET THROUGHPUT` measures.**  Between any two moments of any run of the threads, the
difference of the counter is the number of the frames `counted`, modulo `2 ^ 64`: of those that
`receiveFrame` has returned in between, with the one that waited to be counted at the first moment
and without the one that waits at the second.  A user thread that looks at the counter at these two
moments, and at the clock a second or more apart, sends one line, which shows the rate of the frames
`counted`. -/
theorem throughput_measured (fresh : ℕ → Sensor) (acts acts' : List (Act ι)) (s s' : State ι)
    (hs : run fresh acts = .ok s) (hs' : run fresh (acts ++ acts') = .ok s') :
    ∃ counted, (s.place .main).uncounted ++ taken fresh s acts' =
        counted ++ (s'.place .main).uncounted ∧
      (s'.flags.throughputFrameCount - s.flags.throughputFrameCount).toNat =
        counted.length % 2 ^ 64 ∧
      ∀ state allocated t t' sock, counted.length < 2 ^ 64 → IsReading t → IsReading t' →
        1 ≤ elapsedSeconds t t' →
        ∃ line, giveSensorThroughput ⟨state, allocated, some t, some t',
            s.flags.throughputFrameCount, s'.flags.throughputFrameCount⟩ sock =
            thenEnd (sock.send line) ∧
          ShowsRate line (bitRate counted.length (elapsedSeconds t t')) := by
  have hb := (accounted_exec (bounded_init fresh) hs).2
  have hrest : Run.exec (step fresh) s acts' = .ok s' := by
    rw [run, Run.exec_append hs] at hs'
    exact hs'
  obtain ⟨⟨counted, haccounted⟩, -⟩ := accounted_exec hb hrest
  have hdiff : (s'.flags.throughputFrameCount - s.flags.throughputFrameCount).toNat =
      counted.length % 2 ^ 64 := by
    rw [haccounted.counter, UInt64.add_comm, UInt64.add_sub_cancel, UInt64.toNat_ofNat']
  refine ⟨counted, haccounted.received, hdiff, ?_⟩
  intro state allocated t t' sock hfew h h' hone
  rw [Nat.mod_eq_of_lt hfew] at hdiff
  refine ⟨_, giveSensorThroughput_eq state allocated t t' _ _ sock, ?_⟩
  rw [← hdiff]
  exact throughputText_of_rate _ h h' hone

/-- Two frames in ten seconds, the second of which is not counted yet: the rate of one frame of 80
bytes is shown. -/
theorem throughput_measured_torque :
    let f : Sensor := { Sensor.zero with id := 7, type := .torque, frameType := .data }
    let fresh : ℕ → Sensor := fun _ => Sensor.zero
    let main : Act Unit := .thread .main .done
    let pass : List (Act Unit) := List.replicate 4 main ++ [.thread .main (.message (.frame f))]
    let acts : List (Act Unit) := pass ++ List.replicate 7 main ++ pass
    ∃ s' line, run fresh acts = .ok s' ∧ taken fresh (start (init fresh)) acts = [f, f] ∧
      giveSensorThroughput ⟨Telemetry.init fresh, true, some ⟨0, 0⟩, some ⟨10, 0⟩, 0,
        s'.flags.throughputFrameCount⟩ ⟨[], []⟩ = thenEnd (Socket.send ⟨[], []⟩ line) ∧
      ShowsRate line 64 := by
  intro f fresh main pass acts
  obtain ⟨s', hs', hplace, htaken⟩ : ∃ s', run fresh acts = .ok s' ∧
      s'.place .main = .count f ∧ taken fresh (start (init fresh)) acts = [f, f] :=
    ⟨_, rfl, rfl, rfl⟩
  obtain ⟨counted, hreceived, -, hline⟩ := throughput_measured fresh [] acts _ s' rfl hs'
  rw [htaken, hplace] at hreceived
  obtain rfl : [f] = counted := List.append_left_injective [f] hreceived
  obtain ⟨line, hsent, hshows⟩ := hline (Telemetry.init fresh) true ⟨0, 0⟩ ⟨10, 0⟩ ⟨[], []⟩
    (by simp) (by decide) (by decide) (by norm_num [elapsedSeconds])
  refine ⟨s', line, hs', htaken, hsent, ?_⟩
  have hrate : bitRate [f].length (elapsedSeconds ⟨0, 0⟩ ⟨10, 0⟩) = 64 := by
    norm_num [bitRate, elapsedSeconds, sensorSize]
  rwa [hrate] at hshows

end Locking
end Telemetry
end Gateway
