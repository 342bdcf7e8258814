import Gateway.Lib.CScan
import Gateway.Lib.Checked
import Gateway.Lib.SlidingWindow

/-!
# `dev-interface.c`: the average latency

`print_average_latency` reads the log of latencies line by line and keeps the last five numbers in
an array: it fills the array, and then moves the numbers down by hand for each that comes.

* `sampleValue` is what the loop makes of a line;
* `Window` is the array with the number of its places in use, and `contents_record` says that
  recording a number moves a window on;
* `average_latency`: what is reported for every file.
-/

namespace Gateway
namespace Average

open CText SlidingWindow

def lineSize : ℕ := 256
def windowSize : ℕ := 5
def header : List Char := "latency_microseconds".toList

/-! ### A line -/

/-- The number of a line, if the loop takes it: the line is not the header, and `strtoll` finds a
number in its range. -/
def sampleValue (line : List Char) : Option ℤ :=
  let string := stringAt line 0
  if header.isPrefixOf string then none
  else
    let r := strtoll string
    if r.erange ∨ r.rest = string then none else some r.value

/-! ### The array -/

/-- `int64_t values[5]` and `count`. -/
structure Window where
  values : List ℤ
  count : ℕ
  length_values : values.length = windowSize
  count_le : count ≤ windowSize

/-- The five assignments that make room for a number when the array is full. -/
def shift (values : List ℤ) (value : ℤ) : List ℤ :=
  let values := values.set 0 (values.getD 1 0)
  let values := values.set 1 (values.getD 2 0)
  let values := values.set 2 (values.getD 3 0)
  let values := values.set 3 (values.getD 4 0)
  values.set 4 value

theorem length_shift (values : List ℤ) (value : ℤ) :
    (shift values value).length = values.length := by
  simp [shift]

namespace Window

/-- Take a number into the array. -/
def record (w : Window) (value : ℤ) : Window :=
  if h : w.count < windowSize then
    ⟨w.values.set w.count value, w.count + 1, by rw [List.length_set, w.length_values], h⟩
  else
    ⟨shift w.values value, w.count, by rw [length_shift, w.length_values], w.count_le⟩

/-- The numbers in use. -/
def contents (w : Window) : List ℤ := w.values.take w.count

/-- The array before the loop, with whatever lies on the stack. -/
def start (stack : { l : List ℤ // l.length = windowSize }) : Window :=
  ⟨stack.1, 0, stack.2, Nat.zero_le _⟩

end Window

/-! ### The report -/

/-- What `print_average_latency` prints. -/
inductive Report
  | fopenFailed
  | noSamples
  | average (count : ℕ) (microseconds : ℤ)
  deriving DecidableEq

/-- The loop over the lines of the file. -/
def readWindow (w : Window) (text : List Char) : Window :=
  (fgetsLines lineSize text.length text).foldl
    (fun w line =>
      match sampleValue line with
      | none => w
      | some value => w.record value) w

/-- The loop that adds the numbers up. -/
def sumWindow (w : Window) : Option ℤ := Checked.sum 63 w.contents

/-- `print_average_latency`, for a file that cannot be opened or for its text; `none` when the sum
overflows. -/
def printAverageLatency (stack : { l : List ℤ // l.length = windowSize }) :
    Option (List Char) → Option Report
  | none => some .fopenFailed
  | some text =>
      let w := readWindow (.start stack) text
      if w.count = 0 then some .noSamples
      else (sumWindow w).map fun sum => .average w.count (sum.tdiv w.count)

/-! ### Recording -/

section Record

variable (w : Window)

theorem shift_eq {values : List ℤ} (h : values.length = windowSize) (value : ℤ) :
    shift values value = values.drop 1 ++ [value] := by
  match values, h with
  | [a, b, c, d, e], _ => rfl

theorem length_contents : w.contents.length = w.count := by
  rw [Window.contents, List.length_take, w.length_values, Nat.min_eq_left w.count_le]

/-- Recording a number moves the window of the numbers in use on. -/
theorem contents_record (value : ℤ) :
    (w.record value).contents = push windowSize w.contents value := by
  rw [push, length_contents]
  unfold Window.record
  split_ifs with h
  · have hlen : w.count < w.values.length := by rwa [w.length_values]
    show (w.values.set w.count value).take (w.count + 1) = _
    rw [List.take_add_one, List.take_set_of_le le_rfl, List.getElem?_set_self hlen]
    rfl
  · have hcount : w.count = windowSize := Nat.le_antisymm w.count_le (not_lt.mp h)
    have hall : w.contents = w.values := by
      rw [Window.contents, hcount, ← w.length_values, List.take_length]
    show (shift w.values value).take w.count = _
    rw [hall, shift_eq w.length_values, List.take_of_length_le]
    rw [hcount, List.length_append, List.length_drop, w.length_values, List.length_singleton]
    decide

/-- After the loop the array holds the last five numbers of the lines. -/
theorem contents_foldl (lines : List (List Char)) :
    (lines.foldl (fun w line =>
        match sampleValue line with
        | none => w
        | some value => w.record value) w).contents =
      (lines.filterMap sampleValue).foldl (push windowSize) w.contents := by
  induction lines generalizing w with
  | nil => rfl
  | cons line lines ih =>
    rw [List.foldl_cons, ih]
    cases hvalue : sampleValue line with
    | none => rw [List.filterMap_cons_none hvalue]
    | some value => rw [List.filterMap_cons_some hvalue, List.foldl_cons, contents_record]

end Record

/-! ### The lines of a file -/

theorem isPrefixOf_append_newline (text : List Char) :
    header.isPrefixOf (text ++ ['\n']) = header.isPrefixOf text := by
  rw [Bool.eq_iff_iff, List.isPrefixOf_iff_prefix, List.isPrefixOf_iff_prefix,
    List.prefix_concat_iff]
  refine or_iff_right fun heq => ?_
  have hmem : '\n' ∈ header := by
    rw [heq]
    simp
  exact absurd hmem (by decide)

/-- The end of a line adds nothing to it. -/
theorem sampleValue_append_newline (line : List Char) :
    sampleValue (line ++ ['\n']) = sampleValue line := by
  have hstring : stringAt (line ++ ['\n']) 0 = stringAt line 0 ++ ['\n'] ∨
      stringAt (line ++ ['\n']) 0 = stringAt line 0 := by
    rw [stringAt, stringAt, List.drop_zero, List.drop_zero, List.takeWhile_append]
    split_ifs with hall
    · rw [(List.takeWhile_prefix _).eq_of_length hall]
      exact Or.inl rfl
    · exact Or.inr rfl
  rcases hstring with hstring | hstring
  · obtain ⟨hvalue, herange, hrest⟩ :=
      strtoll_append_space (c := '\n') (by decide) (stringAt line 0)
    simp only [sampleValue, hstring, isPrefixOf_append_newline, hvalue, herange, hrest]
  · simp only [sampleValue, hstring]

/-- The loop leaves the last five numbers of the lines in the array. -/
theorem contents_readWindow (stack : { l : List ℤ // l.length = windowSize }) {text : List Char}
    (hshort : ∀ line ∈ text.splitOn '\n', line.length < lineSize) :
    (readWindow (.start stack) text).contents =
      ((text.splitOn '\n').filterMap sampleValue).rtake windowSize := by
  have hlines : (fgetsLines lineSize text.length text).filterMap sampleValue =
      (text.splitOn '\n').filterMap sampleValue :=
    filterMap_fgetsLines (by decide) (by decide)
      (fun line _ => sampleValue_append_newline line) hshort le_rfl
  rw [readWindow, contents_foldl, hlines]
  exact foldl_push (by decide) _

/-- A line with a number that was printed is a sample. -/
theorem sampleValue_decimal {n : ℤ} (h : Checked.Fits 63 n) : sampleValue (decimal n) = some n := by
  have hstring : stringAt (decimal n) 0 = decimal n := by
    rw [stringAt, List.drop_zero, List.takeWhile_eq_self_iff]
    intro c hc
    rw [decide_eq_true_eq]
    rintro rfl
    exact notMem_decimal (by decide) (by decide) n hc
  have hheader : header.isPrefixOf (decimal n) = false := by
    rw [← Bool.not_eq_true, List.isPrefixOf_iff_prefix]
    exact fun hpre => notMem_decimal (c := 'l') (by decide) (by decide) n
      (hpre.subset (by decide))
  have hne : decimal n ≠ [] := by
    unfold decimal
    split_ifs <;> simp [Nat.toDigits_ne_nil]
  simp only [sampleValue, hstring, hheader, strtoll_decimal h.1 h.2]
  simp [hne.symm]

/-- **The average of the last five latencies.**  For every file without overlong lines, with the
numbers `vs` in its lines: there are no samples to report exactly when there are no numbers, and
otherwise the report names the number of the last five of them and the quotient of their sum by it,
rounded towards zero, if the partial sums from the oldest one on fit. -/
theorem average_latency (stack : { l : List ℤ // l.length = windowSize }) (text : List Char)
    (hshort : ∀ line ∈ text.splitOn '\n', line.length < lineSize) :
    let vs := (text.splitOn '\n').filterMap sampleValue
    (printAverageLatency stack (some text) = some .noSamples ↔ vs.length = 0) ∧
      (vs.length ≠ 0 → Checked.PartialSumsFit 63 (vs.rtake 5) →
        printAverageLatency stack (some text) =
          some (.average (min 5 vs.length) ((vs.rtake 5).sum.tdiv (min 5 vs.length : ℕ)))) := by
  intro vs
  have hcontents : (readWindow (.start stack) text).contents = vs.rtake 5 :=
    contents_readWindow stack hshort
  have hcount : (readWindow (.start stack) text).count = min 5 vs.length := by
    rw [← length_contents, hcontents, length_rtake]
  constructor
  · simp only [printAverageLatency, hcount]
    constructor
    · intro h
      by_contra hne
      rw [if_neg (by omega)] at h
      obtain ⟨sum, -, hsum⟩ := Option.map_eq_some_iff.mp h
      cases hsum
    · intro h
      rw [if_pos (by omega)]
  · intro hne hfits
    have hsum : sumWindow (readWindow (.start stack) text) = some (vs.rtake 5).sum := by
      rw [sumWindow, hcontents]
      exact Checked.sum_eq_some_iff.mpr ⟨hfits, rfl⟩
    simp only [printAverageLatency, hcount, hsum, Option.map_some]
    rw [if_neg (by omega)]

/-- A header, a word, an empty line, a number that is too large and six numbers, the last of which
has neither a line end nor the line for itself. -/
theorem average_latency_six :
    let text := ("latency_microseconds\n100547\n8414\nlate\n9856\n-7360\n\n 19849\n".toList ++
      "99999999999999999999\n5423 us".toList)
    (text.splitOn '\n').filterMap sampleValue = [100547, 8414, 9856, -7360, 19849, 5423] ∧
      printAverageLatency ⟨[1, 2, 3, 4, 5], rfl⟩ (some text) = some (.average 5 7236) := by
  intro text
  have hvalues : (text.splitOn '\n').filterMap sampleValue =
      [100547, 8414, 9856, -7360, 19849, 5423] := by decide +kernel
  have hshort : ∀ line ∈ text.splitOn '\n', line.length < lineSize := by decide +kernel
  obtain ⟨-, haverage⟩ := average_latency ⟨[1, 2, 3, 4, 5], rfl⟩ text hshort
  rw [hvalues] at haverage
  exact ⟨hvalues, haverage (by decide) (by decide +kernel)⟩

end Average
end Gateway
