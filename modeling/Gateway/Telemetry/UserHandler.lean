import Gateway.Packet
import Gateway.Telemetry.Elapsed
import Gateway.Telemetry.Views

/-!
# `telemetry_d.c`: reading requests

`userHandler` serves one user connection.  It looks for the sync byte, reads the selection byte and
the argument that goes with it, answers, and begins again; an unsupported byte, a failed answer, the
end of the stream or an error ends it.

* `readCommand` is the part of a pass up to the answer, `dispatch` the answer;
* a `Scene` is what a pass meets outside the connection: the registry and the memory for its copy,
  and the clock and the frame counter before and after the ten seconds of a throughput measurement;
* `throughputText` is computed in the type `double`, with the roundings of `Binary64`;
* `readCommand_encode`, `readCommand_none`: which bytes make a command, and which make none.
-/

namespace Gateway
namespace Telemetry

open Binary64 CText LittleEndian Processing Segmented

def selectionByteGetAll : UInt8 := 0xF6
def selectionByteGetType : UInt8 := 0xF7
def selectionByteGetID : UInt8 := 0xFB
def selectionByteGetThroughput : UInt8 := 0xFC
def selectionByteGetOnline : UInt8 := 0xFD
def selectionByteGetOffline : UInt8 := 0xFE

/-- What a user can ask for. -/
inductive Command
  | sensors (req : Request)
  | throughput
  deriving DecidableEq

/-- The commands that are answered. -/
def Command.Supported : Command → Prop
  | .sensors req => req.Supported
  | .throughput => True

instance : DecidablePred Command.Supported
  | .sensors req => inferInstanceAs (Decidable req.Supported)
  | .throughput => inferInstanceAs (Decidable True)

/-- What a pass of `userHandler` meets outside its connection. -/
structure Scene where
  state : State
  allocated : Bool
  startTime : Option Timespec
  endTime : Option Timespec
  startCount : UInt64
  endCount : UInt64

/-! ### The throughput -/

/-- `sizeof(Sensor_t)` with 64 bit times: the union and its padding, two times, the id and the name,
three enumerations and the padding behind them. -/
def sensorSize : ℕ := 16 + 16 + 16 + 16 + 12 + 4

def responseSize : ℕ := 256

/-- `(double)frames_received * (double)sizeof(Sensor_t) * 8.0`. -/
def totalBits (framesReceived : UInt64) : ℚ :=
  nearest (nearest (nearest framesReceived.toNat * sensorSize) * 8)

/-- The line of a throughput.  Every operation rounds; a division by zero has a result, which is not
signed on the AArch64 of the device, and a zero has a sign. -/
def throughputText (framesReceived : UInt64) (elapsed : ℚ) : List Char :=
  let throughputBps := nearest (totalBits framesReceived / elapsed)
  if elapsed = 0 then
    if framesReceived = 0 then "THROUGHPUT: nan Kbps\n".toList
    else "THROUGHPUT: inf Mbps\n".toList
  else if framesReceived = 0 ∧ elapsed < 0 then "THROUGHPUT: -0.00 Kbps\n".toList
  else if throughputBps ≥ 1000000 then
    "THROUGHPUT: ".toList ++ fixed2 (nearest (throughputBps / 1000000)) ++ " Mbps\n".toList
  else "THROUGHPUT: ".toList ++ fixed2 (nearest (throughputBps / 1000)) ++ " Kbps\n".toList

/-- `giveSensorThroughput`. -/
def giveSensorThroughput (scene : Scene) (sock : Socket) : Bool × Socket :=
  match scene.startTime, scene.endTime with
  | some startTime, some endTime =>
      let text := throughputText (scene.endCount - scene.startCount)
        (elapsedDouble startTime endTime)
      if text.length ≥ responseSize then (false, sock)
      else thenEnd (sock.send (snprintf responseSize text))
  | _, _ => (false, sock)

/-! ### The handler -/

/-- The search for the sync byte, in at most `n` receptions. -/
def huntSync : ℕ → List (Segmented.Event UInt8) → Option (List (Segmented.Event UInt8))
  | 0, _ => none
  | n + 1, es =>
      match recvExact 1 es with
      | none => none
      | some (bs, es) => if bs.getD 0 0 = syncByte then some es else huntSync n es

/-- The branch for a selection byte up to the answer: the command, or `none` where the handler
leaves its loop. -/
def readSelection (selection : UInt8) (es : List (Segmented.Event UInt8)) :
    Option (Command × List (Segmented.Event UInt8)) :=
  if selection = selectionByteGetID then
    (recvExact 2 es).map fun (bs, es) =>
      (.sensors (.getID (word16 (bs.getD 0 0) (bs.getD 1 0))), es)
  else if selection = selectionByteGetType then
    (recvExact 1 es).map fun (bs, es) => (.sensors (.getType (bs.getD 0 0)), es)
  else if selection = selectionByteGetOnline then some (.sensors .getOnline, es)
  else if selection = selectionByteGetOffline then some (.sensors .getOffline, es)
  else if selection = selectionByteGetAll then some (.sensors .getAll, es)
  else if selection = selectionByteGetThroughput then some (.throughput, es)
  else none

/-- A pass of the loop up to the answer.  Each reception of the search takes a byte off the stream,
which bounds their number. -/
def readCommand (es : List (Segmented.Event UInt8)) :
    Option (Command × List (Segmented.Event UInt8)) :=
  match huntSync ((content es).length + 1) es with
  | none => none
  | some es =>
      match recvExact 1 es with
      | none => none
      | some (bs, es) => readSelection (bs.getD 0 0) es

/-- The answer to a command. -/
def dispatch (localtime : ℤ → Option Tm) (scene : Scene) (cmd : Command) (sock : Socket) :
    Except ℕ (Bool × Socket) :=
  match cmd with
  | .sensors req => respond localtime scene.allocated scene.state req sock
  | .throughput => .ok (giveSensorThroughput scene sock)

/-- A command that was dispatched, whether the handler goes on, and what was sent for it. -/
structure Handled where
  cmd : Command
  ok : Bool
  text : List Char
  deriving DecidableEq

/-- At most `n` passes of the loop of `userHandler`; the scenes are numbered by the pass. -/
def userHandlerLoop (localtime : ℤ → Option Tm) (scenes : ℕ → Scene) :
    ℕ → List (Segmented.Event UInt8) → Socket → List Handled → Except ℕ (List Handled × Socket)
  | 0, _, sock, handled => .ok (handled, sock)
  | n + 1, es, sock, handled =>
      match readCommand es with
      | none => .ok (handled, sock)
      | some (cmd, es) => do
          let (ok, sock') ← dispatch localtime (scenes handled.length) cmd sock
          let handled := handled ++ [⟨cmd, ok, sock'.sent.drop sock.sent.length⟩]
          if ok then userHandlerLoop localtime scenes n es sock' handled
          else .ok (handled, sock')

/-- `userHandler`.  A pass that goes on has consumed two bytes at least, so the number of bytes
delivered bounds the number of passes; see `userHandlerLoop_eq`. -/
def userHandler (localtime : ℤ → Option Tm) (scenes : ℕ → Scene)
    (es : List (Segmented.Event UInt8)) (sock : Socket) : Except ℕ (List Handled × Socket) :=
  userHandlerLoop localtime scenes ((content es).length + 1) es sock []

/-! ### Reading a command -/

variable {es : List (Segmented.Event UInt8)}

/-- Receiving one byte of a stream that goes on. -/
theorem recvExact_byte (hx : NoExit es) {b : UInt8} {rest : List UInt8}
    (h : content es = b :: rest) :
    ∃ es', recvExact 1 es = some ([b], es') ∧ content es' = rest ∧ NoExit es' := by
  have hle : 1 ≤ (content es).length := by
    rw [h, List.length_cons]
    omega
  obtain ⟨es', hrecv, hrest, hx'⟩ := recvExact_of_le hx hle
  rw [h] at hrecv hrest
  exact ⟨es', hrecv, hrest, hx'⟩

theorem huntSync_found (hx : NoExit es) {junk rest : List UInt8} (hjunk : syncByte ∉ junk)
    (h : content es = junk ++ syncByte :: rest) {n : ℕ} (hn : junk.length < n) :
    ∃ es', huntSync n es = some es' ∧ content es' = rest ∧ NoExit es' := by
  induction n generalizing es junk with
  | zero => omega
  | succ n ih =>
    cases junk with
    | nil =>
      obtain ⟨es', hrecv, hrest, hx'⟩ := recvExact_byte hx h
      refine ⟨es', ?_, hrest, hx'⟩
      rw [huntSync, hrecv]
      rfl
    | cons b junk =>
      rw [List.mem_cons, not_or] at hjunk
      obtain ⟨es', hrecv, hrest, hx'⟩ := recvExact_byte hx h
      obtain ⟨es'', hhunt, hfound⟩ := ih hx' hjunk.2 hrest (by simpa using hn)
      refine ⟨es'', ?_, hfound⟩
      rw [huntSync, hrecv]
      exact (if_neg (Ne.symm hjunk.1)).trans hhunt

theorem huntSync_none (hx : NoExit es) (h : syncByte ∉ content es) (n : ℕ) :
    huntSync n es = none := by
  induction n generalizing es with
  | zero => rfl
  | succ n ih =>
    rw [huntSync]
    cases hcontent : content es with
    | nil => rw [recvExact_of_lt (by rw [hcontent]; decide)]
    | cons b rest =>
      rw [hcontent, List.mem_cons, not_or] at h
      obtain ⟨es', hrecv, hrest, hx'⟩ := recvExact_byte hx hcontent
      rw [hrecv]
      exact (if_neg (Ne.symm h.1)).trans (ih hx' (by rw [hrest]; exact h.2))

/-- After the first sync byte the next byte selects. -/
theorem readCommand_of_selection (hx : NoExit es) {junk rest : List UInt8} {selection : UInt8}
    (hjunk : syncByte ∉ junk) (h : content es = junk ++ syncByte :: selection :: rest) :
    ∃ es', content es' = rest ∧ NoExit es' ∧ readCommand es = readSelection selection es' := by
  have hn : junk.length < (content es).length + 1 := by
    rw [h, List.length_append]
    omega
  obtain ⟨es₁, hhunt, hrest₁, hx₁⟩ := huntSync_found hx hjunk h hn
  obtain ⟨es₂, hrecv, hrest₂, hx₂⟩ := recvExact_byte hx₁ hrest₁
  refine ⟨es₂, hrest₂, hx₂, ?_⟩
  rw [readCommand, hhunt]
  simp only [hrecv]
  rfl

/-- Without a byte after the sync byte there is no command. -/
theorem readCommand_of_no_selection (hx : NoExit es) {junk sync : List UInt8}
    (hjunk : syncByte ∉ junk) (hsync : sync = [] ∨ sync = [syncByte])
    (h : content es = junk ++ sync) : readCommand es = none := by
  unfold readCommand
  rcases hsync with rfl | rfl
  · rw [List.append_nil] at h
    rw [huntSync_none hx (by rwa [h])]
  · have hn : junk.length < (content es).length + 1 := by
      rw [h, List.length_append]
      omega
    obtain ⟨es₁, hhunt, hrest₁, -⟩ := huntSync_found hx hjunk h hn
    rw [hhunt]
    simp only [recvExact_of_lt (show (content es₁).length < 1 by rw [hrest₁]; decide)]

/-! ### The number of passes -/

theorem content_of_recvExact {len : ℕ} {bs : List UInt8} {es' : List (Segmented.Event UInt8)}
    (h : recvExact len es = some (bs, es')) :
    (content es').length + len = (content es).length := by
  unfold recvExact at h
  split_ifs at h with hcomplete
  obtain ⟨hle, -, hrest⟩ := recvAll_of_complete hcomplete
  obtain ⟨-, rfl⟩ := Prod.mk_inj.mp (Option.some.inj h)
  rw [hrest, List.length_drop]
  omega

theorem content_of_huntSync {n : ℕ} {es' : List (Segmented.Event UInt8)}
    (h : huntSync n es = some es') : (content es').length < (content es).length := by
  induction n generalizing es with
  | zero => cases h
  | succ n ih =>
    rw [huntSync] at h
    rcases hrecv : recvExact 1 es with _ | ⟨bs, es₁⟩
    · rw [hrecv] at h
      cases h
    · rw [hrecv] at h
      have hlen := content_of_recvExact hrecv
      simp only at h
      split_ifs at h
      · rw [← Option.some.inj h]
        omega
      · have hlt := ih h
        omega

theorem content_of_readSelection {selection : UInt8} {cmd : Command}
    {es' : List (Segmented.Event UInt8)} (h : readSelection selection es = some (cmd, es')) :
    (content es').length ≤ (content es).length := by
  have hrecv : ∀ {len : ℕ} {f : List UInt8 × List (Segmented.Event UInt8) → _},
      (∀ r, (f r).2 = r.2) → (recvExact len es).map f = some (cmd, es') →
        (content es').length ≤ (content es).length := by
    intro len f hf hmap
    obtain ⟨⟨bs, es₁⟩, hsome, heq⟩ := Option.map_eq_some_iff.mp hmap
    have hrest : es₁ = es' := (hf (bs, es₁)).symm.trans (congrArg Prod.snd heq)
    rw [hrest] at hsome
    have hlen := content_of_recvExact hsome
    omega
  unfold readSelection at h
  split_ifs at h
  · exact hrecv (fun _ => rfl) h
  · exact hrecv (fun _ => rfl) h
  all_goals
    obtain ⟨-, rfl⟩ := Prod.mk_inj.mp (Option.some.inj h)
    exact le_rfl

/-- A pass that reads a command has consumed some of the stream. -/
theorem content_of_readCommand {cmd : Command} {es' : List (Segmented.Event UInt8)}
    (h : readCommand es = some (cmd, es')) : (content es').length < (content es).length := by
  unfold readCommand at h
  rcases hhunt : huntSync ((content es).length + 1) es with _ | es₁
  · rw [hhunt] at h
    cases h
  · rw [hhunt] at h
    have hlt := content_of_huntSync hhunt
    simp only at h
    rcases hrecv : recvExact 1 es₁ with _ | ⟨bs, es₂⟩
    · rw [hrecv] at h
      cases h
    · rw [hrecv] at h
      have hlen := content_of_recvExact hrecv
      have hle := content_of_readSelection h
      omega

/-- More passes than the stream has bytes make no difference. -/
theorem userHandlerLoop_eq (localtime : ℤ → Option Tm) (scenes : ℕ → Scene) {n m : ℕ}
    (hn : (content es).length < n) (hm : (content es).length < m) (sock : Socket)
    (handled : List Handled) :
    userHandlerLoop localtime scenes n es sock handled =
      userHandlerLoop localtime scenes m es sock handled := by
  induction n generalizing es sock handled m with
  | zero => omega
  | succ n ih =>
    obtain ⟨m, rfl⟩ : ∃ k, m = k + 1 := ⟨m - 1, by omega⟩
    rw [userHandlerLoop, userHandlerLoop]
    rcases hread : readCommand es with _ | ⟨cmd, es'⟩
    · rfl
    · have hlt := content_of_readCommand hread
      simp only
      rcases dispatch localtime (scenes handled.length) cmd sock with e | ⟨ok, sock'⟩
      · rfl
      · cases ok with
        | false => rfl
        | true => exact ih (by omega) (by omega) sock' _

/-! ### The line of a throughput -/

theorem abs_totalBits_le (framesReceived : UInt64) : |totalBits framesReceived| ≤ 2 ^ 77 := by
  have hframes : |(framesReceived.toNat : ℚ)| ≤ 2 ^ 64 := by
    rw [abs_of_nonneg (by positivity)]
    exact_mod_cast framesReceived.toNat_lt.le
  have hsize : |(sensorSize : ℚ)| = 80 := by norm_num [sensorSize]
  have height : |(8 : ℚ)| = 8 := by norm_num
  calc |totalBits framesReceived|
      ≤ |nearest (nearest framesReceived.toNat * sensorSize) * 8| * 2 := abs_nearest_le _
    _ = |nearest (nearest framesReceived.toNat * sensorSize)| * 8 * 2 := by rw [abs_mul, height]
    _ ≤ |nearest framesReceived.toNat * sensorSize| * 2 * 8 * 2 := by
        gcongr
        exact abs_nearest_le _
    _ = |nearest framesReceived.toNat| * 80 * 2 * 8 * 2 := by rw [abs_mul, hsize]
    _ ≤ |(framesReceived.toNat : ℚ)| * 2 * 80 * 2 * 8 * 2 := by
        gcongr
        exact abs_nearest_le _
    _ ≤ 2 ^ 77 := by linarith

/-- Every number that a line shows is below `10 ^ 50`. -/
theorem abs_throughput_le (framesReceived : UInt64) {t t' : Timespec} {c : ℚ}
    (h : elapsedDouble t t' ≠ 0) (hc : 1 ≤ c) :
    |nearest (nearest (totalBits framesReceived / elapsedDouble t t') / c)| + 1 ≤ 10 ^ 50 := by
  have helapsed := le_abs_elapsedDouble h
  have hpos : (0 : ℚ) < |elapsedDouble t t'| := abs_pos.mpr h
  have hquotient : |totalBits framesReceived / elapsedDouble t t'| ≤ 2 ^ 161 := by
    rw [abs_div, div_le_iff₀ hpos]
    calc |totalBits framesReceived| ≤ 2 ^ 77 := abs_totalBits_le framesReceived
      _ = 2 ^ 161 * 2 ^ (-84 : ℤ) := by norm_num
      _ ≤ 2 ^ 161 * |elapsedDouble t t'| := by gcongr
  have hrate := abs_nearest_le (totalBits framesReceived / elapsedDouble t t')
  have hscaled : |nearest (totalBits framesReceived / elapsedDouble t t') / c| ≤
      |nearest (totalBits framesReceived / elapsedDouble t t')| := by
    rw [abs_div, abs_of_pos (by linarith : (0 : ℚ) < c)]
    exact div_le_self (abs_nonneg _) hc
  have hshown := abs_nearest_le (nearest (totalBits framesReceived / elapsedDouble t t') / c)
  norm_num at hquotient ⊢
  linarith

/-- The line fits its buffer, is printable, and has its end. -/
theorem throughputText_spec (framesReceived : UInt64) (t t' : Timespec) :
    ∃ line, throughputText framesReceived (elapsedDouble t t') = line ++ ['\n'] ∧
      Printable line ∧ ':' ∈ line ∧ line.length < 100 := by
  have hword : Printable "THROUGHPUT: ".toList ∧ ':' ∈ "THROUGHPUT: ".toList ∧
      ("THROUGHPUT: ".toList).length = 12 := by decide
  have hunit : Printable " Mbps".toList ∧ Printable " Kbps".toList ∧
      (" Mbps".toList).length = 5 ∧ (" Kbps".toList).length = 5 := by decide
  have hline : ∀ {q : ℚ} {unit : List Char}, |q| + 1 ≤ 10 ^ 50 → Printable unit →
      unit.length = 5 →
      Printable ("THROUGHPUT: ".toList ++ fixed2 q ++ unit) ∧
      ':' ∈ "THROUGHPUT: ".toList ++ fixed2 q ++ unit ∧
      ("THROUGHPUT: ".toList ++ fixed2 q ++ unit).length < 100 := by
    intro q unit hq hprint hlen
    have hfixed : (fixed2 q).length ≤ 50 + 4 := length_fixed2_le (by norm_num) hq
    refine ⟨?_, List.mem_append_left _ (List.mem_append_left _ hword.2.1), ?_⟩
    · simp only [printable_append, hword.1, printable_fixed2, hprint, and_self]
    · rw [List.length_append, List.length_append, hword.2.2, hlen]
      omega
  unfold throughputText
  simp only
  by_cases hzero : elapsedDouble t t' = 0
  · rw [if_pos hzero]
    split_ifs
    · exact ⟨"THROUGHPUT: nan Kbps".toList, by decide⟩
    · exact ⟨"THROUGHPUT: inf Mbps".toList, by decide⟩
  · rw [if_neg hzero]
    split_ifs
    · exact ⟨"THROUGHPUT: -0.00 Kbps".toList, by decide⟩
    · exact ⟨_, (List.append_assoc _ " Mbps".toList ['\n']).symm,
        hline (abs_throughput_le framesReceived hzero (by norm_num)) hunit.1 hunit.2.2.1⟩
    · exact ⟨_, (List.append_assoc _ " Kbps".toList ['\n']).symm,
        hline (abs_throughput_le framesReceived hzero (by norm_num)) hunit.2.1 hunit.2.2.2⟩

/-! ### Answers -/

/-- A pass for which nothing fails: the registry is one that `telemetryd` reaches with accepted
frames, the memory for its copy is there, and the clock can be read. -/
structure Scene.Live (scene : Scene) : Prop where
  reached : ∃ fresh acts, run fresh acts = .ok scene.state
  accepted : ∀ f ∈ frames scene.state.history, Accepted f
  allocated : scene.allocated = true
  clock : scene.startTime.isSome ∧ scene.endTime.isSome

/-- The whole answer to a command. -/
def answerText (localtime : ℤ → Option Tm) (scene : Scene) : Command → List Char
  | .sensors req => responseText localtime (view scene.state req)
  | .throughput =>
      throughputText (scene.endCount - scene.startCount)
        (elapsedDouble (scene.startTime.getD ⟨0, 0⟩) (scene.endTime.getD ⟨0, 0⟩)) ++
        responseEndMarker

variable {localtime : ℤ → Option Tm} {scene : Scene} {sock : Socket}

theorem giveSensorThroughput_of_live (hscene : scene.Live) (hsock : Reliable sock.schedule) :
    ∃ schedule, Reliable schedule ∧ giveSensorThroughput scene sock =
      (true, ⟨schedule, sock.sent ++ answerText localtime scene .throughput⟩) := by
  obtain ⟨t, ht⟩ := Option.isSome_iff_exists.mp hscene.clock.1
  obtain ⟨t', ht'⟩ := Option.isSome_iff_exists.mp hscene.clock.2
  obtain ⟨line, hline, -, -, hlen⟩ := throughputText_spec (scene.endCount - scene.startCount) t t'
  set text := throughputText (scene.endCount - scene.startCount) (elapsedDouble t t') with htext
  have hfit : text.length < responseSize := by
    rw [hline, List.length_append, List.length_singleton, responseSize]
    omega
  have hgive : giveSensorThroughput scene sock = thenEnd (sock.send text) := by
    simp only [giveSensorThroughput, ht, ht', ← htext, if_neg (not_le.mpr hfit),
      snprintf_of_lt hfit, ge_iff_le]
  obtain ⟨hok, hrest⟩ := Socket.send_of_reliable hsock text
  obtain ⟨hok', hrest'⟩ := thenEnd_of_reliable hok hrest
  rcases hend : thenEnd (sock.send text) with ⟨ok, sock'⟩
  rw [hend] at hok' hrest'
  obtain rfl : ok = true := hok'
  obtain ⟨sock₁, hsend, hsent⟩ := thenEnd_ok hend
  refine ⟨sock'.schedule, hrest', ?_⟩
  rw [hgive, hend, answerText, ht, ht', Option.getD_some, Option.getD_some, ← htext,
    ← List.append_assoc, ← Socket.send_ok hsend, ← hsent]

/-- Where nothing fails a supported command is answered in full. -/
theorem dispatch_of_live (localtime : ℤ → Option Tm) (hscene : scene.Live) {cmd : Command}
    (hcmd : cmd.Supported) (hsock : Reliable sock.schedule) :
    ∃ schedule, Reliable schedule ∧ dispatch localtime scene cmd sock =
      .ok (true, ⟨schedule, sock.sent ++ answerText localtime scene cmd⟩) := by
  cases cmd with
  | sensors req =>
    obtain ⟨fresh, acts, hrun⟩ := hscene.reached
    obtain ⟨t, ht, hb, h⟩ := represents_run fresh acts
    obtain rfl := Except.ok.inj (ht.symm.trans hrun)
    rw [dispatch, hscene.allocated]
    exact hb.respond_of_reliable (h.length_name_lt hscene.accepted) hcmd hsock
  | throughput =>
    obtain ⟨schedule, hrest, hgive⟩ := giveSensorThroughput_of_live hscene hsock
    exact ⟨schedule, hrest, by rw [dispatch, hgive]⟩

/-- A type that does not exist is not answered. -/
theorem dispatch_unsupported (localtime : ℤ → Option Tm) (scene : Scene) {typeByte : UInt8}
    (h : findSensorType typeByte = .unsupported) (sock : Socket) :
    dispatch localtime scene (.sensors (.getType typeByte)) sock = .ok (false, sock) := by
  simp only [dispatch, respond, giveSensorAllType, if_pos h]

end Telemetry
end Gateway
