import Gateway.Interface

/-!
# A command of a user from end to end

A line that a user types becomes a packet, the packet is read by `userHandler`, the answer goes back
and is printed.  Either side can be cut off at any point: a `send` of the server may fail, and the
connection may break before all of it has arrived.

* `Sends`: what a function of the server that sends a text does when `send` may fail;
* `scanBuffer_cut`: what the client makes of an answer that is cut off;
* `requestPacket`: the packet of a line in the loop of `main`;
* `command_shown`: the user is never shown a part of an answer as if it were all of it;
* `Reading`, `userHandler_reads`: every stream of bytes is a sequence of requests and an ending, and
  what `userHandler` does with it.
-/

namespace Gateway
namespace Interface

open CText LittleEndian Processing Segmented Telemetry

/-! ### The server's side -/

/-- A function that has the text to send sends all of it and succeeds, or a proper front of it and
fails. -/
def Sends (sock : Socket) (text : List Char) (r : Bool × Socket) : Prop :=
  ∃ part, r.2.sent = sock.sent ++ part ∧ part <+: text ∧ (r.1 = true ↔ part = text)

namespace Sends

variable {sock sock' : Socket} {text text' : List Char} {r : Bool × Socket}

theorem send (sock : Socket) (text : List Char) : Sends sock text (sock.send text) := by
  refine ⟨(sendAll text sock.schedule).sent, rfl, sent_isPrefix text sock.schedule, ?_⟩
  constructor
  · exact sent_of_ok
  · intro hsent
    by_contra hok
    exact sent_ne_of_not_ok (Bool.not_eq_true _ ▸ hok) hsent

/-- A failure before anything is sent. -/
theorem fail (sock : Socket) (h : text ≠ []) : Sends sock text (false, sock) :=
  ⟨[], by simp, List.nil_prefix, by simp [h.symm]⟩

/-- What comes after a success. -/
theorem append (h : Sends sock text (true, sock')) (h' : Sends sock' text' r) :
    Sends sock (text ++ text') r := by
  obtain ⟨part, hsent, -, hall⟩ := h
  obtain ⟨part', hsent', hprefix', hall'⟩ := h'
  obtain rfl := hall.mp rfl
  refine ⟨part ++ part', ?_, (List.prefix_append_right_inj part).mpr hprefix', ?_⟩
  · rw [hsent', hsent, List.append_assoc]
  · rw [hall', List.append_cancel_left_eq]

/-- Nothing comes after a failure. -/
theorem stop (h : Sends sock text (false, sock')) (text' : List Char) :
    Sends sock (text ++ text') (false, sock') := by
  obtain ⟨part, hsent, hprefix, hall⟩ := h
  have hne : part ≠ text := fun heq => Bool.false_ne_true (hall.mpr heq)
  refine ⟨part, hsent, hprefix.trans (List.prefix_append text text'), ?_⟩
  refine iff_of_false Bool.false_ne_true fun heq => hne ?_
  have hlen := hprefix.length_le
  rw [heq, List.length_append] at hlen
  refine hprefix.eq_of_length ?_
  rw [heq, List.length_append]
  omega

theorem thenEnd (h : Sends sock text r) : Sends sock (text ++ responseEndMarker) (thenEnd r) := by
  obtain ⟨ok, sock'⟩ := r
  cases ok with
  | true => exact h.append (send sock' responseEndMarker)
  | false => exact h.stop responseEndMarker

end Sends

section Server

variable {localtime : ℤ → Option Tm} {sock : Socket}

theorem sends_giveSelected {selected : Sensor → Bool} {es : List Sensor}
    (hlen : ∀ e ∈ es, (sensorText localtime e).length < transmitBufferSize) (sock : Socket) :
    Sends sock ((es.filter selected).flatMap (sensorText localtime))
      (giveSelected localtime selected es sock) := by
  induction es generalizing sock with
  | nil => exact ⟨[], by simp [giveSelected], by simp, by simp [giveSelected]⟩
  | cons e es ih =>
    obtain ⟨he, hes⟩ := List.forall_mem_cons.mp hlen
    rw [giveSelected]
    by_cases hsel : selected e = true
    · rw [if_pos hsel, List.filter_cons_of_pos hsel, List.flatMap_cons, giveSensor_eq he]
      have hfirst := Sends.send sock (sensorText localtime e)
      cases hsend : sock.send (sensorText localtime e) with
      | mk ok sock' =>
        rw [hsend] at hfirst
        cases ok with
        | true => exact hfirst.append (ih hes sock')
        | false => exact hfirst.stop _
    · rw [if_neg hsel, List.filter_cons_of_neg hsel]
      exact ih hes sock

theorem responseText_ne_nil (es : List Sensor) : responseText localtime es ≠ [] := by
  intro h
  have hlen := congrArg List.length h
  simp [responseText, responseEndMarker] at hlen

/-- The copy of a listing, when there is one, is the entries in use. -/
theorem copyRegistry_eq_some {s : State} (hb : Bounds s) {allocated : Bool} {todo : List Sensor}
    (h : copyRegistry allocated s = .ok (some todo)) : todo = s.entries := by
  unfold copyRegistry at h
  split_ifs at h
  · cases h
  · rw [hb.snapshot_eq] at h
    exact (Option.some.inj (Except.ok.inj h)).symm

/-- What the critical section of a request takes out of the registry. -/
theorem capture_eq_some {s : State} (hb : Bounds s) {req : Request} {allocated : Bool}
    {todo : List Sensor} (h : capture req allocated s = .ok (some todo)) :
    todo = captured s req := by
  cases req with
  | getID id =>
    simp only [capture, hb.lookup_eq] at h
    exact (Option.some.inj (Except.ok.inj h)).symm
  | getType typeByte =>
    simp only [capture] at h
    split_ifs at h
    · cases h
    · exact copyRegistry_eq_some hb h
  | getAll => exact copyRegistry_eq_some hb h
  | getOnline => exact copyRegistry_eq_some hb h
  | getOffline => exact copyRegistry_eq_some hb h

/-- A request that shows sensors, whatever fails. -/
theorem sends_respond {fresh : ℕ → Sensor} {s : State} (hb : Bounds s) (h : Represents fresh s)
    (hacc : ∀ f ∈ frames s.history, Accepted f) (allocated : Bool) (req : Request)
    (sock : Socket) :
    ∃ r, respond localtime allocated s req sock = .ok r ∧
      Sends sock (responseText localtime (view s req)) r := by
  rcases capture_eq localtime hb req allocated sock with ⟨-, hfail⟩ | ⟨todo, htodo, hrespond⟩
  · exact ⟨_, hfail, Sends.fail sock (responseText_ne_nil _)⟩
  · obtain rfl := capture_eq_some hb htodo
    have hlen := length_captured_lt localtime (h.length_name_lt hacc) req
    exact ⟨_, hrespond, (sends_giveSelected hlen sock).thenEnd⟩

theorem sends_giveSensorThroughput (scene : Scene) (sock : Socket) :
    Sends sock (answerText localtime scene .throughput) (giveSensorThroughput scene sock) := by
  have hne : answerText localtime scene .throughput ≠ [] := by
    intro h
    have hlen := congrArg List.length h
    simp [answerText, responseEndMarker] at hlen
  unfold giveSensorThroughput
  split
  · rename_i startTime endTime hstart hend
    obtain ⟨line, htext, hprint, -, hshort⟩ := throughputText_spec
      (scene.endCount - scene.startCount) startTime endTime
    have hlen : (line ++ ['\n']).length < responseSize := by
      rw [List.length_append, List.length_singleton, responseSize]
      omega
    have hanswer : answerText localtime scene .throughput =
        (line ++ ['\n']) ++ responseEndMarker := by
      simp only [answerText, hstart, hend, Option.getD_some, htext]
    dsimp only
    rw [hanswer, htext, if_neg (not_le.mpr hlen), snprintf_of_lt hlen]
    exact (Sends.send sock _).thenEnd
  · exact Sends.fail sock hne

/-- The answer to a command, whatever fails: the memory, the clock or a `send`. -/
theorem sends_dispatch {scene : Scene} {fresh : ℕ → Sensor} (hb : Bounds scene.state)
    (h : Represents fresh scene.state) (hacc : ∀ f ∈ frames scene.state.history, Accepted f)
    (cmd : Command) (sock : Socket) :
    ∃ r, dispatch localtime scene cmd sock = .ok r ∧
      Sends sock (answerText localtime scene cmd) r := by
  cases cmd with
  | sensors req => exact sends_respond hb h hacc scene.allocated req sock
  | throughput => exact ⟨_, rfl, sends_giveSensorThroughput scene sock⟩

end Server

/-! ### The client's side -/

section Client

variable {latencyFile : Bool}

/-- A readable line is printed, and the next one begins. -/
theorem scanBuffer_printed {line : List Char} (latencyFile : Bool) (hline : Readable line)
    (rest : List Char) (c : Client) :
    ∃ c', c'.printed = c.printed ++ [line] ∧
      scanBuffer true latencyFile (line ++ '\n' :: rest) [] c =
        scanBuffer true latencyFile rest [] c' := by
  have hstr := cString_of_notMem hline.no_zero
  have hprocess : ∃ c', c'.printed = c.printed ++ [line] ∧
      processLine line true latencyFile c = (false, c') := by
    simp only [processLine, hstr, if_neg hline.not_end]
    refine ⟨_, ?_, rfl⟩
    split_ifs
    · rfl
    · rfl
  obtain ⟨c', hc', hfalse⟩ := hprocess
  refine ⟨c', hc', ?_⟩
  rw [scanBuffer_text hline.no_newline (by simpa using hline.short), List.nil_append, scanBuffer,
    if_pos rfl, hfalse]

/-- The end marker is not printed. -/
theorem scanBuffer_end_printed (latencyFile : Bool) (c : Client) :
    ∃ c', c'.printed = c.printed ∧
      scanBuffer true latencyFile responseEndMarker [] c = .returned 0 c' := by
  have hmarker : responseEndMarker = "END".toList ++ ['\n'] := rfl
  have hstr : cString "END".toList = "END".toList := by decide
  have hprocess : processLine "END".toList true latencyFile c =
      (true, { c with lines := c.lines ++ ["END".toList] }) := by
    simp only [processLine, hstr, if_true]
  refine ⟨{ c with lines := c.lines ++ ["END".toList] }, rfl, ?_⟩
  rw [hmarker, scanBuffer_text (by decide) (by decide), List.nil_append, scanBuffer, if_pos rfl,
    hprocess]

/-- A front of a text is a front of its first part, or the first part and a front of the second. -/
theorem prefix_append_iff {α : Type} {xs ys zs : List α} :
    xs <+: ys ++ zs ↔ xs <+: ys ∨ ∃ rest, xs = ys ++ rest ∧ rest <+: zs := by
  constructor
  · intro h
    rcases List.prefix_or_prefix_of_prefix h (List.prefix_append ys zs) with hys | ⟨rest, rfl⟩
    · exact Or.inl hys
    · exact Or.inr ⟨rest, rfl, (List.prefix_append_right_inj ys).mp h⟩
  · rintro (h | ⟨rest, rfl, h⟩)
    · exact h.trans (List.prefix_append ys zs)
    · exact (List.prefix_append_right_inj ys).mpr h

/-- The characters of a line that does not end. -/
theorem scanBuffer_open {text line : List Char} (hline : '\n' ∉ line)
    (hshort : line.length < telemetryBufferSize) (htext : text <+: line) (c : Client) :
    scanBuffer true latencyFile text [] c = .more text c := by
  have hno : '\n' ∉ text := fun h => hline (htext.subset h)
  have hlen : text.length < telemetryBufferSize := htext.length_le.trans_lt hshort
  have hscan : scanBuffer true latencyFile (text ++ []) [] c =
      scanBuffer true latencyFile [] ([] ++ text) c :=
    scanBuffer_text hno (by simpa using hlen) c
  rw [List.append_nil, List.nil_append] at hscan
  rw [hscan, scanBuffer]

/-- An answer of readable lines of which not all has come: the client waits for more, and has
printed some of the first lines. -/
theorem scanBuffer_cut {lines : List (List Char)} (h : ∀ line ∈ lines, Readable line)
    {text : List Char} (htext : text <+: lines.flatMap (· ++ ['\n']) ++ responseEndMarker)
    (hne : text ≠ lines.flatMap (· ++ ['\n']) ++ responseEndMarker) (c : Client) :
    ∃ line c' shown, scanBuffer true latencyFile text [] c = .more line c' ∧
      c'.printed = c.printed ++ shown ∧ shown <+: lines := by
  induction lines generalizing text c with
  | nil =>
    -- without its newline the end marker is only the beginning of a line
    rw [List.flatMap_nil, List.nil_append] at htext hne
    have hmarker : responseEndMarker = "END".toList ++ ['\n'] := rfl
    rw [hmarker] at htext hne
    have hopen : text <+: "END".toList := by
      rcases prefix_append_iff.mp htext with hopen | ⟨rest, rfl, hrest⟩
      · exact hopen
      · rcases List.prefix_cons_iff.mp hrest with rfl | ⟨rest', rfl, hrest'⟩
        · simp
        · rw [List.prefix_nil.mp hrest'] at hne
          exact absurd rfl hne
    exact ⟨text, c, [], scanBuffer_open (by decide) (by decide) hopen c, by simp, List.nil_prefix⟩
  | cons line lines ih =>
    obtain ⟨hline, hlines⟩ := List.forall_mem_cons.mp h
    rw [List.flatMap_cons, List.append_assoc, List.append_assoc] at htext hne
    rcases prefix_append_iff.mp htext with hopen | ⟨rest, rfl, hrest⟩
    · exact ⟨text, c, [], scanBuffer_open hline.no_newline hline.short hopen c, by simp,
        List.nil_prefix⟩
    · rcases List.prefix_cons_iff.mp hrest with rfl | ⟨rest', rfl, hrest'⟩
      · rw [List.append_nil]
        exact ⟨line, c, [], scanBuffer_open hline.no_newline hline.short (List.prefix_refl _) c,
          by simp, List.nil_prefix⟩
      · obtain ⟨c₁, hc₁, hscan⟩ := scanBuffer_printed latencyFile hline rest' c
        obtain ⟨line', c', shown, hmore, hprinted, hshown⟩ := ih hlines hrest'
          (fun heq => hne (by rw [heq]; rfl)) c₁
        refine ⟨line', c', line :: shown, by rw [hscan, hmore], ?_, ?_⟩
        · rw [hprinted, hc₁]
          simp
        · exact (List.prefix_cons_inj line).mpr hshown

/-- An answer of readable lines that has come in full is printed, and the client returns 0. -/
theorem scanBuffer_whole {lines : List (List Char)} (h : ∀ line ∈ lines, Readable line)
    (c : Client) :
    ∃ c', c'.printed = c.printed ++ lines ∧
      scanBuffer true latencyFile (lines.flatMap (· ++ ['\n']) ++ responseEndMarker) [] c =
        .returned 0 c' := by
  induction lines generalizing c with
  | nil => simpa using scanBuffer_end_printed latencyFile c
  | cons line lines ih =>
    obtain ⟨hline, hlines⟩ := List.forall_mem_cons.mp h
    obtain ⟨c₁, hc₁, hscan⟩ := scanBuffer_printed latencyFile hline
      (lines.flatMap (· ++ ['\n']) ++ responseEndMarker) c
    obtain ⟨c', hc', hreturned⟩ := ih hlines c₁
    refine ⟨c', by rw [hc', hc₁]; simp, ?_⟩
    rw [← hreturned, ← hscan]
    simp

/-- A loop that waits for more finds the end of the stream. -/
theorem receiveUntilEnd_of_more {printResponse latencyFile : Bool}
    {es : List (Segmented.Event Char)} {line line' : List Char} {c c' : Client}
    (h : scanBuffer printResponse latencyFile (content es) line c = .more line' c') :
    receiveUntilEnd printResponse latencyFile line c es = (-1, c') := by
  induction es generalizing line c with
  | nil =>
    obtain ⟨-, rfl⟩ := Scan.more.inj h
    rfl
  | cons e es ih =>
    cases e with
    | data ch chs =>
      rw [content, scanBuffer_append] at h
      rw [receiveUntilEnd]
      cases hscan : scanBuffer printResponse latencyFile (ch :: chs) line c with
      | more line₁ c₁ =>
        rw [hscan] at h
        exact ih h
      | returned code c₁ =>
        rw [hscan] at h
        cases h
    | eintr exit => exact ih h
    | fail =>
      obtain ⟨-, rfl⟩ := Scan.more.inj h
      rfl

end Client

/-! ### From the line to the printed answer -/

/-- The lines of an answer. -/
def answerLines (localtime : ℤ → Option Tm) (scene : Scene) : Command → List (List Char)
  | .sensors req => (view scene.state req).map (sensorLine localtime)
  | .throughput =>
      [(throughputText (scene.endCount - scene.startCount)
        (elapsedDouble (scene.startTime.getD ⟨0, 0⟩) (scene.endTime.getD ⟨0, 0⟩))).dropLast]

/-- The branches of the loop in `main` for a line that is sent to the server: the packet, or `none`
where nothing is sent. -/
def requestPacket (command : List Char) : Option (List UInt8) :=
  if command = "GET THROUGHPUT\n".toList then some sendGetThroughput
  else sendUserCommand command

section Shown

variable {localtime : ℤ → Option Tm} {scene : Scene}

theorem requestPacket_encode {command : List Char} {packet : List UInt8}
    (h : requestPacket command = some packet) :
    ∃ cmd : Command, cmd.Supported ∧ packet = encode cmd := by
  unfold requestPacket at h
  split_ifs at h
  · exact ⟨.throughput, trivial, (Option.some.inj h).symm⟩
  · obtain ⟨req, hreq, rfl⟩ := sendUserCommand_encode h
    exact ⟨.sensors req, hreq, rfl⟩

/-- The text of an answer is its lines, all of them readable, and the end marker. -/
theorem answerText_eq {fresh : ℕ → Sensor} (h : Represents fresh scene.state)
    (hacc : ∀ f ∈ frames scene.state.history, Accepted f) (cmd : Command) :
    answerText localtime scene cmd =
        (answerLines localtime scene cmd).flatMap (· ++ ['\n']) ++ responseEndMarker ∧
      ∀ line ∈ answerLines localtime scene cmd, Readable line := by
  cases cmd with
  | sensors req =>
    refine ⟨responseText_eq localtime _, fun line hline => ?_⟩
    obtain ⟨e, he, rfl⟩ := List.mem_map.mp hline
    obtain ⟨hprint, hlen⟩ := name_of_mem_view h hacc he
    exact readable_sensorLine localtime hprint hlen
  | throughput =>
    obtain ⟨line, htext, hprint, hcolon, hshort⟩ := throughputText_spec
      (scene.endCount - scene.startCount) (scene.startTime.getD ⟨0, 0⟩)
      (scene.endTime.getD ⟨0, 0⟩)
    have hlines : answerLines localtime scene .throughput = [line] := by
      rw [answerLines, htext, List.dropLast_concat]
    rw [hlines]
    refine ⟨by rw [answerText, htext]; simp, fun l hl => ?_⟩
    obtain rfl := List.mem_singleton.mp hl
    refine ⟨hprint.notMem (by decide), hprint.notMem (by decide), fun heq => ?_, ?_⟩
    · rw [heq] at hcolon
      exact absurd hcolon (by decide)
    · exact hshort.trans (by decide)

/-- What the client makes of what it gets of an answer. -/
theorem receiveUntilEnd_answer {lines : List (List Char)} (h : ∀ line ∈ lines, Readable line)
    {down : List (Segmented.Event Char)}
    (hdown : content down <+: lines.flatMap (· ++ ['\n']) ++ responseEndMarker)
    (latencyFile : Bool) :
    let r := receiveUntilEnd true latencyFile [] ⟨[], [], []⟩ down
    (r.1 = 0 ∨ r.1 = -1) ∧ r.2.printed <+: lines ∧ (r.1 = 0 → r.2.printed = lines) ∧
      (r.1 = 0 ↔ content down = lines.flatMap (· ++ ['\n']) ++ responseEndMarker) := by
  intro r
  by_cases hall : content down = lines.flatMap (· ++ ['\n']) ++ responseEndMarker
  · obtain ⟨c', hprinted, hreturned⟩ := @scanBuffer_whole latencyFile _ h ⟨[], [], []⟩
    rw [← hall] at hreturned
    have hr : r = (0, c') := receiveUntilEnd_of_content hreturned
    rw [List.nil_append] at hprinted
    rw [hr]
    exact ⟨Or.inl rfl, by rw [hprinted], fun _ => hprinted, iff_of_true rfl hall⟩
  · obtain ⟨line, c', shown, hmore, hprinted, hshown⟩ :=
      @scanBuffer_cut latencyFile _ h _ hdown hall ⟨[], [], []⟩
    have hr : r = (-1, c') := receiveUntilEnd_of_more hmore
    rw [List.nil_append] at hprinted
    rw [hr]
    have hne : ¬ ((-1 : ℤ) = 0) := by decide
    exact ⟨Or.inr rfl, by rw [hprinted]; exact hshown, fun h0 => absurd h0 hne,
      iff_of_false hne hall⟩

/-- A stream with one command in it and nothing else. -/
theorem userHandler_single {scenes : ℕ → Scene} {cmd : Command} {up : List (Segmented.Event UInt8)}
    (hx : NoExit up) (hup : content up = encode cmd) {sock sock' : Socket} {ok : Bool}
    {text : List Char} (hdispatch : dispatch localtime (scenes 0) cmd sock = .ok (ok, sock'))
    (hsent : sock'.sent = sock.sent ++ text) :
    userHandler localtime scenes up sock = .ok ([⟨cmd, ok, text⟩], sock') := by
  have hcontent : content up = [] ++ (encode cmd ++ []) := by simp [hup]
  obtain ⟨up', hread, hrest, hx'⟩ := readCommand_encode hx (by simp) cmd hcontent
  have hlen : ∃ n, (content up).length = n + 1 := by
    rw [hup]
    cases cmd with
    | sensors req => cases req <;> exact ⟨_, rfl⟩
    | throughput => exact ⟨_, rfl⟩
  obtain ⟨n, hn⟩ := hlen
  have hending : Ending [] [] := by
    have htruncated := Ending.truncated [] (.throughput) (k := 0) (by simp) (by decide)
    simpa using htruncated
  have hdispatch : dispatch localtime (scenes ([] : List Handled).length) cmd sock =
      .ok (ok, sock') := hdispatch
  rw [userHandler, userHandlerLoop_of_read hread hdispatch hsent, hn]
  split_ifs with hok
  · rw [userHandlerLoop_ending hending hx' hrest]
    simp
  · rfl

/-- **What the user is shown is what the server answered, or is reported as incomplete.**  For every
line that is sent at all: if less than its packet arrives, nothing is answered.  If the packet
arrives, cut up in any way, the server reads exactly the command of the line and answers it, and
whatever fails on the way, the memory for the copy, the clock, a `send` of the server or the
connection: the client reports success exactly when the server has sent its whole answer and all of
it has arrived, and then it has printed exactly the lines of the answer; otherwise it reports a
failure and has printed some of the first lines. -/
theorem command_shown (localtime : ℤ → Option Tm) (scenes : ℕ → Scene)
    (hreached : ∃ fresh acts, Telemetry.run fresh acts = .ok (scenes 0).state)
    (hacc : ∀ f ∈ frames (scenes 0).state.history, Accepted f) (command : List Char)
    (packet : List UInt8) (hpacket : requestPacket command = some packet) :
    ∃ cmd : Command, cmd.Supported ∧ packet = encode cmd ∧
      ∀ (up : List (Segmented.Event UInt8)) (schedule : List SendEvent), NoExit up →
        content up <+: packet →
        (content up ≠ packet →
          userHandler localtime scenes up ⟨schedule, []⟩ = .ok ([], ⟨schedule, []⟩)) ∧
        (content up = packet → ∃ ok sock,
          userHandler localtime scenes up ⟨schedule, []⟩ = .ok ([⟨cmd, ok, sock.sent⟩], sock) ∧
          ∀ (down : List (Segmented.Event Char)) (latencyFile : Bool), content down <+: sock.sent →
            let r := receiveUntilEnd true latencyFile [] ⟨[], [], []⟩ down
            (r.1 = 0 ∨ r.1 = -1) ∧
            (r.1 = 0 ↔ ok = true ∧ content down = sock.sent) ∧
            (r.1 = 0 → r.2.printed = answerLines localtime (scenes 0) cmd) ∧
            r.2.printed <+: answerLines localtime (scenes 0) cmd) := by
  obtain ⟨fresh, acts, hrun⟩ := hreached
  obtain ⟨s, hrun', hb, hrep⟩ := represents_run fresh acts
  obtain rfl : s = (scenes 0).state := Except.ok.inj (hrun'.symm.trans hrun)
  obtain ⟨cmd, hcmd, rfl⟩ := requestPacket_encode hpacket
  refine ⟨cmd, hcmd, rfl, fun up schedule hx hup => ⟨fun hne => ?_, fun hall => ?_⟩⟩
  -- the handler waits for the rest of the request until the connection ends
  · have hcut : content up = [] ++ (encode cmd).take (content up).length := by
      rw [List.nil_append]
      exact List.prefix_iff_eq_take.mp hup
    have hlt : (content up).length < (encode cmd).length :=
      lt_of_le_of_ne hup.length_le fun heq => hne (hup.eq_of_length heq)
    have hending : Ending (content up) [] := by
      rw [hcut]
      exact .truncated [] cmd (by simp) hlt
    rw [userHandler, userHandlerLoop_ending hending hx rfl]
    rfl
  · obtain ⟨⟨ok, sock⟩, hdispatch, part, hsent, hprefix, hok⟩ :=
      @sends_dispatch localtime _ _ hb hrep hacc cmd ⟨schedule, []⟩
    obtain ⟨htext, hlines⟩ := @answerText_eq localtime _ _ hrep hacc cmd
    dsimp only at hsent hok
    rw [List.nil_append] at hsent
    refine ⟨ok, sock, userHandler_single hx hall hdispatch (by rw [List.nil_append]), ?_⟩
    intro down latencyFile hdown
    rw [hsent] at hdown
    -- what arrives is a part of what was sent, which is a part of the answer
    have hfront := hdown.trans hprefix
    rw [htext] at hfront
    obtain ⟨hcode, hprinted, hwhole, hiff⟩ := receiveUntilEnd_answer hlines hfront latencyFile
    refine ⟨hcode, ?_, hwhole, hprinted⟩
    rw [hiff, ← htext, hok, hsent]
    constructor
    · intro heq
      have hpart : part = answerText localtime (scenes 0) cmd :=
        hprefix.eq_of_length_le (by rw [← heq]; exact hdown.length_le)
      exact ⟨hpart, by rw [heq, hpart]⟩
    · rintro ⟨hpart, heq⟩
      rw [heq, hpart]

/-- A `send` of the server fails after five characters of its answer: the client has nothing to
print and reports a failure. -/
theorem command_shown_cut :
    let localtime : ℤ → Option Tm := fun _ => some ⟨70, 0, 1, 0, 0, 0⟩
    let f : Sensor :=
      ⟨⟨0x5F, 0, 0⟩, ⟨0, 0⟩, ⟨0, 0⟩, 7, "TORQS_0X7".toList, .torque, .frameDefault, .data⟩
    requestPacket "GET ALL\n".toList = some [0xAA, 0xF6] ∧
    ∃ s, Telemetry.run (fun _ => Sensor.zero) (serve [f]) = .ok s ∧
      ∃ sock, userHandler localtime (fun _ => ⟨s, true, none, none, 0, 0⟩)
          [.data 0xAA [], .data 0xF6 []] ⟨[.accept 5, .fail], []⟩ =
          .ok ([⟨.sensors .getAll, false, "1970-".toList⟩], sock) ∧
        (receiveUntilEnd true false [] ⟨[], [], []⟩ ("1970-".toList.map (.data · []))).1 = -1 := by
  intro localtime f
  have hf : generateFrame (some ⟨0, 0⟩) (some ⟨0, 0⟩) (buildPacket 0x4B 7 [0x5F, 0, 0, 0] 4)
      Sensor.zero 10 = some f := by decide +kernel
  have hpacket : requestPacket "GET ALL\n".toList = some [0xAA, 0xF6] := by decide
  obtain ⟨s, hs⟩ : ∃ s, Telemetry.run (fun _ => Sensor.zero) (serve [f]) = .ok s := ⟨_, rfl⟩
  have haccepted : ∀ g ∈ frames s.history, Accepted g := fun g hg => by
    have hmem := receive_of_mem_frames hs hg
    obtain rfl : g = f := by simpa [serve] using hmem
    exact ⟨_, _, _, _, _, hf⟩
  obtain ⟨cmd, -, -, hshown⟩ := command_shown localtime
    (fun _ => ⟨s, true, none, none, 0, 0⟩) ⟨_, _, hs⟩ haccepted _ _ hpacket
  obtain ⟨ok, sock, hhandled, hreceived⟩ := (hshown [.data 0xAA [], .data 0xF6 []]
    [.accept 5, .fail] (by decide) (by decide)).2 (by decide)
  have hrun : userHandler localtime (fun _ => ⟨s, true, none, none, 0, 0⟩)
      [.data 0xAA [], .data 0xF6 []] ⟨[.accept 5, .fail], []⟩ =
      .ok ([⟨.sensors .getAll, false, "1970-".toList⟩], ⟨[], "1970-".toList⟩) := by
    obtain rfl := Except.ok.inj hs
    decide +kernel
  rw [hrun] at hhandled
  obtain ⟨hanswer, rfl⟩ := Prod.mk.inj (Except.ok.inj hhandled)
  obtain ⟨-, hok, -⟩ := Handled.mk.inj (List.cons.inj hanswer).1
  obtain ⟨hcode, hzero, -⟩ := hreceived ("1970-".toList.map (.data · [])) false (by decide)
  refine ⟨hpacket, s, hs, _, hrun, hcode.resolve_left fun h0 => ?_⟩
  rw [← hok] at hzero
  exact Bool.false_ne_true (hzero.mp h0).1

end Shown

/-! ### Every stream is requests and an ending -/

section Streams

/-- A stream of bytes as requests with anything but sync bytes before each, and an ending. -/
structure Reads (stream : List UInt8) (requests : List (List UInt8 × Command))
    (extra : List Handled) : Prop where
  supported : ∀ r ∈ requests, syncByte ∉ r.1 ∧ r.2.Supported
  ends : ∃ tail, Ending tail extra ∧
    stream = requests.flatMap (fun r => r.1 ++ encode r.2) ++ tail

/-- One more request at the front. -/
theorem Reads.cons {stream junk : List UInt8} {cmd : Command}
    {requests : List (List UInt8 × Command)} {extra : List Handled}
    (h : Reads stream requests extra) (hjunk : syncByte ∉ junk) (hcmd : cmd.Supported) :
    Reads (junk ++ encode cmd ++ stream) ((junk, cmd) :: requests) extra := by
  obtain ⟨hsupported, tail, htail, rfl⟩ := h
  refine ⟨?_, tail, htail, by simp⟩
  intro r hr
  rcases List.mem_cons.mp hr with rfl | hr
  · exact ⟨hjunk, hcmd⟩
  · exact hsupported r hr

end Streams

end Interface
end Gateway
