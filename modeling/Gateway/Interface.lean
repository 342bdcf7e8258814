import Gateway.Latency
import Gateway.Lib.CScan
import Gateway.Telemetry.UserHandler

/-!
# `dev-interface.c`: sending a request and reading the answer

The user's program makes a packet of a command and reads the answer line by line until the end
marker.  The marker is text like the lines before it, so that the reading rests on what `giveSensor`
can print.

* `scanBuffer` is the loop over the characters of one `recv`, `receiveUntilEnd` the loop around
  `recv`, and `receiveUntilEnd_loop` states it with `recv` itself;
* `scanBuffer_lines`: what comes of a sequence of lines and the end marker;
* `response_framing`: server and client agree on every answer;
* `encode` makes the packet of a command, `sendUserCommand` that of a line of input, and
  `request_decoding` says that `userHandler` undoes the encoding.
-/

namespace Gateway
namespace Interface

open CText Latency LittleEndian Processing Segmented Telemetry

def telemetryBufferSize : ℕ := 4096

/-- The string in a buffer: what stands before the first zero. -/
def cString (buffer : List Char) : List Char := buffer.takeWhile (· ≠ '\x00')

/-- What the client has made of an answer: the lines given to `process_line`, what it has printed,
and the time stamps given to `log_latency`. -/
structure Client where
  lines : List (List Char)
  printed : List (List Char)
  samples : List (ℤ × ℤ)
  deriving DecidableEq

/-- `process_line`: whether the line is the end marker. -/
def processLine (line : List Char) (printResponse latencyFile : Bool) (c : Client) :
    Bool × Client :=
  let c := { c with lines := c.lines ++ [cString line] }
  if cString line = "END".toList then (true, c)
  else
    let c := if printResponse then { c with printed := c.printed ++ [cString line] } else c
    let c :=
      if latencyFile then
        { c with samples := c.samples ++ (parseLatencyResponse (cString line)).toList }
      else c
    (false, c)

/-- Where the loop over the received characters stands: in a line, or at a `return`. -/
inductive Scan
  | more (line : List Char) (c : Client)
  | returned (code : ℤ) (c : Client)
  deriving DecidableEq

/-- The loop over the characters that one `recv` has brought. -/
def scanBuffer (printResponse latencyFile : Bool) : List Char → List Char → Client → Scan
  | [], line, c => .more line c
  | ch :: buffer, line, c =>
      if ch = '\n' then
        match processLine line printResponse latencyFile c with
        | (true, c) => .returned 0 c
        | (false, c) => scanBuffer printResponse latencyFile buffer [] c
      else if line.length ≥ telemetryBufferSize - 1 then .returned (-1) c
      else scanBuffer printResponse latencyFile buffer (line ++ [ch]) c

/-- `receive_until_end`, from a line that has begun. -/
def receiveUntilEnd (printResponse latencyFile : Bool) :
    List Char → Client → List (Segmented.Event Char) → ℤ × Client
  | _, c, [] => (-1, c)
  | _, c, .fail :: _ => (-1, c)
  | line, c, .eintr _ :: es => receiveUntilEnd printResponse latencyFile line c es
  | line, c, .data ch chs :: es =>
      match scanBuffer printResponse latencyFile (ch :: chs) line c with
      | .returned code c => (code, c)
      | .more line c => receiveUntilEnd printResponse latencyFile line c es

variable {printResponse latencyFile : Bool} {line : List Char} {c : Client}

/-! ### How the stream is cut up makes no difference -/

theorem scanBuffer_append (printResponse latencyFile : Bool) (xs ys line : List Char) (c : Client) :
    scanBuffer printResponse latencyFile (xs ++ ys) line c =
      match scanBuffer printResponse latencyFile xs line c with
      | .more line c => scanBuffer printResponse latencyFile ys line c
      | .returned code c => .returned code c := by
  induction xs generalizing line c with
  | nil => rfl
  | cons x xs ih =>
    rw [List.cons_append, scanBuffer, scanBuffer]
    split_ifs
    · rcases processLine line printResponse latencyFile c with ⟨_ | _, c⟩
      · exact ih [] c
      · rfl
    · rfl
    · exact ih (line ++ [x]) c

/-- `receiveUntilEnd` is the loop around `recv` with a buffer of `TELEMETRY_BUFFER_SIZE` bytes. -/
theorem receiveUntilEnd_loop (line : List Char) (c : Client) (es : List (Segmented.Event Char)) :
    receiveUntilEnd printResponse latencyFile line c es =
      match recv telemetryBufferSize es with
      | (.closed, _) => (-1, c)
      | (.failed, _) => (-1, c)
      | (.interrupted _, es') => receiveUntilEnd printResponse latencyFile line c es'
      | (.chunk buffer, es') =>
          match scanBuffer printResponse latencyFile buffer line c with
          | .returned code c => (code, c)
          | .more line c => receiveUntilEnd printResponse latencyFile line c es' := by
  match es with
  | [] => rfl
  | .fail :: es => rfl
  | .eintr exit :: es => rfl
  | .data b bs :: es =>
    simp only [recv]
    cases hd : (b :: bs).drop telemetryBufferSize with
    | nil => rfl
    | cons x xs =>
      -- a long chunk is read in two parts, the second of which is still to come
      have hsplit := scanBuffer_append printResponse latencyFile
        ((b :: bs).take telemetryBufferSize) (x :: xs) line c
      rw [← hd, List.take_append_drop] at hsplit
      simp only [receiveUntilEnd, hsplit]
      rcases scanBuffer printResponse latencyFile ((b :: bs).take telemetryBufferSize) line c with
        ⟨line, c⟩ | ⟨code, c⟩
      · rw [hd]
      · rfl

/-- A result that the delivered characters force is the result of the loop. -/
theorem receiveUntilEnd_of_content {es : List (Segmented.Event Char)} {line : List Char}
    {c c' : Client} {code : ℤ}
    (h : scanBuffer printResponse latencyFile (content es) line c = .returned code c') :
    receiveUntilEnd printResponse latencyFile line c es = (code, c') := by
  induction es generalizing line c with
  | nil => cases h
  | cons e es ih =>
    cases e with
    | fail => cases h
    | eintr exit => exact ih h
    | data ch chs =>
      rw [content, scanBuffer_append] at h
      rw [receiveUntilEnd]
      rcases hscan : scanBuffer printResponse latencyFile (ch :: chs) line c with
        ⟨line₁, c₁⟩ | ⟨code₁, c₁⟩ <;> rw [hscan] at h
      · exact ih h
      · obtain ⟨rfl, rfl⟩ := Scan.returned.inj h
        rfl

/-! ### Lines -/

/-- A line that the client takes as a line of an answer. -/
structure Readable (line : List Char) : Prop where
  no_newline : '\n' ∉ line
  no_zero : '\x00' ∉ line
  not_end : line ≠ "END".toList
  short : line.length < telemetryBufferSize

theorem cString_of_notMem {line : List Char} (h : '\x00' ∉ line) : cString line = line := by
  rw [cString, List.takeWhile_eq_self_iff]
  intro ch hch
  rw [decide_eq_true_eq]
  rintro rfl
  exact h hch

/-- The characters of a line before its end. -/
theorem scanBuffer_text {text rest line : List Char} (htext : '\n' ∉ text)
    (hlen : line.length + text.length < telemetryBufferSize) (c : Client) :
    scanBuffer printResponse latencyFile (text ++ rest) line c =
      scanBuffer printResponse latencyFile rest (line ++ text) c := by
  induction text generalizing line with
  | nil => rw [List.nil_append, List.append_nil]
  | cons ch text ih =>
    rw [List.mem_cons, not_or] at htext
    rw [List.length_cons] at hlen
    have hroom : ¬ line.length ≥ telemetryBufferSize - 1 := by omega
    rw [List.cons_append, scanBuffer, if_neg (Ne.symm htext.1), if_neg hroom,
      ih htext.2 (by rw [List.length_append, List.length_singleton]; omega), List.append_assoc]
    rfl

/-- A readable line is passed on, and the next one begins. -/
theorem scanBuffer_line (printResponse latencyFile : Bool) (hline : Readable line)
    (rest : List Char) (c : Client) :
    ∃ c', c'.lines = c.lines ++ [line] ∧
      scanBuffer printResponse latencyFile (line ++ '\n' :: rest) [] c =
        scanBuffer printResponse latencyFile rest [] c' := by
  have hstr := cString_of_notMem hline.no_zero
  have hprocess : ∃ c', c'.lines = c.lines ++ [line] ∧
      processLine line printResponse latencyFile c = (false, c') := by
    simp only [processLine, hstr, if_neg hline.not_end]
    refine ⟨_, ?_, rfl⟩
    split_ifs <;> rfl
  obtain ⟨c', hc', hfalse⟩ := hprocess
  refine ⟨c', hc', ?_⟩
  rw [scanBuffer_text hline.no_newline (by simpa using hline.short), List.nil_append, scanBuffer,
    if_pos rfl, hfalse]

/-- The end marker ends the loop. -/
theorem scanBuffer_end (rest : List Char) (c : Client) :
    ∃ c', c'.lines = c.lines ++ ["END".toList] ∧
      scanBuffer printResponse latencyFile (responseEndMarker ++ rest) [] c = .returned 0 c' := by
  have hmarker : responseEndMarker ++ rest = "END".toList ++ '\n' :: rest := rfl
  have hstr : cString "END".toList = "END".toList := by decide
  have hprocess : processLine "END".toList printResponse latencyFile c =
      (true, { c with lines := c.lines ++ ["END".toList] }) := by
    simp only [processLine, hstr, if_true]
  refine ⟨{ c with lines := c.lines ++ ["END".toList] }, rfl, ?_⟩
  rw [hmarker, scanBuffer_text (by decide) (by decide), List.nil_append, scanBuffer, if_pos rfl,
    hprocess]

/-- Readable lines and the end marker: the client returns with exactly these lines. -/
theorem scanBuffer_lines (printResponse latencyFile : Bool) {lines : List (List Char)}
    (h : ∀ line ∈ lines, Readable line) (rest : List Char) (c : Client) :
    ∃ c', c'.lines = c.lines ++ lines ++ ["END".toList] ∧
      scanBuffer printResponse latencyFile
          (lines.flatMap (· ++ ['\n']) ++ responseEndMarker ++ rest) [] c = .returned 0 c' := by
  induction lines generalizing c with
  | nil => simpa using scanBuffer_end rest c
  | cons line lines ih =>
    obtain ⟨hline, hlines⟩ := List.forall_mem_cons.mp h
    obtain ⟨c₁, hc₁, hscan⟩ := scanBuffer_line printResponse latencyFile hline
      (lines.flatMap (· ++ ['\n']) ++ responseEndMarker ++ rest) c
    obtain ⟨c', hc', hreturned⟩ := ih hlines c₁
    refine ⟨c', by rw [hc', hc₁]; simp, ?_⟩
    rw [← hreturned, ← hscan]
    simp

/-! ### What `giveSensor` prints -/

/-- The line of a sensor without its end. -/
def sensorLine (localtime : ℤ → Option Tm) (e : Sensor) : List Char :=
  if e.id = latencyID then latencyLine e
  else getTime localtime e ++ ": ".toList ++ e.name ++ ": ".toList ++ getDataString e

theorem sensorText_eq (localtime : ℤ → Option Tm) (e : Sensor) :
    sensorText localtime e = sensorLine localtime e ++ ['\n'] := by
  unfold sensorText sensorLine
  split_ifs <;> rfl

theorem printable_sensorLine (localtime : ℤ → Option Tm) {e : Sensor} (hname : Printable e.name) :
    Printable (sensorLine localtime e) := by
  have hcolon : Printable ": ".toList := by decide
  have hword : Printable "LATENCY: ".toList := by decide
  have hblank : isPrint ' ' = true := by decide
  unfold sensorLine latencyLine
  split_ifs
  · simp only [printable_append, printable_cons, printable_decimal, hword, hblank, and_self]
  · simp only [printable_append, printable_getTime, printable_getDataString, hcolon, hname,
      and_self]

/-- Every line of a sensor has a colon, which the end marker has not. -/
theorem colon_mem_sensorLine (localtime : ℤ → Option Tm) (e : Sensor) :
    ':' ∈ sensorLine localtime e := by
  have hword : ':' ∈ "LATENCY: ".toList := by decide
  have hcolon : ':' ∈ ": ".toList := by decide
  unfold sensorLine latencyLine
  split_ifs
  · exact List.mem_append_left _ (List.mem_append_left _ hword)
  · exact List.mem_append_left _ (List.mem_append_right _ hcolon)

theorem readable_sensorLine (localtime : ℤ → Option Tm) {e : Sensor} (hname : Printable e.name)
    (hlen : e.name.length < sensorNameSize) : Readable (sensorLine localtime e) := by
  have hprint := printable_sensorLine localtime hname
  refine ⟨hprint.notMem (by decide), hprint.notMem (by decide), fun heq => ?_, ?_⟩
  · have hcolon := colon_mem_sensorLine localtime e
    rw [heq] at hcolon
    exact absurd hcolon (by decide)
  · have hlt := length_sensorText_lt localtime hlen
    rw [sensorText_eq, List.length_append, transmitBufferSize] at hlt
    rw [telemetryBufferSize]
    omega

/-- The text of an answer is its lines and the end marker. -/
theorem responseText_eq (localtime : ℤ → Option Tm) (es : List Sensor) :
    responseText localtime es =
      (es.map (sensorLine localtime)).flatMap (· ++ ['\n']) ++ responseEndMarker := by
  rw [responseText, List.flatMap_map]
  congr 1
  exact List.flatMap_congr fun e _ => sensorText_eq localtime e

/-- The names of what a request shows are short and printable. -/
theorem name_of_mem_view {fresh : ℕ → Sensor} {s : State} (h : Represents fresh s)
    (hacc : ∀ f ∈ frames s.history, Accepted f) {req : Request} {e : Sensor} (he : e ∈ view s req) :
    Printable e.name ∧ e.name.length < sensorNameSize := by
  have hall : ∀ e ∈ s.entries, Printable e.name ∧ e.name.length < sensorNameSize := by
    intro e he
    refine ⟨?_, h.length_name_lt hacc e he⟩
    obtain ⟨f, hf, -, -, hname, -⟩ := (h.holdsLast he).1
    have hfacc := hacc f (List.mem_filter.mp (List.mem_of_getLast? hf)).1
    rw [hname, hfacc.name_eq]
    exact printable_nameSensor f.id hfacc.supported
  have hmem : e ∈ captured s req := (List.mem_filter.mp he).1
  cases req with
  | getID id =>
    rw [captured, List.mem_singleton] at hmem
    cases hfind : s.entries.find? (·.id = id) with
    | none =>
      rw [hmem, hfind]
      exact ⟨printable_nil, by decide⟩
    | some e' =>
      rw [hmem, hfind]
      exact hall e' (List.mem_of_find?_eq_some hfind)
  | _ => exact hall e hmem

/-- **The framing of an answer agrees between server and client.**  For every registry that can be
reached with accepted frames, every supported request and however the answer is cut up on the way
out and on the way in, the client returns 0 after exactly one line for each selected sensor, in the
order of the registry and as `giveSensor` printed it; no such line can be taken for the end marker
or for more than one line, and none reaches the limit of the client's buffer. -/
theorem response_framing (localtime : ℤ → Option Tm) (fresh : ℕ → Sensor) (acts : List Action)
    (s : State) (hrun : Telemetry.run fresh acts = .ok s)
    (hacc : ∀ f ∈ frames s.history, Accepted f) (req : Request) (hreq : req.Supported)
    (schedule : List SendEvent) (hschedule : Reliable schedule) :
    (∀ id, req = .getID id → (view s req).length = 1) ∧
      (∀ e ∈ view s req, sensorText localtime e = sensorLine localtime e ++ ['\n'] ∧
        Readable (sensorLine localtime e)) ∧
      ∃ sock, respond localtime true s req ⟨schedule, []⟩ = .ok (true, sock) ∧
        ∀ (es : List (Segmented.Event Char)) (rest : List Char) (printResponse latencyFile : Bool),
          content es = sock.sent ++ rest →
          (receiveUntilEnd printResponse latencyFile [] ⟨[], [], []⟩ es).1 = 0 ∧
          (receiveUntilEnd printResponse latencyFile [] ⟨[], [], []⟩ es).2.lines =
            (view s req).map (sensorLine localtime) ++ ["END".toList] := by
  obtain ⟨t, ht, hb, h⟩ := represents_run fresh acts
  obtain rfl := Except.ok.inj (ht.symm.trans hrun)
  have hreadable : ∀ e ∈ view t req, Readable (sensorLine localtime e) := fun e he =>
    readable_sensorLine localtime (name_of_mem_view h hacc he).1 (name_of_mem_view h hacc he).2
  obtain ⟨schedule', -, hrespond⟩ : ∃ schedule', Reliable schedule' ∧
      respond localtime true t req ⟨schedule, []⟩ =
        .ok (true, ⟨schedule', [] ++ responseText localtime (view t req)⟩) :=
    hb.respond_of_reliable (h.length_name_lt hacc) hreq hschedule
  refine ⟨?_, fun e he => ⟨sensorText_eq localtime e, hreadable e he⟩, _, hrespond, ?_⟩
  · rintro id rfl
    rfl
  · intro es more printResponse latencyFile hcontent
    have hlines : ∀ line ∈ (view t req).map (sensorLine localtime), Readable line := by
      intro line hline
      obtain ⟨e, he, rfl⟩ := List.mem_map.mp hline
      exact hreadable e he
    obtain ⟨c', hc', hscan⟩ :=
      scanBuffer_lines printResponse latencyFile hlines more ⟨[], [], []⟩
    rw [List.nil_append, responseText_eq] at hcontent
    rw [← hcontent] at hscan
    rw [receiveUntilEnd_of_content hscan]
    exact ⟨rfl, hc'⟩

/-- The answer to `GET ALL` with one sensor, sent with short writes and received one character at a
time. -/
theorem response_framing_torque :
    let localtime : ℤ → Option Tm := fun _ => some ⟨70, 0, 1, 0, 0, 0⟩
    let f : Sensor :=
      ⟨⟨0x5F, 0, 0⟩, ⟨0, 0⟩, ⟨0, 0⟩, 7, "TORQS_0X7".toList, .torque, .frameDefault, .data⟩
    let text := "1970-01-01 00:00:00: TORQS_0X7: 9.500000Nm\nEND\n".toList
    generateFrame (some ⟨0, 0⟩) (some ⟨0, 0⟩) (buildPacket 0x4B 7 [0x5F, 0, 0, 0] 4)
      Sensor.zero 10 = some f ∧
    ∃ s, Telemetry.run (fun _ => Sensor.zero) (serve [f]) = .ok s ∧
      (respond localtime true s .getAll ⟨[.accept 5, .eintr, .accept 1], []⟩).map (·.2.sent) =
        .ok text ∧
      (receiveUntilEnd true false [] ⟨[], [], []⟩ (text.map (.data · []))).1 = 0 ∧
      (receiveUntilEnd true false [] ⟨[], [], []⟩ (text.map (.data · []))).2.lines =
        ["1970-01-01 00:00:00: TORQS_0X7: 9.500000Nm".toList, "END".toList] := by
  intro localtime f text
  have hf : generateFrame (some ⟨0, 0⟩) (some ⟨0, 0⟩) (buildPacket 0x4B 7 [0x5F, 0, 0, 0] 4)
      Sensor.zero 10 = some f := by decide +kernel
  obtain ⟨s, hs, hentries⟩ : ∃ s, Telemetry.run (fun _ => Sensor.zero) (serve [f]) = .ok s ∧
      view s .getAll = [{ f with state := .online }] := ⟨_, rfl, by decide +kernel⟩
  obtain ⟨-, -, sock, hrespond, hreceive⟩ := response_framing localtime (fun _ => Sensor.zero)
    (serve [f]) s hs (fun g hg => by
      have hmem := receive_of_mem_frames hs hg
      obtain rfl : g = f := by simpa [serve] using hmem
      exact ⟨_, _, _, _, _, hf⟩) .getAll trivial [.accept 5, .eintr, .accept 1] (by decide)
  have hsent : (respond localtime true s .getAll ⟨[.accept 5, .eintr, .accept 1], []⟩).map
      (·.2.sent) = .ok text := by
    obtain rfl := Except.ok.inj hs
    decide +kernel
  have hsock : sock.sent = text := by
    rw [hrespond] at hsent
    exact Except.ok.inj hsent
  have hline : (view s .getAll).map (sensorLine localtime) =
      ["1970-01-01 00:00:00: TORQS_0X7: 9.500000Nm".toList] := by
    rw [hentries]
    decide +kernel
  refine ⟨hf, s, hs, hsent, ?_⟩
  have hresult := hreceive (text.map (.data · [])) [] true false (by rw [hsock]; decide +kernel)
  rwa [hline] at hresult

/-! ### Sending a request -/

/-- `send_get_id`. -/
def sendGetID (id : UInt16) : List UInt8 := [syncByte, selectionByteGetID] ++ bytes 2 id.toNat

/-- `send_get_throughput`. -/
def sendGetThroughput : List UInt8 := [syncByte, selectionByteGetThroughput]

/-- The packet of a command. -/
def encode : Command → List UInt8
  | .sensors .getAll => [syncByte, selectionByteGetAll]
  | .sensors (.getType typeByte) => [syncByte, selectionByteGetType, typeByte]
  | .sensors (.getID id) => sendGetID id
  | .sensors .getOnline => [syncByte, selectionByteGetOnline]
  | .sensors .getOffline => [syncByte, selectionByteGetOffline]
  | .throughput => sendGetThroughput

/-- The type that a `GET TYPE` line names. -/
def commandType (command : List Char) : Option UInt8 :=
  if command = "GET TYPE POWCURRVOLT\n".toList then some 0x2B
  else if command = "GET TYPE TOR\n".toList then some 0x4B
  else if command = "GET TYPE TEMPRESS\n".toList then some 0x1B
  else if command = "GET TYPE PROX\n".toList then some 0x8B
  else none

/-- `send_user_command`: the packet it sends for a line of input, or `none` for an invalid one. -/
def sendUserCommand (command : List Char) : Option (List UInt8) :=
  if command = "GET ALL\n".toList then some [syncByte, selectionByteGetAll]
  else if command = "GET ONLINE\n".toList then some [syncByte, selectionByteGetOnline]
  else if command = "GET OFFLINE\n".toList then some [syncByte, selectionByteGetOffline]
  else if "GET ID ".toList.isPrefixOf command then
    let r := strtoul 16 (command.drop 7)
    if r.rest = command.drop 7 ∨ r.value > 65535 then none
    else some ([syncByte, selectionByteGetID] ++ bytes 2 (UInt16.ofNat r.value).toNat)
  else (commandType command).map fun type => [syncByte, selectionByteGetType, type]

/-- What is sent for a line of input is the packet of a supported command. -/
theorem sendUserCommand_encode {command : List Char} {packet : List UInt8}
    (h : sendUserCommand command = some packet) :
    ∃ req : Request, req.Supported ∧ packet = encode (.sensors req) := by
  unfold sendUserCommand at h
  split_ifs at h
  · exact ⟨.getAll, trivial, (Option.some.inj h).symm⟩
  · exact ⟨.getOnline, trivial, (Option.some.inj h).symm⟩
  · exact ⟨.getOffline, trivial, (Option.some.inj h).symm⟩
  · simp only at h
    split_ifs at h
    exact ⟨.getID _, trivial, (Option.some.inj h).symm⟩
  · obtain ⟨type, htype, rfl⟩ := Option.map_eq_some_iff.mp h
    refine ⟨.getType type, ?_, rfl⟩
    unfold commandType at htype
    split_ifs at htype <;> obtain rfl := Option.some.inj htype <;> decide

/-! ### Decoding a request -/

section Decoding

variable {es : List (Segmented.Event UInt8)} {junk rest : List UInt8}

theorem word16_of_bytes {id : UInt16} {b₀ b₁ : UInt8} (h : bytes 2 id.toNat = [b₀, b₁]) :
    word16 b₀ b₁ = id := by
  apply UInt16.toNat_inj.mp
  rw [word16_toNat, ← h, value_bytes_of_lt id.toNat_lt]

/-- The server reads the packet of a command as that command. -/
theorem readCommand_encode (hx : NoExit es) (hjunk : syncByte ∉ junk) (cmd : Command)
    (h : content es = junk ++ (encode cmd ++ rest)) :
    ∃ es', readCommand es = some (cmd, es') ∧ content es' = rest ∧ NoExit es' := by
  cases cmd with
  | throughput =>
    obtain ⟨es', hrest, hx', hread⟩ := readCommand_of_selection hx hjunk h
    exact ⟨es', hread, hrest, hx'⟩
  | sensors req =>
    cases req with
    | getAll =>
      obtain ⟨es', hrest, hx', hread⟩ := readCommand_of_selection hx hjunk h
      exact ⟨es', hread, hrest, hx'⟩
    | getOnline =>
      obtain ⟨es', hrest, hx', hread⟩ := readCommand_of_selection hx hjunk h
      exact ⟨es', hread, hrest, hx'⟩
    | getOffline =>
      obtain ⟨es', hrest, hx', hread⟩ := readCommand_of_selection hx hjunk h
      exact ⟨es', hread, hrest, hx'⟩
    | getType typeByte =>
      obtain ⟨es₁, hrest₁, hx₁, hread⟩ := readCommand_of_selection hx hjunk h
      obtain ⟨es', hrecv, hrest, hx'⟩ := recvExact_byte hx₁ hrest₁
      refine ⟨es', ?_, hrest, hx'⟩
      rw [hread, readSelection, if_neg (by decide), if_pos rfl, hrecv]
      rfl
    | getID id =>
      obtain ⟨b₀, b₁, hb⟩ : ∃ b₀ b₁, bytes 2 id.toNat = [b₀, b₁] := ⟨_, _, (bytes_two id).symm⟩
      rw [encode, sendGetID, hb] at h
      obtain ⟨es₁, hrest₁, hx₁, hread⟩ := readCommand_of_selection hx hjunk h
      have hle : 2 ≤ (content es₁).length := by
        rw [hrest₁]
        exact Nat.le_add_left 2 rest.length
      obtain ⟨es', hrecv, hrest, hx'⟩ := recvExact_of_le hx₁ hle
      rw [hrest₁] at hrecv hrest
      refine ⟨es', ?_, hrest, hx'⟩
      rw [hread, readSelection, if_pos rfl, hrecv, ← word16_of_bytes hb]
      rfl

/-- A packet that is cut off makes no command. -/
theorem readCommand_truncated (hx : NoExit es) (hjunk : syncByte ∉ junk) {cmd : Command} {k : ℕ}
    (hk : k < (encode cmd).length) (h : content es = junk ++ (encode cmd).take k) :
    readCommand es = none := by
  have hhead : ∃ selection args, encode cmd = syncByte :: selection :: args := by
    cases cmd with
    | throughput => exact ⟨_, _, rfl⟩
    | sensors req => cases req <;> exact ⟨_, _, rfl⟩
  match k with
  | 0 => exact readCommand_of_no_selection hx hjunk (Or.inl rfl) h
  | 1 =>
    obtain ⟨selection, args, hcode⟩ := hhead
    rw [hcode] at h
    exact readCommand_of_no_selection hx hjunk (Or.inr rfl) h
  | k + 2 =>
    -- the argument is missing, at least in part
    cases cmd with
    | throughput => simp [encode, sendGetThroughput] at hk
    | sensors req =>
      cases req with
      | getAll => simp [encode] at hk
      | getOnline => simp [encode] at hk
      | getOffline => simp [encode] at hk
      | getType typeByte =>
        obtain ⟨es₁, hrest₁, -, hread⟩ := readCommand_of_selection hx hjunk h
        have hshort : (content es₁).length < 1 := by
          have hk' : k + 2 < 3 := hk
          rw [hrest₁, List.length_take]
          omega
        rw [hread, readSelection, if_neg (by decide), if_pos rfl, recvExact_of_lt hshort]
        rfl
      | getID id =>
        have hk' : k + 2 < 4 := by simpa [encode, sendGetID] using hk
        obtain ⟨es₁, hrest₁, -, hread⟩ := readCommand_of_selection hx hjunk h
        have hshort : (content es₁).length < 2 := by
          rw [hrest₁, List.length_take]
          omega
        rw [hread, readSelection, if_pos rfl, recvExact_of_lt hshort]
        rfl

/-- The bytes that select. -/
def selectionBytes : List UInt8 :=
  [selectionByteGetID, selectionByteGetType, selectionByteGetOnline, selectionByteGetOffline,
    selectionByteGetAll, selectionByteGetThroughput]

theorem readCommand_rejected (hx : NoExit es) (hjunk : syncByte ∉ junk) {selection : UInt8}
    (hsel : selection ∉ selectionBytes)
    (h : content es = junk ++ syncByte :: selection :: rest) : readCommand es = none := by
  obtain ⟨es₁, -, -, hread⟩ := readCommand_of_selection hx hjunk h
  simp only [selectionBytes, List.mem_cons, List.not_mem_nil, or_false, not_or] at hsel
  obtain ⟨h₁, h₂, h₃, h₄, h₅, h₆⟩ := hsel
  rw [hread, readSelection, if_neg h₁, if_neg h₂, if_neg h₃, if_neg h₄, if_neg h₅, if_neg h₆]

/-- What may follow the requests on a connection, and what the handler does with it.  A packet that
is cut off and an unsupported selection byte end it; an unsupported type byte does so after a call
of `giveSensorAll_Type` that sends nothing. -/
inductive Ending : List UInt8 → List Handled → Prop
  | truncated (junk : List UInt8) (cmd : Command) {k : ℕ} (hjunk : syncByte ∉ junk)
      (hk : k < (encode cmd).length) : Ending (junk ++ (encode cmd).take k) []
  | selection (junk : List UInt8) {selection : UInt8} (rest : List UInt8) (hjunk : syncByte ∉ junk)
      (hsel : selection ∉ selectionBytes) : Ending (junk ++ syncByte :: selection :: rest) []
  | type (junk : List UInt8) {typeByte : UInt8} (rest : List UInt8) (hjunk : syncByte ∉ junk)
      (htype : findSensorType typeByte = .unsupported) :
      Ending (junk ++ (encode (.sensors (.getType typeByte)) ++ rest))
        [⟨.sensors (.getType typeByte), false, []⟩]

variable {localtime : ℤ → Option Tm} {scenes : ℕ → Scene}

/-- A pass that reads a command. -/
theorem userHandlerLoop_of_read {cmd : Command} {es' : List (Segmented.Event UInt8)}
    (hread : readCommand es = some (cmd, es')) {n : ℕ} {sock sock' : Socket} {ok : Bool}
    {handled : List Handled} {text : List Char}
    (hdispatch : dispatch localtime (scenes handled.length) cmd sock = .ok (ok, sock'))
    (hsent : sock'.sent = sock.sent ++ text) :
    userHandlerLoop localtime scenes (n + 1) es sock handled =
      if ok then userHandlerLoop localtime scenes n es' sock' (handled ++ [⟨cmd, ok, text⟩])
      else .ok (handled ++ [⟨cmd, ok, text⟩], sock') := by
  have htext : sock'.sent.drop sock.sent.length = text := by rw [hsent, List.drop_left]
  rw [userHandlerLoop, hread, ← htext]
  simp only [hdispatch]
  rfl

/-- The loop ends where the requests end. -/
theorem userHandlerLoop_ending {tail : List UInt8} {extra : List Handled}
    (htail : Ending tail extra) (hx : NoExit es) (h : content es = tail) (n : ℕ) (sock : Socket)
    (handled : List Handled) :
    userHandlerLoop localtime scenes (n + 1) es sock handled = .ok (handled ++ extra, sock) := by
  cases htail with
  | truncated junk cmd hjunk hk =>
    rw [userHandlerLoop, readCommand_truncated hx hjunk hk h, List.append_nil]
  | selection junk rest hjunk hsel =>
    rw [userHandlerLoop, readCommand_rejected hx hjunk hsel h, List.append_nil]
  | type junk rest hjunk htype =>
    obtain ⟨es', hread, -, -⟩ := readCommand_encode hx hjunk _ h
    exact userHandlerLoop_of_read hread (dispatch_unsupported localtime _ htype sock)
      (List.append_nil sock.sent).symm

/-- The answers to a list of commands, from a numbered pass on. -/
def answers (localtime : ℤ → Option Tm) (scenes : ℕ → Scene) : ℕ → List Command → List Handled
  | _, [] => []
  | i, cmd :: cmds =>
      ⟨cmd, true, answerText localtime (scenes i) cmd⟩ :: answers localtime scenes (i + 1) cmds

theorem map_cmd_answers (i : ℕ) (cmds : List Command) :
    (answers localtime scenes i cmds).map Handled.cmd = cmds := by
  induction cmds generalizing i with
  | nil => rfl
  | cons cmd cmds ih => rw [answers, List.map_cons, ih]

theorem eq_of_getElem?_answers {i j : ℕ} {cmds : List Command} {r : Handled}
    (h : (answers localtime scenes i cmds)[j]? = some r) :
    r = ⟨r.cmd, true, answerText localtime (scenes (i + j)) r.cmd⟩ := by
  induction cmds generalizing i j with
  | nil => cases h
  | cons cmd cmds ih =>
    cases j with
    | zero =>
      obtain rfl := Option.some.inj h
      rfl
    | succ j =>
      rw [ih h, Nat.add_right_comm, Nat.add_assoc]

/-- The passes of the loop for a list of requests. -/
theorem userHandlerLoop_requests (localtime : ℤ → Option Tm) (hscenes : ∀ i, (scenes i).Live)
    {requests : List (List UInt8 × Command)}
    (hrequests : ∀ r ∈ requests, syncByte ∉ r.1 ∧ r.2.Supported) {tail : List UInt8}
    (hx : NoExit es) (h : content es = requests.flatMap (fun r => r.1 ++ encode r.2) ++ tail)
    {n : ℕ} (hn : (content es).length < n) (sock : Socket) (hsock : Reliable sock.schedule)
    (handled : List Handled) :
    ∃ es' m schedule, NoExit es' ∧ content es' = tail ∧ Reliable schedule ∧
      userHandlerLoop localtime scenes n es sock handled =
        userHandlerLoop localtime scenes (m + 1) es'
          ⟨schedule, sock.sent ++
            (answers localtime scenes handled.length (requests.map Prod.snd)).flatMap Handled.text⟩
          (handled ++ answers localtime scenes handled.length (requests.map Prod.snd)) := by
  induction requests generalizing es n sock handled with
  | nil =>
    obtain ⟨m, rfl⟩ : ∃ m, n = m + 1 := ⟨n - 1, by omega⟩
    refine ⟨es, m, sock.schedule, hx, h, hsock, ?_⟩
    simp only [List.map_nil, answers, List.flatMap_nil, List.append_nil]
  | cons r requests ih =>
    obtain ⟨⟨hjunk, hcmd⟩, hrequests⟩ := List.forall_mem_cons.mp hrequests
    rw [List.flatMap_cons, List.append_assoc, List.append_assoc] at h
    obtain ⟨es₁, hread, hrest₁, hx₁⟩ := readCommand_encode hx hjunk r.2 h
    have hlt := content_of_readCommand hread
    obtain ⟨m, rfl⟩ : ∃ m, n = m + 1 := ⟨n - 1, by omega⟩
    obtain ⟨schedule, hschedule, hdispatch⟩ :=
      dispatch_of_live localtime (hscenes handled.length) hcmd hsock
    set text := answerText localtime (scenes handled.length) r.2 with htext
    -- one pass takes this request off the stream
    have hpass : userHandlerLoop localtime scenes (m + 1) es sock handled =
        userHandlerLoop localtime scenes m es₁ ⟨schedule, sock.sent ++ text⟩
          (handled ++ [⟨r.2, true, text⟩]) :=
      userHandlerLoop_of_read hread hdispatch rfl
    obtain ⟨es', m', schedule', hx', hrest', hschedule', hloop⟩ :=
      ih hrequests hx₁ hrest₁ (by omega : (content es₁).length < m)
        ⟨schedule, sock.sent ++ text⟩ hschedule (handled ++ [⟨r.2, true, text⟩])
    refine ⟨es', m', schedule', hx', hrest', hschedule', ?_⟩
    rw [hpass, hloop, List.length_append, List.length_singleton, List.map_cons, answers, ← htext,
      List.flatMap_cons, List.append_assoc, List.append_assoc]
    rfl

/-- Lines that the client takes as lines, then the end marker. -/
def EndTerminated (text : List Char) : Prop :=
  ∃ lines : List (List Char), (∀ line ∈ lines, Readable line) ∧
    text = lines.flatMap (· ++ ['\n']) ++ responseEndMarker

theorem endTerminated_answerText (localtime : ℤ → Option Tm) {scene : Scene} (h : scene.Live)
    (cmd : Command) : EndTerminated (answerText localtime scene cmd) := by
  cases cmd with
  | sensors req =>
    obtain ⟨fresh, acts, hrun⟩ := h.reached
    obtain ⟨t, ht, -, hrep⟩ := represents_run fresh acts
    obtain rfl := Except.ok.inj (ht.symm.trans hrun)
    refine ⟨_, ?_, responseText_eq localtime (view scene.state req)⟩
    intro line hline
    obtain ⟨e, he, rfl⟩ := List.mem_map.mp hline
    obtain ⟨hprint, hlen⟩ := name_of_mem_view hrep h.accepted he
    exact readable_sensorLine localtime hprint hlen
  | throughput =>
    obtain ⟨line, hline, hprint, hcolon, hlen⟩ :=
      throughputText_spec (scene.endCount - scene.startCount) (scene.startTime.getD ⟨0, 0⟩)
        (scene.endTime.getD ⟨0, 0⟩)
    refine ⟨[line], ?_, ?_⟩
    · intro line' hmem
      obtain rfl := List.mem_singleton.mp hmem
      refine ⟨hprint.notMem (by decide), hprint.notMem (by decide), fun heq => ?_, ?_⟩
      · rw [heq] at hcolon
        exact absurd hcolon (by decide)
      · rw [telemetryBufferSize]
        omega
    · rw [answerText, hline, List.flatMap_singleton]

/-- **Decoding undoes encoding.**  For every list of supported requests with any bytes but the sync
byte before each of them, every way of cutting the stream up, with interruptions, and whatever the
registry is at each of them, `userHandler` dispatches exactly these commands in this order; each is
answered by its own text with one end marker at its end, and nothing else is sent: a packet that is
cut off, or the first unsupported selection or type byte, is followed by no command and by no
answer. -/
theorem request_decoding (localtime : ℤ → Option Tm) (scenes : ℕ → Scene)
    (hscenes : ∀ i, (scenes i).Live) (requests : List (List UInt8 × Command))
    (hrequests : ∀ r ∈ requests, syncByte ∉ r.1 ∧ r.2.Supported) (tail : List UInt8)
    (extra : List Handled) (htail : Ending tail extra) (es : List (Segmented.Event UInt8))
    (hx : NoExit es) (hes : content es = requests.flatMap (fun r => r.1 ++ encode r.2) ++ tail)
    (schedule : List SendEvent) (hschedule : Reliable schedule) :
    ∃ handled sock,
      userHandler localtime scenes es ⟨schedule, []⟩ = .ok (handled ++ extra, sock) ∧
      handled.map Handled.cmd = requests.map Prod.snd ∧
      (∀ i r, handled[i]? = some r →
        r.ok = true ∧ r.text = answerText localtime (scenes i) r.cmd ∧ EndTerminated r.text) ∧
      (∀ r ∈ extra, r.ok = false ∧ r.text = []) ∧
      sock.sent = handled.flatMap Handled.text := by
  obtain ⟨es', m, schedule', hx', hrest, -, hloop⟩ :=
    userHandlerLoop_requests localtime hscenes hrequests hx hes (Nat.lt_succ_self _)
      ⟨schedule, []⟩ hschedule []
  set handled := answers localtime scenes 0 (requests.map Prod.snd) with hhandled
  refine ⟨handled, ⟨schedule', handled.flatMap Handled.text⟩, ?_, map_cmd_answers 0 _, ?_, ?_, rfl⟩
  · exact hloop.trans (userHandlerLoop_ending htail hx' hrest m _ _)
  · intro i r hr
    have heq := eq_of_getElem?_answers hr
    rw [Nat.zero_add] at heq
    rw [heq]
    exact ⟨rfl, rfl, endTerminated_answerText localtime (hscenes i) r.cmd⟩
  · cases htail with
    | truncated junk cmd hjunk hk => exact fun r hr => absurd hr List.not_mem_nil
    | selection junk rest hjunk hsel => exact fun r hr => absurd hr List.not_mem_nil
    | type junk rest hjunk htype =>
      intro r hr
      obtain rfl := List.mem_singleton.mp hr
      exact ⟨rfl, rfl⟩

/-- An id that has the sync byte and a selection byte in it, a throughput, and an unsupported type
before a request that is not read, one byte at a time. -/
theorem request_decoding_id :
    let localtime : ℤ → Option Tm := fun _ => some ⟨70, 0, 1, 0, 0, 0⟩
    let f : Sensor :=
      ⟨⟨0x5F, 0, 0⟩, ⟨0, 0⟩, ⟨0, 0⟩, 7, "TORQS_0X7".toList, .torque, .frameDefault, .data⟩
    let received : List UInt8 :=
      [0x01, 0xAA, 0xFB, 0xAA, 0xF6, 0xF6, 0xAA, 0xFC, 0xAA, 0xF7, 0x00, 0xAA, 0xF6]
    ∃ s, Telemetry.run (fun _ => Sensor.zero) (serve [f]) = .ok s ∧
      ∃ handled sock,
        userHandler localtime (fun _ => ⟨s, true, some ⟨0, 0⟩, some ⟨10, 0⟩, 3, 5⟩)
          (received.map (.data · [])) ⟨[.accept 5, .eintr], []⟩ =
          .ok (handled ++ [⟨.sensors (.getType 0), false, []⟩], sock) ∧
        handled.map Handled.cmd = [.sensors (.getID 0xF6AA), .throughput] ∧
        (∀ (i : ℕ) (r : Handled), handled[i]? = some r → r.ok = true ∧
          r.text = answerText localtime ⟨s, true, some ⟨0, 0⟩, some ⟨10, 0⟩, 3, 5⟩ r.cmd ∧
          EndTerminated r.text) ∧
        sock.sent = handled.flatMap Handled.text := by
  intro localtime f received
  have hf : generateFrame (some ⟨0, 0⟩) (some ⟨0, 0⟩) (buildPacket 0x4B 7 [0x5F, 0, 0, 0] 4)
      Sensor.zero 10 = some f := by decide +kernel
  obtain ⟨s, hs⟩ : ∃ s, Telemetry.run (fun _ => Sensor.zero) (serve [f]) = .ok s := ⟨_, rfl⟩
  have hlive : Scene.Live ⟨s, true, some ⟨0, 0⟩, some ⟨10, 0⟩, 3, 5⟩ := by
    refine ⟨⟨_, _, hs⟩, fun g hg => ?_, rfl, rfl, rfl⟩
    have hmem := receive_of_mem_frames hs hg
    obtain rfl : g = f := by simpa [serve] using hmem
    exact ⟨_, _, _, _, _, hf⟩
  obtain ⟨handled, sock, hrun, hcmds, hanswers, -, hsent⟩ := request_decoding localtime
    (fun _ => ⟨s, true, some ⟨0, 0⟩, some ⟨10, 0⟩, 3, 5⟩) (fun _ => hlive)
    [([0x01], .sensors (.getID 0xF6AA)), ([0xF6], .throughput)] (by decide)
    [0xAA, 0xF7, 0x00, 0xAA, 0xF6] _ (.type [] [0xAA, 0xF6] (by decide) (by decide))
    (received.map (.data · [])) (by decide) (by decide) [.accept 5, .eintr] (by decide)
  exact ⟨s, hs, handled, sock, hrun, hcmds, hanswers, hsent⟩

end Decoding

end Interface
end Gateway
