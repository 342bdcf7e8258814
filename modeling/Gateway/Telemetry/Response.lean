import Gateway.Telemetry.Loop
import Gateway.Lib.Segmented

/-!
# `telemetry_d.c`: answering a request

What `userHandler` sends for the requests that show sensors.  A socket is the schedule along which
`send` takes bytes together with the text it has taken so far; each function returns whether it
succeeded and the socket it leaves.

The four functions `giveSensorAll`, `giveSensorAll_Type`, `giveSensorAll_Online` and
`giveSensorAll_Offline` copy the registry under the mutex and then send the selected entries: they
are `giveSensorView` with their own selection.

`Bounds.respond_congr`: within the bounds an answer depends on the entries in use only.
-/

namespace Gateway
namespace Telemetry

open CText LittleEndian Segmented

def transmitBufferSize : ℕ := 500
def responseEndMarker : List Char := "END\n".toList
def latencyID : UInt16 := 65000

/-- A connection to a user: what `send` will take, and what it has taken. -/
structure Socket where
  schedule : List SendEvent
  sent : List Char
  deriving DecidableEq

/-- The loop around `send`. -/
def Socket.send (sock : Socket) (text : List Char) : Bool × Socket :=
  let r := sendAll text sock.schedule
  (r.ok, ⟨r.rest, sock.sent ++ r.sent⟩)

/-! ### One sensor -/

/-- The twelve bytes of the union in memory. -/
def rawData (d : SensorData) : List UInt8 :=
  bytes 4 d.word₀.toNat ++ bytes 4 d.word₁.toNat ++ bytes 4 d.word₂.toNat

/-- `sent_seconds`: the first eight bytes of the union. -/
def sentSeconds (d : SensorData) : Int64 := (UInt64.ofNat (value ((rawData d).take 8))).toInt64

/-- `sent_nanoseconds`: the four bytes after them. -/
def sentNanoseconds (d : SensorData) : Int32 :=
  (UInt32.ofNat (value ((rawData d).drop 8))).toInt32

/-- The line `LATENCY: %lld %d` with the time stamp that the union carries. -/
def latencyText (target : Sensor) : List Char :=
  "LATENCY: ".toList ++ decimal (sentSeconds target.data).toInt ++ ' ' ::
    decimal (sentNanoseconds target.data).toInt ++ ['\n']

/-- The line `%s: %s: %s` with time, name and reading. -/
def readingText (localtime : ℤ → Option Tm) (target : Sensor) : List Char :=
  getTime localtime target ++ ": ".toList ++ target.name ++ ": ".toList ++ getDataString target ++
    ['\n']

/-- What `giveSensor` prints: the choice of the format goes by the id alone. -/
def sensorText (localtime : ℤ → Option Tm) (target : Sensor) : List Char :=
  if target.id = latencyID then latencyText target else readingText localtime target

/-- `giveSensor`. -/
def giveSensor (localtime : ℤ → Option Tm) (target : Sensor) (sock : Socket) : Bool × Socket :=
  if (sensorText localtime target).length ≥ transmitBufferSize then (false, sock)
  else sock.send (snprintf transmitBufferSize (sensorText localtime target))

/-- `sendResponseEnd`. -/
def sendResponseEnd (sock : Socket) : Bool × Socket := sock.send responseEndMarker

/-- `sendResponseEnd` after what went before it, unless that failed. -/
def thenEnd : Bool × Socket → Bool × Socket
  | (true, sock) => sendResponseEnd sock
  | (false, sock) => (false, sock)

/-! ### Views of the registry -/

/-- The loop over a snapshot: send the entries that are selected, stop at the first failure. -/
def giveSelected (localtime : ℤ → Option Tm) (selected : Sensor → Bool) :
    List Sensor → Socket → Bool × Socket
  | [], sock => (true, sock)
  | e :: es, sock =>
      if selected e then
        match giveSensor localtime e sock with
        | (true, sock) => giveSelected localtime selected es sock
        | (false, sock) => (false, sock)
      else giveSelected localtime selected es sock

/-- A snapshot, its selected entries and the end marker. The memory for a snapshot that is not
empty may not be `allocated`. -/
def giveSensorView (localtime : ℤ → Option Tm) (selected : Sensor → Bool) (allocated : Bool)
    (s : State) (sock : Socket) : Except ℕ (Bool × Socket) := do
  if s.sensorCount > 0 ∧ ¬ allocated then .ok (false, sock)
  else
    let copied ← snapshot s
    .ok (thenEnd (giveSelected localtime selected copied sock))

def giveSensorAll (localtime : ℤ → Option Tm) :
    Bool → State → Socket → Except ℕ (Bool × Socket) :=
  giveSensorView localtime fun _ => true

def giveSensorAllOnline (localtime : ℤ → Option Tm) :
    Bool → State → Socket → Except ℕ (Bool × Socket) :=
  giveSensorView localtime fun e => e.state = .online

def giveSensorAllOffline (localtime : ℤ → Option Tm) :
    Bool → State → Socket → Except ℕ (Bool × Socket) :=
  giveSensorView localtime fun e => e.state = .offline

def giveSensorAllType (localtime : ℤ → Option Tm) (typeByte : UInt8) (allocated : Bool)
    (s : State) (sock : Socket) : Except ℕ (Bool × Socket) :=
  if findSensorType typeByte = .unsupported then .ok (false, sock)
  else giveSensorView localtime (fun e => e.type = findSensorType typeByte) allocated s sock

/-! ### Requests -/

/-- The requests that show sensors. -/
inductive Request
  | getAll
  | getType (typeByte : UInt8)
  | getID (id : UInt16)
  | getOnline
  | getOffline
  deriving DecidableEq

/-- The branch of `userHandler` for `GETID`: look the sensor up under the mutex, then send it. -/
def giveSensorID (localtime : ℤ → Option Tm) (id : UInt16) (s : State) (sock : Socket) :
    Except ℕ (Bool × Socket) := do
  let target ← getSensorID id s.sensorRegistry s.sensorCount
  .ok (thenEnd (giveSensor localtime target sock))

/-- What `userHandler` does for a request. -/
def respond (localtime : ℤ → Option Tm) (allocated : Bool) (s : State) (req : Request)
    (sock : Socket) : Except ℕ (Bool × Socket) :=
  match req with
  | .getAll => giveSensorAll localtime allocated s sock
  | .getType typeByte => giveSensorAllType localtime typeByte allocated s sock
  | .getID id => giveSensorID localtime id s sock
  | .getOnline => giveSensorAllOnline localtime allocated s sock
  | .getOffline => giveSensorAllOffline localtime allocated s sock

/-! ### Answers depend on the entries only -/

variable {localtime : ℤ → Option Tm} {allocated : Bool} {s t : State} {sock : Socket}

theorem Bounds.giveSensorView_congr (hs : Bounds s) (ht : Bounds t) (h : s.entries = t.entries)
    (selected : Sensor → Bool) :
    giveSensorView localtime selected allocated s sock =
      giveSensorView localtime selected allocated t sock := by
  have hcount : s.sensorCount = t.sensorCount := by
    rw [← hs.length_entries, h, ht.length_entries]
  simp only [giveSensorView, hs.snapshot_eq, ht.snapshot_eq, h, hcount]

theorem Bounds.giveSensorID_eq (hs : Bounds s) (id : UInt16) :
    giveSensorID localtime id s sock =
      .ok (thenEnd
        (giveSensor localtime ((s.entries.find? (·.id = id)).getD Sensor.zero) sock)) := by
  simp only [giveSensorID, hs.lookup_eq, bind, Except.bind]

/-- States with the same entries answer every request in the same way. -/
theorem Bounds.respond_congr (hs : Bounds s) (ht : Bounds t) (h : s.entries = t.entries)
    (req : Request) :
    respond localtime allocated s req sock = respond localtime allocated t req sock := by
  have hview : ∀ selected, giveSensorView localtime selected allocated s sock =
      giveSensorView localtime selected allocated t sock := hs.giveSensorView_congr ht h
  cases req with
  | getAll => exact hview _
  | getType typeByte =>
    simp only [respond, giveSensorAllType]
    split_ifs
    · rfl
    · exact hview _
  | getID id => simp only [respond, hs.giveSensorID_eq, ht.giveSensorID_eq, h]
  | getOnline => exact hview _
  | getOffline => exact hview _

/-! ### Every line fits -/

theorem length_readingText_lt (localtime : ℤ → Option Tm) {e : Sensor}
    (hname : e.name.length < sensorNameSize) :
    (readingText localtime e).length < transmitBufferSize := by
  have htime := length_getTime_lt localtime e
  have hdata := length_getDataString_lt e
  have hcolon : (": ".toList).length = 2 := by decide
  simp only [readingText, List.length_append, List.length_singleton, hcolon, transmitBufferSize]
  simp only [interBufSize, writeBufferSize, sensorNameSize] at htime hdata hname
  omega

theorem length_decimal_int64 (n : Int64) : (decimal n.toInt).length ≤ 20 := by
  have h₁ := Int64.le_toInt n
  have h₂ := Int64.toInt_lt n
  exact length_decimal_le (k := 19) (by norm_num) (by omega)

theorem length_decimal_int32 (n : Int32) : (decimal n.toInt).length ≤ 20 := by
  have h₁ := Int32.le_toInt n
  have h₂ := Int32.toInt_lt n
  exact length_decimal_le (k := 19) (by norm_num) (by omega)

theorem length_latencyText_lt (e : Sensor) : (latencyText e).length < transmitBufferSize := by
  have hs := length_decimal_int64 (sentSeconds e.data)
  have hn := length_decimal_int32 (sentNanoseconds e.data)
  have hword : ("LATENCY: ".toList).length = 9 := by decide
  unfold latencyText
  simp only [List.length_append, List.length_cons, List.length_nil, hword, transmitBufferSize]
  omega

theorem length_sensorText_lt (localtime : ℤ → Option Tm) {e : Sensor}
    (hname : e.name.length < sensorNameSize) :
    (sensorText localtime e).length < transmitBufferSize := by
  unfold sensorText
  split_ifs
  · exact length_latencyText_lt e
  · exact length_readingText_lt localtime hname

/-- `giveSensor` sends the whole line. -/
theorem giveSensor_eq {e : Sensor} (h : (sensorText localtime e).length < transmitBufferSize)
    (sock : Socket) : giveSensor localtime e sock = sock.send (sensorText localtime e) := by
  rw [giveSensor, if_neg (not_le.mpr h), snprintf_of_lt h]

end Telemetry
end Gateway
