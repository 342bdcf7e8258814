import Gateway.Processing

/-!
# `logging_d.c`: one file for each sensor

`loggingd` takes a frame off the log queue, opens the file of its sensor and appends a record, after
a title line if the file is empty.  A failure ends the daemon, and a service manager or the user may
start it again.

* `Files` is the file system; `handleFrame` is the body of the loop for a frame, with the outcome of
  its system calls as an argument;
* `State.written` records for each frame what it has appended, and is read by no step;
* `accounts_run`: every file is what it was at the start followed by what the frames of its sensor
  have appended, and what that can be;
* `log_files`: without failures the files hold one title and one record for each frame;
* `log_files_failures`: what the files hold when calls fail.
-/

namespace Gateway
namespace Logging

open CText Processing Segmented

def filenameSize : ℕ := 64
def filepath : List Char := "/var/sensorlog/".toList
def filenameExtension : List Char := ".csv".toList

/-- What each path holds, `none` where there is no file. -/
abbrev Files := List Char → Option (List Char)

/-- What can be read at a path. -/
def contents (files : Files) (path : List Char) : List Char := (files path).getD []

/-- What a call of `open` meets before the one that succeeds. -/
inductive OpenEvent
  | eintr (exitRequested : Bool)
  | fail
  deriving DecidableEq

/-- The loop around `open`: an interruption is retried unless an exit was requested. -/
def retryOpen : List OpenEvent → Bool
  | [] => true
  | .eintr exit :: es => if exit then false else retryOpen es
  | .fail :: _ => false

/-- How the system calls for one frame go. -/
structure Calls where
  opens : List OpenEvent
  lseek : Bool
  writes : List SendEvent
  deriving DecidableEq

/-- The file of a frame's sensor, before it is printed into its buffer. -/
def filename (frame : Sensor) : List Char := filepath ++ frame.name ++ filenameExtension

/-- The path that is opened. -/
def logPath (frame : Sensor) : List Char := snprintf filenameSize (filename frame)

/-- `openLogFile`: the flag for a new file, or `none` for `-1`, and the file system. -/
def openLogFile (frame : Sensor) (calls : Calls) (files : Files) : Option Bool × Files :=
  if (filename frame).length ≥ filenameSize then (none, files)
  else if retryOpen calls.opens = false then (none, files)
  else
    let files := Function.update files (logPath frame) (some (contents files (logPath frame)))
    if calls.lseek = false then (none, files)
    else (some ((contents files (logPath frame)).length = 0), files)

/-- The body of the loop for a frame: whether the daemon goes on, and the file system. -/
def handleFrame (localtime : ℤ → Option Tm) (frame : Sensor) (calls : Calls) (files : Files) :
    Bool × Files :=
  match openLogFile frame calls files with
  | (none, files) => (false, files)
  | (some flag, files) =>
      let r := writeFrameData localtime frame.data frame.type frame.timestamp flag
        ⟨contents files (logPath frame), calls.writes⟩
      (r.1, Function.update files (logPath frame) (some r.2.contents))

/-! ### The daemon -/

/-- What a frame has done: whether its file was empty, what it appended, and whether the daemon went
on. -/
structure Entry where
  frame : Sensor
  wasEmpty : Bool
  text : List Char
  ok : Bool
  deriving DecidableEq

structure State where
  files : Files
  running : Bool
  written : List Entry

/-- What happens to the daemon: a frame with the calls made for it, a message of another size, an
error of `mq_receive`, a signal, and a new start. -/
inductive Action
  | receive (frame : Sensor) (calls : Calls)
  | incomplete
  | failed
  | signal
  | restart
  deriving DecidableEq

def step (localtime : ℤ → Option Tm) (s : State) : Action → State
  | .receive frame calls =>
      if s.running then
        let r := handleFrame localtime frame calls s.files
        let before := contents s.files (logPath frame)
        let text := (contents r.2 (logPath frame)).drop before.length
        ⟨r.2, r.1, s.written ++ [⟨frame, before = [], text, r.1⟩]⟩
      else s
  | .incomplete => s
  | .failed => { s with running := false }
  | .signal => { s with running := false }
  | .restart => { s with running := true }

def init (files : Files) : State := ⟨files, true, []⟩

def run (localtime : ℤ → Option Tm) (files : Files) (acts : List Action) : State :=
  acts.foldl (step localtime) (init files)

/-- The frames of a list of actions. -/
def Action.frame? : Action → Option Sensor
  | .receive frame _ => some frame
  | _ => none

/-! ### One frame -/

/-- What the frame has to write, into an empty file or not. -/
def textOf (localtime : ℤ → Option Tm) (frame : Sensor) (wasEmpty : Bool) : Option (List Char) :=
  frameText localtime frame.data frame.type frame.timestamp wasEmpty

/-- The complete record line of a frame. -/
def recordOf (localtime : ℤ → Option Tm) (frame : Sensor) : Option (List Char) :=
  frameRecord localtime frame.data frame.type frame.timestamp

/-- What an entry says is true of its frame: all of the text, or a proper part from its start. -/
def Entry.Lawful (localtime : ℤ → Option Tm) (e : Entry) : Prop :=
  if e.ok then textOf localtime e.frame e.wasEmpty = some e.text
  else e.text = [] ∨
    ∃ line, textOf localtime e.frame e.wasEmpty = some line ∧ e.text <+: line ∧ e.text ≠ line

variable {localtime : ℤ → Option Tm} {files : Files} {frame : Sensor} {calls : Calls}

theorem contents_update (files : Files) (path path' text : List Char) :
    contents (Function.update files path (some text)) path' =
      if path' = path then text else contents files path' := by
  unfold contents
  by_cases h : path' = path
  · rw [h, Function.update_self, if_pos rfl, Option.getD_some]
  · rw [Function.update_of_ne h, if_neg h]

/-- What `openLogFile` can do: it changes no contents, and tells whether the file is empty. -/
theorem openLogFile_spec (frame : Sensor) (calls : Calls) (files : Files) :
    (∀ path, contents (openLogFile frame calls files).2 path = contents files path) ∧
      ∀ flag, (openLogFile frame calls files).1 = some flag →
        flag = decide (contents files (logPath frame) = []) := by
  have hsame : ∀ path, contents
      (Function.update files (logPath frame) (some (contents files (logPath frame)))) path =
        contents files path := by
    intro path
    rw [contents_update]
    split_ifs with h
    · rw [h]
    · rfl
  unfold openLogFile
  split_ifs
  · exact ⟨fun _ => rfl, by simp⟩
  · exact ⟨fun _ => rfl, by simp⟩
  · exact ⟨hsame, by simp⟩
  · refine ⟨hsame, fun flag hflag => ?_⟩
    rw [← Option.some.inj hflag, hsame]
    simp only [List.length_eq_zero_iff]

/-- A frame appends to its own file, lawfully, and changes no other. -/
theorem handleFrame_spec (localtime : ℤ → Option Tm) (frame : Sensor) (calls : Calls)
    (files : Files) :
    ∃ text, contents (handleFrame localtime frame calls files).2 (logPath frame) =
        contents files (logPath frame) ++ text ∧
      (∀ path, path ≠ logPath frame →
        contents (handleFrame localtime frame calls files).2 path = contents files path) ∧
      Entry.Lawful localtime ⟨frame, contents files (logPath frame) = [], text,
        (handleFrame localtime frame calls files).1⟩ := by
  obtain ⟨hsame, hflag⟩ := openLogFile_spec frame calls files
  unfold handleFrame
  rcases hopen : openLogFile frame calls files with ⟨_ | flag, files'⟩
  · rw [hopen] at hsame
    exact ⟨[], by simp [hsame], fun path _ => hsame path, by simp [Entry.Lawful]⟩
  · rw [hopen] at hsame hflag
    obtain rfl := hflag flag rfl
    simp only [contents_update, if_true]
    cases hok : (writeFrameData localtime frame.data frame.type frame.timestamp
        (decide (contents files (logPath frame) = []))
        ⟨contents files' (logPath frame), calls.writes⟩).1 with
    | true =>
      obtain ⟨line, hline, hcontents⟩ := writeFrameData_ok hok
      refine ⟨line, by rw [hcontents, hsame], fun path hne => ?_, ?_⟩
      · rw [if_neg hne, hsame]
      · simp only [Entry.Lawful, if_true]
        exact hline
    | false =>
      obtain ⟨text, hcontents, hfailed⟩ := writeFrameData_failed hok
      refine ⟨text, by rw [hcontents, hsame], fun path hne => ?_, ?_⟩
      · rw [if_neg hne, hsame]
      · simp only [Entry.Lawful, Bool.false_eq_true, if_false]
        exact hfailed.imp And.right id

/-! ### Whole runs -/

/-- What a list of entries has appended to a file. -/
def writtenTo (path : List Char) (es : List Entry) : List Char :=
  (es.filter (logPath ·.frame = path)).flatMap Entry.text

/-- The files are accounted for by the entries. -/
structure Accounts (localtime : ℤ → Option Tm) (files : Files) (s : State) : Prop where
  contents_eq : ∀ path, contents s.files path = contents files path ++ writtenTo path s.written
  lawful : ∀ pre e post, s.written = pre ++ e :: post → e.Lawful localtime ∧
    e.wasEmpty = decide (contents files (logPath e.frame) ++ writtenTo (logPath e.frame) pre = [])

theorem writtenTo_concat (path : List Char) (es : List Entry) (e : Entry) :
    writtenTo path (es ++ [e]) =
      writtenTo path es ++ if logPath e.frame = path then e.text else [] := by
  unfold writtenTo
  rw [List.filter_append, List.flatMap_append]
  split_ifs with h <;> simp [h]

/-- What a received frame does to a running daemon. -/
theorem step_receive (localtime : ℤ → Option Tm) (s : State) (frame : Sensor) (calls : Calls)
    (hrun : s.running = true) :
    ∃ e : Entry, e.frame = frame ∧ e.Lawful localtime ∧
      e.wasEmpty = decide (contents s.files (logPath frame) = []) ∧
      (step localtime s (.receive frame calls)).written = s.written ++ [e] ∧
      (step localtime s (.receive frame calls)).running = e.ok ∧
      ∀ path, contents (step localtime s (.receive frame calls)).files path =
        contents s.files path ++ if logPath frame = path then e.text else [] := by
  obtain ⟨text, hcontents, hother, hlawful⟩ := handleFrame_spec localtime frame calls s.files
  have hdrop : (contents (handleFrame localtime frame calls s.files).2 (logPath frame)).drop
      (contents s.files (logPath frame)).length = text := by
    rw [hcontents, List.drop_left]
  simp only [step, hrun, if_true, hdrop]
  refine ⟨_, rfl, hlawful, rfl, rfl, rfl, fun path => ?_⟩
  split_ifs with h
  · rw [← h, hcontents]
  · rw [hother path (Ne.symm h), List.append_nil]

theorem step_of_stopped {s : State} (h : s.running = false) (frame : Sensor) (calls : Calls) :
    step localtime s (.receive frame calls) = s := by
  simp [step, h]

theorem accounts_init (files : Files) : Accounts localtime files (init files) where
  contents_eq := fun path => by simp [init, writtenTo]
  lawful := by simp [init]

theorem Accounts.receive {s : State} (h : Accounts localtime files s) (frame : Sensor)
    (calls : Calls) : Accounts localtime files (step localtime s (.receive frame calls)) := by
  cases hrun : s.running with
  | false => rwa [step_of_stopped hrun]
  | true =>
    obtain ⟨e, hframe, hlawful, hempty, hwritten, -, hfiles⟩ :=
      step_receive localtime s frame calls hrun
    constructor
    · intro path
      rw [hfiles, hwritten, writtenTo_concat, hframe, h.contents_eq, List.append_assoc]
    · intro pre e' post hsplit
      rw [hwritten] at hsplit
      rcases List.eq_nil_or_concat post with rfl | ⟨post', last, rfl⟩
      · obtain ⟨rfl, heq⟩ := List.append_inj' hsplit rfl
        obtain rfl := List.singleton_inj.mp heq
        rw [hframe, ← h.contents_eq]
        exact ⟨hlawful, hempty⟩
      · rw [List.concat_eq_append, ← List.cons_append, ← List.append_assoc] at hsplit
        exact h.lawful pre e' post' (List.append_inj' hsplit rfl).1

/-- Every file holds what it held at the start and then what the entries say. -/
theorem accounts_run (localtime : ℤ → Option Tm) (files : Files) (acts : List Action) :
    Accounts localtime files (run localtime files acts) := by
  induction acts using List.reverseRecOn with
  | nil => exact accounts_init files
  | append_singleton acts a ih =>
    rw [run, List.foldl_concat, ← run]
    cases a with
    | receive frame calls => exact ih.receive frame calls
    | incomplete => exact ih
    | failed => exact ⟨ih.contents_eq, ih.lawful⟩
    | signal => exact ⟨ih.contents_eq, ih.lawful⟩
    | restart => exact ⟨ih.contents_eq, ih.lawful⟩

/-! ### The file of a sensor -/

/-- The path of the file of a sensor. -/
def keyPath (k : SensorKey) : List Char :=
  snprintf filenameSize (filepath ++ nameSensor k.id k.type ++ filenameExtension)

theorem logPath_eq_keyPath (h : Accepted frame) : logPath frame = keyPath frame.key := by
  rw [logPath, filename, h.name_eq]
  rfl

theorem length_filename_lt {name : List Char} (h : name.length < sensorNameSize) :
    (filepath ++ name ++ filenameExtension).length < filenameSize := by
  have hpath : filepath.length = 15 := by decide
  have hext : filenameExtension.length = 4 := by decide
  rw [sensorNameSize] at h
  rw [List.length_append, List.length_append, hpath, hext, filenameSize]
  omega

theorem length_filename_of_accepted (h : Accepted frame) :
    (filename frame).length < filenameSize := by
  rw [filename, h.name_eq]
  exact length_filename_lt (length_nameSensor_lt _ _)

/-- Different sensors have different files. -/
theorem keyPath_inj {k k' : SensorKey} (h : k.type.Supported) (h' : k'.type.Supported)
    (heq : keyPath k = keyPath k') : k = k' := by
  unfold keyPath at heq
  rw [snprintf_of_lt (length_filename_lt (length_nameSensor_lt _ _)),
    snprintf_of_lt (length_filename_lt (length_nameSensor_lt _ _))] at heq
  have hname := List.append_cancel_left (List.append_cancel_right heq)
  obtain ⟨hid, htype⟩ := nameSensor_inj h h' hname
  cases k
  cases k'
  simp_all

theorem logPath_eq_iff {f : Sensor} (h : Accepted frame) (hf : Accepted f) :
    logPath f = logPath frame ↔ f.key = frame.key := by
  rw [logPath_eq_keyPath h, logPath_eq_keyPath hf]
  exact ⟨keyPath_inj hf.supported h.supported, fun hkey => by rw [hkey]⟩

theorem titleLine_ne_nil {type : SensorType} (h : type.Supported) : titleLine type ≠ [] := by
  simp only [SensorType.Supported, List.mem_cons, List.not_mem_nil, or_false] at h
  rcases h with rfl | rfl | rfl | rfl <;> decide

/-! ### Runs without failures -/

/-- Opens are interrupted at most, and writes are short or interrupted at most. -/
def Calls.Succeed (calls : Calls) : Prop :=
  (∀ e ∈ calls.opens, e = .eintr false) ∧ calls.lseek = true ∧ Reliable calls.writes

instance (calls : Calls) : Decidable calls.Succeed := inferInstanceAs (Decidable (_ ∧ _ ∧ _))

/-- No system call fails, and no exit is requested. -/
def Action.Succeeds : Action → Prop
  | .receive _ calls => calls.Succeed
  | .incomplete => True
  | .failed => False
  | .signal => False
  | .restart => True

instance : DecidablePred Action.Succeeds
  | .receive _ calls => inferInstanceAs (Decidable calls.Succeed)
  | .incomplete => inferInstanceAs (Decidable True)
  | .failed => inferInstanceAs (Decidable False)
  | .signal => inferInstanceAs (Decidable False)
  | .restart => inferInstanceAs (Decidable True)

/-- A file after some records: untouched without any, else what it held, or the title if that was
nothing, and the records. -/
def fileAfter (start : Option (List Char)) (title : List Char) (records : List (List Char)) :
    Option (List Char) :=
  if records = [] then start
  else some ((if start.getD [] = [] then title else start.getD []) ++ records.flatten)

/-- The records that the frames of a sensor leave. -/
def recordsOf (localtime : ℤ → Option Tm) (k : SensorKey) (fs : List Sensor) : List (List Char) :=
  (fs.filter (·.key = k)).map fun f => (recordOf localtime f).getD []

theorem retryOpen_of_eintr {es : List OpenEvent} (h : ∀ e ∈ es, e = .eintr false) :
    retryOpen es = true := by
  induction es with
  | nil => rfl
  | cons e es ih =>
    obtain ⟨rfl, hes⟩ := List.forall_mem_cons.mp h
    exact ih hes

theorem recordOf_of_convertible (hacc : Accepted frame)
    (hstamp : Convertible localtime frame.timestamp) :
    recordOf localtime frame =
      some (getTime localtime frame ++ " -> ".toList ++ getDataString frame ++ ['\n']) :=
  frameRecord_of_convertible hstamp hacc.supported

/-- A frame whose calls succeed is written. -/
theorem handleFrame_of_succeed (hacc : Accepted frame)
    (hstamp : Convertible localtime frame.timestamp) (hcalls : calls.Succeed) :
    handleFrame localtime frame calls files =
      (true, Function.update files (logPath frame)
        (some ((if contents files (logPath frame) = [] then titleLine frame.type
            else contents files (logPath frame)) ++ (recordOf localtime frame).getD []))) := by
  obtain ⟨hopens, hseek, hwrites⟩ := hcalls
  have hrecord := recordOf_of_convertible hacc hstamp
  have hopen : openLogFile frame calls files =
      (some (decide (contents files (logPath frame) = [])),
        Function.update files (logPath frame) (some (contents files (logPath frame)))) := by
    simp only [openLogFile, not_le.mpr (length_filename_of_accepted hacc),
      retryOpen_of_eintr hopens, hseek, contents_update, if_true, if_false, reduceCtorEq,
      List.length_eq_zero_iff]
  have hok : (writeFrameData localtime frame.data frame.type frame.timestamp
      (decide (contents files (logPath frame) = []))
      ⟨contents files (logPath frame), calls.writes⟩).1 = true :=
    writeFrameData_of_reliable hwrites hrecord
  obtain ⟨line, hline, hcontents⟩ := writeFrameData_ok hok
  have hrecord' :
      frameRecord localtime frame.data frame.type frame.timestamp = recordOf localtime frame := rfl
  simp only [handleFrame, hopen, contents_update, if_true, hok, hcontents,
    Function.update_idem]
  rw [frameText, hrecord', hrecord] at hline
  rw [hrecord, ← Option.some.inj hline, Option.getD_some]
  by_cases h : contents files (logPath frame) = [] <;> simp [h]

theorem fileAfter_concat {title : List Char} (htitle : title ≠ []) (start : Option (List Char))
    (records : List (List Char)) (r : List Char) :
    fileAfter start title (records ++ [r]) =
      some ((if (fileAfter start title records).getD [] = [] then title
        else (fileAfter start title records).getD []) ++ r) := by
  have hhead : (if start.getD [] = [] then title else start.getD []) ≠ [] := by
    split_ifs with h
    · exact htitle
    · exact h
  by_cases hrecords : records = []
  · simp [fileAfter, hrecords]
  · simp [fileAfter, hrecords, hhead]

theorem recordsOf_concat (localtime : ℤ → Option Tm) (k : SensorKey) (fs : List Sensor)
    (f : Sensor) :
    recordsOf localtime k (fs ++ [f]) =
      recordsOf localtime k fs ++ if f.key = k then [(recordOf localtime f).getD []] else [] := by
  unfold recordsOf
  rw [List.filter_append, List.map_append]
  split_ifs with h <;> simp [h]

/-- The files after the frames `fs`, none of which has failed. -/
structure Keeps (localtime : ℤ → Option Tm) (files : Files) (fs : List Sensor) (s : State) :
    Prop where
  running : s.running = true
  files_eq : ∀ k : SensorKey, k.type.Supported → s.files (keyPath k) =
    fileAfter (files (keyPath k)) (titleLine k.type) (recordsOf localtime k fs)
  others : ∀ path, (∀ f ∈ fs, logPath f ≠ path) → s.files path = files path

theorem Keeps.receive {fs : List Sensor} {s : State} (h : Keeps localtime files fs s)
    (hacc : Accepted frame) (hstamp : Convertible localtime frame.timestamp)
    (hcalls : calls.Succeed) :
    Keeps localtime files (fs ++ [frame]) (step localtime s (.receive frame calls)) := by
  have hstep : (step localtime s (.receive frame calls)).running = true ∧
      (step localtime s (.receive frame calls)).files = Function.update s.files (logPath frame)
        (some ((if contents s.files (logPath frame) = [] then titleLine frame.type
          else contents s.files (logPath frame)) ++ (recordOf localtime frame).getD [])) := by
    simp only [step, h.running, if_true, handleFrame_of_succeed hacc hstamp hcalls, and_self]
  refine ⟨hstep.1, fun k hk => ?_, fun path hpath => ?_⟩
  · rw [hstep.2, recordsOf_concat, logPath_eq_keyPath hacc]
    by_cases hkey : frame.key = k
    · subst hkey
      rw [Function.update_self, if_pos rfl, fileAfter_concat (titleLine_ne_nil hk)]
      simp only [contents, h.files_eq _ hk]
      rfl
    · have hne : keyPath k ≠ keyPath frame.key := fun heq =>
        hkey (keyPath_inj hk hacc.supported heq).symm
      rw [Function.update_of_ne hne, if_neg hkey, List.append_nil, h.files_eq k hk]
  · rw [hstep.2, Function.update_of_ne (Ne.symm (hpath frame (by simp)))]
    exact h.others path fun f hf => hpath f (List.mem_append_left _ hf)

theorem keeps_run (localtime : ℤ → Option Tm) (files : Files) {acts : List Action}
    (hframes : ∀ f ∈ acts.filterMap Action.frame?,
      Accepted f ∧ Convertible localtime f.timestamp)
    (hacts : ∀ a ∈ acts, a.Succeeds) :
    Keeps localtime files (acts.filterMap Action.frame?) (run localtime files acts) := by
  induction acts using List.reverseRecOn with
  | nil => exact ⟨rfl, fun k _ => rfl, fun path _ => rfl⟩
  | append_singleton acts a ih =>
    rw [List.filterMap_append, List.forall_mem_append] at hframes
    rw [List.forall_mem_append] at hacts
    have hk := ih hframes.1 hacts.1
    have ha := hacts.2 a (by simp)
    rw [run, List.foldl_concat, ← run, List.filterMap_append]
    cases a with
    | receive frame calls =>
      obtain ⟨hacc, hstamp⟩ := hframes.2 frame (by simp [Action.frame?])
      exact hk.receive hacc hstamp ha
    | incomplete =>
      show Keeps localtime files (acts.filterMap Action.frame? ++ []) _
      rw [List.append_nil]
      exact hk
    | failed => cases ha
    | signal => cases ha
    | restart =>
      have hsame : step localtime (run localtime files acts) .restart =
          run localtime files acts := by
        rw [step, ← hk.running]
      show Keeps localtime files (acts.filterMap Action.frame? ++ []) _
      rw [List.append_nil, hsame]
      exact hk

/-- A complete line: its only line end is the last character. -/
def IsLine (line : List Char) : Prop := ∃ text, line = text ++ ['\n'] ∧ '\n' ∉ text

theorem isLine_recordOf (hacc : Accepted frame) (hstamp : Convertible localtime frame.timestamp)
    {record : List Char} (h : recordOf localtime frame = some record) : IsLine record := by
  rw [recordOf_of_convertible hacc hstamp] at h
  refine ⟨_, (Option.some.inj h).symm, Printable.notMem ?_ (by decide)⟩
  simp only [printable_append, printable_getTime, printable_getDataString, and_true, true_and]
  decide

/-- **One title and one record for each frame.**  Whatever the directory holds at the start, and
however the calls are interrupted and the writes cut short, the file of each sensor that was heard
holds its old contents, or the title if there were none, and then the complete record of each frame
of the sensor in the order of receipt.  No other file is touched, and no two sensors share one. -/
theorem log_files (localtime : ℤ → Option Tm) (files : Files) (acts : List Action)
    (hframes : ∀ f ∈ acts.filterMap Action.frame?,
      Accepted f ∧ f.frameType = .data ∧ Convertible localtime f.timestamp)
    (hacts : ∀ a ∈ acts, a.Succeeds) :
    (run localtime files acts).running = true ∧
      (∀ f ∈ acts.filterMap Action.frame?, ∃ records : List (List Char),
        ((acts.filterMap Action.frame?).filter (·.key = f.key)).map (recordOf localtime) =
          records.map some ∧
        (∀ r ∈ records, IsLine r) ∧
        (run localtime files acts).files (logPath f) =
          some ((if contents files (logPath f) = [] then titleLine f.type
            else contents files (logPath f)) ++ records.flatten)) ∧
      (∀ path, (∀ f ∈ acts.filterMap Action.frame?, logPath f ≠ path) →
        (run localtime files acts).files path = files path) ∧
      ∀ f g, Accepted f → Accepted g → f.key ≠ g.key → logPath f ≠ logPath g := by
  have hk := keeps_run localtime files (fun f hf => ⟨(hframes f hf).1, (hframes f hf).2.2⟩) hacts
  refine ⟨hk.running, fun f hf => ?_, hk.others,
    fun f g hf hg hne heq => hne ((logPath_eq_iff hg hf).mp heq)⟩
  have hacc := (hframes f hf).1
  have hsome : ∀ g ∈ (acts.filterMap Action.frame?).filter (·.key = f.key),
      recordOf localtime g = some ((recordOf localtime g).getD []) := by
    intro g hg
    obtain ⟨hgacc, -, hgstamp⟩ := hframes g (List.mem_filter.mp hg).1
    rw [recordOf_of_convertible hgacc hgstamp, Option.getD_some]
  refine ⟨recordsOf localtime f.key (acts.filterMap Action.frame?), ?_, ?_, ?_⟩
  · rw [recordsOf, List.map_map]
    exact List.map_congr_left hsome
  · intro r hr
    obtain ⟨g, hg, rfl⟩ := List.mem_map.mp hr
    obtain ⟨hgacc, -, hgstamp⟩ := hframes g (List.mem_filter.mp hg).1
    exact isLine_recordOf hgacc hgstamp (hsome g hg)
  · have hne : recordsOf localtime f.key (acts.filterMap Action.frame?) ≠ [] := by
      unfold recordsOf
      rw [ne_eq, List.map_eq_nil_iff, List.filter_eq_nil_iff]
      exact fun hnone => hnone f hf (by simp)
    rw [logPath_eq_keyPath hacc, hk.files_eq f.key hacc.supported, fileAfter, if_neg hne]
    rfl

/-- Two readings of a torque sensor into a new file, the first with an interrupted `open` and short
writes. -/
theorem log_files_torque :
    let localtime : ℤ → Option Tm := fun _ => some ⟨70, 0, 1, 0, 0, 0⟩
    let f : Sensor :=
      ⟨⟨0x5F, 0, 0⟩, ⟨0, 0⟩, ⟨0, 0⟩, 7, "TORQS_0X7".toList, .torque, .frameDefault, .data⟩
    let acts : List Action :=
      [.receive f ⟨[.eintr false], true, [.accept 3, .eintr, .accept 100, .accept 1]⟩, .incomplete,
        .receive f ⟨[], true, []⟩]
    generateFrame (some ⟨0, 0⟩) (some ⟨0, 0⟩) (buildPacket 0x4B 7 [0x5F, 0, 0, 0] 4)
      Sensor.zero 10 = some f ∧
    (run localtime (fun _ => none) acts).running = true ∧
    (run localtime (fun _ => none) acts).files "/var/sensorlog/TORQS_0X7.csv".toList =
      some ("<Timestamp> -> <torque>Nm\n1970-01-01 00:00:00 -> 9.500000Nm\n".toList ++
        "1970-01-01 00:00:00 -> 9.500000Nm\n".toList) ∧
    (run localtime (fun _ => none) acts).files "/var/sensorlog/TPS_0X7.csv".toList = none := by
  intro localtime f acts
  have hf : generateFrame (some ⟨0, 0⟩) (some ⟨0, 0⟩) (buildPacket 0x4B 7 [0x5F, 0, 0, 0] 4)
      Sensor.zero 10 = some f := by decide +kernel
  have hstamp : Convertible localtime f.timestamp := ⟨_, rfl, by decide⟩
  have hframes : ∀ g ∈ acts.filterMap Action.frame?, g = f := by decide +kernel
  have hpath : logPath f = "/var/sensorlog/TORQS_0X7.csv".toList := by decide +kernel
  have h := log_files localtime (fun _ => none) acts
    (fun g hg => by rw [hframes g hg]; exact ⟨⟨_, _, _, _, _, hf⟩, rfl, hstamp⟩)
    (by decide +kernel)
  obtain ⟨hrun, hfiles, hothers, -⟩ := h
  obtain ⟨records, hrecords, -, hcontents⟩ := hfiles f (by decide +kernel)
  refine ⟨hf, hrun, ?_, hothers _ fun g hg => ?_⟩
  · have hlines : records = ["1970-01-01 00:00:00 -> 9.500000Nm\n".toList,
        "1970-01-01 00:00:00 -> 9.500000Nm\n".toList] := by
      apply List.map_injective_iff.mpr (Option.some_injective _)
      rw [← hrecords]
      decide +kernel
    rw [← hpath, hcontents, hlines]
    decide +kernel
  · rw [hframes g hg, hpath]
    decide

/-! ### Runs with failures -/

/-- An empty file, or the complete title and then complete records of the sensor. -/
def WellFormed (localtime : ℤ → Option Tm) (k : SensorKey) (text : List Char) : Prop :=
  text = [] ∨ ∃ records : List (List Char),
    (∀ r ∈ records, ∃ f : Sensor, f.key = k ∧ recordOf localtime f = some r) ∧
    text = titleLine k.type ++ records.flatten

/-- A failed frame that has left off within a line. -/
def Entry.Torn (e : Entry) : Prop :=
  e.ok = false ∧ e.text ≠ [] ∧ ¬ (e.wasEmpty = true ∧ e.text = titleLine e.frame.type)

/-- A frame that is not torn keeps its file well formed. -/
theorem WellFormed.append {k : SensorKey} {text : List Char} (h : WellFormed localtime k text)
    (hk : k.type.Supported) {e : Entry} (hkey : e.frame.key = k) (hlawful : e.Lawful localtime)
    (hempty : e.wasEmpty = decide (text = [])) (htorn : ¬ e.Torn) :
    WellFormed localtime k (text ++ e.text) := by
  have htype : e.frame.type = k.type := congrArg SensorKey.type hkey
  cases hok : e.ok with
  | true =>
    rw [Entry.Lawful, hok, if_pos rfl, textOf, frameText, Option.map_eq_some_iff] at hlawful
    obtain ⟨record, hrecord, htext⟩ := hlawful
    rw [← htext, htype, hempty]
    have hnew : ∃ f : Sensor, f.key = k ∧ recordOf localtime f = some record :=
      ⟨e.frame, hkey, hrecord⟩
    rcases h with rfl | ⟨records, hrecords, rfl⟩
    · exact Or.inr ⟨[record], by simpa using hnew, by simp⟩
    · refine Or.inr ⟨records ++ [record], ?_, by simp [titleLine_ne_nil hk]⟩
      rw [List.forall_mem_append]
      exact ⟨hrecords, by simpa using hnew⟩
  | false =>
    -- the frame has failed at the end of a line, so it has written nothing or the title
    rw [Entry.Torn, not_and_or, not_and_or, not_not, not_not] at htorn
    rcases htorn with hfailed | hnil | ⟨hwas, htitle⟩
    · exact absurd hok hfailed
    · rwa [hnil, List.append_nil]
    · rw [hempty, decide_eq_true_eq] at hwas
      exact Or.inr ⟨[], by simp, by simp [hwas, htitle, htype]⟩

/-- The entries are those of the frames received. -/
theorem mem_written_run (localtime : ℤ → Option Tm) (files : Files) (acts : List Action) :
    ∀ e ∈ (run localtime files acts).written, e.frame ∈ acts.filterMap Action.frame? := by
  induction acts using List.reverseRecOn with
  | nil => simp [run, init]
  | append_singleton acts a ih =>
    have hold : ∀ e ∈ (run localtime files acts).written,
        e.frame ∈ (acts ++ [a]).filterMap Action.frame? := by
      intro e he
      rw [List.filterMap_append]
      exact List.mem_append_left _ (ih e he)
    rw [run, List.foldl_concat, ← run]
    cases a with
    | receive frame calls =>
      cases hrun : (run localtime files acts).running with
      | false => rwa [step_of_stopped hrun]
      | true =>
        obtain ⟨e', hframe, -, -, hwritten, -⟩ :=
          step_receive localtime (run localtime files acts) frame calls hrun
        intro e he
        rw [hwritten] at he
        rcases List.mem_append.mp he with he | he
        · exact hold e he
        · rw [List.mem_singleton.mp he, hframe]
          simp [Action.frame?]
    | incomplete => exact hold
    | failed => exact hold
    | signal => exact hold
    | restart => exact hold

/-- What the entries of a sensor have appended to its file. -/
def textsOf (k : SensorKey) (es : List Entry) : List Char :=
  (es.filter (·.frame.key = k)).flatMap Entry.text

theorem writtenTo_eq_textsOf {k : SensorKey} (hk : k.type.Supported) {es : List Entry}
    (hacc : ∀ e ∈ es, Accepted e.frame) : writtenTo (keyPath k) es = textsOf k es := by
  unfold writtenTo textsOf
  congr 1
  apply List.filter_congr
  intro e he
  have hiff : logPath e.frame = keyPath k ↔ e.frame.key = k := by
    rw [logPath_eq_keyPath (hacc e he)]
    exact ⟨keyPath_inj (hacc e he).supported hk, fun hkey => by rw [hkey]⟩
  simp only [hiff]

/-- A file that the entries account for, none of them torn, is well formed. -/
theorem wellFormed_of_entries {k : SensorKey} (hk : k.type.Supported) {es : List Entry}
    (hlawful : ∀ pre e post, es = pre ++ e :: post → e.frame.key = k →
      e.Lawful localtime ∧ e.wasEmpty = decide (textsOf k pre = []))
    (htorn : ∀ e ∈ es, e.frame.key = k → ¬ e.Torn) : WellFormed localtime k (textsOf k es) := by
  induction es using List.reverseRecOn with
  | nil => exact Or.inl rfl
  | append_singleton es e ih =>
    rw [List.forall_mem_append] at htorn
    have hbefore : WellFormed localtime k (textsOf k es) := by
      refine ih (fun pre e' post hsplit => ?_) htorn.1
      exact hlawful pre e' (post ++ [e]) (by rw [hsplit]; simp)
    by_cases hkey : e.frame.key = k
    · have htexts : textsOf k (es ++ [e]) = textsOf k es ++ e.text := by
        simp [textsOf, List.filter_append, hkey]
      obtain ⟨hlaw, hempty⟩ := hlawful es e [] rfl hkey
      rw [htexts]
      exact hbefore.append hk hkey hlaw hempty (htorn.2 e (by simp) hkey)
    · have htexts : textsOf k (es ++ [e]) = textsOf k es := by
        simp [textsOf, List.filter_append, hkey]
      rwa [htexts]

/-- **What failures leave behind.**  In every run with failures and restarts the file of a sensor
that was absent or empty is the concatenation of what its frames have written.  A frame that went
well has written its complete record, after the complete title if the file was empty; one that
failed has written a proper part of that, from its start, or nothing.  The file is well formed as
long as no failure came within a line. -/
theorem log_files_failures (localtime : ℤ → Option Tm) (files : Files) (acts : List Action)
    (hframes : ∀ f ∈ acts.filterMap Action.frame?, Accepted f ∧ f.frameType = .data)
    (k : SensorKey) (hk : k.type.Supported) (hstart : contents files (keyPath k) = []) :
    contents (run localtime files acts).files (keyPath k) =
        textsOf k (run localtime files acts).written ∧
      (∀ pre e post, (run localtime files acts).written = pre ++ e :: post → e.frame.key = k →
        e.Lawful localtime ∧ e.wasEmpty = decide (textsOf k pre = [])) ∧
      ((∀ e ∈ (run localtime files acts).written, e.frame.key = k → ¬ e.Torn) →
        WellFormed localtime k (contents (run localtime files acts).files (keyPath k))) := by
  have haccounts := accounts_run localtime files acts
  have hacc : ∀ e ∈ (run localtime files acts).written, Accepted e.frame := fun e he =>
    (hframes e.frame (mem_written_run localtime files acts e he)).1
  have hcontents : contents (run localtime files acts).files (keyPath k) =
      textsOf k (run localtime files acts).written := by
    rw [haccounts.contents_eq, hstart, List.nil_append, writtenTo_eq_textsOf hk hacc]
  have hlawful : ∀ pre e post, (run localtime files acts).written = pre ++ e :: post →
      e.frame.key = k → e.Lawful localtime ∧ e.wasEmpty = decide (textsOf k pre = []) := by
    intro pre e post hsplit hkey
    obtain ⟨hlaw, hempty⟩ := haccounts.lawful pre e post hsplit
    rw [hsplit, List.forall_mem_append, List.forall_mem_cons] at hacc
    rw [logPath_eq_keyPath hacc.2.1, hkey, hstart, List.nil_append,
      writtenTo_eq_textsOf hk hacc.1] at hempty
    exact ⟨hlaw, hempty⟩
  refine ⟨hcontents, hlawful, fun htorn => ?_⟩
  rw [hcontents]
  exact wellFormed_of_entries hk hlawful htorn

/-- The disk is full after the title and the daemon is started again: the file is well formed. -/
theorem log_files_failures_title :
    let localtime : ℤ → Option Tm := fun _ => some ⟨70, 0, 1, 0, 0, 0⟩
    let f : Sensor :=
      ⟨⟨0x5F, 0, 0⟩, ⟨0, 0⟩, ⟨0, 0⟩, 7, "TORQS_0X7".toList, .torque, .frameDefault, .data⟩
    let acts : List Action :=
      [.receive f ⟨[], true, [.accept 26, .fail]⟩, .restart, .receive f ⟨[], true, []⟩]
    generateFrame (some ⟨0, 0⟩) (some ⟨0, 0⟩) (buildPacket 0x4B 7 [0x5F, 0, 0, 0] 4)
      Sensor.zero 10 = some f ∧
    WellFormed localtime f.key
      (contents (run localtime (fun _ => none) acts).files (keyPath f.key)) ∧
    contents (run localtime (fun _ => none) acts).files (keyPath f.key) =
      "<Timestamp> -> <torque>Nm\n1970-01-01 00:00:00 -> 9.500000Nm\n".toList := by
  intro localtime f acts
  have hf : generateFrame (some ⟨0, 0⟩) (some ⟨0, 0⟩) (buildPacket 0x4B 7 [0x5F, 0, 0, 0] 4)
      Sensor.zero 10 = some f := by decide +kernel
  have hframes : ∀ g ∈ acts.filterMap Action.frame?, g = f := by decide +kernel
  have hentries : (run localtime (fun _ => none) acts).written =
      [⟨f, true, titleLine .torque, false⟩,
        ⟨f, false, "1970-01-01 00:00:00 -> 9.500000Nm\n".toList, true⟩] := by decide +kernel
  refine ⟨hf, ?_, by decide +kernel⟩
  refine (log_files_failures localtime (fun _ => none) acts
    (fun g hg => by rw [hframes g hg]; exact ⟨⟨_, _, _, _, _, hf⟩, rfl⟩) f.key (by decide)
    rfl).2.2 ?_
  rw [hentries]
  simp [Entry.Torn, f]

/-- The disk is full within the title and the daemon is started again: the record follows what is
left of the title. -/
theorem title_torn :
    let localtime : ℤ → Option Tm := fun _ => some ⟨70, 0, 1, 0, 0, 0⟩
    let f : Sensor :=
      ⟨⟨0x5F, 0, 0⟩, ⟨0, 0⟩, ⟨0, 0⟩, 7, "TORQS_0X7".toList, .torque, .frameDefault, .data⟩
    let acts : List Action :=
      [.receive f ⟨[], true, [.accept 5, .fail]⟩, .restart, .receive f ⟨[], true, []⟩]
    generateFrame (some ⟨0, 0⟩) (some ⟨0, 0⟩) (buildPacket 0x4B 7 [0x5F, 0, 0, 0] 4)
      Sensor.zero 10 = some f ∧
    contents (run localtime (fun _ => none) acts).files (keyPath f.key) =
      "<Time1970-01-01 00:00:00 -> 9.500000Nm\n".toList ∧
    ¬ WellFormed localtime f.key
      (contents (run localtime (fun _ => none) acts).files (keyPath f.key)) := by
  intro localtime f acts
  have hcontents : contents (run localtime (fun _ => none) acts).files (keyPath f.key) =
      "<Time1970-01-01 00:00:00 -> 9.500000Nm\n".toList := by decide +kernel
  refine ⟨by decide +kernel, hcontents, ?_⟩
  rw [hcontents]
  rintro (hnil | ⟨records, -, htext⟩)
  · exact absurd hnil (by decide)
  · have hprefix := List.prefix_append (titleLine f.key.type) records.flatten
    rw [← htext] at hprefix
    exact absurd hprefix (by decide)

end Logging
end Gateway
