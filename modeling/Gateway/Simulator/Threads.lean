import Gateway.Lib.CScan
import Gateway.Packet

/-!
# `client-sensors.c`: the sensor simulator

Each thread of the simulator reads the data file line by line, makes a packet of a line and sends it
on its own connection.  A line is taken apart with `strtok`, which keeps the position where it goes
on in one variable for the whole process.

* `Process` is that variable and the threads, each with its own line buffer; a token is a pointer
  into the buffer it came from, and a step is one call of the C library with the checks after it;
* `run` is any interleaving, `solo` the run of one thread alone;
* `threads_isolated`: threads that find their own position at every call send what they send alone,
  and `strtok_race` shows what happens to others.
-/

namespace Gateway
namespace Simulator

open CText

def lineSize : ℕ := 256
def maxDataSize : ℕ := 12

/-- The separators `" \t\r\n"`. -/
def isDelim (c : Char) : Bool := c ∈ [' ', '\t', '\r', '\n']

/-- A call of `strtoul` and the check after it: the number, if all of the token is one and it is not
too large. -/
def convert (base limit : ℕ) (token : List Char) : Option ℕ :=
  let r := strtoul base token
  if r.erange ∨ r.rest ≠ [] ∨ r.value > limit then none else some r.value

section Machine

variable {ι : Type}

/-- A pointer into the line of a thread. -/
abbrev Pointer (ι : Type) := ι × ℕ

/-- Where `normal_client_thread` stands: before a call of `fgets`, of `strtok` or of `strtoul`, with
what it has read of the line, before `send_all`, or at its end. -/
inductive Place (ι : Type)
  | top
  | line
  | comment (token : Pointer ι)
  | type (token : Pointer ι)
  | nextID (typeValue : ℕ)
  | id (typeValue : ℕ) (token : Pointer ι)
  | nextByte (typeValue idValue : ℕ) (data : List UInt8)
  | byte (typeValue idValue : ℕ) (data : List UInt8) (token : Pointer ι)
  | send (typeValue idValue : ℕ) (data : List UInt8)
  | stopped
  deriving DecidableEq

/-- A thread: its line buffer, its position in the file, its place, and what it has sent. -/
structure Thread (ι : Type) where
  line : List Char
  offset : ℕ
  place : Place ι
  sent : List (List UInt8)
  deriving DecidableEq

/-- The process: the position that `strtok` has saved, and the threads. -/
structure Process (ι : Type) where
  saved : Option (Pointer ι)
  threads : ι → Thread ι

/-- What the check behind the data loop makes of its end: a token is left after twelve bytes or
after an invalid one, and an invalid one has set the length to zero. -/
def afterData (tokenLeft : Bool) (typeValue idValue : ℕ) (data : List UInt8) : Place ι :=
  if tokenLeft ∧ data.length = 0 then .top else .send typeValue idValue data

/-- The condition of the data loop. -/
def dataLoop (tokenLeft : Bool) (typeValue idValue : ℕ) (data : List UInt8) : Place ι :=
  if data.length < maxDataSize then .nextByte typeValue idValue data
  else afterData tokenLeft typeValue idValue data

variable [DecidableEq ι]

namespace Process

/-- The string at a pointer. -/
def string (s : Process ι) (p : Pointer ι) : List Char := stringAt (s.threads p.1).line p.2

def goto (s : Process ι) (i : ι) (place : Place ι) : Process ι :=
  { s with threads := Function.update s.threads i { s.threads i with place := place } }

/-- A call of `strtok` from a pointer, which is the saved one if the argument was `NULL`. -/
def strtok (s : Process ι) : Option (Pointer ι) → Option (Pointer ι) × Process ι
  | none => (none, s)
  | some (j, pos) =>
      let r := CText.strtok isDelim (s.threads j).line pos
      (r.token.map fun start => (j, start),
        { saved := some (j, r.saved)
          threads := Function.update s.threads j { s.threads j with line := r.buffer } })

/-- `fgets`, and `rewind` at the end of the file. -/
def fgets (file : List Char) (s : Process ι) (i : ι) : Process ι :=
  let thread := s.threads i
  let text := fgetsText lineSize (file.drop thread.offset)
  let thread :=
    if text = [] then { thread with offset := 0 }
    else
      { thread with
        line := text ++ '\x00' :: thread.line.drop (text.length + 1)
        offset := thread.offset + text.length
        place := .line }
  { s with threads := Function.update s.threads i thread }

/-- `build_packet` and `send_all`, which may fail. -/
def transmit (s : Process ι) (i : ι) (ok : Bool) (typeValue idValue : ℕ) (data : List UInt8) :
    Process ι :=
  let thread := s.threads i
  let packet := buildPacket (UInt8.ofNat typeValue) (UInt16.ofNat idValue) data
    (UInt16.ofNat data.length)
  let thread :=
    if ok then { thread with place := .top, sent := thread.sent ++ [packet] }
    else { thread with place := .stopped }
  { s with threads := Function.update s.threads i thread }

end Process

/-- One step of a thread; `ok` is how `send_all` goes. -/
def step (file : List Char) (s : Process ι) (i : ι) (ok : Bool) : Process ι :=
  match (s.threads i).place with
  | .top => s.fgets file i
  | .line =>
      match s.strtok (some (i, 0)) with
      | (none, s) => s.goto i .top
      | (some token, s) => s.goto i (.comment token)
  | .comment token =>
      if (s.string token).head? = some '#' then s.goto i .top else s.goto i (.type token)
  | .type token =>
      match convert 16 255 (s.string token) with
      | none => s.goto i .top
      | some typeValue => s.goto i (.nextID typeValue)
  | .nextID typeValue =>
      match s.strtok s.saved with
      | (none, s) => s.goto i .top
      | (some token, s) => s.goto i (.id typeValue token)
  | .id typeValue token =>
      match convert 10 65535 (s.string token) with
      | none => s.goto i .top
      | some idValue => s.goto i (dataLoop true typeValue idValue [])
  | .nextByte typeValue idValue data =>
      match s.strtok s.saved with
      | (none, s) => s.goto i (afterData false typeValue idValue data)
      | (some token, s) => s.goto i (.byte typeValue idValue data token)
  | .byte typeValue idValue data token =>
      match convert 16 255 (s.string token) with
      | none => s.goto i (afterData true typeValue idValue [])
      | some value =>
          s.goto i (dataLoop true typeValue idValue (data ++ [UInt8.ofNat value]))
  | .send typeValue idValue data => s.transmit i ok typeValue idValue data
  | .stopped => s

/-- The start: `strtok` has nothing saved, and the line buffers hold anything. -/
def init (lines : ι → List Char) : Process ι where
  saved := none
  threads i := ⟨lines i, 0, .top, []⟩

/-- A run from a state: steps of the threads in any order. -/
def exec (file : List Char) (s : Process ι) (acts : List (ι × Bool)) : Process ι :=
  acts.foldl (fun s a => step file s a.1 a.2) s

def run (file : List Char) (lines : ι → List Char) (acts : List (ι × Bool)) : Process ι :=
  exec file (init lines) acts

/-- The process after `n` steps of the thread `i`, which runs alone and whose connection holds. -/
def solo (file : List Char) (lines : ι → List Char) (i : ι) (n : ℕ) : Process ι :=
  run file lines (List.replicate n (i, true))

/-! ### A thread that finds its own position -/

namespace Place

/-- The token that a thread has in hand. -/
def token? : Place ι → Option (Pointer ι)
  | .comment token => some token
  | .type token => some token
  | .id _ token => some token
  | .byte _ _ _ token => some token
  | _ => none

/-- The next call is `strtok(NULL, ...)`. -/
def continues : Place ι → Bool
  | .nextID _ => true
  | .nextByte _ _ _ => true
  | _ => false

/-- The next call is one of `strtok`. -/
def tokenises : Place ι → Bool
  | .line => true
  | place => place.continues

/-- The token in hand is one of the thread's own line. -/
def Own (i : ι) (place : Place ι) : Prop := ∀ p ∈ place.token?, p.1 = i

end Place

/-- What a step makes of a thread and of the saved position when that is the thread's own. -/
def Thread.step (file : List Char) (i : ι) (ok : Bool) (thread : Thread ι) (pos : ℕ) :
    Process ι :=
  Simulator.step file ⟨some (i, pos), fun _ => thread⟩ i ok

variable {file : List Char} {i j : ι} {ok : Bool} {s t : Process ι}

/-- A thread whose pointers are its own acts on itself and, when it calls `strtok`, on the saved
position. -/
theorem step_eq (file : List Char) (ok : Bool) {pos : ℕ} (hown : (s.threads i).place.Own i)
    (hcall : (s.threads i).place.continues = true → s.saved = some (i, pos)) :
    step file s i ok =
      ⟨if (s.threads i).place.tokenises then (Thread.step file i ok (s.threads i) pos).saved
        else s.saved,
        Function.update s.threads i ((Thread.step file i ok (s.threads i) pos).threads i)⟩ := by
  unfold Thread.step step
  simp only
  cases hplace : (s.threads i).place with
  | top => simp [Place.tokenises, Place.continues, Process.fgets]
  | line =>
    simp only [Process.strtok, Place.tokenises, if_true]
    cases (CText.strtok isDelim (s.threads i).line 0).token <;> simp [Process.goto]
  | comment token =>
    obtain ⟨k, p⟩ := token
    obtain rfl : k = i := by simpa [Place.Own, Place.token?, hplace] using hown
    by_cases hhash : (stringAt (s.threads k).line p).head? = some '#' <;>
      simp [Process.string, hhash, Process.goto, Place.tokenises, Place.continues]
  | type token =>
    obtain ⟨k, p⟩ := token
    obtain rfl : k = i := by simpa [Place.Own, Place.token?, hplace] using hown
    cases hvalue : convert 16 255 (stringAt (s.threads k).line p) <;>
      simp [Process.string, hvalue, Process.goto, Place.tokenises, Place.continues]
  | nextID typeValue =>
    have hsaved : s.saved = some (i, pos) := hcall (by rw [hplace]; rfl)
    simp only [hsaved, Process.strtok, Place.tokenises, Place.continues, if_true]
    cases (CText.strtok isDelim (s.threads i).line pos).token <;> simp [Process.goto]
  | id typeValue token =>
    obtain ⟨k, p⟩ := token
    obtain rfl : k = i := by simpa [Place.Own, Place.token?, hplace] using hown
    cases hvalue : convert 10 65535 (stringAt (s.threads k).line p) <;>
      simp [Process.string, hvalue, Process.goto, Place.tokenises, Place.continues]
  | nextByte typeValue idValue data =>
    have hsaved : s.saved = some (i, pos) := hcall (by rw [hplace]; rfl)
    simp only [hsaved, Process.strtok, Place.tokenises, Place.continues, if_true]
    cases (CText.strtok isDelim (s.threads i).line pos).token <;> simp [Process.goto]
  | byte typeValue idValue data token =>
    obtain ⟨k, p⟩ := token
    obtain rfl : k = i := by simpa [Place.Own, Place.token?, hplace] using hown
    cases hvalue : convert 16 255 (stringAt (s.threads k).line p) <;>
      simp [Process.string, hvalue, Process.goto, Place.tokenises, Place.continues]
  | send typeValue idValue data => simp [Process.transmit, Place.tokenises, Place.continues]
  | stopped => simp [Place.tokenises, Place.continues]

omit [DecidableEq ι] in
theorem own_afterData (i : ι) (tokenLeft : Bool) (typeValue idValue : ℕ) (data : List UInt8) :
    (afterData tokenLeft typeValue idValue data).Own i := by
  unfold afterData
  split_ifs <;> simp [Place.Own, Place.token?]

omit [DecidableEq ι] in
theorem own_dataLoop (i : ι) (tokenLeft : Bool) (typeValue idValue : ℕ) (data : List UInt8) :
    (dataLoop tokenLeft typeValue idValue data).Own i := by
  unfold dataLoop
  split_ifs
  · simp [Place.Own, Place.token?]
  · exact own_afterData i tokenLeft typeValue idValue data

/-- Such a step leaves the thread with a token of its own, and the saved position is its own. -/
theorem own_step (file : List Char) (ok : Bool) {thread : Thread ι} (hown : thread.place.Own i)
    (pos : ℕ) :
    ((Thread.step file i ok thread pos).threads i).place.Own i ∧
      (Thread.step file i ok thread pos).saved.map Prod.fst = some i := by
  unfold Thread.step step
  simp only
  cases hplace : thread.place with
  | top =>
    simp only [Process.fgets]
    split_ifs <;> simp [hplace, Place.Own, Place.token?]
  | line =>
    simp only [Process.strtok]
    cases (CText.strtok isDelim thread.line 0).token <;>
      simp [Process.goto, Place.Own, Place.token?]
  | comment token =>
    rw [hplace] at hown
    dsimp only
    split_ifs
    · simp [Process.goto, Place.Own, Place.token?]
    · simpa [Process.goto, Place.Own, Place.token?] using hown
  | type token =>
    dsimp only
    split <;> simp [Process.goto, Place.Own, Place.token?]
  | nextID typeValue =>
    simp only [Process.strtok]
    cases (CText.strtok isDelim thread.line pos).token <;>
      simp [Process.goto, Place.Own, Place.token?]
  | id typeValue token =>
    dsimp only
    split
    · simp [Process.goto, Place.Own, Place.token?]
    · simp [Process.goto, own_dataLoop]
  | nextByte typeValue idValue data =>
    simp only [Process.strtok]
    cases (CText.strtok isDelim thread.line pos).token with
    | none => simp [Process.goto, own_afterData]
    | some start => simp [Process.goto, Place.Own, Place.token?]
  | byte typeValue idValue data token =>
    dsimp only
    split <;> simp [Process.goto, own_afterData, own_dataLoop]
  | send typeValue idValue data =>
    simp only [Process.transmit]
    split_ifs <;> simp [Place.Own, Place.token?]
  | stopped => simp [hplace, Place.Own, Place.token?]

/-! ### Isolation -/

/-- If the next call of the thread is `strtok(NULL, ...)`, the saved position is in its own line: it
has made the last call of `strtok` in the process. -/
def OwnCall (s : Process ι) (i : ι) : Prop :=
  (s.threads i).place.continues = true → s.saved.map Prod.fst = some i

instance (s : Process ι) (i : ι) : Decidable (OwnCall s i) := inferInstanceAs (Decidable (_ → _))

/-- Every call along a run is of this kind. -/
def OwnCalls (file : List Char) : Process ι → List (ι × Bool) → Prop
  | _, [] => True
  | s, a :: acts => OwnCall s a.1 ∧ OwnCalls file (step file s a.1 a.2) acts

instance decidableOwnCalls (file : List Char) :
    (s : Process ι) → (acts : List (ι × Bool)) → Decidable (OwnCalls file s acts)
  | _, [] => isTrue trivial
  | s, a :: acts =>
      @instDecidableAnd _ _ (inferInstanceAs (Decidable (OwnCall s a.1)))
        (decidableOwnCalls file (step file s a.1 a.2) acts)

/-- A thread has done what it does in `n` steps alone; when its connection has failed, only what it
has sent is compared. -/
structure Follows (file : List Char) (lines : ι → List Char) (s : Process ι) (i : ι) (n : ℕ) :
    Prop where
  sent : (s.threads i).sent = ((solo file lines i n).threads i).sent
  thread : (s.threads i).place ≠ .stopped → s.threads i = (solo file lines i n).threads i
  saved : (s.threads i).place ≠ .stopped → ∀ p, s.saved = some (i, p) →
    (solo file lines i n).saved = some (i, p)

variable {lines : ι → List Char} {n : ℕ}

theorem solo_succ (file : List Char) (lines : ι → List Char) (i : ι) (n : ℕ) :
    solo file lines i (n + 1) = step file (solo file lines i n) i true := by
  rw [solo, run, exec, List.replicate_succ', List.foldl_concat]
  rfl

omit [DecidableEq ι] in
theorem OwnCall.exists_pos (h : OwnCall s i) :
    ∃ pos, (s.threads i).place.continues = true → s.saved = some (i, pos) := by
  by_cases hcontinues : (s.threads i).place.continues = true
  · obtain ⟨⟨k, pos⟩, hsaved, rfl⟩ := Option.map_eq_some_iff.mp (h hcontinues)
    exact ⟨pos, fun _ => hsaved⟩
  · exact ⟨0, fun hc => absurd hc hcontinues⟩

/-- How `send_all` goes matters only where it is called. -/
theorem thread_step_ok {thread : Thread ι} (h : ∀ a b data, thread.place ≠ .send a b data)
    (ok ok' : Bool) (pos : ℕ) :
    Thread.step file i ok thread pos = Thread.step file i ok' thread pos := by
  unfold Thread.step step
  simp only
  cases hplace : thread.place with
  | send a b data => exact absurd hplace (h a b data)
  | _ => rfl

/-- A step of another thread changes nothing for a thread. -/
theorem Follows.other (h : Follows file lines s i n) (hij : i ≠ j)
    (hown : (s.threads j).place.Own j) (hcall : OwnCall s j) :
    Follows file lines (step file s j ok) i n := by
  obtain ⟨pos, hpos⟩ := hcall.exists_pos
  have hthread : (step file s j ok).threads i = s.threads i := by
    rw [step_eq file ok hown hpos]
    exact Function.update_of_ne hij _ _
  have hsaved : ∀ p, (step file s j ok).saved = some (i, p) → s.saved = some (i, p) := by
    intro p hp
    rw [step_eq file ok hown hpos] at hp
    dsimp only at hp
    split_ifs at hp
    · have hfst := (own_step file ok hown pos).2
      rw [hp] at hfst
      exact absurd (Option.some.inj hfst) hij
    · exact hp
  refine ⟨by rw [hthread]; exact h.sent, fun hp => ?_, fun hp p hsp => ?_⟩
  · rw [hthread] at hp ⊢
    exact h.thread hp
  · rw [hthread] at hp
    exact h.saved hp p (hsaved p hsp)

/-- A step of the thread itself is a step of the thread alone, unless its connection fails. -/
theorem Follows.self (h : Follows file lines s i n) (hown : (s.threads i).place.Own i)
    (hcall : OwnCall s i) : ∃ m, Follows file lines (step file s i ok) i m := by
  by_cases hstopped : (s.threads i).place = .stopped
  · have hsame : step file s i ok = s := by
      unfold step
      rw [hstopped]
    exact ⟨n, by rwa [hsame]⟩
  obtain ⟨pos, hpos⟩ := hcall.exists_pos
  have hthread := h.thread hstopped
  have hs := step_eq file ok hown hpos
  have hpos' : ((solo file lines i n).threads i).place.continues = true →
      (solo file lines i n).saved = some (i, pos) := by
    rw [← hthread]
    exact fun hc => h.saved hstopped pos (hpos hc)
  have hsolo := step_eq file true (by rw [← hthread]; exact hown) hpos'
  rw [← hthread] at hsolo
  by_cases hfails : ok = false ∧ ∃ a b data, (s.threads i).place = .send a b data
  · obtain ⟨rfl, a, b, data, hsend⟩ := hfails
    have hplace : ((step file s i false).threads i).place = .stopped ∧
        ((step file s i false).threads i).sent = (s.threads i).sent := by
      unfold step
      rw [hsend]
      simp [Process.transmit]
    exact ⟨n, hplace.2.trans h.sent, fun hp => absurd hplace.1 hp, fun hp => absurd hplace.1 hp⟩
  · have hok : Thread.step file i ok (s.threads i) pos =
        Thread.step file i true (s.threads i) pos := by
      cases ok with
      | true => rfl
      | false =>
        exact thread_step_ok (fun a b data hsend => hfails ⟨rfl, a, b, data, hsend⟩) _ _ _
    rw [hok] at hs
    refine ⟨n + 1, ?_, fun _ => ?_, fun _ p hp => ?_⟩
    · rw [solo_succ, hs, hsolo]
      simp
    · rw [solo_succ, hs, hsolo]
      simp
    · rw [hs] at hp
      rw [solo_succ, hsolo]
      dsimp only at hp ⊢
      split_ifs at hp ⊢
      · exact hp
      · exact h.saved hstopped p hp

/-- Every thread follows its run alone as long as the calls of `strtok` are of the right kind. -/
theorem follows_exec {acts : List (ι × Bool)} (hown : ∀ i, (s.threads i).place.Own i)
    (hfollows : ∀ i, ∃ n, Follows file lines s i n) (h : OwnCalls file s acts) (i : ι) :
    ∃ n, Follows file lines (exec file s acts) i n := by
  induction acts generalizing s with
  | nil => exact hfollows i
  | cons a acts ih =>
    obtain ⟨j, ok⟩ := a
    obtain ⟨hcall, hcalls⟩ := h
    obtain ⟨pos, hpos⟩ := hcall.exists_pos
    refine ih (fun k => ?_) (fun k => ?_) hcalls
    · show ((step file s j ok).threads k).place.Own k
      rw [step_eq file ok (hown j) hpos]
      by_cases hk : k = j
      · subst hk
        simpa using (own_step file ok (hown k) pos).1
      · simpa [hk] using hown k
    · obtain ⟨n, hn⟩ := hfollows k
      by_cases hk : k = j
      · subst hk
        exact hn.self (hown k) hcall
      · exact ⟨n, hn.other hk (hown j) hcall⟩

theorem sent_goto (s : Process ι) (i j : ι) (place : Place ι) :
    ((s.goto j place).threads i).sent = (s.threads i).sent := by
  by_cases h : i = j
  · subst h
    simp [Process.goto]
  · simp [Process.goto, h]

theorem sent_strtok (s : Process ι) (i : ι) (p : Option (Pointer ι)) :
    ((s.strtok p).2.threads i).sent = (s.threads i).sent := by
  unfold Process.strtok
  split
  · rfl
  · rename_i j pos
    by_cases h : i = j
    · subst h
      simp
    · simp [h]

/-- What has been sent is not taken back. -/
theorem sent_step (file : List Char) (s : Process ι) (i j : ι) (ok : Bool) :
    (s.threads i).sent <+: ((step file s j ok).threads i).sent := by
  have hgoto : ∀ place, (s.threads i).sent <+: ((s.goto j place).threads i).sent := fun place => by
    rw [sent_goto]
  have hstrtok : ∀ {p token : Option (Pointer ι)} {s' : Process ι}, s.strtok p = (token, s') →
      ∀ place, (s.threads i).sent <+: ((s'.goto j place).threads i).sent := by
    intro p token s' hs' place
    rw [sent_goto, ← sent_strtok s i p, hs']
  unfold step
  split
  · unfold Process.fgets
    by_cases h : i = j
    · subst h
      dsimp only
      split_ifs <;> simp
    · simp [h]
  · split <;> (rename_i hs'; exact hstrtok hs' _)
  · split_ifs <;> exact hgoto _
  · split <;> exact hgoto _
  · split <;> (rename_i hs'; exact hstrtok hs' _)
  · split <;> exact hgoto _
  · split <;> (rename_i hs'; exact hstrtok hs' _)
  · split <;> exact hgoto _
  · unfold Process.transmit
    by_cases h : i = j
    · subst h
      dsimp only
      split_ifs <;> simp
    · simp [h]
  · exact List.prefix_refl _

theorem sent_solo_isPrefix (file : List Char) (lines : ι → List Char) (i : ι) {n m : ℕ}
    (h : n ≤ m) :
    ((solo file lines i n).threads i).sent <+: ((solo file lines i m).threads i).sent := by
  induction m, h using Nat.le_induction with
  | base => exact List.prefix_refl _
  | succ m _ ih =>
    rw [solo_succ]
    exact ih.trans (sent_step file _ i i true)

/-- **When the threads do not disturb each other.**  In every run of any number of threads on one
file, in whatever order they step, in which each call of `strtok(NULL, ...)` finds the position that
the same thread's last call has saved: what a thread has sent is, at every moment, a prefix of what
it sends when it runs alone. -/
theorem threads_isolated (file : List Char) (lines : ι → List Char) (acts : List (ι × Bool))
    (h : OwnCalls file (init lines) acts) (i : ι) :
    ∃ n, ∀ m, n ≤ m →
      ((run file lines acts).threads i).sent <+: ((solo file lines i m).threads i).sent := by
  have hown : ∀ i, ((init lines).threads i).place.Own i := by
    intro i
    simp [init, Place.Own, Place.token?]
  obtain ⟨n, hn⟩ := follows_exec hown (fun i => ⟨0, rfl, fun _ => rfl, fun _ p hp => hp⟩) h i
  refine ⟨n, fun m hm => ?_⟩
  rw [run, hn.sent]
  exact sent_solo_isPrefix file lines i hm

/-- Two threads that read their lines at the same time and take them apart one after the other. -/
theorem threads_isolated_turns :
    let file := "4B 300 5F 00 00 00\n".toList
    let lines : Bool → List Char := fun _ => List.replicate lineSize '\x00'
    let acts : List (Bool × Bool) :=
      [(false, true), (true, true)] ++ List.replicate 15 (false, true) ++
        List.replicate 15 (true, true)
    OwnCalls file (init lines) acts ∧
    (∀ i, ((run file lines acts).threads i).sent =
      [buildPacket 0x4B 300 [0x5F, 0x00, 0x00, 0x00] 4]) ∧
    ∀ i, ∃ n, ∀ m, n ≤ m →
      ((run file lines acts).threads i).sent <+: ((solo file lines i m).threads i).sent := by
  intro file lines acts
  have hcalls : OwnCalls file (init lines) acts := by decide +kernel
  exact ⟨hcalls, by decide +kernel, threads_isolated file lines acts hcalls⟩

/-- Two threads on a file with one line.  Each has called `strtok(line, ...)` when the first one
goes on: it takes the id from the line of the second one, which then takes the first data byte for
its id, and the first one goes on behind it.  Its packet has three data bytes instead of four, and
no run alone begins with it. -/
theorem strtok_race :
    let file := "4B 300 5F 00 00 00\n".toList
    let lines : Bool → List Char := fun _ => List.replicate lineSize '\x00'
    let acts : List (Bool × Bool) :=
      [(false, true), (false, true), (true, true), (true, true)] ++
        List.replicate 4 (false, true) ++ List.replicate 3 (true, true) ++
        List.replicate 8 (false, true)
    ((run file lines acts).threads false).sent = [buildPacket 0x4B 300 [0x00, 0x00, 0x00] 3] ∧
    ((solo file lines false 16).threads false).sent =
      [buildPacket 0x4B 300 [0x5F, 0x00, 0x00, 0x00] 4] ∧
    ∀ n, ¬ ((run file lines acts).threads false).sent <+:
      ((solo file lines false n).threads false).sent := by
  intro file lines acts
  have hrun : ((run file lines acts).threads false).sent =
      [buildPacket 0x4B 300 [0x00, 0x00, 0x00] 3] := by decide +kernel
  have hsolo : ((solo file lines false 16).threads false).sent =
      [buildPacket 0x4B 300 [0x5F, 0x00, 0x00, 0x00] 4] := by decide +kernel
  have hfew : ∀ n < 16, ((solo file lines false n).threads false).sent = [] := by decide +kernel
  refine ⟨hrun, hsolo, fun n hn => ?_⟩
  rw [hrun] at hn
  by_cases hlt : n < 16
  · rw [hfew n hlt] at hn
    exact absurd hn (by decide)
  · have hmono := sent_solo_isPrefix file lines false (not_lt.mp hlt)
    rw [hsolo] at hmono
    obtain ⟨rest, hrest⟩ := hmono
    rw [← hrest, List.singleton_append, List.cons_prefix_cons] at hn
    exact absurd hn.1 (by decide +kernel)

end Machine

end Simulator
end Gateway
