import Gateway.Acquiring
import Gateway.Simulator.Threads

/-!
# What the threads of the simulator send is framed

The threads disturb each other through the position that `strtok` has saved, and a packet may then
hold an id or data of another line.  The data is collected in a buffer of the thread's own, though,
so that every packet has the format and no more data bytes than the device takes, whatever the
threads do to each other: the device reads from each connection the packets that were sent on it.

* `Place.Short`: a thread never has more than twelve data bytes;
* `packets_framed`: what a handler of `acquiringd` forwards of a thread's connection.
-/

namespace Gateway
namespace Simulator

open Acquiring PrefixCode Segmented

section Framing

variable {ι : Type}

/-- The data that a thread has collected fits: there is room for a byte before the next one is read,
and a packet has at most twelve. -/
def Place.Short : Place ι → Prop
  | .nextByte _ _ data => data.length < maxDataSize
  | .byte _ _ data _ => data.length < maxDataSize
  | .send _ _ data => data.length ≤ maxDataSize
  | _ => True

/-- All packets that a thread has sent have the format. -/
structure Framed (thread : Thread ι) : Prop where
  short : thread.place.Short
  sent : ∀ p ∈ thread.sent, IsPacket p

theorem short_afterData (tokenLeft : Bool) (typeValue idValue : ℕ) {data : List UInt8}
    (h : data.length ≤ maxDataSize) :
    (afterData (ι := ι) tokenLeft typeValue idValue data).Short := by
  unfold afterData
  split_ifs
  · trivial
  · exact h

theorem short_dataLoop (tokenLeft : Bool) (typeValue idValue : ℕ) {data : List UInt8}
    (h : data.length ≤ maxDataSize) :
    (dataLoop (ι := ι) tokenLeft typeValue idValue data).Short := by
  unfold dataLoop
  split_ifs with hlt
  · exact hlt
  · exact short_afterData tokenLeft typeValue idValue h

/-- `build_packet` with at most twelve bytes. -/
theorem isPacket_of_short (typeValue idValue : ℕ) {data : List UInt8}
    (h : data.length ≤ maxDataSize) :
    IsPacket (buildPacket (UInt8.ofNat typeValue) (UInt16.ofNat idValue) data
      (UInt16.ofNat data.length)) := by
  have hlen : (UInt16.ofNat data.length).toNat = data.length := by
    rw [maxDataSize] at h
    rw [UInt16.toNat_ofNat']
    omega
  apply isPacket_buildPacket
  · rw [hlen]
  · rw [hlen]
    exact h

variable [DecidableEq ι] {s : Process ι}

/-- Going to a place concerns one thread only. -/
theorem framed_goto (h : ∀ j, Framed (s.threads j)) (i : ι) {place : Place ι}
    (hplace : place.Short) (j : ι) : Framed ((s.goto i place).threads j) := by
  unfold Process.goto
  by_cases hj : j = i
  · subst hj
    simp only [Function.update_self]
    exact ⟨hplace, (h j).sent⟩
  · simp only [Function.update_of_ne hj]
    exact h j

/-- A call of `strtok` may write into any line, and nothing else. -/
theorem framed_strtok (h : ∀ j, Framed (s.threads j)) (p : Option (Pointer ι)) (j : ι) :
    Framed ((s.strtok p).2.threads j) := by
  unfold Process.strtok
  split
  · exact h j
  · rename_i k pos
    by_cases hj : j = k
    · subst hj
      simp only [Function.update_self]
      exact ⟨(h j).short, (h j).sent⟩
    · simp only [Function.update_of_ne hj]
      exact h j

theorem framed_fgets (file : List Char) (h : ∀ j, Framed (s.threads j)) (i j : ι)
    (htop : (s.threads i).place = .top) : Framed ((s.fgets file i).threads j) := by
  unfold Process.fgets
  by_cases hj : j = i
  · subst hj
    simp only [Function.update_self]
    split_ifs
    · exact ⟨by rw [htop]; trivial, (h j).sent⟩
    · exact ⟨trivial, (h j).sent⟩
  · simp only [Function.update_of_ne hj]
    exact h j

theorem framed_transmit (h : ∀ j, Framed (s.threads j)) (i j : ι) (ok : Bool)
    (typeValue idValue : ℕ) {data : List UInt8} (hdata : data.length ≤ maxDataSize) :
    Framed ((s.transmit i ok typeValue idValue data).threads j) := by
  unfold Process.transmit
  by_cases hj : j = i
  · subst hj
    simp only [Function.update_self]
    split_ifs
    · refine ⟨trivial, fun p hp => ?_⟩
      rcases List.mem_append.mp hp with hp | hp
      · exact (h j).sent p hp
      · rw [List.mem_singleton.mp hp]
        exact isPacket_of_short typeValue idValue hdata
    · exact ⟨trivial, (h j).sent⟩
  · simp only [Function.update_of_ne hj]
    exact h j

/-- A step of any thread, whatever the others have done to its line. -/
theorem framed_step (file : List Char) (h : ∀ j, Framed (s.threads j)) (i : ι) (ok : Bool)
    (j : ι) : Framed ((step file s i ok).threads j) := by
  have hshort := (h i).short
  have hgoto : ∀ {place : Place ι}, place.Short → Framed ((s.goto i place).threads j) :=
    fun hplace => framed_goto h i hplace j
  have hstrtok : ∀ {p token : Option (Pointer ι)} {s' : Process ι}, s.strtok p = (token, s') →
      ∀ {place : Place ι}, place.Short → Framed ((s'.goto i place).threads j) := by
    intro p token s' hs' place hplace
    refine framed_goto (fun k => ?_) i hplace j
    have hframed := framed_strtok h p k
    rwa [hs'] at hframed
  unfold step
  split
  · rename_i htop
    exact framed_fgets file h i j htop
  · split
    · rename_i hs'
      exact hstrtok hs' trivial
    · rename_i hs'
      exact hstrtok hs' trivial
  · split_ifs
    · exact hgoto trivial
    · exact hgoto trivial
  · split
    · exact hgoto trivial
    · exact hgoto trivial
  · split
    · rename_i hs'
      exact hstrtok hs' trivial
    · rename_i hs'
      exact hstrtok hs' trivial
  · split
    · exact hgoto trivial
    · exact hgoto (short_dataLoop _ _ _ (Nat.zero_le _))
  · rename_i hplace
    rw [hplace] at hshort
    split
    · rename_i hs'
      exact hstrtok hs' (short_afterData _ _ _ (Nat.le_of_lt hshort))
    · rename_i hs'
      exact hstrtok hs' hshort
  · rename_i hplace
    rw [hplace] at hshort
    split
    · exact hgoto (short_afterData _ _ _ (Nat.zero_le _))
    · refine hgoto (short_dataLoop _ _ _ ?_)
      rw [List.length_append, List.length_singleton]
      exact hshort
  · rename_i hplace
    rw [hplace] at hshort
    exact framed_transmit h i j ok _ _ hshort
  · exact h j

theorem framed_run (file : List Char) (lines : ι → List Char) (acts : List (ι × Bool)) (i : ι) :
    Framed ((run file lines acts).threads i) := by
  unfold run exec
  induction acts using List.reverseRecOn generalizing i with
  | nil => exact ⟨trivial, nofun⟩
  | append_singleton acts a ih =>
    rw [List.foldl_concat]
    exact framed_step file ih a.1 a.2 i

/-- **The framing survives the race on `strtok`.**  In every run of any number of threads on one
file, in whatever order they step and however they disturb each other: every packet that a thread
has sent has the format, and a handler of `acquiringd` that receives what the thread has sent, cut
up in any way and followed by the packet at which its connection broke, if it did, forwards exactly
the packets that the thread has sent. -/
theorem packets_framed (file : List Char) (lines : ι → List Char) (acts : List (ι × Bool)) (i : ι) :
    (∀ p ∈ ((run file lines acts).threads i).sent, IsPacket p) ∧
    ∀ (buf part q : List UInt8) (es : List (Event UInt8)), buf.length = packetSize → NoExit es →
      IsPacket q → part <+: q → part ≠ q →
      content es = ((run file lines acts).threads i).sent.flatten ++ part →
      socketConnectionHandler buf es = ((run file lines acts).threads i).sent := by
  have hsent := (framed_run file lines acts i).sent
  refine ⟨hsent, fun buf part q es hbuf hx hq hpart hne hes => ?_⟩
  refine (socketConnectionHandler_reading hbuf hx).unique isPrefixCode_isPacket
    ⟨hsent, part, hes, ?_⟩
  intro p hp hpre
  -- a packet at the start of `part` would be a proper prefix of `q`
  obtain rfl := isPrefixCode_isPacket.eq_of_isPrefix p q hp hq (hpre.trans hpart)
  exact hne (hpart.eq_of_length (le_antisymm hpart.length_le hpre.length_le))

/-- Two threads that take each other's tokens: the first one sends a packet with three data bytes,
and its connection breaks in the middle of the next one.  The device reads the packet as it was
sent. -/
theorem packets_framed_race :
    let file := "4B 300 5F 00 00 00\n".toList
    let lines : Bool → List Char := fun _ => List.replicate lineSize '\x00'
    let acts : List (Bool × Bool) :=
      [(false, true), (false, true), (true, true), (true, true)] ++
        List.replicate 4 (false, true) ++ List.replicate 3 (true, true) ++
        List.replicate 8 (false, true)
    ((run file lines acts).threads false).sent = [buildPacket 0x4B 300 [0x00, 0x00, 0x00] 3] ∧
      socketConnectionHandler (List.replicate packetSize 0)
        [.data 0xAA [0x4B, 0x2C], .data 0x01 [3, 0, 0, 0], .eintr false, .data 0 [0xAA, 0x4B]] =
        ((run file lines acts).threads false).sent := by
  intro file lines acts
  have hsent : ((run file lines acts).threads false).sent =
      [buildPacket 0x4B 300 [0x00, 0x00, 0x00] 3] := by decide +kernel
  have hframed := (packets_framed file lines acts false).2 (List.replicate packetSize 0)
    [0xAA, 0x4B] (buildPacket 0x4B 300 [] 0)
    [.data 0xAA [0x4B, 0x2C], .data 0x01 [3, 0, 0, 0], .eintr false, .data 0 [0xAA, 0x4B]]
    (by decide) (by decide) (isPacket_buildPacket _ _ (by decide) (by decide)) (by decide)
    (by decide)
  exact ⟨hsent, hframed (by rw [hsent]; decide)⟩

end Framing

end Simulator
end Gateway
