import Gateway.Packet
import Gateway.Lib.Segmented

/-!
# `acquiring_d.c`: from a connection to packets

One thread serves each sensor connection.  It receives a header, checks it, receives the data the
header announces into the same buffer and forwards the packet; the first failed check, end of
stream or error ends the thread.

`handlerIteration` is one pass of the loop in `socketConnectionHandler`; its result is the packet
given to `forwardPacket`, or nothing when the pass leaves the loop.  `exitRQ` is seen through the
interruptions that report it.

`socketConnectionHandler_reading` says that the forwarded packets are the reading of the delivered
bytes as packets, however `recv` cuts them up.
-/

namespace Gateway
namespace Acquiring

open LittleEndian PrefixCode Segmented

/-- Store `bs` into `buffer` from `offset` on. -/
def overwrite (buffer : List UInt8) (offset : ℕ) (bs : List UInt8) : List UInt8 :=
  buffer.take offset ++ bs ++ buffer.drop (offset + bs.length)

/-- `socket_recv`: receive `len` bytes to `&buffer[offset]`. -/
def socketRecv (buffer : List UInt8) (offset len : ℕ) (es : List (Event UInt8)) :
    Outcome × List UInt8 × List (Event UInt8) :=
  let r := recvAll len es
  (r.outcome, overwrite buffer offset r.stored, r.rest)

/-- What a pass of the handler's loop leaves: the packet it forwards if it does not leave the
loop, the buffer, and the connection. -/
structure Pass where
  packet : Option (List UInt8)
  msgBuffer : List UInt8
  rest : List (Event UInt8)

/-- The second half of a pass, once the header is in the buffer: check it, receive the data it
announces, forward. -/
def handlePayload (msgBuffer : List UInt8) (es : List (Event UInt8)) : Pass :=
  if msgBuffer.getD 0 0 ≠ syncByte then ⟨none, msgBuffer, es⟩
  else
    let msgDataLen := word16 (msgBuffer.getD 4 0) (msgBuffer.getD 5 0)
    if msgDataLen.toNat > packetDataFieldsSize then ⟨none, msgBuffer, es⟩
    else if msgDataLen > 0 then
      match socketRecv msgBuffer packetHeaderFieldsSize msgDataLen.toNat es with
      | (.complete, buf, es) =>
          ⟨some (buf.take (packetHeaderFieldsSize + msgDataLen.toNat)), buf, es⟩
      | (_, buf, es) => ⟨none, buf, es⟩
    else ⟨some (msgBuffer.take (packetHeaderFieldsSize + msgDataLen.toNat)), msgBuffer, es⟩

/-- One pass of the loop of `socketConnectionHandler`. -/
def handlerIteration (msgBuffer : List UInt8) (es : List (Event UInt8)) : Pass :=
  match socketRecv msgBuffer 0 packetHeaderFieldsSize es with
  | (.complete, buf, es) => handlePayload buf es
  | (_, buf, es) => ⟨none, buf, es⟩

/-- At most `n` passes of the loop: the packets forwarded. -/
def handlerLoop : ℕ → List UInt8 → List (Event UInt8) → List (List UInt8)
  | 0, _, _ => []
  | n + 1, buf, es =>
      match handlerIteration buf es with
      | ⟨none, _, _⟩ => []
      | ⟨some p, buf', es'⟩ => p :: handlerLoop n buf' es'

/-- `socketConnectionHandler`: the packets it forwards, in order. A pass that goes on has consumed
a byte, so the number of bytes delivered bounds the number of passes; see
`socketConnectionHandler_eq`. -/
def socketConnectionHandler (msgBuffer : List UInt8) (es : List (Event UInt8)) :
    List (List UInt8) :=
  handlerLoop ((content es).length + 1) msgBuffer es

/-! ### One pass -/

theorem length_overwrite {buffer bs : List UInt8} {offset : ℕ}
    (h : offset + bs.length ≤ buffer.length) :
    (overwrite buffer offset bs).length = buffer.length := by
  simp only [overwrite, List.length_append, List.length_take, List.length_drop]
  omega

theorem take_overwrite {buffer : List UInt8} {offset : ℕ} (ho : offset ≤ buffer.length)
    (bs : List UInt8) :
    (overwrite buffer offset bs).take (offset + bs.length) = buffer.take offset ++ bs := by
  have hlen : (buffer.take offset ++ bs).length = offset + bs.length := by
    rw [List.length_append, List.length_take, Nat.min_eq_left ho]
  rw [overwrite, ← hlen, List.take_left']
  rfl

theorem exists_six {l : List UInt8} (h : l.length = 6) :
    ∃ b₀ b₁ b₂ b₃ b₄ b₅, l = [b₀, b₁, b₂, b₃, b₄, b₅] := by
  match l, h with
  | [b₀, b₁, b₂, b₃, b₄, b₅], _ => exact ⟨b₀, b₁, b₂, b₃, b₄, b₅, rfl⟩

theorem socketRecv_eq (buf : List UInt8) (offset len : ℕ) (es : List (Event UInt8)) :
    socketRecv buf offset len es =
      ((recvAll len es).outcome, overwrite buf offset (recvAll len es).stored,
        (recvAll len es).rest) := rfl

/-- A header that does not come in full ends the loop. -/
theorem handlerIteration_of_ne_complete {es : List (Event UInt8)}
    (h : (recvAll packetHeaderFieldsSize es).outcome ≠ .complete) (buf : List UInt8) :
    (handlerIteration buf es).packet = none := by
  rw [handlerIteration, socketRecv_eq]
  cases ho : (recvAll packetHeaderFieldsSize es).outcome with
  | complete => exact absurd ho h
  | closed => rfl
  | failed => rfl

/-- Six bytes that come in full are the front of the buffer for the rest of the pass. -/
theorem handlerIteration_of_complete {es : List (Event UInt8)}
    (h : (recvAll packetHeaderFieldsSize es).outcome = .complete) (buf : List UInt8) :
    ∃ b₀ b₁ b₂ b₃ b₄ b₅ es₁, content es = [b₀, b₁, b₂, b₃, b₄, b₅] ++ content es₁ ∧
      (NoExit es → NoExit es₁) ∧
      handlerIteration buf es =
        handlePayload ([b₀, b₁, b₂, b₃, b₄, b₅] ++ buf.drop packetHeaderFieldsSize) es₁ := by
  obtain ⟨hle, hstored, hrest⟩ := recvAll_of_complete h
  have hlen : ((content es).take packetHeaderFieldsSize).length = 6 := by
    rw [List.length_take, Nat.min_eq_left hle]
    rfl
  obtain ⟨b₀, b₁, b₂, b₃, b₄, b₅, hb⟩ := exists_six hlen
  refine ⟨b₀, b₁, b₂, b₃, b₄, b₅, (recvAll packetHeaderFieldsSize es).rest, ?_, noExit_rest, ?_⟩
  · rw [hrest, ← hb, List.take_append_drop]
  · rw [handlerIteration, socketRecv_eq, h, hstored, hb]
    rfl

section Payload

variable (b₁ b₂ b₃ b₄ b₅ : UInt8) (tail : List UInt8) (es : List (Event UInt8))

theorem handlePayload_bad_sync {b₀ : UInt8} (h : b₀ ≠ syncByte) :
    (handlePayload ([b₀, b₁, b₂, b₃, b₄, b₅] ++ tail) es).packet = none := by
  have h' : ([b₀, b₁, b₂, b₃, b₄, b₅] ++ tail).getD 0 0 ≠ syncByte := h
  rw [handlePayload, if_pos h']

/-- With the right sync byte, the length decides what happens next. -/
theorem handlePayload_eq :
    handlePayload ([syncByte, b₁, b₂, b₃, b₄, b₅] ++ tail) es =
      if packetDataFieldsSize < value [b₄, b₅] then
        ⟨none, [syncByte, b₁, b₂, b₃, b₄, b₅] ++ tail, es⟩
      else if 0 < word16 b₄ b₅ then
        match socketRecv ([syncByte, b₁, b₂, b₃, b₄, b₅] ++ tail) packetHeaderFieldsSize
          (value [b₄, b₅]) es with
        | (.complete, buf, es) =>
            ⟨some (buf.take (packetHeaderFieldsSize + value [b₄, b₅])), buf, es⟩
        | (_, buf, es) => ⟨none, buf, es⟩
      else
        ⟨some (([syncByte, b₁, b₂, b₃, b₄, b₅] ++ tail).take
            (packetHeaderFieldsSize + value [b₄, b₅])),
          [syncByte, b₁, b₂, b₃, b₄, b₅] ++ tail, es⟩ := by
  rw [← word16_toNat, handlePayload, if_neg (by simp)]
  rfl

theorem handlePayload_long (h : packetDataFieldsSize < value [b₄, b₅]) :
    (handlePayload ([syncByte, b₁, b₂, b₃, b₄, b₅] ++ tail) es).packet = none := by
  rw [handlePayload_eq, if_pos h]

theorem word16_pos_iff : 0 < word16 b₄ b₅ ↔ 0 < value [b₄, b₅] := by
  rw [UInt16.lt_iff_toNat_lt, word16_toNat]
  rfl

theorem handlePayload_short (hle : ¬ packetDataFieldsSize < value [b₄, b₅])
    (h : (recvAll (value [b₄, b₅]) es).outcome ≠ .complete) :
    (handlePayload ([syncByte, b₁, b₂, b₃, b₄, b₅] ++ tail) es).packet = none := by
  have hpos : 0 < value [b₄, b₅] := by
    by_contra h0
    rw [Nat.eq_zero_of_not_pos h0] at h
    exact h (by rw [recvAll_zero])
  rw [handlePayload_eq, if_neg hle, if_pos ((word16_pos_iff b₄ b₅).mpr hpos), socketRecv_eq]
  cases ho : (recvAll (value [b₄, b₅]) es).outcome with
  | complete => exact absurd ho h
  | closed => rfl
  | failed => rfl

/-- A good header whose data comes in full: the packet is forwarded as it was sent. -/
theorem handlePayload_packet (htail : tail.length = packetDataFieldsSize)
    (hle : ¬ packetDataFieldsSize < value [b₄, b₅])
    (h : (recvAll (value [b₄, b₅]) es).outcome = .complete) :
    ∃ p, (handlePayload ([syncByte, b₁, b₂, b₃, b₄, b₅] ++ tail) es).packet = some p ∧
      IsPacket p ∧
      [syncByte, b₁, b₂, b₃, b₄, b₅] ++ content es =
        p ++ content (handlePayload ([syncByte, b₁, b₂, b₃, b₄, b₅] ++ tail) es).rest ∧
      (handlePayload ([syncByte, b₁, b₂, b₃, b₄, b₅] ++ tail) es).msgBuffer.length = packetSize ∧
      (NoExit es → NoExit (handlePayload ([syncByte, b₁, b₂, b₃, b₄, b₅] ++ tail) es).rest) := by
  obtain ⟨hle', hstored, hrest⟩ := recvAll_of_complete h
  have hbuf : ([syncByte, b₁, b₂, b₃, b₄, b₅] ++ tail).length = packetSize := by
    rw [List.length_append, htail]
    rfl
  by_cases hpos : 0 < value [b₄, b₅]
  · have hdata : (recvAll (value [b₄, b₅]) es).stored.length = value [b₄, b₅] := by
      rw [hstored, List.length_take, Nat.min_eq_left hle']
    have hfit : packetHeaderFieldsSize + (recvAll (value [b₄, b₅]) es).stored.length ≤
        ([syncByte, b₁, b₂, b₃, b₄, b₅] ++ tail).length := by
      rw [hdata, hbuf]
      exact Nat.add_le_add_left (not_lt.mp hle) _
    have htake := take_overwrite
      (show packetHeaderFieldsSize ≤ ([syncByte, b₁, b₂, b₃, b₄, b₅] ++ tail).length by
        rw [hbuf]; decide)
      (recvAll (value [b₄, b₅]) es).stored
    rw [hdata] at htake
    rw [handlePayload_eq, if_neg hle, if_pos ((word16_pos_iff b₄ b₅).mpr hpos), socketRecv_eq, h]
    refine ⟨_, rfl, ?_, ?_, ?_, noExit_rest⟩
    · rw [htake]
      exact ⟨b₁, b₂, b₃, b₄, b₅, _, rfl, hdata, hdata.trans_le (not_lt.mp hle)⟩
    · rw [htake]
      simp only [hrest, hstored]
      rw [List.append_assoc, List.take_append_drop]
      rfl
    · simp only [length_overwrite hfit, hbuf]
  · -- a heartbeat: the header is the packet
    have hzero : value [b₄, b₅] = 0 := Nat.eq_zero_of_not_pos hpos
    rw [handlePayload_eq, if_neg hle, if_neg (fun hw => hpos ((word16_pos_iff b₄ b₅).mp hw)), hzero]
    exact ⟨_, rfl, ⟨b₁, b₂, b₃, b₄, b₅, [], rfl, hzero.symm, Nat.zero_le _⟩, rfl, hbuf, id⟩

end Payload

/-- A pass that goes on forwards the packet at the front of the connection and consumes it. -/
theorem handlerIteration_some {buf p : List UInt8} {es : List (Event UInt8)}
    (hbuf : buf.length = packetSize) (h : (handlerIteration buf es).packet = some p) :
    IsPacket p ∧ content es = p ++ content (handlerIteration buf es).rest ∧
      (handlerIteration buf es).msgBuffer.length = packetSize ∧
      (NoExit es → NoExit (handlerIteration buf es).rest) := by
  by_cases hc : (recvAll packetHeaderFieldsSize es).outcome = .complete
  swap
  · rw [handlerIteration_of_ne_complete hc] at h
    cases h
  obtain ⟨b₀, b₁, b₂, b₃, b₄, b₅, es₁, hcont, hx, heq⟩ := handlerIteration_of_complete hc buf
  have htail : (buf.drop packetHeaderFieldsSize).length = packetDataFieldsSize := by
    rw [List.length_drop, hbuf]
    rfl
  rw [heq] at h ⊢
  by_cases hsync : b₀ = syncByte
  swap
  · rw [handlePayload_bad_sync b₁ b₂ b₃ b₄ b₅ _ es₁ hsync] at h
    cases h
  subst hsync
  by_cases hlong : packetDataFieldsSize < value [b₄, b₅]
  · rw [handlePayload_long b₁ b₂ b₃ b₄ b₅ _ es₁ hlong] at h
    cases h
  by_cases hc₁ : (recvAll (value [b₄, b₅]) es₁).outcome = .complete
  swap
  · rw [handlePayload_short b₁ b₂ b₃ b₄ b₅ _ es₁ hlong hc₁] at h
    cases h
  obtain ⟨q, hq, hpacket, hcont₁, hlen, hx₁⟩ :=
    handlePayload_packet b₁ b₂ b₃ b₄ b₅ _ es₁ htail hlong hc₁
  rw [hq] at h
  cases h
  exact ⟨hpacket, hcont.trans hcont₁, hlen, fun h => hx₁ (hx h)⟩

/-- A pass leaves the loop only when the connection does not start with a packet. -/
theorem handlerIteration_none {buf : List UInt8} {es : List (Event UInt8)}
    (hbuf : buf.length = packetSize) (hx : NoExit es)
    (h : (handlerIteration buf es).packet = none) (p : List UInt8) (hp : IsPacket p) :
    ¬ p <+: content es := by
  rintro ⟨t, ht⟩
  have hc : (recvAll packetHeaderFieldsSize es).outcome = .complete := by
    rw [recvAll_complete_iff hx, ← ht, List.length_append]
    exact hp.header_le.trans (Nat.le_add_right _ _)
  obtain ⟨c₀, c₁, c₂, c₃, c₄, c₅, es₁, hcont, hx₁, heq⟩ := handlerIteration_of_complete hc buf
  have htail : (buf.drop packetHeaderFieldsSize).length = packetDataFieldsSize := by
    rw [List.length_drop, hbuf]
    rfl
  obtain ⟨b₁, b₂, b₃, b₄, b₅, d, rfl, hd, hle⟩ := hp
  -- the header received is the header of `p`, so the data of `p` is what comes next
  rw [hcont] at ht
  simp only [List.cons_append, List.nil_append, List.cons.injEq] at ht
  obtain ⟨rfl, rfl, rfl, rfl, rfl, rfl, hdata⟩ := ht
  rw [heq] at h
  have hlong : ¬ packetDataFieldsSize < value [b₄, b₅] := by
    rw [← hd]
    exact not_lt.mpr hle
  have hc₁ : (recvAll (value [b₄, b₅]) es₁).outcome = .complete := by
    rw [recvAll_complete_iff (hx₁ hx), ← hdata, List.length_append, hd]
    exact Nat.le_add_right _ _
  obtain ⟨q, hq, -⟩ := handlePayload_packet b₁ b₂ b₃ b₄ b₅ _ es₁ htail hlong hc₁
  rw [hq] at h
  cases h

/-! ### The loop -/

theorem handlerLoop_succ (n : ℕ) (buf : List UInt8) (es : List (Event UInt8)) :
    handlerLoop (n + 1) buf es =
      match (handlerIteration buf es).packet with
      | none => []
      | some p =>
          p :: handlerLoop n (handlerIteration buf es).msgBuffer
            (handlerIteration buf es).rest := by
  rw [handlerLoop]
  rcases handlerIteration buf es with ⟨_ | p, buf', es'⟩ <;> rfl

/-- A pass that goes on leaves fewer bytes to come. -/
theorem length_content_rest_lt {buf p : List UInt8} {es : List (Event UInt8)}
    (hbuf : buf.length = packetSize) (h : (handlerIteration buf es).packet = some p) :
    (content (handlerIteration buf es).rest).length < (content es).length := by
  obtain ⟨hp, hcont, -⟩ := handlerIteration_some hbuf h
  have hpos : 0 < p.length := lt_of_lt_of_le (by decide) hp.header_le
  rw [hcont, List.length_append]
  omega

/-- More passes than bytes to come make no difference. -/
theorem handlerLoop_eq_of_lt {n m : ℕ} {buf : List UInt8} {es : List (Event UInt8)}
    (hbuf : buf.length = packetSize) (hn : (content es).length < n) (hm : (content es).length < m) :
    handlerLoop n buf es = handlerLoop m buf es := by
  induction n generalizing m buf es with
  | zero => exact absurd hn (Nat.not_lt_zero _)
  | succ n ih =>
    obtain ⟨k, rfl⟩ : ∃ k, m = k + 1 := ⟨m - 1, by omega⟩
    rw [handlerLoop_succ, handlerLoop_succ]
    cases h : (handlerIteration buf es).packet with
    | none => rfl
    | some p =>
      have hlt := length_content_rest_lt hbuf h
      have hrec : handlerLoop n (handlerIteration buf es).msgBuffer (handlerIteration buf es).rest =
          handlerLoop k (handlerIteration buf es).msgBuffer (handlerIteration buf es).rest :=
        ih (handlerIteration_some hbuf h).2.2.1 (by omega) (by omega)
      simp only [hrec]

/-- The handler is the loop it models: one pass, and the handler again if the pass goes on. -/
theorem socketConnectionHandler_eq {buf : List UInt8} (hbuf : buf.length = packetSize)
    (es : List (Event UInt8)) :
    socketConnectionHandler buf es =
      match (handlerIteration buf es).packet with
      | none => []
      | some p =>
          p :: socketConnectionHandler (handlerIteration buf es).msgBuffer
            (handlerIteration buf es).rest := by
  rw [socketConnectionHandler, handlerLoop_succ]
  cases h : (handlerIteration buf es).packet with
  | none => rfl
  | some p =>
    have hlt := length_content_rest_lt hbuf h
    simp only [socketConnectionHandler]
    rw [handlerLoop_eq_of_lt (handlerIteration_some hbuf h).2.2.1 hlt (Nat.lt_succ_self _)]

/-- The forwarded packets are the reading of the delivered bytes. -/
theorem socketConnectionHandler_reading {buf : List UInt8} {es : List (Event UInt8)}
    (hbuf : buf.length = packetSize) (hx : NoExit es) :
    Reading IsPacket (content es) (socketConnectionHandler buf es) := by
  induction hn : (content es).length using Nat.strong_induction_on generalizing buf es with
  | _ n ih =>
    rw [socketConnectionHandler_eq hbuf]
    cases h : (handlerIteration buf es).packet with
    | none => exact reading_nil (handlerIteration_none hbuf hx h)
    | some p =>
      obtain ⟨hp, hcont, hbuf', hx'⟩ := handlerIteration_some hbuf h
      have hlt := length_content_rest_lt hbuf h
      have hread := ih _ (hn ▸ hlt) hbuf' (hx' hx) rfl
      rw [hcont]
      exact hread.cons hp

/-- With or without a request to exit, only packets at the front of the connection go out. -/
theorem socketConnectionHandler_flatten {buf : List UInt8} {es : List (Event UInt8)}
    (hbuf : buf.length = packetSize) :
    (∀ p ∈ socketConnectionHandler buf es, IsPacket p) ∧
      (socketConnectionHandler buf es).flatten <+: content es := by
  induction hn : (content es).length using Nat.strong_induction_on generalizing buf es with
  | _ n ih =>
    rw [socketConnectionHandler_eq hbuf]
    cases h : (handlerIteration buf es).packet with
    | none => exact ⟨by simp, List.nil_prefix⟩
    | some p =>
      obtain ⟨hp, hcont, hbuf', -⟩ := handlerIteration_some hbuf h
      have hlt := length_content_rest_lt hbuf h
      obtain ⟨hps, hpre⟩ := ih _ (hn ▸ hlt) hbuf' rfl
      constructor
      · intro q hq
        rcases List.mem_cons.mp hq with rfl | hq
        · exact hp
        · exact hps q hq
      · rw [List.flatten_cons, hcont]
        exact (List.prefix_append_right_inj p).mpr hpre

/-- **Framing is exact and independent of segmentation.**  Whatever the stale buffer holds and
however `recv` cuts the stream up, the handler forwards the packets that the delivered bytes start
with, all of them and nothing else: what follows the last one starts no packet, and any packets
the stream starts with are among the first forwarded.  A stream of built packets is forwarded
packet by packet. -/
theorem handler_forwards_exactly {buf : List UInt8} {es : List (Event UInt8)}
    (hbuf : buf.length = packetSize) (hx : NoExit es) :
    (∀ p ∈ socketConnectionHandler buf es, IsPacket p ∧ p.length ≤ packetSize) ∧
      (∃ rest, content es = (socketConnectionHandler buf es).flatten ++ rest ∧
        ∀ p, IsPacket p → ¬ p <+: rest) ∧
      (∀ qs : List (List UInt8), (∀ q ∈ qs, IsPacket q) → qs.flatten <+: content es →
        qs <+: socketConnectionHandler buf es) ∧
      (∀ built : List (UInt8 × UInt16 × List UInt8 × UInt16),
        (∀ b ∈ built, b.2.2.2.toNat ≤ b.2.2.1.length ∧ b.2.2.2.toNat ≤ packetDataFieldsSize) →
        content es = (built.map fun b => buildPacket b.1 b.2.1 b.2.2.1 b.2.2.2).flatten →
        socketConnectionHandler buf es =
          built.map fun b => buildPacket b.1 b.2.1 b.2.2.1 b.2.2.2) := by
  have hread := socketConnectionHandler_reading hbuf hx
  refine ⟨fun p hp => ⟨hread.1 p hp, (hread.1 p hp).length_le⟩, hread.2, ?_, ?_⟩
  · intro qs hqs hpre
    exact hread.isPrefix isPrefixCode_isPacket hqs hpre
  · intro built hbuilt hcont
    refine hread.unique isPrefixCode_isPacket ?_
    rw [hcont]
    refine reading_flatten isPrefixCode_isPacket ?_
    intro p hp
    obtain ⟨b, hb, rfl⟩ := List.mem_map.mp hp
    exact isPacket_buildPacket b.1 b.2.1 (hbuilt b hb).1 (hbuilt b hb).2

/-- A torque packet that arrives in three pieces, with an interruption, before the peer resets. -/
theorem handler_forwards_torque :
    socketConnectionHandler (List.replicate packetSize 0)
        [.data 0xAA [0x4B], .eintr false, .data 0x2C [0x01, 0x04, 0x00, 0x5F], .data 0 [0, 0],
          .fail] =
      [buildPacket 0x4B 300 [0x5F, 0, 0, 0] 4] :=
  (handler_forwards_exactly (by decide) (by decide)).2.2.2 [(0x4B, 300, [0x5F, 0, 0, 0], 4)]
    (by decide) (by decide)

end Acquiring
end Gateway
