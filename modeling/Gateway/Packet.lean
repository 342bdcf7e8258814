import Gateway.Lib.LittleEndian
import Gateway.Lib.PrefixCode

/-!
# Sensor packets

The packet format of the `README`: a sync byte `0xAA`, a type byte, a sensor id and a data length
of two bytes each, little endian, and then the data.  `buildPacket` is `build_packet` of
`client-sensors.c`; `IsPacket` is the format itself, with the limit of twelve data bytes that the
device imposes.  Packets form a prefix code, so a byte stream can be read as packets in one way
only.
-/

namespace Gateway

open LittleEndian PrefixCode

def syncByte : UInt8 := 0xAA
def packetHeaderFieldsSize : ℕ := 6
def packetDataFieldsSize : ℕ := 12
def packetSize : ℕ := packetHeaderFieldsSize + packetDataFieldsSize

/-- `build_packet`: the header, then `data_length` bytes of `data`. -/
def buildPacket (type : UInt8) (id : UInt16) (data : List UInt8) (dataLength : UInt16) :
    List UInt8 :=
  [syncByte, type, (id &&& 0xFF).toUInt8, ((id >>> 8) &&& 0xFF).toUInt8,
    (dataLength &&& 0xFF).toUInt8, ((dataLength >>> 8) &&& 0xFF).toUInt8] ++
    if dataLength > 0 then data.take dataLength.toNat else []

/-- The packet format: six header bytes, the last two of them the number of bytes that follow. -/
def IsPacket (p : List UInt8) : Prop :=
  ∃ type id₀ id₁ len₀ len₁ data, p = [syncByte, type, id₀, id₁, len₀, len₁] ++ data ∧
    data.length = value [len₀, len₁] ∧ data.length ≤ packetDataFieldsSize

theorem IsPacket.length_le {p : List UInt8} (h : IsPacket p) : p.length ≤ packetSize := by
  obtain ⟨type, id₀, id₁, len₀, len₁, data, rfl, -, hle⟩ := h
  simp only [List.length_append, List.length_cons, List.length_nil, packetSize,
    packetHeaderFieldsSize]
  omega

theorem IsPacket.header_le {p : List UInt8} (h : IsPacket p) :
    packetHeaderFieldsSize ≤ p.length := by
  obtain ⟨type, id₀, id₁, len₀, len₁, data, rfl, -, -⟩ := h
  simp [packetHeaderFieldsSize]

/-- The header says how long a packet is, so none is a proper prefix of another. -/
theorem isPrefixCode_isPacket : IsPrefixCode IsPacket where
  ne_nil p h := by
    obtain ⟨type, id₀, id₁, len₀, len₁, data, rfl, -, -⟩ := h
    exact List.cons_ne_nil _ _
  eq_of_isPrefix p q hp hq hpq := by
    obtain ⟨tp, i₀, i₁, l₀, l₁, d, rfl, hd, -⟩ := hp
    obtain ⟨tp', i₀', i₁', l₀', l₁', d', rfl, hd', -⟩ := hq
    simp only [List.cons_append, List.nil_append, List.cons_prefix_cons] at hpq
    obtain ⟨-, rfl, rfl, rfl, rfl, rfl, hdd⟩ := hpq
    rw [hdd.eq_of_length (hd.trans hd'.symm)]

/-! ### The packets that the clients build -/

theorem bytes_two (w : UInt16) :
    [(w &&& 0xFF).toUInt8, ((w >>> 8) &&& 0xFF).toUInt8] = bytes 2 w.toNat := by
  have hlt : w.toNat < 65536 := w.toNat_lt
  have hmask : ∀ n : ℕ, n &&& 255 = n % 256 := fun n => Nat.and_two_pow_sub_one_eq_mod n 8
  simp only [bytes, List.cons.injEq, and_true]
  constructor
  · apply UInt8.toNat_inj.mp
    simp [hmask]
  · apply UInt8.toNat_inj.mp
    simp [hmask, Nat.shiftRight_eq_div_pow]

theorem buildPacket_eq (type : UInt8) (id : UInt16) (data : List UInt8) (dataLength : UInt16) :
    buildPacket type id data dataLength =
      [syncByte, type] ++ bytes 2 id.toNat ++ bytes 2 dataLength.toNat ++
        data.take dataLength.toNat := by
  have hdata : (if dataLength > 0 then data.take dataLength.toNat else []) =
      data.take dataLength.toNat := by
    split_ifs with h
    · rfl
    · have h0 : dataLength.toNat = 0 := by
        have := UInt16.lt_iff_toNat_lt.not.mp h
        simpa using this
      rw [h0, List.take_zero]
  rw [buildPacket, hdata, ← bytes_two id, ← bytes_two dataLength]
  rfl

theorem isPacket_buildPacket (type : UInt8) (id : UInt16) {data : List UInt8} {dataLength : UInt16}
    (hdata : dataLength.toNat ≤ data.length) (hle : dataLength.toNat ≤ packetDataFieldsSize) :
    IsPacket (buildPacket type id data dataLength) := by
  have hlen : (data.take dataLength.toNat).length = dataLength.toNat := by
    rw [List.length_take, Nat.min_eq_left hdata]
  have hval : value (bytes 2 dataLength.toNat) = dataLength.toNat :=
    value_bytes_of_lt dataLength.toNat_lt
  refine ⟨type, (id &&& 0xFF).toUInt8, ((id >>> 8) &&& 0xFF).toUInt8, (dataLength &&& 0xFF).toUInt8,
    ((dataLength >>> 8) &&& 0xFF).toUInt8, data.take dataLength.toNat, ?_, ?_, hlen.trans_le hle⟩
  · rw [buildPacket_eq, ← bytes_two, ← bytes_two]
    rfl
  · rw [bytes_two, hval, hlen]

theorem length_buildPacket (type : UInt8) (id : UInt16) {data : List UInt8} {dataLength : UInt16}
    (hdata : dataLength.toNat ≤ data.length) :
    (buildPacket type id data dataLength).length = packetHeaderFieldsSize + dataLength.toNat := by
  rw [buildPacket_eq]
  simp only [List.length_append, List.length_cons, List.length_nil, length_bytes, List.length_take,
    Nat.min_eq_left hdata, packetHeaderFieldsSize]

end Gateway
