import Mathlib.Tactic
import Mathlib.Data.Nat.Digits.Lemmas

/-!
# Little-endian byte strings

Fixed-width little-endian encodings of natural numbers, and the 16 and 32 bit words that C code
assembles from bytes with shifts and ors.

* `bytes w n` is the `w` bytes of `n`, least significant first, and `value l` the number that a
  byte string stands for (Mathlib's `Nat.ofDigits` in base 256);
* `value_bytes` and `bytes_value` are the two round trips;
* `word16_toNat` and `word32_toNat` say that the shifted ors compute `value`.
-/

namespace LittleEndian

/-- The `w` bytes of `n`, least significant first. -/
def bytes : ℕ → ℕ → List UInt8
  | 0, _ => []
  | w + 1, n => UInt8.ofNat n :: bytes w (n / 256)

/-- The number with the given little-endian bytes. -/
def value (l : List UInt8) : ℕ := Nat.ofDigits 256 (l.map UInt8.toNat)

@[simp] theorem bytes_zero (n : ℕ) : bytes 0 n = [] := rfl

@[simp] theorem bytes_succ (w n : ℕ) :
    bytes (w + 1) n = UInt8.ofNat n :: bytes w (n / 256) := rfl

@[simp] theorem value_nil : value [] = 0 := rfl

@[simp] theorem value_cons (b : UInt8) (l : List UInt8) :
    value (b :: l) = b.toNat + 256 * value l := by
  simp [value, Nat.ofDigits_cons]

@[simp] theorem length_bytes (w n : ℕ) : (bytes w n).length = w := by
  induction w generalizing n with
  | zero => rfl
  | succ w ih => simp [ih]

theorem value_bytes (w n : ℕ) : value (bytes w n) = n % 256 ^ w := by
  induction w generalizing n with
  | zero => simp [Nat.mod_one]
  | succ w ih =>
    have hb : (UInt8.ofNat n).toNat = n % 256 := UInt8.toNat_ofNat'
    rw [bytes_succ, value_cons, ih, hb, pow_succ', Nat.mod_mul]

theorem value_bytes_of_lt {w n : ℕ} (h : n < 256 ^ w) : value (bytes w n) = n := by
  rw [value_bytes, Nat.mod_eq_of_lt h]

theorem bytes_value (l : List UInt8) : bytes l.length (value l) = l := by
  induction l with
  | nil => rfl
  | cons b l ih =>
    have hb : b.toNat < 256 := b.toNat_lt
    have hhead : UInt8.ofNat (b.toNat + 256 * value l) = b := by
      apply UInt8.toNat_inj.mp
      rw [UInt8.toNat_ofNat']
      omega
    have htail : (b.toNat + 256 * value l) / 256 = value l := by omega
    rw [List.length_cons, bytes_succ, value_cons, hhead, htail, ih]

/-! ### Words assembled by shifts -/

/-- `b₀ | b₁ << 8` on `uint16_t`. -/
def word16 (b₀ b₁ : UInt8) : UInt16 := b₀.toUInt16 ||| (b₁.toUInt16 <<< 8)

/-- `b₀ | b₁ << 8 | b₂ << 16 | b₃ << 24` on `uint32_t`. -/
def word32 (b₀ b₁ b₂ b₃ : UInt8) : UInt32 :=
  b₀.toUInt32 ||| (b₁.toUInt32 <<< 8) ||| (b₂.toUInt32 <<< 16) ||| (b₃.toUInt32 <<< 24)

/-- Or-ing a number above `k` zero bits onto one below `2 ^ k` is adding it. -/
theorem lor_shiftLeft {a k : ℕ} (b : ℕ) (h : a < 2 ^ k) : a ||| (b <<< k) = a + 2 ^ k * b := by
  rw [Nat.shiftLeft_eq, Nat.or_comm, Nat.mul_comm b, ← Nat.two_pow_add_eq_or_of_lt h,
    Nat.add_comm]

theorem word16_toNat (b₀ b₁ : UInt8) : (word16 b₀ b₁).toNat = value [b₀, b₁] := by
  have h₀ : b₀.toNat < 256 := b₀.toNat_lt
  have h₁ : b₁.toNat < 256 := b₁.toNat_lt
  have hs : b₁.toNat <<< 8 % 2 ^ 16 = b₁.toNat <<< 8 := by
    apply Nat.mod_eq_of_lt
    rw [Nat.shiftLeft_eq]
    omega
  simp only [word16, UInt16.toNat_or, UInt16.toNat_shiftLeft, UInt8.toNat_toUInt16]
  rw [show (8 : UInt16).toNat % 16 = 8 from rfl, hs, lor_shiftLeft b₁.toNat (by omega)]
  simp

theorem word32_toNat (b₀ b₁ b₂ b₃ : UInt8) :
    (word32 b₀ b₁ b₂ b₃).toNat = value [b₀, b₁, b₂, b₃] := by
  have h₀ : b₀.toNat < 256 := b₀.toNat_lt
  have h₁ : b₁.toNat < 256 := b₁.toNat_lt
  have h₂ : b₂.toNat < 256 := b₂.toNat_lt
  have h₃ : b₃.toNat < 256 := b₃.toNat_lt
  have hs : ∀ (b : UInt8) (k : ℕ), k ≤ 24 → b.toNat <<< k % 2 ^ 32 = b.toNat <<< k := by
    intro b k hk
    apply Nat.mod_eq_of_lt
    rw [Nat.shiftLeft_eq]
    calc b.toNat * 2 ^ k < 256 * 2 ^ k := Nat.mul_lt_mul_of_pos_right b.toNat_lt (by positivity)
      _ ≤ 256 * 2 ^ 24 := Nat.mul_le_mul_left _ (Nat.pow_le_pow_right (by norm_num) hk)
      _ = 2 ^ 32 := by norm_num
  simp only [word32, UInt32.toNat_or, UInt32.toNat_shiftLeft, UInt8.toNat_toUInt32]
  rw [show (8 : UInt32).toNat % 32 = 8 from rfl, show (16 : UInt32).toNat % 32 = 16 from rfl,
    show (24 : UInt32).toNat % 32 = 24 from rfl, hs _ _ (by norm_num), hs _ _ (by norm_num),
    hs _ _ (by norm_num), lor_shiftLeft b₁.toNat (by omega), lor_shiftLeft b₂.toNat (by omega),
    lor_shiftLeft b₃.toNat (by omega)]
  simp only [value_cons, value_nil]
  omega

/-- The four bytes behind a 32 bit word are its encoding. -/
theorem bytes_word32 (b₀ b₁ b₂ b₃ : UInt8) :
    bytes 4 (word32 b₀ b₁ b₂ b₃).toNat = [b₀, b₁, b₂, b₃] := by
  rw [word32_toNat]
  exact bytes_value [b₀, b₁, b₂, b₃]

theorem bytes_word16 (b₀ b₁ : UInt8) : bytes 2 (word16 b₀ b₁).toNat = [b₀, b₁] := by
  rw [word16_toNat]
  exact bytes_value [b₀, b₁]

end LittleEndian
