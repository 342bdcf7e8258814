import Mathlib.Tactic
import Mathlib.Data.List.DropRight

/-!
# Text as the C library prints and scans it

The conversions of `snprintf`, `strftime` and `sscanf` that formatted text goes through.  A C
string is the list of its characters before the terminating zero.

* `snprintf size text` is what a buffer of `size` bytes holds afterwards; the value the call
  returns is `text.length`;
* `decimal`, `padded`, `fixed6`, `fixed2` print `%d`, `%0wd`, `%f` and `%.2f`, and `Tm.stamp` is the
  format `%Y-%m-%d %H:%M:%S` of `strftime`;
* `Printable`: what all of these print is free of line ends and zeros;
* `scanLong` is `%ld` of `sscanf`, and `scanLong_decimal` says that it reads `%d` back.
-/

namespace CText

/-- What a buffer of `size` bytes holds after `snprintf`: at most `size - 1` characters. -/
def snprintf (size : ℕ) (text : List Char) : List Char := text.take (size - 1)

theorem length_snprintf_lt {size : ℕ} (h : 0 < size) (text : List Char) :
    (snprintf size text).length < size := by
  rw [snprintf, List.length_take]
  omega

theorem snprintf_of_lt {size : ℕ} {text : List Char} (h : text.length < size) :
    snprintf size text = text := List.take_of_length_le (by omega)

/-! ### Numbers -/

/-- `%d` and its wider variants. -/
def decimal (n : ℤ) : List Char :=
  if n < 0 then '-' :: Nat.toDigits 10 n.natAbs else Nat.toDigits 10 n.natAbs

/-- `%0wd` of a natural number. -/
def padded (w n : ℕ) : List Char :=
  List.replicate (w - (Nat.toDigits 10 n).length) '0' ++ Nat.toDigits 10 n

/-- `%f` of the quotient `value / scale`: six fraction digits, exact when `scale` divides
`10 ^ 6`. -/
def fixed6 (value : ℤ) (scale : ℕ) : List Char :=
  (if value < 0 then ['-'] else []) ++ Nat.toDigits 10 (value.natAbs / scale) ++
    '.' :: padded 6 (value.natAbs % scale * 10 ^ 6 / scale)

/-- A quotient that is not negative, rounded to a whole number, and to an even one in the middle. -/
def roundEven (q : ℚ) : ℕ :=
  let n := ⌊q⌋₊
  if q - n < 1 / 2 ∨ (q - n = 1 / 2 ∧ n % 2 = 0) then n else n + 1

/-- A rounded number is next to the number. -/
theorem abs_roundEven_sub_le {q : ℚ} (hq : 0 ≤ q) : |(roundEven q : ℚ) - q| ≤ 1 / 2 := by
  have hfloor : (⌊q⌋₊ : ℚ) ≤ q := Nat.floor_le hq
  have hlt : q < ⌊q⌋₊ + 1 := Nat.lt_floor_add_one q
  simp only [roundEven]
  rw [abs_le]
  split_ifs with hdown
  · have hhalf : q - ⌊q⌋₊ ≤ 1 / 2 := by
      rcases hdown with hless | ⟨heq, -⟩
      · exact hless.le
      · exact heq.le
    constructor <;> linarith
  · rw [not_or, not_lt] at hdown
    push_cast
    constructor <;> linarith [hdown.1]

/-- `%.2f` of a rational number. -/
def fixed2 (q : ℚ) : List Char :=
  (if q < 0 then ['-'] else []) ++ Nat.toDigits 10 (roundEven (|q| * 100) / 100) ++
    '.' :: padded 2 (roundEven (|q| * 100) % 100)

theorem length_decimal_le {n : ℤ} {k : ℕ} (hk : 0 < k) (h : n.natAbs < 10 ^ k) :
    (decimal n).length ≤ k + 1 := by
  have hd : (Nat.toDigits 10 n.natAbs).length ≤ k :=
    (Nat.length_toDigits_le_iff (by norm_num) hk).mpr h
  unfold decimal
  split_ifs
  · rw [List.length_cons]; omega
  · omega

/-! ### Dates -/

/-- The fields of `struct tm` that the format reads. -/
structure Tm where
  year : ℤ
  mon : ℕ
  mday : ℕ
  hour : ℕ
  min : ℕ
  sec : ℕ
  deriving DecidableEq

/-- The text of `%Y-%m-%d %H:%M:%S`. -/
def Tm.stamp (tm : Tm) : List Char :=
  decimal (tm.year + 1900) ++ '-' :: padded 2 (tm.mon + 1) ++ '-' :: padded 2 tm.mday ++
    ' ' :: padded 2 tm.hour ++ ':' :: padded 2 tm.min ++ ':' :: padded 2 tm.sec

/-- `strftime` into `max` bytes: nothing when the text and its terminator do not fit. -/
def strftime (max : ℕ) (tm : Tm) : Option (List Char) :=
  if tm.stamp.length < max then some tm.stamp else none

theorem length_strftime_lt {max : ℕ} {tm : Tm} {text : List Char}
    (h : strftime max tm = some text) : text.length < max := by
  unfold strftime at h
  split_ifs at h with hl
  cases h
  exact hl

/-- The ranges that `localtime_r` keeps to: the year is an `int`, the other fields are those of a
calendar, with a leap second. -/
structure Tm.Valid (tm : Tm) : Prop where
  year : -2 ^ 31 ≤ tm.year ∧ tm.year < 2 ^ 31
  mon : tm.mon < 12
  mday : tm.mday < 32
  hour : tm.hour < 24
  min : tm.min < 60
  sec : tm.sec < 61

instance (tm : Tm) : Decidable tm.Valid :=
  decidable_of_iff
    ((-2 ^ 31 ≤ tm.year ∧ tm.year < 2 ^ 31) ∧ tm.mon < 12 ∧ tm.mday < 32 ∧ tm.hour < 24 ∧
      tm.min < 60 ∧ tm.sec < 61)
    ⟨fun ⟨h₁, h₂, h₃, h₄, h₅, h₆⟩ => ⟨h₁, h₂, h₃, h₄, h₅, h₆⟩,
      fun ⟨h₁, h₂, h₃, h₄, h₅, h₆⟩ => ⟨h₁, h₂, h₃, h₄, h₅, h₆⟩⟩

/-! ### Lengths -/

theorem length_padded {w n : ℕ} (hw : 0 < w) (h : n < 10 ^ w) : (padded w n).length = w := by
  have hle : (Nat.toDigits 10 n).length ≤ w :=
    (Nat.length_toDigits_le_iff (by norm_num) hw).mpr h
  rw [padded, List.length_append, List.length_replicate]
  omega

/-- The fraction has at most six digits. -/
theorem fraction_lt (n : ℕ) {scale : ℕ} (hscale : 0 < scale) :
    n % scale * 10 ^ 6 / scale < 10 ^ 6 := by
  rw [Nat.div_lt_iff_lt_mul hscale, Nat.mul_comm]
  exact Nat.mul_lt_mul_of_pos_left (Nat.mod_lt _ hscale) (by norm_num)

/-- A number of at most `k` digits before the point takes at most `k + 8` characters. -/
theorem length_fixed6_le {value : ℤ} {scale k : ℕ} (hscale : 0 < scale) (hk : 0 < k)
    (h : value.natAbs / scale < 10 ^ k) : (fixed6 value scale).length ≤ k + 8 := by
  have hwhole : (Nat.toDigits 10 (value.natAbs / scale)).length ≤ k :=
    (Nat.length_toDigits_le_iff (by norm_num) hk).mpr h
  have hfrac := fraction_lt value.natAbs hscale
  unfold fixed6
  rw [List.length_append, List.length_append, List.length_cons, length_padded (by norm_num) hfrac]
  split_ifs
  · rw [List.length_singleton]; omega
  · rw [List.length_nil]; omega

/-- A number below `10 ^ k` takes at most `k + 4` characters. -/
theorem length_fixed2_le {q : ℚ} {k : ℕ} (hk : 0 < k) (h : |q| + 1 ≤ 10 ^ k) :
    (fixed2 q).length ≤ k + 4 := by
  have hround : roundEven (|q| * 100) ≤ ⌊|q| * 100⌋₊ + 1 := by
    simp only [roundEven]
    split_ifs <;> omega
  have hfloor : (⌊|q| * 100⌋₊ : ℚ) ≤ |q| * 100 := Nat.floor_le (by positivity)
  have hlt : roundEven (|q| * 100) / 100 < 10 ^ k := by
    rw [Nat.div_lt_iff_lt_mul (by norm_num)]
    have hcast : ((⌊|q| * 100⌋₊ + 1 : ℕ) : ℚ) < ((10 ^ k * 100 : ℕ) : ℚ) := by
      push_cast
      linarith
    exact hround.trans_lt (by exact_mod_cast hcast)
  have hwhole : (Nat.toDigits 10 (roundEven (|q| * 100) / 100)).length ≤ k :=
    (Nat.length_toDigits_le_iff (by norm_num) hk).mpr hlt
  have hfrac : (padded 2 (roundEven (|q| * 100) % 100)).length = 2 :=
    length_padded (by norm_num) (Nat.mod_lt _ (by norm_num))
  unfold fixed2
  rw [List.length_append, List.length_append, List.length_cons, hfrac]
  split_ifs
  · rw [List.length_singleton]; omega
  · rw [List.length_nil]; omega

/-- A date fits in 26 characters, so `strftime` has room for it in any larger buffer. -/
theorem length_stamp_le {tm : Tm} (h : tm.Valid) : tm.stamp.length ≤ 26 := by
  have hyear : (decimal (tm.year + 1900)).length ≤ 11 := by
    obtain ⟨h₁, h₂⟩ := h.year
    exact length_decimal_le (k := 10) (by norm_num) (by omega)
  have htwo : ∀ n, n < 10 ^ 2 → (padded 2 n).length = 2 := fun n => length_padded (by norm_num)
  have h₁ := h.mon
  have h₂ := h.mday
  have h₃ := h.hour
  have h₄ := h.min
  have h₅ := h.sec
  unfold Tm.stamp
  simp only [List.length_append, List.length_cons, htwo _ (show tm.mon + 1 < 10 ^ 2 by omega),
    htwo _ (show tm.mday < 10 ^ 2 by omega), htwo _ (show tm.hour < 10 ^ 2 by omega),
    htwo _ (show tm.min < 10 ^ 2 by omega), htwo _ (show tm.sec < 10 ^ 2 by omega)]
  omega

theorem strftime_of_valid {max : ℕ} {tm : Tm} (h : tm.Valid) (hmax : 26 < max) :
    strftime max tm = some tm.stamp :=
  if_pos ((length_stamp_le h).trans_lt hmax)

/-! ### Printable text -/

/-- `isprint` in the C locale. -/
def isPrint (c : Char) : Bool := ' '.toNat ≤ c.toNat && c.toNat ≤ '~'.toNat

/-- A text of printable characters. -/
def Printable (text : List Char) : Prop := ∀ c ∈ text, isPrint c

instance (text : List Char) : Decidable (Printable text) := List.decidableBAll _ text

theorem Printable.notMem {text : List Char} (h : Printable text) {c : Char}
    (hc : isPrint c = false) : c ∉ text := fun hmem => by
  rw [h c hmem] at hc
  cases hc

@[simp] theorem printable_nil : Printable [] := by simp [Printable]

@[simp] theorem printable_cons (c : Char) (text : List Char) :
    Printable (c :: text) ↔ isPrint c ∧ Printable text := List.forall_mem_cons

@[simp] theorem printable_append (text text' : List Char) :
    Printable (text ++ text') ↔ Printable text ∧ Printable text' := List.forall_mem_append

/-- The digits of a number are digits of the base. -/
theorem exists_of_mem_toDigits {b n : ℕ} (hb : 1 < b) {c : Char} (h : c ∈ Nat.toDigits b n) :
    ∃ d < b, c = Nat.digitChar d := by
  induction n using Nat.strong_induction_on with
  | _ n ih =>
    rw [Nat.toDigits_eq_if hb] at h
    split_ifs at h with hn
    · exact ⟨n, hn, List.mem_singleton.mp h⟩
    · rcases List.mem_append.mp h with h | h
      · exact ih (n / b) (Nat.div_lt_self (by omega) hb) h
      · exact ⟨n % b, Nat.mod_lt _ (by omega), List.mem_singleton.mp h⟩

/-- Different numbers have different digits. -/
theorem toDigits_injective {b : ℕ} (hb : 1 < b) (hb' : b ≤ 16) :
    Function.Injective (Nat.toDigits b) := by
  have hdigit : ∀ d < 16, ∀ d' < 16, Nat.digitChar d = Nat.digitChar d' → d = d' := by decide
  have hmod : ∀ n, n % b < 16 := fun n => (Nat.mod_lt n (by omega)).trans_le hb'
  intro n m h
  induction n using Nat.strong_induction_on generalizing m with
  | _ n ih =>
    rw [Nat.toDigits_eq_if hb (n := n), Nat.toDigits_eq_if hb (n := m)] at h
    split_ifs at h with hn hm hm
    · exact hdigit n (hn.trans_le hb') m (hm.trans_le hb') (List.singleton_inj.mp h)
    · exact absurd (List.append_inj' ((List.nil_append _).trans h) rfl).1.symm Nat.toDigits_ne_nil
    · exact absurd (List.append_inj' (h.trans (List.nil_append _).symm) rfl).1 Nat.toDigits_ne_nil
    · obtain ⟨hinit, hlast⟩ := List.append_inj' h rfl
      have hdiv : n / b = m / b := ih (n / b) (Nat.div_lt_self (by omega) hb) hinit
      have hrem : n % b = m % b := hdigit _ (hmod n) _ (hmod m) (List.singleton_inj.mp hlast)
      rw [← Nat.div_add_mod n b, ← Nat.div_add_mod m b, hdiv, hrem]

theorem printable_toDigits {b : ℕ} (hb : 1 < b) (hb' : b ≤ 16) (n : ℕ) :
    Printable (Nat.toDigits b n) := by
  have hdigit : ∀ d < 16, isPrint (Nat.digitChar d) = true := by decide
  intro c hc
  obtain ⟨d, hd, rfl⟩ := exists_of_mem_toDigits hb hc
  exact hdigit d (by omega)

theorem printable_decimal (n : ℤ) : Printable (decimal n) := by
  have hdigits := printable_toDigits (b := 10) (by norm_num) (by norm_num) n.natAbs
  unfold decimal
  split_ifs
  · exact (printable_cons _ _).mpr ⟨by decide, hdigits⟩
  · exact hdigits

theorem printable_padded (w n : ℕ) : Printable (padded w n) := by
  refine (printable_append _ _).mpr
    ⟨fun c hc => ?_, printable_toDigits (by norm_num) (by norm_num) n⟩
  rw [List.eq_of_mem_replicate hc]
  decide

theorem printable_fixed6 (value : ℤ) (scale : ℕ) : Printable (fixed6 value scale) := by
  have hsign : Printable (if value < 0 then ['-'] else []) := by split_ifs <;> decide
  unfold fixed6
  simp only [printable_append, printable_cons]
  exact ⟨⟨hsign, printable_toDigits (by norm_num) (by norm_num) _⟩, by decide, printable_padded _ _⟩

theorem printable_fixed2 (q : ℚ) : Printable (fixed2 q) := by
  have hsign : Printable (if q < 0 then ['-'] else []) := by split_ifs <;> decide
  unfold fixed2
  simp only [printable_append, printable_cons]
  exact ⟨⟨hsign, printable_toDigits (by norm_num) (by norm_num) _⟩, by decide, printable_padded _ _⟩

theorem printable_stamp (tm : Tm) : Printable tm.stamp := by
  have hdash : isPrint '-' = true := by decide
  have hblank : isPrint ' ' = true := by decide
  have hcolon : isPrint ':' = true := by decide
  unfold Tm.stamp
  simp only [printable_append, printable_cons, printable_decimal, printable_padded, hdash, hblank,
    hcolon, and_self]

/-! ### Scanning -/

/-- `isspace` in the C locale. -/
def isSpace (c : Char) : Bool := c ∈ [' ', '\t', '\n', '\x0b', '\x0c', '\r']

/-- Overflow on a 64 bit `long` saturates. -/
def clampLong (n : ℤ) : ℤ := max (-2 ^ 63) (min (2 ^ 63 - 1) n)

/-- An optional sign: whether it was a minus, and the text after it. -/
def scanSign : List Char → Bool × List Char
  | '-' :: text => (true, text)
  | '+' :: text => (false, text)
  | text => (false, text)

/-- `%ld`: skip blanks, then an optional sign and at least one digit.  The number and the text
after it, or nothing when no digit is there. -/
def scanLong (text : List Char) : Option (ℤ × List Char) :=
  let (negative, digits) := scanSign (text.dropWhile isSpace)
  if digits.takeWhile Char.isDigit = [] then none
  else
    let magnitude : ℤ := Nat.ofDigitChars 10 (digits.takeWhile Char.isDigit) 0
    some (clampLong (if negative then -magnitude else magnitude), digits.dropWhile Char.isDigit)

/-- Blanks before a number make no difference. -/
theorem scanLong_dropWhile (text : List Char) :
    scanLong (text.dropWhile isSpace) = scanLong text := by
  unfold scanLong
  rw [List.dropWhile_idempotent]

theorem clampLong_of_mem {n : ℤ} (h₁ : -2 ^ 63 ≤ n) (h₂ : n < 2 ^ 63) : clampLong n = n := by
  unfold clampLong
  omega

theorem isDigit_of_mem_toDigits {c : Char} {n : ℕ} (h : c ∈ Nat.toDigits 10 n) : c.isDigit :=
  Nat.isDigit_of_mem_toDigits (by norm_num) (by norm_num) h

/-- A decimal has digits and a minus only. -/
theorem notMem_decimal {c : Char} (hdigit : c.isDigit = false) (hminus : c ≠ '-') (n : ℤ) :
    c ∉ decimal n := by
  have hdigits : c ∉ Nat.toDigits 10 n.natAbs := fun hc => by
    rw [isDigit_of_mem_toDigits hc] at hdigit
    cases hdigit
  unfold decimal
  split_ifs
  · rw [List.mem_cons, not_or]
    exact ⟨hminus, hdigits⟩
  · exact hdigits

/-- A run of characters is cut exactly where the text goes on with something else. -/
theorem takeWhile_run {p : Char → Bool} {run rest : List Char} (hrun : ∀ c ∈ run, p c = true)
    (hrest : ∀ c ∈ rest.head?, p c = false) : (run ++ rest).takeWhile p = run := by
  rw [List.takeWhile_append_of_pos hrun]
  cases rest with
  | nil => simp
  | cons c rest => simp [hrest c rfl]

theorem dropWhile_run {p : Char → Bool} {run rest : List Char} (hrun : ∀ c ∈ run, p c = true)
    (hrest : ∀ c ∈ rest.head?, p c = false) : (run ++ rest).dropWhile p = rest := by
  rw [List.dropWhile_append_of_pos hrun]
  cases rest with
  | nil => rfl
  | cons c rest => simp [hrest c rfl]

/-- A class of characters without the blanks. -/
theorem not_isSpace_of {p : Char → Bool}
    (hp : [' ', '\t', '\n', '\x0b', '\x0c', '\r'].any p = false) {c : Char} (h : p c = true) :
    isSpace c = false := by
  by_contra hs
  rw [Bool.not_eq_false, isSpace, decide_eq_true_eq] at hs
  exact absurd h (List.any_eq_false.mp hp c hs)

theorem not_isSpace_of_isDigit {c : Char} (h : c.isDigit) : isSpace c = false :=
  not_isSpace_of (by decide) h

/-- Where there is no sign, the sign scanner leaves the text alone. -/
theorem scanSign_of_ne {c : Char} (hminus : c ≠ '-') (hplus : c ≠ '+') (text : List Char) :
    scanSign (c :: text) = (false, c :: text) := by
  unfold scanSign
  split
  · rename_i heq
    exact absurd (List.cons.inj heq).1 hminus
  · rename_i heq
    exact absurd (List.cons.inj heq).1 hplus
  · rfl

theorem scanSign_digit {c : Char} (h : c.isDigit) (text : List Char) :
    scanSign (c :: text) = (false, c :: text) := by
  have hminus : c ≠ '-' := by rintro rfl; revert h; decide
  have hplus : c ≠ '+' := by rintro rfl; revert h; decide
  exact scanSign_of_ne hminus hplus text

/-- The sign and the digits of what `%d` printed. -/
theorem scanSign_decimal (n : ℤ) (rest : List Char) :
    scanSign ((decimal n ++ rest).dropWhile isSpace) =
      (decide (n < 0), Nat.toDigits 10 n.natAbs ++ rest) := by
  by_cases hn : n < 0
  · simp [decimal, hn, isSpace, scanSign]
  · obtain ⟨c, ds, hcs⟩ :=
      List.exists_cons_of_ne_nil (Nat.toDigits_ne_nil (n := n.natAbs) (b := 10))
    have hc : c.isDigit := isDigit_of_mem_toDigits (n := n.natAbs) (by
      rw [hcs]
      exact List.mem_cons_self)
    rw [decimal, if_neg hn, hcs, List.cons_append, List.dropWhile_cons,
      not_isSpace_of_isDigit hc, if_neg (by decide), scanSign_digit hc]
    simp [hn]

/-- A number is its magnitude with its sign, and a `long` holds it. -/
theorem clampLong_natAbs {n : ℤ} (h₁ : -2 ^ 63 ≤ n) (h₂ : n < 2 ^ 63) :
    (if decide (n < 0) then -(n.natAbs : ℤ) else n.natAbs) = n ∧ clampLong n = n := by
  refine ⟨?_, clampLong_of_mem h₁ h₂⟩
  by_cases hn : n < 0
  · rw [decide_eq_true hn, if_pos rfl]
    omega
  · rw [decide_eq_false hn, if_neg (by decide)]
    omega

/-- `%ld` reads back what `%d` printed, up to the first character that is no digit. -/
theorem scanLong_decimal {n : ℤ} (h₁ : -2 ^ 63 ≤ n) (h₂ : n < 2 ^ 63) {rest : List Char}
    (hrest : ∀ c ∈ rest.head?, c.isDigit = false) :
    scanLong (decimal n ++ rest) = some (n, rest) := by
  have hds : ∀ c ∈ Nat.toDigits 10 n.natAbs, c.isDigit := fun c => isDigit_of_mem_toDigits
  have htake := takeWhile_run hds hrest
  have hdrop := dropWhile_run hds hrest
  have hval : Nat.ofDigitChars 10 (Nat.toDigits 10 n.natAbs) 0 = n.natAbs :=
    Nat.ofDigitChars_ten_toDigits
  obtain ⟨hn, hclamp⟩ := clampLong_natAbs h₁ h₂
  unfold scanLong
  simp only [scanSign_decimal, htake, hdrop, hval, Nat.toDigits_ne_nil, if_false, hn, hclamp]

end CText
