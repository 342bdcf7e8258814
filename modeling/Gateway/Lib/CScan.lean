import Gateway.Lib.CText

/-!
# Text taken apart

* `pieces p text` are the maximal runs of characters that are no separators;
* `numerals text` are the numbers that a reader sees in a text, and `readNumeral_fixed6` says that
  the number printed by `%f` is the quotient it was made from;
* `strtoul` is the function of the C library with an `unsigned long` of 64 bits, and `HexReading`
  are the parts of a text in which it finds a hexadecimal number;
* `strtoll` is the same for base 10 and a `long long`;
* `strtok` is the function of the C library on a buffer and a position in it, and `strtok_spec` says
  that its calls give the pieces of the string there one by one;
* `fgetsText` is what `fgets` takes off a file, and `fgetsLines` what its calls take off one after
  the other.
-/

namespace CText

/-! ### Pieces -/

/-- The maximal runs of a text without characters that satisfy `p`. -/
def pieces (p : Char → Bool) (text : List Char) : List (List Char) :=
  (text.splitOnP p).filter (· ≠ [])

section Pieces

variable {p : Char → Bool}

@[simp] theorem pieces_nil : pieces p [] = [] := by
  rw [pieces, List.splitOnP_nil]
  rfl

theorem pieces_cons {c : Char} (hc : p c = true) (text : List Char) :
    pieces p (c :: text) = pieces p text := by
  rw [pieces, List.splitOnP_cons_eq_if_modifyHead, if_pos hc]
  rfl

/-- Separators in front make no difference. -/
theorem pieces_append_of_sep {seps : List Char} (h : ∀ c ∈ seps, p c = true) (text : List Char) :
    pieces p (seps ++ text) = pieces p text := by
  induction seps with
  | nil => rfl
  | cons c seps ih =>
    obtain ⟨hc, hseps⟩ := List.forall_mem_cons.mp h
    rw [List.cons_append, pieces_cons hc, ih hseps]

/-- A run that a separator ends. -/
theorem pieces_append_cons {run : List Char} (hrun : ∀ c ∈ run, p c = false) (hne : run ≠ [])
    {sep : Char} (hsep : p sep = true) (text : List Char) :
    pieces p (run ++ sep :: text) = run :: pieces p text := by
  rw [pieces, List.splitOnP_append_cons_of_forall_mem hrun sep hsep,
    List.filter_cons_of_pos (by simpa using hne)]
  rfl

/-- A run that the text ends with. -/
theorem pieces_of_run {run : List Char} (hrun : ∀ c ∈ run, p c = false) (hne : run ≠ []) :
    pieces p run = [run] := by
  rw [pieces, List.splitOnP_eq_singleton hrun, List.filter_cons_of_pos (by simpa using hne)]
  rfl

/-- A separator cuts a text in two. -/
theorem pieces_append_sep {sep : Char} (hsep : p sep = true) (text text' : List Char) :
    pieces p (text ++ sep :: text') = pieces p text ++ pieces p text' := by
  rw [pieces, List.splitOnP_append_cons text text' hsep, List.filter_append]
  rfl

/-- Separators behind make no difference. -/
theorem pieces_append_seps (text : List Char) {seps : List Char} (h : ∀ c ∈ seps, p c = true) :
    pieces p (text ++ seps) = pieces p text := by
  cases seps with
  | nil => rw [List.append_nil]
  | cons c seps =>
    obtain ⟨hc, hseps⟩ := List.forall_mem_cons.mp h
    have hnone := pieces_append_of_sep hseps []
    rw [List.append_nil, pieces_nil] at hnone
    rw [pieces_append_sep hc, hnone, List.append_nil]

theorem splitOnP_congr {q : Char → Bool} {text : List Char} (h : ∀ c ∈ text, p c = q c) :
    text.splitOnP p = text.splitOnP q := by
  induction text with
  | nil => rfl
  | cons c text ih =>
    obtain ⟨hc, htext⟩ := List.forall_mem_cons.mp h
    rw [List.splitOnP_cons_eq_if_modifyHead, List.splitOnP_cons_eq_if_modifyHead, hc, ih htext]

theorem pieces_congr {q : Char → Bool} {text : List Char} (h : ∀ c ∈ text, p c = q c) :
    pieces p text = pieces q text := by
  rw [pieces, splitOnP_congr h, ← pieces]

/-- Every character of a text is a separator or in one of the pieces, and nothing else is. -/
theorem mem_splitOnP {text : List Char} {c : Char} :
    (∃ t ∈ text.splitOnP p, c ∈ t) ↔ c ∈ text ∧ p c = false := by
  induction text with
  | nil => simp
  | cons x text ih =>
    rw [List.splitOnP_cons_eq_if_modifyHead]
    by_cases hx : p x = true
    · have hne : c ∈ text ∧ p c = false ↔ c ∈ x :: text ∧ p c = false := by
        constructor
        · exact fun h => ⟨List.mem_cons_of_mem _ h.1, h.2⟩
        · rintro ⟨hc, hpc⟩
          refine ⟨(List.mem_cons.mp hc).resolve_left ?_, hpc⟩
          rintro rfl
          rw [hx] at hpc
          cases hpc
      rw [if_pos hx, ← hne]
      simpa using ih
    · obtain ⟨t, ts, hts⟩ := List.exists_cons_of_ne_nil (List.splitOnP_ne_nil p text)
      rw [Bool.not_eq_true] at hx
      rw [hts] at ih
      rw [if_neg (by simp [hx]), hts, List.modifyHead_cons]
      simp only [List.mem_cons, exists_eq_or_imp] at ih ⊢
      by_cases hc : c = x
      · simp [hc, hx]
      · simpa [hc] using ih

theorem mem_pieces {text : List Char} {c : Char} :
    (∃ t ∈ pieces p text, c ∈ t) ↔ c ∈ text ∧ p c = false := by
  rw [← mem_splitOnP]
  constructor
  · rintro ⟨t, ht, hc⟩
    exact ⟨t, (List.mem_filter.mp ht).1, hc⟩
  · rintro ⟨t, ht, hc⟩
    exact ⟨t, List.mem_filter.mpr ⟨ht, by simpa using List.ne_nil_of_mem hc⟩, hc⟩

theorem ne_nil_of_mem_pieces {text t : List Char} (h : t ∈ pieces p text) : t ≠ [] := by
  simpa using (List.mem_filter.mp h).2

end Pieces

/-! ### Numbers in a text -/

/-- The characters of a number with a sign and a point. -/
def isNumeral (c : Char) : Bool := c.isDigit || c = '-' || c = '.'

/-- The number that digits with an optional sign and fraction stand for. -/
def readNumeral (text : List Char) : ℚ :=
  let (negative, digits) := scanSign text
  let whole := digits.takeWhile Char.isDigit
  let fraction := (digits.dropWhile Char.isDigit).drop 1
  let magnitude : ℚ :=
    Nat.ofDigitChars 10 whole 0 + (Nat.ofDigitChars 10 fraction 0 : ℚ) / 10 ^ fraction.length
  if negative then -magnitude else magnitude

/-- The numbers in a text, in order. -/
def numerals (text : List Char) : List ℚ :=
  (pieces (fun c => ! isNumeral c) text).map readNumeral

theorem isDigit_of_mem_padded {c : Char} {w n : ℕ} (h : c ∈ padded w n) : c.isDigit := by
  rcases List.mem_append.mp h with h | h
  · rw [List.eq_of_mem_replicate h]
    decide
  · exact isDigit_of_mem_toDigits h

theorem ofDigitChars_padded (w n : ℕ) : Nat.ofDigitChars 10 (padded w n) 0 = n := by
  rw [padded, Nat.ofDigitChars_append, Nat.ofDigitChars_replicate_zero, Nat.mul_zero,
    Nat.ofDigitChars_ten_toDigits]

theorem isNumeral_of_mem_fixed6 {value : ℤ} {scale : ℕ} {c : Char} (h : c ∈ fixed6 value scale) :
    isNumeral c = true := by
  have hdigit : c.isDigit → isNumeral c = true := fun hc => by simp [isNumeral, hc]
  unfold fixed6 at h
  rcases List.mem_append.mp h with h | h
  · rcases List.mem_append.mp h with h | h
    · split_ifs at h
      · rw [List.mem_singleton.mp h]; decide
      · cases h
    · exact hdigit (isDigit_of_mem_toDigits h)
  · rcases List.mem_cons.mp h with rfl | h
    · decide
    · exact hdigit (isDigit_of_mem_padded h)

theorem fixed6_ne_nil (value : ℤ) (scale : ℕ) : fixed6 value scale ≠ [] := by
  unfold fixed6
  simp

/-- The sign of a number that `%f` prints, and the digits after it. -/
theorem scanSign_fixed6 (value : ℤ) (scale : ℕ) :
    scanSign (fixed6 value scale) =
      (decide (value < 0), Nat.toDigits 10 (value.natAbs / scale) ++
        '.' :: padded 6 (value.natAbs % scale * 10 ^ 6 / scale)) := by
  unfold fixed6
  by_cases hneg : value < 0
  · simp [hneg, scanSign]
  · obtain ⟨c, ds, hcs⟩ :=
      List.exists_cons_of_ne_nil (Nat.toDigits_ne_nil (n := value.natAbs / scale) (b := 10))
    have hc : c.isDigit := isDigit_of_mem_toDigits (n := value.natAbs / scale)
      (by rw [hcs]; exact List.mem_cons_self)
    rw [if_neg hneg, List.nil_append, hcs, List.cons_append, scanSign_digit hc]
    simp [hneg]

/-- A sign, digits, a point and more digits are read as the number they stand for. -/
theorem readNumeral_of_digits {text ds fs : List Char} {negative : Bool}
    (hsign : scanSign text = (negative, ds ++ '.' :: fs)) (hds : ∀ c ∈ ds, c.isDigit) :
    readNumeral text =
      if negative then
        -((Nat.ofDigitChars 10 ds 0 : ℚ) + (Nat.ofDigitChars 10 fs 0 : ℚ) / 10 ^ fs.length)
      else (Nat.ofDigitChars 10 ds 0 : ℚ) + (Nat.ofDigitChars 10 fs 0 : ℚ) / 10 ^ fs.length := by
  have hpoint : ∀ c ∈ ('.' :: fs).head?, c.isDigit = false := by
    intro c hc
    rw [List.head?_cons, Option.mem_some_iff] at hc
    rw [← hc]
    decide
  simp only [readNumeral, hsign, takeWhile_run hds hpoint, dropWhile_run hds hpoint,
    List.drop_one, List.tail_cons]

/-- The whole part and the six fraction digits of a quotient add up to it. -/
theorem whole_add_fraction (n : ℕ) {scale : ℕ} (hscale : scale ∣ 10 ^ 6) :
    ((n / scale : ℕ) : ℚ) + ((n % scale * 10 ^ 6 / scale : ℕ) : ℚ) / 10 ^ 6 = (n : ℚ) / scale := by
  have hpos : (scale : ℚ) ≠ 0 := by
    exact_mod_cast (Nat.pos_of_dvd_of_pos hscale (by norm_num)).ne'
  have hsum : (n : ℚ) = scale * ((n / scale : ℕ) : ℚ) + ((n % scale : ℕ) : ℚ) := by
    exact_mod_cast (Nat.div_add_mod n scale).symm
  rw [Nat.cast_div (Dvd.dvd.mul_left hscale _) hpos]
  push_cast
  rw [hsum]
  field_simp
  ring

/-- The number that `%f` prints is the quotient, when the scale divides `10 ^ 6`. -/
theorem readNumeral_fixed6 (value : ℤ) {scale : ℕ} (hscale : scale ∣ 10 ^ 6) :
    readNumeral (fixed6 value scale) = (value : ℚ) / scale := by
  have hpos : 0 < scale := Nat.pos_of_dvd_of_pos hscale (by norm_num)
  have hlen : (padded 6 (value.natAbs % scale * 10 ^ 6 / scale)).length = 6 :=
    length_padded (by norm_num) (fraction_lt _ hpos)
  rw [readNumeral_of_digits (scanSign_fixed6 value scale) fun c => isDigit_of_mem_toDigits,
    ofDigitChars_padded, hlen, Nat.ofDigitChars_ten_toDigits, whole_add_fraction _ hscale,
    Nat.cast_natAbs]
  by_cases hneg : value < 0
  · rw [decide_eq_true hneg, if_pos rfl, abs_of_neg hneg]
    push_cast
    ring
  · rw [decide_eq_false hneg, if_neg (by decide), abs_of_nonneg (not_lt.mp hneg)]

/-- Text without digits, signs and points shows no number. -/
theorem numerals_append_of_none {words : List Char} (h : ∀ c ∈ words, isNumeral c = false)
    (text : List Char) : numerals (words ++ text) = numerals text := by
  rw [numerals, pieces_append_of_sep fun c hc => by simp [h c hc]]
  rfl

/-- A printed number with its unit shows that number. -/
theorem numerals_fixed6_append (value : ℤ) {scale : ℕ} (hscale : scale ∣ 10 ^ 6) {unit : List Char}
    (hne : unit ≠ []) (hunit : ∀ c ∈ unit, isNumeral c = false) (text : List Char) :
    numerals (fixed6 value scale ++ (unit ++ text)) = (value : ℚ) / scale :: numerals text := by
  obtain ⟨sep, words, rfl⟩ := List.exists_cons_of_ne_nil hne
  obtain ⟨hsep, hwords⟩ := List.forall_mem_cons.mp hunit
  have hrun : ∀ c ∈ fixed6 value scale, (! isNumeral c) = false := fun c hc => by
    rw [isNumeral_of_mem_fixed6 hc]
    rfl
  rw [numerals, List.cons_append,
    pieces_append_cons hrun (fixed6_ne_nil value scale) (by simp [hsep]), List.map_cons,
    readNumeral_fixed6 value hscale, ← numerals, numerals_append_of_none hwords]

/-! ### Numbers printed with two decimals -/

theorem isNumeral_of_mem_fixed2 {q : ℚ} {c : Char} (h : c ∈ fixed2 q) : isNumeral c = true := by
  have hdigit : c.isDigit → isNumeral c = true := fun hc => by simp [isNumeral, hc]
  unfold fixed2 at h
  rcases List.mem_append.mp h with h | h
  · rcases List.mem_append.mp h with h | h
    · split_ifs at h
      · rw [List.mem_singleton.mp h]; decide
      · cases h
    · exact hdigit (isDigit_of_mem_toDigits h)
  · rcases List.mem_cons.mp h with rfl | h
    · decide
    · exact hdigit (isDigit_of_mem_padded h)

/-- The sign of a number that `%.2f` prints, and the digits after it. -/
theorem scanSign_fixed2 (q : ℚ) :
    scanSign (fixed2 q) =
      (decide (q < 0), Nat.toDigits 10 (roundEven (|q| * 100) / 100) ++
        '.' :: padded 2 (roundEven (|q| * 100) % 100)) := by
  unfold fixed2
  by_cases hneg : q < 0
  · simp [hneg, scanSign]
  · obtain ⟨c, ds, hcs⟩ := List.exists_cons_of_ne_nil
      (Nat.toDigits_ne_nil (n := roundEven (|q| * 100) / 100) (b := 10))
    have hc : c.isDigit := isDigit_of_mem_toDigits (n := roundEven (|q| * 100) / 100)
      (by rw [hcs]; exact List.mem_cons_self)
    rw [if_neg hneg, List.nil_append, hcs, List.cons_append, scanSign_digit hc]
    simp [hneg]

/-- The number that `%.2f` prints is the rounded one. -/
theorem readNumeral_fixed2 (q : ℚ) :
    readNumeral (fixed2 q) =
      if q < 0 then -((roundEven (|q| * 100) : ℚ) / 100)
      else (roundEven (|q| * 100) : ℚ) / 100 := by
  have hlen : (padded 2 (roundEven (|q| * 100) % 100)).length = 2 :=
    length_padded (by norm_num) (Nat.mod_lt _ (by norm_num))
  have hsplit : ((roundEven (|q| * 100) / 100 : ℕ) : ℚ) +
      ((roundEven (|q| * 100) % 100 : ℕ) : ℚ) / 10 ^ 2 = (roundEven (|q| * 100) : ℚ) / 100 := by
    have hdiv : ((roundEven (|q| * 100) / 100 * 100 + roundEven (|q| * 100) % 100 : ℕ) : ℚ) =
        (roundEven (|q| * 100) : ℕ) := by rw [Nat.div_add_mod']
    push_cast at hdiv
    linarith
  rw [readNumeral_of_digits (scanSign_fixed2 q) fun c => isDigit_of_mem_toDigits,
    ofDigitChars_padded, hlen, Nat.ofDigitChars_ten_toDigits, hsplit]
  simp only [decide_eq_true_eq]

/-- It differs from the number by half a hundredth at most. -/
theorem abs_readNumeral_fixed2_sub_le (q : ℚ) : |readNumeral (fixed2 q) - q| ≤ 1 / 200 := by
  have hround := abs_roundEven_sub_le (q := |q| * 100) (by positivity)
  rw [abs_le] at hround
  rw [readNumeral_fixed2, abs_le]
  split_ifs with hneg
  · rw [abs_of_neg hneg] at hround ⊢
    constructor <;> linarith
  · rw [abs_of_nonneg (not_lt.mp hneg)] at hround ⊢
    constructor <;> linarith

/-- A number printed with two decimals and its unit. -/
theorem numerals_fixed2_append (q : ℚ) {unit : List Char} (hne : unit ≠ [])
    (hunit : ∀ c ∈ unit, isNumeral c = false) :
    numerals (fixed2 q ++ unit) = [readNumeral (fixed2 q)] := by
  obtain ⟨sep, words, rfl⟩ := List.exists_cons_of_ne_nil hne
  obtain ⟨hsep, hwords⟩ := List.forall_mem_cons.mp hunit
  have hrun : ∀ c ∈ fixed2 q, (! isNumeral c) = false := fun c hc => by
    rw [isNumeral_of_mem_fixed2 hc]
    rfl
  have hfixed : fixed2 q ≠ [] := by
    unfold fixed2
    simp
  have hnone : numerals words = [] := by
    rw [← List.append_nil words, numerals_append_of_none hwords]
    rfl
  rw [numerals, pieces_append_cons hrun hfixed (by simp [hsep]), List.map_cons, ← numerals, hnone]

/-! ### `strtoul` -/

/-- The value of a digit or letter. -/
def digitValue (ch : Char) : Option ℕ :=
  if '0'.toNat ≤ ch.toNat ∧ ch.toNat ≤ '9'.toNat then some (ch.toNat - '0'.toNat)
  else if 'a'.toNat ≤ ch.toNat ∧ ch.toNat ≤ 'z'.toNat then some (ch.toNat - 'a'.toNat + 10)
  else if 'A'.toNat ≤ ch.toNat ∧ ch.toNat ≤ 'Z'.toNat then some (ch.toNat - 'A'.toNat + 10)
  else none

/-- A digit of the base. -/
def isDigitOf (base : ℕ) (ch : Char) : Bool := (digitValue ch).any (· < base)

/-- The number that digits of the base stand for. -/
def numeralValue (base : ℕ) (digits : List Char) : ℕ :=
  digits.foldl (fun n ch => n * base + (digitValue ch).getD 0) 0

/-- The prefix `0x` of a hexadecimal number, which counts only before a digit. -/
def skipHexPrefix : List Char → List Char
  | '0' :: x :: ch :: text =>
      if (x = 'x' ∨ x = 'X') ∧ isDigitOf 16 ch then ch :: text else '0' :: x :: ch :: text
  | text => text

/-- What a call of `strtoul` returns: the number, the text behind it, and whether `errno` was set to
`ERANGE`. -/
structure Converted where
  value : ℕ
  rest : List Char
  erange : Bool
  deriving DecidableEq

/-- `strtoul` in base 10 or 16: blanks, a sign, a prefix, digits.  Without a digit the text is left
as it was; a minus sign negates the number in the type. -/
def strtoul (base : ℕ) (text : List Char) : Converted :=
  let (negative, body) := scanSign (text.dropWhile isSpace)
  let body := if base = 16 then skipHexPrefix body else body
  let n := numeralValue base (body.takeWhile (isDigitOf base))
  let rest := body.dropWhile (isDigitOf base)
  if body.takeWhile (isDigitOf base) = [] then ⟨0, text, false⟩
  else if n ≥ 2 ^ 64 then ⟨2 ^ 64 - 1, rest, true⟩
  else if negative then ⟨(2 ^ 64 - n) % 2 ^ 64, rest, false⟩
  else ⟨n, rest, false⟩

/-- A text that begins with neither a blank nor a sign. -/
def Unsigned (text : List Char) : Prop :=
  ∀ c ∈ text.head?, isSpace c = false ∧ c ≠ '-' ∧ c ≠ '+'

theorem scanSign_of_unsigned {text : List Char} (h : Unsigned text) :
    scanSign (text.dropWhile isSpace) = (false, text) := by
  cases text with
  | nil => rfl
  | cons c text =>
    obtain ⟨hspace, hminus, hplus⟩ := h c rfl
    rw [List.dropWhile_cons_of_neg (by simp [hspace])]
    exact scanSign_of_ne hminus hplus text

/-- All of an unsigned text is a number of the base below a limit, or it is not. -/
theorem strtoul_of_unsigned {base limit : ℕ} (hlimit : limit < 2 ^ 64) {text : List Char}
    (hne : text ≠ []) (h : Unsigned text) (v : ℕ) :
    ((strtoul base text).erange = false ∧ (strtoul base text).rest = [] ∧
        (strtoul base text).value = v ∧ v ≤ limit) ↔
      let body := if base = 16 then skipHexPrefix text else text
      body ≠ [] ∧ (∀ c ∈ body, isDigitOf base c = true) ∧ numeralValue base body = v ∧
        v ≤ limit := by
  dsimp only
  set body := if base = 16 then skipHexPrefix text else text with hbody
  have heq : strtoul base text =
      if body.takeWhile (isDigitOf base) = [] then ⟨0, text, false⟩
      else if numeralValue base (body.takeWhile (isDigitOf base)) ≥ 2 ^ 64 then
        ⟨2 ^ 64 - 1, body.dropWhile (isDigitOf base), true⟩
      else
        ⟨numeralValue base (body.takeWhile (isDigitOf base)), body.dropWhile (isDigitOf base),
          false⟩ := by
    simp only [strtoul, scanSign_of_unsigned h, ← hbody, Bool.false_eq_true, if_false]
  constructor
  · rintro ⟨herange, hrest, hvalue, hle⟩
    rw [heq] at herange hrest hvalue
    split_ifs at herange hrest hvalue with hnone hbig
    · exact absurd hrest hne
    · have hall : ∀ c ∈ body, isDigitOf base c = true := List.dropWhile_eq_nil_iff.mp hrest
      rw [List.takeWhile_eq_self_iff.mpr hall] at hnone hvalue
      exact ⟨hnone, hall, hvalue, hle⟩
  · rintro ⟨hbodyne, hall, hvalue, hle⟩
    rw [heq, List.takeWhile_eq_self_iff.mpr hall, if_neg hbodyne, hvalue, if_neg (by omega)]
    exact ⟨rfl, List.dropWhile_eq_nil_iff.mpr hall, rfl, hle⟩

/-! ### What `strtoul` takes -/

/-- The parts of a text in which `strtoul` finds a hexadecimal number: blanks, a sign, a mark, the
digits and the rest.  The digits go as far as they can, and a mark with a digit behind it is none of
the rest. -/
structure HexReading (text blanks sign mark digits rest : List Char) : Prop where
  text_eq : text = blanks ++ (sign ++ (mark ++ (digits ++ rest)))
  blanks_space : ∀ c ∈ blanks, isSpace c = true
  sign_cases : sign = [] ∨ sign = ['+'] ∨ sign = ['-']
  mark_cases : mark = [] ∨ mark = ['0', 'x'] ∨ mark = ['0', 'X']
  digits_ne_nil : digits ≠ []
  digits_hex : ∀ c ∈ digits, isDigitOf 16 c = true
  rest_head : ∀ c ∈ rest.head?, isDigitOf 16 c = false
  rest_mark : mark = [] → digits = ['0'] → ∀ x c tail, rest = x :: c :: tail →
    x = 'x' ∨ x = 'X' → isDigitOf 16 c = false

/-- The number that `strtoul` makes of a sign and digits. -/
def signedValue (sign digits : List Char) : ℕ :=
  if numeralValue 16 digits ≥ 2 ^ 64 then 2 ^ 64 - 1
  else if sign = ['-'] then (2 ^ 64 - numeralValue 16 digits) % 2 ^ 64
  else numeralValue 16 digits

section HexReading

variable {text blanks sign mark digits rest : List Char}

/-- A hexadecimal digit is no blank, no sign and no mark. -/
theorem of_isDigitOf_hex {c : Char} (h : isDigitOf 16 c = true) :
    isSpace c = false ∧ c ≠ '-' ∧ c ≠ '+' ∧ c ≠ 'x' ∧ c ≠ 'X' := by
  refine ⟨not_isSpace_of (by decide) h, ?_, ?_, ?_, ?_⟩
  all_goals
    rintro rfl
    revert h
    decide

theorem skipHexPrefix_mark {x c : Char} (hx : x = 'x' ∨ x = 'X') (hc : isDigitOf 16 c = true)
    (tail : List Char) : skipHexPrefix ('0' :: x :: c :: tail) = c :: tail :=
  if_pos ⟨hx, hc⟩

namespace HexReading

theorem skipHexPrefix_eq (h : HexReading text blanks sign mark digits rest) :
    skipHexPrefix (mark ++ (digits ++ rest)) = digits ++ rest := by
  obtain ⟨d, ds, rfl⟩ := List.exists_cons_of_ne_nil h.digits_ne_nil
  have hd : isDigitOf 16 d = true := h.digits_hex d List.mem_cons_self
  rcases h.mark_cases with rfl | rfl | rfl
  · rw [List.nil_append, List.cons_append]
    unfold skipHexPrefix
    split
    · rename_i x c tail heq
      obtain ⟨rfl, hrest⟩ := List.cons.inj heq
      rw [hrest, if_neg]
      rintro ⟨hx, hc⟩
      cases ds with
      | nil =>
        have hc' := h.rest_mark rfl rfl x c tail hrest hx
        rw [hc] at hc'
        cases hc'
      | cons d' ds =>
        obtain ⟨rfl, -⟩ := List.cons.inj hrest
        obtain ⟨-, -, -, hlower, hupper⟩ := of_isDigitOf_hex (h.digits_hex d' (by simp))
        exact hx.elim hlower hupper
    · rfl
  · exact skipHexPrefix_mark (Or.inl rfl) hd _
  · exact skipHexPrefix_mark (Or.inr rfl) hd _

/-- The first character of the number is no blank and no sign. -/
theorem unsigned (h : HexReading text blanks sign mark digits rest) :
    Unsigned (mark ++ (digits ++ rest)) := by
  obtain ⟨d, ds, rfl⟩ := List.exists_cons_of_ne_nil h.digits_ne_nil
  obtain ⟨hspace, hminus, hplus, -⟩ := of_isDigitOf_hex (h.digits_hex d List.mem_cons_self)
  intro c hc
  rcases h.mark_cases with rfl | rfl | rfl
  · obtain rfl := Option.some.inj hc
    exact ⟨hspace, hminus, hplus⟩
  all_goals
    obtain rfl := Option.some.inj hc
    decide

theorem scanSign_eq (h : HexReading text blanks sign mark digits rest) :
    scanSign (text.dropWhile isSpace) = (decide (sign = ['-']), mark ++ (digits ++ rest)) := by
  have hunsigned := scanSign_of_unsigned h.unsigned
  rw [h.text_eq, List.dropWhile_append_of_pos h.blanks_space]
  rcases h.sign_cases with rfl | rfl | rfl
  · exact hunsigned
  · rfl
  · rfl

/-- What `strtoul` makes of such a text. -/
theorem strtoul_eq (h : HexReading text blanks sign mark digits rest) :
    (strtoul 16 text).value = signedValue sign digits ∧ (strtoul 16 text).rest = rest := by
  have htake := takeWhile_run h.digits_hex h.rest_head
  have hdrop := dropWhile_run h.digits_hex h.rest_head
  simp only [strtoul, h.scanSign_eq, if_true, h.skipHexPrefix_eq, htake, hdrop,
    if_neg h.digits_ne_nil, signedValue, decide_eq_true_eq]
  split_ifs <;> exact ⟨rfl, rfl⟩

theorem rest_ne (h : HexReading text blanks sign mark digits rest) :
    (strtoul 16 text).rest ≠ text := by
  intro heq
  have hlen := congrArg List.length (h.strtoul_eq.2.symm.trans heq)
  have hpos := List.length_pos_of_ne_nil h.digits_ne_nil
  rw [h.text_eq] at hlen
  simp only [List.length_append] at hlen
  omega

end HexReading

theorem exists_sign (text : List Char) :
    ∃ sign, (sign = [] ∨ sign = ['+'] ∨ sign = ['-']) ∧ text = sign ++ (scanSign text).2 := by
  unfold scanSign
  split
  · exact ⟨['-'], Or.inr (Or.inr rfl), rfl⟩
  · exact ⟨['+'], Or.inr (Or.inl rfl), rfl⟩
  · exact ⟨[], Or.inl rfl, rfl⟩

theorem exists_mark (text : List Char) :
    ∃ mark, (mark = [] ∨ mark = ['0', 'x'] ∨ mark = ['0', 'X']) ∧
      text = mark ++ skipHexPrefix text ∧
      (mark = [] → ∀ x c tail, text = '0' :: x :: c :: tail → x = 'x' ∨ x = 'X' →
        isDigitOf 16 c = false) := by
  by_cases hmark : ∃ x c tail, text = '0' :: x :: c :: tail ∧ (x = 'x' ∨ x = 'X') ∧
      isDigitOf 16 c = true
  · obtain ⟨x, c, tail, rfl, hx, hc⟩ := hmark
    refine ⟨['0', x], ?_, ?_, fun hnil => by cases hnil⟩
    · rcases hx with rfl | rfl
      · exact Or.inr (Or.inl rfl)
      · exact Or.inr (Or.inr rfl)
    · rw [skipHexPrefix_mark hx hc]
      rfl
  · have hsame : skipHexPrefix text = text := by
      unfold skipHexPrefix
      split
      · rename_i x c tail
        exact if_neg fun hx => hmark ⟨x, c, tail, rfl, hx⟩
      · rfl
    refine ⟨[], Or.inl rfl, by rw [hsame, List.nil_append], fun _ x c tail htext hx => ?_⟩
    by_contra hc
    exact hmark ⟨x, c, tail, htext, hx, Bool.not_eq_false _ ▸ hc⟩

/-- Where `strtoul` takes something, it finds such parts. -/
theorem exists_hexReading (h : (strtoul 16 text).rest ≠ text) :
    ∃ blanks sign mark digits rest, HexReading text blanks sign mark digits rest := by
  obtain ⟨sign, hsign, hbody⟩ := exists_sign (text.dropWhile isSpace)
  obtain ⟨mark, hmark, hnumber, hunmarked⟩ := exists_mark (scanSign (text.dropWhile isSpace)).2
  set number := skipHexPrefix (scanSign (text.dropWhile isSpace)).2 with hnumber'
  have hsplit : number.takeWhile (isDigitOf 16) ++ number.dropWhile (isDigitOf 16) = number :=
    List.takeWhile_append_dropWhile
  have hdigits : number.takeWhile (isDigitOf 16) ≠ [] := fun hnil => h (by
    simp only [strtoul, if_true, ← hnumber', hnil])
  refine ⟨text.takeWhile isSpace, sign, mark, number.takeWhile (isDigitOf 16),
    number.dropWhile (isDigitOf 16), ?_, fun c => List.mem_takeWhile_imp, hsign, hmark, hdigits,
    fun c => List.mem_takeWhile_imp, fun c hc => ?_, ?_⟩
  · rw [hsplit, ← hnumber, ← hbody, List.takeWhile_append_dropWhile]
  · have hhead := List.head?_dropWhile_not (isDigitOf 16) number
    rwa [hc] at hhead
  · intro hnil hzero x c tail hrest hx
    refine hunmarked hnil x c tail ?_ hx
    rw [hnumber, hnil, List.nil_append, ← hsplit, hzero, hrest]
    rfl

end HexReading

/-! ### `strtoll` -/

/-- What a call of `strtoll` returns: the number, the text behind it, and whether `errno` was set to
`ERANGE`. -/
structure ConvertedLong where
  value : ℤ
  rest : List Char
  erange : Bool
  deriving DecidableEq

/-- `strtoll` in base 10: blanks, a sign, digits.  Without a digit the text is left as it was; a
number that 64 bits do not hold saturates. -/
def strtoll (text : List Char) : ConvertedLong :=
  let (negative, body) := scanSign (text.dropWhile isSpace)
  let magnitude : ℤ := Nat.ofDigitChars 10 (body.takeWhile Char.isDigit) 0
  let n := if negative then -magnitude else magnitude
  if body.takeWhile Char.isDigit = [] then ⟨0, text, false⟩
  else ⟨clampLong n, body.dropWhile Char.isDigit, clampLong n ≠ n⟩

theorem length_scanSign_le (text : List Char) : (scanSign text).2.length ≤ text.length := by
  unfold scanSign
  split <;> simp

/-- The end pointer has not moved exactly when there is no digit. -/
theorem strtoll_rest_eq_iff (text : List Char) :
    (strtoll text).rest = text ↔
      (scanSign (text.dropWhile isSpace)).2.takeWhile Char.isDigit = [] := by
  by_cases h : (scanSign (text.dropWhile isSpace)).2.takeWhile Char.isDigit = []
  · simp [strtoll, h]
  · have hrest : (strtoll text).rest =
        (scanSign (text.dropWhile isSpace)).2.dropWhile Char.isDigit := by
      simp only [strtoll, if_neg h]
    refine iff_of_false (fun heq => ?_) h
    have hlen := congrArg List.length (hrest.symm.trans heq)
    have hsign := length_scanSign_le (text.dropWhile isSpace)
    have hspace := (List.dropWhile_sublist isSpace (l := text)).length_le
    have hdigits := List.length_pos_of_ne_nil h
    have hsplit := congrArg List.length (List.takeWhile_append_dropWhile (p := Char.isDigit)
      (l := (scanSign (text.dropWhile isSpace)).2))
    rw [List.length_append] at hsplit
    omega

/-- A blank behind a text changes nothing in its sign and its digits. -/
theorem scanSign_append_space {c : Char} (hc : isSpace c = true) (text : List Char) :
    (scanSign ((text ++ [c]).dropWhile isSpace)).1 = (scanSign (text.dropWhile isSpace)).1 ∧
      (scanSign ((text ++ [c]).dropWhile isSpace)).2.takeWhile Char.isDigit =
        (scanSign (text.dropWhile isSpace)).2.takeWhile Char.isDigit := by
  have hdigit : c.isDigit = false := by
    by_contra h
    rw [Bool.not_eq_false] at h
    rw [not_isSpace_of_isDigit h] at hc
    cases hc
  have htake : ∀ l : List Char, (l ++ [c]).takeWhile Char.isDigit = l.takeWhile Char.isDigit := by
    intro l
    rw [List.takeWhile_append]
    split_ifs with hl
    · rw [List.takeWhile_cons_of_neg (by simp [hdigit]), List.append_nil,
        (List.takeWhile_prefix Char.isDigit).eq_of_length hl]
    · rfl
  cases hdrop : text.dropWhile isSpace with
  | nil =>
    have hnil : (text ++ [c]).dropWhile isSpace = [] := by
      rw [List.dropWhile_append, hdrop]
      simp [hc]
    rw [hnil]
    exact ⟨rfl, rfl⟩
  | cons d ds =>
    have hcons : (text ++ [c]).dropWhile isSpace = d :: (ds ++ [c]) := by
      rw [List.dropWhile_append, hdrop]
      simp
    rw [hcons]
    by_cases hminus : d = '-'
    · subst hminus
      exact ⟨rfl, htake ds⟩
    · by_cases hplus : d = '+'
      · subst hplus
        exact ⟨rfl, htake ds⟩
      · rw [scanSign_of_ne hminus hplus, scanSign_of_ne hminus hplus]
        exact ⟨rfl, htake (d :: ds)⟩

/-- A blank behind a text changes nothing in the number that `strtoll` finds. -/
theorem strtoll_append_space {c : Char} (hc : isSpace c = true) (text : List Char) :
    (strtoll (text ++ [c])).value = (strtoll text).value ∧
      (strtoll (text ++ [c])).erange = (strtoll text).erange ∧
      ((strtoll (text ++ [c])).rest = text ++ [c] ↔ (strtoll text).rest = text) := by
  obtain ⟨hsign, hdigits⟩ := scanSign_append_space hc text
  refine ⟨?_, ?_, ?_⟩
  · simp only [strtoll, hsign, hdigits]
    split_ifs <;> rfl
  · simp only [strtoll, hsign, hdigits]
    split_ifs <;> rfl
  · rw [strtoll_rest_eq_iff, strtoll_rest_eq_iff, hdigits]

/-- `strtoll` reads back what `%lld` printed. -/
theorem strtoll_decimal {n : ℤ} (h₁ : -2 ^ 63 ≤ n) (h₂ : n < 2 ^ 63) :
    strtoll (decimal n) = ⟨n, [], false⟩ := by
  have hds : ∀ c ∈ Nat.toDigits 10 n.natAbs, c.isDigit := fun c => isDigit_of_mem_toDigits
  have hrest : ∀ c ∈ ([] : List Char).head?, c.isDigit = false := by simp
  have htake := takeWhile_run hds hrest
  have hdrop := dropWhile_run hds hrest
  have hsign := scanSign_decimal n []
  have hval : Nat.ofDigitChars 10 (Nat.toDigits 10 n.natAbs) 0 = n.natAbs :=
    Nat.ofDigitChars_ten_toDigits
  obtain ⟨hn, hclamp⟩ := clampLong_natAbs h₁ h₂
  rw [List.append_nil] at htake hdrop hsign
  unfold strtoll
  simp only [hsign, List.append_nil, htake, hdrop, hval, Nat.toDigits_ne_nil, if_false, hn, hclamp,
    ne_eq, not_true_eq_false, decide_false]

/-! ### `strtok` -/

/-- The string at a position of a buffer: what stands before the first zero. -/
def stringAt (buffer : List Char) (pos : ℕ) : List Char :=
  (buffer.drop pos).takeWhile (· ≠ '\x00')

/-- What a call of `strtok` does: the position of the token, or `none` for `NULL`, the position that
is saved for the next call, and the buffer. -/
structure Token where
  token : Option ℕ
  saved : ℕ
  buffer : List Char
  deriving DecidableEq

/-- `strtok`: skip the separators, take the run behind them, and end it with a zero. -/
def strtok (delim : Char → Bool) (buffer : List Char) (pos : ℕ) : Token :=
  let start := pos + ((buffer.drop pos).takeWhile delim).length
  let run := (stringAt buffer start).takeWhile fun c => ! delim c
  if run = [] then ⟨none, start, buffer⟩
  else
    let stop := start + run.length
    if buffer.getD stop '\x00' = '\x00' then ⟨some start, stop, buffer⟩
    else ⟨some start, stop + 1, buffer.set stop '\x00'⟩

section Strtok

variable {delim : Char → Bool} {pre seps run tail : List Char}

/-- A text that is over, because there is none or because of a zero. -/
def IsOver (tail : List Char) : Prop := ∀ c ∈ tail.head?, c = '\x00'

theorem takeWhile_of_isOver (h : IsOver tail) {p : Char → Bool} (hp : p '\x00' = false) :
    tail.takeWhile p = [] := by
  cases tail with
  | nil => rfl
  | cons c tail =>
    obtain rfl : c = '\x00' := h c rfl
    rw [List.takeWhile_cons_of_neg (by rw [hp]; decide)]

theorem drop_pre (pre text : List Char) : (pre ++ text).drop pre.length = text := List.drop_left

/-- A position counted from the end of a first part. -/
theorem drop_pre_add (pre text : List Char) (n : ℕ) :
    (pre ++ text).drop (pre.length + n) = text.drop n := by
  rw [← List.drop_drop, drop_pre]

/-- The separators before something else. -/
theorem takeWhile_seps (hseps : ∀ c ∈ seps, delim c = true)
    (hhead : ∀ c ∈ tail.head?, delim c = false) : (seps ++ tail).takeWhile delim = seps := by
  rw [List.takeWhile_append_of_pos hseps]
  cases tail with
  | nil => rw [List.takeWhile_nil, List.append_nil]
  | cons c tail =>
    rw [List.takeWhile_cons_of_neg (by rw [hhead c rfl]; decide), List.append_nil]

/-- A text without zeros and what follows it. -/
theorem takeWhile_string {text : List Char} (h : '\x00' ∉ text) (tail : List Char) :
    (text ++ tail).takeWhile (· ≠ '\x00') = text ++ tail.takeWhile (· ≠ '\x00') := by
  refine List.takeWhile_append_of_pos fun c hc => ?_
  rw [decide_eq_true_eq]
  rintro rfl
  exact h hc

/-- The string at the start of a token behind which a zero stands. -/
theorem stringAt_token (hrun : '\x00' ∉ run) (htail : IsOver tail) :
    stringAt (pre ++ (seps ++ (run ++ tail))) (pre.length + seps.length) = run := by
  rw [stringAt, drop_pre_add, List.drop_left, takeWhile_string hrun,
    takeWhile_of_isOver htail (by decide), List.append_nil]

/-- The string behind a token. -/
theorem stringAt_behind (pre seps run tail : List Char) :
    stringAt (pre ++ (seps ++ (run ++ tail))) (pre.length + seps.length + run.length) =
      tail.takeWhile (· ≠ '\x00') := by
  rw [stringAt, Nat.add_assoc, drop_pre_add, drop_pre_add, drop_pre]

theorem not_of_mem_head?_dropWhile {p : Char → Bool} {text : List Char} {c : Char}
    (h : c ∈ (text.dropWhile p).head?) : p c = false := by
  have hnot := List.head?_dropWhile_not p text
  rwa [Option.mem_def.mp h] at hnot

/-- Where a call finds the separators, the token, and what stands behind it. -/
theorem exists_token_split (delim : Char → Bool) {buffer : List Char} {pos : ℕ}
    (hpos : pos ≤ buffer.length) :
    ∃ pre seps run tail, buffer = pre ++ (seps ++ (run ++ tail)) ∧ pre.length = pos ∧
      (∀ c ∈ seps, delim c = true) ∧ (∀ c ∈ run, delim c = false ∧ c ≠ '\x00') ∧
      (∀ c ∈ tail.head?, delim c = true ∨ c = '\x00') ∧ (run = [] → IsOver tail) := by
  set text := buffer.drop pos
  set rest := text.dropWhile delim
  set inRun : Char → Bool := fun c => ! delim c && c ≠ '\x00' with hinRun
  have htail : ∀ c ∈ (rest.dropWhile inRun).head?, delim c = true ∨ c = '\x00' := by
    intro c hc
    have hout := not_of_mem_head?_dropWhile hc
    rw [hinRun] at hout
    simpa [or_iff_not_imp_left] using hout
  refine ⟨buffer.take pos, text.takeWhile delim, rest.takeWhile inRun, rest.dropWhile inRun, ?_,
    ?_, ?_, ?_, htail, ?_⟩
  · rw [List.takeWhile_append_dropWhile, List.takeWhile_append_dropWhile, List.take_append_drop]
  · rw [List.length_take, Nat.min_eq_left hpos]
  · exact fun c hc => List.mem_takeWhile_imp hc
  · intro c hc
    have hin := List.mem_takeWhile_imp hc
    rw [hinRun] at hin
    simpa using hin
  · -- without a run the rest begins with neither a separator nor a character of one
    intro hnil c hc
    have hsame : rest.dropWhile inRun = rest := by
      have hsplit := List.takeWhile_append_dropWhile (p := inRun) (l := rest)
      rwa [hnil, List.nil_append] at hsplit
    refine (htail c hc).resolve_left ?_
    rw [hsame] at hc
    simp [not_of_mem_head?_dropWhile hc]

variable (hdelim : delim '\x00' = false)

include hdelim

theorem ne_zero_of_delim {c : Char} (hc : delim c = true) : c ≠ '\x00' := by
  rintro rfl
  rw [hdelim] at hc
  cases hc

variable (hseps : ∀ c ∈ seps, delim c = true)

include hseps

/-- No token is left. -/
theorem strtok_of_over (htail : IsOver tail) :
    strtok delim (pre ++ (seps ++ tail)) pre.length =
      ⟨none, pre.length + seps.length, pre ++ (seps ++ tail)⟩ := by
  have hhead : ∀ c ∈ tail.head?, delim c = false := fun c hc => by rw [htail c hc, hdelim]
  have hstring : stringAt (pre ++ (seps ++ tail)) (pre.length + seps.length) = [] := by
    rw [stringAt, drop_pre_add, List.drop_left]
    exact takeWhile_of_isOver htail (by decide)
  unfold strtok
  simp only [drop_pre, takeWhile_seps hseps hhead, hstring, List.takeWhile_nil, if_true]

variable (hrun : ∀ c ∈ run, delim c = false ∧ c ≠ '\x00') (hne : run ≠ [])

include hrun hne

/-- A token, before the zero is written. -/
theorem strtok_of_run (htail : ∀ c ∈ tail.head?, delim c = true ∨ c = '\x00') :
    strtok delim (pre ++ (seps ++ (run ++ tail))) pre.length =
      if tail.getD 0 '\x00' = '\x00' then
        ⟨some (pre.length + seps.length), pre.length + seps.length + run.length,
          pre ++ (seps ++ (run ++ tail))⟩
      else
        ⟨some (pre.length + seps.length), pre.length + seps.length + run.length + 1,
          (pre ++ (seps ++ (run ++ tail))).set (pre.length + seps.length + run.length)
            '\x00'⟩ := by
  have hhead : ∀ c ∈ (run ++ tail).head?, delim c = false := by
    obtain ⟨c, run', rfl⟩ := List.exists_cons_of_ne_nil hne
    intro c' hc'
    obtain rfl : c = c' := by simpa using hc'
    exact (hrun c List.mem_cons_self).1
  have hstring : (stringAt (pre ++ (seps ++ (run ++ tail))) (pre.length + seps.length)).takeWhile
      (fun c => ! delim c) = run := by
    rw [stringAt, drop_pre_add, List.drop_left,
      List.takeWhile_append_of_pos fun c hc => by simpa using (hrun c hc).2,
      List.takeWhile_append_of_pos fun c hc => by simpa using (hrun c hc).1]
    cases tail with
    | nil => simp
    | cons c tail =>
      rcases htail c rfl with hc | rfl
      · simp [hc, ne_zero_of_delim hdelim hc]
      · simp
  have hstop : (pre ++ (seps ++ (run ++ tail))).getD (pre.length + seps.length + run.length)
      '\x00' = tail.getD 0 '\x00' := by
    rw [List.getD_eq_getElem?_getD, List.getD_eq_getElem?_getD, Nat.add_assoc,
      List.getElem?_append_right (Nat.le_add_right _ _), Nat.add_sub_cancel_left,
      List.getElem?_append_right (Nat.le_add_right _ _), Nat.add_sub_cancel_left,
      List.getElem?_append_right le_rfl, Nat.sub_self]
  unfold strtok
  simp only [drop_pre, takeWhile_seps hseps hhead, hstring, hne, if_false, hstop]

/-- The last token of a string. -/
theorem strtok_last (htail : IsOver tail) :
    strtok delim (pre ++ (seps ++ (run ++ tail))) pre.length =
      ⟨some (pre.length + seps.length), pre.length + seps.length + run.length,
        pre ++ (seps ++ (run ++ tail))⟩ := by
  have hzero : tail.getD 0 '\x00' = '\x00' := by
    cases tail with
    | nil => rfl
    | cons c tail => exact htail c rfl
  rw [strtok_of_run hdelim hseps hrun hne fun c hc => Or.inr (htail c hc), if_pos hzero]

/-- A token with a separator behind it, which the zero replaces. -/
theorem strtok_next {c : Char} (hc : delim c = true) :
    strtok delim (pre ++ (seps ++ (run ++ c :: tail))) pre.length =
      ⟨some (pre.length + seps.length), pre.length + seps.length + run.length + 1,
        pre ++ (seps ++ (run ++ '\x00' :: tail))⟩ := by
  have hzero : (c :: tail).getD 0 '\x00' ≠ '\x00' := ne_zero_of_delim hdelim hc
  have htail : ∀ c' ∈ (c :: tail).head?, delim c' = true ∨ c' = '\x00' := by
    intro c' hc'
    obtain rfl : c = c' := by simpa using hc'
    exact Or.inl hc
  have hset : (pre ++ (seps ++ (run ++ c :: tail))).set (pre.length + seps.length + run.length)
      '\x00' = pre ++ (seps ++ (run ++ '\x00' :: tail)) := by
    rw [Nat.add_assoc, List.set_append_right _ _ (Nat.le_add_right _ _), Nat.add_sub_cancel_left,
      List.set_append_right _ _ (Nat.le_add_right _ _), Nat.add_sub_cancel_left,
      List.set_append_right _ _ le_rfl, Nat.sub_self, List.set_cons_zero]
  rw [strtok_of_run hdelim hseps hrun hne htail, if_neg hzero, hset]

omit hseps hrun hne in
/-- The calls of `strtok` give the pieces of a string one by one. -/
theorem strtok_spec {buffer : List Char} {pos : ℕ} (hpos : pos ≤ buffer.length) :
    let r := strtok delim buffer pos
    r.saved ≤ r.buffer.length ∧
      match pieces delim (stringAt buffer pos) with
      | [] => r.token = none
      | t :: ts => ∃ start, r.token = some start ∧ stringAt r.buffer start = t ∧
          pieces delim (stringAt r.buffer r.saved) = ts := by
  obtain ⟨pre, seps, run, tail, rfl, rfl, hseps, hrun, htail, hover⟩ :=
    exists_token_split delim hpos
  have hsepsZero : '\x00' ∉ seps := fun hmem => ne_zero_of_delim hdelim (hseps _ hmem) rfl
  have hrunZero : '\x00' ∉ run := fun hmem => (hrun _ hmem).2 rfl
  have hdelims : ∀ c ∈ run, delim c = false := fun c hc => (hrun c hc).1
  have hstring : stringAt (pre ++ (seps ++ (run ++ tail))) pre.length =
      seps ++ (run ++ tail.takeWhile (· ≠ '\x00')) := by
    rw [stringAt, drop_pre, takeWhile_string hsepsZero, takeWhile_string hrunZero]
  rw [hstring, pieces_append_of_sep hseps]
  by_cases hne : run = []
  · subst hne
    have htail' := hover rfl
    rw [List.nil_append, List.nil_append, takeWhile_of_isOver htail' (by decide), pieces_nil,
      strtok_of_over hdelim hseps htail']
    exact ⟨by simp, rfl⟩
  · by_cases htail' : IsOver tail
    · rw [takeWhile_of_isOver htail' (by decide), List.append_nil, pieces_of_run hdelims hne,
        strtok_last hdelim hseps hrun hne htail']
      refine ⟨by simp [Nat.add_assoc], _, rfl, stringAt_token hrunZero htail', ?_⟩
      rw [stringAt_behind, takeWhile_of_isOver htail' (by decide), pieces_nil]
    · obtain ⟨c, tail, rfl⟩ : ∃ c tail', tail = c :: tail' := by
        cases tail with
        | nil => exact absurd (by simp [IsOver]) htail'
        | cons c tail => exact ⟨c, tail, rfl⟩
      have hc : delim c = true := by
        refine (htail c rfl).resolve_right fun hnil => htail' fun c' hc' => ?_
        obtain rfl : c = c' := by simpa using hc'
        exact hnil
      rw [List.takeWhile_cons_of_pos (by simpa using ne_zero_of_delim hdelim hc),
        pieces_append_cons hdelims hne hc, strtok_next hdelim hseps hrun hne hc]
      refine ⟨by simp [Nat.add_assoc], _, rfl, stringAt_token hrunZero (by simp [IsOver]), ?_⟩
      -- the next call starts behind the zero that this one has written
      have hrest := stringAt_behind pre seps (run ++ ['\x00']) tail
      rw [List.length_append, List.length_singleton, ← Nat.add_assoc, List.append_assoc,
        List.singleton_append] at hrest
      rw [hrest]

end Strtok

/-! ### `fgets` -/

/-- What `fgets` takes off a text: up to the first line end, and less than `size` characters. -/
def fgetsText (size : ℕ) (text : List Char) : List Char :=
  let line := text.takeWhile (· ≠ '\n')
  (line ++ (text.drop line.length).take 1).take (size - 1)

/-- A line with what follows it: it ends with the only line end in it, or with the text. -/
def IsTextLine (line rest : List Char) : Prop :=
  ∃ body, '\n' ∉ body ∧ (line = body ++ ['\n'] ∨ line = body ∧ body ≠ [] ∧ rest = [])

theorem fgetsText_of_line {size : ℕ} {line rest : List Char} (h : IsTextLine line rest)
    (hlen : line.length < size) : fgetsText size (line ++ rest) = line := by
  obtain ⟨body, hbody, hline⟩ := h
  have hall : ∀ c ∈ body, decide (c ≠ '\n') = true := by
    intro c hc
    rw [decide_eq_true_eq]
    rintro rfl
    exact hbody hc
  have htake : line.take (size - 1) = line := List.take_of_length_le (by omega)
  unfold fgetsText
  rcases hline with rfl | ⟨rfl, -, rfl⟩
  · have hwhile : (body ++ ['\n'] ++ rest).takeWhile (· ≠ '\n') = body := by
      rw [List.append_assoc, List.takeWhile_append_of_pos hall, List.singleton_append,
        List.takeWhile_cons_of_neg (by decide), List.append_nil]
    simp only [hwhile]
    rw [List.append_assoc, List.drop_left, List.singleton_append, List.take_succ_cons,
      List.take_zero, htake]
  · simp only [List.append_nil, List.takeWhile_eq_self_iff.mpr hall, List.drop_length,
      List.take_nil, htake]

/-- What the calls of `fgets` take off a text one after the other, `n` of them at most.  Each takes
a character at least, so as many calls as there are characters take all of it. -/
def fgetsLines (size : ℕ) : ℕ → List Char → List (List Char)
  | 0, _ => []
  | n + 1, text =>
      if fgetsText size text = [] then []
      else fgetsText size text ::
        fgetsLines size n (text.drop (fgetsText size text).length)

section FgetsLines

variable {size n : ℕ} {body rest : List Char}

@[simp] theorem fgetsLines_nil (size n : ℕ) : fgetsLines size n [] = [] := by
  cases n <;> simp [fgetsLines, fgetsText]

/-- A call that takes `line` off, and the calls after it. -/
theorem fgetsLines_succ {line : List Char} (hne : line ≠ [])
    (h : fgetsText size (line ++ rest) = line) :
    fgetsLines size (n + 1) (line ++ rest) = line :: fgetsLines size n rest := by
  rw [fgetsLines, h, if_neg hne, List.drop_left]

/-- A line that fills the buffer is taken off without its end. -/
theorem fgetsText_of_full (hbody : '\n' ∉ body) (hlen : body.length = size - 1) (rest : List Char) :
    fgetsText size (body ++ '\n' :: rest) = body := by
  have hwhile : (body ++ '\n' :: rest).takeWhile (· ≠ '\n') = body := by
    rw [List.takeWhile_append_of_pos fun c hc => by
      rw [decide_eq_true_eq]
      rintro rfl
      exact hbody hc, List.takeWhile_cons_of_neg (by decide), List.append_nil]
  unfold fgetsText
  simp only [hwhile]
  rw [← hlen, List.take_left]

/-- What is made of a text line by line does not depend on where the buffer cuts the lines, if no
line is longer than the buffer and the line ends add nothing. -/
theorem filterMap_fgetsLines {β : Type*} {f : List Char → Option β} (hsize : 1 < size)
    (hnil : f [] = none) (hend : ∀ body, '\n' ∉ body → f (body ++ ['\n']) = f body)
    {text : List Char} (hshort : ∀ line ∈ text.splitOn '\n', line.length < size)
    (hn : text.length ≤ n) :
    (fgetsLines size n text).filterMap f = (text.splitOn '\n').filterMap f := by
  induction n using Nat.strong_induction_on generalizing text with
  | _ n ih =>
    by_cases hmem : '\n' ∈ text
    · obtain ⟨body, rest, rfl, hbody⟩ := List.eq_append_cons_of_mem hmem
      rw [List.splitOn_append_cons_self_of_not_mem hbody] at hshort ⊢
      obtain ⟨hline, hrest⟩ := List.forall_mem_cons.mp hshort
      rw [List.length_append, List.length_cons] at hn
      obtain ⟨n, rfl⟩ : ∃ m, n = m + 1 := ⟨n - 1, by omega⟩
      by_cases hfull : body.length + 1 < size
      · have htext : fgetsText size (body ++ ['\n'] ++ rest) = body ++ ['\n'] :=
          fgetsText_of_line ⟨body, hbody, Or.inl rfl⟩ (by simpa using hfull)
        rw [List.append_cons, fgetsLines_succ (by simp) htext, List.filterMap_cons, hend body hbody,
          ih n (by omega) hrest (by omega), ← List.filterMap_cons]
      · -- the line fills the buffer, and its end is a line of its own
        have hne : body ≠ [] := by
          rintro rfl
          exact hfull (by simpa using hsize)
        have hpos := List.length_pos_of_ne_nil hne
        obtain ⟨n, rfl⟩ : ∃ m, n = m + 1 := ⟨n - 1, by omega⟩
        have hempty : fgetsText size (['\n'] ++ rest) = ['\n'] :=
          fgetsText_of_line ⟨[], by simp, Or.inl rfl⟩ (by simpa using hsize)
        have hnone : f ['\n'] = none := (hend [] (by simp)).trans hnil
        rw [fgetsLines_succ hne (fgetsText_of_full hbody (by omega) rest), List.filterMap_cons,
          ← List.singleton_append, fgetsLines_succ (by simp) hempty, List.filterMap_cons_none hnone,
          ih n (by omega) hrest (by omega), ← List.filterMap_cons]
    · rw [List.splitOn_eq_singleton hmem] at hshort ⊢
      by_cases hne : text = []
      · subst hne
        simp [hnil]
      · have hlen := hshort text (by simp)
        have hpos := List.length_pos_of_ne_nil hne
        obtain ⟨n, rfl⟩ : ∃ m, n = m + 1 := ⟨n - 1, by omega⟩
        have htext : fgetsText size (text ++ []) = text :=
          fgetsText_of_line ⟨text, hmem, Or.inr ⟨rfl, hne, rfl⟩⟩ hlen
        have hlines := fgetsLines_succ (n := n) hne htext
        rw [List.append_nil, fgetsLines_nil] at hlines
        rw [hlines]

end FgetsLines

end CText
