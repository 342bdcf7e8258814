import Gateway.Simulator.Threads

/-!
# `client-sensors.c`: the lines of the data file

A thread of the simulator that runs alone, from one call of `fgets` to the next.

* `handleLine` is such a pass; `packetOf` is what the tokens of a line give, and `handleLine_spec`
  says that the pass sends just that;
* `Grammar` is the grammar of the data file, `TYPE ID DATA_BYTES`;
* `line_grammar`: when the packet of a line is the one that the grammar gives it.
-/

namespace Gateway
namespace Simulator

open CText

section Lines

variable {ι : Type} [DecidableEq ι] {file : List Char} {i : ι} {n : ℕ} {s : Process ι}

/-! ### One line -/

/-- At most `n` steps of a thread up to its next call of `fgets`. -/
def untilTop (file : List Char) (i : ι) : ℕ → Process ι → Process ι
  | 0, s => s
  | n + 1, s =>
      if (s.threads i).place = .top then s else untilTop file i n (step file s i true)

/-- A pass of the inner loop: a call of `fgets` and what is done with the line, which takes 31 steps
at most. -/
def handleLine (file : List Char) (i : ι) (s : Process ι) : Process ι :=
  untilTop file i 31 (step file s i true)

/-- The packet of the values of a line. -/
def packetFor (typeValue idValue : ℕ) (data : List UInt8) : List UInt8 :=
  buildPacket (UInt8.ofNat typeValue) (UInt16.ofNat idValue) data (UInt16.ofNat data.length)

/-- The data bytes of the tokens, if all of them are bytes. -/
def readData : List (List Char) → Option (List UInt8)
  | [] => some []
  | token :: tokens =>
      match convert 16 255 token, readData tokens with
      | some value, some data => some (UInt8.ofNat value :: data)
      | _, _ => none

/-- What is sent for the tokens behind the type; the data loop looks at no more than twelve of
them. -/
def packetAfter (typeValue : ℕ) : List (List Char) → Option (List UInt8)
  | [] => none
  | idToken :: tokens =>
      (convert 10 65535 idToken).bind fun idValue =>
        (readData (tokens.take maxDataSize)).map (packetFor typeValue idValue)

/-- What is sent for the tokens of a line. -/
def packetOf : List (List Char) → Option (List UInt8)
  | [] => none
  | typeToken :: tokens =>
      (convert 16 255 typeToken).bind fun typeValue => packetAfter typeValue tokens

/-- Within `n` steps the thread gets to the top of its loop and has sent `packets`. -/
structure Sends (file : List Char) (i : ι) (n : ℕ) (s : Process ι) (packets : List (List UInt8)) :
    Prop where
  place : ((untilTop file i n s).threads i).place = .top
  offset : ((untilTop file i n s).threads i).offset = (s.threads i).offset
  sent : ((untilTop file i n s).threads i).sent = (s.threads i).sent ++ packets

/-- The tokens that the next calls of `strtok(NULL, ...)` give. -/
def Left (s : Process ι) (i : ι) (tokens : List (List Char)) : Prop :=
  ∃ pos, s.saved = some (i, pos) ∧ pos ≤ (s.threads i).line.length ∧
    pieces isDelim (stringAt (s.threads i).line pos) = tokens

variable {packets : List (List UInt8)} {tokens : List (List Char)}

theorem sends_of_top (h : (s.threads i).place = .top) (n : ℕ) : Sends file i n s [] := by
  have hsame : untilTop file i n s = s := by
    cases n with
    | zero => rfl
    | succ n => rw [untilTop, if_pos h]
  exact ⟨by rw [hsame]; exact h, by rw [hsame], by rw [hsame, List.append_nil]⟩

theorem Sends.of_step (hne : (s.threads i).place ≠ .top) {s' : Process ι}
    (hs' : step file s i true = s') (hoffset : (s'.threads i).offset = (s.threads i).offset)
    (hsent : (s'.threads i).sent = (s.threads i).sent) (h : Sends file i n s' packets) :
    Sends file i (n + 1) s packets := by
  have hstep : untilTop file i (n + 1) s = untilTop file i n s' := by
    rw [untilTop, if_neg hne, hs']
  exact ⟨by rw [hstep]; exact h.place, by rw [hstep, h.offset, hoffset],
    by rw [hstep, h.sent, hsent]⟩

@[simp] theorem place_goto (s : Process ι) (i : ι) (place : Place ι) :
    ((s.goto i place).threads i).place = place := by simp [Process.goto]

@[simp] theorem offset_goto (s : Process ι) (i : ι) (place : Place ι) :
    ((s.goto i place).threads i).offset = (s.threads i).offset := by simp [Process.goto]

@[simp] theorem line_goto (s : Process ι) (i j : ι) (place : Place ι) :
    ((s.goto i place).threads j).line = (s.threads j).line := by
  by_cases h : j = i
  · subst h
    simp [Process.goto]
  · simp [Process.goto, h]

theorem Left.goto (h : Left s i tokens) (place : Place ι) : Left (s.goto i place) i tokens := by
  obtain ⟨pos, hsaved, hpos, htokens⟩ := h
  exact ⟨pos, hsaved, by rwa [line_goto], by rwa [line_goto]⟩

/-- A call of `strtok` on a line: the next token and those behind it, or `NULL`. -/
theorem strtok_line {pos : ℕ} (hpos : pos ≤ (s.threads i).line.length)
    (htokens : pieces isDelim (stringAt (s.threads i).line pos) = tokens) :
    ∃ token s', s.strtok (some (i, pos)) = (token, s') ∧
      (s'.threads i).offset = (s.threads i).offset ∧ (s'.threads i).sent = (s.threads i).sent ∧
      match tokens with
      | [] => token = none
      | t :: ts => ∃ p, token = some p ∧ s'.string p = t ∧ Left s' i ts := by
  have hzero : isDelim '\x00' = false := by decide
  obtain ⟨hsaved, hspec⟩ := strtok_spec hzero hpos
  rw [htokens] at hspec
  refine ⟨_, _, rfl, by simp, by simp, ?_⟩
  cases tokens with
  | nil =>
    have hnone : (CText.strtok isDelim (s.threads i).line pos).token = none := hspec
    simp [hnone]
  | cons t ts =>
    obtain ⟨start, htoken, hstring, hrest⟩ := hspec
    refine ⟨(i, start), by simp [htoken], ?_, _, rfl, ?_, ?_⟩
    · simpa [Process.string] using hstring
    · simpa using hsaved
    · simpa using hrest

theorem sends_send {typeValue idValue : ℕ} {data : List UInt8}
    (hplace : (s.threads i).place = .send typeValue idValue data) (n : ℕ) :
    Sends file i (n + 1) s [packetFor typeValue idValue data] := by
  have hstep : step file s i true = s.transmit i true typeValue idValue data := by
    unfold step
    rw [hplace]
  have htop : ((step file s i true).threads i).place = .top := by
    rw [hstep]
    simp [Process.transmit]
  have huntil : untilTop file i (n + 1) s = step file s i true := by
    rw [untilTop, if_neg (by simp [hplace])]
    cases n with
    | zero => rfl
    | succ n => rw [untilTop, if_pos htop]
  refine ⟨by rw [huntil]; exact htop, ?_, ?_⟩ <;> rw [huntil, hstep] <;>
    simp [Process.transmit, packetFor]

theorem string_goto (s : Process ι) (i : ι) (place : Place ι) (p : Pointer ι) :
    (s.goto i place).string p = s.string p := by
  rw [Process.string, line_goto, Process.string]

/-- A step that only jumps. -/
theorem Sends.of_goto {place : Place ι} (hne : (s.threads i).place ≠ .top)
    (hstep : step file s i true = s.goto i place)
    (h : Sends file i n (s.goto i place) packets) : Sends file i (n + 1) s packets :=
  .of_step hne hstep (offset_goto s i place) (sent_goto s i i place) h

/-! ### The steps as jumps -/

section Jumps

variable {typeValue idValue pos : ℕ} {data : List UInt8} {p : Pointer ι}
  {token : Option (Pointer ι)} {s' : Process ι}

theorem step_line (hplace : (s.threads i).place = .line)
    (hstrtok : s.strtok (some (i, 0)) = (token, s')) :
    step file s i true = s'.goto i (token.elim .top .comment) := by
  unfold step
  rw [hplace]
  simp only [hstrtok]
  cases token <;> rfl

theorem step_comment (hplace : (s.threads i).place = .comment p) :
    step file s i true =
      s.goto i (if (s.string p).head? = some '#' then .top else .type p) := by
  unfold step
  rw [hplace]
  dsimp only
  split_ifs <;> rfl

theorem step_type (hplace : (s.threads i).place = .type p) :
    step file s i true = s.goto i ((convert 16 255 (s.string p)).elim .top .nextID) := by
  unfold step
  rw [hplace]
  dsimp only
  cases convert 16 255 (s.string p) <;> rfl

theorem step_nextID (hplace : (s.threads i).place = .nextID typeValue)
    (hsaved : s.saved = some (i, pos)) (hstrtok : s.strtok (some (i, pos)) = (token, s')) :
    step file s i true = s'.goto i (token.elim .top (.id typeValue)) := by
  unfold step
  rw [hplace]
  simp only [hsaved, hstrtok]
  cases token <;> rfl

theorem step_id (hplace : (s.threads i).place = .id typeValue p) :
    step file s i true =
      s.goto i ((convert 10 65535 (s.string p)).elim .top
        fun idValue => dataLoop true typeValue idValue []) := by
  unfold step
  rw [hplace]
  dsimp only
  cases convert 10 65535 (s.string p) <;> rfl

theorem step_nextByte (hplace : (s.threads i).place = .nextByte typeValue idValue data)
    (hsaved : s.saved = some (i, pos)) (hstrtok : s.strtok (some (i, pos)) = (token, s')) :
    step file s i true =
      s'.goto i (token.elim (afterData false typeValue idValue data)
        (.byte typeValue idValue data)) := by
  unfold step
  rw [hplace]
  simp only [hsaved, hstrtok]
  cases token <;> rfl

theorem step_byte (hplace : (s.threads i).place = .byte typeValue idValue data p) :
    step file s i true =
      s.goto i ((convert 16 255 (s.string p)).elim (afterData true typeValue idValue [])
        fun value => dataLoop true typeValue idValue (data ++ [UInt8.ofNat value])) := by
  unfold step
  rw [hplace]
  dsimp only
  cases convert 16 255 (s.string p) <;> rfl

end Jumps

/-! ### What is sent for a line -/

/-- The data loop, in which `k` more bytes fit. -/
theorem sends_data {typeValue idValue k : ℕ} {data : List UInt8}
    (hk : data.length + k = maxDataSize)
    (hplace : (s.threads i).place = dataLoop true typeValue idValue data)
    (hleft : Left s i tokens) :
    Sends file i (2 * k + 2) s
      ((readData (tokens.take k)).map fun bytes =>
        packetFor typeValue idValue (data ++ bytes)).toList := by
  induction k generalizing s data tokens with
  | zero =>
    have hfull : data.length = maxDataSize := hk
    have hsend : dataLoop true typeValue idValue data =
        (Place.send typeValue idValue data : Place ι) := by
      simp [dataLoop, afterData, hfull, maxDataSize]
    rw [hsend] at hplace
    simpa [readData] using sends_send hplace 1
  | succ k ih =>
    have hloop : dataLoop true typeValue idValue data =
        (Place.nextByte typeValue idValue data : Place ι) := by
      rw [dataLoop, if_pos (by omega)]
    rw [hloop] at hplace
    obtain ⟨pos, hsaved, hpos, htokens⟩ := hleft
    obtain ⟨token, s', hstrtok, hoffset, hsent, hmatch⟩ := strtok_line hpos htokens
    refine Sends.of_step (by simp [hplace]) (step_nextByte hplace hsaved hstrtok)
      (by simpa using hoffset) (by simpa [sent_goto] using hsent) ?_
    cases tokens with
    | nil =>
      obtain rfl : token = none := hmatch
      have hsend : ((s'.goto i (afterData false typeValue idValue data)).threads i).place =
          .send typeValue idValue data := by
        simp [afterData]
      simpa [readData] using sends_send hsend (2 * (k + 1))
    | cons t ts =>
      obtain ⟨p, rfl, hstring, hleft'⟩ := hmatch
      refine Sends.of_goto (by simp) (step_byte (place_goto _ _ _)) ?_
      rw [string_goto, hstring, List.take_succ_cons, readData]
      cases hvalue : convert 16 255 t with
      | none => exact sends_of_top (by simp [afterData]) _
      | some value =>
        have hk' : (data ++ [UInt8.ofNat value]).length + k = maxDataSize := by
          rw [List.length_append, List.length_singleton]
          omega
        have hnext := ih hk' (place_goto _ i _)
          ((hleft'.goto (.byte typeValue idValue data p)).goto _)
        show Sends file i (2 * k + 2) _ _
        cases hrest : readData (ts.take k) <;> simpa [hrest] using hnext

/-- The id and the data. -/
theorem sends_id {typeValue : ℕ} (hplace : (s.threads i).place = .nextID typeValue)
    (hleft : Left s i tokens) :
    Sends file i 28 s (packetAfter typeValue tokens).toList := by
  obtain ⟨pos, hsaved, hpos, htokens⟩ := hleft
  obtain ⟨token, s', hstrtok, hoffset, hsent, hmatch⟩ := strtok_line hpos htokens
  refine Sends.of_step (by simp [hplace]) (step_nextID hplace hsaved hstrtok)
    (by simpa using hoffset) (by simpa [sent_goto] using hsent) ?_
  cases tokens with
  | nil =>
    obtain rfl : token = none := hmatch
    exact sends_of_top (place_goto _ _ _) _
  | cons t ts =>
    obtain ⟨p, rfl, hstring, hleft'⟩ := hmatch
    refine Sends.of_goto (by simp) (step_id (place_goto _ _ _)) ?_
    rw [string_goto, hstring, packetAfter]
    cases hvalue : convert 10 65535 t with
    | none => exact sends_of_top (place_goto _ _ _) _
    | some idValue =>
      have hk : ([] : List UInt8).length + 12 = maxDataSize := rfl
      exact sends_data hk (place_goto _ i _) ((hleft'.goto (.id typeValue p)).goto _)

omit [DecidableEq ι] in
/-- The token of a comment is no number. -/
theorem convert_of_hash {token : List Char} (h : token.head? = some '#') (limit : ℕ) :
    convert 16 limit token = none := by
  obtain ⟨rest, rfl⟩ : ∃ rest, token = '#' :: rest := by
    cases token with
    | nil => cases h
    | cons c rest => exact ⟨rest, by rw [Option.some.inj h]⟩
  have hsign : scanSign (('#' :: rest).dropWhile isSpace) = (false, '#' :: rest) := by
    rw [List.dropWhile_cons_of_neg (by decide)]
    rfl
  have hdigits : (skipHexPrefix ('#' :: rest)).takeWhile (isDigitOf 16) = [] := by
    rw [show skipHexPrefix ('#' :: rest) = '#' :: rest from by simp [skipHexPrefix],
      List.takeWhile_cons_of_neg (by decide)]
  have hstrtoul : strtoul 16 ('#' :: rest) = ⟨0, '#' :: rest, false⟩ := by
    simp only [strtoul, hsign, if_true, hdigits]
  simp [convert, hstrtoul]

/-- A line that has been read. -/
theorem sends_line (hplace : (s.threads i).place = .line)
    (htokens : pieces isDelim (stringAt (s.threads i).line 0) = tokens) :
    Sends file i 31 s (packetOf tokens).toList := by
  obtain ⟨token, s', hstrtok, hoffset, hsent, hmatch⟩ := strtok_line (Nat.zero_le _) htokens
  refine Sends.of_step (by simp [hplace]) (step_line hplace hstrtok) (by simpa using hoffset)
    (by simpa [sent_goto] using hsent) ?_
  cases tokens with
  | nil =>
    obtain rfl : token = none := hmatch
    exact sends_of_top (place_goto _ _ _) _
  | cons t ts =>
    obtain ⟨p, rfl, hstring, hleft⟩ := hmatch
    refine Sends.of_goto (by simp) (step_comment (place_goto _ _ _)) ?_
    rw [string_goto, hstring, packetOf]
    by_cases hhash : t.head? = some '#'
    · rw [convert_of_hash hhash 255, if_pos hhash]
      exact sends_of_top (place_goto _ _ _) _
    · rw [if_neg hhash]
      refine Sends.of_goto (by simp) (step_type (place_goto _ _ _)) ?_
      rw [string_goto, string_goto, hstring]
      cases hvalue : convert 16 255 t with
      | none => exact sends_of_top (place_goto _ _ _) _
      | some typeValue =>
        exact sends_id (place_goto _ _ _) (((hleft.goto (.comment p)).goto _).goto _)

/-- The tokens of a line as `strtok` sees it: up to a zero, if there is one. -/
def tokensOf (line : List Char) : List (List Char) :=
  pieces isDelim (line.takeWhile (· ≠ '\x00'))

omit [DecidableEq ι] in
theorem stringAt_zero (line stale : List Char) :
    stringAt (line ++ '\x00' :: stale) 0 = line.takeWhile (· ≠ '\x00') := by
  rw [stringAt, List.drop_zero, List.takeWhile_append]
  split_ifs with h
  · have hall := List.takeWhile_eq_self_iff.mp
      ((List.takeWhile_prefix (· ≠ '\x00')).eq_of_length h)
    rw [List.takeWhile_cons_of_neg (by decide), List.append_nil,
      List.takeWhile_eq_self_iff.mpr hall]
  · rfl

/-- A pass of the inner loop sends what the tokens of the line give, and moves on to the next
line. -/
theorem handleLine_spec {line rest : List Char} (hplace : (s.threads i).place = .top)
    (hfile : file.drop (s.threads i).offset = line ++ rest) (hline : IsTextLine line rest)
    (hlen : line.length < lineSize) :
    ((handleLine file i s).threads i).place = .top ∧
      ((handleLine file i s).threads i).offset = (s.threads i).offset + line.length ∧
      ((handleLine file i s).threads i).sent =
        (s.threads i).sent ++ (packetOf (tokensOf line)).toList := by
  have hne : line ≠ [] := by
    obtain ⟨body, -, rfl | ⟨rfl, hbody, -⟩⟩ := hline
    · simp
    · exact hbody
  have hstep : step file s i true = s.fgets file i := by
    unfold step
    rw [hplace]
  have hthread : (step file s i true).threads i =
      { s.threads i with
        line := line ++ '\x00' :: (s.threads i).line.drop (line.length + 1)
        offset := (s.threads i).offset + line.length
        place := .line } := by
    rw [hstep]
    simp [Process.fgets, hfile, fgetsText_of_line hline hlen, hne]
  have hsends : Sends file i 31 (step file s i true) (packetOf (tokensOf line)).toList := by
    apply sends_line
    · rw [hthread]
    · rw [hthread, stringAt_zero, tokensOf]
  refine ⟨hsends.place, ?_, ?_⟩
  · rw [handleLine, hsends.offset, hthread]
  · rw [handleLine, hsends.sent, hthread]

end Lines

/-! ### The grammar of the data file -/

section Grammar

/-- A hexadecimal number, with or without the prefix `0x`. -/
def IsHex (token : List Char) (value : ℕ) : Prop :=
  ∃ digits, digits ≠ [] ∧ (∀ c ∈ digits, isDigitOf 16 c = true) ∧
    (token = digits ∨ token = '0' :: 'x' :: digits ∨ token = '0' :: 'X' :: digits) ∧
    numeralValue 16 digits = value

/-- A decimal number. -/
def IsDecimal (token : List Char) (value : ℕ) : Prop :=
  token ≠ [] ∧ (∀ c ∈ token, isDigitOf 10 c = true) ∧ numeralValue 10 token = value

def isBlank (c : Char) : Bool := c = ' ' || c = '\t'

/-- A line without its end. -/
def textOf (line : List Char) : List Char := line.rdropWhile fun c => c = '\n' || c = '\r'

/-- The grammar `TYPE ID DATA_BYTES`: a hexadecimal type, a decimal id and at most twelve
hexadecimal bytes, with blanks between them and no other tokens.  A comment has no such type. -/
def Grammar (line : List Char) (type : UInt8) (id : UInt16) (data : List UInt8) : Prop :=
  ∃ typeToken idToken tokens, pieces isBlank (textOf line) = typeToken :: idToken :: tokens ∧
    IsHex typeToken type.toNat ∧ IsDecimal idToken id.toNat ∧
    List.Forall₂ (fun token byte => IsHex token byte.toNat) tokens data ∧
    tokens.length ≤ maxDataSize

/-- The characters of the numbers of the grammar. -/
def isPlain (c : Char) : Bool := isDigitOf 16 c || c = 'x' || c = 'X'

variable {token : List Char} {value limit : ℕ}

theorem isPlain_of_hex {c : Char} (h : isDigitOf 16 c = true) : isPlain c = true := by
  rw [isPlain, h]
  rfl

theorem isHexDigit_of_digit {c : Char} (h : isDigitOf 10 c = true) : isDigitOf 16 c = true := by
  unfold isDigitOf at *
  cases hc : digitValue c with
  | none =>
    rw [hc] at h
    cases h
  | some d =>
    rw [hc] at h
    simp only [Option.any_some, decide_eq_true_eq] at h ⊢
    omega

/-- Numbers of the grammar have no sign and no blank before them. -/
theorem unsigned_of_plain (h : ∀ c ∈ token, isPlain c = true) : Unsigned token := by
  intro c hc
  have hplain := h c (List.mem_of_mem_head? hc)
  refine ⟨not_isSpace_of (by decide) hplain, ?_, ?_⟩
  · rintro rfl
    revert hplain
    decide
  · rintro rfl
    revert hplain
    decide

theorem skipHexPrefix_of_digits (h : ∀ c ∈ token, isDigitOf 16 c = true) :
    skipHexPrefix token = token := by
  unfold skipHexPrefix
  split
  · rename_i x ch text
    obtain ⟨-, -, -, hlower, hupper⟩ := of_isDigitOf_hex (h x (by simp))
    rw [if_neg (by simp [hlower, hupper])]
  · rfl

theorem isHex_iff :
    IsHex token value ↔ skipHexPrefix token ≠ [] ∧
      (∀ c ∈ skipHexPrefix token, isDigitOf 16 c = true) ∧
      numeralValue 16 (skipHexPrefix token) = value := by
  constructor
  · rintro ⟨digits, hne, hdigits, htoken, hvalue⟩
    have hskip : skipHexPrefix token = digits := by
      obtain ⟨ch, text, rfl⟩ := List.exists_cons_of_ne_nil hne
      have hch := hdigits ch List.mem_cons_self
      rcases htoken with rfl | rfl | rfl
      · exact skipHexPrefix_of_digits hdigits
      · simp [skipHexPrefix, hch]
      · simp [skipHexPrefix, hch]
    rw [hskip]
    exact ⟨hne, hdigits, hvalue⟩
  · rintro ⟨hne, hdigits, hvalue⟩
    refine ⟨skipHexPrefix token, hne, hdigits, ?_, hvalue⟩
    unfold skipHexPrefix
    split
    · rename_i x ch text
      split_ifs with hx
      · rcases hx.1 with rfl | rfl
        · exact Or.inr (Or.inl rfl)
        · exact Or.inr (Or.inr rfl)
      · exact Or.inl rfl
    · exact Or.inl rfl

theorem plain_of_isHex (h : IsHex token value) : ∀ c ∈ token, isPlain c = true := by
  obtain ⟨digits, -, hdigits, htoken, -⟩ := h
  have hplain : ∀ c ∈ digits, isPlain c = true := fun c hc => isPlain_of_hex (hdigits c hc)
  rcases htoken with rfl | rfl | rfl
  · exact hplain
  · exact List.forall_mem_cons.mpr ⟨by decide, List.forall_mem_cons.mpr ⟨by decide, hplain⟩⟩
  · exact List.forall_mem_cons.mpr ⟨by decide, List.forall_mem_cons.mpr ⟨by decide, hplain⟩⟩

theorem plain_of_isDecimal (h : IsDecimal token value) : ∀ c ∈ token, isPlain c = true :=
  fun c hc => isPlain_of_hex (isHexDigit_of_digit (h.2.1 c hc))

theorem convert_eq_some_iff {base : ℕ} :
    convert base limit token = some value ↔ (strtoul base token).erange = false ∧
      (strtoul base token).rest = [] ∧ (strtoul base token).value = value ∧ value ≤ limit := by
  unfold convert
  dsimp only
  split_ifs with h
  · constructor
    · intro hsome
      cases hsome
    · rintro ⟨herange, hrest, hvalue, hle⟩
      rcases h with h | h | h
      · rw [herange] at h
        cases h
      · exact absurd hrest h
      · omega
  · rw [not_or, not_or, not_not, not_lt, Bool.not_eq_true] at h
    constructor
    · intro hsome
      rw [← Option.some.inj hsome]
      exact ⟨h.1, h.2.1, rfl, h.2.2⟩
    · rintro ⟨-, -, rfl, -⟩
      rfl

/-- The check after `strtoul` is the grammar's, for a token without signs and blanks. -/
theorem convert_hex_iff (hlimit : limit < 2 ^ 64) (hne : token ≠ [])
    (hplain : ∀ c ∈ token, isPlain c = true) :
    convert 16 limit token = some value ↔ IsHex token value ∧ value ≤ limit := by
  rw [convert_eq_some_iff, strtoul_of_unsigned hlimit hne (unsigned_of_plain hplain), isHex_iff]
  simp only [if_true, and_assoc]

theorem convert_decimal_iff (hlimit : limit < 2 ^ 64) (hne : token ≠ [])
    (hplain : ∀ c ∈ token, isPlain c = true) :
    convert 10 limit token = some value ↔ IsDecimal token value ∧ value ≤ limit := by
  rw [convert_eq_some_iff, strtoul_of_unsigned hlimit hne (unsigned_of_plain hplain), IsDecimal]
  simp only [Nat.reduceEqDiff, if_false, and_assoc]

/-- The same for the data bytes. -/
theorem readData_iff {tokens : List (List Char)} {data : List UInt8}
    (h : ∀ t ∈ tokens, t ≠ [] ∧ ∀ c ∈ t, isPlain c = true) :
    readData tokens = some data ↔
      List.Forall₂ (fun token byte => IsHex token byte.toNat) tokens data := by
  induction tokens generalizing data with
  | nil => simp [readData, eq_comm]
  | cons t ts ih =>
    obtain ⟨⟨hne, hplain⟩, hts⟩ := List.forall_mem_cons.mp h
    have hconvert : ∀ value, convert 16 255 t = some value ↔ IsHex t value ∧ value ≤ 255 :=
      fun value => convert_hex_iff (by norm_num) hne hplain
    rw [readData]
    constructor
    · intro hread
      split at hread
      · rename_i value bytes hvalue hbytes
        obtain ⟨hhex, hle⟩ := (hconvert value).mp hvalue
        rw [← Option.some.inj hread]
        refine List.Forall₂.cons ?_ ((ih hts).mp hbytes)
        rwa [UInt8.toNat_ofNat', Nat.mod_eq_of_lt (by omega)]
      · cases hread
    · intro hforall
      cases hforall with
      | cons hhex hrest =>
        rename_i byte bytes
        have hvalue := (hconvert byte.toNat).mpr ⟨hhex, by have := byte.toNat_lt; omega⟩
        simp only [hvalue, (ih hts).mpr hrest, UInt8.ofNat_toNat]

/-- The lines made of the characters of the grammar. -/
def PlainLine (line : List Char) : Prop :=
  ∀ c ∈ textOf line, isPlain c = true ∨ isBlank c = true

instance (line : List Char) : Decidable (PlainLine line) :=
  List.decidableBAll _ (textOf line)

variable {line : List Char} {type : UInt8} {id : UInt16} {data : List UInt8}

theorem not_delim_of_plain {c : Char} (h : isPlain c = true) :
    isDelim c = false ∧ isBlank c = false := by
  have hdelim : isDelim c = false := by
    by_contra hdelim
    rw [Bool.not_eq_false] at hdelim
    simp only [isDelim, List.mem_cons, List.not_mem_nil, or_false, decide_eq_true_eq] at hdelim
    rcases hdelim with rfl | rfl | rfl | rfl <;> revert h <;> decide
  refine ⟨hdelim, ?_⟩
  by_contra hblank
  simp only [isBlank, Bool.or_eq_false_iff, decide_eq_false_iff_not, not_and_or, not_not] at hblank
  rcases hblank with rfl | rfl <;> revert h <;> decide

/-- On such a line `strtok` finds the tokens of the grammar. -/
theorem tokensOf_of_plain (h : PlainLine line) : tokensOf line = pieces isBlank (textOf line) := by
  set ends := line.rtakeWhile fun c => c = '\n' || c = '\r' with hends
  have hline : line = textOf line ++ ends := (List.rdropWhile_append_rtakeWhile).symm
  have hendsDelim : ∀ c ∈ ends, isDelim c = true := by
    intro c hc
    have hend := List.mem_rtakeWhile_imp hc
    simp only [Bool.or_eq_true, decide_eq_true_eq] at hend
    rcases hend with rfl | rfl <;> decide
  have hzero : '\x00' ∉ line := by
    rw [hline, List.mem_append, not_or]
    constructor
    · intro hmem
      exact absurd (h _ hmem) (by decide)
    · intro hmem
      exact absurd (hendsDelim _ hmem) (by decide)
  have htake : line.takeWhile (· ≠ '\x00') = line := by
    have hstring := takeWhile_string hzero []
    rwa [List.append_nil, List.takeWhile_nil, List.append_nil] at hstring
  have hdelim : ∀ c ∈ textOf line, isDelim c = isBlank c := by
    intro c hc
    rcases h c hc with hplain | hblank
    · obtain ⟨hdelim, hblank⟩ := not_delim_of_plain hplain
      rw [hdelim, hblank]
    · simp only [isBlank, Bool.or_eq_true, decide_eq_true_eq] at hblank
      rcases hblank with rfl | rfl <;> decide
  rw [tokensOf, htake, hline, pieces_append_seps _ hendsDelim, ← hline, pieces_congr hdelim]

/-- The tokens of the grammar, and those of a line of its characters, are plain. -/
theorem plain_of_forall₂ {tokens : List (List Char)}
    (h : List.Forall₂ (fun token byte => IsHex token byte.toNat) tokens data) :
    ∀ t ∈ tokens, ∀ c ∈ t, isPlain c = true := by
  induction h with
  | nil => simp
  | cons hhex hrest ih => exact List.forall_mem_cons.mpr ⟨plain_of_isHex hhex, ih⟩

theorem plain_of_mem_pieces (h : PlainLine line) :
    ∀ t ∈ pieces isBlank (textOf line), t ≠ [] ∧ ∀ c ∈ t, isPlain c = true := by
  intro t ht
  refine ⟨ne_nil_of_mem_pieces ht, fun c hc => ?_⟩
  obtain ⟨hmem, hblank⟩ := mem_pieces.mp ⟨t, ht, hc⟩
  refine (h c hmem).resolve_right ?_
  simp [hblank]

/-- A line of the grammar has only its characters. -/
theorem plainLine_of_grammar (h : Grammar line type id data) : PlainLine line := by
  obtain ⟨typeToken, idToken, tokens, htokens, htype, hid, hdata, -⟩ := h
  have hplain : ∀ t ∈ typeToken :: idToken :: tokens, ∀ c ∈ t, isPlain c = true :=
    List.forall_mem_cons.mpr ⟨plain_of_isHex htype,
      List.forall_mem_cons.mpr ⟨plain_of_isDecimal hid, plain_of_forall₂ hdata⟩⟩
  intro c hc
  by_cases hblank : isBlank c = true
  · exact Or.inr hblank
  · obtain ⟨t, ht, hct⟩ := mem_pieces.mpr ⟨hc, by simpa using hblank⟩
    rw [htokens] at ht
    exact Or.inl (hplain t ht c hct)

theorem packetOf_eq_some_iff {tokens : List (List Char)} {packet : List UInt8} :
    packetOf tokens = some packet ↔ ∃ typeToken idToken rest typeValue idValue data,
      tokens = typeToken :: idToken :: rest ∧ convert 16 255 typeToken = some typeValue ∧
      convert 10 65535 idToken = some idValue ∧ readData (rest.take maxDataSize) = some data ∧
      packetFor typeValue idValue data = packet := by
  constructor
  · intro h
    cases tokens with
    | nil => cases h
    | cons typeToken tokens =>
      obtain ⟨typeValue, htype, h⟩ := Option.bind_eq_some_iff.mp h
      cases tokens with
      | nil => cases h
      | cons idToken rest =>
        obtain ⟨idValue, hid, h⟩ := Option.bind_eq_some_iff.mp h
        obtain ⟨data, hdata, hpacket⟩ := Option.map_eq_some_iff.mp h
        exact ⟨typeToken, idToken, rest, typeValue, idValue, data, rfl, htype, hid, hdata, hpacket⟩
  · rintro ⟨typeToken, idToken, rest, typeValue, idValue, data, rfl, htype, hid, hdata, rfl⟩
    rw [packetOf, htype, Option.bind_some, packetAfter, hid, Option.bind_some, hdata]
    rfl

/-- What is sent for a line of these characters with at most twelve data tokens is what the grammar
says. -/
theorem packetOf_iff_grammar (hplain : PlainLine line)
    (hlen : (tokensOf line).length ≤ maxDataSize + 2) (packet : List UInt8) :
    packetOf (tokensOf line) = some packet ↔ ∃ type id data, Grammar line type id data ∧
      packet = buildPacket type id data (UInt16.ofNat data.length) := by
  rw [packetOf_eq_some_iff, tokensOf_of_plain hplain]
  rw [tokensOf_of_plain hplain] at hlen
  have htokens := plain_of_mem_pieces hplain
  constructor
  · rintro ⟨typeToken, idToken, rest, typeValue, idValue, data, heq, htype, hid, hdata, rfl⟩
    rw [heq] at hlen htokens
    have hrest : rest.length ≤ maxDataSize :=
      Nat.le_of_add_le_add_right (show rest.length + 2 ≤ maxDataSize + 2 from hlen)
    obtain ⟨⟨htne, htplain⟩, ⟨hine, hiplain⟩, hrestplain⟩ := by
      simpa only [List.forall_mem_cons] using htokens
    rw [List.take_of_length_le hrest, readData_iff hrestplain] at hdata
    obtain ⟨htype, htypele⟩ := (convert_hex_iff (by norm_num) htne htplain).mp htype
    obtain ⟨hid, hidle⟩ := (convert_decimal_iff (by norm_num) hine hiplain).mp hid
    refine ⟨UInt8.ofNat typeValue, UInt16.ofNat idValue, data,
      ⟨typeToken, idToken, rest, heq, ?_, ?_, hdata, hrest⟩, rfl⟩
    · rwa [UInt8.toNat_ofNat', Nat.mod_eq_of_lt (by omega)]
    · rwa [UInt16.toNat_ofNat', Nat.mod_eq_of_lt (by omega)]
  · rintro ⟨type, id, data, ⟨typeToken, idToken, rest, heq, htype, hid, hdata, hrest⟩, rfl⟩
    rw [heq] at htokens
    obtain ⟨⟨htne, htplain⟩, ⟨hine, hiplain⟩, hrestplain⟩ := by
      simpa only [List.forall_mem_cons] using htokens
    have htypele := type.toNat_lt
    have hidle := id.toNat_lt
    refine ⟨typeToken, idToken, rest, type.toNat, id.toNat, data, heq, ?_, ?_, ?_, ?_⟩
    · exact (convert_hex_iff (by norm_num) htne htplain).mpr ⟨htype, by omega⟩
    · exact (convert_decimal_iff (by norm_num) hine hiplain).mpr ⟨hid, by omega⟩
    · rwa [List.take_of_length_le hrest, readData_iff hrestplain]
    · rw [packetFor, UInt8.ofNat_toNat, UInt16.ofNat_toNat]

/-- `strtoul` takes the type, the id and the first twelve data tokens of a line as numbers that are
not too large. -/
def Taken (line : List Char) : Prop :=
  ∃ typeToken idToken rest, tokensOf line = typeToken :: idToken :: rest ∧
    (convert 16 255 typeToken).isSome ∧ (convert 10 65535 idToken).isSome ∧
    ∀ token ∈ rest.take maxDataSize, (convert 16 255 token).isSome

theorem readData_isSome_iff {tokens : List (List Char)} :
    (readData tokens).isSome ↔ ∀ token ∈ tokens, (convert 16 255 token).isSome := by
  induction tokens with
  | nil => simp [readData]
  | cons t ts ih =>
    rw [List.forall_mem_cons, ← ih, readData]
    cases convert 16 255 t <;> cases readData ts <;> simp

theorem packetOf_isSome_iff : (packetOf (tokensOf line)).isSome ↔ Taken line := by
  constructor
  · intro h
    obtain ⟨packet, hpacket⟩ := Option.isSome_iff_exists.mp h
    obtain ⟨typeToken, idToken, rest, typeValue, idValue, data, heq, htype, hid, hdata, -⟩ :=
      packetOf_eq_some_iff.mp hpacket
    exact ⟨typeToken, idToken, rest, heq, by rw [htype]; rfl, by rw [hid]; rfl,
      readData_isSome_iff.mp (by rw [hdata]; rfl)⟩
  · rintro ⟨typeToken, idToken, rest, heq, htype, hid, hdata⟩
    obtain ⟨typeValue, htype⟩ := Option.isSome_iff_exists.mp htype
    obtain ⟨idValue, hid⟩ := Option.isSome_iff_exists.mp hid
    obtain ⟨data, hdata⟩ := Option.isSome_iff_exists.mp (readData_isSome_iff.mpr hdata)
    exact Option.isSome_iff_exists.mpr ⟨_, packetOf_eq_some_iff.mpr
      ⟨typeToken, idToken, rest, typeValue, idValue, data, heq, htype, hid, hdata, rfl⟩⟩

/-- The packets sent for a line are what its grammar asks for: one packet of exactly its type, id
and bytes for a line of the grammar, none for any other. -/
def ByGrammar (line : List Char) (packets : List (List UInt8)) : Prop :=
  (∀ type id data, Grammar line type id data →
      packets = [buildPacket type id data (UInt16.ofNat data.length)]) ∧
    ((¬ ∃ type id data, Grammar line type id data) → packets = [])

theorem length_tokensOf_of_grammar (h : Grammar line type id data) :
    (tokensOf line).length ≤ maxDataSize + 2 := by
  have hplain := plainLine_of_grammar h
  obtain ⟨typeToken, idToken, rest, heq, -, -, -, hrest⟩ := h
  rw [tokensOf_of_plain hplain, heq]
  exact Nat.add_le_add_right hrest 2

/-- When the tokens give what the grammar asks for. -/
theorem byGrammar_iff : ByGrammar line (packetOf (tokensOf line)).toList ↔
    (Taken line → (tokensOf line).length ≤ maxDataSize + 2 ∧ PlainLine line) := by
  constructor
  · rintro ⟨-, hnone⟩ htaken
    by_cases hgrammar : ∃ type id data, Grammar line type id data
    · obtain ⟨type, id, data, h⟩ := hgrammar
      exact ⟨length_tokensOf_of_grammar h, plainLine_of_grammar h⟩
    · have hsome := packetOf_isSome_iff.mpr htaken
      rw [Option.toList_eq_nil_iff.mp (hnone hgrammar)] at hsome
      cases hsome
  · intro hcond
    constructor
    · intro type id data h
      have hpacket := (packetOf_iff_grammar (plainLine_of_grammar h) (length_tokensOf_of_grammar h)
        _).mpr ⟨type, id, data, h, rfl⟩
      rw [hpacket]
      rfl
    · intro hgrammar
      cases hpacket : packetOf (tokensOf line) with
      | none => rfl
      | some packet =>
        have htaken := packetOf_isSome_iff.mp (by rw [hpacket]; rfl)
        obtain ⟨hlen, hplain⟩ := hcond htaken
        obtain ⟨type, id, data, h, -⟩ := (packetOf_iff_grammar hplain hlen packet).mp hpacket
        exact absurd ⟨type, id, data, h⟩ hgrammar

/-- **When a line is treated by its grammar.**  For every line of every data file with less than 256
characters, from every state in which a thread that runs alone comes to it: the thread comes to the
next line, and what it sends in between is what the grammar asks for exactly when the line, if
`strtoul` takes its type, its id and its first twelve data tokens at all, has no token behind these
and no characters but hexadecimal digits, `x`, `X`, spaces and tabs before its end. -/
theorem line_grammar {ι : Type} [DecidableEq ι] (file : List Char) (s : Process ι) (i : ι)
    (line rest : List Char) (hplace : (s.threads i).place = .top)
    (hfile : file.drop (s.threads i).offset = line ++ rest) (hline : IsTextLine line rest)
    (hlen : line.length < lineSize) :
    ((handleLine file i s).threads i).place = .top ∧
      ((handleLine file i s).threads i).offset = (s.threads i).offset + line.length ∧
      ((∃ packets, ((handleLine file i s).threads i).sent = (s.threads i).sent ++ packets ∧
          ByGrammar line packets) ↔
        (Taken line → (tokensOf line).length ≤ maxDataSize + 2 ∧ PlainLine line)) := by
  obtain ⟨htop, hoffset, hsent⟩ := handleLine_spec hplace hfile hline hlen
  refine ⟨htop, hoffset, ?_⟩
  rw [← byGrammar_iff, hsent]
  constructor
  · rintro ⟨packets, hpackets, h⟩
    rwa [List.append_cancel_left hpackets]
  · exact fun h => ⟨_, rfl, h⟩

/-- A torque reading in a file with two lines. -/
theorem line_grammar_torque :
    let line := "4B 300 5F 00 00 00\n".toList
    let rest := "4B 300\n".toList
    let s : Process Unit := init fun _ => List.replicate lineSize '\x00'
    ((handleLine (line ++ rest) () s).threads ()).place = .top ∧
      ((handleLine (line ++ rest) () s).threads ()).sent =
        [buildPacket 0x4B 300 [0x5F, 0x00, 0x00, 0x00] 4] ∧
      ∃ packets, ((handleLine (line ++ rest) () s).threads ()).sent = [] ++ packets ∧
        ByGrammar line packets := by
  intro line rest s
  have hline : IsTextLine line rest := ⟨"4B 300 5F 00 00 00".toList, by decide, Or.inl rfl⟩
  obtain ⟨htop, -, hiff⟩ := line_grammar (line ++ rest) s () line rest rfl rfl hline (by decide)
  have hcond : (tokensOf line).length ≤ maxDataSize + 2 ∧ PlainLine line :=
    ⟨by decide +kernel, by decide +kernel⟩
  exact ⟨htop, by decide +kernel, hiff.mpr fun _ => hcond⟩

/-- A line with thirteen data bytes is no line of the grammar, and the first twelve of them are
sent. -/
theorem surplus_byte :
    let line := "4B 7 01 02 03 04 05 06 07 08 09 0A 0B 0C 0D\n".toList
    let s : Process Unit := init fun _ => List.replicate lineSize '\x00'
    ((handleLine line () s).threads ()).sent =
      [buildPacket 0x4B 7 [1, 2, 3, 4, 5, 6, 7, 8, 9, 10, 11, 12] 12] ∧
    (¬ ∃ type id data, Grammar line type id data) ∧
    ¬ ∃ packets, ((handleLine line () s).threads ()).sent = (s.threads ()).sent ++ packets ∧
      ByGrammar line packets := by
  intro line s
  have hsent : ((handleLine line () s).threads ()).sent =
      [buildPacket 0x4B 7 [1, 2, 3, 4, 5, 6, 7, 8, 9, 10, 11, 12] 12] := by decide +kernel
  have hmany : ¬ (tokensOf line).length ≤ maxDataSize + 2 := by decide +kernel
  have hgrammar : ¬ ∃ type id data, Grammar line type id data := by
    rintro ⟨type, id, data, h⟩
    exact hmany (length_tokensOf_of_grammar h)
  refine ⟨hsent, hgrammar, ?_⟩
  rintro ⟨packets, hpackets, -, hnone⟩
  rw [hsent, hnone hgrammar] at hpackets
  exact absurd hpackets (by decide)

end Grammar

end Simulator
end Gateway
