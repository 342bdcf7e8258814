import Gateway.Interface
import Gateway.Simulator.Lines

/-!
# `dev-interface.c`: the ids of `GET ID`

`send_user_command` takes the id of a `GET ID` line from `strtoul`, and looks at no more than
whether the end pointer has moved and whether the number is an id.

* `IsGetID` is the form of the line, a hexadecimal number and nothing else;
* `Loose` are the lines with a blank or a sign before the number or something behind it;
* `getID_sent_iff`: these are the lines for which the form is not kept.
-/

namespace Gateway
namespace Interface

open CText LittleEndian Processing Simulator Telemetry

/-- The line `GET ID` with a hexadecimal number for the id. -/
def IsGetID (command : List Char) (id : UInt16) : Prop :=
  ∃ numeral, command = "GET ID ".toList ++ (numeral ++ ['\n']) ∧ IsHex numeral id.toNat

/-- A packet for an id is sent only if the line has the form, and it is sent then. -/
def SentInForm (command : List Char) : Prop :=
  (∀ packet, sendUserCommand command = some packet → packet[1]? = some selectionByteGetID →
    ∃ id, packet = sendGetID id ∧ IsGetID command id) ∧
  ∀ id, IsGetID command id → sendUserCommand command = some (sendGetID id)

/-- A number that `strtoul` makes an id of, with a blank or a sign before it, or with something else
than the line end behind it. -/
def Loose (command : List Char) : Prop :=
  ∃ text blanks sign mark digits rest, command = "GET ID ".toList ++ text ∧
    HexReading text blanks sign mark digits rest ∧ signedValue sign digits ≤ 65535 ∧
    ¬ (blanks = [] ∧ sign = [] ∧ rest = ['\n'])

section GetID

variable {command text blanks sign mark digits rest : List Char}

theorem sendUserCommand_getID (text : List Char) :
    sendUserCommand ("GET ID ".toList ++ text) =
      if (strtoul 16 text).rest = text ∨ (strtoul 16 text).value > 65535 then none
      else some (sendGetID (UInt16.ofNat (strtoul 16 text).value)) := by
  have hne : ∀ {line : List Char}, line.take 5 ≠ "GET I".toList → "GET ID ".toList ++ text ≠ line :=
    fun hline heq => hline (by rw [← heq]; rfl)
  rw [sendUserCommand, if_neg (hne (by decide)), if_neg (hne (by decide)), if_neg (hne (by decide)),
    if_pos (List.isPrefixOf_iff_prefix.mpr (List.prefix_append _ _))]
  rfl

/-- Only a `GET ID` line makes a packet with that selection. -/
theorem exists_text_of_getID {packet : List UInt8} (h : sendUserCommand command = some packet)
    (hselection : packet[1]? = some selectionByteGetID) :
    ∃ text, command = "GET ID ".toList ++ text := by
  unfold sendUserCommand at h
  split_ifs at h with h₁ h₂ h₃ h₄
  · rw [← Option.some.inj h] at hselection
    exact absurd hselection (by decide)
  · rw [← Option.some.inj h] at hselection
    exact absurd hselection (by decide)
  · rw [← Option.some.inj h] at hselection
    exact absurd hselection (by decide)
  · obtain ⟨text, htext⟩ := List.isPrefixOf_iff_prefix.mp h₄
    exact ⟨text, htext.symm⟩
  · obtain ⟨type, -, rfl⟩ := Option.map_eq_some_iff.mp h
    exact absurd (Option.some.inj hselection) (by decide)

/-- The number of a reading is an id when the digits alone are one. -/
theorem signedValue_nil (h : numeralValue 16 digits < 2 ^ 64) :
    signedValue [] digits = numeralValue 16 digits := by
  rw [signedValue, if_neg (by omega), if_neg (by decide)]

/-- A line of the form is read to its end. -/
theorem exists_hexReading_of_isHex {numeral : List Char} {value : ℕ} (h : IsHex numeral value) :
    ∃ mark digits, HexReading (numeral ++ ['\n']) [] [] mark digits ['\n'] ∧
      numeralValue 16 digits = value := by
  obtain ⟨digits, hne, hdigits, hnumeral, hvalue⟩ := h
  have hhead : ∀ c ∈ ['\n'].head?, isDigitOf 16 c = false := by
    intro c hc
    obtain rfl := Option.some.inj hc
    decide
  have hparts : ∀ mark, mark = [] ∨ mark = ['0', 'x'] ∨ mark = ['0', 'X'] →
      HexReading (mark ++ (digits ++ ['\n'])) [] [] mark digits ['\n'] := fun mark hmark =>
    ⟨rfl, by simp, Or.inl rfl, hmark, hne, hdigits, hhead,
      fun _ _ x c tail hrest => by simp at hrest⟩
  rcases hnumeral with rfl | rfl | rfl
  · exact ⟨[], numeral, hparts [] (Or.inl rfl), hvalue⟩
  · exact ⟨_, digits, hparts ['0', 'x'] (Or.inr (Or.inl rfl)), hvalue⟩
  · exact ⟨_, digits, hparts ['0', 'X'] (Or.inr (Or.inr rfl)), hvalue⟩

/-- Without a blank or a sign at its start a text is read from the start. -/
theorem eq_nil_of_unsigned (h : HexReading text blanks sign mark digits rest)
    (hunsigned : Unsigned text) : blanks = [] ∧ sign = [] := by
  have htext := h.text_eq
  cases blanks with
  | cons c blanks =>
    obtain ⟨hspace, -⟩ := hunsigned c (by rw [htext]; rfl)
    rw [h.blanks_space c List.mem_cons_self] at hspace
    cases hspace
  | nil =>
    refine ⟨rfl, ?_⟩
    rcases h.sign_cases with rfl | rfl | rfl
    · rfl
    · exact absurd rfl (hunsigned '+' (by rw [htext]; rfl)).2.2
    · exact absurd rfl (hunsigned '-' (by rw [htext]; rfl)).2.1

/-- What is sent for a number that is an id. -/
theorem sendUserCommand_of_hexReading (h : HexReading text blanks sign mark digits rest)
    (hle : signedValue sign digits ≤ 65535) :
    sendUserCommand ("GET ID ".toList ++ text) =
      some (sendGetID (UInt16.ofNat (signedValue sign digits))) := by
  obtain ⟨hvalue, -⟩ := h.strtoul_eq
  rw [sendUserCommand_getID, hvalue, if_neg]
  rintro (hrest | hlarge)
  · exact h.rest_ne hrest
  · omega

/-- Every line of the form is sent. -/
theorem sendUserCommand_of_isGetID {id : UInt16} (h : IsGetID command id) :
    sendUserCommand command = some (sendGetID id) := by
  obtain ⟨numeral, rfl, hhex⟩ := h
  obtain ⟨mark, digits, hreading, hvalue⟩ := exists_hexReading_of_isHex hhex
  have hid := id.toNat_lt
  have hsigned : signedValue [] digits = id.toNat := by
    rw [signedValue_nil (by omega), hvalue]
  rw [sendUserCommand_of_hexReading hreading (by omega), hsigned, UInt16.ofNat_toNat]

/-- A line that is not loose is sent only in the form. -/
theorem isGetID_of_not_loose (h : ¬ Loose ("GET ID ".toList ++ text)) {packet : List UInt8}
    (hsend : sendUserCommand ("GET ID ".toList ++ text) = some packet) :
    ∃ id, packet = sendGetID id ∧ IsGetID ("GET ID ".toList ++ text) id := by
  rw [sendUserCommand_getID] at hsend
  split_ifs at hsend with hcheck
  obtain ⟨hmoved, hle⟩ := not_or.mp hcheck
  obtain ⟨blanks, sign, mark, digits, rest, hreading⟩ := exists_hexReading hmoved
  have hvalue := hreading.strtoul_eq.1
  obtain ⟨rfl, rfl, rfl⟩ : blanks = [] ∧ sign = [] ∧ rest = ['\n'] := by
    by_contra hnot
    exact h ⟨text, blanks, sign, mark, digits, rest, rfl, hreading, by omega, hnot⟩
  have hsmall : numeralValue 16 digits < 2 ^ 64 := by
    by_contra hlarge
    rw [hvalue, signedValue, if_pos (by omega)] at hle
    exact hle (by decide)
  have hnumber : (strtoul 16 text).value = numeralValue 16 digits := by
    rw [hvalue, signedValue_nil hsmall]
  refine ⟨_, (Option.some.inj hsend).symm, mark ++ digits, ?_, digits, hreading.digits_ne_nil,
    hreading.digits_hex, ?_, ?_⟩
  · rw [List.append_assoc]
    exact congrArg ("GET ID ".toList ++ ·) hreading.text_eq
  · rcases hreading.mark_cases with rfl | rfl | rfl
    · exact Or.inl rfl
    · exact Or.inr (Or.inl rfl)
    · exact Or.inr (Or.inr rfl)
  · rw [UInt16.toNat_ofNat', hnumber, Nat.mod_eq_of_lt (by omega)]

/-- **When a `GET ID` line is sent in its form.**  For every line: a packet for an id is sent only
if the line has the form and the id is its number, and every line of the form is sent, exactly when
the line is not loose. -/
theorem getID_sent_iff (command : List Char) : SentInForm command ↔ ¬ Loose command := by
  constructor
  · rintro ⟨hform, -⟩ ⟨text, blanks, sign, mark, digits, rest, rfl, hreading, hle, hnot⟩
    obtain ⟨id, -, numeral, htext, hhex⟩ :=
      hform _ (sendUserCommand_of_hexReading hreading hle) rfl
    obtain rfl := List.append_cancel_left htext
    obtain ⟨mark', digits', hreading', -⟩ := exists_hexReading_of_isHex hhex
    -- both readings leave what `strtoul` leaves
    have hrest : rest = ['\n'] := hreading.strtoul_eq.2.symm.trans hreading'.strtoul_eq.2
    have hunsigned : Unsigned (numeral ++ ['\n']) := by
      rw [hreading'.text_eq]
      exact hreading'.unsigned
    obtain ⟨hblanks, hsign⟩ := eq_nil_of_unsigned hreading hunsigned
    exact hnot ⟨hblanks, hsign, hrest⟩
  · intro hloose
    refine ⟨fun packet hsend hselection => ?_, fun id => sendUserCommand_of_isGetID⟩
    obtain ⟨text, rfl⟩ := exists_text_of_getID hsend hselection
    exact isGetID_of_not_loose hloose hsend

/-- Something behind the number is passed over, and a negative number becomes an id. -/
theorem getID_sent_loosely :
    sendUserCommand "GET ID 12xyz\n".toList = some (sendGetID 0x12) ∧
      ¬ SentInForm "GET ID 12xyz\n".toList ∧
      sendUserCommand "GET ID -FFFFFFFFFFFFFFFF\n".toList = some (sendGetID 1) ∧
      ¬ SentInForm "GET ID -FFFFFFFFFFFFFFFF\n".toList := by
  -- a line of the form has no other characters than these
  have hform : ∀ {command : List Char} {id : UInt16} {c : Char},
      sendUserCommand command = some (sendGetID id) → c ∈ command → isPlain c = false →
      c ∉ "GET ID \n".toList → ¬ SentInForm command := by
    intro command id c hsend hc hplain hother h
    obtain ⟨id', -, numeral, rfl, hhex⟩ := h.1 _ hsend rfl
    rw [List.mem_append, List.mem_append] at hc
    rcases hc with hc | hc | hc
    · exact hother (List.mem_append_left ['\n'] hc)
    · rw [plain_of_isHex hhex c hc] at hplain
      cases hplain
    · exact hother (List.mem_append_right "GET ID ".toList hc)
  have hrest : sendUserCommand "GET ID 12xyz\n".toList = some (sendGetID 0x12) := by
    decide +kernel
  have hminus : sendUserCommand "GET ID -FFFFFFFFFFFFFFFF\n".toList = some (sendGetID 1) := by
    decide +kernel
  have hother : 'y' ∉ "GET ID \n".toList ∧ '-' ∉ "GET ID \n".toList := by decide
  exact ⟨hrest, hform hrest (c := 'y') (by decide) (by decide) hother.1, hminus,
    hform hminus (c := '-') (by decide) (by decide) hother.2⟩

end GetID

end Interface
end Gateway
