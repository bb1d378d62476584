import Calculator.Proofs.Conversion
import Calculator.Proofs.Numerals
import Mathlib.Data.List.Induction

/-!
# Decimals written and read

The text of a decimal is read back as the decimal, and a number that is written as decimals are is shown again just
as it was written, trailing zeros included (`text_roundTrip`). Both come of two facts about digits: the digits of a
number write it (`number_text`), and digits that write a number are its digits (`toDigits_number`,
`lastDigits_ofDigitChars`).
-/

namespace Calculator

/-! ## Digits of a number -/

/-- The value of a digit at the end of others. -/
theorem ofDigitChars_concat (n : Nat) (digits : Text) (c : Char) :
    Nat.ofDigitChars 10 (digits ++ [c]) n = 10 * Nat.ofDigitChars 10 digits n + (c.toNat - '0'.toNat) := by
  rw [Nat.ofDigitChars_append, Nat.ofDigitChars_cons, Nat.ofDigitChars_nil]

theorem digitChar_of_isDigit {c : Char} (h : c.isDigit = true) :
    c.toNat - '0'.toNat < 10 ∧ Nat.digitChar (c.toNat - '0'.toNat) = c := by
  obtain ⟨hlow, hhigh⟩ := Char.isDigit_iff_toNat.1 h
  have h0 : '0'.toNat = 48 := rfl
  have h9 : '9'.toNat = 57 := rfl
  have hlt : c.toNat - '0'.toNat < 10 := by omega
  refine ⟨hlt, Char.toNat_inj.1 ?_⟩
  rw [Nat.toNat_digitChar_of_lt_ten hlt]
  omega

/-- The last digits of a number, written behind the others, write it. -/
theorem ofDigitChars_lastDigits (k n : Nat) : Nat.ofDigitChars 10 (Decimal.lastDigits k n) (n / tenTo k) = n := by
  induction k generalizing n with
  | zero => exact Nat.div_one n
  | succ k ih =>
    rw [Decimal.lastDigits, Nat.ofDigitChars_append, tenTo_succ, ← Nat.div_div_eq_div_mul, ih,
      Nat.ofDigitChars_cons_digitChar_of_lt_ten (Nat.mod_lt n (by decide)), Nat.ofDigitChars_nil]
    omega

/-- Digits written behind a number are the last digits of the result, and the number is the rest of it. -/
theorem lastDigits_ofDigitChars {digits : Text} (h : AllDigits digits) (n : Nat) :
    Decimal.lastDigits digits.length (Nat.ofDigitChars 10 digits n) = digits ∧
      Nat.ofDigitChars 10 digits n / tenTo digits.length = n := by
  induction digits using List.reverseRecOn with
  | nil => exact ⟨rfl, Nat.div_one n⟩
  | append_singleton digits c ih =>
    obtain ⟨hdigits, hc⟩ := allDigits_append.1 h
    obtain ⟨hlast, hrest⟩ := ih hdigits
    obtain ⟨hlt, hchar⟩ := digitChar_of_isDigit (hc c (by simp))
    have hdiv : (10 * Nat.ofDigitChars 10 digits n + (c.toNat - '0'.toNat)) / 10 = Nat.ofDigitChars 10 digits n := by
      omega
    have hmod : (10 * Nat.ofDigitChars 10 digits n + (c.toNat - '0'.toNat)) % 10 = c.toNat - '0'.toNat := by
      omega
    rw [ofDigitChars_concat, List.length_append, List.length_singleton]
    constructor
    · rw [Decimal.lastDigits, hdiv, hmod, hlast, hchar]
    · rw [tenTo_succ, ← Nat.div_div_eq_div_mul, hdiv, hrest]

/-- Digits without a needless zero in front. -/
def NoLeadingZero (digits : Text) : Prop := digits = ['0'] ∨ digits ≠ [] ∧ digits.head? ≠ some '0'

theorem toDigits_number {digits : Text} (h : AllDigits digits) (hz : NoLeadingZero digits) :
    Nat.toDigits 10 (number digits) = digits := by
  induction digits using List.reverseRecOn with
  | nil => rcases hz with hz | hz <;> simp at hz
  | append_singleton digits c ih =>
    obtain ⟨hdigits, hc⟩ := allDigits_append.1 h
    obtain ⟨hlt, hchar⟩ := digitChar_of_isDigit (hc c (by simp))
    rw [number, ofDigitChars_concat, ← number]
    cases digits with
    | nil =>
      rw [number, Nat.ofDigitChars_nil, Nat.mul_zero, Nat.zero_add, Nat.toDigits_of_lt_base hlt, hchar, List.nil_append]
    | cons d digits =>
      have hhead : d ≠ '0' := by
        rcases hz with hz | ⟨-, hz⟩
        · simp at hz
        · simpa using hz
      have hfront := ih hdigits (.inr ⟨by simp, by simpa using hhead⟩)
      -- the digits in front are not those of zero, as they do not start with a zero
      have hpos : 0 < number (d :: digits) := by
        refine Nat.pos_of_ne_zero fun hzero => hhead ?_
        rw [hzero, Nat.toDigits_zero] at hfront
        exact (List.cons.inj hfront).1.symm
      rw [← Nat.toDigits_append_toDigits (by decide) hpos hlt, hfront, Nat.toDigits_of_lt_base hlt, hchar]

/-! ## Numbers as words -/

/-- A number without a sign is a literal. -/
theorem Unsigned.isLiteral {whole fraction word : Text} (h : Unsigned whole fraction word) : IsLiteral word := by
  obtain ⟨hdigits, hne, hword⟩ := h
  have hchar : ∀ c ∈ word, c.isDigit = true ∨ c = '.' := by
    intro c hc
    rcases hword with rfl | ⟨-, rfl⟩
    · rcases List.mem_append.1 hc with hc | hc
      · exact .inl (hdigits c (List.mem_append_left _ hc))
      · rcases List.mem_cons.1 hc with rfl | hc
        · exact .inr rfl
        · exact .inl (hdigits c (List.mem_append_right _ hc))
    · exact .inl (hdigits c (List.mem_append_left _ hc))
  refine ⟨?_, fun c hc => ?_⟩
  · rcases hword with rfl | ⟨rfl, rfl⟩
    · simp
    · simpa using hne
  · rcases hchar c hc with hdigit | rfl
    · have hsymbol : ∀ s ∈ ['+', '-', '*', '/', '(', ')'], s.isDigit = false := by simp
      refine ⟨isBlank_of_isDigit hdigit, fun hmem => ?_⟩
      rw [hsymbol c hmem] at hdigit
      cases hdigit
    · decide

/-- A literal is its own postfix text, and its value is the number that it writes. -/
theorem evaluate_of_isLiteral {word : Text} (h : IsLiteral word) :
    toPostfix word = .ok word ∧ evaluate word = operand word := by
  have hterminals : terminals word = [.literal word] := by
    have hword : terminals (word ++ []) = .literal word :: terminals [] := terminals_literal h rfl
    rwa [List.append_nil, terminals_nil] at hword
  have hderives : Derives .difference (terminals word) (.literal word) := by
    rw [hterminals]
    exact .of_primary (.literal h) _
  have hwords := toPostfix_of_terminals hderives
  rw [Expression.postorderText, Expression.postorder, List.intercalate_singleton] at hwords
  exact ⟨hwords, evaluate_of_terminals hderives⟩

/-- A written number is one word, and no operator. -/
theorem Spells.evaluatePostfix {sign whole fraction word : Text} (h : Spells sign whole fraction word) :
    evaluatePostfix word = operand word := by
  obtain ⟨hsign, text, rfl, hu⟩ := spells_iff.1 h
  have hliteral := hu.isLiteral
  simp only [List.mem_cons, List.not_mem_nil, or_false] at hsign
  have hword : IsWord (sign ++ text) := by
    refine ⟨by simp [hliteral.1], fun c hc => ?_⟩
    rcases List.mem_append.1 hc with hc | hc
    · rcases hsign with rfl | rfl | rfl
      · cases hc
      · rw [List.mem_singleton.1 hc]
        decide
      · rw [List.mem_singleton.1 hc]
        decide
    · exact hliteral.isWord.2 c hc
  have hoperator : Operator.ofWord? (sign ++ text) = none := by
    obtain ⟨c, rest, rfl⟩ := List.exists_cons_of_ne_nil hliteral.1
    rcases hsign with rfl | rfl | rfl
    · exact hliteral.ofWord?_eq_none
    · rfl
    · rfl
  exact Expression.evaluatePostfix_of_words (e := .literal (sign ++ text)) (by simpa [Expression.leaves] using hoperator)
    (words_of_isWord hword)

/-! ## The text of a decimal -/

/-- The text of a decimal writes its digits. -/
theorem spells_text (d : Decimal) :
    Spells (if d.negative then ['-'] else []) (Nat.toDigits 10 (d.mantissa / tenTo d.scale))
      (Decimal.lastDigits d.scale d.mantissa) d.text := by
  refine ⟨by cases d.negative <;> simp, allDigits_append.2 ⟨?_, allDigits_lastDigits _ _⟩, ?_, ?_⟩
  · intro c hc
    exact Nat.isDigit_of_mem_toDigits (by decide) (by decide) hc
  · simp [Nat.toDigits_ne_nil]
  · unfold Decimal.text
    by_cases hs : d.scale = 0
    · rw [if_pos hs, hs, List.append_nil]
      exact .inr ⟨rfl, rfl⟩
    · rw [if_neg hs]
      exact .inl rfl

theorem number_text (d : Decimal) :
    number (Nat.toDigits 10 (d.mantissa / tenTo d.scale) ++ Decimal.lastDigits d.scale d.mantissa) = d.mantissa := by
  rw [number, Nat.ofDigitChars_append, Nat.ofDigitChars_ten_toDigits, ofDigitChars_lastDigits]

/-- What is read of the text of a decimal is the decimal. -/
theorem operand_text (d : Decimal) : operand d.text = .ok d.unsignZero := by
  have hlength : (Decimal.lastDigits d.scale d.mantissa).length = d.scale := Decimal.length_lastDigits ..
  have hsign : ((if d.negative then ['-'] else []) == ['-']) = d.negative := by cases d.negative <;> rfl
  have hm := number_text d
  rw [operand_of_spells (spells_text d), toDecimal?_of_lt (by rw [hm]; exact d.mantissa_lt) (by rw [hlength]; exact d.scale_le)]
  simp only [hm, hlength, hsign]

theorem unsignZero_of_not_negative {d : Decimal} (h : d.negative = false) : d.unsignZero = d := by
  obtain ⟨negative, m, s, hm, hs⟩ := d
  cases h
  rfl

theorem unsigned_text {d : Decimal} (h : d.negative = false) :
    Unsigned (Nat.toDigits 10 (d.mantissa / tenTo d.scale)) (Decimal.lastDigits d.scale d.mantissa) d.text := by
  obtain ⟨-, hdigits, hne, hword⟩ := spells_text d
  rw [h] at hword
  exact ⟨hdigits, hne, hword⟩

/-- A number written as decimals are: no needless zero in front, and no point unless digits follow. -/
structure WrittenPlainly (whole fraction word : Text) : Prop where
  digits : AllDigits (whole ++ fraction)
  noLeadingZero : NoLeadingZero whole
  word_eq : fraction = [] ∧ word = whole ∨ fraction ≠ [] ∧ word = whole ++ '.' :: fraction

theorem WrittenPlainly.unsigned {whole fraction word : Text} (h : WrittenPlainly whole fraction word) :
    Unsigned whole fraction word := by
  obtain ⟨hdigits, hzero, hword⟩ := h
  refine ⟨hdigits, ?_, ?_⟩
  · rcases hzero with rfl | ⟨hne, -⟩
    · simp
    · simp [hne]
  · rcases hword with ⟨hnil, hword⟩ | ⟨-, hword⟩
    · exact .inr ⟨hnil, hword⟩
    · exact .inl hword

/-- The decimal of a number that fits is shown as the number is written. -/
theorem text_of_writtenPlainly {whole fraction word : Text} (h : WrittenPlainly whole fraction word)
    (hm : number (whole ++ fraction) < Decimal.limit) (hs : fraction.length ≤ Decimal.maxScale) :
    Decimal.text ⟨false, number (whole ++ fraction), fraction.length, hm, hs⟩ = word := by
  obtain ⟨hdigits, hzero, hword⟩ := h
  obtain ⟨hw, hf⟩ := allDigits_append.1 hdigits
  have happend : number (whole ++ fraction) = Nat.ofDigitChars 10 fraction (number whole) :=
    Nat.ofDigitChars_append 0
  obtain ⟨hlast, hrest⟩ := lastDigits_ofDigitChars hf (number whole)
  simp only [Decimal.text, happend, hrest, hlast, toDigits_number hw hzero]
  rcases hword with ⟨rfl, rfl⟩ | ⟨hne, rfl⟩
  · simp
  · simp [hne]

/-- The text of a decimal is read back as the decimal, but for the sign of a zero; without a sign it is its own
postfix text too, and has the decimal as its value. And a number of digits that fit, written as decimals are, has a
value with just this text. -/
theorem text_roundTrip :
    (∀ d : Decimal, evaluatePostfix d.text = .ok d.unsignZero) ∧
    (∀ d : Decimal, d.negative = false → toPostfix d.text = .ok d.text ∧ evaluate d.text = .ok d) ∧
    ∀ whole fraction word : Text, WrittenPlainly whole fraction word → fraction.length ≤ 28 →
      number (whole ++ fraction) < Decimal.limit → ∃ d, evaluate word = .ok d ∧ d.text = word := by
  refine ⟨fun d => ?_, fun d hd => ?_, fun whole fraction word h hs hm => ?_⟩
  · rw [(spells_text d).evaluatePostfix]
    exact operand_text d
  · obtain ⟨hwords, hvalue⟩ := evaluate_of_isLiteral (unsigned_text hd).isLiteral
    rw [hvalue, operand_text, unsignZero_of_not_negative hd]
    exact ⟨hwords, rfl⟩
  · have hspells : Spells [] whole fraction word := spells_iff.2 ⟨by simp, word, rfl, h.unsigned⟩
    obtain ⟨-, hvalue⟩ := evaluate_of_isLiteral h.unsigned.isLiteral
    rw [hvalue, operand_of_spells hspells, toDecimal?_of_lt hm hs]
    exact ⟨_, rfl, text_of_writtenPlainly h hm hs⟩

/-- The widest decimal of 28 places, and ten units of the last place with its zero. -/
theorem text_roundTrip_widest :
    evaluate (Decimal.text ⟨false, 79228162514264337593543950335, 28, by decide, by decide⟩) =
      .ok ⟨false, 79228162514264337593543950335, 28, by decide, by decide⟩ ∧
    ∃ d, evaluate "0.0000000000000000000000000010".toList = .ok d ∧
      d.text = "0.0000000000000000000000000010".toList := by
  have hplain : WrittenPlainly ['0'] "0000000000000000000000000010".toList "0.0000000000000000000000000010".toList :=
    ⟨by decide, .inl rfl, .inr ⟨by decide, rfl⟩⟩
  exact ⟨(text_roundTrip.2.1 _ rfl).2, text_roundTrip.2.2 _ _ _ hplain (by decide) (by decide)⟩

end Calculator
