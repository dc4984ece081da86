/-
# Reading what is spelled: strings and numbers

Whatever spelling of a string or of an integer stands in front of a text, the string
or the integer is read from it, and the text behind it is left. A number ends where
no digit, point or exponent follows.
-/

import SourceLines.Proofs.JsonGrammar

namespace SourceLines

namespace Json

variable {c : Char} {text spelling body gap rest : Text}

/-! ## White space -/

/-- White space in front of a text is skipped. -/
theorem skipSpace_gap_append (isGap : IsGap gap) (text : Text) :
    skipSpace (gap ++ text) = skipSpace text :=
  List.dropWhile_append_of_pos isGap

theorem skipSpace_cons (shown : isSpace c = false) (text : Text) :
    skipSpace (c :: text) = c :: text := by
  rw [skipSpace, List.dropWhile_cons, if_neg (by simp [shown])]

/-! ## Strings -/

/-- An escape that has taken some characters lets the reader go on behind them. -/
theorem readStringFrom_append (found taken rest : Text) :
    readStringFrom found taken.length (taken ++ rest) = readStringFrom found 0 rest := by
  induction taken with
  | nil => rfl
  | cons c taken ih => rw [List.length_cons, List.cons_append, readStringFrom, ih]

/-- After a backslash the reader goes on behind the escape. -/
theorem readStringFrom_backslash (escape : Text) {meant : Char} (found rest : Text)
    (read : readEscape (escape ++ rest) = .ok (meant, escape.length)) :
    readStringFrom found 0 ('\\' :: escape ++ rest) = readStringFrom (meant :: found) 0 rest := by
  rw [List.cons_append, readStringFrom, if_neg (by decide), if_pos rfl, read]
  exact readStringFrom_append _ escape rest

theorem readHexQuad_append {number : Nat} (code : SpellsCode number spelling) (rest : Text) :
    readHexQuad (spelling ++ rest) = .ok (number, rest) := by
  obtain ⟨value⟩ := code
  have quad : hexQuad? (_ :: _ :: _ :: _ :: rest) = some number := value
  simp only [List.cons_append, List.nil_append, readHexQuad, quad]
  rfl

/-- One character is read from its spelling. -/
theorem readStringFrom_char (spells : SpellsChar c spelling) (found rest : Text) :
    readStringFrom found 0 (spelling ++ rest) = readStringFrom (c :: found) 0 rest := by
  cases spells with
  | plain notQuote notBackslash notControl =>
      rw [List.singleton_append, readStringFrom, if_neg notQuote, if_neg notBackslash,
        if_neg notControl]
  | @letter letter _ short =>
      have notCode : letter ≠ 'u' := by
        rintro rfl
        exact nomatch short
      apply readStringFrom_backslash [letter]
      simp [readEscape, short]
  | code code notLow notHigh =>
      have read := readHexQuad_append code rest
      obtain ⟨value⟩ := code
      apply readStringFrom_backslash ('u' :: [_, _, _, _])
      rw [List.cons_append, readEscape, read]
      simp [notLow, notHigh, pure, Except.pure, bind, Except.bind]
  | @pair high low first second codeFirst codeSecond isHigh isLow =>
      have notLow : isLowSurrogate high = false := by
        simp only [isHighSurrogate, isLowSurrogate] at isHigh ⊢
        grind
      have read := readHexQuad_append codeFirst ('\\' :: 'u' :: second ++ rest)
      have readPair : readSecondHalf high ('\\' :: 'u' :: second ++ rest) =
          .ok (Char.ofNat ((high - 0xD800) * 0x400 + (low - 0xDC00) + 0x10000)) := by
        rw [List.cons_append, List.cons_append, readSecondHalf, readHexQuad_append codeSecond]
        simp [isLow, pure, Except.pure, bind, Except.bind]
      obtain ⟨valueFirst⟩ := codeFirst
      obtain ⟨valueSecond⟩ := codeSecond
      apply readStringFrom_backslash ('u' :: [_, _, _, _, '\\', 'u', _, _, _, _])
      simp only [List.cons_append, List.nil_append] at read readPair ⊢
      rw [readEscape, read]
      simp [notLow, isHigh, readPair, pure, Except.pure, bind, Except.bind]

/-- A string is read from its spelling, from behind its opening quote on. -/
theorem readStringFrom_chars (spells : SpellsChars text body) (found rest : Text) :
    readStringFrom found 0 (body ++ '"' :: rest) =
      .ok (String.ofList (found.reverse ++ text), rest) := by
  induction spells generalizing found with
  | nil => simp [readStringFrom]
  | cons head tail ih =>
      rw [List.append_assoc, readStringFrom_char head, ih, List.reverse_cons, List.append_assoc,
        List.singleton_append]

theorem readString_append {string : String} (spells : SpellsChars string.toList body)
    (rest : Text) : readString (body ++ '"' :: rest) = .ok (string, rest) := by
  rw [readString, readStringFrom_chars spells, List.reverse_nil, List.nil_append,
    String.ofList_toList]

/-! ## Numbers -/

/-- No number goes on in the text. -/
def EndsNumber (rest : Text) : Prop :=
  ∀ c ∈ rest.head?, c.isDigit = false ∧ c ≠ '.' ∧ c ≠ 'e' ∧ c ≠ 'E'

theorem endsNumber_nil : EndsNumber [] := by
  simp [EndsNumber]

theorem le_ofDigitChars (digits : Text) (number : Nat) :
    number ≤ Nat.ofDigitChars 10 digits number := by
  induction digits generalizing number with
  | nil => exact Nat.le_refl _
  | cons c digits ih =>
      rw [Nat.ofDigitChars_cons]
      exact Nat.le_trans (by omega) (ih _)

/-- All digits are taken of an integer that fits. -/
theorem takeDigits_of_fits {digits : Text} {number : Nat}
    (fits : Nat.ofDigitChars 10 digits number ≤ maxNatural) :
    takeDigits number digits = (Nat.ofDigitChars 10 digits number, []) := by
  induction digits generalizing number with
  | nil => rfl
  | cons c digits ih =>
      rw [Nat.ofDigitChars_cons] at fits ⊢
      have next : number * 10 + (c.toNat - 0x30) = 10 * number + (c.toNat - '0'.toNat) := by
        rw [Nat.mul_comm]
        rfl
      rw [takeDigits, next, if_pos (Nat.le_trans (le_ofDigitChars digits _) fits), ih fits]

theorem exists_toDigits_cons (number : Nat) :
    ∃ c others, Nat.toDigits 10 number = c :: others ∧ c.isDigit = true := by
  cases digits : Nat.toDigits 10 number with
  | nil => exact absurd digits Nat.toDigits_ne_nil
  | cons c others =>
      have member : c ∈ Nat.toDigits 10 number := digits ▸ List.mem_cons_self
      exact ⟨c, others, rfl, Nat.isDigit_of_mem_toDigits (by decide) (by decide) member⟩

/-- No digit zero stands in front of other digits. -/
theorem toDigits_of_head_zero {number : Nat} {more : Text}
    (digits : Nat.toDigits 10 number = '0' :: more) : more = [] := by
  induction number using Nat.strongRecOn generalizing more with
  | _ number ih =>
      by_cases small : number < 10
      · rw [Nat.toDigits_of_lt_base small] at digits
        exact (List.cons.inj digits).2.symm
      · rw [Nat.toDigits_of_base_le (by decide) (Nat.le_of_not_lt small)] at digits
        obtain ⟨c, others, front, -⟩ := exists_toDigits_cons (number / 10)
        rw [front, List.cons_append] at digits
        obtain ⟨rfl, -⟩ := List.cons.inj digits
        -- The digits of the quotient would be a single zero, but the number has two digits.
        have zero := ih (number / 10) (by omega) front
        have value := Nat.ofDigitChars_ten_toDigits (n := number / 10)
        rw [front, zero] at value
        have small : number / 10 = 0 := value.symm
        omega

/-- What is taken in front ends where something else stands. -/
theorem takeWhile_append_of_stops {p : Char → Bool} {front rest : Text}
    (all : ∀ c ∈ front, p c = true) (stops : ∀ c ∈ rest.head?, ¬ p c = true) :
    (front ++ rest).takeWhile p = front := by
  have nothing : rest.takeWhile p = [] := by
    cases rest with
    | nil => rfl
    | cons c rest => rw [List.takeWhile_cons, if_neg (stops c rfl)]
  rw [List.takeWhile_append_of_pos all, nothing, List.append_nil]

theorem dropWhile_append_of_stops {p : Char → Bool} {front rest : Text}
    (all : ∀ c ∈ front, p c = true) (stops : ∀ c ∈ rest.head?, ¬ p c = true) :
    (front ++ rest).dropWhile p = rest := by
  have everything : rest.dropWhile p = rest := by
    cases rest with
    | nil => rfl
    | cons c rest => rw [List.dropWhile_cons, if_neg (stops c rfl)]
  rw [List.dropWhile_append_of_pos all, everything]

/-- An integer is read from its digits. -/
theorem readNumber_append (isPositive : Bool) {magnitude : Nat} (fits : magnitude ≤ maxNatural)
    (ends : EndsNumber rest) :
    readNumber isPositive (Nat.toDigits 10 magnitude ++ rest) =
      .ok (makeInteger isPositive magnitude, rest) := by
  have taken : takeDigits 0 (Nat.toDigits 10 magnitude) = (magnitude, []) := by
    rw [takeDigits_of_fits, Nat.ofDigitChars_ten_toDigits]
    rwa [Nat.ofDigitChars_ten_toDigits]
  have allDigits : ∀ c ∈ Nat.toDigits 10 magnitude, c.isDigit = true := fun c member =>
    Nat.isDigit_of_mem_toDigits (by decide) (by decide) member
  have stops : ∀ c ∈ rest.head?, ¬ c.isDigit = true := fun c first =>
    Bool.eq_false_iff.mp (ends c first).1
  have front := takeWhile_append_of_stops allDigits stops
  have behind := dropWhile_append_of_stops allDigits stops
  obtain ⟨c, others, digits, isDigit⟩ := exists_toDigits_cons magnitude
  rw [digits] at taken allDigits front behind ⊢
  have single : c = '0' → others = [] := by
    rintro rfl
    exact toDigits_of_head_zero digits
  have noMore : (c = '0' && (others ++ rest).head?.any Char.isDigit) = false := by
    by_cases zero : c = '0'
    · have noDigit : rest.head?.any Char.isDigit = false := by
        rw [Option.any_eq_false_iff_get]
        exact fun isSome => (ends _ (Option.get_mem isSome)).1
      rw [single zero, List.nil_append, noDigit, Bool.and_false]
    · simp [zero]
  have number : (if c = '0' then ['0'] else (c :: others ++ rest).takeWhile Char.isDigit) =
      c :: others := by
    split
    · next zero => rw [single zero, zero]
    · exact front
  have left : (if c = '0' then others ++ rest else (c :: others ++ rest).dropWhile Char.isDigit) =
      rest := by
    split
    · next zero => rw [single zero, List.nil_append]
    · exact behind
  rw [List.cons_append] at number left ⊢
  simp only [readNumber, isDigit, noMore, number, left, taken, Bool.not_true, Bool.false_eq_true,
    if_false]
  split
  · exact absurd rfl (ends '.' rfl).2.1
  · exact absurd rfl (ends 'e' rfl).2.2.1
  · exact absurd rfl (ends 'E' rfl).2.2.2
  · rfl

end Json

end SourceLines
