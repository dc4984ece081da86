/-
# What is parsed is a JSON text

Every reader takes a text of the form it is for from the front, and leaves what stands
behind it: a string, a number, a value with white space in front. Arrays and objects are
read element by element, so what their loops take is a listing up to the closing bracket.
Whatever value a text is parsed as, and however it is spelled, the text is then a JSON
text by its form alone.
-/

import Mathlib.Data.List.TakeWhile
import SourceLines.Problem
import SourceLines.Proofs.JsonTexts

namespace SourceLines

namespace Json

variable {text start rest left digits : Text} {c : Char}

/-! ## White space and literals -/

theorem exists_gap (text : Text) : ∃ gap, text = gap ++ skipSpace text ∧ IsGap gap :=
  ⟨text.takeWhile isSpace, List.takeWhile_append_dropWhile.symm, fun _ => List.mem_takeWhile_imp⟩

theorem IsGap.append {before after : Text} (first : IsGap before) (second : IsGap after) :
    IsGap (before ++ after) :=
  List.forall_mem_append.mpr ⟨first, second⟩

theorem eq_append_of_readLiteral {literal : Text} (read : readLiteral literal text = .ok rest) :
    text = literal ++ rest := by
  induction literal generalizing text with
  | nil =>
      cases read
      rfl
  | cons expected literal ih =>
      cases text with
      | nil => cases read
      | cons c text =>
          rw [readLiteral] at read
          split at read
          · next same => rw [same, ih read, List.cons_append]
          · cases read

/-! ## Strings -/

theorem exists_code_of_readHexQuad {number : Nat} (read : readHexQuad text = .ok (number, rest)) :
    ∃ digits, text = digits ++ rest ∧ digits.length = 4 ∧ SpellsCode number digits := by
  unfold readHexQuad at read
  split at read
  · next found =>
      cases read
      match text, found with
      | a :: b :: c :: d :: rest, value => exact ⟨[a, b, c, d], rfl, rfl, .quad value⟩
  · split at read <;> cases read

theorem exists_code_of_readSecondHalf {high : Nat} {meant : Char}
    (read : readSecondHalf high text = .ok meant) :
    ∃ number digits more, text = '\\' :: 'u' :: digits ++ more ∧ digits.length = 4 ∧
      SpellsCode number digits := by
  unfold readSecondHalf at read
  split at read
  case h_3 more =>
    cases second : readHexQuad more with
    | error failure =>
        rw [second] at read
        cases read
    | ok found =>
        obtain ⟨number, behind⟩ := found
        obtain ⟨digits, rfl, length, code⟩ := exists_code_of_readHexQuad second
        exact ⟨number, digits, behind, rfl, length, code⟩
  all_goals cases read

/-- What an escape takes belongs to a string, whatever follows in it. -/
theorem isStringBody_of_readEscape {meant : Char} {length : Nat}
    (read : readEscape text = .ok (meant, length)) {body : Text} (tail : IsStringBody body) :
    IsStringBody ('\\' :: text.take length ++ body) := by
  unfold readEscape at read
  split at read
  · cases read
  · next more =>
    cases first : readHexQuad more with
    | error failure =>
        rw [first] at read
        cases read
    | ok found =>
        obtain ⟨number, behind⟩ := found
        obtain ⟨digits, rfl, four, code⟩ := exists_code_of_readHexQuad first
        simp only [first, bind, Except.bind] at read
        split at read
        · cases read
        split at read
        · -- The first half of a pair is followed by a second code.
          split at read
          · cases read
          · next second =>
            cases read
            obtain ⟨number, others, more, same, fourMore, codeMore⟩ :=
              exists_code_of_readSecondHalf second
            have taken : ('u' :: (digits ++ behind)).take 11 =
                'u' :: digits ++ '\\' :: 'u' :: others := by
              rw [same]
              simp [List.take_append, List.take_of_length_le, four, fourMore]
            rw [taken, ← List.cons_append, List.append_assoc]
            exact .code code (.code codeMore tail)
        · cases read
          have taken : ('u' :: (digits ++ behind)).take 5 = 'u' :: digits := by
            simp [four]
          rw [taken]
          exact .code code tail
  · next letter more _ =>
    split at read
    · next short =>
      cases read
      exact .letter short tail
    · cases read

/-- What is read of a string reaches up to its closing quote. The escape that is being
taken is no part of it. -/
theorem exists_body_of_readStringFrom {found : Text} {taken : Nat} {string : String}
    (read : readStringFrom found taken text = .ok (string, rest)) :
    ∃ body, text.drop taken = body ++ '"' :: rest ∧ IsStringBody body := by
  induction text generalizing found taken with
  | nil => cases taken <;> cases read
  | cons c text ih =>
      cases taken with
      | succ taken => exact ih read
      | zero =>
          rw [readStringFrom] at read
          split at read
          · next quote =>
            cases read
            exact ⟨[], by rw [quote]; rfl, .nil⟩
          split at read
          · next backslash =>
            split at read
            · next meant length escape =>
              obtain ⟨body, same, tail⟩ := ih read
              refine ⟨'\\' :: text.take length ++ body, ?_, isStringBody_of_readEscape escape tail⟩
              rw [List.append_assoc, ← same, List.cons_append, List.take_append_drop, backslash]
              rfl
            · cases read
          · next notQuote notBackslash =>
            split at read
            · cases read
            · next notControl =>
              obtain ⟨body, same, tail⟩ := ih read
              refine ⟨c :: body, ?_, .plain notQuote notBackslash notControl tail⟩
              rw [List.cons_append, ← same]
              rfl

theorem exists_body_of_readString {string : String}
    (read : readString text = .ok (string, rest)) :
    ∃ body, text = body ++ '"' :: rest ∧ IsStringBody body :=
  exists_body_of_readStringFrom read

/-! ## Numbers -/

/-- A first digit and all that follow it. -/
theorem isDigits_takeWhile {more : Text} (digit : c.isDigit = true) :
    IsDigits ((c :: more).takeWhile Char.isDigit) := by
  refine ⟨?_, fun _ => List.mem_takeWhile_imp⟩
  rw [List.takeWhile_cons, if_pos digit]
  exact List.cons_ne_nil _ _

/-- The digits of an exponent are all taken, or all that are left are dropped. -/
theorem dropWhile_of_readExponentDigits {exponent : Nat} {shift : Option Nat}
    (read : readExponentDigits exponent text = (shift, rest)) :
    rest.dropWhile Char.isDigit = text.dropWhile Char.isDigit ∧
      (shift ≠ none → rest = text.dropWhile Char.isDigit) := by
  induction text generalizing exponent with
  | nil =>
      cases read
      exact ⟨rfl, fun _ => rfl⟩
  | cons c text ih =>
      rw [readExponentDigits] at read
      split at read
      · next digit =>
        rw [List.dropWhile_cons, if_pos digit]
        simp only at read
        split at read
        · exact ih read
        · cases read
          exact ⟨rfl, absurd rfl⟩
      · next notDigit =>
        cases read
        rw [List.dropWhile_cons, if_neg notDigit]
        exact ⟨rfl, fun _ => rfl⟩

theorem exists_sign (text : Text) :
    ∃ sign, text = sign ++ (readSign text).2 ∧ (sign = [] ∨ sign = ['+'] ∨ sign = ['-']) := by
  unfold readSign
  split
  · exact ⟨['+'], rfl, by simp⟩
  · exact ⟨['-'], rfl, by simp⟩
  · exact ⟨[], rfl, by simp⟩

variable {isPositive : Bool} {significand : Nat} {exponent : Int} {number : Number}

theorem eq_of_makeFloat
    (read : makeFloat isPositive significand exponent text = .ok (number, rest)) : rest = text := by
  unfold makeFloat at read
  split at read <;> cases read
  rfl

theorem exists_exponent_of_readExponent
    (read : readExponent isPositive significand exponent text = .ok (number, rest)) :
    ∃ sign digits, text = sign ++ digits ++ rest ∧
      (sign = [] ∨ sign = ['+'] ∨ sign = ['-']) ∧ IsDigits digits := by
  obtain ⟨sign, same, isSign⟩ := exists_sign text
  unfold readExponent at read
  generalize readSign text = signed at same read
  obtain ⟨isUpward, digits⟩ := signed
  cases digits with
  | nil => cases read
  | cons c more =>
      simp only at read same
      split at read
      case isFalse => cases read
      next digit =>
      refine ⟨sign, (c :: more).takeWhile Char.isDigit, ?_, isSign, isDigits_takeWhile digit⟩
      suffices left : rest = (c :: more).dropWhile Char.isDigit by
        rw [left, List.append_assoc, List.takeWhile_append_dropWhile, ← same]
      split at read
      · next taken =>
        rw [eq_of_makeFloat read]
        exact (dropWhile_of_readExponentDigits taken).2 (by simp)
      · next taken =>
        split at read
        · cases read
        · cases read
          exact (dropWhile_of_readExponentDigits taken).1

theorem exists_exponent_of_readAfterDigits
    (read : readAfterDigits isPositive significand exponent text = .ok (number, rest)) :
    ∃ taken, text = taken ++ rest ∧ IsExponent taken := by
  unfold readAfterDigits at read
  split at read
  · next more =>
    obtain ⟨sign, digits, rfl, isSign, isDigits⟩ := exists_exponent_of_readExponent read
    exact ⟨'e' :: sign ++ digits, rfl, .some (.inl rfl) isSign isDigits⟩
  · next more =>
    obtain ⟨sign, digits, rfl, isSign, isDigits⟩ := exists_exponent_of_readExponent read
    exact ⟨'E' :: sign ++ digits, rfl, .some (.inr rfl) isSign isDigits⟩
  · exact ⟨[], (eq_of_makeFloat read).symm, .none⟩

theorem exists_parts_of_readFraction
    (read : readFraction isPositive significand exponent text = .ok (number, rest)) :
    ∃ digits taken, text = digits ++ taken ++ rest ∧ IsDigits digits ∧ IsExponent taken := by
  simp only [readFraction] at read
  split at read
  · cases read
  · next notEmpty =>
    obtain ⟨taken, same, isExponent⟩ := exists_exponent_of_readAfterDigits read
    refine ⟨text.takeWhile Char.isDigit, taken, ?_, ⟨?_, fun _ => List.mem_takeWhile_imp⟩,
      isExponent⟩
    · rw [List.append_assoc, ← same, List.takeWhile_append_dropWhile]
    · intro empty
      exact notEmpty (List.isEmpty_iff.mpr empty)

/-- The digits in front of a number's point, and what follows them. -/
theorem exists_isInteger {more : Text} (digit : c.isDigit = true)
    (noMore : (c = '0' && more.head?.any Char.isDigit) = false) :
    ∃ integer,
      (if c = '0' then more else (c :: more).dropWhile Char.isDigit) =
        (c :: more).dropWhile Char.isDigit ∧
      c :: more = integer ++ (c :: more).dropWhile Char.isDigit ∧ IsInteger integer := by
  have isDigits : IsDigits ((c :: more).takeWhile Char.isDigit) := isDigits_takeWhile digit
  have same := (List.takeWhile_append_dropWhile (p := Char.isDigit) (l := c :: more)).symm
  by_cases zero : c = '0'
  · obtain rfl := zero
    have left : more.dropWhile Char.isDigit = more := by
      cases more with
      | nil => rfl
      | cons d more =>
          have notDigit : d.isDigit = false := by simpa using noMore
          rw [List.dropWhile_cons, if_neg (ne_true_of_eq_false notDigit)]
    have dropped : ('0' :: more).dropWhile Char.isDigit = more := by
      rw [List.dropWhile_cons, if_pos digit, left]
    exact ⟨['0'], by rw [if_pos rfl, dropped], by rw [dropped]; rfl, .zero⟩
  · rw [List.takeWhile_cons, if_pos digit] at isDigits same
    exact ⟨_, by rw [if_neg zero], same, .digits zero isDigits⟩

/-- What is read as a number without its sign is one. -/
theorem exists_isUnsigned_of_readNumber
    (read : readNumber isPositive text = .ok (number, rest)) :
    ∃ taken, text = taken ++ rest ∧ IsUnsigned taken := by
  unfold readNumber at read
  split at read
  · cases read
  next c more =>
  split at read
  · cases read
  next digit =>
  rw [Bool.not_eq_true, Bool.not_eq_false'] at digit
  simp only at read
  split at read
  · cases read
  next noMore =>
  obtain ⟨integer, left, same, isInteger⟩ :=
    exists_isInteger digit (eq_false_of_ne_true noMore)
  rw [left] at read
  rw [same]
  generalize (c :: more).dropWhile Char.isDigit = behind at read
  generalize takeDigits 0 _ = value at read
  split at read
  · obtain ⟨digits, taken, rfl, isDigits, isExponent⟩ := exists_parts_of_readFraction read
    exact ⟨integer ++ '.' :: digits ++ taken, by simp, .parts isInteger (.some isDigits) isExponent⟩
  · obtain ⟨sign, digits, rfl, isSign, isDigits⟩ := exists_exponent_of_readExponent read
    refine ⟨integer ++ [] ++ ('e' :: sign ++ digits), by simp, ?_⟩
    exact .parts isInteger .none (.some (.inl rfl) isSign isDigits)
  · obtain ⟨sign, digits, rfl, isSign, isDigits⟩ := exists_exponent_of_readExponent read
    refine ⟨integer ++ [] ++ ('E' :: sign ++ digits), by simp, ?_⟩
    exact .parts isInteger .none (.some (.inr rfl) isSign isDigits)
  · have here : rest = behind := by
      split at read
      · cases read
        rfl
      · exact eq_of_makeFloat read
    exact ⟨integer ++ [] ++ [], by simp [here], .parts isInteger .none .none⟩

/-! ## Values that hold no values -/

theorem exists_isString_of_readString {string : String}
    (read : readString text = .ok (string, rest)) :
    ∃ taken, '"' :: text = taken ++ rest ∧ IsString taken := by
  obtain ⟨body, rfl, isBody⟩ := exists_body_of_readString read
  exact ⟨'"' :: body ++ ['"'], by simp, .quoted isBody⟩

/-- What is found is a value, unless a bracket is found. -/
theorem exists_isJson_of_readFound {found : Found} (read : readFound text = .ok (found, rest))
    (notSequence : found ≠ .sequence) (notMap : found ≠ .map) :
    ∃ taken, text = taken ++ rest ∧ IsJson taken := by
  unfold readFound at read
  split at read
  · obtain ⟨behind, read, ⟨⟩⟩ := bind_eq_ok_iff.mp read
    exact ⟨"null".toList, congrArg ('n' :: ·) (eq_append_of_readLiteral read), .null⟩
  · obtain ⟨behind, read, ⟨⟩⟩ := bind_eq_ok_iff.mp read
    exact ⟨"true".toList, congrArg ('t' :: ·) (eq_append_of_readLiteral read), .boolTrue⟩
  · obtain ⟨behind, read, ⟨⟩⟩ := bind_eq_ok_iff.mp read
    exact ⟨"false".toList, congrArg ('f' :: ·) (eq_append_of_readLiteral read), .boolFalse⟩
  · obtain ⟨⟨string, behind⟩, read, ⟨⟩⟩ := bind_eq_ok_iff.mp read
    obtain ⟨taken, same, isString⟩ := exists_isString_of_readString read
    exact ⟨taken, same, .string isString⟩
  · obtain ⟨⟨number, behind⟩, read, ⟨⟩⟩ := bind_eq_ok_iff.mp read
    obtain ⟨taken, rfl, isUnsigned⟩ := exists_isUnsigned_of_readNumber read
    exact ⟨'-' :: taken, rfl, .number (.negative isUnsigned)⟩
  · cases read
    exact absurd rfl notSequence
  · cases read
    exact absurd rfl notMap
  · cases read
  · split at read
    · obtain ⟨⟨number, behind⟩, read, ⟨⟩⟩ := bind_eq_ok_iff.mp read
      obtain ⟨taken, same, isUnsigned⟩ := exists_isUnsigned_of_readNumber read
      exact ⟨taken, same, .number (.positive isUnsigned)⟩
    · cases read

/-! ## Arrays and objects -/

/-- What stands in front of the next element, as far as it separates elements. -/
inductive Separates : Bool → Text → Prop
  | first {gap : Text} (isGap : IsGap gap) : Separates true gap
  | next {before after : Text} (isGapBefore : IsGap before) (isGapAfter : IsGap after) :
      Separates false (before ++ ',' :: after)

/-- More white space may stand in front of an element. -/
theorem Separates.append_gap {isFirst : Bool} {separator gap : Text}
    (separates : Separates isFirst separator) (isGap : IsGap gap) :
    Separates isFirst (separator ++ gap) := by
  cases separates with
  | first isGapFirst => exact .first (isGapFirst.append isGap)
  | next isGapBefore isGapAfter =>
      rw [List.append_assoc, List.cons_append]
      exact .next isGapBefore (isGapAfter.append isGap)

theorem Separates.listing {isFirst : Bool} {separator item more : Text} {items : List Text}
    (separates : Separates isFirst separator) (others : Listing false items more) :
    Listing isFirst (item :: items) (separator ++ item ++ more) := by
  cases separates with
  | first isGap => exact .first isGap others
  | next isGapBefore isGapAfter => exact .next isGapBefore isGapAfter others

theorem exists_separator_of_nextElement? {isFirst : Bool}
    (next : nextElement? isFirst text = .ok (some start)) :
    ∃ separator, text = separator ++ start ∧ Separates isFirst separator := by
  obtain ⟨gap, same, isGap⟩ := exists_gap text
  unfold nextElement? at next
  split at next
  · cases next
  · cases next
  · next rest comma =>
    split at next
    · next first =>
      cases next
      exact ⟨gap, same, first ▸ .first isGap⟩
    · next notFirst =>
      obtain ⟨gapAfter, sameAfter, isGapAfter⟩ := exists_gap rest
      split at next
      · cases next
      · cases next
      · cases next
        rw [comma] at same
        refine ⟨gap ++ ',' :: gapAfter, ?_, eq_false_of_ne_true notFirst ▸ .next isGap isGapAfter⟩
        rw [List.append_assoc, List.cons_append, ← sameAfter, same]
  · split at next
    · next first =>
      cases next
      exact ⟨gap, same, first ▸ .first isGap⟩
    · cases next

theorem exists_separator_of_nextName? {isFirst : Bool}
    (next : nextName? isFirst text = .ok (some start)) :
    ∃ separator, text = separator ++ '"' :: start ∧ Separates isFirst separator := by
  obtain ⟨gap, same, isGap⟩ := exists_gap text
  unfold nextName? at next
  split at next
  · cases next
  · cases next
  · next rest comma =>
    split at next
    · cases next
    · next notFirst =>
      obtain ⟨gapAfter, sameAfter, isGapAfter⟩ := exists_gap rest
      split at next
      · cases next
      · cases next
      · next quote =>
        cases next
        rw [comma] at same
        refine ⟨gap ++ ',' :: gapAfter, ?_, eq_false_of_ne_true notFirst ▸ .next isGap isGapAfter⟩
        rw [List.append_assoc, List.cons_append, ← quote, ← sameAfter, same]
      · cases next
  · next quote =>
    split at next
    · next first =>
      cases next
      exact ⟨gap, quote ▸ same, first ▸ .first isGap⟩
    · cases next
  · cases next

theorem exists_gap_of_readColon (read : readColon text = .ok rest) :
    ∃ gap, text = gap ++ ':' :: rest ∧ IsGap gap := by
  obtain ⟨gap, same, isGap⟩ := exists_gap text
  unfold readColon at read
  split at read
  · next colon =>
    cases read
    exact ⟨gap, colon ▸ same, isGap⟩
  · cases read
  · cases read

theorem exists_gap_of_closeArray (closed : (closeArray text).toExcept = .ok rest) :
    ∃ gap, text = gap ++ ']' :: rest ∧ IsGap gap := by
  obtain ⟨gap, same, isGap⟩ := exists_gap text
  unfold closeArray at closed
  split at closed
  · next bracket =>
    cases closed
    exact ⟨gap, bracket ▸ same, isGap⟩
  all_goals cases closed

theorem exists_gap_of_closeObject (closed : (closeObject text).toExcept = .ok rest) :
    ∃ gap, text = gap ++ '\x7d' :: rest ∧ IsGap gap := by
  obtain ⟨gap, same, isGap⟩ := exists_gap text
  unfold closeObject at closed
  split at closed
  · next bracket =>
    cases closed
    exact ⟨gap, bracket ▸ same, isGap⟩
  all_goals cases closed

/-- Up to its closing bracket an array is a listing of what the step takes. -/
theorem exists_listing_of_foldElements {σ ε : Type} {place : Failure → ε}
    {step : σ → Text → Except ε (σ × Text)} {budget : Nat} {isFirst : Bool} {state last : σ}
    (takes : ∀ {state next : σ} {start rest : Text}, step state start = .ok (next, rest) →
      ∃ gap item, start = gap ++ (item ++ rest) ∧ IsGap gap ∧ IsJson item)
    (folded : foldElements place step budget isFirst state text = .ok (last, left)) :
    ∃ items body, text = body ++ left ∧ (∀ item ∈ items, IsJson item) ∧
      ∀ gap, IsGap gap → Listing isFirst items (body ++ gap) := by
  induction budget generalizing isFirst state text with
  | zero => cases folded
  | succ budget ih =>
      rw [foldElements] at folded
      split at folded
      · cases folded
      · cases folded
        exact ⟨[], [], rfl, by simp, fun gap isGap => .done isGap⟩
      · next start next =>
        split at folded
        · cases folded
        · next behind rest taken =>
          obtain ⟨separator, rfl, separates⟩ := exists_separator_of_nextElement? next
          obtain ⟨gap, item, rfl, isGap, isJson⟩ := takes taken
          obtain ⟨items, body, rfl, each, listing⟩ := ih folded
          refine ⟨item :: items, separator ++ gap ++ item ++ body, by simp, ?_, ?_⟩
          · exact List.forall_mem_cons.mpr ⟨isJson, each⟩
          · intro gapAfter isGapAfter
            rw [List.append_assoc]
            exact (separates.append_gap isGap).listing (listing gapAfter isGapAfter)

/-- Up to its closing bracket an object is a listing of names and what the step takes
behind them. -/
theorem exists_listing_of_foldMembers {σ ε : Type} {place : Failure → ε}
    {step : σ → String → Text → Except ε (σ × Text)} {budget : Nat} {isFirst : Bool}
    {state last : σ}
    (takes : ∀ {state next : σ} {name : String} {start rest : Text},
      step state name start = .ok (next, rest) →
        ∃ before after value, start = before ++ ':' :: (after ++ (value ++ rest)) ∧
          IsGap before ∧ IsGap after ∧ IsJson value)
    (folded : foldMembers place step budget isFirst state text = .ok (last, left)) :
    ∃ (members : List MemberText) (body : Text), text = body ++ left ∧
      (∀ member ∈ members, member.IsNamed) ∧ (∀ member ∈ members, IsJson member.value) ∧
      ∀ gap, IsGap gap → Listing isFirst (members.map MemberText.spelling) (body ++ gap) := by
  induction budget generalizing isFirst state text with
  | zero => cases folded
  | succ budget ih =>
      rw [foldMembers] at folded
      split at folded
      · cases folded
      · cases folded
        exact ⟨[], [], rfl, by simp, by simp, fun gap isGap => .done isGap⟩
      · next start next =>
        split at folded
        · cases folded
        · next name named read =>
          split at folded
          · cases folded
          · next behind rest taken =>
            obtain ⟨separator, rfl, separates⟩ := exists_separator_of_nextName? next
            obtain ⟨nameText, same, isString⟩ := exists_isString_of_readString read
            obtain ⟨before, after, value, rfl, isGapBefore, isGapAfter, isJson⟩ := takes taken
            obtain ⟨members, body, rfl, each, values, listing⟩ := ih folded
            refine ⟨⟨nameText, before, after, value⟩ :: members,
              separator ++ MemberText.spelling ⟨nameText, before, after, value⟩ ++ body, ?_, ?_,
              ?_, ?_⟩
            · rw [same]
              simp [MemberText.spelling]
            · exact List.forall_mem_cons.mpr ⟨⟨isString, isGapBefore, isGapAfter⟩, each⟩
            · exact List.forall_mem_cons.mpr ⟨isJson, values⟩
            · intro gap isGap
              rw [List.append_assoc]
              exact separates.listing (listing gap isGap)

/-- A value that is read is taken from the front, behind white space. -/
theorem exists_isJson_of_readValueWithin {budget depth : Nat} {value : Value}
    (read : readValueWithin budget depth text = .ok (value, rest)) :
    ∃ gap taken, text = gap ++ (taken ++ rest) ∧ IsGap gap ∧ IsJson taken := by
  -- What is nested is read with a depth less, whatever text it is.
  induction depth using Nat.strongRecOn generalizing text value rest with | ind depth ih
  obtain ⟨gap, same, isGap⟩ := exists_gap text
  suffices taken : ∃ taken, skipSpace text = taken ++ rest ∧ IsJson taken by
    obtain ⟨taken, split, isJson⟩ := taken
    exact ⟨gap, taken, split ▸ same, isGap, isJson⟩
  unfold readValueWithin at read
  split at read
  · next inner bracket =>
    split at read
    · cases read
    · next depth =>
      obtain ⟨⟨values, behind⟩, folded, read⟩ := bind_eq_ok_iff.mp read
      obtain ⟨behind, closed, ⟨⟩⟩ := bind_eq_ok_iff.mp read
      obtain ⟨items, body, rfl, each, listing⟩ := exists_listing_of_foldElements (by
        intro state next start rest stepped
        obtain ⟨⟨item, behind⟩, read, ⟨⟩⟩ := bind_eq_ok_iff.mp stepped
        exact ih depth (Nat.lt_succ_self depth) read) folded
      obtain ⟨gapAfter, rfl, isGapAfter⟩ := exists_gap_of_closeArray closed
      exact ⟨_, by simp [bracket], .array each (listing gapAfter isGapAfter)⟩
  · next inner bracket =>
    split at read
    · cases read
    · next depth =>
      obtain ⟨⟨values, behind⟩, folded, read⟩ := bind_eq_ok_iff.mp read
      obtain ⟨behind, closed, ⟨⟩⟩ := bind_eq_ok_iff.mp read
      obtain ⟨members, body, rfl, named, each, listing⟩ := exists_listing_of_foldMembers (by
        intro state next name start rest stepped
        obtain ⟨behind, colon, stepped⟩ := bind_eq_ok_iff.mp stepped
        obtain ⟨⟨item, behind⟩, read, ⟨⟩⟩ := bind_eq_ok_iff.mp stepped
        obtain ⟨before, rfl, isGapBefore⟩ := exists_gap_of_readColon colon
        obtain ⟨after, taken, rfl, isGapAfter, isJson⟩ := ih depth (Nat.lt_succ_self depth) read
        exact ⟨before, after, taken, rfl, isGapBefore, isGapAfter, isJson⟩) folded
      obtain ⟨gapAfter, rfl, isGapAfter⟩ := exists_gap_of_closeObject closed
      exact ⟨_, by simp [bracket], .object named each (listing gapAfter isGapAfter)⟩
  · obtain ⟨⟨found, behind⟩, shown, read⟩ := bind_eq_ok_iff.mp read
    cases found with
    | sequence | map => cases read
    | null | bool | number | string =>
        cases read
        exact exists_isJson_of_readFound shown (by simp) (by simp)

/-- What is parsed is a JSON text. -/
theorem isDocument_of_parse {value : Value} (parsed : parse text = .ok value) :
    IsDocument text := by
  obtain ⟨⟨value, rest⟩, read, parsed⟩ := bind_eq_ok_iff.mp parsed
  obtain ⟨⟨⟩, ended, ⟨⟩⟩ := bind_eq_ok_iff.mp parsed
  obtain ⟨before, taken, rfl, isGapBefore, isJson⟩ := exists_isJson_of_readValueWithin read
  obtain ⟨after, same, isGapAfter⟩ := exists_gap rest
  unfold readEnd at ended
  split at ended
  · next empty =>
    rw [empty, List.append_nil] at same
    exact .value isGapBefore isJson (same ▸ isGapAfter)
  · cases ended

end Json

end SourceLines
