/-
# Every JSON text can be passed over

A value that nobody asks for is passed over whatever it is: its numbers may be of any size,
its escapes by code need not be paired, and it may be nested as deeply as it likes. What
is passed over is the value alone, and nothing of what stands behind it.

The brackets that are open are kept in a list, so the proof follows the text and not the
calls: if the values go on well behind a text, they go on well in front of it.
-/

import SourceLines.Proofs.JsonTexts

namespace SourceLines

namespace Json

variable {text rest body gap digits : Text}

/-- No digit follows here. -/
def EndsDigits (rest : Text) : Prop :=
  ∀ c ∈ rest.head?, ¬ c.isDigit = true

theorem EndsNumber.endsDigits (ends : EndsNumber rest) : EndsDigits rest :=
  fun c first => by simp [ends c first]

theorem EndsDigits.any_head? (ends : EndsDigits rest) : rest.head?.any Char.isDigit = false := by
  cases rest with
  | nil => rfl
  | cons c rest => exact eq_false_of_ne_true (ends c rfl)

theorem IsExponent.endsDigits {taken : Text} (isExponent : IsExponent taken)
    (ends : EndsNumber rest) : EndsDigits (taken ++ rest) := by
  cases isExponent with
  | none => exact ends.endsDigits
  | some isLetter isSign isDigits =>
      rintro c ⟨⟩
      rcases isLetter with rfl | rfl <;> decide

theorem IsDigits.exists_cons (isDigits : IsDigits digits) :
    ∃ c more, digits = c :: more ∧ c.isDigit = true := by
  obtain ⟨notEmpty, each⟩ := isDigits
  obtain ⟨c, more, rfl⟩ := List.exists_cons_of_ne_nil notEmpty
  exact ⟨c, more, rfl, each c List.mem_cons_self⟩

namespace Skip

/-! ## Strings -/

theorem stringFrom_taken (taken rest : Text) :
    stringFrom taken.length (taken ++ rest) = stringFrom 0 rest := by
  induction taken with
  | nil => rfl
  | cons c taken ih => exact ih

theorem stringFrom_append (isBody : IsStringBody body) (rest : Text) :
    stringFrom 0 (body ++ '"' :: rest) = .ok rest := by
  induction isBody with
  | nil => rfl
  | @plain c more notQuote notBackslash notControl tail ih =>
      rw [List.cons_append, stringFrom, if_neg notBackslash, if_neg notControl, ih]
      all_goals simp [notQuote, notBackslash]
  | @letter letter meant more short tail ih =>
      have notCode : letter ≠ 'u' := by
        rintro rfl
        cases short
      rw [List.cons_append, List.cons_append, stringFrom, short]
      · exact ih
      · exact notCode
  | @code number digits more code tail ih =>
      have length : digits.length = 4 := by
        cases code
        rfl
      rw [List.append_assoc, List.cons_append, List.cons_append, stringFrom,
        readHexQuad_append code]
      simp only
      rw [← length, stringFrom_taken, ih]

/-! ## Numbers -/

theorem exponent_append {sign : Text} (isSign : sign = [] ∨ sign = ['+'] ∨ sign = ['-'])
    (isDigits : IsDigits digits) (ends : EndsDigits rest) :
    exponent (sign ++ digits ++ rest) = .ok rest := by
  have dropped := dropWhile_append_of_stops isDigits.each ends
  obtain ⟨c, more, rfl, digit⟩ := isDigits.exists_cons
  have signed : (readSign (sign ++ (c :: more) ++ rest)).2 = c :: more ++ rest := by
    rcases isSign with rfl | rfl | rfl
    · rw [List.nil_append, List.cons_append, readSign]
      · rintro _ ⟨⟩
        exact absurd digit (by decide)
      · rintro _ ⟨⟩
        exact absurd digit (by decide)
    · rfl
    · rfl
  rw [exponent, signed]
  rw [List.cons_append] at dropped ⊢
  simp only [digit, if_true, dropped]

theorem afterDigits_append {taken : Text} (isExponent : IsExponent taken)
    (ends : EndsNumber rest) : afterDigits (taken ++ rest) = .ok rest := by
  cases isExponent with
  | none =>
      rw [List.nil_append, afterDigits]
      · rintro more rfl
        exact absurd rfl (ends 'e' rfl).2.2.1
      · rintro more rfl
        exact absurd rfl (ends 'E' rfl).2.2.2
  | some isLetter isSign isDigits =>
      rcases isLetter with rfl | rfl
      · exact exponent_append isSign isDigits ends.endsDigits
      · exact exponent_append isSign isDigits ends.endsDigits

theorem fraction_append {taken : Text} (isDigits : IsDigits digits)
    (isExponent : IsExponent taken) (ends : EndsNumber rest) :
    fraction (digits ++ (taken ++ rest)) = .ok rest := by
  have dropped := dropWhile_append_of_stops isDigits.each (isExponent.endsDigits ends)
  obtain ⟨c, more, rfl, digit⟩ := isDigits.exists_cons
  have starts : (c :: more ++ (taken ++ rest)).head?.any Char.isDigit = true := digit
  rw [fraction, if_pos starts, dropped, afterDigits_append isExponent ends]

/-- What may stand behind the integer part of a number is passed over with it. -/
theorem afterInteger_append {fraction taken : Text} (isFraction : IsFraction fraction)
    (isExponent : IsExponent taken) (ends : EndsNumber rest) :
    EndsDigits (fraction ++ (taken ++ rest)) ∧
      (match fraction ++ (taken ++ rest) with
        | '.' :: rest => Skip.fraction rest
        | rest => afterDigits rest) = .ok rest := by
  cases isFraction with
  | some isDigits => exact ⟨by rintro c ⟨⟩; decide, fraction_append isDigits isExponent ends⟩
  | none =>
      refine ⟨isExponent.endsDigits ends, ?_⟩
      rw [List.nil_append]
      split
      · next more point =>
        -- Neither an exponent starts with a point nor what ends a number.
        cases isExponent with
        | none =>
            rw [List.nil_append] at point
            exact absurd rfl (ends '.' (point ▸ rfl)).2.1
        | some isLetter isSign isDigits =>
            obtain ⟨rfl, -⟩ := List.cons.inj point
            exact absurd isLetter (by decide)
      · exact afterDigits_append isExponent ends

/-- A number is passed over from behind its sign on. -/
theorem number_append (isUnsigned : IsUnsigned text) (ends : EndsNumber rest) :
    number (text ++ rest) = .ok rest := by
  obtain ⟨isInteger, isFraction, isExponent⟩ := isUnsigned
  obtain ⟨endsDigits, passed⟩ := afterInteger_append isFraction isExponent ends
  rw [List.append_assoc, List.append_assoc]
  cases isInteger with
  | zero =>
      rw [List.singleton_append, number, endsDigits.any_head?]
      exact passed
  | @digits first more notZero isDigits =>
      have dropped := dropWhile_append_of_stops isDigits.each endsDigits
      have digit := isDigits.each first List.mem_cons_self
      rw [List.cons_append] at dropped ⊢
      simp only [number, digit, notZero, dropped, Bool.not_true, Bool.false_eq_true, if_false,
        decide_false, Bool.false_and]
      exact passed

/-! ## Values that hold no values -/

theorem start_number (isNumber : IsNumber text) (ends : EndsNumber rest) :
    start (text ++ rest) = .ok (.passed rest) := by
  cases isNumber with
  | negative isUnsigned =>
      rw [List.cons_append, start, skipSpace_cons (by decide)]
      simp only [number_append isUnsigned ends]
      rfl
  | positive isUnsigned =>
      have passed := number_append isUnsigned ends
      obtain ⟨c, more, rfl, digit⟩ := isUnsigned.exists_digit
      have shown : isSpace c = false := by simp [isSpace, ne_of_isDigit digit]
      rw [List.cons_append] at passed ⊢
      rw [start, skipSpace_cons shown]
      split
      case h_8 => contradiction
      case h_9 same =>
        obtain ⟨rfl, rfl⟩ := List.cons.inj same
        rw [if_pos digit, passed]
        rfl
      all_goals
        next same =>
          obtain ⟨rfl, -⟩ := List.cons.inj same
          exact absurd digit (by decide)

theorem start_string (isString : IsString text) (rest : Text) :
    start (text ++ rest) = .ok (.passed rest) := by
  obtain ⟨isBody⟩ := isString
  rw [List.cons_append, List.cons_append, List.append_assoc, List.singleton_append, start,
    skipSpace_cons (by decide)]
  simp only [stringFrom_append isBody]
  rfl

theorem start_literal {first : Char} {literal : Text}
    (reads : ∀ rest, start (first :: rest) = Start.passed <$> readLiteral literal rest)
    (rest : Text) : start (first :: literal ++ rest) = .ok (.passed rest) := by
  rw [List.cons_append, reads, readLiteral_append]
  rfl

theorem start_gap (isGap : IsGap gap) (text : Text) : start (gap ++ text) = start text := by
  rw [start, start, skipSpace_gap_append isGap]

/-! ## Values behind each other -/

/-- From behind a value on, or from behind an opening bracket on: brackets are closed with
so many steps, and so many values follow as long as a bracket is open. -/
def goOn (closings count : Nat) (isFirst : Bool) (brackets : List Bracket) (text : Text) :
    Except Failure Text := do
  let (brackets, rest) ← close closings isFirst brackets text
  if brackets.isEmpty then return rest
  else values count brackets rest

/-- From here on everything is passed over, and the text that is left is this one. More than
so many closing brackets, and so many values, are enough. -/
def GoesOn (enough : Nat) (isFirst : Bool) (brackets : List Bracket) (text left : Text) : Prop :=
  ∀ ⦃closings count : Nat⦄, enough < closings → enough ≤ count →
    goOn closings count isFirst brackets text = .ok left

/-- Where nothing is open, nothing follows. -/
theorem goesOn_nil (text : Text) : GoesOn 0 false [] text text := by
  intro closings count enough _
  obtain ⟨closings, rfl⟩ := Nat.exists_eq_succ_of_ne_zero (Nat.ne_zero_of_lt enough)
  rfl

theorem values_of_passed {brackets : List Bracket} {count : Nat}
    (passed : start text = .ok (.passed rest)) :
    values (count + 1) brackets text = goOn (count + 1) count false brackets rest := by
  rw [values, passed]
  rfl

theorem values_of_opened {bracket : Bracket} {brackets : List Bracket} {count : Nat}
    (opened : start text = .ok (.opened bracket rest)) :
    values (count + 1) brackets text =
      goOn (count + 1) count true (bracket :: brackets) rest := by
  rw [values, opened]
  rfl

/-- The text is passed over, whatever brackets are open. -/
def Passes (text : Text) : Prop :=
  ∀ ⦃gap rest left : Text⦄ ⦃brackets : List Bracket⦄ ⦃enough count : Nat⦄, IsGap gap →
    EndsNumber rest → GoesOn enough false brackets rest left → enough + text.length ≤ count →
      values count brackets (gap ++ (text ++ rest)) = .ok left

/-- A value that holds no values is passed over at once. -/
theorem passes_of_start (isJson : IsJson text)
    (passed : ∀ rest, EndsNumber rest → start (text ++ rest) = .ok (.passed rest)) :
    Passes text := by
  intro gap rest left brackets enough count isGap ends goesOn within
  have notEmpty := isJson.startsPart.length_pos
  obtain ⟨count, rfl⟩ := Nat.exists_eq_succ_of_ne_zero (by omega : count ≠ 0)
  rw [values_of_passed ((start_gap isGap _).trans (passed rest ends))]
  exact goesOn (by omega) (by omega)

/-- An element of an array, or a member of an object: a value that is passed over stands
behind its name, if it has one. -/
structure Holds (bracket : Bracket) (item : Text) : Prop where
  startsPart : StartsPart item
  behindName : ∀ ⦃gap : Text⦄, IsGap gap → ∀ rest, ∃ gapAfter value, IsGap gapAfter ∧
    value.length ≤ item.length ∧ Passes value ∧
      nameWithin bracket (gap ++ (item ++ rest)) = .ok (gapAfter ++ (value ++ rest))

/-- The bracket that closes. -/
def Bracket.closing : Bracket → Char
  | .list => ']'
  | .object => '\x7d'

theorem close_closing (isGap : IsGap gap) (bracket : Bracket) (brackets : List Bracket)
    (isFirst : Bool) (closings : Nat) :
    close (closings + 1) isFirst (bracket :: brackets) (gap ++ bracket.closing :: rest) =
      close closings false brackets rest := by
  have shown : isSpace bracket.closing = false := by cases bracket <;> decide
  conv => lhs; unfold close
  rw [skipSpace_gap_append isGap, skipSpace_cons shown]
  cases bracket <;> rfl

/-- In front of the first element the brackets stay as they are. -/
theorem close_first (isGap : IsGap gap) (starts : StartsPart text) (bracket : Bracket)
    (brackets : List Bracket) (closings : Nat) :
    close (closings + 1) true (bracket :: brackets) (gap ++ (text ++ rest)) =
      (do return (bracket :: brackets, ← nameWithin bracket (text ++ rest))) := by
  have opens := skipSpace_gap_append_part isGap starts rest
  obtain ⟨c, more, rfl, -, -, notList, notObject⟩ := starts
  rw [List.cons_append] at opens ⊢
  unfold close
  rw [opens]
  cases bracket <;> simp [notList, notObject]

/-- In front of any other element they stay, and its comma is taken. -/
theorem close_next (isGap : IsGap gap) (bracket : Bracket) (brackets : List Bracket)
    (closings : Nat) :
    close (closings + 1) false (bracket :: brackets) (gap ++ ',' :: rest) =
      (do return (bracket :: brackets, ← nameWithin bracket rest)) := by
  unfold close
  rw [skipSpace_gap_append isGap, skipSpace_cons (by decide)]
  cases bracket <;> rfl

theorem goOn_of_close {closings count : Nat} {isFirst : Bool} {brackets : List Bracket}
    {bracket : Bracket} {named : Text}
    (closed : close closings isFirst (bracket :: brackets) text =
      (do return (bracket :: brackets, ← nameWithin bracket rest)))
    (passed : nameWithin bracket rest = .ok named) :
    goOn closings count isFirst (bracket :: brackets) text =
      values count (bracket :: brackets) named := by
  rw [goOn, closed, passed]
  rfl

/-- Between its brackets an array or object is passed over. -/
theorem goesOn_of_listing {bracket : Bracket} {brackets : List Bracket} {isFirst : Bool}
    {items : List Text} {left : Text} {enough : Nat} (listing : Listing isFirst items body)
    (each : ∀ item ∈ items, Holds bracket item) (goesOn : GoesOn enough false brackets rest left) :
    GoesOn (enough + body.length + 1) isFirst (bracket :: brackets)
      (body ++ bracket.closing :: rest) left := by
  have ends : EndsNumber (bracket.closing :: rest) :=
    endsNumber_cons (by cases bracket <;> decide) rest
  -- Behind each element the remaining ones go on, which is the hypothesis for the next comma.
  induction listing with
  | done isGap =>
      intro closings count moreClosings moreValues
      obtain ⟨closings, rfl⟩ := Nat.exists_eq_succ_of_ne_zero (Nat.ne_zero_of_lt moreClosings)
      rw [goOn, close_closing isGap]
      exact goesOn (by omega) (by omega)
  | first isGap others ih =>
      obtain ⟨⟨starts, behindName⟩, each⟩ := List.forall_mem_cons.mp each
      intro closings count moreClosings moreValues
      obtain ⟨closings, rfl⟩ := Nat.exists_eq_succ_of_ne_zero (Nat.ne_zero_of_lt moreClosings)
      simp only [List.length_append] at moreValues
      simp only [List.append_assoc]
      obtain ⟨gapAfter, value, isGapAfter, short, passes, named⟩ := behindName isGap_nil _
      rw [goOn_of_close (close_first isGap starts ..) named]
      exact passes isGapAfter (others.endsNumber ends) (ih each) (by omega)
  | next isGapBefore isGapAfter others ih =>
      obtain ⟨⟨starts, behindName⟩, each⟩ := List.forall_mem_cons.mp each
      intro closings count moreClosings moreValues
      obtain ⟨closings, rfl⟩ := Nat.exists_eq_succ_of_ne_zero (Nat.ne_zero_of_lt moreClosings)
      simp only [List.length_append, List.length_cons] at moreValues
      simp only [List.append_assoc, List.cons_append]
      obtain ⟨gapAfter, value, isGapAfter, short, passes, named⟩ := behindName isGapAfter _
      rw [goOn_of_close (close_next isGapBefore ..) named]
      exact passes isGapAfter (others.endsNumber ends) (ih each) (by omega)

theorem passes_of_listing (bracket : Bracket) {opening : Char} {items : List Text}
    (opened : ∀ rest, start (opening :: rest) = .ok (.opened bracket rest))
    (listing : Listing true items body) (each : ∀ item ∈ items, Holds bracket item) :
    Passes (opening :: body ++ [bracket.closing]) := by
  intro gap rest left brackets enough count isGap ends goesOn within
  simp only [List.length_append, List.length_cons, List.length_nil] at within
  obtain ⟨count, rfl⟩ := Nat.exists_eq_succ_of_ne_zero (by omega : count ≠ 0)
  rw [List.append_assoc, List.cons_append, List.singleton_append,
    values_of_opened ((start_gap isGap _).trans (opened _))]
  exact goesOn_of_listing listing each goesOn (by omega) (by omega)

theorem holds_list (isJson : IsJson text) (passes : Passes text) : Holds .list text where
  startsPart := isJson.startsPart
  behindName := fun gap isGap _ => ⟨gap, text, isGap, Nat.le_refl _, passes, rfl⟩

theorem holds_object {member : MemberText} (named : member.IsNamed)
    (passes : Passes member.value) : Holds .object member.spelling := by
  obtain ⟨name, before, after, value⟩ := member
  obtain ⟨isString, isGapBefore, isGapAfter⟩ := named
  dsimp only at isString
  obtain ⟨isBody⟩ := isString
  constructor
  · exact ⟨'"', _, rfl, by decide⟩
  · intro gap isGap rest
    refine ⟨after, value, isGapAfter, ?_, passes, ?_⟩
    · simp only [MemberText.spelling, List.length_append, List.length_cons]
      omega
    · simp only [MemberText.spelling, List.append_assoc, List.cons_append, List.nil_append]
      rw [nameWithin, name, skipSpace_gap_append isGap, skipSpace_cons (by decide)]
      simp only [stringFrom_append isBody, bind, Except.bind, readColon_gap_append isGapBefore]

/-- Every value is passed over, whatever stands behind it and whatever is open. -/
theorem passes_of_isJson (isJson : IsJson text) : Passes text := by
  induction isJson with
  | null => exact passes_of_start .null fun rest _ => start_literal (fun _ => rfl) rest
  | boolTrue => exact passes_of_start .boolTrue fun rest _ => start_literal (fun _ => rfl) rest
  | boolFalse => exact passes_of_start .boolFalse fun rest _ => start_literal (fun _ => rfl) rest
  | number isNumber => exact passes_of_start (.number isNumber) fun rest => start_number isNumber
  | string isString =>
      exact passes_of_start (.string isString) fun rest _ => start_string isString rest
  | array each listing ih =>
      exact passes_of_listing .list (fun _ => rfl) listing
        fun item member => holds_list (each item member) (ih item member)
  | object named each listing ih =>
      refine passes_of_listing .object (fun _ => rfl) listing ?_
      intro item among
      obtain ⟨member, present, rfl⟩ := List.mem_map.mp among
      exact holds_object (named member present) (ih member present)

end Skip

/-- Every JSON text is passed over where it stands in front. -/
theorem IsJson.isSkipped (isJson : IsJson text) : IsSkipped text := by
  intro gap rest limits isGap ends within
  exact Skip.passes_of_isJson isJson isGap ends (Skip.goesOn_nil rest) (by omega)

end Json

end SourceLines
