/-
# JSON texts by their form

What a JSON text looks like is said here without saying what it means: numbers may be of
any size and have fractions and exponents, escapes by code need not be paired, and
nesting has no limit. Every spelling of a value has this form.

In a JSON text brackets match. Outside of strings they are counted, one level up for
every opening bracket and one level down for every closing one; a value leaves the level
as it was and never goes below it. Until the last bracket of an array or object the
level stays above that of its start, so no such text has a proper prefix that is a JSON
text as well.
-/

import SourceLines.Proofs.JsonReading

namespace SourceLines

namespace Json

variable {text front rest body more gap digits : Text} {c : Char}

/-! ## Strings and numbers -/

/-- What stands between the quotes of a string: characters, and escapes by a letter or by
a code. -/
inductive IsStringBody : Text → Prop
  | nil : IsStringBody []
  | plain {c : Char} {more : Text} (notQuote : c ≠ '"') (notBackslash : c ≠ '\\')
      (notControl : ¬ c < ' ') (tail : IsStringBody more) : IsStringBody (c :: more)
  | letter {letter meant : Char} {more : Text} (short : shortEscape? letter = some meant)
      (tail : IsStringBody more) : IsStringBody ('\\' :: letter :: more)
  | code {number : Nat} {digits more : Text} (code : SpellsCode number digits)
      (tail : IsStringBody more) : IsStringBody ('\\' :: 'u' :: digits ++ more)

/-- A string in its quotes. -/
inductive IsString : Text → Prop
  | quoted {body : Text} (isBody : IsStringBody body) : IsString ('"' :: body ++ ['"'])

/-- Decimal digits, one at least. -/
structure IsDigits (text : Text) : Prop where
  notEmpty : text ≠ []
  each : ∀ c ∈ text, c.isDigit = true

/-- Decimal digits without needless zeros in front. -/
inductive IsInteger : Text → Prop
  | zero : IsInteger ['0']
  | digits {first : Char} {more : Text} (notZero : first ≠ '0')
      (isDigits : IsDigits (first :: more)) : IsInteger (first :: more)

/-- Nothing, or a point and digits. -/
inductive IsFraction : Text → Prop
  | none : IsFraction []
  | some {digits : Text} (isDigits : IsDigits digits) : IsFraction ('.' :: digits)

/-- Nothing, or a letter and digits that may have a sign. -/
inductive IsExponent : Text → Prop
  | none : IsExponent []
  | some {letter : Char} {sign digits : Text} (isLetter : letter = 'e' ∨ letter = 'E')
      (isSign : sign = [] ∨ sign = ['+'] ∨ sign = ['-']) (isDigits : IsDigits digits) :
      IsExponent (letter :: sign ++ digits)

/-- A number without its sign. -/
inductive IsUnsigned : Text → Prop
  | parts {integer fraction exponent : Text} (isInteger : IsInteger integer)
      (isFraction : IsFraction fraction) (isExponent : IsExponent exponent) :
      IsUnsigned (integer ++ fraction ++ exponent)

/-- A number. -/
inductive IsNumber : Text → Prop
  | positive {text : Text} (isUnsigned : IsUnsigned text) : IsNumber text
  | negative {text : Text} (isUnsigned : IsUnsigned text) : IsNumber ('-' :: text)

/-! ## Values -/

/-- A member of an object: its name in quotes, white space around the colon, and its
value. -/
structure MemberText where
  name : Text
  before : Text
  after : Text
  value : Text

/-- The whole text of a member. -/
def MemberText.spelling (member : MemberText) : Text :=
  member.name ++ member.before ++ ':' :: member.after ++ member.value

/-- The member has the form of one, up to its value. -/
structure MemberText.IsNamed (member : MemberText) : Prop where
  isString : IsString member.name
  isGapBefore : IsGap member.before
  isGapAfter : IsGap member.after

/-- A value by its form, without white space around it. -/
inductive IsJson : Text → Prop
  | null : IsJson "null".toList
  | boolTrue : IsJson "true".toList
  | boolFalse : IsJson "false".toList
  | number {text : Text} (isNumber : IsNumber text) : IsJson text
  | string {text : Text} (isString : IsString text) : IsJson text
  | array {items : List Text} {body : Text} (each : ∀ item ∈ items, IsJson item)
      (listing : Listing true items body) : IsJson ('[' :: body ++ [']'])
  | object {members : List MemberText} {body : Text} (named : ∀ member ∈ members, member.IsNamed)
      (each : ∀ member ∈ members, IsJson member.value)
      (listing : Listing true (members.map MemberText.spelling) body) :
      IsJson ('\x7b' :: body ++ ['\x7d'])

/-- The value is an array or an object. -/
def IsBracketed (text : Text) : Prop :=
  text.head? = some '[' ∨ text.head? = some '\x7b'

/-- A whole text: a value with white space around it. -/
inductive IsDocument : Text → Prop
  | value {before text after : Text} (isGapBefore : IsGap before) (isJson : IsJson text)
      (isGapAfter : IsGap after) : IsDocument (before ++ (text ++ after))

/-! ## How values start -/

theorem isBracketed_cons_iff : IsBracketed (c :: more) ↔ c = '[' ∨ c = '\x7b' := by
  simp [IsBracketed]

theorem IsUnsigned.exists_digit (isUnsigned : IsUnsigned text) :
    ∃ c more, text = c :: more ∧ c.isDigit = true := by
  obtain ⟨isInteger, isFraction, isExponent⟩ := isUnsigned
  cases isInteger with
  | zero => exact ⟨'0', _, rfl, rfl⟩
  | digits notZero isDigits => exact ⟨_, _, rfl, isDigits.each _ List.mem_cons_self⟩

/-- A value starts with a character of its kind. -/
theorem IsJson.exists_start (isJson : IsJson text) :
    ∃ c more, text = c :: more ∧
      (c.isDigit = true ∨ c ∈ ['n', 't', 'f', '-', '"'] ∨ IsBracketed text) := by
  cases isJson with
  | null => exact ⟨'n', _, rfl, by simp⟩
  | boolTrue => exact ⟨'t', _, rfl, by simp⟩
  | boolFalse => exact ⟨'f', _, rfl, by simp⟩
  | number isNumber =>
      cases isNumber with
      | positive isUnsigned =>
          obtain ⟨c, more, rfl, isDigit⟩ := isUnsigned.exists_digit
          exact ⟨c, more, rfl, .inl isDigit⟩
      | negative isUnsigned => exact ⟨'-', _, rfl, by simp⟩
  | string isString =>
      obtain ⟨isBody⟩ := isString
      exact ⟨'"', _, rfl, by simp⟩
  | array each listing => exact ⟨'[', _, rfl, .inr (.inr (.inl rfl))⟩
  | object named each listing => exact ⟨'\x7b', _, rfl, .inr (.inr (.inr rfl))⟩

theorem IsJson.startsPart (isJson : IsJson text) : StartsPart text := by
  obtain ⟨c, more, rfl, digit | known | bracketed⟩ := isJson.exists_start
  · have shown : isSpace c = false := by simp [isSpace, ne_of_isDigit digit]
    exact ⟨c, more, rfl, shown, ne_of_isDigit digit rfl, ne_of_isDigit digit rfl,
      ne_of_isDigit digit rfl⟩
  · refine ⟨c, more, rfl, ?_⟩
    simp only [List.mem_cons, List.not_mem_nil, or_false] at known
    rcases known with rfl | rfl | rfl | rfl | rfl <;> decide
  · refine ⟨c, more, rfl, ?_⟩
    rcases isBracketed_cons_iff.mp bracketed with rfl | rfl <;> decide

/-- No JSON text starts with a byte order mark. -/
theorem IsDocument.head?_ne (isDocument : IsDocument text) : text.head? ≠ some '\uFEFF' := by
  obtain ⟨isGapBefore, isJson, -⟩ := isDocument
  rename_i before text after
  cases before with
  | cons space before =>
      rintro ⟨⟩
      exact absurd (isGapBefore _ List.mem_cons_self) (by decide)
  | nil =>
      obtain ⟨c, more, rfl, start⟩ := isJson.exists_start
      rintro ⟨⟩
      rcases start with digit | known | bracketed
      · exact absurd digit (by decide)
      · exact absurd known (by decide)
      · exact absurd (isBracketed_cons_iff.mp bracketed) (by decide)

/-! ## Spelled values -/

theorem SpellsChars.isStringBody (spells : SpellsChars text body) : IsStringBody body := by
  induction spells with
  | nil => exact .nil
  | cons head tail ih =>
      cases head with
      | plain notQuote notBackslash notControl => exact .plain notQuote notBackslash notControl ih
      | letter short => exact .letter short ih
      | code code notLow notHigh => exact .code code ih
      | pair codeFirst codeSecond isHigh isLow =>
          rw [List.append_assoc]
          exact .code codeFirst (.code codeSecond ih)

theorem SpellsString.isString {string : String} (spells : SpellsString string text) :
    IsString text := by
  obtain ⟨chars⟩ := spells
  exact .quoted chars.isStringBody

theorem isUnsigned_toDigits (number : Nat) : IsUnsigned (Nat.toDigits 10 number) := by
  have isInteger : IsInteger (Nat.toDigits 10 number) := by
    have each : ∀ c ∈ Nat.toDigits 10 number, c.isDigit = true := fun c member =>
      Nat.isDigit_of_mem_toDigits (by decide) (by decide) member
    obtain ⟨first, others, digits, -⟩ := exists_toDigits_cons number
    rw [digits] at each ⊢
    by_cases zero : first = '0'
    · obtain rfl := zero
      rw [toDigits_of_head_zero digits]
      exact .zero
    · exact .digits zero ⟨List.cons_ne_nil _ _, each⟩
  have parts := IsUnsigned.parts isInteger .none .none
  rwa [List.append_nil, List.append_nil] at parts

/-- Members by name have the form of members. -/
theorem SpellsNamed.exists_memberText {members : List (String × Text)} {texts : List Text}
    (named : SpellsNamed members texts) :
    ∃ parts : List MemberText, (∀ part ∈ parts, part.IsNamed) ∧
      parts.map MemberText.value = members.map Prod.snd ∧
      texts = parts.map MemberText.spelling := by
  induction named with
  | nil => exact ⟨[], by simp, rfl, rfl⟩
  | @cons _ value _ name before after _ spellsName isGapBefore isGapAfter tail ih =>
      obtain ⟨parts, named, values, rfl⟩ := ih
      refine ⟨⟨name, before, after, value⟩ :: parts, ?_, by simp [values], rfl⟩
      exact List.forall_mem_cons.mpr ⟨⟨spellsName.isString, isGapBefore, isGapAfter⟩, named⟩

/-- An object is a JSON text if the values of its members are. -/
theorem SpellsObject.isJson {members : List (String × Text)} (object : SpellsObject members text)
    (each : ∀ member ∈ members, IsJson member.2) : IsJson text := by
  obtain ⟨named, listing⟩ := object
  obtain ⟨parts, areNamed, values, rfl⟩ := named.exists_memberText
  refine .object areNamed (fun part present => ?_) listing
  have among : part.value ∈ members.map Prod.snd := values ▸ List.mem_map_of_mem present
  obtain ⟨member, isMember, same⟩ := List.mem_map.mp among
  exact same ▸ each member isMember

mutual

/-- A spelling of a value has the form of one. -/
theorem Spells.isJson {value : Value} {text : Text} (spells : Spells value text) :
    IsJson text := by
  cases spells with
  | null => exact .null
  | boolTrue => exact .boolTrue
  | boolFalse => exact .boolFalse
  | number spells =>
      cases spells with
      | natural fits => exact .number (.positive (isUnsigned_toDigits _))
      | negative positive fits => exact .number (.negative (isUnsigned_toDigits _))
  | string spells => exact .string spells.isString
  | array spells listing => exact .array spells.isJson listing
  | object spells listing =>
      obtain ⟨named, texts, each⟩ := spells.exists_isJson
      exact (SpellsObject.braces texts listing).isJson each

theorem SpellsItems.isJson {values : List Value} {texts : List Text}
    (spells : SpellsItems values texts) : ∀ text ∈ texts, IsJson text := by
  cases spells with
  | nil => simp
  | cons head tail => exact List.forall_mem_cons.mpr ⟨head.isJson, tail.isJson⟩

theorem SpellsMembers.exists_isJson {members : List (String × Value)} {texts : List Text}
    (spells : SpellsMembers members texts) :
    ∃ named, SpellsNamed named texts ∧ ∀ member ∈ named, IsJson member.2 := by
  cases spells with
  | nil => exact ⟨[], .nil, by simp⟩
  | cons spellsName isGapBefore isGapAfter head tail =>
      obtain ⟨named, others, each⟩ := tail.exists_isJson
      exact ⟨_, .cons spellsName isGapBefore isGapAfter others,
        List.forall_mem_cons.mpr ⟨head.isJson, each⟩⟩

end

/-! ## Brackets -/

/-- Where a place in a text is with regard to strings. -/
inductive Mode
  | plain
  | string
  /-- Behind a backslash in a string. -/
  | escape
  deriving DecidableEq

/-- A place in a text: its mode, and how many brackets are open there. -/
structure Place where
  mode : Mode
  level : Int

namespace Place

/-- Where one goes from a place over a character. -/
def step (place : Place) (c : Char) : Place :=
  match place.mode with
  | .escape => { place with mode := .string }
  | .string =>
      if c = '"' then { place with mode := .plain }
      else if c = '\\' then { place with mode := .escape }
      else place
  | .plain =>
      if c = '"' then { place with mode := .string }
      else if c = '[' ∨ c = '\x7b' then { place with level := place.level + 1 }
      else if c = ']' ∨ c = '\x7d' then { place with level := place.level - 1 }
      else place

/-- Where one goes from a place over a text. -/
def after (place : Place) (text : Text) : Place :=
  text.foldl step place

variable {place : Place} {level : Int} {text front rest : Text} {c : Char}

@[simp]
theorem after_nil (place : Place) : place.after [] = place := rfl

@[simp]
theorem after_cons (place : Place) (c : Char) (text : Text) :
    place.after (c :: text) = (place.step c).after text := rfl

@[simp]
theorem after_append (place : Place) (front rest : Text) :
    place.after (front ++ rest) = (place.after front).after rest :=
  List.foldl_append

/-- On the way over the text one never gets below the level. -/
def StaysAbove (level : Int) (place : Place) (text : Text) : Prop :=
  ∀ front, front <+: text → level ≤ (place.after front).level

theorem StaysAbove.nil (above : level ≤ place.level) : place.StaysAbove level [] := by
  intro front isPrefix
  rw [List.prefix_nil.mp isPrefix]
  exact above

theorem StaysAbove.cons (above : level ≤ place.level)
    (behind : (place.step c).StaysAbove level text) : place.StaysAbove level (c :: text) := by
  intro front isPrefix
  rcases List.prefix_cons_iff.mp isPrefix with rfl | ⟨front, rfl, within⟩
  · exact above
  · exact behind front within

theorem StaysAbove.append (ahead : place.StaysAbove level front)
    (behind : (place.after front).StaysAbove level rest) :
    place.StaysAbove level (front ++ rest) := by
  intro part isPrefix
  rcases List.prefix_or_prefix_of_prefix isPrefix (List.prefix_append front rest) with
    within | ⟨more, rfl⟩
  · exact ahead part within
  · rw [after_append]
    exact behind more ((List.prefix_append_right_inj front).mp isPrefix)

end Place

/-- The text leaves the level outside of strings as it was, and never goes below it. -/
structure IsBalanced (text : Text) : Prop where
  returns : ∀ level, (Place.mk .plain level).after text = ⟨.plain, level⟩
  stays : ∀ level, (Place.mk .plain level).StaysAbove level text

theorem IsBalanced.nil : IsBalanced [] :=
  ⟨fun _ => rfl, fun level => .nil (Int.le_refl level)⟩

theorem IsBalanced.append (first : IsBalanced text) (second : IsBalanced more) :
    IsBalanced (text ++ more) := by
  constructor
  · intro level
    rw [Place.after_append, first.returns, second.returns]
  · intro level
    apply (first.stays level).append
    rw [first.returns]
    exact second.stays level

/-- A character that says nothing about strings or brackets outside of strings. -/
def IsInert (c : Char) : Prop :=
  c ≠ '"' ∧ c ≠ '[' ∧ c ≠ '\x7b' ∧ c ≠ ']' ∧ c ≠ '\x7d'

theorem IsInert.step {level : Int} (isInert : IsInert c) :
    (Place.mk .plain level).step c = ⟨.plain, level⟩ := by
  obtain ⟨notQuote, notList, notObject, notListEnd, notObjectEnd⟩ := isInert
  simp [Place.step, notQuote, notList, notObject, notListEnd, notObjectEnd]

theorem IsBalanced.cons (isInert : IsInert c) (balanced : IsBalanced text) :
    IsBalanced (c :: text) := by
  constructor
  · intro level
    rw [Place.after_cons, isInert.step, balanced.returns]
  · intro level
    apply Place.StaysAbove.cons (Int.le_refl level)
    rw [isInert.step]
    exact balanced.stays level

theorem IsBalanced.of_isInert (each : ∀ c ∈ text, IsInert c) : IsBalanced text := by
  induction text with
  | nil => exact .nil
  | cons c text ih =>
      obtain ⟨first, others⟩ := List.forall_mem_cons.mp each
      exact .cons first (ih others)

theorem isInert_of_isSpace (space : isSpace c = true) : IsInert c := by
  simp only [isSpace, Bool.or_eq_true, beq_iff_eq] at space
  rcases space with ((rfl | rfl) | rfl) | rfl <;> simp [IsInert]

theorem isInert_of_isDigit (digit : c.isDigit = true) : IsInert c :=
  ⟨ne_of_isDigit digit rfl, ne_of_isDigit digit rfl, ne_of_isDigit digit rfl,
    ne_of_isDigit digit rfl, ne_of_isDigit digit rfl⟩

theorem IsGap.isBalanced (isGap : IsGap gap) : IsBalanced gap :=
  .of_isInert fun c member => isInert_of_isSpace (isGap c member)

theorem IsDigits.isBalanced (isDigits : IsDigits digits) : IsBalanced digits :=
  .of_isInert fun c member => isInert_of_isDigit (isDigits.each c member)

theorem IsUnsigned.isBalanced (isUnsigned : IsUnsigned text) : IsBalanced text := by
  obtain ⟨isInteger, isFraction, isExponent⟩ := isUnsigned
  refine .append (.append ?_ ?_) ?_
  · cases isInteger with
    | zero => exact .cons (by simp [IsInert]) .nil
    | digits notZero isDigits => exact isDigits.isBalanced
  · cases isFraction with
    | none => exact .nil
    | some isDigits => exact .cons (by simp [IsInert]) isDigits.isBalanced
  · cases isExponent with
    | none => exact .nil
    | some isLetter isSign isDigits =>
        refine .cons (by rcases isLetter with rfl | rfl <;> simp [IsInert]) ?_
        refine .append ?_ isDigits.isBalanced
        rcases isSign with rfl | rfl | rfl
        · exact .nil
        · exact .cons (by simp [IsInert]) .nil
        · exact .cons (by simp [IsInert]) .nil

theorem IsNumber.isBalanced (isNumber : IsNumber text) : IsBalanced text := by
  cases isNumber with
  | positive isUnsigned => exact isUnsigned.isBalanced
  | negative isUnsigned => exact .cons (by simp [IsInert]) isUnsigned.isBalanced

/-! ### Brackets in strings -/

/-- In a string one stays at the level, and in the string. -/
structure StaysInString (text : Text) : Prop where
  returns : ∀ level, (Place.mk .string level).after text = ⟨.string, level⟩
  stays : ∀ level, (Place.mk .string level).StaysAbove level text

theorem StaysInString.cons (notQuote : c ≠ '"') (notBackslash : c ≠ '\\')
    (tail : StaysInString text) : StaysInString (c :: text) := by
  have step (level : Int) : (Place.mk .string level).step c = ⟨.string, level⟩ := by
    simp [Place.step, notQuote, notBackslash]
  constructor
  · intro level
    rw [Place.after_cons, step, tail.returns]
  · intro level
    apply Place.StaysAbove.cons (Int.le_refl level)
    rw [step]
    exact tail.stays level

/-- Whatever stands behind a backslash belongs to the string. -/
theorem StaysInString.escape (letter : Char) (tail : StaysInString text) :
    StaysInString ('\\' :: letter :: text) :=
  ⟨fun level => tail.returns level,
    fun level => .cons (Int.le_refl level) (.cons (Int.le_refl level) (tail.stays level))⟩

theorem ne_of_hexDigit? {d : Char} {digit : Nat} (found : hexDigit? c = some digit)
    (other : hexDigit? d = none) : c ≠ d := by
  rintro rfl
  rw [found] at other
  exact absurd other (by simp)

theorem IsStringBody.staysInString (isBody : IsStringBody body) : StaysInString body := by
  induction isBody with
  | nil => exact ⟨fun _ => rfl, fun level => .nil (Int.le_refl level)⟩
  | plain notQuote notBackslash notControl tail ih => exact ih.cons notQuote notBackslash
  | @letter letter _ _ short tail ih => exact ih.escape letter
  | @code number digits more code tail ih =>
      obtain @⟨a, b, c, d, _, value⟩ := code
      simp only [hexQuad?, bind, Option.bind_eq_some_iff] at value
      obtain ⟨_, first, _, second, _, third, _, fourth, -⟩ := value
      have cons {c : Char} {digit : Nat} {text : Text} (found : hexDigit? c = some digit)
          (tail : StaysInString text) : StaysInString (c :: text) :=
        tail.cons (ne_of_hexDigit? found rfl) (ne_of_hexDigit? found rfl)
      exact (cons first (cons second (cons third (cons fourth ih)))).escape 'u'

theorem IsString.isBalanced (isString : IsString text) : IsBalanced text := by
  obtain ⟨isBody⟩ := isString
  have stays := isBody.staysInString
  constructor
  · intro level
    show ((Place.mk .string level).after (_ ++ ['"'])) = _
    rw [Place.after_append, stays.returns]
    rfl
  · intro level
    refine .cons (Int.le_refl level) ((stays.stays level).append ?_)
    show ((Place.mk .string level).after _).StaysAbove _ _
    rw [stays.returns]
    exact .cons (Int.le_refl level) (.nil (Int.le_refl level))

/-! ### Brackets of arrays and objects -/

theorem Listing.isBalanced {isFirst : Bool} {items : List Text}
    (listing : Listing isFirst items body) (each : ∀ item ∈ items, IsBalanced item) :
    IsBalanced body := by
  induction listing with
  | done isGap => exact isGap.isBalanced
  | first isGap others ih =>
      obtain ⟨first, each⟩ := List.forall_mem_cons.mp each
      exact (isGap.isBalanced.append first).append (ih each)
  | next isGapBefore isGapAfter others ih =>
      obtain ⟨first, each⟩ := List.forall_mem_cons.mp each
      have comma := IsBalanced.cons (by simp [IsInert] : IsInert ',') isGapAfter.isBalanced
      exact ((isGapBefore.isBalanced.append comma).append first).append (ih each)

/-- An opening bracket and a closing one. -/
def AreBrackets (opening closing : Char) : Prop :=
  (opening = '[' ∧ closing = ']') ∨ (opening = '\x7b' ∧ closing = '\x7d')

theorem step_opening {opening closing : Char} (brackets : AreBrackets opening closing)
    (level : Int) : (Place.mk .plain level).step opening = ⟨.plain, level + 1⟩ := by
  rcases brackets with ⟨rfl, -⟩ | ⟨rfl, -⟩ <;> rfl

theorem step_closing {opening closing : Char} (brackets : AreBrackets opening closing)
    (level : Int) : (Place.mk .plain (level + 1)).step closing = ⟨.plain, level⟩ := by
  rcases brackets with ⟨-, rfl⟩ | ⟨-, rfl⟩ <;> simp [Place.step]

theorem IsBalanced.bracketed {opening closing : Char} (brackets : AreBrackets opening closing)
    (balanced : IsBalanced body) : IsBalanced (opening :: body ++ [closing]) := by
  constructor
  · intro level
    rw [List.cons_append, Place.after_cons, step_opening brackets, Place.after_append,
      balanced.returns, Place.after_cons, step_closing brackets, Place.after_nil]
  · intro level
    refine .cons (Int.le_refl level) ?_
    rw [step_opening brackets]
    have above := balanced.stays (level + 1)
    refine Place.StaysAbove.append (fun front isPrefix => ?_) ?_
    · exact Int.le_trans (by omega) (above front isPrefix)
    · rw [balanced.returns]
      have closed := congrArg Place.level (step_closing brackets level)
      exact .cons (by simp only; omega) (.nil (Int.le_of_eq closed.symm))

/-- In front of its last bracket an array or object is above the level of its start. -/
theorem IsBalanced.level_pos {opening closing : Char} (brackets : AreBrackets opening closing)
    (balanced : IsBalanced body) (isPrefix : front <+: opening :: body ++ [closing])
    (notEmpty : front ≠ []) (notWhole : front ≠ opening :: body ++ [closing]) :
    0 < ((Place.mk .plain 0).after front).level := by
  rw [List.cons_append] at isPrefix notWhole
  rcases List.prefix_cons_iff.mp isPrefix with rfl | ⟨front, rfl, inner⟩
  · exact absurd rfl notEmpty
  rcases List.prefix_concat_iff.mp inner with rfl | within
  · exact absurd rfl notWhole
  · rw [Place.after_cons, step_opening brackets]
    exact Int.lt_of_lt_of_le (by omega) (balanced.stays _ front within)

theorem MemberText.IsNamed.isBalanced {member : MemberText} (named : member.IsNamed)
    (value : IsBalanced member.value) : IsBalanced member.spelling :=
  .append (.append (.append named.isString.isBalanced named.isGapBefore.isBalanced)
    (.cons (by simp [IsInert]) named.isGapAfter.isBalanced)) value

theorem IsJson.isBalanced (isJson : IsJson text) : IsBalanced text := by
  induction isJson with
  | null | boolTrue | boolFalse => exact .of_isInert (by simp [IsInert])
  | number isNumber => exact isNumber.isBalanced
  | string isString => exact isString.isBalanced
  | array each listing ih => exact (listing.isBalanced ih).bracketed (.inl ⟨rfl, rfl⟩)
  | object named each listing ih =>
      refine (listing.isBalanced ?_).bracketed (.inr ⟨rfl, rfl⟩)
      intro part among
      obtain ⟨member, present, rfl⟩ := List.mem_map.mp among
      exact (named member present).isBalanced (ih member present)

/-! ## Cut texts -/

theorem IsDocument.isBalanced (isDocument : IsDocument text) : IsBalanced text := by
  obtain ⟨isGapBefore, isJson, isGapAfter⟩ := isDocument
  exact isGapBefore.isBalanced.append (isJson.isBalanced.append isGapAfter.isBalanced)

/-- White space alone is no JSON text. -/
theorem IsDocument.not_isGap (isDocument : IsDocument text) : ¬ IsGap text := by
  obtain ⟨-, isJson, -⟩ := isDocument
  obtain ⟨c, more, rfl, shown, -⟩ := isJson.startsPart
  intro isGap
  have space := isGap c (by simp)
  rw [shown] at space
  exact absurd space (by decide)

/-- An array or object is something balanced between two brackets. -/
theorem IsJson.exists_body (isJson : IsJson text) (bracketed : IsBracketed text) :
    ∃ opening closing body, AreBrackets opening closing ∧ IsBalanced body ∧
      text = opening :: body ++ [closing] := by
  have notOther {c : Char} {more : Text} (other : c ≠ '[' ∧ c ≠ '\x7b') :
      ¬ IsBracketed (c :: more) := by
    rw [isBracketed_cons_iff, not_or]
    exact other
  cases isJson with
  | null | boolTrue | boolFalse => exact absurd bracketed (notOther (by decide))
  | number isNumber =>
      cases isNumber with
      | positive isUnsigned =>
          obtain ⟨c, more, rfl, digit⟩ := isUnsigned.exists_digit
          exact absurd bracketed (notOther ⟨ne_of_isDigit digit rfl, ne_of_isDigit digit rfl⟩)
      | negative isUnsigned => exact absurd bracketed (notOther (by decide))
  | string isString =>
      obtain ⟨isBody⟩ := isString
      exact absurd bracketed (notOther (by decide))
  | array each listing =>
      have balanced := listing.isBalanced fun item member => (each item member).isBalanced
      exact ⟨'[', ']', _, .inl ⟨rfl, rfl⟩, balanced, rfl⟩
  | object named each listing =>
      refine ⟨'\x7b', '\x7d', _, .inr ⟨rfl, rfl⟩, listing.isBalanced ?_, rfl⟩
      intro part among
      obtain ⟨member, present, rfl⟩ := List.mem_map.mp among
      exact (named member present).isBalanced (each member present).isBalanced

/-- What lacks the last bracket of an array or object is no JSON text. -/
theorem not_isDocument_of_cut {before root : Text} (isGapBefore : IsGap before)
    (isJson : IsJson root) (bracketed : IsBracketed root) (isPrefix : front <+: before ++ root)
    (notWhole : front ≠ before ++ root) : ¬ IsDocument front := by
  intro isDocument
  rcases List.prefix_or_prefix_of_prefix isPrefix (List.prefix_append before root) with
    within | ⟨part, rfl⟩
  · exact isDocument.not_isGap fun c member => isGapBefore c (within.subset member)
  rw [List.prefix_append_right_inj] at isPrefix
  have notEmpty : part ≠ [] := by
    rintro rfl
    rw [List.append_nil] at isDocument
    exact isDocument.not_isGap isGapBefore
  obtain ⟨opening, closing, body, brackets, balanced, rfl⟩ := isJson.exists_body bracketed
  have above := balanced.level_pos brackets isPrefix notEmpty fun whole => notWhole (by rw [whole])
  have returns := isDocument.isBalanced.returns 0
  rw [Place.after_append, isGapBefore.isBalanced.returns] at returns
  rw [returns] at above
  exact absurd above (by decide)

end Json

end SourceLines
