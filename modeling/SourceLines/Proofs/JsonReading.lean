/-
# Reading what is spelled: arrays, objects and whole texts

A reader reads a value as some result when it answers with that result whatever
spelling of the value stands in front, and leaves the text behind it. What is read
from an array or object follows from how its elements or members are read, one after
another. Texts within the limits are meant throughout: a reader may be given no
fewer steps than the spelling has characters, and enough levels for what is nested.

Objects are read by the texts of their members, so that a record can be read of which only
some members have a field and the others are passed over.
-/

import Mathlib.Data.List.Forall2
import SourceLines.Json.Record
import SourceLines.Proofs.JsonScalars

namespace SourceLines

namespace Json

variable {α σ ε : Type} {value : Value} {text body gap rest item : Text} {items : List Text}
  {isFirst : Bool}

/-! ## How spellings start and end -/

/-- The text starts like a value or a name, with nothing that stands between values. -/
def StartsPart (text : Text) : Prop :=
  ∃ c more, text = c :: more ∧ isSpace c = false ∧ c ≠ ',' ∧ c ≠ ']' ∧ c ≠ '\x7d'

theorem ne_of_isDigit {c d : Char} (digit : c.isDigit = true) (other : d.isDigit = false) :
    c ≠ d := by
  rintro rfl
  rw [digit] at other
  exact absurd other (by decide)

theorem startsPart_toDigits (number : Nat) : StartsPart (Nat.toDigits 10 number) := by
  obtain ⟨c, others, digits, isDigit⟩ := exists_toDigits_cons number
  have shown : isSpace c = false := by simp [isSpace, ne_of_isDigit isDigit]
  exact ⟨c, others, digits, shown, ne_of_isDigit isDigit rfl, ne_of_isDigit isDigit rfl,
    ne_of_isDigit isDigit rfl⟩

theorem Spells.startsPart (spells : Spells value text) : StartsPart text := by
  cases spells with
  | null => exact ⟨'n', _, rfl, by decide⟩
  | boolTrue => exact ⟨'t', _, rfl, by decide⟩
  | boolFalse => exact ⟨'f', _, rfl, by decide⟩
  | number spells =>
      cases spells with
      | natural fits => exact startsPart_toDigits _
      | negative positive fits => exact ⟨'-', _, rfl, by decide⟩
  | string spells =>
      cases spells
      exact ⟨'"', _, rfl, by decide⟩
  | array spells listing => exact ⟨'[', _, rfl, by decide⟩
  | object spells listing => exact ⟨'\x7b', _, rfl, by decide⟩

theorem StartsPart.length_pos (starts : StartsPart text) : 0 < text.length := by
  obtain ⟨c, more, rfl, -⟩ := starts
  exact Nat.succ_pos _

/-- White space in front of a part is skipped, and nothing of the part is. -/
theorem skipSpace_gap_append_part (isGap : IsGap gap) (starts : StartsPart text) (rest : Text) :
    skipSpace (gap ++ (text ++ rest)) = text ++ rest := by
  obtain ⟨c, more, rfl, shown, -⟩ := starts
  rw [skipSpace_gap_append isGap, List.cons_append, skipSpace_cons shown]

theorem endsNumber_gap_append (isGap : IsGap gap) (ends : EndsNumber rest) :
    EndsNumber (gap ++ rest) := by
  cases gap with
  | nil => exact ends
  | cons c gap =>
      have space := isGap c List.mem_cons_self
      simp only [isSpace, Bool.or_eq_true, beq_iff_eq] at space
      intro d first
      obtain rfl : c = d := by simpa using first
      rcases space with ((rfl | rfl) | rfl) | rfl <;> decide

theorem endsNumber_cons {c : Char} (ends : c.isDigit = false ∧ c ≠ '.' ∧ c ≠ 'e' ∧ c ≠ 'E')
    (rest : Text) : EndsNumber (c :: rest) := by
  rintro d ⟨⟩
  exact ends

/-- Nothing of a number goes on behind an element. -/
theorem Listing.endsNumber (listing : Listing false items body) (ends : EndsNumber rest) :
    EndsNumber (body ++ rest) := by
  cases listing with
  | done isGap => exact endsNumber_gap_append isGap ends
  | next isGapBefore isGapAfter others =>
      simp only [List.append_assoc]
      exact endsNumber_gap_append isGapBefore (endsNumber_cons (by decide) _)

/-! ## Values that hold no values -/

theorem readLiteral_append (literal rest : Text) :
    readLiteral literal (literal ++ rest) = .ok rest := by
  induction literal with
  | nil => rfl
  | cons c literal ih => rw [List.cons_append, readLiteral, if_pos rfl, ih]

theorem readFound_number {number : Number} (spells : SpellsNumber number text)
    (ends : EndsNumber rest) : readFound (text ++ rest) = .ok (.number number, rest) := by
  cases spells with
  | @natural magnitude fits =>
      have read := readNumber_append true fits ends
      obtain ⟨c, others, digits, isDigit⟩ := exists_toDigits_cons magnitude
      rw [digits, List.cons_append] at read ⊢
      rw [readFound, if_pos isDigit, read]
      · rfl
      all_goals exact ne_of_isDigit isDigit rfl
  | @negative magnitude positive fits =>
      have within : magnitude ≤ maxNatural := Nat.le_trans fits (by decide)
      have integer : makeInteger false magnitude = .negative magnitude := by
        simp [makeInteger, positive, fits]
      rw [List.cons_append, readFound, readNumber_append false within ends, integer]
      rfl

/-- A value that holds no values is found. -/
theorem readFound_append (spells : Spells value text) (ends : EndsNumber rest)
    (notArray : ∀ items, value ≠ .array items) (notObject : ∀ members, value ≠ .object members) :
    readFound (text ++ rest) = .ok (value.found, rest) := by
  cases spells with
  | null =>
      change (do return (Found.null, ← readLiteral _ ("ull".toList ++ rest))) = _
      rw [readLiteral_append]
      rfl
  | boolTrue =>
      change (do return (Found.bool true, ← readLiteral _ ("rue".toList ++ rest))) = _
      rw [readLiteral_append]
      rfl
  | boolFalse =>
      change (do return (Found.bool false, ← readLiteral _ ("alse".toList ++ rest))) = _
      rw [readLiteral_append]
      rfl
  | number spells => exact readFound_number spells ends
  | string spells =>
      obtain ⟨chars⟩ := spells
      rw [List.cons_append, List.cons_append, List.append_assoc, List.singleton_append, readFound,
        readString_append chars]
      rfl
  | array spells listing => exact absurd rfl (notArray _)
  | object spells listing => exact absurd rfl (notObject _)

/-! ## Between the brackets -/

/-- From one state to another over all elements of a list, one after another. -/
inductive Run {β : Type} (goes : σ → β → σ → Prop) : σ → List β → σ → Prop
  | nil {state : σ} : Run goes state [] state
  | cons {state next last : σ} {first : β} {others : List β} (here : goes state first next)
      (behind : Run goes next others last) : Run goes state (first :: others) last

theorem Run.imp {β : Type} {goes other : σ → β → σ → Prop} {state last : σ} {list : List β}
    (run : Run goes state list last)
    (imp : ∀ state element next, goes state element next → other state element next) :
    Run other state list last := by
  induction run with
  | nil => exact .nil
  | cons here behind ih => exact .cons (imp _ _ _ here) ih

/-- What goes over the elements of a list goes over their counterparts in another one. -/
theorem Run.of_forall₂ {β γ : Type} {goes : σ → β → σ → Prop} {other : σ → γ → σ → Prop}
    {related : β → γ → Prop} {list : List β} {others : List γ} {state last : σ}
    (run : Run goes state list last) (pairs : List.Forall₂ related list others)
    (imp : ∀ {state element part next}, related element part → goes state element next →
      other state part next) : Run other state others last := by
  induction run generalizing others with
  | nil =>
      obtain ⟨⟩ := pairs
      exact .nil
  | cons here behind ih =>
      obtain ⟨⟩ | ⟨pair, pairs⟩ := pairs
      exact .cons (imp pair here) (ih pairs)

/-- What every element does to the state is done by all of them, one after another. -/
theorem Run.foldl {β γ : Type} {goes : σ → β → σ → Prop} {toElement : γ → β} {step : σ → γ → σ}
    {list : List γ} (each : ∀ part ∈ list, ∀ state, goes state (toElement part) (step state part))
    (state : σ) : Run goes state (list.map toElement) (list.foldl step state) := by
  induction list generalizing state with
  | nil => exact .nil
  | cons first others ih =>
      exact .cons (each first List.mem_cons_self state)
        (ih (fun part member => each part (List.mem_cons_of_mem _ member)) (step state first))

/-- What puts every element in front collects the list in reverse. -/
theorem Run.reverse {β : Type} {goes : List β → β → List β → Prop} {list : List β}
    (each : ∀ element ∈ list, ∀ state, goes state element (element :: state)) :
    Run goes [] list list.reverse := by
  have run : Run goes [] (list.map id) (list.foldl (fun state element => element :: state) []) :=
    Run.foldl each []
  rwa [List.map_id, List.foldl_flip_cons_eq_append', List.append_nil] at run

/-- An array goes on with its next element, in front of the others. -/
theorem Listing.nextElement? (listing : Listing isFirst (item :: items) body)
    (starts : StartsPart item) :
    ∃ more, Listing false items more ∧ item.length + more.length ≤ body.length ∧
      ∀ rest, Json.nextElement? isFirst (body ++ rest) = .ok (some (item ++ (more ++ rest))) := by
  cases listing with
  | @first gap _ more _ isGap others =>
      refine ⟨more, others, ?_, fun rest => ?_⟩
      · simp only [List.length_append]
        omega
      rw [List.append_assoc, List.append_assoc, Json.nextElement?,
        skipSpace_gap_append_part isGap starts]
      obtain ⟨c, tail, rfl, shown, notComma, notList, notObject⟩ := starts
      simp [notComma, notList]
  | @next before after _ more _ isGapBefore isGapAfter others =>
      refine ⟨more, others, ?_, fun rest => ?_⟩
      · simp only [List.length_append, List.length_cons]
        omega
      simp only [List.append_assoc, List.cons_append]
      rw [Json.nextElement?, skipSpace_gap_append isGapBefore, skipSpace_cons (by decide)]
      simp only [skipSpace_gap_append_part isGapAfter starts]
      obtain ⟨c, tail, rfl, shown, notComma, notList, notObject⟩ := starts
      simp [notList]

theorem nextElement?_done (isFirst : Bool) (isGap : IsGap gap) (rest : Text) :
    nextElement? isFirst (gap ++ ']' :: rest) = .ok none := by
  rw [nextElement?, skipSpace_gap_append isGap, skipSpace_cons (by decide)]
  rfl

theorem closeArray_gap_append (isGap : IsGap gap) (rest : Text) :
    closeArray (gap ++ ']' :: rest) = ⟨rest, none⟩ := by
  rw [closeArray, skipSpace_gap_append isGap, skipSpace_cons (by decide)]
  rfl

/-- An object goes on with its next member, in front of the others. -/
theorem Listing.nextName? {name : Text} (listing : Listing isFirst (('"' :: name) :: items) body) :
    ∃ more, Listing false items more ∧ name.length + 1 + more.length ≤ body.length ∧
      ∀ rest, Json.nextName? isFirst (body ++ rest) = .ok (some (name ++ (more ++ rest))) := by
  have quote : isSpace '"' = false := by decide
  cases listing with
  | @first gap _ more _ isGap others =>
      refine ⟨more, others, ?_, fun rest => ?_⟩
      · simp only [List.length_append, List.length_cons]
        omega
      rw [List.append_assoc, List.append_assoc, Json.nextName?, skipSpace_gap_append isGap,
        List.cons_append, skipSpace_cons quote]
      rfl
  | @next before after _ more _ isGapBefore isGapAfter others =>
      refine ⟨more, others, ?_, fun rest => ?_⟩
      · simp only [List.length_append, List.length_cons]
        omega
      simp only [List.append_assoc, List.cons_append]
      rw [Json.nextName?, skipSpace_gap_append isGapBefore, skipSpace_cons (by decide)]
      simp only [skipSpace_gap_append isGapAfter, skipSpace_cons quote]
      rfl

theorem nextName?_done (isFirst : Bool) (isGap : IsGap gap) (rest : Text) :
    nextName? isFirst (gap ++ '\x7d' :: rest) = .ok none := by
  rw [nextName?, skipSpace_gap_append isGap, skipSpace_cons (by decide)]
  rfl

theorem closeObject_gap_append (isGap : IsGap gap) (rest : Text) :
    closeObject (gap ++ '\x7d' :: rest) = ⟨rest, none⟩ := by
  rw [closeObject, skipSpace_gap_append isGap, skipSpace_cons (by decide)]
  rfl

theorem readColon_gap_append (isGap : IsGap gap) (rest : Text) :
    readColon (gap ++ ':' :: rest) = .ok rest := by
  rw [readColon, skipSpace_gap_append isGap, skipSpace_cons (by decide)]
  rfl

/-- A step goes from one state to the next over an element, whatever its spelling of
at most so many characters. -/
def StepsOver (bound : Nat) (step : σ → Text → Except ε (σ × Text)) (state : σ) (value : Value)
    (next : σ) : Prop :=
  ∀ ⦃text rest : Text⦄, Spells value text → text.length ≤ bound → EndsNumber rest →
    step state (text ++ rest) = .ok (next, rest)

/-- A step goes from one state to the next over a member of at most so many characters. -/
def StepsOverNamed (bound : Nat) (step : σ → String → Text → Except ε (σ × Text)) (state : σ)
    (member : String × Text) (next : σ) : Prop :=
  ∀ ⦃before after rest : Text⦄, IsGap before → IsGap after → member.2.length ≤ bound →
    EndsNumber rest →
      step state member.1 (before ++ ':' :: (after ++ (member.2 ++ rest))) = .ok (next, rest)

theorem foldElements_of_next {start : Text} {budget : Nat} {isFirst : Bool}
    {step : σ → Text → Except ε (σ × Text)} {state next : σ} (place : Failure → ε)
    (starts : nextElement? isFirst text = .ok (some start))
    (taken : step state start = .ok (next, rest)) :
    foldElements place step (budget + 1) isFirst state text =
      foldElements place step budget false next rest := by
  rw [foldElements, starts]
  simp only [taken]

theorem foldMembers_of_next {start named : Text} {name : String} {budget : Nat} {isFirst : Bool}
    {step : σ → String → Text → Except ε (σ × Text)} {state next : σ} (place : Failure → ε)
    (starts : nextName? isFirst text = .ok (some start))
    (read : readString start = .ok (name, named))
    (taken : step state name named = .ok (next, rest)) :
    foldMembers place step (budget + 1) isFirst state text =
      foldMembers place step budget false next rest := by
  rw [foldMembers, starts]
  simp only [read, taken]

variable {bound budget : Nat} {state last : σ}

/-- A step that goes over every element goes through an array up to its bracket. -/
theorem foldElements_of_run {step : σ → Text → Except ε (σ × Text)} {values : List Value}
    (place : Failure → ε) (listing : Listing isFirst items body) (spells : SpellsItems values items)
    (run : Run (StepsOver bound step) state values last) (within : body.length ≤ bound)
    (enough : body.length < budget) (rest : Text) :
    ∃ left,
      foldElements place step budget isFirst state (body ++ ']' :: rest) = .ok (last, left) ∧
      closeArray left = ⟨rest, none⟩ := by
  obtain ⟨budget, rfl⟩ := Nat.exists_eq_succ_of_ne_zero (Nat.ne_zero_of_lt enough)
  -- Every element takes some of the text, so the text always stays below the budget.
  induction run generalizing isFirst items body budget with
  | nil =>
      obtain ⟨⟩ := spells
      obtain ⟨isGap⟩ := listing
      rw [foldElements, nextElement?_done _ isGap]
      exact ⟨_, rfl, closeArray_gap_append isGap rest⟩
  | cons here behind ih =>
      obtain ⟨⟩ | ⟨head, tail⟩ := spells
      obtain ⟨more, others, shorter, starts⟩ := listing.nextElement? head.startsPart
      have notEmpty := head.startsPart.length_pos
      have ends := others.endsNumber (endsNumber_cons (c := ']') (by decide) rest)
      rw [foldElements_of_next place (starts _) (here head (by omega) ends)]
      obtain ⟨budget, rfl⟩ := Nat.exists_eq_succ_of_ne_zero (by omega : budget ≠ 0)
      exact ih others tail (by omega) _ (by omega)

/-- A step that goes over every member goes through an object up to its bracket. -/
theorem foldMembers_of_run {step : σ → String → Text → Except ε (σ × Text)}
    {members : List (String × Text)} (place : Failure → ε) (listing : Listing isFirst items body)
    (named : SpellsNamed members items)
    (run : Run (StepsOverNamed bound step) state members last) (within : body.length ≤ bound)
    (enough : body.length < budget) (rest : Text) :
    ∃ left,
      foldMembers place step budget isFirst state (body ++ '\x7d' :: rest) = .ok (last, left) ∧
      closeObject left = ⟨rest, none⟩ := by
  obtain ⟨budget, rfl⟩ := Nat.exists_eq_succ_of_ne_zero (Nat.ne_zero_of_lt enough)
  induction run generalizing isFirst items body budget with
  | nil =>
      obtain ⟨⟩ := named
      obtain ⟨isGap⟩ := listing
      rw [foldMembers, nextName?_done _ isGap]
      exact ⟨_, rfl, closeObject_gap_append isGap rest⟩
  | cons here behind ih =>
      obtain ⟨⟩ | ⟨⟨chars⟩, isGapName, isGapValue, tail⟩ := named
      simp only [List.append_assoc, List.cons_append, List.nil_append] at listing
      obtain ⟨more, others, shorter, starts⟩ := listing.nextName?
      have ends := others.endsNumber (endsNumber_cons (c := '\x7d') (by decide) rest)
      simp only [List.append_assoc, List.cons_append, List.length_append, List.length_cons]
        at shorter starts
      have taken := here isGapName isGapValue (by simp only; omega) ends
      rw [foldMembers_of_next place (starts _) (readString_append chars _) taken]
      obtain ⟨budget, rfl⟩ := Nat.exists_eq_succ_of_ne_zero (by omega : budget ≠ 0)
      exact ih others tail (by omega) _ (by omega)

theorem foldElements_of_spells {step : σ → Text → Except ε (σ × Text)} {values : List Value}
    (place : Failure → ε) (spells : Spells (.array values) text)
    (run : Run (StepsOver bound step) state values last) (within : text.length ≤ bound)
    (rest : Text) :
    ∃ inner left, text ++ rest = '[' :: inner ∧
      foldElements place step bound true state inner = .ok (last, left) ∧
      closeArray left = ⟨rest, none⟩ := by
  cases spells with
  | array spells listing =>
      simp only [List.length_append, List.length_cons] at within
      obtain ⟨left, folded, closed⟩ :=
        foldElements_of_run place listing spells run (by omega) (by omega : _ < bound) rest
      exact ⟨_, left, by simp, folded, closed⟩

theorem foldMembers_of_object {step : σ → String → Text → Except ε (σ × Text)}
    {members : List (String × Text)} (place : Failure → ε) (object : SpellsObject members text)
    (run : Run (StepsOverNamed bound step) state members last) (within : text.length ≤ bound)
    (rest : Text) :
    ∃ inner left, text ++ rest = '\x7b' :: inner ∧
      foldMembers place step bound true state inner = .ok (last, left) ∧
      closeObject left = ⟨rest, none⟩ := by
  obtain ⟨named, listing⟩ := object
  simp only [List.length_append, List.length_cons] at within
  obtain ⟨left, folded, closed⟩ :=
    foldMembers_of_run place listing named run (by omega) (by omega : _ < bound) rest
  exact ⟨_, left, by simp, folded, closed⟩

/-- A member and the text of its value. -/
inductive SpellsMember : String × Value → String × Text → Prop
  | named {name : String} {value : Value} {text : Text} (spells : Spells value text) :
      SpellsMember (name, value) (name, text)

theorem SpellsMembers.exists_named {members : List (String × Value)}
    (spells : SpellsMembers members items) :
    ∃ named, SpellsNamed named items ∧ List.Forall₂ SpellsMember members named := by
  induction members generalizing items with
  | nil =>
      obtain ⟨⟩ := spells
      exact ⟨[], .nil, .nil⟩
  | cons member members ih =>
      obtain ⟨⟩ | ⟨spellsName, isGapBefore, isGapAfter, head, tail⟩ := spells
      obtain ⟨named, texts, parts⟩ := ih tail
      exact ⟨_, .cons spellsName isGapBefore isGapAfter texts, .cons (.named head) parts⟩

/-- An object that is spelled has members with texts. -/
theorem Spells.exists_object {members : List (String × Value)}
    (spells : Spells (.object members) text) :
    ∃ named, SpellsObject named text ∧ List.Forall₂ SpellsMember members named := by
  cases spells with
  | object spells listing =>
      obtain ⟨named, texts, parts⟩ := spells.exists_named
      exact ⟨named, .braces texts listing, parts⟩

/-! ## Readers -/

/-- The reader answers with the result whatever spelling of the value stands in front
of a text, and it needs no more than so many levels. -/
def Reads (depth : Nat) (read : Reader α) (value : Value) (result : α) : Prop :=
  ∀ ⦃gap text rest : Text⦄ ⦃limits : Limits⦄, IsGap gap → Spells value text → EndsNumber rest →
    text.length ≤ limits.budget → depth ≤ limits.depth →
      read limits (gap ++ (text ++ rest)) = .ok (result, rest)

theorem isGap_nil : IsGap [] := by
  simp [IsGap]

variable {depth : Nat}

/-- The reader answers with the result where exactly this text stands in front. -/
def ReadsText (depth : Nat) (read : Reader α) (text : Text) (result : α) : Prop :=
  ∀ ⦃gap rest : Text⦄ ⦃limits : Limits⦄, IsGap gap → EndsNumber rest →
    text.length ≤ limits.budget → depth ≤ limits.depth →
      read limits (gap ++ (text ++ rest)) = .ok (result, rest)

theorem Reads.readsText {read : Reader α} {result : α} (reads : Reads depth read value result)
    (spells : Spells value text) : ReadsText depth read text result :=
  fun _ _ _ isGap => reads isGap spells

theorem ReadsText.into {β : Type} {read : Reader β} {part : β}
    (reads : ReadsText depth read text part) (put : α → β → α) (whole : α) :
    ReadsText depth (read.into put whole) text (put whole part) := by
  intro gap rest limits isGap ends short deep
  rw [Reader.into, reads isGap ends short deep]
  rfl

theorem Reads.into {β : Type} {read : Reader β} {part : β} (reads : Reads depth read value part)
    (put : α → β → α) (whole : α) : Reads depth (read.into put whole) value (put whole part) :=
  fun _ _ _ _ isGap spells => (reads.readsText spells).into put whole isGap

/-- A reader reads the value of a member from behind the name on. -/
theorem ReadsText.behindColon {read : Reader α} {result : α}
    (reads : ReadsText depth read text result) (limits : Limits) (deep : depth ≤ limits.depth)
    {before after rest : Text} (isGapBefore : IsGap before) (isGapAfter : IsGap after)
    (within : text.length ≤ limits.budget) (ends : EndsNumber rest) :
    (do read limits (← readColon (before ++ ':' :: (after ++ (text ++ rest))))) =
      .ok (result, rest) := by
  rw [readColon_gap_append isGapBefore]
  exact reads isGapAfter ends within deep

theorem reads_readTypedString (expected string : String) :
    Reads depth (readTypedString expected) (.string string) string := by
  intro gap text rest limits isGap spells ends short deep
  rw [readTypedString, skipSpace_gap_append_part isGap spells.startsPart]
  cases spells with
  | string spells =>
      obtain ⟨chars⟩ := spells
      rw [List.cons_append, List.cons_append, List.append_assoc, List.singleton_append]
      exact readString_append chars rest

theorem reads_readTypedNatural (expected : String) (magnitude : Nat) :
    Reads depth (readTypedNatural expected) (.natural magnitude) magnitude := by
  intro gap text rest limits isGap spells ends short deep
  have found := readFound_append spells ends (by simp [Value.natural]) (by simp [Value.natural])
  rw [readTypedNatural, skipSpace_gap_append_part isGap spells.startsPart, found]
  rfl

/-- An array is read by a step that goes over its elements. -/
theorem reads_readArray {step : σ → Reader σ} {values : List Value}
    (run : Run (fun state value next => Reads depth (step state) value next) state values last) :
    Reads (depth + 1) (readArray state step) (.array values) last := by
  intro gap text rest limits isGap spells ends short deep
  obtain ⟨budget, levels⟩ := limits
  obtain ⟨levels, rfl⟩ := Nat.exists_eq_succ_of_ne_zero (Nat.ne_zero_of_lt deep)
  have steps : Run (StepsOver budget (step · ⟨budget, levels⟩)) state values last :=
    run.imp fun _ _ _ reads _ _ spells within ends =>
      reads isGap_nil spells ends within (Nat.le_of_succ_le_succ deep)
  obtain ⟨inner, left, opens, folded, closed⟩ := foldElements_of_spells id spells steps short rest
  rw [readArray, skipSpace_gap_append_part isGap spells.startsPart, opens]
  simp only [Limits.enter, bind, Except.bind, folded, closed]
  rfl

theorem reads_readStrings (texts : List String) :
    Reads (depth + 1) readStrings (.strings texts) texts := by
  intro gap text rest limits isGap spells ends short deep
  have strings : Run (fun state value next => Reads depth
      ((readTypedString "a string").into (fun found string => string :: found) state) value next)
      [] (texts.map .string) (texts.foldl (fun found string => string :: found) []) :=
    Run.foldl (fun string _ state => (reads_readTypedString _ string).into _ state) []
  rw [List.foldl_flip_cons_eq_append', List.append_nil] at strings
  have read := reads_readArray strings isGap spells ends short deep
  calc readStrings limits (gap ++ (text ++ rest))
    _ = readArray [] ((readTypedString "a string").into fun found string => string :: found) limits
          (gap ++ (text ++ rest)) >>= fun found => .ok (found.1.reverse, found.2) := rfl
    _ = .ok (texts.reverse.reverse, rest) := by rw [read]; rfl
    _ = .ok (texts, rest) := by rw [List.reverse_reverse]

/-- An object is read by a step that goes over its members. -/
theorem reads_readObject {step : σ → String → Reader σ} {members : List (String × Value)}
    (run : Run (fun state member next => Reads depth (step state member.1) member.2 next)
      state members last) :
    Reads (depth + 1) (readObject state step) (.object members) last := by
  intro gap text rest limits isGap spells ends short deep
  obtain ⟨budget, levels⟩ := limits
  obtain ⟨levels, rfl⟩ := Nat.exists_eq_succ_of_ne_zero (Nat.ne_zero_of_lt deep)
  have opens := skipSpace_gap_append_part isGap spells.startsPart rest
  obtain ⟨named, object, parts⟩ := spells.exists_object
  have steps : Run (StepsOverNamed budget fun state name text => do
      step state name ⟨budget, levels⟩ (← readColon text)) state named last :=
    run.of_forall₂ parts fun ⟨spells⟩ reads _ _ _ =>
      (reads.readsText spells).behindColon ⟨budget, levels⟩ (Nat.le_of_succ_le_succ deep)
  obtain ⟨inner, left, braces, folded, closed⟩ := foldMembers_of_object id object steps short rest
  rw [readObject, opens, braces]
  simp only [Limits.enter, bind, Except.bind] at folded ⊢
  simp only [folded, closed]
  rfl

/-- A member gives the record the value of a field that it does not have yet. -/
inductive RecordFormat.Fills (format : RecordFormat α) (depth : Nat) :
    α × List String → String × Value → α × List String → Prop
  | field {record next : α} {present : List String} {name : String} {value : Value}
      {field : Field α} (known : format.fields.find? (·.name == name) = some field)
      (absent : present.contains name = false)
      (reads : Reads depth (field.read record) value next) :
      Fills format depth (record, present) (name, value) (next, name :: present)

/-- The text is passed over where it stands in front. -/
def IsSkipped (text : Text) : Prop :=
  ∀ ⦃gap rest : Text⦄ ⦃limits : Limits⦄, IsGap gap → EndsNumber rest →
    text.length ≤ limits.budget → skipValue limits (gap ++ (text ++ rest)) = .ok rest

/-- A member's text gives the record the value of a field that it does not have yet, or
the member is passed over because no field has its name. -/
inductive RecordFormat.Takes (format : RecordFormat α) (depth : Nat) :
    α × List String → String × Text → α × List String → Prop
  | field {record next : α} {present : List String} {name : String} {text : Text}
      {field : Field α} (known : format.fields.find? (·.name == name) = some field)
      (absent : present.contains name = false)
      (reads : ReadsText depth (field.read record) text next) :
      Takes format depth (record, present) (name, text) (next, name :: present)
  | other {record : α} {present : List String} {name : String} {text : Text}
      (unknown : format.fields.find? (·.name == name) = none) (isSkipped : IsSkipped text) :
      Takes format depth (record, present) (name, text) (record, present)

theorem RecordFormat.Takes.stepsOver {format : RecordFormat α} {member : String × Text}
    {state next : α × List String} (takes : format.Takes depth state member next)
    {limits : Limits} (deep : depth ≤ limits.depth) :
    StepsOverNamed limits.budget (format.readMember limits) state member next := by
  intro before after rest isGapBefore isGapAfter within ends
  cases takes with
  | field known absent reads =>
      have value := reads.behindColon limits deep isGapBefore isGapAfter within ends
      simp only [readMember, known, absent, value]
      rfl
  | other unknown isSkipped =>
      simp only [readMember, unknown, readColon_gap_append isGapBefore, bind, Except.bind,
        isSkipped isGapAfter ends within]

theorem SpellsObject.startsPart {members : List (String × Text)}
    (object : SpellsObject members text) : StartsPart text := by
  obtain ⟨named, listing⟩ := object
  exact ⟨'\x7b', _, rfl, by decide⟩

/-- A record is read from an object whose members are taken one after another. -/
theorem RecordFormat.readsText_read {format : RecordFormat α} {members : List (String × Text)}
    {record : α} {present : List String}
    (run : Run (format.Takes depth) (format.initial, []) members (record, present))
    (complete : format.missing? present = none) (object : SpellsObject members text) :
    ReadsText (depth + 1) format.read text record := by
  intro gap rest limits isGap ends short deep
  obtain ⟨budget, levels⟩ := limits
  obtain ⟨levels, rfl⟩ := Nat.exists_eq_succ_of_ne_zero (Nat.ne_zero_of_lt deep)
  have deeper : depth ≤ (Limits.mk budget levels).depth := Nat.le_of_succ_le_succ deep
  have steps : Run (StepsOverNamed budget (format.readMember ⟨budget, levels⟩))
      (format.initial, []) members (record, present) :=
    run.imp fun _ _ _ takes => takes.stepsOver deeper
  obtain ⟨inner, left, braces, folded, closed⟩ :=
    foldMembers_of_object Fault.placed object steps short rest
  rw [read, skipSpace_gap_append_part isGap object.startsPart, braces]
  simp only [Limits.enter, bind, Except.bind, readMembers, folded, complete, finish, closed,
    Closing.toExcept, pure, Except.pure]

/-- A record is read from an object whose members fill it. -/
theorem RecordFormat.reads_read {format : RecordFormat α} {members : List (String × Value)}
    {record : α} {present : List String}
    (run : Run (format.Fills depth) (format.initial, []) members (record, present))
    (complete : format.missing? present = none) :
    Reads (depth + 1) format.read (.object members) record := by
  intro gap text rest limits isGap spells
  obtain ⟨named, object, parts⟩ := spells.exists_object
  have takes : Run (format.Takes depth) (format.initial, []) named (record, present) :=
    run.of_forall₂ parts fun ⟨spells⟩ fills => by
      obtain ⟨known, absent, reads⟩ := fills
      exact .field known absent (reads.readsText spells)
  exact readsText_read takes complete object isGap

/-- A value that holds no values is read as itself. -/
theorem reads_readValue_of_found (notArray : ∀ items, value ≠ .array items)
    (notObject : ∀ members, value ≠ .object members) : Reads depth readValue value value := by
  intro gap text rest limits isGap spells ends short deep
  have found := readFound_append spells ends notArray notObject
  rw [readValue, readValueWithin, skipSpace_gap_append_part isGap spells.startsPart]
  -- No bracket stands in front, for an array or object would be found there.
  split
  · next opens =>
      rw [opens, readFound] at found
      cases value <;> simp_all [Value.found]
  · next opens =>
      rw [opens, readFound] at found
      cases value <;> simp_all [Value.found]
  · rw [found]
    cases value with
    | array items => exact absurd rfl (notArray items)
    | object members => exact absurd rfl (notObject members)
    | _ => rfl

/-- Read a value as one more element. -/
def readItem (items : List Value) : Reader (List Value) :=
  Reader.into readValue (fun items item => item :: items) items

/-- Read a value as one more member. -/
def readNamed (members : List (String × Value)) (name : String) : Reader (List (String × Value)) :=
  Reader.into readValue (fun members value => (name, value) :: members) members

/-- What is read up to a bracket may be turned into a value before or after the bracket
is read. -/
theorem bind_toExcept (folded : Except Failure (σ × Text)) (close : Text → Closing)
    (toValue : σ → Value) :
    (do
      let (state, rest) ← folded
      let rest ← (close rest).toExcept
      return (toValue state, rest)) =
    (do
      let (state, rest) ← (do
        let (state, rest) ← folded
        return (state, ← (close rest).toExcept))
      return (toValue state, rest)) := by
  cases folded with
  | error failure => rfl
  | ok found =>
      simp only [bind, Except.bind]
      cases (close found.2).toExcept <;> rfl

/-- An array is read as the values of its elements. -/
theorem readValue_of_list {limits : Limits} (opens : skipSpace text = '[' :: rest) :
    readValue limits text = (do
      let (items, rest) ← readArray [] readItem limits text
      return (.array items.reverse, rest)) := by
  obtain ⟨budget, levels⟩ := limits
  rw [readValue, readValueWithin, readArray, opens]
  cases levels with
  | zero => rfl
  | succ levels =>
      exact bind_toExcept _ closeArray fun items : List Value => .array items.reverse

/-- An object is read as its names with the values of its members. -/
theorem readValue_of_map {limits : Limits} (opens : skipSpace text = '\x7b' :: rest) :
    readValue limits text = (do
      let (members, rest) ← readObject [] readNamed limits text
      return (.object members.reverse, rest)) := by
  obtain ⟨budget, levels⟩ := limits
  rw [readValue, readValueWithin, readObject, opens]
  cases levels with
  | zero => rfl
  | succ levels =>
      exact bind_toExcept _ closeObject fun members : List (String × Value) =>
        .object members.reverse

/-- A plain value is read as itself. -/
theorem IsPlain.reads_readValue (plain : IsPlain depth value) :
    Reads depth readValue value value := by
  induction plain with
  | null => exact reads_readValue_of_found (by simp) (by simp)
  | bool value => exact reads_readValue_of_found (by simp) (by simp)
  | natural fits => exact reads_readValue_of_found (by simp) (by simp)
  | negative positive fits => exact reads_readValue_of_found (by simp) (by simp)
  | string string => exact reads_readValue_of_found (by simp) (by simp)
  | @array depth items each ih =>
      have reads : Reads (depth + 1) (readArray [] readItem) (.array items) items.reverse :=
        reads_readArray (Run.reverse fun item member state => (ih item member).into _ state)
      intro gap text rest limits isGap spells ends short deep
      have opens := skipSpace_gap_append_part isGap spells.startsPart rest
      have read := reads isGap spells ends short deep
      cases spells
      rw [readValue_of_list opens, read]
      simp [bind, Except.bind, pure, Except.pure]
  | @object depth members each ih =>
      have reads : Reads (depth + 1) (readObject [] readNamed) (.object members) members.reverse :=
        reads_readObject (Run.reverse fun member among state => (ih member among).into _ state)
      intro gap text rest limits isGap spells ends short deep
      have opens := skipSpace_gap_append_part isGap spells.startsPart rest
      have read := reads isGap spells ends short deep
      cases spells
      rw [readValue_of_map opens, read]
      simp [bind, Except.bind, pure, Except.pure]

/-- A whole text is read when white space stands around what is read. -/
theorem readWhole_of_readsText {read : Reader α} {result : α} {before after : Text}
    (reads : ReadsText depth read text result) (shallow : depth ≤ Limits.maxDepth)
    (isGapBefore : IsGap before) (isGapAfter : IsGap after) :
    readWhole read (before ++ (text ++ after)) = .ok result := by
  have ends : EndsNumber after :=
    List.append_nil after ▸ endsNumber_gap_append isGapAfter endsNumber_nil
  have enough : text.length ≤ (Limits.forText (before ++ (text ++ after))).budget := by
    simp only [Limits.forText, List.length_append]
    omega
  have nothing : skipSpace after = [] := List.append_nil after ▸ skipSpace_gap_append isGapAfter []
  rw [readWhole, reads isGapBefore ends enough shallow]
  simp only [readEnd, nothing, bind, Except.bind]
  rfl

theorem readWhole_of_reads {read : Reader α} {result : α} {before after : Text}
    (reads : Reads depth read value result) (shallow : depth ≤ Limits.maxDepth)
    (isGapBefore : IsGap before) (isGapAfter : IsGap after) (spells : Spells value text) :
    readWhole read (before ++ (text ++ after)) = .ok result :=
  readWhole_of_readsText (reads.readsText spells) shallow isGapBefore isGapAfter

end Json

end SourceLines
