/-
# What is read as a classified file

The object of a classified file holds six members of its own. Where a file is read, the
members may come in any order and others may stand among them, with any values that can be
read there: the object is one of the levels of nesting that are allowed. Each of the six
has to be there once, with a value of its kind.

Path and label are taken where they stand, and the values of all other members are kept, to
be looked through for counts at the end. That is the invariant of reading: what is still
to come has to complete what has been read. So whether a file is read, and which one, can
be told from the members of the object as any JSON text is read, without their order.
-/

import SourceLines.Classify.Format
import SourceLines.Proofs.JsonParsing
import SourceLines.Proofs.JsonPrinting
import SourceLines.Proofs.ReportRoundTrip

namespace SourceLines

namespace Json

variable {limits : Limits} {text rest : Text}

/-! ## Whole texts and strings -/

theorem readWhole_eq_ok_iff {α : Type} {read : Limits → Text → Except Failure (α × Text)}
    {result : α} :
    readWhole read text = .ok result ↔
      ∃ rest, read (.forText text) text = .ok (result, rest) ∧ readEnd rest = .ok () := by
  simp only [readWhole, bind_eq_ok_iff, Prod.exists]
  constructor
  · rintro ⟨result, rest, whole, ⟨⟩, ended, ⟨⟩⟩
    exact ⟨rest, whole, ended⟩
  · rintro ⟨rest, whole, ended⟩
    exact ⟨result, rest, whole, (), ended, rfl⟩

theorem exists_string_of_readFound {string : String}
    (read : readFound text = .ok (.string string, rest)) :
    ∃ more, text = '"' :: more ∧ readString more = .ok (string, rest) := by
  unfold readFound at read
  split at read
  · obtain ⟨behind, -, ⟨⟩⟩ := bind_eq_ok_iff.mp read
  · obtain ⟨behind, -, ⟨⟩⟩ := bind_eq_ok_iff.mp read
  · obtain ⟨behind, -, ⟨⟩⟩ := bind_eq_ok_iff.mp read
  · obtain ⟨⟨found, behind⟩, read, ⟨⟩⟩ := bind_eq_ok_iff.mp read
    exact ⟨_, rfl, read⟩
  · obtain ⟨⟨number, behind⟩, -, ⟨⟩⟩ := bind_eq_ok_iff.mp read
  · cases read
  · cases read
  · cases read
  · split at read
    · obtain ⟨⟨number, behind⟩, -, ⟨⟩⟩ := bind_eq_ok_iff.mp read
    · cases read

/-- A value is read between brackets or found where none stand. -/
theorem cases_of_readValue {value : Value} (read : readValue limits text = .ok (value, rest)) :
    (∃ items, value = .array items) ∨
      (∃ members start, value = .object members ∧ skipSpace text = '\x7b' :: start) ∨
      (∀ members, value ≠ .object members) ∧
        readFound (skipSpace text) = .ok (value.found, rest) := by
  rw [readValue] at read
  unfold readValueWithin at read
  split at read
  · split at read
    · cases read
    · obtain ⟨⟨values, behind⟩, -, read⟩ := bind_eq_ok_iff.mp read
      obtain ⟨behind, -, ⟨⟩⟩ := bind_eq_ok_iff.mp read
      exact .inl ⟨_, rfl⟩
  · next start opens =>
    split at read
    · cases read
    · obtain ⟨⟨values, behind⟩, -, read⟩ := bind_eq_ok_iff.mp read
      obtain ⟨behind, -, ⟨⟩⟩ := bind_eq_ok_iff.mp read
      exact .inr (.inl ⟨_, start, rfl, opens⟩)
  · obtain ⟨⟨found, behind⟩, shown, read⟩ := bind_eq_ok_iff.mp read
    cases found with
    | sequence | map => cases read
    | null | bool | number | string =>
        cases read
        exact .inr (.inr ⟨nofun, shown⟩)

/-- A string is read where it is expected just as it is read as a value. -/
theorem readTypedString_eq_ok_iff {expected string : String} :
    readTypedString expected limits text = .ok (string, rest) ↔
      readValue limits text = .ok (.string string, rest) := by
  constructor
  · intro read
    unfold readTypedString at read
    split at read
    · next more opens =>
      rw [readValue, readValueWithin, opens]
      simp [readFound, read, bind, Except.bind, pure, Except.pure]
    · cases read
  · intro read
    obtain ⟨items, ⟨⟩⟩ | ⟨members, start, ⟨⟩, -⟩ | ⟨-, found⟩ := cases_of_readValue read
    obtain ⟨more, opens, read⟩ := exists_string_of_readFound found
    rw [readTypedString, opens]
    exact read

/-- An object is read between braces. -/
theorem exists_brace_of_readValue {members : List (String × Value)}
    (read : readValue limits text = .ok (.object members, rest)) :
    ∃ more, skipSpace text = '\x7b' :: more := by
  obtain ⟨items, ⟨⟩⟩ | ⟨-, start, -, opens⟩ | ⟨notObject, -⟩ := cases_of_readValue read
  · exact ⟨start, opens⟩
  · exact absurd rfl (notObject members)

/-! ## One member after another -/

/-- An object ends, or it goes on with the name of a member and what the step takes behind
it. -/
theorem cases_of_foldMembers {σ ε : Type} {place : Failure → ε}
    {step : σ → String → Text → Except ε (σ × Text)} {budget : Nat} {isFirst : Bool}
    {state last : σ}
    (folded : foldMembers place step (budget + 1) isFirst state text = .ok (last, rest)) :
    (nextName? isFirst text = .ok none ∧ last = state ∧ rest = text) ∨
      ∃ start name named next behind, nextName? isFirst text = .ok (some start) ∧
        readString start = .ok (name, named) ∧ step state name named = .ok (next, behind) ∧
        foldMembers place step budget false next behind = .ok (last, rest) := by
  rw [foldMembers] at folded
  split at folded
  · cases folded
  · next ends =>
    cases folded
    exact .inl ⟨ends, rfl, rfl⟩
  · next start starts =>
    split at folded
    · cases folded
    · next name named read =>
      split at folded
      · cases folded
      · next next behind taken =>
        exact .inr ⟨start, name, named, next, behind, starts, read, taken, folded⟩

theorem foldMembers_of_end {σ ε : Type} {budget : Nat} {isFirst : Bool} (place : Failure → ε)
    (step : σ → String → Text → Except ε (σ × Text)) (state : σ)
    (ends : nextName? isFirst text = .ok none) :
    foldMembers place step (budget + 1) isFirst state text = .ok (state, text) := by
  rw [foldMembers, ends]

/-! ## Members by name -/

theorem filter_cons_self (name : String) (value : Value) (members : List (String × Value)) :
    ((name, value) :: members).filter (·.1 == name) =
      (name, value) :: members.filter (·.1 == name) :=
  List.filter_cons_of_pos (beq_self_eq_true name)

theorem filter_cons_of_ne {name other : String} (ne : name ≠ other) (value : Value)
    (members : List (String × Value)) :
    ((name, value) :: members).filter (·.1 == other) = members.filter (·.1 == other) :=
  List.filter_cons_of_neg fun same => ne (beq_iff_eq.mp same)

end Json

open Json

namespace ClassifiedFile

variable {file : ClassifiedFile} {state next last : Partial} {limits : Limits} {text rest : Text}
  {name : String} {members : List (String × Value)}

/-! ## What a member does -/

/-- What has been read goes on with one more member. -/
inductive Partial.Takes : Partial → String × Value → Partial → Prop
  | path {state : Partial} {path : String} (absent : state.path = none) :
      Takes state ("path", .string path) { state with path := some path }
  | label {state : Partial} {label : String} (absent : state.label = none) :
      Takes state ("language", .string label) { state with label := some label }
  | other {state : Partial} {name : String} {value : Value} (notPath : name ≠ "path")
      (notLabel : name ≠ "language") :
      Takes state (name, value) { state with others := (name, value) :: state.others }

/-- A value is read behind the colon, and what is made of it is what is read. -/
theorem put_read_eq_ok_iff {α : Type} {found : Except Failure (α × Text)} {put : α → Partial} :
    (match found with
      | .ok (value, rest) => Except.ok (put value, rest)
      | .error failure => .error (Fault.placed failure)) = .ok (next, rest) ↔
      ∃ value, found = .ok (value, rest) ∧ put value = next := by
  cases found with
  | error failure => simp
  | ok found => simp [Prod.ext_iff, and_comm]

theorem readTypedString_behindColon {expected string : String} :
    (do readTypedString expected limits (← readColon text)) = .ok (string, rest) ↔
      (do readValue limits (← readColon text)) = .ok (.string string, rest) := by
  cases readColon text with
  | error failure => exact iff_of_false nofun nofun
  | ok start => exact readTypedString_eq_ok_iff

/-- A member is read as any value is, and the value must be one that the state takes. -/
theorem readMember_eq_ok_iff :
    readMember limits state name text = .ok (next, rest) ↔
      ∃ value, (do readValue limits (← readColon text)) = .ok (value, rest) ∧
        state.Takes (name, value) next := by
  unfold readMember
  constructor
  · intro taken
    dsimp only at taken
    split at taken
    · next isPath =>
      subst isPath
      split at taken
      · cases taken
      · next absent =>
        obtain ⟨path, read, rfl⟩ := put_read_eq_ok_iff.mp taken
        refine ⟨.string path, readTypedString_behindColon.mp read, .path ?_⟩
        exact Option.not_isSome_iff_eq_none.mp absent
    · next notPath =>
      split at taken
      · next isLabel =>
        subst isLabel
        split at taken
        · cases taken
        · next absent =>
          obtain ⟨label, read, rfl⟩ := put_read_eq_ok_iff.mp taken
          refine ⟨.string label, readTypedString_behindColon.mp read, .label ?_⟩
          exact Option.not_isSome_iff_eq_none.mp absent
      · next notLabel =>
        obtain ⟨value, read, rfl⟩ := put_read_eq_ok_iff.mp taken
        exact ⟨value, read, .other notPath notLabel⟩
  · intro ⟨value, read, takes⟩
    cases takes with
    | path absent =>
        rw [if_pos rfl, absent]
        exact put_read_eq_ok_iff.mpr ⟨_, readTypedString_behindColon.mpr read, rfl⟩
    | label absent =>
        rw [if_neg (by decide), if_pos rfl, absent]
        exact put_read_eq_ok_iff.mpr ⟨_, readTypedString_behindColon.mpr read, rfl⟩
    | other notPath notLabel =>
        rw [if_neg notPath, if_neg notLabel]
        exact put_read_eq_ok_iff.mpr ⟨_, read, rfl⟩

/-! ## What all members do -/

/-- Read a value as one more member, from behind its name on. -/
def readFree (limits : Limits) (found : List (String × Value)) (name : String) (text : Text) :
    Except Failure (List (String × Value) × Text) := do
  readNamed found name limits (← readColon text)

theorem readFree_eq_ok_iff {found found' : List (String × Value)} :
    readFree limits found name text = .ok (found', rest) ↔
      ∃ value, (do readValue limits (← readColon text)) = .ok (value, rest) ∧
        found' = (name, value) :: found := by
  simp only [readFree, readNamed, Reader.into, bind_eq_ok_iff, Prod.exists]
  constructor
  · rintro ⟨start, colon, value, behind, read, ⟨⟩⟩
    exact ⟨value, ⟨start, colon, read⟩, rfl⟩
  · rintro ⟨value, ⟨start, colon, read⟩, rfl⟩
    exact ⟨start, colon, value, rest, read, rfl⟩

/-- What is read member by member is read freely as well. -/
theorem exists_members_of_readMember {budget : Nat} {isFirst : Bool}
    (folded : foldMembers Fault.placed (readMember limits) budget isFirst state text =
      .ok (last, rest)) (found : List (String × Value)) :
    ∃ members, foldMembers id (readFree limits) budget isFirst found text =
        .ok (members.reverse ++ found, rest) ∧ Run Partial.Takes state members last := by
  induction budget generalizing isFirst state text found with
  | zero => cases folded
  | succ budget ih =>
      obtain ⟨ends, rfl, rfl⟩ |
          ⟨start, name, named, next, behind, starts, readName, taken, folded⟩ :=
        cases_of_foldMembers folded
      · exact ⟨[], foldMembers_of_end id _ found ends, .nil⟩
      · obtain ⟨value, read, takes⟩ := readMember_eq_ok_iff.mp taken
        obtain ⟨members, free, run⟩ := ih folded ((name, value) :: found)
        have freely : readFree limits found name named = .ok ((name, value) :: found, behind) :=
          readFree_eq_ok_iff.mpr ⟨value, read, rfl⟩
        refine ⟨(name, value) :: members, ?_, .cons takes run⟩
        rw [foldMembers_of_next id starts readName freely, free]
        simp

theorem exists_members_of_readFree {budget : Nat} {isFirst : Bool}
    {found all : List (String × Value)}
    (folded : foldMembers id (readFree limits) budget isFirst found text = .ok (all, rest)) :
    ∃ members, all = members.reverse ++ found ∧
      ∀ state last, Run Partial.Takes state members last →
        foldMembers Fault.placed (readMember limits) budget isFirst state text =
          .ok (last, rest) := by
  induction budget generalizing isFirst text found with
  | zero => cases folded
  | succ budget ih =>
      obtain ⟨ends, rfl, rfl⟩ |
          ⟨start, name, named, next, behind, starts, readName, taken, folded⟩ :=
        cases_of_foldMembers folded
      · refine ⟨[], rfl, fun state last run => ?_⟩
        cases run
        exact foldMembers_of_end _ _ state ends
      · obtain ⟨value, read, rfl⟩ := readFree_eq_ok_iff.mp taken
        obtain ⟨members, rfl, reads⟩ := ih folded
        refine ⟨(name, value) :: members, by simp, fun state last run => ?_⟩
        obtain _ | ⟨takes, run⟩ := run
        have member := readMember_eq_ok_iff.mpr ⟨value, read, takes⟩
        rw [foldMembers_of_next _ starts readName member]
        exact reads _ _ run

end ClassifiedFile

/-! ## Counts among the members -/

namespace LineCounts

variable {counts result : LineCounts} {field : CountField} {name : String} {count : Nat}
  {members : List (String × Value)} {present : List String}

/-- The count that goes by the name. -/
def named (counts : LineCounts) (name : String) : Nat :=
  if name = "code" then counts.code
  else if name = "comment" then counts.comment
  else if name = "blank" then counts.blank
  else counts.stringLiteral

theorem named_set (isField : field ∈ fields) :
    (field.set counts count).named field.name = count := by
  simp only [fields, List.mem_cons, List.not_mem_nil, or_false] at isField
  rcases isField with rfl | rfl | rfl | rfl <;> rfl

theorem named_set_of_ne {other : CountField} (isField : field ∈ fields) (isOther : other ∈ fields)
    (ne : other.name ≠ field.name) :
    (field.set counts count).named other.name = counts.named other.name := by
  simp only [fields, List.mem_cons, List.not_mem_nil, or_false] at isField isOther
  rcases isField with rfl | rfl | rfl | rfl
  · simp [named, ne]
  · simp [named, ne]
  · simp [named, ne]
  -- The last count is also what stands for names that are not known, so the other one is.
  · rcases isOther with rfl | rfl | rfl | rfl
    · rfl
    · rfl
    · rfl
    · exact absurd rfl ne

/-- Counts are the same if they are so under every name. -/
theorem ext_named (same : ∀ field ∈ fields, result.named field.name = counts.named field.name) :
    result = counts := by
  simp only [fields, List.forall_mem_cons] at same
  obtain ⟨code, comment, blank, stringLiteral, -⟩ := same
  cases result
  cases counts
  simp_all [named]

/-- The count is settled: it is there already and no member has its name, or exactly one
member has its name and gives it. -/
def IsSettled (counts : LineCounts) (present : List String) (members : List (String × Value))
    (result : LineCounts) (name : String) : Prop :=
  if name ∈ present then
    members.filter (·.1 == name) = [] ∧ result.named name = counts.named name
  else members.filter (·.1 == name) = [(name, .natural (result.named name))]

/-- A count that is not there yet may be given by one more member in front. -/
theorem isSettled_set_iff {other : CountField} (isField : field ∈ fields)
    (isOther : other ∈ fields) (absent : field.name ∉ present) :
    IsSettled (field.set counts count) (field.name :: present) members result other.name ↔
      IsSettled counts present ((field.name, .natural count) :: members) result other.name := by
  by_cases same : other.name = field.name
  · rw [same, IsSettled, IsSettled, if_pos List.mem_cons_self, if_neg absent, named_set isField,
      filter_cons_self]
    constructor
    · rintro ⟨none, given⟩
      rw [none, given]
    · intro once
      obtain ⟨here, none⟩ := List.cons.inj once
      simp only [Value.natural, Prod.mk.injEq, Value.number.injEq, Number.natural.injEq] at here
      exact ⟨none, here.2.symm⟩
  · rw [IsSettled, IsSettled, filter_cons_of_ne (Ne.symm same),
      named_set_of_ne isField isOther same]
    simp only [List.mem_cons, same, false_or]

end LineCounts

namespace ClassifiedFile

variable {counts result : LineCounts} {members : List (String × Value)} {present : List String}

open LineCounts (fields IsSettled)

theorem countOf_eq_ok_iff {value : Value} {count : Nat} :
    countOf value = .ok count ↔ value = .natural count := by
  constructor
  · intro isCount
    unfold countOf Number.toNatural at isCount
    split at isCount
    · split at isCount
      · cases isCount
        rfl
      · cases isCount
      · cases isCount
    · cases isCount
  · rintro rfl
    rfl

/-- The counts are set if every one of them is settled by the members, and only then. -/
theorem setCounts_eq_ok_iff :
    setCounts counts present members = .ok result ↔
      ∀ field ∈ fields, IsSettled counts present members result field.name := by
  induction members generalizing counts present with
  | nil =>
      rw [setCounts]
      cases missing : fields.find? (fun field => !present.contains field.name) with
      | some field =>
          refine iff_of_false nofun fun settled => ?_
          have absent : field.name ∉ present := by simpa using List.find?_some missing
          have given := settled field (List.mem_of_find?_eq_some missing)
          rw [IsSettled, if_neg absent] at given
          cases given
      | none =>
          have all : ∀ field ∈ fields, field.name ∈ present := by simpa using missing
          constructor
          · rintro ⟨⟩ field isField
            rw [IsSettled, if_pos (all field isField)]
            exact ⟨rfl, rfl⟩
          · intro settled
            apply congrArg Except.ok
            apply Eq.symm
            apply LineCounts.ext_named
            intro field isField
            have given := settled field isField
            rw [IsSettled, if_pos (all field isField)] at given
            exact given.2
  | cons member members ih =>
      obtain ⟨name, value⟩ := member
      rw [setCounts]
      cases known : fields.find? (·.name == name) with
      | none =>
          rw [ih]
          apply forall₂_congr
          intro field isField
          have ne : name ≠ field.name := fun same =>
            List.find?_eq_none.mp known field isField (beq_iff_eq.mpr same.symm)
          rw [IsSettled, IsSettled, filter_cons_of_ne ne]
      | some field =>
          have isField := List.mem_of_find?_eq_some known
          obtain rfl : field.name = name := by simpa using List.find?_some known
          by_cases seen : field.name ∈ present
          · simp only [List.contains_iff_mem.mpr seen, if_true]
            refine iff_of_false nofun fun settled => ?_
            have given := settled field isField
            rw [IsSettled, if_pos seen, filter_cons_self] at given
            cases given.1
          · have absent : present.contains field.name = false := by simpa using seen
            simp only [absent]
            cases isCount : countOf value with
            | error cause =>
                refine iff_of_false nofun fun settled => ?_
                have given := settled field isField
                rw [IsSettled, if_neg seen, filter_cons_self] at given
                obtain ⟨here, -⟩ := List.cons.inj given
                rw [countOf_eq_ok_iff.mpr (Prod.mk.inj here).2] at isCount
                cases isCount
            | ok count =>
                obtain rfl := countOf_eq_ok_iff.mp isCount
                exact ih.trans (forall₂_congr fun other isOther =>
                  LineCounts.isSettled_set_iff isField isOther seen)

/-! ## Whole classified files -/

/-- The text is given once: it is there already and no member has its name, or exactly one
member has its name and gives it. -/
def IsGivenOnce (already : Option String) (members : List (String × Value)) (name text : String) :
    Prop :=
  already = some text ∧ members.filter (·.1 == name) = [] ∨
    already = none ∧ members.filter (·.1 == name) = [(name, .string text)]

theorem isGivenOnce_cons_of_ne {already : Option String} {name other text : String} (value : Value)
    (ne : name ≠ other) :
    IsGivenOnce already ((name, value) :: members) other text ↔
      IsGivenOnce already members other text := by
  rw [IsGivenOnce, IsGivenOnce, filter_cons_of_ne ne]

/-- A text that is given by the member in front is given by no other, and was not there. -/
theorem isGivenOnce_cons_self {already : Option String} {name text : String} {value : Value} :
    IsGivenOnce already ((name, value) :: members) name text ↔
      already = none ∧ value = .string text ∧ members.filter (·.1 == name) = [] := by
  simp [IsGivenOnce]

/-- The member is neither the path nor the label. -/
def isOther (member : String × Value) : Bool :=
  member.1 != "path" && member.1 != "language"

/-- The members that follow complete what has been read to the classified file. -/
structure Partial.IsCompletedBy (state : Partial) (members : List (String × Value))
    (file : ClassifiedFile) : Prop where
  path : IsGivenOnce state.path members "path" file.path
  label : IsGivenOnce state.label members "language" file.label
  counts : setCounts .zero [] (state.others.reverse ++ members.filter isOther) = .ok file.counts

variable {file : ClassifiedFile} {state : Partial}

namespace Partial

/-- Nothing is left to be read if everything is there already. -/
theorem complete_eq_ok_iff : state.complete = .ok file ↔ state.IsCompletedBy [] file := by
  obtain ⟨path, label, others⟩ := state
  obtain ⟨filePath, fileLabel, fileCounts⟩ := file
  have nothing (already : Option String) (name text : String) :
      IsGivenOnce already [] name text ↔ already = some text := by
    simp [IsGivenOnce]
  have parts : (Partial.mk path label others).IsCompletedBy [] ⟨filePath, fileLabel, fileCounts⟩ ↔
      path = some filePath ∧ label = some fileLabel ∧
        setCounts .zero [] others.reverse = .ok fileCounts := by
    rw [← nothing path "path", ← nothing label "language", ← List.append_nil others.reverse]
    constructor
    · intro ⟨isPath, isLabel, counts⟩
      exact ⟨isPath, isLabel, counts⟩
    · intro ⟨isPath, isLabel, counts⟩
      exact ⟨isPath, isLabel, counts⟩
  rw [parts]
  cases path with
  | none => exact iff_of_false nofun nofun
  | some path =>
    cases label with
    | none => exact iff_of_false nofun nofun
    | some label =>
      cases set : setCounts .zero [] others.reverse with
      | error cause => simp [complete, set, bind, Except.bind]
      | ok counts => simp [complete, set, bind, Except.bind, pure, Except.pure]

theorem filter_isOther_cons {name : String} (notPath : name ≠ "path")
    (notLabel : name ≠ "language") (value : Value) (members : List (String × Value)) :
    ((name, value) :: members).filter isOther = (name, value) :: members.filter isOther := by
  apply List.filter_cons_of_pos
  simp [isOther, notPath, notLabel]

/-- What is completed by some members takes the first of them and is completed by the
others. -/
theorem isCompletedBy_cons_iff {name : String} {value : Value} :
    state.IsCompletedBy ((name, value) :: members) file ↔
      ∃ next, state.Takes (name, value) next ∧ next.IsCompletedBy members file := by
  constructor
  · intro ⟨isPath, isLabel, counts⟩
    by_cases path : name = "path"
    · subst path
      obtain ⟨absent, rfl, none⟩ := isGivenOnce_cons_self.mp isPath
      refine ⟨_, .path absent, .inl ⟨rfl, none⟩, ?_, counts⟩
      exact (isGivenOnce_cons_of_ne _ (by decide)).mp isLabel
    by_cases label : name = "language"
    · subst label
      obtain ⟨absent, rfl, none⟩ := isGivenOnce_cons_self.mp isLabel
      refine ⟨_, .label absent, ?_, .inl ⟨rfl, none⟩, counts⟩
      exact (isGivenOnce_cons_of_ne _ (by decide)).mp isPath
    · rw [filter_isOther_cons path label] at counts
      refine ⟨_, .other path label, ?_, ?_, ?_⟩
      · exact (isGivenOnce_cons_of_ne _ path).mp isPath
      · exact (isGivenOnce_cons_of_ne _ label).mp isLabel
      · rwa [List.reverse_cons, List.append_assoc]
  · intro ⟨next, takes, isPath, isLabel, counts⟩
    cases takes with
    | path absent =>
        obtain ⟨same, none⟩ | ⟨⟨⟩, -⟩ := isPath
        obtain rfl := Option.some.inj same
        refine ⟨isGivenOnce_cons_self.mpr ⟨absent, rfl, none⟩, ?_, counts⟩
        exact (isGivenOnce_cons_of_ne _ (by decide)).mpr isLabel
    | label absent =>
        obtain ⟨same, none⟩ | ⟨⟨⟩, -⟩ := isLabel
        obtain rfl := Option.some.inj same
        refine ⟨?_, isGivenOnce_cons_self.mpr ⟨absent, rfl, none⟩, counts⟩
        exact (isGivenOnce_cons_of_ne _ (by decide)).mpr isPath
    | other notPath notLabel =>
        rw [List.reverse_cons, List.append_assoc] at counts
        constructor
        · exact (isGivenOnce_cons_of_ne _ notPath).mpr isPath
        · exact (isGivenOnce_cons_of_ne _ notLabel).mpr isLabel
        · rwa [filter_isOther_cons notPath notLabel]

/-- What has been read is completed by the members that follow if it takes them one after
another and nothing is left to be read then. -/
theorem exists_run_complete_iff :
    (∃ last, Run Takes state members last ∧ last.complete = .ok file) ↔
      state.IsCompletedBy members file := by
  induction members generalizing state with
  | nil =>
      rw [← complete_eq_ok_iff]
      constructor
      · rintro ⟨last, ⟨⟩, completed⟩
        exact completed
      · intro completed
        exact ⟨state, .nil, completed⟩
  | cons member members ih =>
      rw [isCompletedBy_cons_iff]
      constructor
      · rintro ⟨last, ⟨⟩ | ⟨takes, run⟩, completed⟩
        exact ⟨_, takes, ih.mp ⟨last, run, completed⟩⟩
      · intro ⟨next, takes, completed⟩
        obtain ⟨last, run, completed⟩ := ih.mpr completed
        exact ⟨last, .cons takes run, completed⟩

end Partial

/-- The members of a classified file's own object. -/
def ownMembers (file : ClassifiedFile) : List (String × Value) :=
  ("path", .string file.path) :: ("language", .string file.label) ::
    LineCounts.fields.map fun field => (field.name, .natural (file.counts.named field.name))

/-- The members of the classified file are among these, and there is no other one with
any of their names. -/
def IsGivenBy (file : ClassifiedFile) (members : List (String × Value)) : Prop :=
  ∀ member ∈ file.ownMembers, members.filter (·.1 == member.1) = [member]

theorem isGivenOnce_none {name text : String} :
    IsGivenOnce none members name text ↔ members.filter (·.1 == name) = [(name, .string text)] := by
  simp [IsGivenOnce]

/-- The members with the name of a count are neither paths nor labels. -/
theorem filter_name_filter_isOther {field : CountField} (isField : field ∈ LineCounts.fields) :
    (members.filter isOther).filter (·.1 == field.name) =
      members.filter (·.1 == field.name) := by
  have other : field.name ≠ "path" ∧ field.name ≠ "language" := by
    revert field
    decide
  rw [List.filter_filter]
  congr 1
  funext member
  by_cases same : member.1 = field.name
  · simp [isOther, same, other]
  · simp [same]

theorem isCompletedBy_iff_isGivenBy :
    (Partial.mk none none []).IsCompletedBy members file ↔ file.IsGivenBy members := by
  have counts : setCounts .zero [] (members.filter isOther) = .ok file.counts ↔
      ∀ field ∈ fields, members.filter (·.1 == field.name) =
        [(field.name, .natural (file.counts.named field.name))] := by
    rw [setCounts_eq_ok_iff]
    apply forall₂_congr
    intro field isField
    rw [IsSettled, if_neg List.not_mem_nil, filter_name_filter_isOther isField]
  rw [IsGivenBy, ownMembers, List.forall_mem_cons, List.forall_mem_cons, List.forall_mem_map,
    ← isGivenOnce_none, ← isGivenOnce_none, ← counts]
  constructor
  · intro ⟨isPath, isLabel, counts⟩
    exact ⟨isPath, isLabel, counts⟩
  · intro ⟨isPath, isLabel, counts⟩
    exact ⟨isPath, isLabel, counts⟩

/-! ## Whole objects -/

/-- What is read up to the closing brace is a classified file if the members that are read
freely give it. -/
theorem readMembers_eq_ok_iff {budget : Nat} :
    readMembers limits budget text = .ok (file, rest) ↔
      ∃ members, foldMembers id (readFree limits) budget true [] text =
        .ok (members.reverse, rest) ∧ file.IsGivenBy members := by
  simp only [← isCompletedBy_iff_isGivenBy, ← Partial.exists_run_complete_iff]
  constructor
  · intro read
    obtain ⟨⟨last, left⟩, folded, read⟩ := bind_eq_ok_iff.mp read
    dsimp only at read
    cases completed : last.complete with
    | error cause =>
        rw [completed] at read
        cases read
    | ok whole =>
        rw [completed] at read
        cases read
        obtain ⟨members, free, run⟩ := exists_members_of_readMember folded []
        rw [List.append_nil] at free
        exact ⟨members, free, last, run, completed⟩
  · intro ⟨members, free, last, run, completed⟩
    obtain ⟨same, reversed, reads⟩ := exists_members_of_readFree free
    rw [List.append_nil] at reversed
    obtain rfl := List.reverse_injective reversed
    refine bind_eq_ok_iff.mpr ⟨(last, rest), reads _ _ run, ?_⟩
    dsimp only
    rw [completed]
    rfl

/-- An object is read as its members that are read freely between its braces. -/
theorem readValue_eq_ok_object_iff {start : Text} (opens : skipSpace text = '\x7b' :: start) :
    readValue limits text = .ok (.object members, rest) ↔
      ∃ inner left, limits.enter ('\x7b' :: start) = .ok inner ∧
        foldMembers id (readFree inner) limits.budget true [] start =
          .ok (members.reverse, left) ∧ (closeObject left).toExcept = .ok rest := by
  rw [readValue_of_map opens, readObject, opens]
  simp only [bind_eq_ok_iff, Prod.exists]
  constructor
  · rintro ⟨found, behind, ⟨inner, enters, found', left, folded, behind', closed, ⟨⟩⟩, ⟨⟩⟩
    rw [List.reverse_reverse]
    exact ⟨inner, left, enters, folded, closed⟩
  · rintro ⟨inner, left, enters, folded, closed⟩
    refine ⟨_, _, ⟨inner, enters, members.reverse, left, folded, rest, closed, rfl⟩, ?_⟩
    rw [List.reverse_reverse]
    rfl

theorem finish_eq_ok_iff {close : Text → Closing} {found : Except Fault (ClassifiedFile × Text)} :
    finish close found = .ok (file, rest) ↔
      ∃ left, found = .ok (file, left) ∧ (close left).toExcept = .ok rest := by
  cases found with
  | error fault => exact iff_of_false nofun nofun
  | ok found =>
      simp only [finish, bind_eq_ok_iff]
      constructor
      · rintro ⟨behind, closed, ⟨⟩⟩
        exact ⟨found.2, rfl, closed⟩
      · rintro ⟨left, ⟨⟩, closed⟩
        exact ⟨rest, closed, rfl⟩

/-- A classified file is read where an object is read that gives it. -/
theorem read_eq_ok_iff : ClassifiedFile.read limits text = .ok (file, rest) ↔
      ∃ members, readValue limits text = .ok (.object members, rest) ∧ file.IsGivenBy members := by
  constructor
  · intro taken
    unfold ClassifiedFile.read at taken
    split at taken
    · next start opens =>
      obtain ⟨inner, enters, taken⟩ := bind_eq_ok_iff.mp taken
      obtain ⟨left, taken, closed⟩ := finish_eq_ok_iff.mp taken
      obtain ⟨members, folded, given⟩ := readMembers_eq_ok_iff.mp taken
      exact ⟨members, (readValue_eq_ok_object_iff opens).mpr ⟨inner, left, enters, folded, closed⟩,
        given⟩
    · cases taken
  · intro ⟨members, value, given⟩
    obtain ⟨start, opens⟩ := exists_brace_of_readValue value
    obtain ⟨inner, left, enters, folded, closed⟩ := (readValue_eq_ok_object_iff opens).mp value
    have taken := readMembers_eq_ok_iff.mpr ⟨members, folded, given⟩
    have finished := finish_eq_ok_iff.mpr ⟨left, taken, closed⟩
    rw [ClassifiedFile.read, opens]
    exact bind_eq_ok_iff.mpr ⟨inner, enters, finished⟩

/-- A text is a classified file's if it is the text of an object that gives the file, and
no other text is. -/
theorem parse_eq_ok_iff : ClassifiedFile.parse text = .ok file ↔
      ∃ members, Json.parse text = .ok (.object members) ∧ file.IsGivenBy members := by
  simp only [ClassifiedFile.parse, Json.parse, readWhole_eq_ok_iff, read_eq_ok_iff]
  constructor
  · intro ⟨rest, ⟨members, read, given⟩, ended⟩
    exact ⟨members, ⟨rest, read, ended⟩, given⟩
  · intro ⟨members, ⟨rest, read, ended⟩, given⟩
    exact ⟨rest, ⟨members, read, given⟩, ended⟩

/-- A classified file is read from every spelling of an object that gives it, if nothing in
the object is nested too deep. -/
theorem parse_of_spells (plain : IsPlain Limits.maxDepth (.object members))
    (given : file.IsGivenBy members) (spells : Spells (.object members) text) :
    ClassifiedFile.parse text = .ok file := by
  have read := readWhole_of_reads plain.reads_readValue (Nat.le_refl _) isGap_nil isGap_nil spells
  rw [List.nil_append, List.append_nil] at read
  exact parse_eq_ok_iff.mpr ⟨members, read, given⟩

/-- The counts of a classified file. -/
def figures (file : ClassifiedFile) : List Nat :=
  [file.counts.code, file.counts.comment, file.counts.blank, file.counts.stringLiteral]

theorem isPlain_toJson {depth : Nat} (fit : Fit file.figures) :
    IsPlain (depth + 1) file.toJson := by
  have count {figure : Nat} (isFigure : figure ∈ file.figures) :
      IsPlain depth (.natural figure) :=
    .natural (Nat.le_pred_of_lt (fit figure isFigure))
  refine .object fun member among => ?_
  simp only [List.mem_cons, List.not_mem_nil, or_false] at among
  rcases among with rfl | rfl | rfl | rfl | rfl | rfl
  · exact .string _
  · exact .string _
  all_goals exact count (by simp [figures])

theorem isGivenBy_ownMembers (file : ClassifiedFile) : file.IsGivenBy file.ownMembers := by
  simp [IsGivenBy, ownMembers, LineCounts.fields]

/-- The names of the members that a classified file has of its own. -/
def memberNames : List String :=
  "path" :: "language" :: LineCounts.fields.map (·.name)

theorem map_fst_ownMembers (file : ClassifiedFile) :
    file.ownMembers.map Prod.fst = memberNames := rfl

/-- A classified file is read back from its own object, in every spelling. And it is read
from exactly those texts of objects that give it: the order of the members does not matter,
nor do others among them. An object that lacks one of the members, or that has it twice,
gives none. -/
theorem parse_takes_members_in_any_order (text : Text) :
    (∀ file : ClassifiedFile, Fit file.figures →
      ClassifiedFile.parse (print file.toJson) = .ok file ∧
        (Spells file.toJson text → ClassifiedFile.parse text = .ok file)) ∧
      (∀ file : ClassifiedFile, ClassifiedFile.parse text = .ok file ↔
        ∃ members, Json.parse text = .ok (.object members) ∧ file.IsGivenBy members) ∧
      ∀ members, Json.parse text = .ok (.object members) → ∀ name ∈ memberNames,
        (members.filter (·.1 == name)).length ≠ 1 →
          ∃ failure, ClassifiedFile.parse text = .error failure := by
  refine ⟨fun file fit => ?_, fun file => parse_eq_ok_iff, fun members object name isOwn many => ?_⟩
  · have plain : IsPlain Limits.maxDepth file.toJson := isPlain_toJson fit
    have spelled {text : Text} : Spells file.toJson text → ClassifiedFile.parse text = .ok file :=
      parse_of_spells plain file.isGivenBy_ownMembers
    exact ⟨spelled (plain.spells_printed 0), spelled⟩
  · cases parsed : ClassifiedFile.parse text with
    | error failure => exact ⟨failure, rfl⟩
    | ok file =>
        obtain ⟨others, same, given⟩ := parse_eq_ok_iff.mp parsed
        rw [object] at same
        cases same
        rw [← file.map_fst_ownMembers] at isOwn
        obtain ⟨member, isMember, rfl⟩ := List.mem_map.mp isOwn
        rw [given member isMember] at many
        exact absurd rfl many

/-- A file with its members in another order and others among them, one of these twice. -/
def shuffledText : Text :=
  "\x7b\"x\":[1],\"blank\":2,\"path\":\"a.al\",\"comment\":1,\"x\":null,\"code\":3,".toList ++
    "\"string_literal\":0,\"language\":\"AL\"\x7d".toList

/-- A file with its path twice. -/
def repeatedText : Text :=
  "\x7b\"path\":\"a.al\",\"path\":\"a.al\"\x7d".toList

theorem parse_takes_members_in_any_order_ofBlocks :
    let file : ClassifiedFile := ⟨"a.al", "AL", ⟨3, 1, 2, 0⟩⟩
    Fit file.figures ∧ ClassifiedFile.parse (print file.toJson) = .ok file ∧
      ClassifiedFile.parse shuffledText = .ok file ∧
      ∃ failure, ClassifiedFile.parse repeatedText = .error failure := by
  intro file
  have fit : Fit file.figures := by
    unfold Fit
    decide
  have plain : IsPlain 1 file.toJson := isPlain_toJson fit
  have shuffledObject : Json.parse shuffledText = .ok (.object [("x", .array [.natural 1]),
      ("blank", .natural 2), ("path", .string "a.al"), ("comment", .natural 1), ("x", .null),
      ("code", .natural 3), ("string_literal", .natural 0), ("language", .string "AL")]) := by
    rfl
  have repeatedObject : Json.parse repeatedText =
      .ok (.object [("path", .string "a.al"), ("path", .string "a.al")]) := by
    rfl
  obtain ⟨own, -, -⟩ := parse_takes_members_in_any_order (print file.toJson)
  obtain ⟨-, shuffled, -⟩ := parse_takes_members_in_any_order shuffledText
  obtain ⟨-, -, refused⟩ := parse_takes_members_in_any_order repeatedText
  refine ⟨fit, (own file fit).2 (plain.spells_printed 0),
    (shuffled file).mpr ⟨_, shuffledObject, ?_⟩, ?_⟩
  · simp [IsGivenBy, ownMembers, LineCounts.fields, LineCounts.named, file]
  · exact refused _ repeatedObject "path" (by decide) (by decide)

end ClassifiedFile

end SourceLines
