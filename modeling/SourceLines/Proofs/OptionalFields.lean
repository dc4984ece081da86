/-
# Records whose fields may be missing

A record that is not complete starts with a standard value for every field. Its members
come in any order, and others may stand among them. What the record is after some of the
members depends only on which of its fields were among them, and not on their order, so
this is the invariant of reading: a function of the names that are present already.
-/

import SourceLines.Proofs.JsonReading

namespace SourceLines

namespace Json

variable {α β γ : Type} {format : RecordFormat α} {depth : Nat} {name : String} {text : Text}
  {members : List (String × Text)} {filled : List String → α} {present : List String}

/-! ## Members that may be missing -/

/-- Among the members there is none with the name and nothing is given, or there is exactly
one, and its text stands for what is given. -/
inductive Carries (members : List (String × Text)) (name : String) (standsFor : β → Text → Prop) :
    Option β → Prop
  | missing (absent : name ∉ members.map Prod.fst) : Carries members name standsFor none
  | given {value : β} {text : Text} (once : members.filter (·.1 == name) = [(name, text)])
      (stands : standsFor value text) : Carries members name standsFor (some value)

/-- What is given under the name, as soon as the name is present. -/
def soFar (present : List String) (name : String) (given : Option β) : Option β :=
  if name ∈ present then given else none

@[simp]
theorem soFar_cons_self (present : List String) (name : String) (given : Option β) :
    soFar (name :: present) name given = given :=
  if_pos List.mem_cons_self

theorem soFar_cons_of_ne {other : String} (ne : name ≠ other) (present : List String)
    (given : Option β) : soFar (other :: present) name given = soFar present name given := by
  simp [soFar, ne]

theorem Carries.soFar_eq {standsFor : β → Text → Prop} {given : Option β}
    (carries : Carries members name standsFor given)
    (seen : name ∈ members.map Prod.fst → name ∈ present) : soFar present name given = given := by
  cases carries with
  | missing absent => exact ite_self none
  | @given value text once stands =>
      have member : (name, text) ∈ members :=
        List.mem_of_mem_filter (once ▸ List.mem_singleton_self (name, text))
      exact if_pos (seen (List.mem_map_of_mem member))

/-! ## Reading with missing members -/

/-- The field is read once at most, into what the record is already. -/
structure Field.IsFilled (field : Field α) (depth : Nat) (members : List (String × Text))
    (filled : List String → α) : Prop where
  once : (members.filter (·.1 == field.name)).length ≤ 1
  reads : ∀ ⦃text⦄, (field.name, text) ∈ members → ∀ present,
    ReadsText depth (field.read (filled present)) text (filled (field.name :: present))

/-- A field is filled with what the members carry under its name. -/
theorem Carries.isFilled {standsFor : β → Text → Prop} {given : Option β} {read : Reader γ}
    {put : α → γ → α} {meaning : β → γ} (carries : Carries members name standsFor given)
    (reads : ∀ {value text}, standsFor value text → ReadsText depth read text (meaning value))
    (puts : ∀ value present, given = some value →
      put (filled present) (meaning value) = filled (name :: present)) :
    Field.IsFilled ⟨name, read.into put⟩ depth members filled := by
  cases carries with
  | missing absent =>
      have none : members.filter (·.1 == name) = [] := by
        rw [List.filter_eq_nil_iff]
        rintro member among same
        exact absent (beq_iff_eq.mp same ▸ List.mem_map_of_mem among)
      refine ⟨?_, fun text member => absurd (List.mem_map_of_mem member) absent⟩
      rw [none]
      exact Nat.zero_le 1
  | @given value only once stands =>
      refine ⟨Nat.le_of_eq (once ▸ List.length_singleton), fun text member present => ?_⟩
      have among : (name, text) ∈ members.filter (·.1 == name) :=
        List.mem_filter.mpr ⟨member, beq_self_eq_true name⟩
      rw [once, List.mem_singleton] at among
      obtain ⟨-, rfl⟩ := Prod.mk.inj among
      rw [← puts value present rfl]
      exact (reads stands).into put (filled present)

namespace RecordFormat

/-- The members are read one after another in whatever order they come. Those that have no
field are passed over. -/
structure IsFilled (format : RecordFormat α) (depth : Nat) (members : List (String × Text))
    (filled : List String → α) : Prop where
  fields : ∀ field ∈ format.fields, field.IsFilled depth members filled
  others : ∀ member ∈ members, IsSkipped member.2

theorem IsFilled.tail {member : String × Text}
    (isFilled : format.IsFilled depth (member :: members) filled) :
    format.IsFilled depth members filled := by
  constructor
  · intro field isField
    obtain ⟨once, reads⟩ := isFilled.fields field isField
    have shorter := ((List.sublist_cons_self member members).filter (·.1 == field.name)).length_le
    exact ⟨Nat.le_trans shorter once, fun text among => reads (List.mem_cons_of_mem _ among)⟩
  · exact fun other among => isFilled.others other (List.mem_cons_of_mem _ among)

/-- A run over all members ends with every field filled whose name stands among them. -/
theorem IsFilled.exists_run (isFilled : format.IsFilled depth members filled)
    (fresh : ∀ name ∈ present, name ∉ members.map Prod.fst) :
    ∃ last, Run (format.Takes depth) (filled present, present) members (filled last, last) ∧
      present ⊆ last ∧ ∀ field ∈ format.fields, field.name ∈ members.map Prod.fst →
        field.name ∈ last := by
  -- None of the names still to come is present yet: that is what each step has to keep, and it
  -- can since every field's name comes at most once.
  induction members generalizing present with
  | nil => exact ⟨present, .nil, List.Subset.refl _, by simp⟩
  | cons member members ih =>
      obtain ⟨name, text⟩ := member
      have freshTail : ∀ other ∈ present, other ∉ members.map Prod.fst := fun other seen among =>
        fresh other seen (List.mem_cons_of_mem _ among)
      cases known : format.fields.find? (·.name == name) with
      | none =>
          obtain ⟨last, run, kept, seen⟩ := ih isFilled.tail freshTail
          have skipped := isFilled.others _ List.mem_cons_self
          refine ⟨last, .cons (.other known skipped) run, kept, fun field isField among => ?_⟩
          rcases List.mem_cons.mp among with same | among
          · exact absurd (beq_iff_eq.mpr same) (List.find?_eq_none.mp known field isField)
          · exact seen field isField among
      | some field =>
          have isField := List.mem_of_find?_eq_some known
          have same := List.find?_some known
          obtain rfl : field.name = name := beq_iff_eq.mp same
          have absent : present.contains field.name = false :=
            eq_false_of_ne_true fun seen =>
              fresh _ (List.contains_iff_mem.mp seen) List.mem_cons_self
          have freshNext : ∀ other ∈ field.name :: present, other ∉ members.map Prod.fst := by
            have once := (isFilled.fields field isField).once
            rw [List.filter_cons, if_pos same, List.length_cons] at once
            have none := List.length_eq_zero_iff.mp (Nat.le_zero.mp (Nat.le_of_succ_le_succ once))
            intro other seen among
            rcases List.mem_cons.mp seen with rfl | seen
            · obtain ⟨member, among, named⟩ := List.mem_map.mp among
              exact List.filter_eq_nil_iff.mp none member among (beq_iff_eq.mpr named)
            · exact freshTail other seen among
          obtain ⟨last, run, kept, seen⟩ := ih isFilled.tail freshNext
          have reads := (isFilled.fields field isField).reads List.mem_cons_self present
          refine ⟨last, .cons (.field known absent reads) run, ?_, fun other isOther among => ?_⟩
          · exact List.Subset.trans (List.subset_cons_self _ _) kept
          rcases List.mem_cons.mp among with same | among
          · exact kept (same ▸ List.mem_cons_self)
          · exact seen other isOther among

/-- A record that need not be complete is read from any object that holds some of its
fields. -/
theorem IsFilled.readsText_read (isFilled : format.IsFilled depth members filled) {result : α}
    (initial : filled [] = format.initial) (mayMiss : format.isComplete = false)
    (whole : ∀ present, (∀ field ∈ format.fields, field.name ∈ members.map Prod.fst →
      field.name ∈ present) → filled present = result)
    (object : SpellsObject members text) :
    ReadsText (depth + 1) format.read text result := by
  have fresh : ∀ name ∈ ([] : List String), name ∉ members.map Prod.fst := by simp
  obtain ⟨last, run, -, seen⟩ := isFilled.exists_run fresh
  rw [initial, whole last seen] at run
  exact RecordFormat.readsText_read run (if_neg (ne_true_of_eq_false mayMiss)) object

end RecordFormat

end Json

end SourceLines
