/-
# Searching in lists

One list contains another when it reads the other at some place, without gaps.
The search is used for texts and for bytes alike. The empty list is contained
in every list.
-/

namespace SourceLines

variable {α : Type} [BEq α]

/-- The list reads `needle` at some place. -/
def containsList (needle : List α) : List α → Bool
  | [] => needle.isEmpty
  | head :: rest => needle.isPrefixOf (head :: rest) || containsList needle rest

/-- The list reads one of the `needles` at some place. -/
def containsAny (needles : List (List α)) (list : List α) : Bool :=
  needles.any (containsList · list)

/-- One string contains another when their characters do. -/
def containsString (needle text : String) : Bool :=
  containsList needle.toList text.toList

/-- One string ends with another when their characters do. -/
def endsWithString (ending text : String) : Bool :=
  ending.toList.isSuffixOf text.toList

@[simp]
theorem containsList_nil (list : List α) : containsList [] list = true := by
  cases list <;> simp [containsList]

/-- Containment is the existence of a place at which the needle is read. -/
theorem containsList_iff_isInfix [LawfulBEq α] {needle list : List α} :
    containsList needle list = true ↔ needle <:+: list := by
  induction list with
  | nil => simp [containsList]
  | cons head rest ih => simp [containsList, ih, List.infix_cons_iff]

/-- A string ends with another when something stands in front of it. -/
theorem endsWithString_iff {ending text : String} :
    endsWithString ending text = true ↔ ∃ front, text = front ++ ending := by
  rw [endsWithString, List.isSuffixOf_iff_suffix]
  constructor
  · rintro ⟨front, same⟩
    refine ⟨String.ofList front, String.toList_injective ?_⟩
    rw [String.toList_append, String.toList_ofList, same]
  · rintro ⟨front, rfl⟩
    rw [String.toList_append]
    exact List.suffix_append ..

end SourceLines
