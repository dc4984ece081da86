/-
# Maps from labels

A map from labels is the list of its entries in the order of the labels, each
label standing there once. The order is part of the type, so two maps with the
same entries are equal, and every list that is made from a map is in order.
-/

namespace SourceLines

/-- A finite map from labels, in their order. -/
structure LabelMap (α : Type) where
  entries : List (String × α)
  ascending : entries.Pairwise fun first second => first.1 < second.1
  deriving DecidableEq, Repr

/-- A finite set of labels, in their order. -/
abbrev LabelSet := LabelMap Unit

namespace LabelMap

variable {α : Type}

/-- The map without entries. -/
def empty : LabelMap α :=
  ⟨[], .nil⟩

/-- Replace what a list in order has under a label, or put something there. -/
def alterEntries (label : String) (f : Option α → α) :
    List (String × α) → List (String × α)
  | [] => [(label, f none)]
  | (key, value) :: rest =>
      if label < key then (label, f none) :: (key, value) :: rest
      else if label = key then (key, f (some value)) :: rest
      else (key, value) :: alterEntries label f rest

/-- Every label after an alteration was there before or is the one altered. -/
theorem key_of_mem_alterEntries {label : String} {f : Option α → α}
    {list : List (String × α)} {entry : String × α} (h : entry ∈ alterEntries label f list) :
    entry.1 = label ∨ ∃ other ∈ list, other.1 = entry.1 := by
  induction list with
  | nil => simp_all [alterEntries]
  | cons head rest ih =>
    simp only [alterEntries] at h
    split at h
    · rcases List.mem_cons.mp h with rfl | h
      · exact Or.inl rfl
      · exact Or.inr ⟨entry, h, rfl⟩
    · split at h
      · rcases List.mem_cons.mp h with rfl | h
        · exact Or.inr ⟨head, List.mem_cons_self, rfl⟩
        · exact Or.inr ⟨entry, List.mem_cons_of_mem _ h, rfl⟩
      · rcases List.mem_cons.mp h with rfl | h
        · exact Or.inr ⟨head, List.mem_cons_self, rfl⟩
        · rcases ih h with same | ⟨other, member, same⟩
          · exact Or.inl same
          · exact Or.inr ⟨other, List.mem_cons_of_mem _ member, same⟩

/-- An alteration keeps the order of the labels. -/
theorem pairwise_alterEntries (label : String) (f : Option α → α) {list : List (String × α)}
    (h : list.Pairwise fun first second => first.1 < second.1) :
    (alterEntries label f list).Pairwise fun first second => first.1 < second.1 := by
  induction list with
  | nil => simp [alterEntries]
  | cons head rest ih =>
    obtain ⟨above, ordered⟩ := List.pairwise_cons.mp h
    simp only [alterEntries]
    split
    · next less =>
      refine List.pairwise_cons.mpr ⟨fun entry member => ?_, h⟩
      rcases List.mem_cons.mp member with rfl | member
      · exact less
      · exact String.lt_trans less (above entry member)
    · next notLess =>
      split
      · exact List.pairwise_cons.mpr ⟨fun entry member => above entry member, ordered⟩
      · next different =>
        refine List.pairwise_cons.mpr ⟨fun entry member => ?_, ih ordered⟩
        rcases key_of_mem_alterEntries member with same | ⟨other, member, same⟩
        · grind
        · exact same ▸ above other member

/-- Replace what the map has under a label, or put something there. -/
def alter (map : LabelMap α) (label : String) (f : Option α → α) : LabelMap α :=
  ⟨alterEntries label f map.entries, pairwise_alterEntries label f map.ascending⟩

/-- The map with a value under a label, in place of the one that may be there. -/
def insert (map : LabelMap α) (label : String) (value : α) : LabelMap α :=
  map.alter label fun _ => value

/-- What a list of entries has under a label. -/
def findAmong? (label : String) (list : List (String × α)) : Option α :=
  (list.find? (·.1 == label)).map (·.2)

/-- What the map has under a label. -/
def find? (map : LabelMap α) (label : String) : Option α :=
  findAmong? label map.entries

/-- The map has something under a label. -/
def contains (map : LabelMap α) (label : String) : Bool :=
  (map.find? label).isSome

/-- The labels of the map, in order. -/
def labels (map : LabelMap α) : List String :=
  map.entries.map (·.1)

/-- Nothing is in the map. -/
def isEmpty (map : LabelMap α) : Bool :=
  map.entries.isEmpty

/-- The map of a list of entries. Of several entries under one label the last
one stays. -/
def ofList (list : List (String × α)) : LabelMap α :=
  list.foldl (fun map (label, value) => map.insert label value) empty

/-- Add the entries of another map. Under a label of both maps the two values
are combined, the one of the first map coming first. -/
def merge (combine : Option α → α → α) (map other : LabelMap α) : LabelMap α :=
  other.entries.foldl
    (fun map (label, value) => map.alter label fun present => combine present value) map

/-! ## Finding entries -/

theorem findAmong?_cons (label : String) (head : String × α) (rest : List (String × α)) :
    findAmong? label (head :: rest) =
      if head.1 = label then some head.2 else findAmong? label rest := by
  by_cases same : head.1 = label <;> simp [findAmong?, same]

/-- Something stands under the labels of the entries, and under no others. -/
theorem isSome_findAmong?_iff {label : String} {list : List (String × α)} :
    (findAmong? label list).isSome ↔ label ∈ list.map (·.1) := by
  induction list with
  | nil => simp [findAmong?]
  | cons head rest ih =>
    rw [findAmong?_cons]
    by_cases same : head.1 = label
    · simp [same]
    · simp only [if_neg same, ih, List.map_cons, List.mem_cons, Ne.symm same, false_or]

/-- Nothing stands under a label that comes before all labels of the list. -/
theorem findAmong?_eq_none_of_lt {label : String} {list : List (String × α)}
    (before : ∀ entry ∈ list, label < entry.1) : findAmong? label list = none := by
  rw [← Option.not_isSome_iff_eq_none, isSome_findAmong?_iff]
  intro member
  obtain ⟨entry, member, same⟩ := List.mem_map.mp member
  exact String.lt_irrefl _ (same ▸ before entry member)

/-- In a list in order an entry is there exactly when it is found under its label. -/
theorem mem_iff_findAmong?_eq_some {entry : String × α} {list : List (String × α)}
    (ordered : list.Pairwise fun first second => first.1 < second.1) :
    entry ∈ list ↔ findAmong? entry.1 list = some entry.2 := by
  induction list with
  | nil => simp [findAmong?]
  | cons head rest ih =>
    obtain ⟨above, restOrdered⟩ := List.pairwise_cons.mp ordered
    rw [List.mem_cons, ih restOrdered, findAmong?_cons]
    by_cases same : head.1 = entry.1
    · have absent : findAmong? entry.1 rest = none :=
        findAmong?_eq_none_of_lt fun other member => same ▸ above other member
      simp only [absent, reduceCtorEq, or_false, if_pos same, Option.some.injEq]
      exact ⟨fun equal => equal ▸ rfl, fun value => (Prod.ext same value).symm⟩
    · simp only [if_neg same, or_iff_right_iff_imp]
      exact fun equal => absurd (equal ▸ rfl) same

/-- An alteration changes what stands under its own label and nothing else. -/
theorem findAmong?_alterEntries (label other : String) (f : Option α → α)
    {list : List (String × α)} (ordered : list.Pairwise fun first second => first.1 < second.1) :
    findAmong? other (alterEntries label f list) =
      if label = other then some (f (findAmong? label list)) else findAmong? other list := by
  induction list with
  | nil => rw [alterEntries, findAmong?_cons]; rfl
  | cons head rest ih =>
    obtain ⟨above, restOrdered⟩ := List.pairwise_cons.mp ordered
    simp only [alterEntries]
    split
    · next less =>
      have absent : findAmong? label (head :: rest) = none := by
        apply findAmong?_eq_none_of_lt
        intro entry member
        rcases List.mem_cons.mp member with rfl | member
        · exact less
        · exact String.lt_trans less (above entry member)
      rw [findAmong?_cons, absent]
    · split
      · next same =>
        subst same
        by_cases here : head.1 = other <;> simp [findAmong?_cons, here]
      · next different =>
        rw [findAmong?_cons, findAmong?_cons, findAmong?_cons, ih restOrdered]
        by_cases here : head.1 = other
        · have elsewhere : label ≠ other := fun same => different (same.trans here.symm)
          simp [here, elsewhere]
        · simp [here, Ne.symm different]

@[simp]
theorem find?_empty (label : String) : (empty : LabelMap α).find? label = none := rfl

/-- An alteration changes what the map has under its label and nothing else. -/
theorem find?_alter (map : LabelMap α) (label other : String) (f : Option α → α) :
    (map.alter label f).find? other =
      if label = other then some (f (map.find? label)) else map.find? other :=
  findAmong?_alterEntries label other f map.ascending

/-- The labels of a map are those under which it has something. -/
theorem mem_labels {map : LabelMap α} {label : String} :
    label ∈ map.labels ↔ (map.find? label).isSome :=
  isSome_findAmong?_iff.symm

/-- Alterations at the labels of a list, one after another, meet a label at most
once, because labels in order differ. -/
theorem find?_foldl_alter (combine : Option α → α → α) (label : String)
    {list : List (String × α)} (ordered : list.Pairwise fun first second => first.1 < second.1)
    (map : LabelMap α) :
    (list.foldl (fun map (key, value) => map.alter key fun present => combine present value)
        map).find? label =
      match findAmong? label list with
      | some value => some (combine (map.find? label) value)
      | none => map.find? label := by
  induction list generalizing map with
  | nil => rfl
  | cons head rest ih =>
    obtain ⟨above, restOrdered⟩ := List.pairwise_cons.mp ordered
    rw [List.foldl_cons, ih restOrdered, findAmong?_cons, find?_alter]
    by_cases here : head.1 = label
    · have absent : findAmong? label rest = none :=
        findAmong?_eq_none_of_lt fun entry member => here ▸ above entry member
      simp [here, absent]
    · simp only [if_neg here]

/-- A merged map has under every label what the two maps have there, combined. -/
theorem find?_merge (combine : Option α → α → α) (map other : LabelMap α) (label : String) :
    (map.merge combine other).find? label =
      match other.find? label with
      | some value => some (combine (map.find? label) value)
      | none => map.find? label :=
  find?_foldl_alter combine label other.ascending map

end LabelMap

/-- The set of the labels in a list. -/
def LabelSet.ofList (labels : List String) : LabelSet :=
  LabelMap.ofList (labels.map fun label => (label, ()))

end SourceLines
