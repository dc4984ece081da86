/-
# Trees of entries

In a tree of entries every name is one that an entry may have, and the entries of
a directory have different names; so what a directory has under a name is the one
entry with this name. Real directories, no links, lead from the entries of a
directory to the entries in and below it.
-/

import SourceLines.Proofs.PathNames

namespace SourceLines

namespace Entry

/-- All names in the tree are good ones, and those in a directory differ. -/
inductive WellNamed : Entry → Prop
  | file {name : String} {content : Bytes} (isName : IsName name) : WellNamed (.file name content)
  | link {name text : String} (isName : IsName name) : WellNamed (.link name text)
  | directory {name : String} {entries : List Entry} (isName : IsName name)
      (distinct : (entries.map Entry.name).Nodup) (each : ∀ entry ∈ entries, WellNamed entry) :
      WellNamed (.directory name entries)

/-- The same for all entries of a directory. -/
structure AllWellNamed (entries : List Entry) : Prop where
  distinct : (entries.map Entry.name).Nodup
  each : ∀ entry ∈ entries, entry.WellNamed

theorem WellNamed.isName {entry : Entry} (wellNamed : entry.WellNamed) : IsName entry.name := by
  cases wellNamed <;> assumption

theorem WellNamed.inside {name : String} {entries : List Entry}
    (wellNamed : (Entry.directory name entries).WellNamed) : AllWellNamed entries := by
  cases wellNamed with
  | directory isName distinct each => exact ⟨distinct, each⟩

theorem AllWellNamed.tail {entry : Entry} {entries : List Entry}
    (wellNamed : AllWellNamed (entry :: entries)) : AllWellNamed entries where
  distinct := (List.nodup_cons.mp wellNamed.distinct).2
  each other member := wellNamed.each other (List.mem_cons_of_mem entry member)

theorem AllWellNamed.nil : AllWellNamed [] where
  distinct := List.nodup_nil
  each := by simp

theorem AllWellNamed.cons {entry : Entry} {entries : List Entry} (wellNamed : entry.WellNamed)
    (different : entry.name ∉ entries.map Entry.name) (rest : AllWellNamed entries) :
    AllWellNamed (entry :: entries) where
  distinct := List.nodup_cons.mpr ⟨different, rest.distinct⟩
  each := List.forall_mem_cons.mpr ⟨wellNamed, rest.each⟩

theorem AllWellNamed.directory {name : String} {entries : List Entry} (isName : IsName name)
    (wellNamed : AllWellNamed entries) : (Entry.directory name entries).WellNamed :=
  .directory isName wellNamed.distinct wellNamed.each

/-- What is found under a name is an entry with this name. -/
theorem mem_of_find? {entries : List Entry} {name : String} {entry : Entry}
    (found : find? entries name = some entry) : entry ∈ entries ∧ entry.name = name :=
  ⟨List.mem_of_find?_eq_some found, by simpa using List.find?_some found⟩

/-- Every entry is found under its name. -/
theorem find?_of_mem {entries : List Entry} (distinct : (entries.map Entry.name).Nodup)
    {entry : Entry} (member : entry ∈ entries) : find? entries entry.name = some entry := by
  induction entries with
  | nil => cases member
  | cons head rest ih =>
      obtain ⟨absent, restDistinct⟩ := List.nodup_cons.mp distinct
      rcases List.mem_cons.mp member with rfl | member
      · simp [find?]
      · have different : head.name ≠ entry.name := by
          intro same
          exact absent (same ▸ List.mem_map_of_mem member)
        rw [find?, List.find?_cons_of_neg (by simpa using different)]
        exact ih restDistinct member

theorem entriesBelow?_append (first second : List String) (entries : List Entry) :
    entriesBelow? (first ++ second) entries =
      (entriesBelow? first entries).bind (entriesBelow? second) := by
  induction first generalizing entries with
  | nil => rfl
  | cons name names ih =>
      simp only [List.cons_append, entriesBelow?]
      split
      · exact ih _
      · rfl

/-- Every directory of a well-named tree is well-named. -/
theorem AllWellNamed.entriesBelow? {entries inner : List Entry} (wellNamed : AllWellNamed entries)
    {names : List String} (below : Entry.entriesBelow? names entries = some inner) :
    AllWellNamed inner := by
  induction names generalizing entries with
  | nil =>
      cases below
      exact wellNamed
  | cons name names ih =>
      rw [Entry.entriesBelow?] at below
      split at below
      · next found =>
        exact ih (wellNamed.each _ (mem_of_find? found).1).inside below
      · cases below

/-- Real directories with these names lead from the entries of a directory to an
entry. -/
inductive Reaches : List Entry → List String → Entry → Prop
  /-- The entry is one of them. -/
  | here {entries : List Entry} {entry : Entry} (member : entry ∈ entries) :
      Reaches entries [] entry
  /-- The entry is reached from one of the directories among them. -/
  | inside {entries inner : List Entry} {name : String} {names : List String} {entry : Entry}
      (member : Entry.directory name inner ∈ entries) (rest : Reaches inner names entry) :
      Reaches entries (name :: names) entry

/-- All names on the way to something in a well-named tree are good ones. -/
theorem Reaches.isName {entries : List Entry} {names : List String} {entry : Entry}
    (reaches : Reaches entries names entry) (each : ∀ first ∈ entries, first.WellNamed) :
    ∀ name ∈ names ++ [entry.name], IsName name := by
  induction reaches with
  | here member =>
      intro name named
      rw [List.nil_append, List.mem_singleton] at named
      exact named ▸ (each _ member).isName
  | inside member rest ih =>
      have directoryNamed := each _ member
      intro name named
      rcases List.mem_cons.mp named with rfl | named
      · exact directoryNamed.isName
      · exact ih directoryNamed.inside.each name named

theorem Reaches.of_subset {entries others : List Entry} {names : List String} {entry : Entry}
    (reaches : Reaches entries names entry) (subset : entries ⊆ others) :
    Reaches others names entry := by
  cases reaches with
  | here member => exact .here (subset member)
  | inside member rest => exact .inside (subset member) rest

theorem reaches_cons_iff {head entry : Entry} {rest : List Entry} {names : List String} :
    Reaches (head :: rest) names entry ↔ Reaches [head] names entry ∨ Reaches rest names entry := by
  constructor
  · intro reaches
    cases reaches with
    | here member =>
        rcases List.mem_cons.mp member with rfl | member
        · exact .inl (.here (List.mem_singleton_self _))
        · exact .inr (.here member)
    | inside member inner =>
        rcases List.mem_cons.mp member with rfl | member
        · exact .inl (.inside (List.mem_singleton_self _) inner)
        · exact .inr (.inside member inner)
  · rintro (reaches | reaches)
    · exact reaches.of_subset (by simp)
    · exact reaches.of_subset (List.subset_cons_self head rest)

/-- The way to an entry starts with the name of one of the entries it starts from. -/
theorem Reaches.exists_head {entries : List Entry} {names : List String} {entry : Entry}
    (reaches : Reaches entries names entry) :
    ∃ first ∈ entries, ∃ rest, names ++ [entry.name] = first.name :: rest := by
  cases reaches with
  | here member => exact ⟨entry, member, [], rfl⟩
  | inside member rest => exact ⟨_, member, _, rfl⟩

end Entry

/-- The tree of the file system is well-named. -/
def FileSystem.WellNamed (system : FileSystem) : Prop :=
  Entry.AllWellNamed system.entries

end SourceLines
