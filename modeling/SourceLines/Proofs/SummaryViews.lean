/-
# What a summary shows agrees with itself

A summary keeps the same census several times over: totals over all files, totals for
every language, the set of the languages seen and the tally of files. Whatever program
of additions made it, these parts agree. The columns of the table of languages add up to
the totals, the table and the set list the same languages in the same order, and the
files of all languages are those that were accepted.

The one step with an argument in it exchanges two sums: a sum over the labels of a map
of the sums over the files under each label is the sum over all files, because every
accepted file stands under one label of the map. Figures are natural numbers here, so
nothing is said about overflow.
-/

import Mathlib.Algebra.BigOperators.Group.Finset.Piecewise
import Mathlib.Algebra.GroupWithZero.Nat
import SourceLines.Proofs.Tabulation

namespace SourceLines

/-! ## Labels of a map -/

namespace LabelMap

variable {α β : Type}

/-- The labels of a map are in order. -/
theorem pairwise_labels (map : LabelMap α) : map.labels.Pairwise (· < ·) :=
  List.pairwise_map.mpr map.ascending

theorem nodup_labels (map : LabelMap α) : map.labels.Nodup :=
  map.pairwise_labels.imp fun less => String.ne_of_lt less

/-- Maps that have something under the same labels have the same labels in the same order,
whatever it is that they have there. -/
theorem labels_eq_of_mem_iff {first : LabelMap α} {second : LabelMap β}
    (alike : ∀ label, label ∈ first.labels ↔ label ∈ second.labels) :
    first.labels = second.labels := by
  have irreflexive : Std.Irrefl fun first second : String => first < second :=
    ⟨String.lt_irrefl⟩
  have antisymmetric : Std.Antisymm fun first second : String => first < second :=
    ⟨fun _ _ less greater => absurd greater (String.lt_asymm less)⟩
  exact first.pairwise_labels.eq_of_mem_iff second.pairwise_labels alike

theorem mem_entries_iff {map : LabelMap α} {label : String} {value : α} :
    (label, value) ∈ map.entries ↔ map.find? label = some value :=
  mem_iff_findAmong?_eq_some map.ascending

/-- A column of a map is a list over its labels, if it can be told from the label. -/
theorem map_entries_eq_map_labels {map : LabelMap α} {column : α → β} {told : String → β}
    (tells : ∀ label value, map.find? label = some value → column value = told label) :
    (map.entries.map fun entry => column entry.2) = map.labels.map told := by
  rw [labels, List.map_map]
  apply List.map_congr_left
  intro entry member
  exact tells entry.1 entry.2 (mem_entries_iff.mp member)

end LabelMap

/-! ## Sums over labels and over files -/

/-- Labels that occur once, and among which those of all files are, divide the files: a
figure summed up under each label, and then over the labels, is summed up over the files. -/
theorem sum_map_filter_label (figure : ClassifiedFile → Nat) {labels : List String}
    (distinct : labels.Nodup) {files : Multiset ClassifiedFile}
    (within : ∀ file ∈ files, file.label ∈ labels) :
    (labels.map fun label => ((files.filter (·.label = label)).map figure).sum).sum =
      (files.map figure).sum := by
  rw [← List.sum_toFinset _ distinct]
  induction files using Multiset.induction with
  | empty => simp
  | cons file files ih =>
      have here : file.label ∈ labels.toFinset :=
        List.mem_toFinset.mpr (within file (Multiset.mem_cons_self file files))
      have others : ∀ other ∈ files, other.label ∈ labels := by
        intro other member
        exact within other (Multiset.mem_cons_of_mem member)
      have divided (label : String) :
          (((file ::ₘ files).filter (·.label = label)).map figure).sum =
            (if file.label = label then figure file else 0) +
              ((files.filter (·.label = label)).map figure).sum := by
        rw [Multiset.filter_cons, Multiset.map_add, Multiset.sum_add]
        split <;> simp
      simp only [divided, Finset.sum_add_distrib, ih others, Multiset.map_cons, Multiset.sum_cons]
      rw [Finset.sum_ite_eq, if_pos here]

/-- The files whose counts enter the totals are those that are tallied as accepted. -/
theorem card_acceptedFiles (outcomes : Multiset Outcome) :
    (acceptedFiles outcomes).card = outcomes.countP (·.sort = .accepted) := by
  induction outcomes using Multiset.induction with
  | empty => rfl
  | cons outcome outcomes ih =>
      rw [Multiset.countP_cons, ← ih]
      cases outcome with
      | skipped reason =>
          rw [acceptedFiles_cons_skipped]
          cases reason <;> simp [Outcome.sort]
      | classified file =>
          by_cases pseudo : file.isPseudo = true
          · simp [acceptedFiles_cons_of_isPseudo pseudo, Outcome.sort, pseudo]
          · simp [acceptedFiles_cons_of_not_isPseudo pseudo, Outcome.sort, pseudo]

theorem LanguageTotals.ofFiles?_eq_some_iff {files : Multiset ClassifiedFile}
    {totals : LanguageTotals} :
    ofFiles? files = some totals ↔ files ≠ 0 ∧ ofFiles files = totals := by
  rw [ofFiles?, Option.ite_none_left_eq_some, Option.some.injEq]

/-! ## What is shown -/

namespace Summary

/-- The parts of a summary that a report shows agree with one another. -/
structure IsConsistent (summary : Summary) : Prop where
  code : (summary.breakdown.map (·.code)).sum = summary.totalCode
  comment : (summary.breakdown.map (·.comment)).sum = summary.totalComment
  blank : (summary.breakdown.map (·.blank)).sum = summary.totalBlank
  /-- The table is in the order of its labels, and no label stands there twice. -/
  ascending : (summary.breakdown.map (·.language)).Pairwise (· < ·)
  /-- The table and the set of languages seen list the same labels. -/
  languages : summary.breakdown.map (·.language) = summary.languages
  languagesLine :
    summary.languagesLine = ", ".intercalate (summary.breakdown.map (·.language))
  /-- The files of all languages are the accepted ones. -/
  files : (summary.perLanguage.entries.map fun entry => entry.2.files).sum =
    summary.tally.accepted
  /-- What is listed names a language, and files were counted under it. -/
  listed : ∀ label ∈ summary.languages, Label.isPseudo label = false ∧
    ∃ totals, summary.language? label = some totals ∧ 0 < totals.files
  isEmpty : summary.isEmpty = true ↔ summary.tally.accepted = 0

namespace Tabulates

variable {summary : Summary} {outcomes : Multiset Outcome}

theorem labels_perLanguage (tabulates : summary.Tabulates outcomes) :
    summary.perLanguage.labels = summary.languages := by
  apply LabelMap.labels_eq_of_mem_iff
  intro label
  rw [LabelMap.mem_labels]
  exact (tabulates.languages label).symm

/-- A figure of the totals of languages that sums up a figure of files is, over all
languages, summed up over all accepted files. -/
theorem sum_entries (tabulates : summary.Tabulates outcomes) (column : LanguageTotals → Nat)
    {figure : ClassifiedFile → Nat}
    (sums : ∀ files, column (.ofFiles files) = (files.map figure).sum) :
    (summary.perLanguage.entries.map fun entry => column entry.2).sum =
      ((acceptedFiles outcomes).map figure).sum := by
  have told : ∀ label totals, summary.perLanguage.find? label = some totals →
      column totals = ((filesUnder label outcomes).map figure).sum := by
    intro label totals found
    have sameTotals := (tabulates.language? label).symm.trans found
    rw [← (LanguageTotals.ofFiles?_eq_some_iff.mp sameTotals).2, sums]
  have within : ∀ file ∈ acceptedFiles outcomes, file.label ∈ summary.perLanguage.labels := by
    intro file accepted
    rw [LabelMap.mem_labels, ← Summary.language?, tabulates.language?,
      LanguageTotals.isSome_ofFiles?_iff]
    exact ⟨file, Multiset.mem_filter.mpr ⟨accepted, rfl⟩⟩
  rw [LabelMap.map_entries_eq_map_labels told]
  exact sum_map_filter_label figure summary.perLanguage.nodup_labels within

theorem accepted_eq_card (tabulates : summary.Tabulates outcomes) :
    summary.tally.accepted = (acceptedFiles outcomes).card :=
  (tabulates.tally .accepted).trans (card_acceptedFiles outcomes).symm

/-- A language that is listed has an entry, with the files that were classified under it. -/
theorem listed (tabulates : summary.Tabulates outcomes) {label : String}
    (member : label ∈ summary.languages) :
    Label.isPseudo label = false ∧
      ∃ totals, summary.language? label = some totals ∧ 0 < totals.files := by
  have found := (tabulates.languages label).mp member
  obtain ⟨totals, here⟩ := Option.isSome_iff_exists.mp found
  have sameTotals := (tabulates.language? label).symm.trans here
  obtain ⟨notEmpty, rfl⟩ := LanguageTotals.ofFiles?_eq_some_iff.mp sameTotals
  exact ⟨((tabulates.isSome_language?_iff label).mp found).1, _, here,
    Multiset.card_pos.mpr notEmpty⟩

/-- No language has an entry exactly when no file was accepted. -/
theorem isEmpty_iff (tabulates : summary.Tabulates outcomes) :
    summary.isEmpty = true ↔ summary.tally.accepted = 0 := by
  rw [Summary.isEmpty, LabelMap.isEmpty, List.isEmpty_iff, tabulates.accepted_eq_card,
    Multiset.card_eq_zero]
  constructor
  · intro empty
    rw [Multiset.eq_zero_iff_forall_notMem]
    intro file accepted
    have found : (summary.language? file.label).isSome := by
      rw [tabulates.language?, LanguageTotals.isSome_ofFiles?_iff]
      exact ⟨file, Multiset.mem_filter.mpr ⟨accepted, rfl⟩⟩
    rw [Summary.language?, ← LabelMap.mem_labels, LabelMap.labels, empty] at found
    cases found
  · intro none
    rw [List.eq_nil_iff_forall_not_mem]
    intro entry member
    have found : summary.language? entry.1 = some entry.2 := LabelMap.mem_entries_iff.mp member
    rw [tabulates.language?] at found
    apply (LanguageTotals.ofFiles?_eq_some_iff.mp found).1
    rw [filesUnder, none]
    rfl

/-- A summary that tabulates outcomes shows one and the same census in all its parts. -/
theorem isConsistent (tabulates : summary.Tabulates outcomes) : summary.IsConsistent := by
  have labels : summary.breakdown.map (·.language) = summary.perLanguage.labels := by
    rw [breakdown, List.map_map]
    rfl
  have column (figure : LanguageRow → Nat) :
      summary.breakdown.map figure = summary.perLanguage.entries.map fun entry =>
        figure ⟨entry.1, entry.2.code, entry.2.comment, entry.2.blank⟩ := by
    rw [breakdown, List.map_map]
    rfl
  constructor
  · rw [column, tabulates.totalCode]
    exact tabulates.sum_entries (·.code) fun files => rfl
  · rw [column, tabulates.totalComment]
    exact tabulates.sum_entries (·.comment) fun files => rfl
  · rw [column, tabulates.totalBlank]
    exact tabulates.sum_entries (·.blank) fun files => rfl
  · rw [labels]
    exact summary.perLanguage.pairwise_labels
  · rw [labels, tabulates.labels_perLanguage]
  · rw [labels, tabulates.labels_perLanguage, Summary.languagesLine]
  · have counted : ∀ files, (LanguageTotals.ofFiles files).files = (files.map fun _ => 1).sum := by
      intro files
      simp [LanguageTotals.ofFiles]
    rw [tabulates.accepted_eq_card, tabulates.sum_entries (·.files) counted]
    simp
  · exact fun label => tabulates.listed
  · exact tabulates.isEmpty_iff

end Tabulates

end Summary

namespace Tabulation

/-- Every program of additions makes a summary whose parts agree. -/
theorem summary_isConsistent (program : Tabulation) : program.summary.IsConsistent :=
  program.summary_tabulates.isConsistent

end Tabulation

end SourceLines
