/-
# What a program of additions sums up

A summary is grown from nothing: outcomes are taken up one at a time or many at
once, and summaries that were grown apart are merged. The result depends on
nothing but the multiset of the outcomes that went into it, whatever the order
and the nesting of these operations. A summary tabulates a multiset of outcomes
when every one of its figures is the sum, or the number, that the outcomes give;
every operation keeps this, and no two summaries tabulate the same outcomes.

Figures are natural numbers here, so nothing is said about overflow.
-/

import Mathlib.Algebra.BigOperators.Group.Multiset.Basic
import Mathlib.Data.List.Sort
import Mathlib.Data.Multiset.Count
import Mathlib.Data.Multiset.Filter
import SourceLines.Summary.Basic

namespace SourceLines

/-- A program that makes a summary. -/
inductive Tabulation
  /-- Start with nothing. -/
  | fresh
  /-- Take up the outcome for a file. -/
  | observe (before : Tabulation) (outcome : Outcome)
  /-- Add a classified file. -/
  | add (before : Tabulation) (file : ClassifiedFile)
  /-- Count a file that was skipped. -/
  | exclude (before : Tabulation) (reason : SkipReason)
  /-- Take up outcomes one after another. -/
  | extend (before : Tabulation) (outcomes : List Outcome)
  /-- Start with nothing and take up outcomes. -/
  | collect (outcomes : List Outcome)
  /-- Put two summaries together. -/
  | merge (first second : Tabulation)

namespace Tabulation

/-- The summary that the program makes. -/
def summary : Tabulation → Summary
  | fresh => .empty
  | observe before outcome => before.summary.observe outcome
  | add before file => before.summary.add file
  | exclude before reason => before.summary.exclude reason
  | extend before outcomes => before.summary.observeAll outcomes
  | collect outcomes => .ofOutcomes outcomes
  | merge first second => first.summary.merge second.summary

/-- All outcomes that the program feeds into its summary, in no order. -/
def outcomes : Tabulation → Multiset Outcome
  | fresh => 0
  | observe before outcome => outcome ::ₘ before.outcomes
  | add before file => .classified file ::ₘ before.outcomes
  | exclude before reason => .skipped reason ::ₘ before.outcomes
  | extend before list => before.outcomes + list
  | collect list => list
  | merge first second => first.outcomes + second.outcomes

end Tabulation

/-! ## Maps and sets of labels -/

/-- Two maps that have the same under every label are equal. -/
theorem LabelMap.ext_find? {α : Type} {first second : LabelMap α}
    (alike : ∀ label, first.find? label = second.find? label) : first = second := by
  have irreflexive : Std.Irrefl fun first second : String × α => first.1 < second.1 :=
    ⟨fun entry => String.lt_irrefl entry.1⟩
  have antisymmetric : Std.Antisymm fun first second : String × α => first.1 < second.1 :=
    ⟨fun _ _ less greater => absurd greater (String.lt_asymm less)⟩
  have sameEntries : first.entries = second.entries := by
    apply first.ascending.eq_of_mem_iff second.ascending
    intro entry
    rw [mem_iff_findAmong?_eq_some first.ascending, mem_iff_findAmong?_eq_some second.ascending]
    exact iff_of_eq (congrArg (· = some entry.2) (alike entry.1))
  cases first
  cases second
  cases sameEntries
  rfl

/-- Two sets with the same labels are equal. -/
theorem LabelSet.ext_labels {first second : LabelSet}
    (alike : ∀ label, label ∈ first.labels ↔ label ∈ second.labels) : first = second := by
  apply LabelMap.ext_find?
  intro label
  have both := alike label
  rw [LabelMap.mem_labels, LabelMap.mem_labels] at both
  cases here : first.find? label <;> cases there : second.find? label <;> simp_all

/-! ## What outcomes add up to -/

/-- The sorts of files that a tally tells apart. -/
inductive FileSort
  | accepted
  | pseudoLanguage
  | dataJson
  | undetermined
  | unreadable
  deriving DecidableEq

/-- The sort of the file that had this outcome. -/
def Outcome.sort : Outcome → FileSort
  | .classified file => if file.isPseudo then .pseudoLanguage else .accepted
  | .skipped .dataJson => .dataJson
  | .skipped .undetermined => .undetermined
  | .skipped .unreadable => .unreadable

/-- How many files of a sort there were. -/
def FileTally.count (tally : FileTally) : FileSort → Nat
  | .accepted => tally.accepted
  | .pseudoLanguage => tally.pseudoLanguage
  | .dataJson => tally.dataJson
  | .undetermined => tally.undetermined
  | .unreadable => tally.unreadable

/-- The file whose counts an outcome adds to the totals, if it adds any. -/
def Outcome.accepted? : Outcome → Option ClassifiedFile
  | .classified file => if file.isPseudo then none else some file
  | .skipped _ => none

/-- The files whose counts enter the totals. -/
def acceptedFiles (outcomes : Multiset Outcome) : Multiset ClassifiedFile :=
  outcomes.filterMap Outcome.accepted?

/-- The files whose counts enter the totals under a label. -/
def filesUnder (label : String) (outcomes : Multiset Outcome) : Multiset ClassifiedFile :=
  (acceptedFiles outcomes).filter (·.label = label)

namespace LanguageTotals

/-- What some files add up to. -/
def ofFiles (files : Multiset ClassifiedFile) : LanguageTotals where
  code := (files.map (·.counts.code)).sum
  comment := (files.map (·.counts.comment)).sum
  blank := (files.map (·.counts.blank)).sum
  stringLiteral := (files.map (·.counts.stringLiteral)).sum
  files := files.card

/-- What some files add up to, unless there are none. -/
def ofFiles? (files : Multiset ClassifiedFile) : Option LanguageTotals :=
  if files = 0 then none else some (ofFiles files)

end LanguageTotals

/-- The figures of the summary are those of the outcomes. -/
structure Summary.Tabulates (summary : Summary) (outcomes : Multiset Outcome) : Prop where
  /-- A language has an entry when files were accepted under its label: the totals
  of these files. -/
  language? : ∀ label, summary.language? label = LanguageTotals.ofFiles? (filesUnder label outcomes)
  /-- The languages that were seen are those that have an entry. -/
  languages : ∀ label, label ∈ summary.languages ↔ (summary.language? label).isSome
  totalCode : summary.totalCode = ((acceptedFiles outcomes).map (·.counts.code)).sum
  totalComment : summary.totalComment = ((acceptedFiles outcomes).map (·.counts.comment)).sum
  totalBlank : summary.totalBlank = ((acceptedFiles outcomes).map (·.counts.blank)).sum
  tally : ∀ sort, summary.tally.count sort = outcomes.countP (·.sort = sort)

/-- Every outcome is of exactly one sort, so the numbers of all sorts make up the
number of outcomes. -/
theorem FileTally.filesSeen_eq_card {tally : FileTally} {outcomes : Multiset Outcome}
    (counts : ∀ sort, tally.count sort = outcomes.countP (·.sort = sort)) :
    tally.filesSeen = outcomes.card := by
  have total : outcomes.countP (·.sort = .accepted) + outcomes.countP (·.sort = .pseudoLanguage) +
      outcomes.countP (·.sort = .dataJson) + outcomes.countP (·.sort = .undetermined) +
      outcomes.countP (·.sort = .unreadable) = outcomes.card := by
    clear counts
    induction outcomes using Multiset.induction with
    | empty => rfl
    | cons outcome outcomes ih =>
        simp only [Multiset.countP_cons, Multiset.card_cons, ← ih]
        cases outcome.sort <;> simp <;> omega
  rw [← total, ← counts, ← counts, ← counts, ← counts, ← counts]
  rfl

@[simp]
theorem FileTally.count_add (first second : FileTally) (sort : FileSort) :
    (first + second).count sort = first.count sort + second.count sort := by
  cases sort <;> rfl

@[simp]
theorem FileTally.count_zero (sort : FileSort) : FileTally.zero.count sort = 0 := by
  cases sort <;> rfl

theorem FileTally.ext_count {first second : FileTally}
    (alike : ∀ sort, first.count sort = second.count sort) : first = second := by
  have accepted := alike .accepted
  have pseudoLanguage := alike .pseudoLanguage
  have dataJson := alike .dataJson
  have undetermined := alike .undetermined
  have unreadable := alike .unreadable
  cases first
  cases second
  simp_all [count]

/-! ## Which files are accepted -/

@[simp]
theorem acceptedFiles_add (first second : Multiset Outcome) :
    acceptedFiles (first + second) = acceptedFiles first + acceptedFiles second :=
  Multiset.filterMap_add ..

theorem acceptedFiles_cons_of_isPseudo {file : ClassifiedFile} (pseudo : file.isPseudo = true)
    (outcomes : Multiset Outcome) :
    acceptedFiles (.classified file ::ₘ outcomes) = acceptedFiles outcomes :=
  Multiset.filterMap_cons_none _ _ (if_pos pseudo)

theorem acceptedFiles_cons_of_not_isPseudo {file : ClassifiedFile}
    (named : ¬ file.isPseudo = true) (outcomes : Multiset Outcome) :
    acceptedFiles (.classified file ::ₘ outcomes) = file ::ₘ acceptedFiles outcomes :=
  Multiset.filterMap_cons_some _ _ _ (if_neg named)

@[simp]
theorem acceptedFiles_cons_skipped (reason : SkipReason) (outcomes : Multiset Outcome) :
    acceptedFiles (.skipped reason ::ₘ outcomes) = acceptedFiles outcomes :=
  Multiset.filterMap_cons_none _ _ rfl

/-- The files under a label are those that were classified under it, if it names a
language. -/
theorem mem_filesUnder {file : ClassifiedFile} {label : String} {outcomes : Multiset Outcome} :
    file ∈ filesUnder label outcomes ↔
      Label.isPseudo label = false ∧ .classified file ∈ outcomes ∧ file.label = label := by
  rw [filesUnder, acceptedFiles, Multiset.mem_filter, Multiset.mem_filterMap]
  constructor
  · rintro ⟨⟨outcome, member, accepted⟩, rfl⟩
    cases outcome with
    | skipped reason => cases accepted
    | classified other =>
        simp only [Outcome.accepted?, Option.ite_none_left_eq_some, Option.some.injEq] at accepted
        obtain ⟨named, rfl⟩ := accepted
        exact ⟨Bool.eq_false_of_not_eq_true named, member, rfl⟩
  · rintro ⟨named, member, rfl⟩
    exact ⟨⟨_, member, if_neg (ne_true_of_eq_false named)⟩, rfl⟩

@[simp]
theorem filesUnder_add (label : String) (first second : Multiset Outcome) :
    filesUnder label (first + second) = filesUnder label first + filesUnder label second := by
  rw [filesUnder, acceptedFiles_add, Multiset.filter_add]
  rfl

theorem filesUnder_cons_of_not_isPseudo (label : String) {file : ClassifiedFile}
    (named : ¬ file.isPseudo = true) (outcomes : Multiset Outcome) :
    filesUnder label (.classified file ::ₘ outcomes) =
      if file.label = label then file ::ₘ filesUnder label outcomes
      else filesUnder label outcomes := by
  rw [filesUnder, acceptedFiles_cons_of_not_isPseudo named, Multiset.filter_cons]
  split <;> simp [filesUnder]

/-! ## Totals of files -/

namespace LanguageTotals

@[simp]
theorem ofFiles?_zero : ofFiles? 0 = none := rfl

theorem ofFiles_add (first second : Multiset ClassifiedFile) :
    ofFiles (first + second) = ofFiles first + ofFiles second := by
  simp only [ofFiles, Multiset.map_add, Multiset.sum_add, Multiset.card_add]
  rfl

theorem isSome_ofFiles?_iff {files : Multiset ClassifiedFile} :
    (ofFiles? files).isSome ↔ ∃ file, file ∈ files := by
  by_cases empty : files = 0
  · simp [ofFiles?, empty]
  · simp [ofFiles?, empty, Multiset.exists_mem_of_ne_zero empty]

/-- Totals that are missing count for nothing. -/
theorem getD_ofFiles? (files : Multiset ClassifiedFile) :
    (ofFiles? files).getD zero = ofFiles files := by
  by_cases empty : files = 0
  · subst empty
    rfl
  · simp [ofFiles?, empty]

/-- Two groups of files add up to the sum of what each of them adds up to. -/
theorem ofFiles?_add (first second : Multiset ClassifiedFile) :
    ofFiles? (first + second) =
      match ofFiles? second with
      | some totals => some (addTo (ofFiles? first) totals)
      | none => ofFiles? first := by
  by_cases empty : second = 0
  · subst empty
    simp
  · have notEmpty : first + second ≠ 0 := by
      rw [← Multiset.card_pos, Multiset.card_add]
      exact Nat.add_pos_right _ (Multiset.card_pos.mpr empty)
    simp only [ofFiles?, if_neg empty, if_neg notEmpty, ofFiles_add]
    rw [addTo, ← ofFiles?, getD_ofFiles?]

theorem ofFiles?_cons (file : ClassifiedFile) (files : Multiset ClassifiedFile) :
    ofFiles? (file ::ₘ files) = some (addTo (ofFiles? files) (.ofCounts file.counts)) := by
  have single : ofFiles? {file} = some (.ofCounts file.counts) := by
    simp [ofFiles?, ofFiles, ofCounts]
  rw [← Multiset.singleton_add, add_comm, ofFiles?_add, single]

end LanguageTotals

/-! ## What each operation keeps -/

namespace Summary

theorem add_of_isPseudo (summary : Summary) {file : ClassifiedFile}
    (pseudo : file.isPseudo = true) :
    summary.add file =
      { summary with
        tally := { summary.tally with pseudoLanguage := summary.tally.pseudoLanguage + 1 } } :=
  if_pos pseudo

theorem add_of_not_isPseudo (summary : Summary) {file : ClassifiedFile}
    (named : ¬ file.isPseudo = true) :
    summary.add file =
      { totalCode := summary.totalCode + file.counts.code
        totalComment := summary.totalComment + file.counts.comment
        totalBlank := summary.totalBlank + file.counts.blank
        languagesSeen :=
          if summary.perLanguage.contains file.label then summary.languagesSeen
          else summary.languagesSeen.insert file.label ()
        perLanguage :=
          summary.perLanguage.alter file.label (LanguageTotals.addTo · (.ofCounts file.counts))
        tally := { summary.tally with accepted := summary.tally.accepted + 1 } } :=
  if_neg named

namespace Tabulates

variable {summary other : Summary} {outcomes others : Multiset Outcome}

theorem empty : Tabulates .empty 0 where
  language? _ := rfl
  languages label := by
    simp [Summary.languages, Summary.language?, LabelMap.mem_labels, Summary.empty]
  totalCode := rfl
  totalComment := rfl
  totalBlank := rfl
  tally sort := FileTally.count_zero sort

theorem add_pseudo (tabulates : summary.Tabulates outcomes) {file : ClassifiedFile}
    (pseudo : file.isPseudo = true) :
    (summary.add file).Tabulates (.classified file ::ₘ outcomes) := by
  rw [add_of_isPseudo summary pseudo]
  constructor <;> simp only [filesUnder, acceptedFiles_cons_of_isPseudo pseudo]
  · exact tabulates.language?
  · exact tabulates.languages
  · exact tabulates.totalCode
  · exact tabulates.totalComment
  · exact tabulates.totalBlank
  · intro sort
    rw [Multiset.countP_cons, ← tabulates.tally sort]
    cases sort <;> simp [FileTally.count, Outcome.sort, pseudo]

theorem add_accepted (tabulates : summary.Tabulates outcomes) {file : ClassifiedFile}
    (named : ¬ file.isPseudo = true) :
    (summary.add file).Tabulates (.classified file ::ₘ outcomes) := by
  rw [add_of_not_isPseudo summary named]
  constructor <;>
    simp only [acceptedFiles_cons_of_not_isPseudo named, Multiset.map_cons, Multiset.sum_cons]
  · intro label
    rw [Summary.language?, LabelMap.find?_alter, filesUnder_cons_of_not_isPseudo label named]
    by_cases same : file.label = label
    · subst same
      rw [if_pos rfl, if_pos rfl, LanguageTotals.ofFiles?_cons, ← tabulates.language?]
      rfl
    · rw [if_neg same, if_neg same, ← tabulates.language?]
      rfl
  · intro label
    rw [Summary.language?, LabelMap.find?_alter, Summary.languages]
    by_cases seen : summary.perLanguage.contains file.label = true
    · rw [if_pos seen]
      by_cases same : file.label = label
      · subst same
        rw [if_pos rfl]
        exact iff_of_true ((tabulates.languages file.label).mpr seen) rfl
      · rw [if_neg same]
        exact tabulates.languages label
    · rw [if_neg seen, LabelMap.mem_labels, LabelMap.insert, LabelMap.find?_alter]
      by_cases same : file.label = label
      · simp [same]
      · rw [if_neg same, if_neg same, ← LabelMap.mem_labels]
        exact tabulates.languages label
  · rw [tabulates.totalCode, add_comm]
  · rw [tabulates.totalComment, add_comm]
  · rw [tabulates.totalBlank, add_comm]
  · intro sort
    rw [Multiset.countP_cons, ← tabulates.tally sort]
    cases sort <;> simp [FileTally.count, Outcome.sort, named]

/-- A file that is added is one more outcome, whatever its label is. -/
theorem add (tabulates : summary.Tabulates outcomes) (file : ClassifiedFile) :
    (summary.add file).Tabulates (.classified file ::ₘ outcomes) := by
  by_cases pseudo : file.isPseudo = true
  · exact tabulates.add_pseudo pseudo
  · exact tabulates.add_accepted pseudo

/-- A file that is skipped is one more outcome and changes the tally only. -/
theorem exclude (tabulates : summary.Tabulates outcomes) (reason : SkipReason) :
    (summary.exclude reason).Tabulates (.skipped reason ::ₘ outcomes) := by
  constructor <;> rw [Summary.exclude]
  · intro label
    rw [filesUnder, acceptedFiles_cons_skipped]
    exact tabulates.language? label
  · exact tabulates.languages
  · simpa only [acceptedFiles_cons_skipped] using tabulates.totalCode
  · simpa only [acceptedFiles_cons_skipped] using tabulates.totalComment
  · simpa only [acceptedFiles_cons_skipped] using tabulates.totalBlank
  · intro sort
    rw [Multiset.countP_cons, ← tabulates.tally sort]
    cases reason <;> cases sort <;> simp [FileTally.countSkipped, FileTally.count, Outcome.sort]

theorem observe (tabulates : summary.Tabulates outcomes) (outcome : Outcome) :
    (summary.observe outcome).Tabulates (outcome ::ₘ outcomes) := by
  cases outcome with
  | classified file => exact tabulates.add file
  | skipped reason => exact tabulates.exclude reason

theorem observeAll (tabulates : summary.Tabulates outcomes) (list : List Outcome) :
    (summary.observeAll list).Tabulates (outcomes + list) := by
  induction list generalizing summary outcomes with
  | nil => simpa [Summary.observeAll] using tabulates
  | cons outcome rest ih =>
      have taken := ih (tabulates.observe outcome)
      rwa [Multiset.cons_add, ← Multiset.add_cons, Multiset.cons_coe] at taken

theorem ofOutcomes (list : List Outcome) : (Summary.ofOutcomes list).Tabulates list := by
  have taken := empty.observeAll list
  rwa [zero_add] at taken

/-- A merged summary tabulates the outcomes of both. -/
theorem merge (tabulates : summary.Tabulates outcomes) (otherTabulates : other.Tabulates others) :
    (summary.merge other).Tabulates (outcomes + others) where
  language? label := by
    rw [Summary.language?, Summary.merge, LabelMap.find?_merge, filesUnder_add,
      LanguageTotals.ofFiles?_add, ← tabulates.language?, ← otherTabulates.language?]
    unfold Summary.language?
    cases other.perLanguage.find? label <;> rfl
  languages label := by
    have first := tabulates.languages label
    have second := otherTabulates.languages label
    simp only [Summary.languages, LabelMap.mem_labels, Summary.language?] at first second ⊢
    simp only [Summary.merge, LabelMap.find?_merge]
    cases seen : other.languagesSeen.find? label <;>
      cases found : other.perLanguage.find? label <;> simp_all
  totalCode := by
    simp [Summary.merge, tabulates.totalCode, otherTabulates.totalCode]
  totalComment := by
    simp [Summary.merge, tabulates.totalComment, otherTabulates.totalComment]
  totalBlank := by
    simp [Summary.merge, tabulates.totalBlank, otherTabulates.totalBlank]
  tally sort := by
    simp [Summary.merge, tabulates.tally, otherTabulates.tally]

/-- The outcomes determine the summary. -/
theorem unique (tabulates : summary.Tabulates outcomes)
    (otherTabulates : other.Tabulates outcomes) : summary = other := by
  have sameSeen : summary.languagesSeen = other.languagesSeen := by
    apply LabelSet.ext_labels
    intro label
    rw [← Summary.languages, tabulates.languages, tabulates.language?, ← Summary.languages,
      otherTabulates.languages, otherTabulates.language?]
  have samePerLanguage : summary.perLanguage = other.perLanguage := by
    apply LabelMap.ext_find?
    intro label
    exact (tabulates.language? label).trans (otherTabulates.language? label).symm
  have sameTally : summary.tally = other.tally := by
    apply FileTally.ext_count
    intro sort
    exact (tabulates.tally sort).trans (otherTabulates.tally sort).symm
  have sameCode := tabulates.totalCode.trans otherTabulates.totalCode.symm
  have sameComment := tabulates.totalComment.trans otherTabulates.totalComment.symm
  have sameBlank := tabulates.totalBlank.trans otherTabulates.totalBlank.symm
  cases summary
  cases other
  simp_all

end Tabulates

/-- A language has an entry exactly when its label names one and some file was
classified under it. -/
theorem Tabulates.isSome_language?_iff {summary : Summary} {outcomes : Multiset Outcome}
    (tabulates : summary.Tabulates outcomes) (label : String) :
    (summary.language? label).isSome ↔
      Label.isPseudo label = false ∧ ∃ file, .classified file ∈ outcomes ∧ file.label = label := by
  simp only [tabulates.language?, LanguageTotals.isSome_ofFiles?_iff, mem_filesUnder,
    exists_and_left]

end Summary

namespace Tabulation

/-- Every program sums up what is fed into it. -/
theorem summary_tabulates (program : Tabulation) :
    program.summary.Tabulates program.outcomes := by
  induction program with
  | fresh => exact .empty
  | observe before outcome ih => exact ih.observe outcome
  | add before file ih => exact ih.add file
  | exclude before reason ih => exact ih.exclude reason
  | extend before list ih => exact ih.observeAll list
  | collect list => exact .ofOutcomes list
  | merge first second ihFirst ihSecond => exact ihFirst.merge ihSecond

/-- The summary that a program makes is the one summary with the figures of its
outcomes: a language has an entry when its label names one and files were
classified under it, and the tally takes in every outcome once. -/
theorem summary_eq_reference (program : Tabulation) :
    program.summary.Tabulates program.outcomes ∧
      (∀ label, (program.summary.language? label).isSome ↔
        Label.isPseudo label = false ∧
          ∃ file, .classified file ∈ program.outcomes ∧ file.label = label) ∧
      program.summary.tally.filesSeen = program.outcomes.card ∧
      ∀ summary : Summary, summary.Tabulates program.outcomes → summary = program.summary :=
  have tabulates := program.summary_tabulates
  ⟨tabulates, tabulates.isSome_language?_iff, FileTally.filesSeen_eq_card tabulates.tally,
    fun _ others => others.unique tabulates⟩

end Tabulation

end SourceLines
