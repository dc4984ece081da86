/-
# All sums of a census fit into 64 bits

Figures are natural numbers in this library. A program that keeps them in words of 64
bits goes wrong as soon as one of its sums does not fit, be it a sum on the way to a
result that nobody sees. Here every addition is noted, with its sum, by operations that
otherwise do what the operations on summaries do. When the figures of all outcomes
together fit into 64 bits, so does every sum that any program of additions forms, in
whatever order, shares and merges it takes up the outcomes.

What carries the proof is that an operation forms no sums but figures of the summary that
it makes. A summary of some of the outcomes has no greater figures than one of all of
them, so nothing has to be known about the programs.
-/

import SourceLines.Proofs.DirectoryReports
import SourceLines.Proofs.ReportRoundTrip
import SourceLines.Proofs.SummaryViews

namespace SourceLines

/-! ## Noting sums -/

/-- A result, together with the sums that were formed on the way to it, in their order. -/
structure Noted (α : Type) where
  value : α
  sums : List Nat

namespace Noted

variable {α β : Type}

instance : Monad Noted where
  pure value := ⟨value, []⟩
  bind first next := ⟨(next first.value).value, first.sums ++ (next first.value).sums⟩

/-- Two figures are added. In the operations below figures are added in no other way. -/
def plus (first second : Nat) : Noted Nat :=
  ⟨first + second, [first + second]⟩

theorem value_pure (value : α) : (pure value : Noted α).value = value := rfl

theorem sums_pure (value : α) : (pure value : Noted α).sums = [] := rfl

theorem value_bind (first : Noted α) (next : α → Noted β) :
    (first >>= next).value = (next first.value).value := rfl

theorem sums_bind (first : Noted α) (next : α → Noted β) :
    (first >>= next).sums = first.sums ++ (next first.value).sums := rfl

/-- Steps of which each has the value of a plain step make up a plain loop. -/
theorem value_foldlM {step : β → α → Noted β} {plain : β → α → β}
    (value : ∀ state item, (step state item).value = plain state item) (list : List α)
    (state : β) : (list.foldlM step state).value = list.foldl plain state := by
  induction list generalizing state with
  | nil => rfl
  | cons item rest ih => rw [List.foldlM_cons, value_bind, ih, value, List.foldl_cons]

end Noted

open Noted (plus)

/-! ## Operations that note their sums -/

/-- Totals are added, field by field. -/
def LanguageTotals.notedAdd (first second : LanguageTotals) : Noted LanguageTotals := do
  let code ← plus first.code second.code
  let comment ← plus first.comment second.comment
  let blank ← plus first.blank second.blank
  let stringLiteral ← plus first.stringLiteral second.stringLiteral
  let files ← plus first.files second.files
  return { code, comment, blank, stringLiteral, files }

namespace FileTally

/-- Tallies are added, sort by sort. -/
def notedAdd (first second : FileTally) : Noted FileTally := do
  let accepted ← plus first.accepted second.accepted
  let pseudoLanguage ← plus first.pseudoLanguage second.pseudoLanguage
  let dataJson ← plus first.dataJson second.dataJson
  let undetermined ← plus first.undetermined second.undetermined
  let unreadable ← plus first.unreadable second.unreadable
  return { accepted, pseudoLanguage, dataJson, undetermined, unreadable }

/-- The files of all sorts are added up, one sort after another. -/
def notedFilesSeen (tally : FileTally) : Noted Nat := do
  let files ← plus tally.accepted tally.pseudoLanguage
  let files ← plus files tally.dataJson
  let files ← plus files tally.undetermined
  plus files tally.unreadable

/-- One more skipped file is counted. -/
def notedCountSkipped (tally : FileTally) : SkipReason → Noted FileTally
  | .dataJson => do return { tally with dataJson := ← plus tally.dataJson 1 }
  | .undetermined => do return { tally with undetermined := ← plus tally.undetermined 1 }
  | .unreadable => do return { tally with unreadable := ← plus tally.unreadable 1 }

end FileTally

/-- Totals are added to those that a map may have under a label. -/
def LabelMap.notedAddAt (map : LabelMap LanguageTotals) (label : String)
    (totals : LanguageTotals) : Noted (LabelMap LanguageTotals) := do
  let sum ← ((map.find? label).getD .zero).notedAdd totals
  return map.insert label sum

/-- Totals under several labels are added, one after another. -/
def LabelMap.notedAddAll (map : LabelMap LanguageTotals)
    (entries : List (String × LanguageTotals)) : Noted (LabelMap LanguageTotals) :=
  entries.foldlM (fun map entry => map.notedAddAt entry.1 entry.2) map

namespace Summary

/-- A classified file is added: to the totals of its language, and to those of all. -/
def notedAdd (summary : Summary) (file : ClassifiedFile) : Noted Summary :=
  if file.isPseudo then do
    let pseudoLanguage ← plus summary.tally.pseudoLanguage 1
    return { summary with tally := { summary.tally with pseudoLanguage } }
  else do
    let languagesSeen :=
      if summary.perLanguage.contains file.label then summary.languagesSeen
      else summary.languagesSeen.insert file.label ()
    let perLanguage ← summary.perLanguage.notedAddAt file.label (.ofCounts file.counts)
    let totalCode ← plus summary.totalCode file.counts.code
    let totalComment ← plus summary.totalComment file.counts.comment
    let totalBlank ← plus summary.totalBlank file.counts.blank
    let accepted ← plus summary.tally.accepted 1
    return { totalCode, totalComment, totalBlank, languagesSeen, perLanguage,
             tally := { summary.tally with accepted } }

/-- A skipped file is counted. -/
def notedExclude (summary : Summary) (reason : SkipReason) : Noted Summary := do
  return { summary with tally := ← summary.tally.notedCountSkipped reason }

/-- The outcome for a file is added. -/
def notedObserve (summary : Summary) : Outcome → Noted Summary
  | .classified file => summary.notedAdd file
  | .skipped reason => summary.notedExclude reason

/-- Outcomes are added one after another. -/
def notedObserveAll (summary : Summary) (outcomes : List Outcome) : Noted Summary :=
  outcomes.foldlM notedObserve summary

/-- Two summaries are merged, language by language and total by total. -/
def notedMerge (summary other : Summary) : Noted Summary := do
  let perLanguage ← summary.perLanguage.notedAddAll other.perLanguage.entries
  let languagesSeen := summary.languagesSeen.merge (fun _ seen => seen) other.languagesSeen
  let totalCode ← plus summary.totalCode other.totalCode
  let totalComment ← plus summary.totalComment other.totalComment
  let totalBlank ← plus summary.totalBlank other.totalBlank
  let tally ← summary.tally.notedAdd other.tally
  return { totalCode, totalComment, totalBlank, languagesSeen, perLanguage, tally }

end Summary

/-- The summary that the program makes, with all sums that it forms. -/
def Tabulation.notedSummary : Tabulation → Noted Summary
  | fresh => pure .empty
  | observe before outcome => do (← before.notedSummary).notedObserve outcome
  | add before file => do (← before.notedSummary).notedAdd file
  | exclude before reason => do (← before.notedSummary).notedExclude reason
  | extend before outcomes => do (← before.notedSummary).notedObserveAll outcomes
  | collect outcomes => Summary.empty.notedObserveAll outcomes
  | merge first second => do (← first.notedSummary).notedMerge (← second.notedSummary)

namespace ReportTotals

/-- One more row is recorded. -/
def notedRecord (totals : ReportTotals) (row : DirectoryRow) : Noted ReportTotals :=
  match row.status with
  | .ok => do
      let code ← plus totals.code row.summary.totalCode
      let comment ← plus totals.comment row.summary.totalComment
      let blank ← plus totals.blank row.summary.totalBlank
      let directoriesOk ← plus totals.directoriesOk 1
      return { totals with code, comment, blank, directoriesOk }
  | .failed _ => do
      return { totals with directoriesFailed := ← plus totals.directoriesFailed 1 }

/-- Rows are recorded one after another. -/
def notedRecordAll (totals : ReportTotals) (rows : List DirectoryRow) : Noted ReportTotals :=
  rows.foldlM notedRecord totals

end ReportTotals

/-! ## Nothing else is different -/

theorem LanguageTotals.notedAdd_eq (first second : LanguageTotals) :
    first.notedAdd second = ⟨first + second, (first + second).figures⟩ := rfl

namespace FileTally

theorem notedAdd_eq (first second : FileTally) :
    first.notedAdd second = ⟨first + second, (first + second).figures⟩ := rfl

theorem value_notedFilesSeen (tally : FileTally) :
    tally.notedFilesSeen.value = tally.filesSeen := rfl

theorem value_notedCountSkipped (tally : FileTally) (reason : SkipReason) :
    (tally.notedCountSkipped reason).value = tally.countSkipped reason := by
  cases reason <;> rfl

end FileTally

namespace LabelMap

/-- To put something in the place of what a map has under a label is to alter it. -/
theorem insert_eq_alter {α : Type} (map : LabelMap α) (label : String) (f : Option α → α) :
    map.insert label (f (map.find? label)) = map.alter label f := by
  apply ext_find?
  intro other
  rw [insert, find?_alter, find?_alter]

theorem notedAddAt_eq (map : LabelMap LanguageTotals) (label : String)
    (totals : LanguageTotals) :
    map.notedAddAt label totals =
      ⟨map.alter label (LanguageTotals.addTo · totals),
        (LanguageTotals.addTo (map.find? label) totals).figures⟩ := by
  rw [notedAddAt, LanguageTotals.notedAdd_eq,
    ← insert_eq_alter map label (LanguageTotals.addTo · totals)]
  rfl

theorem value_notedAddAll (map other : LabelMap LanguageTotals) :
    (map.notedAddAll other.entries).value = map.merge LanguageTotals.addTo other := by
  apply Noted.value_foldlM
  intro map entry
  rw [notedAddAt_eq]

end LabelMap

namespace Summary

theorem value_notedAdd (summary : Summary) (file : ClassifiedFile) :
    (summary.notedAdd file).value = summary.add file := by
  by_cases pseudo : file.isPseudo = true
  · rw [notedAdd, if_pos pseudo, add_of_isPseudo summary pseudo]
    rfl
  · rw [notedAdd, if_neg pseudo, add_of_not_isPseudo summary pseudo, LabelMap.notedAddAt_eq]
    rfl

theorem value_notedObserve (summary : Summary) (outcome : Outcome) :
    (summary.notedObserve outcome).value = summary.observe outcome := by
  cases outcome with
  | classified file => exact summary.value_notedAdd file
  | skipped reason =>
      exact congrArg (Summary.mk _ _ _ _ _) (summary.tally.value_notedCountSkipped reason)

theorem value_notedObserveAll (summary : Summary) (outcomes : List Outcome) :
    (summary.notedObserveAll outcomes).value = summary.observeAll outcomes :=
  Noted.value_foldlM value_notedObserve outcomes summary

theorem value_notedMerge (summary other : Summary) :
    (summary.notedMerge other).value = summary.merge other := by
  have perLanguage := summary.perLanguage.value_notedAddAll other.perLanguage
  simp only [notedMerge, Noted.value_bind, Noted.value_pure, perLanguage, FileTally.notedAdd_eq]
  rfl

end Summary

theorem Tabulation.value_notedSummary (program : Tabulation) :
    program.notedSummary.value = program.summary := by
  induction program with
  | fresh => rfl
  | observe before outcome ih =>
      rw [notedSummary, Noted.value_bind, ih, Summary.value_notedObserve, summary]
  | add before file ih => rw [notedSummary, Noted.value_bind, ih, Summary.value_notedAdd, summary]
  | exclude before reason ih =>
      rw [notedSummary, Noted.value_bind, ih]
      exact Summary.value_notedObserve _ (.skipped reason)
  | extend before outcomes ih =>
      rw [notedSummary, Noted.value_bind, ih, Summary.value_notedObserveAll, summary]
  | collect outcomes => exact Summary.value_notedObserveAll _ outcomes
  | merge first second ihFirst ihSecond =>
      rw [notedSummary, Noted.value_bind, Noted.value_bind, ihFirst, ihSecond,
        Summary.value_notedMerge, summary]

namespace ReportTotals

theorem value_notedRecord (totals : ReportTotals) (row : DirectoryRow) :
    (totals.notedRecord row).value = totals.record row := by
  unfold notedRecord record
  cases row.status <;> rfl

theorem value_notedRecordAll (totals : ReportTotals) (rows : List DirectoryRow) :
    (totals.notedRecordAll rows).value = rows.foldl record totals :=
  Noted.value_foldlM value_notedRecord rows totals

end ReportTotals

/-! ## Which sums are formed -/

/-- All files are at least those of some sorts. -/
theorem FileTally.le_filesSeen_of_mem_sums {tally : FileTally} {sum : Nat}
    (formed : sum ∈ tally.notedFilesSeen.sums) : sum ≤ tally.filesSeen := by
  have sums : tally.notedFilesSeen.sums =
      [ tally.accepted + tally.pseudoLanguage,
        tally.accepted + tally.pseudoLanguage + tally.dataJson,
        tally.accepted + tally.pseudoLanguage + tally.dataJson + tally.undetermined,
        tally.filesSeen ] := rfl
  simp only [sums, List.mem_cons, List.not_mem_nil, or_false] at formed
  unfold filesSeen at formed ⊢
  omega

/-- The sums that are formed for some labels are figures of their totals, added to what
the map has had there from the start. No total is added to twice, because a label stands
only once in a list in order. -/
theorem LabelMap.sums_notedAddAll {entries : List (String × LanguageTotals)}
    (ordered : entries.Pairwise fun first second => first.1 < second.1)
    (map : LabelMap LanguageTotals) :
    (map.notedAddAll entries).sums =
      entries.flatMap fun entry => (LanguageTotals.addTo (map.find? entry.1) entry.2).figures := by
  induction entries generalizing map with
  | nil => rfl
  | cons entry rest ih =>
      obtain ⟨above, restOrdered⟩ := List.pairwise_cons.mp ordered
      rw [notedAddAll, List.foldlM_cons, Noted.sums_bind, notedAddAt_eq, ← notedAddAll,
        ih restOrdered, List.flatMap_cons]
      congr 1
      -- What was added under the first label is not seen under the labels behind it.
      apply List.flatMap_congr
      intro other member
      have different : entry.1 ≠ other.1 := String.ne_of_lt (above other member)
      rw [find?_alter, if_neg different]

/-- The figures of a tally are the numbers of files of all sorts. -/
theorem FileTally.mem_figures_iff {tally : FileTally} {figure : Nat} :
    figure ∈ tally.figures ↔ ∃ sort, tally.count sort = figure := by
  constructor
  · intro member
    simp only [figures, List.mem_cons, List.not_mem_nil, or_false] at member
    obtain rfl | rfl | rfl | rfl | rfl := member
    · exact ⟨.accepted, rfl⟩
    · exact ⟨.pseudoLanguage, rfl⟩
    · exact ⟨.dataJson, rfl⟩
    · exact ⟨.undetermined, rfl⟩
    · exact ⟨.unreadable, rfl⟩
  · rintro ⟨sort, rfl⟩
    cases sort <;> simp [figures, count]

namespace Summary

variable {summary : Summary}

theorem figures_subset_of_language? {label : String} {totals : LanguageTotals}
    (found : summary.language? label = some totals) : totals.figures ⊆ summary.figures := by
  intro figure member
  have entry : (label, totals) ∈ summary.perLanguage.entries := LabelMap.mem_entries_iff.mpr found
  exact List.mem_append_left _ (List.mem_append_right _ (List.mem_flatMap.mpr ⟨_, entry, member⟩))

theorem count_subset_figures (summary : Summary) (sort : FileSort) :
    [summary.tally.count sort] ⊆ summary.figures := by
  rw [List.cons_subset]
  exact ⟨List.mem_append_right _ (FileTally.mem_figures_iff.mpr ⟨sort, rfl⟩), List.nil_subset _⟩

theorem totals_subset_figures (summary : Summary) :
    [summary.totalCode, summary.totalComment, summary.totalBlank] ⊆ summary.figures := by
  rw [figures, List.append_assoc]
  exact List.subset_append_left _ _

/-- The sums that are formed when a file is added are figures of the new summary. -/
theorem sums_notedAdd_subset (summary : Summary) (file : ClassifiedFile) :
    (summary.notedAdd file).sums ⊆ (summary.add file).figures := by
  by_cases pseudo : file.isPseudo = true
  · have sums : (summary.notedAdd file).sums =
        [(summary.add file).tally.count .pseudoLanguage] := by
      rw [notedAdd, if_pos pseudo, add_of_isPseudo summary pseudo]
      rfl
    rw [sums]
    exact count_subset_figures _ _
  · have language : (summary.add file).language? file.label = some
        (LanguageTotals.addTo (summary.perLanguage.find? file.label) (.ofCounts file.counts)) := by
      rw [add_of_not_isPseudo summary pseudo, language?, LabelMap.find?_alter, if_pos rfl]
    have sums : (summary.notedAdd file).sums =
        (LanguageTotals.addTo (summary.perLanguage.find? file.label)
          (.ofCounts file.counts)).figures ++
          ([(summary.add file).totalCode, (summary.add file).totalComment,
            (summary.add file).totalBlank] ++ [(summary.add file).tally.count .accepted]) := by
      rw [notedAdd, if_neg pseudo, add_of_not_isPseudo summary pseudo, LabelMap.notedAddAt_eq]
      rfl
    rw [sums, List.append_subset, List.append_subset]
    exact ⟨figures_subset_of_language? language, totals_subset_figures _, count_subset_figures _ _⟩

theorem sums_notedExclude_subset (summary : Summary) (reason : SkipReason) :
    (summary.notedExclude reason).sums ⊆ (summary.exclude reason).figures := by
  cases reason with
  | dataJson => exact count_subset_figures (summary.exclude .dataJson) .dataJson
  | undetermined => exact count_subset_figures (summary.exclude .undetermined) .undetermined
  | unreadable => exact count_subset_figures (summary.exclude .unreadable) .unreadable

/-- The sums that are formed for an outcome are figures of the new summary. -/
theorem sums_notedObserve_subset (summary : Summary) (outcome : Outcome) :
    (summary.notedObserve outcome).sums ⊆ (summary.observe outcome).figures := by
  cases outcome with
  | classified file => exact summary.sums_notedAdd_subset file
  | skipped reason => exact summary.sums_notedExclude_subset reason

/-- The sums that are formed in a merge are figures of the merged summary. -/
theorem sums_notedMerge_subset (summary other : Summary) :
    (summary.notedMerge other).sums ⊆ (summary.merge other).figures := by
  have sums : (summary.notedMerge other).sums =
      (summary.perLanguage.notedAddAll other.perLanguage.entries).sums ++
        ([(summary.merge other).totalCode, (summary.merge other).totalComment,
          (summary.merge other).totalBlank] ++ (summary.merge other).tally.figures) := rfl
  rw [sums, LabelMap.sums_notedAddAll other.perLanguage.ascending, List.append_subset,
    List.append_subset]
  refine ⟨?_, totals_subset_figures _, List.subset_append_right _ _⟩
  intro sum formed
  obtain ⟨entry, member, formed⟩ := List.mem_flatMap.mp formed
  have language : (summary.merge other).language? entry.1 =
      some (LanguageTotals.addTo (summary.perLanguage.find? entry.1) entry.2) := by
    rw [language?, merge, LabelMap.find?_merge, LabelMap.mem_entries_iff.mp member]
  exact figures_subset_of_language? language formed

end Summary

/-! ## Figures that fit -/

theorem Fit.of_subset {first second : List Nat} (fit : Fit second) (within : first ⊆ second) :
    Fit first :=
  fun figure member => fit figure (within member)

/-- Figures fit that are at most as great as figures that fit. -/
theorem Fit.of_le {first second : List Nat} (fit : Fit second)
    (less : List.Forall₂ (· ≤ ·) first second) : Fit first := by
  induction less with
  | nil => exact fit
  | cons less _ ih =>
      unfold Fit at fit ih ⊢
      rw [List.forall_mem_cons] at fit ⊢
      exact ⟨less.trans_lt fit.1, ih fit.2⟩

/-- The sums of two steps fit if those of each of them do. -/
theorem Noted.fit_bind {α β : Type} {first : Noted α} {next : α → Noted β} {value : α}
    (same : first.value = value) (now : Fit first.sums) (later : Fit (next value).sums) :
    Fit (first >>= next).sums := by
  rw [sums_bind, same]
  exact List.forall_mem_append.mpr ⟨now, later⟩

theorem LanguageTotals.fit_of_add {first second : LanguageTotals}
    (fit : Fit (first + second).figures) : Fit first.figures :=
  fit.of_le <| .cons (Nat.le_add_right ..) <| .cons (Nat.le_add_right ..) <|
    .cons (Nat.le_add_right ..) <| .cons (Nat.le_add_right ..) <|
    .cons (Nat.le_add_right ..) .nil

theorem ReportTotals.fit_of_add {first second : ReportTotals}
    (fit : Fit (first + second).figures) : Fit first.figures :=
  fit.of_le <| .cons (Nat.le_add_right ..) <| .cons (Nat.le_add_right ..) <|
    .cons (Nat.le_add_right ..) <| .cons (Nat.le_add_right ..) <|
    .cons (Nat.le_add_right ..) .nil

/-- The files under a label do not add up to more than all accepted files. -/
theorem LanguageTotals.fit_ofFiles_filesUnder {outcomes : Multiset Outcome}
    (fit : Fit (ofFiles (acceptedFiles outcomes)).figures) (label : String) :
    Fit (ofFiles (filesUnder label outcomes)).figures := by
  rw [← Multiset.filter_add_not (·.label = label) (acceptedFiles outcomes), ofFiles_add] at fit
  exact fit_of_add fit

/-- What outcomes add up to fits into 64 bits: the totals of every language, those of all
languages together, and the number of the outcomes. -/
structure FiguresFit (outcomes : Multiset Outcome) : Prop where
  languages : ∀ label, Fit (LanguageTotals.ofFiles (filesUnder label outcomes)).figures
  code : ((acceptedFiles outcomes).map (·.counts.code)).sum < UInt64.size
  comment : ((acceptedFiles outcomes).map (·.counts.comment)).sum < UInt64.size
  blank : ((acceptedFiles outcomes).map (·.counts.blank)).sum < UInt64.size
  number : outcomes.card < UInt64.size

/-- Some of the outcomes do not add up to more than all of them. -/
theorem FiguresFit.of_le {part outcomes : Multiset Outcome} (fits : FiguresFit outcomes)
    (among : part ≤ outcomes) : FiguresFit part := by
  obtain ⟨others, rfl⟩ := Multiset.le_iff_exists_add.mp among
  have ⟨languages, code, comment, blank, number⟩ := fits
  simp only [filesUnder_add, LanguageTotals.ofFiles_add, acceptedFiles_add, Multiset.map_add,
    Multiset.sum_add, Multiset.card_add] at languages code comment blank number
  exact ⟨fun label => LanguageTotals.fit_of_add (languages label),
    (Nat.le_add_right ..).trans_lt code, (Nat.le_add_right ..).trans_lt comment,
    (Nat.le_add_right ..).trans_lt blank, (Nat.le_add_right ..).trans_lt number⟩

namespace Summary.Tabulates

variable {summary other : Summary} {outcomes others : Multiset Outcome}

/-- The figures of a summary fit if those of its outcomes do. -/
theorem fit_figures (tabulates : summary.Tabulates outcomes) (fits : FiguresFit outcomes) :
    Fit summary.figures := by
  intro figure member
  rw [figures, List.mem_append, List.mem_append, List.mem_flatMap] at member
  obtain (total | ⟨entry, among, ofEntry⟩) | ofTally := member
  · simp only [List.mem_cons, List.not_mem_nil, or_false, tabulates.totalCode,
      tabulates.totalComment, tabulates.totalBlank] at total
    obtain rfl | rfl | rfl := total
    · exact fits.code
    · exact fits.comment
    · exact fits.blank
  · have found : summary.language? entry.1 = some entry.2 := LabelMap.mem_entries_iff.mp among
    rw [tabulates.language?] at found
    have totals := (LanguageTotals.ofFiles?_eq_some_iff.mp found).2
    exact fits.languages entry.1 figure (totals ▸ ofEntry)
  · obtain ⟨sort, rfl⟩ := FileTally.mem_figures_iff.mp ofTally
    rw [tabulates.tally]
    exact (Multiset.countP_le_card ..).trans_lt fits.number

/-- The sums that are formed for one more outcome fit. -/
theorem fit_notedObserve (tabulates : summary.Tabulates outcomes) {outcome : Outcome}
    (fits : FiguresFit (outcome ::ₘ outcomes)) : Fit (summary.notedObserve outcome).sums :=
  ((tabulates.observe outcome).fit_figures fits).of_subset
    (summary.sums_notedObserve_subset outcome)

theorem fit_notedObserveAll (tabulates : summary.Tabulates outcomes) {list : List Outcome}
    (fits : FiguresFit (outcomes + list)) : Fit (summary.notedObserveAll list).sums := by
  induction list generalizing summary outcomes with
  | nil =>
      intro sum formed
      cases formed
  | cons outcome rest ih =>
      rw [← Multiset.cons_coe, Multiset.add_cons, ← Multiset.cons_add] at fits
      have now := tabulates.fit_notedObserve (fits.of_le (Multiset.le_add_right ..))
      have later := ih (tabulates.observe outcome) fits
      rw [notedObserveAll, List.foldlM_cons]
      exact Noted.fit_bind (summary.value_notedObserve outcome) now later

theorem fit_notedMerge (tabulates : summary.Tabulates outcomes)
    (otherTabulates : other.Tabulates others) (fits : FiguresFit (outcomes + others)) :
    Fit (summary.notedMerge other).sums :=
  ((tabulates.merge otherTabulates).fit_figures fits).of_subset
    (summary.sums_notedMerge_subset other)

end Summary.Tabulates

/-- The sums that are formed to tell how many files were seen fit. -/
theorem Summary.Tabulates.fit_notedFilesSeen {summary : Summary} {outcomes : Multiset Outcome}
    (tabulates : summary.Tabulates outcomes) (fits : FiguresFit outcomes) :
    Fit summary.tally.notedFilesSeen.sums := by
  intro sum formed
  have seen := FileTally.filesSeen_eq_card tabulates.tally
  exact (seen ▸ FileTally.le_filesSeen_of_mem_sums formed).trans_lt fits.number

namespace Tabulation

/-- One more outcome adds no sum that does not fit. -/
theorem fit_observe {before : Tabulation} (outcome : Outcome)
    (earlier : FiguresFit before.outcomes → Fit before.notedSummary.sums)
    (fits : FiguresFit (outcome ::ₘ before.outcomes)) :
    Fit (before.notedSummary >>= (·.notedObserve outcome)).sums :=
  Noted.fit_bind before.value_notedSummary (earlier (fits.of_le (Multiset.le_cons_self ..)))
    (before.summary_tabulates.fit_notedObserve fits)

/-- A program forms no sum that does not fit if all its outcomes together fit. -/
theorem fit_notedSummary {program : Tabulation} (fits : FiguresFit program.outcomes) :
    Fit program.notedSummary.sums := by
  -- What a part of a program takes up is some of the outcomes, so its figures fit as well.
  induction program with
  | fresh =>
      intro sum formed
      cases formed
  | observe before outcome ih => exact fit_observe outcome ih fits
  | add before file ih => exact fit_observe (.classified file) ih fits
  | exclude before reason ih => exact fit_observe (.skipped reason) ih fits
  | extend before list ih =>
      have earlier := ih (fits.of_le (Multiset.le_add_right ..))
      exact Noted.fit_bind before.value_notedSummary earlier
        (before.summary_tabulates.fit_notedObserveAll fits)
  | collect list =>
      rw [outcomes, ← zero_add (list : Multiset Outcome)] at fits
      exact Summary.Tabulates.empty.fit_notedObserveAll fits
  | merge first second ihFirst ihSecond =>
      have ofFirst := ihFirst (fits.of_le (Multiset.le_add_right ..))
      have ofSecond := ihSecond (fits.of_le (Multiset.le_add_left ..))
      exact Noted.fit_bind first.value_notedSummary ofFirst <|
        Noted.fit_bind second.value_notedSummary ofSecond <|
        first.summary_tabulates.fit_notedMerge second.summary_tabulates fits

end Tabulation

namespace ReportTotals

/-- The sums that are formed for a row are figures of the new totals. -/
theorem sums_notedRecord_subset (totals : ReportTotals) (row : DirectoryRow) :
    (totals.notedRecord row).sums ⊆ (totals.record row).figures := by
  unfold notedRecord record
  cases row.status <;> simp [Noted.sums_bind, Noted.sums_pure, plus, figures]

/-- The sums that are formed for rows fit if what comes out in the end does. -/
theorem fit_notedRecordAll {totals : ReportTotals} {rows : List DirectoryRow}
    (fits : Fit (totals + ofRows rows).figures) : Fit (totals.notedRecordAll rows).sums := by
  induction rows generalizing totals with
  | nil =>
      intro sum formed
      cases formed
  | cons row rest ih =>
      rw [← List.singleton_append, ofRows_append, ← add_assoc, ← record_eq] at fits
      have now := (fit_of_add fits).of_subset (totals.sums_notedRecord_subset row)
      rw [notedRecordAll, List.foldlM_cons]
      exact Noted.fit_bind (totals.value_notedRecord row) now (ih fits)

end ReportTotals

/-! ## All sums fit -/

/-- The result is the one that the plain operation has, and all sums on the way to it fit
into 64 bits. -/
structure Noted.Fits {α : Type} (noted : Noted α) (result : α) : Prop where
  value : noted.value = result
  sums : Fit noted.sums

/-- No sum exceeds 64 bits in any program that takes up outcomes whose figures fit, or some
of them, in any order and with any merges, nor in the number of files seen so far. The
same holds of the totals of rows, recorded one after another. -/
theorem sums_of_census_fit :
    (∀ outcomes : Multiset Outcome, FiguresFit outcomes →
      ∀ program : Tabulation, program.outcomes ≤ outcomes →
        program.notedSummary.Fits program.summary ∧
          program.summary.tally.notedFilesSeen.Fits program.summary.tally.filesSeen) ∧
      ∀ rows : List DirectoryRow, Fit (ReportTotals.ofRows rows).figures →
        (ReportTotals.zero.notedRecordAll rows).Fits (Report.ofRows rows).totals := by
  constructor
  · intro outcomes fits program within
    have programFits := fits.of_le within
    exact ⟨⟨program.value_notedSummary, Tabulation.fit_notedSummary programFits⟩,
      ⟨FileTally.value_notedFilesSeen _, program.summary_tabulates.fit_notedFilesSeen programFits⟩⟩
  · intro rows fits
    rw [← ReportTotals.zero_add (.ofRows rows)] at fits
    exact ⟨ReportTotals.value_notedRecordAll .zero rows, ReportTotals.fit_notedRecordAll fits⟩

namespace Tabulation

/-- Two files that together have as many lines of code as a word can count, a file of a
pseudo-language that has as many by itself, and a file that was skipped. -/
def outcomesAtLimit : List Outcome :=
  [ .classified ⟨"a.rs", "Rust", ⟨2 ^ 63, 1, 0, 4⟩⟩,
    .skipped .dataJson,
    .classified ⟨"b.rs", "Rust", ⟨2 ^ 63 - 1, 0, 2, 0⟩⟩,
    .classified ⟨"c", Label.generated, ⟨2 ^ 64 - 1, 0, 0, 0⟩⟩ ]

/-- The outcomes are taken up in two shares. -/
def inTwoShares : Tabulation :=
  .merge (.collect (outcomesAtLimit.take 1))
    (.exclude (.extend .fresh (outcomesAtLimit.drop 2)) .dataJson)

/-- A directory with these files, and one that cannot be scanned. -/
def rowsAtLimit : List DirectoryRow :=
  [⟨"src", .ok, inTwoShares.summary⟩, ⟨"gone", .failed "no directory", .empty⟩]

theorem sums_of_census_fit_inTwoShares :
    FiguresFit outcomesAtLimit ∧ inTwoShares.outcomes ≤ outcomesAtLimit ∧
      Fit (ReportTotals.ofRows rowsAtLimit).figures ∧
      inTwoShares.summary.totalCode = UInt64.size - 1 ∧
      inTwoShares.notedSummary.Fits inTwoShares.summary ∧
      inTwoShares.summary.tally.notedFilesSeen.Fits 4 ∧
      (ReportTotals.zero.notedRecordAll rowsAtLimit).Fits (Report.ofRows rowsAtLimit).totals := by
  have files : Fit (LanguageTotals.ofFiles (acceptedFiles outcomesAtLimit)).figures := by
    unfold Fit
    decide +kernel
  have fits : FiguresFit outcomesAtLimit :=
    ⟨LanguageTotals.fit_ofFiles_filesUnder files, by decide +kernel, by decide +kernel,
      by decide +kernel, by decide⟩
  have within : inTwoShares.outcomes ≤ outcomesAtLimit := le_of_eq rfl
  have rowsFit : Fit (ReportTotals.ofRows rowsAtLimit).figures := by
    unfold Fit
    decide +kernel
  obtain ⟨programs, rows⟩ := sums_of_census_fit
  obtain ⟨summary, filesSeen⟩ := programs outcomesAtLimit fits inTwoShares within
  exact ⟨fits, within, rowsFit, by decide +kernel, summary, filesSeen, rows rowsAtLimit rowsFit⟩

end Tabulation

end SourceLines
