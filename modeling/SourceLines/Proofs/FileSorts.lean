/-
# Into which sort a file falls

A scan under valid settings counts every candidate of its walk under exactly one
sort. Files with the extension for block comments are always accepted, and JSON
that is data is set aside whatever else it is. About all other files the detector
decides by their content: first whether it is empty or binary, then whether its
language is known, and last whether it looks generated.

Every candidate can be read unless its path is too long: the walk lists a file by
its name alone, but the path must be followed to read it. How languages are looked
up is left open, except that no language has the label of a pseudo-language.
-/

import SourceLines.Proofs.Candidates
import SourceLines.Proofs.PooledScan
import SourceLines.Run

namespace SourceLines

/-- No language that is found has the label of a pseudo-language. -/
def Language.Lookup.NamesLanguages (lookup : Language.Lookup) : Prop :=
  ∀ path content language, lookup path content = some language →
    Label.isPseudo language.name = false

/-- Every language that is found is in the catalogue. -/
theorem Language.mem_catalogue_of_ofFile? {path : String} {content : Bytes} {language : Language}
    (found : ofFile? path content = some language) : language ∈ catalogue := by
  unfold ofFile? at found
  split at found
  · next byName =>
    cases found
    exact List.mem_of_find?_eq_some byName
  · split at found
    · exact List.mem_of_find?_eq_some found
    · unfold ofShebang? at found
      obtain ⟨line, _, byLine⟩ := Option.bind_eq_some_iff.mp found
      unfold ofShebangLine? at byLine
      obtain ⟨program, rest⟩ := splitWord line
      dsimp only at byLine
      split at byLine
      · next byProgram =>
        cases byLine
        exact List.mem_of_find?_eq_some byProgram
      · split at byLine
        · exact List.mem_of_find?_eq_some byLine
        · cases byLine

theorem Language.namesLanguages_ofFile? : Lookup.NamesLanguages ofFile? := by
  have named : ∀ language ∈ catalogue, Label.isPseudo language.name = false := by
    decide +kernel
  intro path content language found
  exact named language (mem_catalogue_of_ofFile? found)

/-- The sort of the outcome, or of the problem that takes its place. -/
def sortOfResult : Except ClassifyProblem Outcome → FileSort
  | .ok outcome => outcome.sort
  | .error problem => (Outcome.skipped problem.skipReason).sort

/-! ## The detector of languages -/

namespace Detector

/-- The sort of a file about which the detector decides. -/
def sortOf (lookup : Language.Lookup) (path : String) (content : Bytes) : FileSort :=
  if content.isEmpty || Content.looksBinary content then .pseudoLanguage
  else if (lookup path content).isNone then .undetermined
  else if Content.looksGenerated (decodeLossy (content.take generatedWindow)) then .pseudoLanguage
  else .accepted

variable {counter : Language.Counter} {lookup : Language.Lookup} {path : String}
  {content : Bytes}

theorem sort_ofContent (names : lookup.NamesLanguages) :
    sortOfResult (.classified <$> ofContent counter lookup path content) =
      sortOf lookup path content := by
  unfold ofContent sortOf
  by_cases empty : content.isEmpty = true
  · rw [if_pos empty, empty]
    rfl
  rw [if_neg empty, eq_false_of_ne_true empty, Bool.false_or]
  by_cases binary : Content.looksBinary content = true
  · rw [if_pos binary, if_pos binary]
    rfl
  rw [if_neg binary, if_neg binary]
  cases found : lookup path content with
  | none => rfl
  | some language =>
      have named := names path content language found
      by_cases generated :
          Content.looksGenerated (decodeLossy (content.take generatedWindow)) = true
      · simp only [if_pos generated]
        rfl
      · simp only [if_neg generated]
        exact if_neg (ne_true_of_eq_false named)

theorem sortOf_eq_pseudoLanguage_iff :
    sortOf lookup path content = .pseudoLanguage ↔
      content = [] ∨ Content.looksBinary content = true ∨
        (∃ language, lookup path content = some language) ∧
          Content.looksGenerated (decodeLossy (content.take generatedWindow)) = true := by
  unfold sortOf
  by_cases empty : content = []
  · simp [empty]
  by_cases binary : Content.looksBinary content = true
  · simp [binary]
  cases found : lookup path content <;> simp [empty, binary]

theorem sortOf_eq_undetermined_iff :
    sortOf lookup path content = .undetermined ↔
      content ≠ [] ∧ Content.looksBinary content = false ∧ lookup path content = none := by
  unfold sortOf
  by_cases empty : content = []
  · simp [empty]
  by_cases binary : Content.looksBinary content = true
  · simp [binary]
  cases found : lookup path content with
  | none => simp [empty, binary]
  | some language =>
      have accepted : ∀ generated : Prop, [Decidable generated] →
          (if generated then FileSort.pseudoLanguage else .accepted) ≠ .undetermined := by
        intro generated _
        split <;> simp
      simpa [empty, binary] using accepted _

variable (lookup path content) in
theorem sortOf_cases :
    sortOf lookup path content = .accepted ∨ sortOf lookup path content = .pseudoLanguage ∨
      sortOf lookup path content = .undetermined := by
  unfold sortOf
  split
  · exact .inr (.inl rfl)
  split
  · exact .inr (.inr rfl)
  split
  · exact .inr (.inl rfl)
  · exact .inl rfl

/-- A file that can be read is classified by its content. -/
theorem ofCounter_of_read {system : FileSystem} (read : system.read path = .ok content) :
    ofCounter counter lookup system path = ofContent counter lookup path content := by
  rw [ofCounter, FileSystem.readForClassification, read]
  rfl

end Detector

/-- Another label that names a language makes no difference to the sort. -/
theorem sort_relabel {label : String} (named : Label.isPseudo label = false)
    (result : Except ClassifyProblem ClassifiedFile) :
    sortOfResult ((fun file => .classified (if file.isPseudo then file else file.relabel label)) <$>
      result) = sortOfResult (.classified <$> result) := by
  cases result with
  | error problem => rfl
  | ok file =>
      show Outcome.sort (.classified (if file.isPseudo then file else file.relabel label)) =
        Outcome.sort (.classified file)
      by_cases pseudo : file.isPseudo = true
      · rw [if_pos pseudo]
      · have relabelled : ¬ (file.relabel label).isPseudo = true := ne_true_of_eq_false named
        rw [if_neg pseudo, Outcome.sort, Outcome.sort, if_neg pseudo, if_neg relabelled]

/-! ## One file -/

theorem FileSystem.readForClassification_of_read {system : FileSystem} {path : String}
    {content : Bytes} (read : system.read path = .ok content) :
    system.readForClassification path = .ok content := by
  rw [readForClassification, read]

theorem JsonRules.classify_of_read {rules : JsonRules} {system : FileSystem} {detect : Detector}
    {path : String} {content : Bytes} (read : system.readForClassification path = .ok content) :
    rules.classify system detect path =
      match rules.decide path content with
      | .data => .ok (.skipped .dataJson)
      | .config =>
          (fun file => .classified (if file.isPseudo then file else file.relabel rules.configLabel))
            <$> detect path := by
  rw [classify, read]
  show (match rules.decide path content with | .data => _ | .config => _) = _
  cases rules.decide path content with
  | data => rfl
  | config => cases detect path <;> rfl

namespace Settings

variable {settings : Settings} {counter : Language.Counter} {lookup : Language.Lookup}
  {system : FileSystem} {path : String}
  {content : Bytes}

/-- The file is not one with block comments and not JSON that is data, so the detector
of languages is asked about it. -/
def AsksDetector (settings : Settings) (path : String) (content : Bytes) : Prop :=
  settings.route path ≠ .blockComment ∧
    ¬ (settings.route path = .json ∧ settings.json.decide path content = .data)

/-- The file with this path and content belongs into this sort. Whatever belongs into
none of the other sorts is accepted. -/
structure Sorts (settings : Settings) (lookup : Language.Lookup) (path : String)
    (content : Bytes) (sort : FileSort) : Prop where
  blockComment : settings.route path = .blockComment → sort = .accepted
  dataJson : sort = .dataJson ↔
    settings.route path = .json ∧ settings.json.decide path content = .data
  pseudoLanguage : sort = .pseudoLanguage ↔ settings.AsksDetector path content ∧
    (content = [] ∨ Content.looksBinary content = true ∨
      (∃ language, lookup path content = some language) ∧
        Content.looksGenerated (decodeLossy (content.take Detector.generatedWindow)) = true)
  undetermined : sort = .undetermined ↔ settings.AsksDetector path content ∧
    content ≠ [] ∧ Content.looksBinary content = false ∧ lookup path content = none
  readable : sort ≠ .unreadable

/-- The sort of a file that can be read. -/
def sortOf (settings : Settings) (lookup : Language.Lookup) (path : String) (content : Bytes) :
    FileSort :=
  match settings.route path, settings.json.decide path content with
  | .blockComment, _ => .accepted
  | .json, .data => .dataJson
  | .json, .config => Detector.sortOf lookup path content
  | .generic, _ => Detector.sortOf lookup path content

theorem checked_eq_none_iff {condition : Prop} [Decidable condition] {fault : SettingsFault}
    {others : Option SettingsFault} :
    (if condition then some fault else others) = none ↔ ¬ condition ∧ others = none := by
  split <;> simp_all

/-- Valid settings do not name a pseudo-language. -/
theorem isPseudo_labels_of_valid (valid : settings.fault? = none) :
    Label.isPseudo settings.blockComment.label = false ∧
      Label.isPseudo settings.json.configLabel = false := by
  simp only [fault?, checked_eq_none_iff] at valid
  obtain ⟨_, _, _, _, blockLabel, configLabel, _⟩ := valid
  exact ⟨eq_false_of_ne_true blockLabel, eq_false_of_ne_true configLabel⟩

/-- A file about which the detector is asked belongs into the detector's sort. -/
theorem sorts_of_asksDetector (asks : settings.AsksDetector path content) :
    settings.Sorts lookup path content (Detector.sortOf lookup path content) where
  blockComment route := absurd route asks.1
  dataJson := by
    apply iff_of_false _ asks.2
    intro data
    rcases Detector.sortOf_cases lookup path content with sort | sort | sort <;>
      exact FileSort.noConfusion (sort.symm.trans data)
  pseudoLanguage := Detector.sortOf_eq_pseudoLanguage_iff.trans (and_iff_right asks).symm
  undetermined := Detector.sortOf_eq_undetermined_iff.trans (and_iff_right asks).symm
  readable unreadable := by
    rcases Detector.sortOf_cases lookup path content with sort | sort | sort <;>
      exact FileSort.noConfusion (sort.symm.trans unreadable)

theorem sorts_sortOf :
    settings.Sorts lookup path content (settings.sortOf lookup path content) := by
  unfold sortOf
  cases route : settings.route path with
  | blockComment =>
      constructor <;> simp [AsksDetector, route]
  | json =>
      cases kind : settings.json.decide path content with
      | data => constructor <;> simp [AsksDetector, route, kind]
      | config => exact sorts_of_asksDetector ⟨by simp [route], by simp [kind]⟩
  | generic => exact sorts_of_asksDetector ⟨by simp [route], by simp [route]⟩

theorem sort_classifyWith (detect : Detector) :
    (settings.classifyWith system detect path).sort =
      sortOfResult (settings.classify? system detect path) := by
  unfold classifyWith
  cases settings.classify? system detect path <;> rfl

/-- The outcome for a file that can be read is of the sort into which the file
belongs. -/
theorem sort_classifyWith_of_read (valid : settings.fault? = none)
    (names : lookup.NamesLanguages) (read : system.read path = .ok content) :
    (settings.classifyWith system (.ofCounter counter lookup system) path).sort =
      settings.sortOf lookup path content := by
  obtain ⟨blockLabel, configLabel⟩ := isPseudo_labels_of_valid valid
  have detected : Detector.ofCounter counter lookup system path = _ :=
    Detector.ofCounter_of_read read
  have content? := FileSystem.readForClassification_of_read read
  rw [sort_classifyWith, classify?, sortOf]
  cases settings.route path with
  | blockComment =>
      simp only [Detector.blockComment, content?]
      exact if_neg (ne_true_of_eq_false blockLabel)
  | json =>
      show sortOfResult (settings.json.classify system _ path) = _
      rw [JsonRules.classify_of_read content?]
      cases settings.json.decide path content with
      | data => rfl
      | config =>
          show sortOfResult (_ <$> Detector.ofCounter counter lookup system path) = _
          rw [sort_relabel configLabel, detected]
          exact Detector.sort_ofContent names
  | generic =>
      simp only [detected]
      exact Detector.sort_ofContent names

/-- The outcome for a file that cannot be read says so. -/
theorem sort_classifyWith_of_unreadable {error : SystemError}
    (unreadable : system.read path = .error error) :
    (settings.classifyWith system (.ofCounter counter lookup system) path).sort = .unreadable := by
  have content? : system.readForClassification path = .error (.unreadable path error) := by
    rw [FileSystem.readForClassification, unreadable]
  rw [sort_classifyWith, classify?]
  cases settings.route path with
  | blockComment =>
      rw [Detector.blockComment, content?]
      rfl
  | json =>
      simp only [JsonRules.classify, content?]
      rfl
  | generic =>
      rw [Detector.ofCounter, content?]
      rfl

/-! ## All files of a scan -/

/-- A listed file that can be followed has content, and belongs into the sort of its
outcome by this content. -/
theorem sorts_of_mem_walk (wellNamed : system.WellNamed) (valid : settings.fault? = none)
    (names : lookup.NamesLanguages) {root : String} {paths : List String}
    (walked : walk system settings.ignore root = .ok paths) (listed : path ∈ paths)
    (short : path.utf8ByteSize ≤ FileSystem.maxPathBytes) :
    ∃ place content, system.LeadsTo path (.file place content) ∧
      settings.Sorts lookup path content
        (settings.classifyWith system (.ofCounter counter lookup system) path).sort := by
  obtain ⟨place, content, leadsTo⟩ := leadsTo_of_mem_walk wellNamed walked listed short
  refine ⟨place, content, leadsTo, ?_⟩
  rw [sort_classifyWith_of_read valid names leadsTo.read]
  exact sorts_sortOf

/-- Of the listed files just those with too long a path cannot be read. -/
theorem sort_eq_unreadable_iff (wellNamed : system.WellNamed) (valid : settings.fault? = none)
    (names : lookup.NamesLanguages) {root : String} {paths : List String}
    (walked : walk system settings.ignore root = .ok paths) (listed : path ∈ paths) :
    (settings.classifyWith system (.ofCounter counter lookup system) path).sort = .unreadable ↔
      FileSystem.maxPathBytes < path.utf8ByteSize := by
  constructor
  · intro unreadable
    by_contra short
    obtain ⟨place, content, leadsTo, sorts⟩ :=
      sorts_of_mem_walk wellNamed valid names walked listed (Nat.le_of_not_lt short)
    exact sorts.readable unreadable
  · intro long
    obtain ⟨error, unreadable⟩ : ∃ error, system.read path = .error error :=
      FileSystem.read_of_isTooLong long
    exact sort_classifyWith_of_unreadable unreadable

theorem walk_scanWith (settings : Settings) (system : FileSystem) (detect : Detector) :
    (settings.scanWith system detect).walk = walk system settings.ignore := by
  rw [scanWith]

theorem classify_scanWith (settings : Settings) (system : FileSystem) (detect : Detector) :
    (settings.scanWith system detect).classify = settings.classifyWith system detect := by
  rw [scanWith]

/-- A scan counts every path that its walk lists under the sort of the outcome. -/
theorem scan_counts_outcomes (detect : Detector) {root : String} {paths : List String}
    (walked : walk system settings.ignore root = .ok paths) (jobs : Nat) (pool : Pool) :
    ∃ summary,
      ((settings.scanWith system detect).withJobs jobs).scanWith? pool root = .ok summary ∧
        summary.tally.filesSeen = paths.length ∧
        ∀ sort, summary.tally.count sort =
          paths.countP fun path => (settings.classifyWith system detect path).sort = sort := by
  rw [← walk_scanWith settings system detect] at walked
  rw [← classify_scanWith settings system detect]
  generalize settings.scanWith system detect = scan at walked ⊢
  exact ⟨scan.summarise paths, (scan.withJobs jobs).scanWith?_of_walk pool walked,
    scan.filesSeen_summarise paths, scan.count_summarise paths⟩

/-- A scan counts every path that its walk lists under one sort: that of the file's
outcome. By its content the file belongs into this sort, except that it is unreadable
if its path is too long. -/
theorem scan_sorts_candidates (wellNamed : system.WellNamed) (valid : settings.fault? = none)
    (names : lookup.NamesLanguages) {root : String} {paths : List String}
    (walked : walk system settings.ignore root = .ok paths) (jobs : Nat) (pool : Pool) :
    ∃ summary,
      ((settings.scanWith system (.ofLookup lookup system)).withJobs jobs).scanWith? pool root =
          .ok summary ∧
        summary.tally.filesSeen = paths.length ∧
        (∀ sort, summary.tally.count sort = paths.countP fun path =>
          (settings.classifyWith system (.ofLookup lookup system) path).sort = sort) ∧
        summary.tally.unreadable =
          paths.countP (fun path => FileSystem.maxPathBytes < path.utf8ByteSize) ∧
        ∀ path ∈ paths, path.utf8ByteSize ≤ FileSystem.maxPathBytes →
          ∃ place content, system.LeadsTo path (.file place content) ∧
            settings.Sorts lookup path content
              (settings.classifyWith system (.ofLookup lookup system) path).sort := by
  obtain ⟨summary, scanned, seen, counts⟩ :=
    scan_counts_outcomes (.ofLookup lookup system) walked jobs pool
  have unreadable : summary.tally.unreadable = _ := counts .unreadable
  refine ⟨summary, scanned, seen, counts, ?_, ?_⟩
  · rw [unreadable]
    apply List.countP_congr
    intro path listed
    rw [decide_eq_true_iff, decide_eq_true_iff]
    exact sort_eq_unreadable_iff wellNamed valid names walked listed
  · intro path listed short
    exact sorts_of_mem_walk wellNamed valid names walked listed short

/-- In the small directory all four files that the walk lists are counted, and none
of them is unreadable. -/
theorem scan_sorts_smallSystem :
    Walk.smallSystem.WellNamed ∧ standard.fault? = none ∧
      Language.Lookup.NamesLanguages Language.ofFile? ∧
      walk Walk.smallSystem standard.ignore "." =
        .ok ["./main.py", "./b", "./sub/d", "./-/e"] ∧
      ∃ summary,
        ((standard.scanWith Walk.smallSystem
          (.ofLookup Language.ofFile? Walk.smallSystem)).withJobs 2).scanWith? (.dealing 2) "." =
            .ok summary ∧
          summary.tally.filesSeen = 4 ∧ summary.tally.unreadable = 0 := by
  have walked : walk Walk.smallSystem standard.ignore "." =
      .ok ["./main.py", "./b", "./sub/d", "./-/e"] := rfl
  obtain ⟨summary, scanned, seen, _, unreadable, _⟩ :=
    scan_sorts_candidates Walk.smallSystem_wellNamed rfl Language.namesLanguages_ofFile? walked 2
      (.dealing 2)
  exact ⟨Walk.smallSystem_wellNamed, rfl, Language.namesLanguages_ofFile?, walked, summary,
    scanned, seen, unreadable.trans (by decide)⟩

/-- The standard settings without any ignore patterns. -/
def standardForAll : Settings :=
  { standard with ignore := ⟨[]⟩ }

/-- A file is listed and yet unreadable when the path of the root, with all its
slashes, leaves no room for the name of the file. -/
theorem scan_meets_unreadable_file :
    standardForAll.fault? = none ∧
      ∃ paths, walk Walk.smallSystem standardForAll.ignore (PathName.dotSlashes 4093) = .ok paths ∧
        ∃ summary,
          ((standardForAll.scanWith Walk.smallSystem
            (.generic Walk.smallSystem)).withJobs 1).scanWith? (.dealing 1)
              (PathName.dotSlashes 4093) = .ok summary ∧
            summary.tally.unreadable ≠ 0 := by
  have toRoot := Walk.leadsTo_smallDirectory
  have walked := walk_of_directory standardForAll.ignore toRoot
  rw [if_neg (Walk.parts_dotSlashes_ne 4092)] at walked
  have lists : Walk.Lists Walk.smallSystem standardForAll.ignore (PathName.dotSlashes 4093)
      Walk.smallDirectory [] (.file "main.py" (stringBytes "x = 1\n")) :=
    .ofFile (by simp [Walk.smallDirectory]) (IgnoreList.not_marks_of_no_patterns _)
  have named := toRoot.allWellNamed Walk.smallSystem_wellNamed
  have listed := (Walk.mem_ofEntries_iff toRoot.notEmpty _ named.each).mpr ⟨_, _, lists, rfl⟩
  have long : FileSystem.maxPathBytes <
      (PathName.below (PathName.dotSlashes 4093) ["main.py"]).utf8ByteSize := by
    have size : (PathName.dotSlashes 4093).utf8ByteSize = 4094 :=
      PathName.utf8ByteSize_dotSlashes 4092
    have added :=
      PathName.utf8ByteSize_add_le_below_singleton (PathName.dotSlashes 4093) "main.py"
    rw [size] at added
    exact Nat.lt_of_lt_of_le (by decide) added
  obtain ⟨error, unreadable⟩ : ∃ error, Walk.smallSystem.read _ = .error error :=
    FileSystem.read_of_isTooLong long
  obtain ⟨summary, scanned, _, counts⟩ :=
    scan_counts_outcomes (.generic Walk.smallSystem) walked 1 (.dealing 1)
  have counted : summary.tally.unreadable = _ := counts .unreadable
  refine ⟨rfl, _, walked, summary, scanned, ?_⟩
  rw [counted]
  refine Nat.ne_of_gt (List.countP_pos_iff.mpr ⟨_, listed, ?_⟩)
  rw [decide_eq_true_iff]
  exact sort_classifyWith_of_unreadable unreadable

end Settings

end SourceLines
