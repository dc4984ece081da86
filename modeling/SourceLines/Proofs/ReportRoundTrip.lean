/-
# Reports are read back

The text of a report holds one object for every row, in order, and the totals behind
them. What a row says of its directory is read off this object as it was, and from any
spelling of its summary the summary is read; so no two reports have the same text.
All figures are meant to fit into 64 bits.
-/

import Mathlib.Data.List.Forall2
import SourceLines.Proofs.JsonPrinting
import SourceLines.Proofs.Tabulation
import SourceLines.Report.Format

namespace SourceLines

open Json

/-! ## Maps and sets of labels -/

namespace LabelMap

variable {α : Type} {depth : Nat}

/-- A map is made of its own entries. -/
theorem foldl_insert_entries (map : LabelMap α) :
    map.entries.foldl (fun other entry => other.insert entry.1 entry.2) .empty = map := by
  apply ext_find?
  intro label
  have found := find?_foldl_alter (fun _ value => value) label map.ascending .empty
  have same : findAmong? label map.entries = map.find? label := rfl
  rw [same] at found
  refine found.trans ?_
  cases map.find? label <;> rfl

/-- A map is read from an object that has its values under their labels. -/
theorem reads_read {readItem : Reader α} {toJson : α → Value}
    (reads : ∀ item, Reads depth readItem (toJson item) item) (map : LabelMap α) :
    Reads (depth + 1) (read readItem)
      (.object (map.entries.map fun entry => (entry.1, toJson entry.2))) map := by
  have run : Run
      (fun (state : LabelMap α) member next =>
        Reads depth (readItem.into (·.insert member.1 ·) state) member.2 next)
      .empty (map.entries.map fun entry => (entry.1, toJson entry.2))
      (map.entries.foldl (fun other entry => other.insert entry.1 entry.2) .empty) := by
    refine Run.foldl ?_ _
    intro entry _ state
    exact (reads entry.2).into _ state
  rw [foldl_insert_entries] at run
  exact reads_readObject run

end LabelMap

/-- A set is read from the array of its labels. -/
theorem LabelSet.reads_read {depth : Nat} (labels : LabelSet) :
    Reads (depth + 1) LabelSet.read (.strings labels.labels) labels := by
  have run : Run
      (fun (state : LabelSet) value next =>
        Reads depth ((readTypedString "a string").into (·.insert · ()) state) value next)
      .empty (labels.labels.map .string)
      (labels.labels.foldl (fun other label => other.insert label ()) .empty) := by
    refine Run.foldl ?_ _
    rintro label - state
    exact (reads_readTypedString _ label).into _ state
  rw [LabelMap.labels, List.foldl_map] at run
  rw [LabelMap.foldl_insert_entries] at run
  exact reads_readArray run

/-! ## Summaries -/

/-- A member gives the record a field whose reader reads it. -/
theorem RecordFormat.fills_into {α β : Type} {format : RecordFormat α} {record : α}
    {present : List String} {name : String} {value : Value} {part : β} {readPart : Reader β}
    {put : α → β → α} {depth : Nat} (reads : Reads depth readPart value part)
    (known : format.fields.find? (·.name == name) = some ⟨name, readPart.into put⟩)
    (absent : present.contains name = false) :
    format.Fills depth (record, present) (name, value) (put record part, name :: present) :=
  .field known absent (reads.into put record)

variable {depth : Nat}

open RecordFormat (fills_into)

theorem LanguageTotals.reads_read (totals : LanguageTotals) :
    Reads (depth + 1) LanguageTotals.format.read totals.toJson totals := by
  apply RecordFormat.reads_read
  · exact .cons (fills_into (reads_readTypedNatural _ _) rfl rfl) <|
      .cons (fills_into (reads_readTypedNatural _ _) rfl rfl) <|
      .cons (fills_into (reads_readTypedNatural _ _) rfl rfl) <|
      .cons (fills_into (reads_readTypedNatural _ _) rfl rfl) <|
      .cons (fills_into (reads_readTypedNatural _ _) rfl rfl) .nil
  · rfl

theorem FileTally.reads_read (tally : FileTally) :
    Reads (depth + 1) FileTally.format.read tally.toJson tally := by
  apply RecordFormat.reads_read
  · exact .cons (fills_into (reads_readTypedNatural _ _) rfl rfl) <|
      .cons (fills_into (reads_readTypedNatural _ _) rfl rfl) <|
      .cons (fills_into (reads_readTypedNatural _ _) rfl rfl) <|
      .cons (fills_into (reads_readTypedNatural _ _) rfl rfl) <|
      .cons (fills_into (reads_readTypedNatural _ _) rfl rfl) .nil
  · rfl

/-- A summary is read from its value. -/
theorem Summary.reads_read (summary : Summary) :
    Reads (depth + 3) Summary.format.read summary.toJson summary := by
  have languages : Reads (depth + 2) LabelSet.read (.strings summary.languages)
      summary.languagesSeen := LabelSet.reads_read _
  have perLanguage : Reads (depth + 2) (LabelMap.read LanguageTotals.format.read)
      (.object (summary.perLanguage.entries.map fun entry => (entry.1, entry.2.toJson)))
      summary.perLanguage := LabelMap.reads_read LanguageTotals.reads_read _
  have tally : Reads (depth + 2) FileTally.format.read summary.tally.toJson summary.tally :=
    FileTally.reads_read _
  apply RecordFormat.reads_read
  · exact .cons (fills_into (reads_readTypedNatural _ _) rfl rfl) <|
      .cons (fills_into (reads_readTypedNatural _ _) rfl rfl) <|
      .cons (fills_into (reads_readTypedNatural _ _) rfl rfl) <|
      .cons (fills_into languages rfl rfl) <|
      .cons (fills_into perLanguage rfl rfl) <|
      .cons (fills_into tally rfl rfl) .nil
  · rfl

/-- A summary is parsed from every spelling of its value. -/
theorem Summary.parse_of_spells {summary : Summary} {text : Text}
    (spells : Spells summary.toJson text) : parse text = .ok summary := by
  have reads : Reads 3 format.read summary.toJson summary := summary.reads_read
  have parsed := readWhole_of_reads reads (by decide) isGap_nil isGap_nil spells
  rwa [List.nil_append, List.append_nil] at parsed

/-! ## Figures of 64 bits -/

/-- The figures of a language. -/
def LanguageTotals.figures (totals : LanguageTotals) : List Nat :=
  [totals.code, totals.comment, totals.blank, totals.stringLiteral, totals.files]

/-- The figures of a tally. -/
def FileTally.figures (tally : FileTally) : List Nat :=
  [tally.accepted, tally.pseudoLanguage, tally.dataJson, tally.undetermined, tally.unreadable]

/-- The figures of a summary. -/
def Summary.figures (summary : Summary) : List Nat :=
  [summary.totalCode, summary.totalComment, summary.totalBlank] ++
    summary.perLanguage.entries.flatMap (·.2.figures) ++ summary.tally.figures

/-- The figures of a report's totals. -/
def ReportTotals.figures (totals : ReportTotals) : List Nat :=
  [totals.code, totals.comment, totals.blank, totals.directoriesOk, totals.directoriesFailed]

/-- The figures of a report. -/
def Report.figures (report : Report) : List Nat :=
  report.rows.flatMap (·.summary.figures) ++ report.totals.figures

/-- All figures fit into 64 bits. -/
def Fit (figures : List Nat) : Prop :=
  ∀ figure ∈ figures, figure < UInt64.size

theorem Fit.of_append {first second : List Nat} (fit : Fit (first ++ second)) :
    Fit first ∧ Fit second :=
  ⟨fun figure member => fit figure (List.mem_append_left _ member),
    fun figure member => fit figure (List.mem_append_right _ member)⟩

theorem Fit.of_flatMap {α : Type} {figures : α → List Nat} {list : List α} {part : α}
    (fit : Fit (list.flatMap figures)) (member : part ∈ list) : Fit (figures part) :=
  fun figure among => fit figure (List.mem_flatMap.mpr ⟨part, member, among⟩)

/-- An object of figures under some names is plain. -/
theorem isPlain_of_figures (names : List String) {figures : List Nat} (fit : Fit figures) :
    IsPlain (depth + 1) (.object (names.zip (figures.map .natural))) := by
  refine .object fun member among => ?_
  obtain ⟨figure, fits, same⟩ := List.mem_map.mp (List.of_mem_zip among).2
  rw [← same]
  exact .natural (Nat.le_pred_of_lt (fit figure fits))

theorem LanguageTotals.isPlain_toJson {totals : LanguageTotals} (fit : Fit totals.figures) :
    IsPlain (depth + 1) totals.toJson :=
  isPlain_of_figures ["code", "comment", "blank", "string", "files"] fit

theorem FileTally.isPlain_toJson {tally : FileTally} (fit : Fit tally.figures) :
    IsPlain (depth + 1) tally.toJson :=
  isPlain_of_figures ["accepted", "pseudo_language", "data_json", "undetermined", "unreadable"] fit

theorem ReportTotals.isPlain_toJson {totals : ReportTotals} (fit : Fit totals.figures) :
    IsPlain (depth + 1) totals.toJson :=
  isPlain_of_figures ["code", "comment", "blank", "directories_ok", "directories_failed"] fit

theorem Summary.isPlain_toJson {summary : Summary} (fit : Fit summary.figures) :
    IsPlain (depth + 3) summary.toJson := by
  obtain ⟨fit, fitTally⟩ := fit.of_append
  obtain ⟨fitTotals, fitLanguages⟩ := fit.of_append
  have count {figure : Nat} (member : figure ∈ [summary.totalCode, summary.totalComment,
      summary.totalBlank]) : IsPlain (depth + 2) (.natural figure) :=
    .natural (Nat.le_pred_of_lt (fitTotals figure member))
  have perLanguage : IsPlain (depth + 2) (.object
      (summary.perLanguage.entries.map fun entry => (entry.1, entry.2.toJson))) := by
    refine .object fun member among => ?_
    obtain ⟨entry, present, rfl⟩ := List.mem_map.mp among
    exact LanguageTotals.isPlain_toJson (fitLanguages.of_flatMap present)
  refine .object fun member among => ?_
  simp only [List.mem_cons, List.not_mem_nil, or_false] at among
  rcases among with rfl | rfl | rfl | rfl | rfl | rfl
  · exact count (by simp)
  · exact count (by simp)
  · exact count (by simp)
  · exact isPlain_strings _
  · exact perLanguage
  · exact FileTally.isPlain_toJson fitTally

theorem DirectoryRow.isPlain_toJson {row : DirectoryRow} (fit : Fit row.summary.figures) :
    IsPlain (depth + 4) row.toJson := by
  have summary : IsPlain (depth + 3) row.summary.toJson := Summary.isPlain_toJson fit
  refine .object fun member among => ?_
  cases status : row.status with
  | ok =>
      simp only [status, RowStatus.members, List.cons_append, List.nil_append, List.mem_cons,
        List.not_mem_nil, or_false] at among
      rcases among with rfl | rfl | rfl
      · exact .string _
      · exact .string _
      · exact summary
  | failed reason =>
      simp only [status, RowStatus.members, List.cons_append, List.nil_append, List.mem_cons,
        List.not_mem_nil, or_false] at among
      rcases among with rfl | rfl | rfl | rfl
      · exact .string _
      · exact .string _
      · exact .string _
      · exact summary

theorem Report.isPlain_toJson {report : Report} (fit : Fit report.figures) :
    IsPlain (depth + 6) report.toJson := by
  obtain ⟨fitRows, fitTotals⟩ := fit.of_append
  have rows : IsPlain (depth + 5) (.array (report.rows.map DirectoryRow.toJson)) := by
    refine .array fun item member => ?_
    obtain ⟨row, present, rfl⟩ := List.mem_map.mp member
    exact DirectoryRow.isPlain_toJson (fitRows.of_flatMap present)
  refine .object fun member among => ?_
  simp only [List.mem_cons, List.not_mem_nil, or_false] at among
  rcases among with rfl | rfl
  · exact rows
  · exact ReportTotals.isPlain_toJson fitTotals

/-! ## Reports -/

/-- The value shows the row: the directory as it was given, whether it could be scanned,
a reason exactly when it could not, and a value from whose spellings the summary is
parsed. -/
def DirectoryRow.IsShownBy (row : DirectoryRow) (shown : Value) : Prop :=
  ∃ summary : Value,
    (match row.status with
      | .ok =>
          shown = .object
            [ ("directory", .string row.directory), ("status", .string "ok"), ("summary", summary) ]
      | .failed reason =>
          shown = .object
            [ ("directory", .string row.directory), ("status", .string "error"),
              ("reason", .string reason), ("summary", summary) ]) ∧
      Summary.parse (print summary) = .ok row.summary ∧
      ∀ text, Spells summary text → Summary.parse text = .ok row.summary

theorem DirectoryRow.isShownBy_toJson {row : DirectoryRow} (fit : Fit row.summary.figures) :
    row.IsShownBy row.toJson := by
  have plain : IsPlain 3 row.summary.toJson := Summary.isPlain_toJson fit
  refine ⟨row.summary.toJson, ?_, Summary.parse_of_spells (plain.spells_printed 0),
    fun text => Summary.parse_of_spells⟩
  cases status : row.status <;> simp [toJson, status, RowStatus.members]

/-- No value shows two rows. -/
theorem DirectoryRow.leftUnique_isShownBy : Relator.LeftUnique DirectoryRow.IsShownBy := by
  rintro ⟨directory, status, summary⟩ ⟨directory', status', summary'⟩ shown
    ⟨value, shows, parsed, -⟩ ⟨value', shows', parsed', -⟩
  have sameSummary (same : value = value') : summary = summary' := by
    rw [same, parsed'] at parsed
    exact (Except.ok.inj parsed).symm
  cases status with
  | ok =>
      obtain rfl : shown = .object _ := shows
      cases status' with
      | ok =>
          simp only [Value.object.injEq, List.cons.injEq, Prod.mk.injEq, Value.string.injEq,
            true_and, and_true] at shows'
          obtain ⟨sameDirectory, sameValue⟩ := shows'
          rw [sameDirectory, sameSummary sameValue]
      | failed reason => simp at shows'
  | failed reason =>
      obtain rfl : shown = .object _ := shows
      cases status' with
      | ok => simp at shows'
      | failed reason' =>
          simp only [Value.object.injEq, List.cons.injEq, Prod.mk.injEq, Value.string.injEq,
            true_and, and_true] at shows'
          obtain ⟨sameDirectory, sameReason, sameValue⟩ := shows'
          rw [sameDirectory, sameReason, sameSummary sameValue]

namespace Report

/-- The text of a report is read as the value of the report. -/
theorem parse_toJsonText {report : Report} (fit : Fit report.figures) :
    Json.parse report.toJsonText.toList = .ok report.toJson := by
  have plain : IsPlain (121 + 6) report.toJson := isPlain_toJson fit
  have lineBreak : IsGap ['\n'] := by simp [IsGap, isSpace]
  have text : report.toJsonText.toList = [] ++ (print report.toJson ++ ['\n']) := by
    simp [toJsonText]
  rw [text]
  exact parse_print plain isGap_nil lineBreak

/-- Every row is shown by its value, in order. -/
theorem forall₂_isShownBy {report : Report} (fit : Fit report.figures) :
    List.Forall₂ DirectoryRow.IsShownBy report.rows (report.rows.map DirectoryRow.toJson) := by
  rw [List.forall₂_map_right_iff, List.forall₂_same]
  exact fun row member => DirectoryRow.isShownBy_toJson (fit.of_append.1.of_flatMap member)

/-- The text of a report is one JSON text in which every row is shown, in order, and the
totals are those of the report; no other report has this text. -/
theorem toJsonText_reads_back (report : Report) (fit : Fit report.figures) :
    (∃ rows,
      Json.parse report.toJsonText.toList = .ok (.object
        [ ("directories", .array rows),
          ("totals", .object
            [ ("code", .natural report.totals.code),
              ("comment", .natural report.totals.comment),
              ("blank", .natural report.totals.blank),
              ("directories_ok", .natural report.totals.directoriesOk),
              ("directories_failed", .natural report.totals.directoriesFailed) ]) ]) ∧
        List.Forall₂ DirectoryRow.IsShownBy report.rows rows) ∧
      ∀ other : Report, Fit other.figures → other.toJsonText = report.toJsonText →
        other = report := by
  refine ⟨⟨_, parse_toJsonText fit, forall₂_isShownBy fit⟩, fun other otherFit same => ?_⟩
  have parsed := parse_toJsonText otherFit
  rw [same, parse_toJsonText fit] at parsed
  have shows := forall₂_isShownBy fit
  have otherShows := forall₂_isShownBy otherFit
  obtain ⟨rows, ⟨_, _, _, _, _⟩⟩ := report
  obtain ⟨otherRows, ⟨_, _, _, _, _⟩⟩ := other
  simp only [toJson, ReportTotals.toJson, Value.natural, Except.ok.injEq, Value.object.injEq,
    List.cons.injEq, Prod.mk.injEq, Value.array.injEq, Value.number.injEq, Number.natural.injEq,
    true_and, and_true] at parsed
  obtain ⟨sameRows, rfl, rfl, rfl, rfl, rfl⟩ := parsed
  have sameRows : otherRows = rows :=
    List.left_unique_forall₂' DirectoryRow.leftUnique_isShownBy otherShows (sameRows ▸ shows)
  rw [sameRows]

/-- A report with a directory that could not be scanned, under a name with quotes,
backslashes and control characters, and one with a single file. -/
def ofTwoDirectories : Report :=
  .ofRows
    [ ⟨"a \"b\" \\c\x00\n", .failed "no directory \"a\"", .empty⟩,
      ⟨"src", .ok, .ofOutcomes [.classified ⟨"src/main.rs", "Rust", ⟨3, 1, 0, 0⟩⟩]⟩ ]

theorem toJsonText_reads_back_ofTwoDirectories :
    Fit ofTwoDirectories.figures ∧
      ∃ rows,
        Json.parse ofTwoDirectories.toJsonText.toList = .ok (.object
          [ ("directories", .array rows),
            ("totals", .object
              [ ("code", .natural 3), ("comment", .natural 1), ("blank", .natural 0),
                ("directories_ok", .natural 1), ("directories_failed", .natural 1) ]) ]) ∧
          List.Forall₂ DirectoryRow.IsShownBy ofTwoDirectories.rows rows := by
  have fit : Fit ofTwoDirectories.figures := by
    unfold Fit
    decide +kernel
  obtain ⟨⟨rows, parsed, shown⟩, _⟩ := toJsonText_reads_back ofTwoDirectories fit
  exact ⟨fit, rows, parsed, shown⟩

end Report

end SourceLines
