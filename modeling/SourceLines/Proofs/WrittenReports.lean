/-
# How far reports are written

A report as text can be written whole when each label in it has no more bytes than the
printer's greatest width. Otherwise the first row with a longer label is the last one of
which anything is written, and nothing is written of its table. A report as JSON can be
written whole when each directory is named by a text; otherwise it is written up to the
first name that is none.

What carries the proofs is that all lines of a table are of one width, so that a table is
printed whole or not at all, and that rows are written one after another, so that a row
which is written whole changes nothing about those behind it.
-/

import Mathlib.Data.String.Basic
import SourceLines.Proofs.JsonPrinting
import SourceLines.Proofs.Tabulation
import SourceLines.Run

namespace SourceLines

/-- When not all items pass a test, a first one fails. -/
theorem exists_first_of_not_all {α : Type} {test : α → Prop} [DecidablePred test]
    {list : List α} (notAll : ¬ ∀ item ∈ list, test item) :
    ∃ earlier item later, list = earlier ++ item :: later ∧
      (∀ item ∈ earlier, test item) ∧ ¬ test item := by
  cases found : list.find? fun item => ¬ test item with
  | none => exact absurd (by simpa using List.find?_eq_none.mp found) notAll
  | some item =>
      obtain ⟨fails, earlier, later, parts, passes⟩ := List.find?_eq_some_iff_append.mp found
      exact ⟨earlier, item, later, parts, by simpa using passes, by simpa using fails⟩

/-! ## Lengths of texts -/

/-- Every character takes a byte at least. -/
theorem length_le_utf8ByteSize (text : String) : text.length ≤ text.utf8ByteSize := by
  rw [← String.length_toList, ← String.utf8Len_toList]
  induction text.toList with
  | nil => exact Nat.le_refl 0
  | cons character rest ih =>
      rw [List.length_cons, String.utf8Len_cons]
      exact Nat.add_le_add ih character.utf8Size_pos

/-! ## What is written one after another -/

theorem textOf_append (first second : List String) :
    textOf (first ++ second) = textOf first ++ textOf second := by
  rw [textOf, List.map_append, String.join_append]
  rfl

namespace Written

variable {first second : Written}

theorem append_of_whole (whole : first.fault = none) :
    first ++ second = ⟨first.text ++ second.text, second.fault⟩ := by
  show append first second = _
  rw [append, whole]

theorem append_of_stopped {fault : WriteFault} (stopped : first.fault = some fault) :
    first ++ second = first := by
  show append first second = _
  rw [append, stopped]

theorem ofLines_append (first second : List String) :
    ofLines first ++ ofLines second = ofLines (first ++ second) := by
  rw [append_of_whole rfl]
  exact congrArg whole (textOf_append first second).symm

end Written

namespace ReportText

/-! ## Tables -/

/-- The column of labels is no wider than its heading and the labels ask for. -/
theorem labelWidth_le_iff {rows : List LanguageRow} {bound : Nat} :
    labelWidth rows ≤ bound ↔
      labelHeading.utf8ByteSize ≤ bound ∧ ∀ row ∈ rows, row.language.utf8ByteSize ≤ bound := by
  have within (start : Nat) :
      rows.foldl (fun width row => max width row.language.utf8ByteSize) start ≤ bound ↔
        start ≤ bound ∧ ∀ row ∈ rows, row.language.utf8ByteSize ≤ bound := by
    induction rows generalizing start with
    | nil => simp
    | cons row rest ih => rw [List.foldl_cons, ih, Nat.max_le, List.forall_mem_cons, and_assoc]
  exact within _

/-- A text with spaces on its right, if the printer takes the width. -/
def filledUp (width : Nat) (text : String) : String :=
  text ++ String.ofList (List.replicate (width - text.length) ' ')

/-- One line of a table, if the printer takes the width. -/
def lineOf (width : Nat) (label code comment blank : String) : String :=
  "  " ++ filledUp width label ++ "  " ++ padLeft numberWidth code ++ "  " ++
    padLeft numberWidth comment ++ "  " ++ padLeft numberWidth blank

/-- The line of a language. -/
def lineOfRow (width : Nat) (row : LanguageRow) : String :=
  lineOf width row.language (toString row.code) (toString row.comment) (toString row.blank)

theorem tableLine_of_le {width : Nat} (taken : width ≤ maxWidth)
    (label code comment blank : String) :
    tableLine width label code comment blank = .ok (lineOf width label code comment blank) := by
  rw [tableLine, padRight, if_neg (Nat.not_lt.mpr taken)]
  rfl

theorem tableLine_of_lt {width : Nat} (refused : maxWidth < width)
    (label code comment blank : String) :
    tableLine width label code comment blank = .error .widthOutOfRange := by
  rw [tableLine, padRight, if_pos refused]
  rfl

theorem tableLines_of_le {rows : List LanguageRow} (listed : rows ≠ [])
    (taken : labelWidth rows ≤ maxWidth) :
    tableLines rows = .ok (lineOf (labelWidth rows) labelHeading "Code" "Comment" "Blank" ::
      rows.map (lineOfRow (labelWidth rows))) := by
  have lines : rows.mapM (m := Except WriteFault) (fun row => tableLine (labelWidth rows)
      row.language (toString row.code) (toString row.comment) (toString row.blank)) =
        .ok (rows.map (lineOfRow (labelWidth rows))) := by
    simp only [tableLine_of_le taken]
    exact List.mapM_pure
  rw [tableLines, if_neg (mt List.isEmpty_iff.mp listed)]
  dsimp only
  rw [tableLine_of_le taken, lines]
  rfl

theorem tableLines_of_lt {rows : List LanguageRow} (listed : rows ≠ [])
    (refused : maxWidth < labelWidth rows) : tableLines rows = .error .widthOutOfRange := by
  rw [tableLines, if_neg (mt List.isEmpty_iff.mp listed)]
  simp only [tableLine_of_lt refused]
  rfl

/-! ## Rows -/

/-- The printer takes the widths of all labels of a row. -/
def LabelsFit (row : DirectoryRow) : Prop :=
  ∀ line ∈ row.summary.breakdown, line.language.utf8ByteSize ≤ maxWidth

instance (row : DirectoryRow) : Decidable (LabelsFit row) :=
  inferInstanceAs (Decidable (∀ line ∈ row.summary.breakdown, _))

theorem labelsFit_iff {row : DirectoryRow} :
    LabelsFit row ↔ labelWidth row.summary.breakdown ≤ maxWidth := by
  rw [labelWidth_le_iff]
  exact (and_iff_right (by decide)).symm

variable {row : DirectoryRow}

theorem ofRow_of_tableLines {lines : List String}
    (table : tableLines row.summary.breakdown = .ok lines) :
    ofRow row = .ofLines (openingLines row ++ lines) := by
  rw [ofRow, table]
  exact Written.ofLines_append _ _

/-- A row whose labels fit is written whole. -/
theorem exists_ofRow_eq_ofLines (fit : LabelsFit row) :
    ∃ lines, ofRow row = .ofLines (openingLines row ++ lines) := by
  by_cases listed : row.summary.breakdown = []
  · have table : tableLines row.summary.breakdown = .ok [] := by rw [listed]; rfl
    exact ⟨_, ofRow_of_tableLines table⟩
  · exact ⟨_, ofRow_of_tableLines (tableLines_of_le listed (labelsFit_iff.mp fit))⟩

/-- Nothing is written of the table of a row with a label that does not fit. -/
theorem ofRow_of_not_labelsFit (unfit : ¬ LabelsFit row) :
    ofRow row = ⟨textOf (openingLines row), some .widthOutOfRange⟩ := by
  have listed : row.summary.breakdown ≠ [] := by
    intro nil
    rw [LabelsFit, nil] at unfit
    exact unfit (List.forall_mem_nil _)
  have refused := Nat.not_le.mp (mt labelsFit_iff.mpr unfit)
  rw [ofRow, tableLines_of_lt listed refused]
  exact congrArg (Written.mk · _) (String.append_empty)

theorem fault_ofRow_of_labelsFit (fit : LabelsFit row) : (ofRow row).fault = none := by
  obtain ⟨lines, written⟩ := exists_ofRow_eq_ofLines fit
  rw [written]
  rfl

/-! ## Reports as text -/

/-- What is written of rows that are written whole. -/
def textOfRows (rows : List DirectoryRow) : String :=
  String.join (rows.map fun row => (ofRow row).text ++ "\n")

/-- Rows that are written whole leave the writing of the others as it is. -/
theorem toText_append {earlier : List DirectoryRow} (fit : ∀ row ∈ earlier, LabelsFit row)
    (later : List DirectoryRow) (totals : ReportTotals) :
    (Report.mk (earlier ++ later) totals).toText =
      ⟨textOfRows earlier ++ (Report.mk later totals).toText.text,
        (Report.mk later totals).toText.fault⟩ := by
  induction earlier with
  | nil => rw [textOfRows, List.map_nil, String.join_nil, String.empty_append]; rfl
  | cons row rest ih =>
      obtain ⟨rowFits, restFit⟩ := List.forall_mem_cons.mp fit
      have step : (Report.mk (row :: rest ++ later) totals).toText =
          ofRow row ++ .ofLines [""] ++ (Report.mk (rest ++ later) totals).toText := rfl
      have line : ofRow row ++ .ofLines [""] = ⟨(ofRow row).text ++ "\n", none⟩ :=
        Written.append_of_whole (fault_ofRow_of_labelsFit rowFits)
      have front : textOfRows (row :: rest) = (ofRow row).text ++ "\n" ++ textOfRows rest :=
        String.join_cons
      rw [step, line, Written.append_of_whole rfl, ih restFit, front]
      exact congrArg (Written.mk · _) String.append_assoc.symm

/-- A report in which all labels fit is written whole. -/
theorem toText_of_labelsFit {rows : List DirectoryRow} (fit : ∀ row ∈ rows, LabelsFit row)
    (totals : ReportTotals) :
    (Report.mk rows totals).toText = .whole (textOfRows rows ++ textOf (totalsLines totals)) := by
  have text := toText_append fit [] totals
  rw [List.append_nil] at text
  exact text

/-- The first row with a label that does not fit is the last one of which anything is
written. -/
theorem toText_of_not_labelsFit {earlier : List DirectoryRow}
    (fit : ∀ row ∈ earlier, LabelsFit row) (unfit : ¬ LabelsFit row)
    (later : List DirectoryRow) (totals : ReportTotals) :
    (Report.mk (earlier ++ row :: later) totals).toText =
      ⟨textOfRows earlier ++ textOf (openingLines row), some .widthOutOfRange⟩ := by
  have opening := ofRow_of_not_labelsFit unfit
  have stopped : (Report.mk (row :: later) totals).toText = ofRow row := by
    have step : (Report.mk (row :: later) totals).toText =
        ofRow row ++ .ofLines [""] ++ (Report.mk later totals).toText := rfl
    have fault : (ofRow row).fault = some .widthOutOfRange := congrArg Written.fault opening
    rw [step, Written.append_of_stopped fault, Written.append_of_stopped fault]
  rw [toText_append fit, stopped, opening]

/-! ## A label that is too wide -/

/-- A directory with one file under a label. -/
def rowUnder (label : String) : DirectoryRow :=
  ⟨"src", .ok, .ofOutcomes [.classified ⟨"src/a.al", label, ⟨1, 0, 0, 0⟩⟩]⟩

theorem breakdown_rowUnder {label : String} (named : ¬ Label.isPseudo label) :
    (rowUnder label).summary.breakdown = [⟨label, 1, 0, 0⟩] := by
  have added : (rowUnder label).summary = _ := Summary.add_of_not_isPseudo .empty named
  rw [added]
  rfl

theorem labelsFit_rowUnder_iff {label : String} (named : ¬ Label.isPseudo label) :
    LabelsFit (rowUnder label) ↔ label.utf8ByteSize ≤ maxWidth := by
  rw [LabelsFit, breakdown_rowUnder named, List.forall_mem_singleton]

theorem length_le_of_isPseudo {label : String} (pseudo : Label.isPseudo label) :
    label.length ≤ 13 := by
  have short : ∀ label ∈ Label.pseudoLanguages, label.length ≤ 13 := by decide
  exact short label (List.contains_iff_mem.mp pseudo)

/-- A label of 65536 bytes, which is one more than the greatest width of the printer. -/
def longLabel : String :=
  String.ofList (List.replicate (maxWidth + 1) 'x')

theorem maxWidth_lt_length_longLabel : maxWidth < longLabel.length := by
  rw [longLabel, String.length_ofList, List.length_replicate]
  exact Nat.lt_succ_self maxWidth

/-- The long label names a language: the labels that name none are short. -/
theorem not_isPseudo_longLabel : ¬ Label.isPseudo longLabel := by
  intro pseudo
  have longer : 13 < maxWidth := by decide
  exact Nat.not_lt.mpr (length_le_of_isPseudo pseudo) (longer.trans maxWidth_lt_length_longLabel)

theorem not_labelsFit_rowUnder_longLabel : ¬ LabelsFit (rowUnder longLabel) := by
  rw [labelsFit_rowUnder_iff not_isPseudo_longLabel]
  exact Nat.not_le.mpr (maxWidth_lt_length_longLabel.trans_le (length_le_utf8ByteSize longLabel))

end ReportText

/-! ## Reports as JSON -/

namespace Json.Printer

theorem items_eq_map (level : Nat) (list : List Value) :
    items level list = list.map (value level) := by
  induction list with
  | nil => rfl
  | cons item rest ih => rw [items, ih, List.map_cons]

/-- Items with a comma and a new line in front of each but the first one have them behind
each but the last one. -/
theorem newline_append_flatMap (level : Nat) (first : Text) (others : List Text) :
    newline level ++ first ++ others.flatMap (fun item => ',' :: newline level ++ item) ++
        ',' :: newline level =
      (first :: others).flatMap (fun item => newline level ++ item ++ [',']) ++ newline level := by
  induction others generalizing first with
  | nil => simp
  | cons second rest ih =>
      have behind := congrArg (newline level ++ first ++ [','] ++ ·) (ih second)
      simpa using behind

/-- What is printed between brackets begins with what is printed up to an item, and the item
comes next. -/
theorem exists_bracketed_eq_append (opening closing : Char) (level : Nat) (before : List Text)
    (item : Text) (behind : List Text) :
    ∃ rest, bracketed opening closing level (before ++ item :: behind) =
      bracketedFront opening level before ++ item ++ rest := by
  refine ⟨behind.flatMap (fun item => ',' :: newline (level + 1) ++ item) ++
    newline level ++ [closing], ?_⟩
  cases before with
  | nil => simp [bracketed, bracketedFront]
  | cons first others =>
      have front : bracketedFront opening level (first :: others) =
          opening :: (newline (level + 1) ++ first ++
            others.flatMap (fun item => ',' :: newline (level + 1) ++ item) ++
              ',' :: newline (level + 1)) :=
        congrArg (opening :: ·) (newline_append_flatMap (level + 1) first others).symm
      rw [front]
      simp [bracketed]

end Json.Printer

namespace Report

open Json

/-- A report is written whole when all its directories are named by texts. -/
theorem writeJson_of_texts (report : Report) {directories : List NativeText}
    (texts : ∀ directory ∈ directories, directory.isText) :
    report.writeJson directories = .whole report.toJsonText :=
  if_pos (List.all_eq_true.mpr texts)

/-- The first directory that is named by no text stops the writing in front of its name. -/
theorem writeJson_of_not_text (report : Report) {earlier : List NativeText}
    {directory : NativeText} (texts : ∀ directory ∈ earlier, directory.isText)
    (noText : ¬ directory.isText) (later : List NativeText) :
    report.writeJson (earlier ++ directory :: later) =
      ⟨jsonBefore (report.rows.take earlier.length), some .pathNotUtf8⟩ := by
  have printed : (earlier ++ directory :: later).takeWhile NativeText.isText = earlier := by
    rw [List.takeWhile_append_of_pos texts, List.takeWhile_cons_of_neg noText, List.append_nil]
  have notAll : ¬ (earlier ++ directory :: later).all NativeText.isText := by
    intro all
    exact noText (List.all_eq_true.mp all _ (List.mem_append_right _ List.mem_cons_self))
  rw [writeJson, if_neg notAll, printed]

/-- A row is printed from the name of its directory on. -/
theorem exists_printed_row_eq_append (row : DirectoryRow) :
    ∃ rest, Printer.value 2 row.toJson =
      Printer.bracketedFront '\x7b' 2 [] ++
        (Printer.string "directory" ++ ": ".toList ++ Printer.string row.directory) ++ rest :=
  Printer.exists_bracketed_eq_append '\x7b' '\x7d' 2 [] _ _

/-- The rows are printed one after another. -/
theorem exists_printed_rows_eq_append (earlier later : List DirectoryRow) (row : DirectoryRow) :
    ∃ rest, Printer.value 1 (.array ((earlier ++ row :: later).map DirectoryRow.toJson)) =
      Printer.bracketedFront '[' 1 (earlier.map fun row => Printer.value 2 row.toJson) ++
        Printer.value 2 row.toJson ++ rest := by
  rw [Printer.value_array, Printer.items_eq_map, List.map_map, List.map_append, List.map_cons]
  exact Printer.exists_bracketed_eq_append '[' ']' 1 _ _ _

/-- A report is printed from its rows on. -/
theorem exists_printed_report_eq_append (report : Report) :
    ∃ rest, print report.toJson =
      Printer.bracketedFront '\x7b' 0 [] ++ (Printer.string "directories" ++ ": ".toList ++
        Printer.value 1 (.array (report.rows.map DirectoryRow.toJson))) ++ rest :=
  Printer.exists_bracketed_eq_append '\x7b' '\x7d' 0 [] _ _

/-- What has been written of a report up to the name of a directory is a proper beginning of
its JSON text: the name comes next. -/
theorem exists_toJsonText_eq_append {report : Report} {earlier later : List DirectoryRow}
    {row : DirectoryRow} (rows : report.rows = earlier ++ row :: later) :
    ∃ after, report.toJsonText =
      jsonBefore earlier ++ String.ofList (Printer.string row.directory) ++ after := by
  obtain ⟨behindRows, printed⟩ := exists_printed_report_eq_append report
  obtain ⟨behindRow, printedRows⟩ := exists_printed_rows_eq_append earlier later row
  obtain ⟨behindName, printedRow⟩ := exists_printed_row_eq_append row
  refine ⟨String.ofList (behindName ++ behindRow ++ behindRows) ++ "\n", ?_⟩
  rw [toJsonText, printed, rows, printedRows, printedRow, jsonBefore]
  simp only [String.ofList_append, String.append_assoc]

end Report

/-! ## Both forms -/

/-- What may stop the writing of a report in one of its forms. -/
def ReportFormat.fault : ReportFormat → WriteFault
  | text => .widthOutOfRange
  | json => .pathNotUtf8

namespace Report

/-- Nothing stops the writing of a report on these directories in one of its forms. -/
def CanBeWritten (report : Report) (directories : List NativeText) : ReportFormat → Prop
  | .text => ∀ row ∈ report.rows, ReportText.LabelsFit row
  | .json => ∀ directory ∈ directories, directory.isText

variable {report : Report} {directories : List NativeText} {format : ReportFormat}

theorem fault_render_of_canBeWritten (can : report.CanBeWritten directories format) :
    (report.render directories format).fault = none := by
  cases format with
  | text => exact congrArg Written.fault (ReportText.toText_of_labelsFit can report.totals)
  | json => exact congrArg Written.fault (report.writeJson_of_texts can)

theorem fault_render_of_not_canBeWritten (cannot : ¬ report.CanBeWritten directories format) :
    (report.render directories format).fault = some format.fault := by
  cases format with
  | text =>
      obtain ⟨earlier, row, later, rows, fit, unfit⟩ := exists_first_of_not_all cannot
      have written := ReportText.toText_of_not_labelsFit fit unfit later report.totals
      rw [← rows] at written
      exact congrArg Written.fault written
  | json =>
      obtain ⟨earlier, directory, later, parts, texts, noText⟩ := exists_first_of_not_all cannot
      have written := report.writeJson_of_not_text texts noText later
      rw [← parts] at written
      exact congrArg Written.fault written

/-- What has been written of a report as JSON when a name stops the writing is a proper
beginning of its text. -/
theorem exists_toJsonText_eq_of_not_canBeWritten
    (sameLength : report.rows.length = directories.length)
    (cannot : ¬ report.CanBeWritten directories .json) :
    ∃ row ∈ report.rows, ∃ after, report.toJsonText =
      (report.writeJson directories).text ++ String.ofList (Json.Printer.string row.directory) ++
        after := by
  obtain ⟨earlier, directory, later, rfl, texts, noText⟩ := exists_first_of_not_all cannot
  have within : earlier.length < report.rows.length := by
    rw [sameLength, List.length_append, List.length_cons]
    omega
  have rows := List.take_append_drop earlier.length report.rows
  rw [List.drop_eq_getElem_cons within] at rows
  obtain ⟨after, text⟩ := exists_toJsonText_eq_append rows.symm
  rw [report.writeJson_of_not_text texts noText later]
  exact ⟨_, List.getElem_mem within, after, text⟩

end Report

end SourceLines
