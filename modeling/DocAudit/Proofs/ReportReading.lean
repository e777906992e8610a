import DocAudit.ReportJson
import Mathlib.Data.List.Forall2

set_option autoImplicit false

namespace DocAudit

namespace Json

def IsCount (n : Nat) : Prop := (n : Int) < wordSize

instance (n : Nat) : Decidable (IsCount n) := inferInstanceAs (Decidable (_ < _))

theorem asCount?_int {n : Nat} (isCount : IsCount n) : (Json.int n).asCount? = some n := by
  have within : 0 ≤ (n : Int) ∧ (n : Int) < wordSize := ⟨Int.natCast_nonneg n, isCount⟩
  rw [asCount?, if_pos within, Int.toNat_natCast]

theorem mapM_of_forall₂ {α : Type} {read : Json → Option α} {items : List Json} {values : List α}
    (each : List.Forall₂ (fun item value => read item = some value) items values) :
    items.mapM read = some values := by
  induction each with
  | nil => rfl
  | cons first _ ih => simp [List.mapM_cons, first, ih]

theorem asStrings?_arr (texts : List String) :
    (Json.arr (texts.map .str)).asStrings? = some texts := by
  apply mapM_of_forall₂
  rw [List.forall₂_map_left_iff, List.forall₂_same]
  exact fun _ _ => rfl

end Json

open Json (field?)

namespace Location

def Fits (location : Location) : Prop :=
  Json.IsCount location.line ∧ Json.IsCount location.column ∧ Json.IsCount location.offset ∧
    Json.IsCount location.length

instance (location : Location) : Decidable location.Fits :=
  inferInstanceAs (Decidable (_ ∧ _))

structure WrittenIn (fields : List (String × Json)) (location : Location) : Prop where
  file : field? fields "file" = some (.str location.file.toString)
  line : field? fields "line" = some (.int location.line)
  column : field? fields "column" = some (.int location.column)
  offset : field? fields "offset" = some (.int location.offset)
  length : field? fields "length" = some (.int location.length)

theorem WrittenIn.read {fields : List (String × Json)} {location : Location}
    (written : location.WrittenIn fields) (fits : location.Fits) :
    ofJson? (.obj fields) = some location := by
  obtain ⟨line, column, offset, length⟩ := fits
  have file : Path.ofString location.file.toString = location.file := by
    simp [Path.ofString, Path.toString]
  simp [ofJson?, Json.record?, written.file, written.line, written.column, written.offset,
    written.length, Json.asString?, Json.asCount?_int, line, column, offset, length, file]

theorem toJson_written (location : Location) :
    ∃ fields, location.toJson = .obj fields ∧ location.WrittenIn fields :=
  ⟨_, rfl, rfl, rfl, rfl, rfl, rfl⟩

end Location

namespace Finding

/-- A finding as the fields of a JSON object, in any order and with others among them. A message
key that is absent may be left out or null, and arguments that are none left out or an empty
list. -/
structure WrittenIn (fields : List (String × Json)) (finding : Finding) : Prop where
  code : field? fields "code" = some (.str finding.code)
  rule : field? fields "rule" = some (.str finding.rule)
  severity : field? fields "severity" = some (.str finding.severity.name)
  location : ∃ inner, field? fields "location" = some (.obj inner) ∧
    finding.location.WrittenIn inner
  message : field? fields "message" = some (.str finding.message)
  messageKey : field? fields "message_key" = some (finding.messageKey.elim .null .str) ∨
    finding.messageKey = none ∧ field? fields "message_key" = none
  arguments : field? fields "arguments" = some (.arr (finding.arguments.map .str)) ∨
    finding.arguments = [] ∧ field? fields "arguments" = none

variable {fields : List (String × Json)} {finding : Finding}

theorem WrittenIn.readKey (written : finding.WrittenIn fields) :
    ((field? fields "message_key").map Json.asOptionalString?).getD (some none) =
      some finding.messageKey := by
  rcases written.messageKey with present | ⟨absent, missing⟩
  · rw [present]
    cases finding.messageKey <;> rfl
  · rw [missing, absent]
    rfl

theorem WrittenIn.readArguments (written : finding.WrittenIn fields) :
    ((field? fields "arguments").map Json.asStrings?).getD (some []) =
      some finding.arguments := by
  rcases written.arguments with present | ⟨absent, missing⟩
  · rw [present]
    exact Json.asStrings?_arr finding.arguments
  · rw [missing, absent]
    rfl

theorem WrittenIn.read (written : finding.WrittenIn fields) (fits : finding.location.Fits) :
    ofJson? (.obj fields) = some finding := by
  obtain ⟨inner, inFields, place⟩ := written.location
  simp [ofJson?, Json.record?, written.code, written.rule, written.severity, inFields,
    written.message, written.readKey, written.readArguments, Json.asString?, Severity.ofJson?,
    place.read fits]

structure Omits (fields : List (String × Json)) (finding : Finding) : Prop where
  messageKey : field? fields "message_key" = none ↔ finding.messageKey = none
  arguments : field? fields "arguments" = none ↔ finding.arguments = []

theorem toJson_written (finding : Finding) :
    ∃ fields, finding.toJson = .obj fields ∧ finding.WrittenIn fields ∧ finding.Omits fields := by
  obtain ⟨inner, made, written⟩ := finding.location.toJson_written
  refine ⟨_, rfl, ⟨rfl, rfl, rfl, ⟨inner, congrArg some made, written⟩, rfl, ?_, ?_⟩, ⟨?_, ?_⟩⟩
  all_goals
    cases key : finding.messageKey <;> cases arguments : finding.arguments <;>
      simp [field?]

end Finding

namespace Report

def Fits (report : Report) : Prop :=
  Json.IsCount report.filesChecked ∧ Json.IsCount report.filesAborted ∧
    ∀ finding ∈ report.findings, finding.location.Fits

instance (report : Report) : Decidable report.Fits := inferInstanceAs (Decidable (_ ∧ _))

/-- A report as the fields of a JSON object; a count of no aborted files may be left out. -/
structure WrittenIn (fields : List (String × Json)) (report : Report) : Prop where
  findings : ∃ items, field? fields "violations" = some (.arr items) ∧
    List.Forall₂ (fun item finding => ∃ inner, item = Json.obj inner ∧ finding.WrittenIn inner)
      items report.findings
  filesChecked : field? fields "files_checked" = some (.int report.filesChecked)
  filesAborted : field? fields "files_aborted" = some (.int report.filesAborted) ∨
    report.filesAborted = 0 ∧ field? fields "files_aborted" = none

variable {fields : List (String × Json)} {report : Report}

theorem WrittenIn.readAborted (written : report.WrittenIn fields) (fits : report.Fits) :
    ((field? fields "files_aborted").map Json.asCount?).getD (some 0) =
      some report.filesAborted := by
  rcases written.filesAborted with present | ⟨none, missing⟩
  · rw [present, Option.map_some, Option.getD_some, Json.asCount?_int fits.2.1]
  · rw [missing, none]
    rfl

theorem readFindings {items : List Json} {findings : List Finding}
    (written : List.Forall₂
      (fun item finding => ∃ inner, item = Json.obj inner ∧ finding.WrittenIn inner)
      items findings)
    (fits : ∀ finding ∈ findings, finding.location.Fits) :
    items.mapM Finding.ofJson? = some findings := by
  apply Json.mapM_of_forall₂
  induction written with
  | nil => exact .nil
  | @cons item finding items findings first _ ih =>
    obtain ⟨inner, rfl, written⟩ := first
    refine .cons (written.read (fits finding (.head _))) (ih fun later listed => ?_)
    exact fits later (.tail _ listed)

theorem WrittenIn.read (written : report.WrittenIn fields) (fits : report.Fits) :
    ofJson? (.obj fields) = some report := by
  obtain ⟨items, inFields, each⟩ := written.findings
  simp [ofJson?, Json.record?, inFields, written.filesChecked, written.readAborted fits,
    Json.asList?, readFindings each fits.2.2, Json.asCount?_int fits.1]

theorem toJson_written (report : Report) :
    ∃ fields, report.toJson = .obj fields ∧ report.WrittenIn fields := by
  refine ⟨_, rfl, ⟨_, rfl, ?_⟩, rfl, .inl rfl⟩
  rw [List.forall₂_map_left_iff, List.forall₂_same]
  intro finding _
  obtain ⟨inner, made, written, _⟩ := finding.toJson_written
  exact ⟨inner, made, written⟩

theorem ofJson?_toJson {report : Report} (fits : report.Fits) :
    ofJson? report.toJson = some report ∧
      (ofJson? report.toJson).map toJson = some report.toJson ∧
      (∀ finding ∈ report.findings, ∃ fields, finding.toJson = .obj fields ∧
        finding.WrittenIn fields ∧ finding.Omits fields) ∧
      ∀ fields, report.WrittenIn fields → ofJson? (.obj fields) = some report := by
  obtain ⟨fields, made, written⟩ := report.toJson_written
  have read : ofJson? report.toJson = some report := by
    rw [made]
    exact written.read fits
  refine ⟨read, ?_, fun finding _ => finding.toJson_written, fun _ written => written.read fits⟩
  rw [read, Option.map_some]

-- A finding with all fields, and one with neither a key nor arguments at the greatest offset.
private def reread : Report :=
  ⟨[⟨"DL002", "javadoc-method", .error, ⟨.ofString "src/\u00c9.java", 4, 1, 20, 3⟩, "Missing.",
      some "javadoc.expectedTag", ["@param", ""]⟩,
    ⟨"DL001", "internal-comments", .info, ⟨.ofString "", 0, 0, 0xffffffffffffffff, 0⟩, "\"\n", none,
      []⟩], 2, 0⟩

-- The same report in another order. Nothing is left out of its second finding, which has one more
-- field, and the count of aborted files is left out.
private def rereadFields : List (String × Json) :=
  [("files_checked", .int 2),
    ("violations", .arr [
      (reread.findings.map Finding.toJson).headD .null,
      .obj [("arguments", .arr []), ("message_key", .null), ("note", .bool true),
        ("message", .str "\"\n"), ("severity", .str "info"), ("rule", .str "internal-comments"),
        ("code", .str "DL001"),
        ("location", .obj [("length", .int 0), ("offset", .int 0xffffffffffffffff),
          ("column", .int 0), ("line", .int 0), ("file", .str "")])]])]

theorem ofJson?_toJson_reread :
    reread.Fits ∧ ofJson? reread.toJson = some reread ∧ reread.WrittenIn rereadFields ∧
      ofJson? (.obj rereadFields) = some reread := by
  have fits : reread.Fits := by decide
  have written : reread.WrittenIn rereadFields := by
    refine ⟨⟨_, rfl, .cons ?_ (.cons ?_ .nil)⟩, rfl, .inr ⟨rfl, rfl⟩⟩
    · obtain ⟨inner, made, written, _⟩ := Finding.toJson_written _
      exact ⟨inner, made, written⟩
    · exact ⟨_, rfl, rfl, rfl, rfl, ⟨_, rfl, rfl, rfl, rfl, rfl, rfl⟩, rfl, .inl rfl, .inl rfl⟩
  obtain ⟨read, _, _, readFields⟩ := ofJson?_toJson fits
  exact ⟨fits, read, written, readFields _ written⟩

end Report

end DocAudit
