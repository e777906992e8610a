import DocAudit.Proofs.FileDiscovery
import DocAudit.Proofs.RelativePath
import DocAudit.Proofs.RuleContributions
import DocAudit.Proofs.StableSort

set_option autoImplicit false

namespace DocAudit

namespace Finding

theorem order_eq : order =
    compareLex (fun a b => a.location.file.order b.location.file)
      (compareLex (compareOn (·.location.line)) (compareOn (·.location.column))) := by
  funext a b
  simp only [order, compareLex, compareOn]
  cases a.location.file.order b.location.file <;>
    cases compare a.location.line b.location.line <;> rfl

instance : Std.TransCmp fun a b : Finding => a.location.file.order b.location.file where
  eq_swap := Std.OrientedCmp.eq_swap
  isLE_trans := Std.TransCmp.isLE_trans

instance : Std.TransCmp order := order_eq ▸ inferInstance

theorem order_isLE : (fun a b : Finding => a.order b != .gt) = fun a b => (a.order b).isLE := by
  funext a b
  cases a.order b <;> rfl

theorem isLE_total (a b : Finding) : ((a.order b).isLE || (b.order a).isLE) = true := by
  have swapped : b.order a = (a.order b).swap := Std.OrientedCmp.eq_swap
  rw [swapped]
  cases a.order b <;> rfl

theorem sorted_ordered (findings : List Finding) :
    (sorted findings).Pairwise fun a b => (a.order b).isLE = true := by
  rw [sorted, order_isLE]
  exact List.pairwise_mergeSort (fun _ _ _ => Std.TransCmp.isLE_trans) isLE_total findings

theorem sorted_perm (findings : List Finding) : (sorted findings).Perm findings :=
  List.mergeSort_perm ..

def standsAt (file : Path) (line column : Nat) (finding : Finding) : Bool :=
  finding.location.file.order file == .eq && finding.location.line == line &&
    finding.location.column == column

theorem order_of_standsAt {file : Path} {line column : Nat} {a b : Finding}
    (here : a.standsAt file line column = true) (there : b.standsAt file line column = true) :
    a.order b = .eq := by
  simp only [standsAt, Bool.and_eq_true, beq_iff_eq] at here there
  obtain ⟨⟨inFile, onLine⟩, atColumn⟩ := here
  obtain ⟨⟨alsoInFile, alsoOnLine⟩, alsoAtColumn⟩ := there
  have sameFile : a.location.file.order b.location.file = .eq :=
    Std.TransCmp.eq_trans inFile (Std.OrientedCmp.eq_symm alsoInFile)
  simp [order, sameFile, onLine, alsoOnLine, atColumn, alsoAtColumn]

theorem sorted_filter (file : Path) (line column : Nat) (findings : List Finding) :
    (sorted findings).filter (standsAt file line column) =
      findings.filter (standsAt file line column) := by
  rw [sorted, order_isLE]
  refine filter_mergeSort (fun _ _ _ => Std.TransCmp.isLE_trans) isLE_total ?_ findings
  intro a b here there
  rw [order_of_standsAt here there]
  rfl

end Finding

namespace Audit

section Files

variable (audit : Audit) (files : FileAccess)

-- A file with its declarations, if it can be read and parsed.
def source? (path : Path) : Option (SourceFile × CompilationUnit) :=
  (files.read? path).bind fun content =>
    (audit.language.parse? content.toList).map fun unit =>
      (.ofContent path content audit.root, unit)

def parses (path : Path) : Bool := (audit.source? files path).isSome

-- The parts of all rules, in the order of the rules.
def findingsIn (path : Path) : List Finding :=
  (audit.source? files path).elim [] fun source =>
    audit.rules.flatMap (audit.settings.contribution source.1 source.2)

def abortsIn (path : Path) : Bool :=
  (audit.source? files path).any fun source =>
    audit.rules.any (audit.settings.fails source.1 source.2)

-- What ends the audit at a file.
def stopsAt? (path : Path) : Option AuditError :=
  if files.read? path = none then some (.unreadable path)
  else if audit.failOnParseError && !audit.parses files path then some (.syntaxError path)
  else none

def collect (report : Report) (paths : List Path) : Report :=
  ⟨report.findings ++ paths.flatMap (audit.findingsIn files),
    report.filesChecked + paths.countP (audit.parses files),
    report.filesAborted + paths.countP (audit.abortsIn files)⟩

theorem checkFiles_cons (report : Report) (path : Path) (rest : List Path) :
    (audit.checkFiles files report (path :: rest)).value =
      match audit.stopsAt? files path with
      | some error => .error error
      | none => (audit.checkFiles files (audit.collect files report [path]) rest).value := by
  rw [checkFiles]
  cases read : files.read? path with
  | none => simp [stopsAt?, read, Warned.pure]
  | some content =>
    cases parsed : audit.language.parse? content.toList with
    | none =>
      have absent : audit.source? files path = none := by simp [source?, read, parsed]
      have unchanged : audit.collect files report [path] = report := by
        simp [collect, findingsIn, parses, abortsIn, absent]
      rw [unchanged]
      cases stops : audit.failOnParseError <;>
        simp [checkText?, parsed, stopsAt?, read, stops, parses, absent, Warned.warn, Warned.pure]
    | some unit =>
      have present :
          audit.source? files path = some (.ofContent path content audit.root, unit) := by
        simp [source?, read, parsed]
      have added : report.add
          (audit.settings.runRules audit.rules (.ofContent path content audit.root) unit) =
            audit.collect files report [path] := by
        simp [Report.add, collect, findingsIn, parses, abortsIn, present,
          Settings.runRules_findings, Settings.runRules_isAborted]
      simp [checkText?, parsed, stopsAt?, read, parses, present, Warned.andThen, added]

theorem checkFiles_value (report : Report) (paths : List Path) :
    (audit.checkFiles files report paths).value =
      match paths.findSome? (audit.stopsAt? files) with
      | some error => .error error
      | none => .ok (audit.collect files report paths) := by
  induction paths generalizing report with
  | nil => simp [checkFiles, Warned.pure, collect]
  | cons path rest ih =>
    rw [checkFiles_cons, List.findSome?_cons]
    cases audit.stopsAt? files path with
    | some error => rfl
    | none =>
      have together : audit.collect files (audit.collect files report [path]) rest =
          audit.collect files report (path :: rest) := by
        simp [collect, List.countP_cons, List.append_assoc]
        omega
      simp only [ih, together]

theorem mem_findingsIn (placed : ∀ rule ∈ audit.rules, rule.PlacesInFile) {path : Path}
    {finding : Finding} (member : finding ∈ audit.findingsIn files path) :
    finding.location.file = path.relativeTo audit.root := by
  unfold findingsIn at member
  cases found : audit.source? files path with
  | none => simp [found] at member
  | some source =>
    rw [found] at member
    obtain ⟨content, _, parsed⟩ := Option.bind_eq_some_iff.mp found
    obtain ⟨unit, _, rfl⟩ := Option.map_eq_some_iff.mp parsed
    obtain ⟨rule, listed, contributed⟩ := List.mem_flatMap.mp member
    exact Settings.contribution_file (placed rule listed) contributed

end Files

variable {audit : Audit} {files : FileAccess} {paths : List Path}

theorem findSome?_stopsAt? (readable : ∀ path ∈ paths, (files.read? path).isSome = true)
    (error : AuditError) :
    paths.findSome? (audit.stopsAt? files) = some error ↔
      audit.failOnParseError = true ∧
        ∃ path, paths.find? (!audit.parses files ·) = some path ∧ error = .syntaxError path := by
  induction paths with
  | nil => simp
  | cons path rest ih =>
    obtain ⟨here, later⟩ := List.forall_mem_cons.mp readable
    have held : files.read? path ≠ none := Option.isSome_iff_ne_none.mp here
    rw [List.findSome?_cons, List.find?_cons, stopsAt?, if_neg held]
    cases parsed : audit.parses files path with
    | true => simpa using ih later
    | false =>
      cases stops : audit.failOnParseError with
      | true => simp [eq_comm]
      | false => simpa [stops] using ih later

section Discovered

variable [GlobReader]

theorem keep_subset {found : List (Except Path Path)} (kept : audit.keep found = .ok paths) :
    ∀ path ∈ paths, .ok path ∈ found := by
  induction found generalizing paths with
  | nil =>
    cases kept
    nofun
  | cons entry rest ih =>
    cases entry with
    | error path => cases kept
    | ok first =>
      rw [keep] at kept
      cases later : audit.keep rest with
      | error e => rw [later] at kept; cases kept
      | ok more =>
        rw [later] at kept
        cases kept
        intro path member
        split at member
        next => exact List.mem_cons_of_mem _ (ih later path member)
        next =>
          rcases List.mem_cons.mp member with rfl | member
          · exact List.mem_cons_self
          · exact List.mem_cons_of_mem _ (ih later path member)

theorem findAll_absolute {extensions : List String}
    (found : audit.findAll files extensions = .ok paths) :
    ∀ path ∈ paths, path.isAbsolute = true := by
  induction extensions generalizing paths with
  | nil =>
    cases found
    nofun
  | cons extension rest ih =>
    rw [findAll] at found
    split at found
    next => cases found
    next here search =>
      cases kept : audit.keep here with
      | error e => rw [kept] at found; cases found
      | ok first =>
        cases later : audit.findAll files rest with
        | error e => rw [kept, later] at found; cases found
        | ok more =>
          rw [kept, later] at found
          cases found
          intro path member
          rcases List.mem_append.mp member with member | member
          · exact files.absolute _ _ path search (keep_subset kept path member)
          · exact ih later path member

theorem discover_distinct (discovered : audit.discover files = .ok paths) :
    paths.Pairwise (fun a b => a.order b = .lt) ∧ ∀ path ∈ paths, path.isAbsolute = true := by
  unfold discover at discovered
  cases found : audit.findAll files audit.language.extensions with
  | error e => rw [found] at discovered; cases discovered
  | ok all =>
    rw [found] at discovered
    cases discovered
    refine ⟨Path.sorted_increasing all, fun path member => findAll_absolute found path ?_⟩
    exact List.mem_mergeSort.mp (Path.mem_of_mem_dropRepeats member)

-- Of all files, only the one whose place is asked for has findings there.
theorem filter_flatMap_findingsIn (placed : ∀ rule ∈ audit.rules, rule.PlacesInFile)
    (discovered : audit.discover files = .ok paths) {path : Path}
    (member : path ∈ paths) (line column : Nat) :
    (paths.flatMap (audit.findingsIn files)).filter
        (Finding.standsAt (path.relativeTo audit.root) line column) =
      (audit.findingsIn files path).filter
        (Finding.standsAt (path.relativeTo audit.root) line column) := by
  obtain ⟨increasing, absolute⟩ := discover_distinct discovered
  have elsewhere : ∀ other ∈ paths, other.order path ≠ .eq →
      (audit.findingsIn files other).filter
        (Finding.standsAt (path.relativeTo audit.root) line column) = [] := by
    intro other inPaths apart
    refine List.filter_eq_nil_iff.mpr fun finding found here => apart ?_
    simp only [Finding.standsAt, Bool.and_eq_true, beq_iff_eq] at here
    rw [audit.mem_findingsIn files placed found, Path.order_eq_iff] at here
    exact Path.order_eq_iff.mpr
      (Path.relativeTo_inj (absolute other inPaths) (absolute path member) here.1.1)
  obtain ⟨before, after, rfl⟩ := List.append_of_mem member
  obtain ⟨_, onward, ahead⟩ := List.pairwise_append.mp increasing
  have noneBefore : before.flatMap (fun other => (audit.findingsIn files other).filter
      (Finding.standsAt (path.relativeTo audit.root) line column)) = [] := by
    refine List.flatMap_eq_nil_iff.mpr fun other inBefore => ?_
    have less := ahead other inBefore path List.mem_cons_self
    exact elsewhere other (List.mem_append_left _ inBefore) (by simp [less])
  have noneAfter : after.flatMap (fun other => (audit.findingsIn files other).filter
      (Finding.standsAt (path.relativeTo audit.root) line column)) = [] := by
    refine List.flatMap_eq_nil_iff.mpr fun other inAfter => ?_
    have less := (List.pairwise_cons.mp onward).1 other inAfter
    have more : other.order path = .gt := Std.OrientedCmp.gt_of_lt less
    exact elsewhere other (List.mem_append_right _ (List.mem_cons_of_mem path inAfter))
      (by simp [more])
  rw [List.filter_flatMap, List.flatMap_append, List.flatMap_cons, noneBefore, noneAfter,
    List.nil_append, List.append_nil]

theorem run_value (discovered : audit.discover files = .ok paths) :
    (audit.run files).value =
      match paths.findSome? (audit.stopsAt? files) with
      | some error => .error error
      | none => .ok ⟨Finding.sorted (paths.flatMap (audit.findingsIn files)),
          paths.countP (audit.parses files), paths.countP (audit.abortsIn files)⟩ := by
  simp only [run, discovered, Warned.map, checkFiles_value]
  cases paths.findSome? (audit.stopsAt? files) <;>
    simp [Except.map, collect, Report.empty]

theorem run_report (discovered : audit.discover files = .ok paths) :
    paths.Pairwise (fun a b => a.order b = .lt) ∧
    (∀ report, (audit.run files).value = .ok report →
      report.findings.Pairwise (fun a b => (a.order b).isLE = true) ∧
      report.findings.Perm (paths.flatMap (audit.findingsIn files)) ∧
      (∀ file line column, report.findings.filter (Finding.standsAt file line column) =
        (paths.flatMap (audit.findingsIn files)).filter (Finding.standsAt file line column)) ∧
      ((∀ rule ∈ audit.rules, rule.PlacesInFile) →
        ∀ path ∈ paths, (∀ finding ∈ audit.findingsIn files path,
            finding.location.file = path.relativeTo audit.root) ∧
          ∀ line column,
            report.findings.filter (Finding.standsAt (path.relativeTo audit.root) line column) =
              (audit.findingsIn files path).filter
                (Finding.standsAt (path.relativeTo audit.root) line column)) ∧
      report.filesChecked = paths.countP (audit.parses files) ∧
      report.filesAborted = paths.countP (audit.abortsIn files)) ∧
    ((∀ path ∈ paths, (files.read? path).isSome = true) →
      ∀ error, (audit.run files).value = .error error ↔
        audit.failOnParseError = true ∧
          ∃ path, paths.find? (!audit.parses files ·) = some path ∧ error = .syntaxError path) := by
  refine ⟨(discover_distinct discovered).1, fun report succeeds => ?_, fun readable error => ?_⟩
  next =>
    rw [run_value discovered] at succeeds
    split at succeeds
    next => cases succeeds
    next =>
      cases succeeds
      refine ⟨Finding.sorted_ordered _, Finding.sorted_perm _, ?_, ?_, rfl, rfl⟩
      · exact fun file line column => Finding.sorted_filter file line column _
      · refine fun placed path member => ⟨fun finding => audit.mem_findingsIn files placed, ?_⟩
        intro line column
        rw [Finding.sorted_filter, filter_flatMap_findingsIn placed discovered member]
  next =>
    rw [← findSome?_stopsAt? readable, run_value discovered]
    cases paths.findSome? (audit.stopsAt? files) <;> simp

end Discovered

-- Two files with findings, and between them one that does not parse.
private def mixedFiles : FileSystem :=
  ⟨.directory [("p".toList, .directory
    [("A.java".toList, .file "\nclass A \x7b\x7d".toUTF8),
      ("B.java".toList, .file "class".toUTF8),
      ("C.java".toList, .file "class C \x7b void m() \x7b\x7d \x7d".toUTF8)])], .ofString "/"⟩

private def mixedPaths : List Path :=
  [.ofString "/p/A.java", .ofString "/p/B.java", .ofString "/p/C.java"]

-- A rule with a severity set for it, one that is switched off, and one that fails on every file.
private def mixedRules : List Check :=
  [(Rule.typeDoc .standard).asCheck, (Rule.methodDoc .standard).asCheck,
    ⟨"failing", fun _ _ => .error .lookupAtLineZero⟩]

private def mixedSettings : Settings :=
  ⟨none, .standard,
    [(TypeDoc.name, ⟨none, some .info, []⟩), (MethodDoc.name, ⟨some false, none, []⟩)]⟩

private def mixedAudit (failOnParseError : Bool) : Audit :=
  ⟨.ofString "/p", mixedRules, .java, [], mixedSettings, failOnParseError⟩

private theorem discover_mixed (failOnParseError : Bool) :
    (mixedAudit failOnParseError).discover mixedFiles = .ok mixedPaths := by
  have found : mixedFiles.find? ((mixedAudit failOnParseError).pattern "java") =
      some (mixedPaths.map .ok) := by cases failOnParseError <;> decide +kernel
  have sorted : Path.sorted mixedPaths = mixedPaths := Path.sorted_of_increasing (by decide +kernel)
  have kept : (mixedAudit failOnParseError).keep (mixedPaths.map .ok) = .ok mixedPaths := rfl
  rw [discover_value rfl found, kept, Except.map, sorted]

private theorem mixedRules_place : ∀ rule ∈ mixedRules, rule.PlacesInFile := by
  rw [mixedRules, List.forall_mem_cons, List.forall_mem_cons, List.forall_mem_singleton]
  exact ⟨Rule.asCheck_placesInFile _, Rule.asCheck_placesInFile _, fun _ _ _ => nofun⟩

theorem run_report_mixed :
    (mixedAudit false).discover mixedFiles = .ok mixedPaths ∧
    (∃ report, ((mixedAudit false).run mixedFiles).value = .ok report ∧
      (report.findings.map fun finding =>
        (finding.rule, finding.severity, finding.location.file.toString)).Perm
          [(TypeDoc.name, .info, "A.java"), (TypeDoc.name, .info, "C.java")] ∧
      (report.findings.filter (Finding.standsAt (.ofString "A.java") 2 1)).length = 1 ∧
      report.filesChecked = 2 ∧ report.filesAborted = 2) ∧
    (mixedAudit true).discover mixedFiles = .ok mixedPaths ∧
    ((mixedAudit true).run mixedFiles).value = .error (.syntaxError (.ofString "/p/B.java")) := by
  have readable : ∀ path ∈ mixedPaths, (mixedFiles.read? path).isSome = true := by decide +kernel
  refine ⟨discover_mixed false, ?_, discover_mixed true, ?_⟩
  next =>
    obtain ⟨_, whole, ends⟩ := run_report (discover_mixed false)
    cases value : ((mixedAudit false).run mixedFiles).value with
    | error error => cases ((ends readable error).mp value).1
    | ok report =>
      obtain ⟨_, same, _, placed, checked, aborted⟩ := whole report value
      have first : report.findings.filter (Finding.standsAt
          ((Path.ofString "/p/A.java").relativeTo (.ofString "/p")) 2 1) =
          ((mixedAudit false).findingsIn mixedFiles (.ofString "/p/A.java")).filter
            (Finding.standsAt ((Path.ofString "/p/A.java").relativeTo (.ofString "/p")) 2 1) :=
        (placed mixedRules_place (.ofString "/p/A.java") List.mem_cons_self).2 2 1
      have root : (Path.ofString "/p/A.java").relativeTo (.ofString "/p") =
          .ofString "A.java" := by decide +kernel
      have one : (((mixedAudit false).findingsIn mixedFiles (.ofString "/p/A.java")).filter
          (Finding.standsAt (.ofString "A.java") 2 1)).length = 1 := by
        decide +kernel
      rw [root] at first
      have checkedTwo : mixedPaths.countP ((mixedAudit false).parses mixedFiles) = 2 := by
        decide +kernel
      have abortedTwo : mixedPaths.countP ((mixedAudit false).abortsIn mixedFiles) = 2 := by
        decide +kernel
      have found : (mixedPaths.flatMap ((mixedAudit false).findingsIn mixedFiles)).map
          (fun finding => (finding.rule, finding.severity, finding.location.file.toString)) =
            [(TypeDoc.name, .info, "A.java"), (TypeDoc.name, .info, "C.java")] := by
        decide +kernel
      refine ⟨report, rfl, found ▸ same.map _, ?_, checked.trans checkedTwo,
        aborted.trans abortedTwo⟩
      rw [first, one]
  next =>
    obtain ⟨_, _, ends⟩ := run_report (discover_mixed true)
    refine (ends readable _).mpr ⟨rfl, .ofString "/p/B.java", ?_, rfl⟩
    decide +kernel

end Audit

end DocAudit
