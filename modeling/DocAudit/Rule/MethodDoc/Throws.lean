import DocAudit.ClassHierarchy
import DocAudit.Message
import DocAudit.Rule.MethodDoc.Options
import DocAudit.Tag

set_option autoImplicit false

namespace DocAudit

structure DeclaredException where
  name : Identifier
  resolved : Option String
  found : Bool
  reported : Bool
deriving DecidableEq, Repr

namespace MethodDoc

def unresolvedNotes (rule : MethodDoc) (line column : Nat) (name : String) : List Note :=
  if rule.logUnresolved then [⟨line, column, .classInfo "@throws" name⟩] else []

def markByText? (text : String) : List DeclaredException → Option (List DeclaredException)
  | [] => none
  | entry :: rest =>
    if entry.name.text = text then some ({ entry with found := true } :: rest)
    else (markByText? text rest).map (entry :: ·)

structure ClassMatch where
  matched : Bool
  declared : List DeclaredException
  notes : List Note
deriving DecidableEq, Repr

/-- Goes through the declared exceptions in order. An unknown one is reported once. -/
def matchClass (rule : MethodDoc) (classes : ClassHierarchy) (documented : Option String) :
    List DeclaredException → ClassMatch
  | [] => ⟨false, [], []⟩
  | entry :: rest =>
    let isNews := entry.resolved.isNone && !entry.reported
    let notes :=
      if isNews then rule.unresolvedNotes entry.name.line entry.name.column entry.name.text else []
    let seen := { entry with reported := entry.reported || isNews }
    match documented, entry.resolved with
    | some child, some target =>
      if child = target then ⟨true, { seen with found := true } :: rest, notes⟩
      else if rule.allowSubclassThrows && classes.isSubclass child target then
        ⟨true, seen :: rest, notes⟩
      else
        let later := matchClass rule classes documented rest
        ⟨later.matched, seen :: later.declared, notes ++ later.notes⟩
    | _, _ =>
      let later := matchClass rule classes documented rest
      ⟨later.matched, seen :: later.declared, notes ++ later.notes⟩

structure ThrowsScan where
  declared : List DeclaredException
  notes : List Note
deriving DecidableEq, Repr

def scanThrows (rule : MethodDoc) (classes : ClassHierarchy) (scan : ThrowsScan) (tag : Tag) :
    ThrowsScan :=
  match markByText? tag.argumentText scan.declared with
  | some declared => { scan with declared }
  | none =>
    let documented := classes.resolve? tag.argumentText
    let unresolved :=
      if documented.isNone then rule.unresolvedNotes tag.line tag.column tag.argumentText else []
    let hit := rule.matchClass classes documented scan.declared
    let tolerated := rule.allowUndeclaredUnchecked && documented.any classes.isUnchecked
    let unused :=
      if hit.matched || tolerated then []
      else [⟨tag.line, tag.column, .unusedTag "@throws" tag.argumentText⟩]
    ⟨hit.declared, scan.notes ++ unresolved ++ hit.notes ++ unused⟩

def declaredExceptions (classes : ClassHierarchy) (decl : MethodDecl) : List DeclaredException :=
  decl.throws.map fun name => ⟨name, classes.resolve? name.text, false, false⟩

def missingThrowsNotes (declared : List DeclaredException) : List Note :=
  (declared.filter (!·.found)).map fun entry =>
    ⟨entry.name.line, entry.name.column, .expectedTag "@throws" entry.name.text⟩

def checkThrows (rule : MethodDoc) (classes : ClassHierarchy) (decl : MethodDecl) (report : Bool)
    (tags : List Tag) : List Note × List Tag :=
  let (documented, rest) := tags.partition Tag.isThrows
  let scan := documented.foldl (rule.scanThrows classes) ⟨declaredExceptions classes decl, []⟩
  let missing :=
    if !rule.allowMissingThrows && report then missingThrowsNotes scan.declared else []
  (scan.notes ++ missing, rest)

end MethodDoc

end DocAudit
