import DocAudit.Java.Grammar
import DocAudit.Proofs.PathOrder
import DocAudit.Proofs.TreeSearch

set_option autoImplicit false

namespace DocAudit

namespace Audit

variable {audit : Audit} {files : FileAccess} {tree : DirectoryTree}

section Search

variable [GlobReader]

-- What stands below the root under a name that ends like that of a source file, and is not left
-- out.
def Meets (audit : Audit) (tree : DirectoryTree) (path : Path) (entry : Entry) : Prop :=
  ∃ names name, tree.node? (names ++ [name]) = some entry ∧ ".java".toList <:+ name ∧
    path = audit.root.under (names ++ [name]) ∧ audit.isExcluded path = false

theorem Meets.unique {path : Path} {entry other : Entry} (absolute : audit.root.isAbsolute = true)
    (meets : audit.Meets tree path entry) (meetsOther : audit.Meets tree path other) :
    entry = other := by
  obtain ⟨names, name, held, _, rfl, _⟩ := meets
  obtain ⟨others, otherName, heldOther, _, same, _⟩ := meetsOther
  have alike := Path.under_inj absolute (tree.properNames held) (tree.properNames heldOther)
    (congrArg Path.components same)
  rw [alike, heldOther] at held
  exact (Option.some.inj held).symm

theorem Meets.read? {path : Path} {entry : Entry} (documented : files.Documented audit.root tree)
    (meets : audit.Meets tree path entry) : files.read? path = entry.text? := by
  obtain ⟨names, name, held, _, rfl, _⟩ := meets
  exact documented.read _ _ held

theorem keep_unreadable (audit : Audit) {found : List (Except Path Path)}
    (unlisted : ∃ path, .error path ∈ found) :
    ∃ path, audit.keep found = .error (.unreadable path) := by
  induction found with
  | nil => simp at unlisted
  | cons entry rest ih =>
    cases entry with
    | error path => exact ⟨path, rfl⟩
    | ok path =>
      obtain ⟨unlisted, later⟩ := ih (by simpa using unlisted)
      exact ⟨unlisted, by rw [keep, later]; rfl⟩

theorem keep_listed (audit : Audit) {found : List (Except Path Path)}
    (listed : ¬ ∃ path, .error path ∈ found) :
    ∃ paths, audit.keep found = .ok paths ∧
      ∀ path, path ∈ paths ↔ .ok path ∈ found ∧ audit.isExcluded path = false := by
  induction found with
  | nil => exact ⟨[], rfl, by simp⟩
  | cons entry rest ih =>
    cases entry with
    | error path => exact absurd ⟨path, List.mem_cons_self⟩ listed
    | ok first =>
      obtain ⟨paths, kept, member⟩ := ih (by simpa using listed)
      refine ⟨_, by rw [keep, kept]; rfl, fun path => ?_⟩
      cases excluded : audit.isExcluded first with
      | true =>
        simp only [if_true, member, List.mem_cons, Except.ok.injEq]
        grind
      | false =>
        simp only [Bool.false_eq_true, if_false, member, List.mem_cons, Except.ok.injEq]
        grind

theorem discover_value {found : List (Except Path Path)}
    (java : audit.language.extensions = ["java"])
    (search : files.search? (audit.pattern "java") = some found) :
    audit.discover files = (audit.keep found).map Path.sorted := by
  rw [discover, java, findAll, search]
  simp only [findAll, Except.map]
  cases audit.keep found <;> simp [Except.bind]

-- The search for source files, as the documentation has it.
theorem search?_java (plain : Glob.Plain audit.root.text)
    (documented : files.Documented audit.root tree) :
    ∃ found, files.search? (audit.pattern "java") = some found ∧
      ((∃ path, .error path ∈ found) ↔ tree.HasClosed) ∧
      (¬ tree.HasClosed → ∀ path, .ok path ∈ found ∧ audit.isExcluded path = false ↔
        ∃ entry, audit.Meets tree path entry) := by
  obtain ⟨accepts, read, ending⟩ := documented.star ".java".toList (by decide)
  have named : Glob.NamePart ('*' :: ".java".toList) := ⟨by decide, by decide, '.', by decide⟩
  obtain ⟨found, search, unlisted, member⟩ := documented.search plain _ accepts named read
  have pattern : audit.pattern "java" =
      audit.root.text ++ "/**/".toList ++ '*' :: ".java".toList := by
    simp [Audit.pattern]
  refine ⟨found, pattern ▸ search, unlisted, fun listed path => ?_⟩
  rw [member listed]
  simp only [ending, Option.isSome_iff_exists, Meets]
  grind

theorem discover_meets (java : audit.language.extensions = ["java"])
    (absolute : audit.root.isAbsolute = true) (plain : Glob.Plain audit.root.text)
    (documented : files.Documented audit.root tree) (listed : ¬ tree.HasClosed) :
    ∃ paths, audit.discover files = .ok paths ∧ paths.Pairwise (fun a b => a.order b = .lt) ∧
      ∀ path, path ∈ paths ↔ ∃ entry, audit.Meets tree path entry := by
  obtain ⟨found, search, unlisted, member⟩ := search?_java plain documented
  obtain ⟨kept, value, memberKept⟩ := keep_listed audit (mt unlisted.mp listed)
  have meets (path : Path) : path ∈ kept ↔ ∃ entry, audit.Meets tree path entry := by
    rw [memberKept, member listed]
  have distinct : ∀ a ∈ kept, ∀ b ∈ kept, a.order b = .eq → a = b := by
    intro a inA b inB same
    obtain ⟨_, names, name, held, _, rfl, _⟩ := (meets a).mp inA
    obtain ⟨_, others, other, heldOther, _, rfl, _⟩ := (meets b).mp inB
    rw [Path.under_inj absolute (tree.properNames held) (tree.properNames heldOther)
      (Path.order_eq_iff.mp same)]
  refine ⟨_, by rw [discover_value java search, value]; rfl, Path.sorted_increasing _,
    fun path => ?_⟩
  rw [Path.mem_sorted distinct, meets]

theorem discover_unreadable_iff (java : audit.language.extensions = ["java"])
    (absolute : audit.root.isAbsolute = true) (plain : Glob.Plain audit.root.text)
    (documented : files.Documented audit.root tree) :
    (∃ path, audit.discover files = .error (.unreadable path)) ↔ tree.HasClosed := by
  constructor
  next =>
    rintro ⟨path, failed⟩
    refine Classical.byContradiction fun listed => ?_
    obtain ⟨paths, value, _⟩ := discover_meets java absolute plain documented listed
    cases value.symm.trans failed
  next =>
    intro closed
    obtain ⟨found, search, unlisted, _⟩ := search?_java plain documented
    obtain ⟨path, failed⟩ := keep_unreadable audit (unlisted.mpr closed)
    exact ⟨path, by rw [discover_value java search, failed]; rfl⟩

end Search

theorem checkFiles_unreadable {report : Report} {paths : List Path} {path : Path}
    (ended : (audit.checkFiles files report paths).value = .error (.unreadable path)) :
    path ∈ paths ∧ files.read? path = none := by
  induction paths generalizing report with
  | nil => cases ended
  | cons first rest ih =>
    have later {report : Report}
        (ended : (audit.checkFiles files report rest).value = .error (.unreadable path)) :
        path ∈ first :: rest ∧ files.read? path = none :=
      ⟨List.mem_cons_of_mem first (ih ended).1, (ih ended).2⟩
    rw [checkFiles] at ended
    split at ended
    next unread =>
      cases ended
      exact ⟨List.mem_cons_self, unread⟩
    next =>
      split at ended
      next =>
        split at ended
        next => cases ended
        next => exact later ended
      next => exact later ended

theorem exists_checkFiles_unreadable {report : Report} {paths : List Path} {path : Path}
    (goesOn : audit.failOnParseError = false) (member : path ∈ paths)
    (unread : files.read? path = none) :
    ∃ first, (audit.checkFiles files report paths).value = .error (.unreadable first) := by
  induction paths generalizing report with
  | nil => cases member
  | cons first rest ih =>
    rw [checkFiles]
    split
    next => exact ⟨first, rfl⟩
    next content held =>
      have inRest : path ∈ rest := by
        rcases List.mem_cons.mp member with rfl | member
        · cases unread.symm.trans held
        · exact member
      split
      next => simpa [goesOn, Warned.warn] using ih inRest
      next => exact ih inRest

section Run

variable [GlobReader]

theorem run_unlisted {path : Path} (failed : audit.discover files = .error (.unreadable path)) :
    (audit.run files).value = .error (.unreadable path) := by
  rw [run, failed]
  rfl

theorem run_unreadable_iff {paths : List Path} {path : Path}
    (discovered : audit.discover files = .ok paths) :
    (audit.run files).value = .error (.unreadable path) ↔
      (audit.checkFiles files .empty paths).value = .error (.unreadable path) := by
  simp only [run, discovered, Warned.map]
  cases (audit.checkFiles files .empty paths).value <;> simp [Except.map]

theorem discover_exact_iff (java : audit.language.extensions = ["java"])
    (absolute : audit.root.isAbsolute = true) (plain : Glob.Plain audit.root.text)
    (documented : files.Documented audit.root tree) :
    ((∃ path, audit.discover files = .error (.unreadable path)) ↔ tree.HasClosed) ∧
      (¬ tree.HasClosed → ∃ paths, audit.discover files = .ok paths ∧
        paths.Pairwise (fun a b => a.order b = .lt) ∧
        (∀ path, path ∈ paths ↔ ∃ entry, audit.Meets tree path entry) ∧
        ((∀ path, path ∈ paths ↔ ∃ text, audit.Meets tree path (.file text)) ↔
          ∀ path entry, audit.Meets tree path entry → ∃ text, entry = .file text)) ∧
      (∀ path, (audit.run files).value = .error (.unreadable path) →
        tree.HasClosed ∨ ∃ entry, audit.Meets tree path entry ∧ entry.text? = none) ∧
      (tree.HasClosed ∨ audit.failOnParseError = false ∧
          (∃ path entry, audit.Meets tree path entry ∧ entry.text? = none) →
        ∃ path, (audit.run files).value = .error (.unreadable path)) := by
  have closed_iff := discover_unreadable_iff java absolute plain documented
  have open_ := discover_meets java absolute plain documented
  refine ⟨closed_iff, fun listed => ?_, fun path ended => ?_, ?_⟩
  next =>
    obtain ⟨paths, discovered, increasing, member⟩ := open_ listed
    refine ⟨paths, discovered, increasing, member, fun exact path entry meets => ?_,
      fun all path => ?_⟩
    next =>
      obtain ⟨text, isFile⟩ := (exact path).mp ((member path).mpr ⟨entry, meets⟩)
      exact ⟨text, meets.unique absolute isFile⟩
    next =>
      rw [member]
      constructor
      · rintro ⟨entry, meets⟩
        obtain ⟨text, rfl⟩ := all path entry meets
        exact ⟨text, meets⟩
      · exact fun ⟨text, meets⟩ => ⟨.file text, meets⟩
  next =>
    by_cases closed : tree.HasClosed
    next => exact .inl closed
    next =>
      obtain ⟨paths, discovered, _, member⟩ := open_ closed
      obtain ⟨inPaths, unread⟩ := checkFiles_unreadable ((run_unreadable_iff discovered).mp ended)
      obtain ⟨entry, meets⟩ := (member path).mp inPaths
      exact .inr ⟨entry, meets, (meets.read? documented).symm.trans unread⟩
  next =>
    rintro ended
    by_cases closed : tree.HasClosed
    next =>
      obtain ⟨path, failed⟩ := closed_iff.mpr closed
      exact ⟨path, run_unlisted failed⟩
    next =>
      obtain ⟨goesOn, path, entry, meets, textless⟩ := ended.resolve_left closed
      obtain ⟨paths, discovered, _, member⟩ := open_ closed
      obtain ⟨first, stopped⟩ := exists_checkFiles_unreadable goesOn
        ((member path).mpr ⟨entry, meets⟩) ((meets.read? documented).trans textless)
      exact ⟨first, (run_unreadable_iff discovered).mpr stopped⟩

end Run

private def rootedAudit (root : String) : Audit :=
  ⟨.ofString root, [], .java, [], .empty, false⟩

-- A directory with one entry.
private abbrev holding (name : String) (node : FileTree) : FileTree :=
  .directory [(name.toList, node)]

private theorem holding_proper {name : String} {node : FileTree}
    (properName : Path.ProperName name.toList) (properNode : node.Proper) :
    (holding name node).Proper :=
  ⟨by simp, properName, properNode, trivial⟩

private theorem sourceTree_proper : (holding "A.java" (.file .empty)).Proper :=
  holding_proper (by decide) trivial

-- A file further down, below a root with more slashes than it needs.
private theorem nestedTree_proper : (holding "src" (holding "A.java" (.file .empty))).Proper :=
  holding_proper (by decide) sourceTree_proper

private def nestedFile : FileSystem :=
  ⟨holding "p" (holding "src" (holding "A.java" (.file .empty))), .ofString "/"⟩

theorem discover_plainRoot :
    (rootedAudit "/p//").root.isAbsolute = true ∧ Glob.Plain (rootedAudit "/p//").root.text ∧
      nestedFile.access.Documented (rootedAudit "/p//").root
        (FileTree.contents _ rfl nestedTree_proper) ∧
      ∃ paths, (rootedAudit "/p//").discover nestedFile = .ok paths ∧
        .ofString "/p/src/A.java" ∈ paths := by
  have plain : Glob.Plain (rootedAudit "/p//").root.text := by decide
  have documented : nestedFile.access.Documented (rootedAudit "/p//").root
      (FileTree.contents _ rfl nestedTree_proper) :=
    @FileSystem.access_documented _ _ ⟨["p".toList], _, [nestedFile.tree]⟩
      ⟨rfl, holding_proper (by decide) nestedTree_proper⟩ rfl rfl rfl nestedTree_proper
  have listed : ¬ (FileTree.contents _ rfl nestedTree_proper).HasClosed := by
    refine mt (FileSystem.contents_hasClosed_iff rfl nestedTree_proper).mp ?_
    rintro ⟨chain, leads⟩
    cases leads with
    | into entry leads =>
      cases List.mem_singleton.mp entry
      cases leads with
      | into entry leads =>
        cases List.mem_singleton.mp entry
        cases leads
  obtain ⟨paths, discovered, _, member, _⟩ :=
    (@discover_exact_iff (rootedAudit "/p//") nestedFile _ _ rfl rfl plain documented).2.1 listed
  refine ⟨rfl, plain, documented, paths, discovered, (member _).mpr ⟨.file (some ""), ?_⟩⟩
  exact ⟨["src".toList], "A.java".toList, by decide +kernel, by decide, by decide,
    by decide +kernel⟩

-- The brackets of a root stand for one of the letters in them, and a directory is read like a
-- file.
private def bracketed : FileSystem :=
  ⟨holding "a[b]" (holding "A.java" (.file .empty)), .ofString "/"⟩

private theorem emptied_proper : (holding "A.java" .empty).Proper :=
  holding_proper (by decide) ⟨by simp, trivial⟩

private def misnamed : FileSystem := ⟨holding "p" (holding "A.java" .empty), .ofString "/"⟩

theorem discover_bracketRoot :
    ((bracketed.place? (.ofString "/a[b]")).map (·.node) = some (holding "A.java" (.file .empty)) ∧
      (rootedAudit "/a[b]").Meets (FileTree.contents _ rfl sourceTree_proper)
        (.ofString "/a[b]/A.java") (.file (some "")) ∧
      (rootedAudit "/a[b]").discover bracketed = .ok []) ∧
    (misnamed.place? (.ofString "/p")).map (·.node) = some (holding "A.java" .empty) ∧
      ¬ (FileTree.contents _ rfl emptied_proper).HasClosed ∧
      (¬ ∃ path text, (rootedAudit "/p").Meets (FileTree.contents _ rfl emptied_proper) path
        (.file text)) ∧
      ((rootedAudit "/p").run misnamed).value = .error (.unreadable (.ofString "/p/A.java")) := by
  refine ⟨⟨rfl, ?_, ?_⟩, rfl, ?_, ?_, ?_⟩
  · exact ⟨[], "A.java".toList, by decide +kernel, by decide, by decide, by decide +kernel⟩
  · have found : bracketed.find? ((rootedAudit "/a[b]").pattern "java") = some [] := by
      decide +kernel
    rw [discover_value rfl found]
    simp [keep, Except.map, Path.sorted, Path.dropRepeats]
  · refine mt (FileSystem.contents_hasClosed_iff rfl emptied_proper).mp ?_
    rintro ⟨chain, leads⟩
    cases leads with
    | into entry leads =>
      cases List.mem_singleton.mp entry
      cases leads with
      | into entry _ => cases entry
  · rintro ⟨path, text, names, name, held, _⟩
    obtain ⟨node, reached, same⟩ := Option.map_eq_some_iff.mp held
    generalize names ++ [name] = chain at reached
    cases FileTree.leads_of_at? reached with
    | here => cases same
    | into entry leads =>
      cases List.mem_singleton.mp entry
      cases leads with
      | here => cases same
      | into entry _ => cases entry
  · have found : misnamed.find? ((rootedAudit "/p").pattern "java") =
        some [.ok (.ofString "/p/A.java")] := by decide +kernel
    have discovered : (rootedAudit "/p").discover misnamed = .ok [.ofString "/p/A.java"] := by
      rw [discover_value rfl found]
      simp [keep, Except.map, Path.sorted, Path.dropRepeats, isExcluded, rootedAudit,
        Exclusion.anyExcludes]
    exact (run_unreadable_iff discovered).mpr rfl

end Audit

end DocAudit
