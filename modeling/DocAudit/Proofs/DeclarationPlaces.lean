import DocAudit.Proofs.DeclarationInduction
import DocAudit.Proofs.DeclarationSites
import DocAudit.Proofs.NodePlaces

set_option autoImplicit false

namespace DocAudit

namespace Declaration

def site? : Declaration → Option Site
  | .type decl =>
    if decl.kind = .anonymousBody then none else some (.zone (.type decl.line decl.endLine))
  | .method decl =>
    some (decl.body.elim (.abstractMethod decl.line) fun body => .zone (.method decl.line body))
  | .staticInit line body => some (.zone (.staticInit line body))

theorem sites_type {decl : TypeDecl}
    (inner : Site.ofMembers decl.members = (ofMembers decl.members).filterMap site?) :
    decl.sites = decl.declarations.filterMap site? := by
  rw [TypeDecl.declarations_eq]
  by_cases anonymous : decl.kind = .anonymousBody
  · simp [TypeDecl.sites_anonymous anonymous, site?, anonymous, inner]
  · simp [TypeDecl.sites_named anonymous, site?, anonymous, inner]

-- The sites of a file are those of its declarations, in the same order.
theorem sites_eq : DeclarationInduction
    (fun types => Site.ofTypes types = (ofTypes types).filterMap site?)
    (fun members => Site.ofMembers members = (ofMembers members).filterMap site?)
    (fun statements =>
      Site.ofStatements statements = (ofStatements statements).filterMap site?) where
  noTypes := rfl
  addType decl rest inner beside := by
    rw [Site.ofTypes, ofTypes, List.filterMap_append, beside, sites_type inner]
  noMembers := rfl
  addMethod decl rest inner beside := by
    rw [Site.ofMembers, ofMembers, List.filterMap_append, beside, Member.sites, Member.declarations,
      MethodDecl.declarations_eq]
    cases held : decl.body with
    | none => simp [MethodDecl.sites_none held, site?, held]
    | some body => simp [MethodDecl.sites_some held, site?, held, inner body held]
  addStaticInit line body rest inner beside := by
    rw [Site.ofMembers, ofMembers, List.filterMap_append, beside, Member.sites_staticInit,
      Member.declarations_staticInit, inner]
    rfl
  addMemberType decl rest inner beside := by
    rw [Site.ofMembers, ofMembers, List.filterMap_append, beside, Member.sites, Member.declarations,
      sites_type inner]
  noStatements := rfl
  addStatement statement rest inner beside := by
    obtain ⟨⟩ := statement
    rw [Site.ofStatements, ofStatements, List.filterMap_append, beside, inner]

end Declaration

namespace Java

variable {source : Array Char} {node : Node} {nodes : List Node} {body : Block}

theorem exists_of_find?_blockAt {isBlock : Node → Bool}
    (found : (nodes.find? isBlock).map (blockAt source) = some body) :
    ∃ child ∈ nodes, body = blockAt source child := by
  obtain ⟨child, chosen, made⟩ := Option.map_eq_some_iff.mp found
  exact ⟨child, List.mem_of_find?_eq_some chosen, made.symm⟩

theorem bodyBlock_mem (found : bodyBlock source nodes = some body) :
    ∃ child ∈ nodes, body = blockAt source child := by
  rw [bodyBlock_eq] at found
  exact exists_of_find?_blockAt found

theorem initBlock_mem (found : initBlock source nodes = some body) :
    ∃ child ∈ nodes, body = blockAt source child := by
  rw [initBlock_eq] at found
  exact exists_of_find?_blockAt found

theorem statementsOf_line {statement : Statement} (member : statement ∈ statementsOf source nodes) :
    ∃ child ∈ nodes, statement.line = child.line := by
  rw [statementsOf_eq] at member
  obtain ⟨child, isPart, rfl⟩ := List.mem_map.mp member
  exact ⟨child, List.mem_of_mem_filter isPart, rfl⟩

theorem blockAt_positioned {block : Node} (nested : node.Nested) (member : block ∈ node.children) :
    node.line ≤ (blockAt source block).openLine ∧
      (blockAt source block).openLine ≤ (blockAt source block).closeLine ∧
      ∀ first ∈ (blockAt source block).firstStatementLine?,
        (blockAt source block).openLine ≤ first ∧ first ≤ (blockAt source block).closeLine := by
  have nestedBlock := nested.ofChild member
  obtain ⟨label, children⟩ := block
  rw [blockAt]
  refine ⟨(nested.encloses member).1, nestedBlock.line_le_endLine, fun first present => ?_⟩
  obtain ⟨statement, isFirst, rfl⟩ := Option.map_eq_some_iff.mp present
  obtain ⟨child, inBlock, starts⟩ := statementsOf_line (List.mem_of_mem_head? isFirst)
  obtain ⟨opens, closes⟩ := nestedBlock.encloses inBlock
  rw [starts]
  exact ⟨opens, (nestedBlock.ofChild inBlock).line_le_endLine.trans closes⟩

theorem typeDeclOf_ends (source : Array Char) (kind : TypeKind) (members : List Member)
    (nested : node.Nested) : node.line ≤ (typeDeclOf source kind node members).endLine := by
  show node.line ≤ ((node.childInField? "body").getD node).endLine
  cases found : node.childInField? "body" with
  | none => exact nested.line_le_endLine
  | some body =>
    have member : body ∈ node.children := List.mem_of_find?_eq_some found
    exact (nested.encloses member).1.trans (nested.ofChild member).line_le_endLine

theorem Node.Makes.positioned {decl : Declaration} (makes : node.Makes source decl)
    (nested : node.Nested) : ∀ site ∈ decl.site?, site.Positioned := by
  intro site held
  cases makes with
  | type kind members =>
    obtain ⟨_, made⟩ := Option.dite_none_left_eq_some.mp held
    cases made
    exact ⟨node.one_le_line, typeDeclOf_ends source kind members nested⟩
  | anonymous members => cases held
  | method kind =>
    cases held
    cases found : bodyBlock source node.children with
    | none => exact node.one_le_line
    | some body =>
      obtain ⟨block, member, rfl⟩ := bodyBlock_mem found
      exact ⟨node.one_le_line, blockAt_positioned nested member⟩
  | staticInit found =>
    cases held
    obtain ⟨block, member, rfl⟩ := initBlock_mem found
    exact ⟨node.one_le_line, blockAt_positioned nested member⟩

end Java

namespace CompilationUnit

variable (text : List Char) {tree : Java.Node}

theorem ofTree_positioned (nested : tree.Nested) :
    Site.AllPositioned (ofTree text tree).sites := by
  intro site member
  rw [sites, Declaration.sites_eq.ofTypes] at member
  obtain ⟨decl, declared, held⟩ := List.mem_filterMap.mp member
  obtain ⟨node, below, makes⟩ := ofTree_made text tree declared
  exact makes.positioned (nested.below below) site held

theorem one_le_startLine (tree : Java.Node) :
    ∀ comment ∈ (ofTree text tree).comments, 1 ≤ comment.startLine := by
  intro comment listed
  obtain ⟨node, _, made⟩ := Java.mem_commentsAt listed
  obtain ⟨style, _, rfl⟩ := Option.map_eq_some_iff.mp made
  exact node.one_le_line

end CompilationUnit

end DocAudit
