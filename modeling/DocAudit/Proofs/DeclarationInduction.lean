import DocAudit.Declaration

set_option autoImplicit false

namespace DocAudit

structure DeclarationInduction (types : List TypeDecl → Prop) (members : List Member → Prop)
    (statements : List Statement → Prop) : Prop where
  noTypes : types []
  addType : ∀ decl rest, members decl.members → types rest → types (decl :: rest)
  noMembers : members []
  addMethod : ∀ decl rest, (∀ body, decl.body = some body → statements body.statements) →
    members rest → members (.method decl :: rest)
  addStaticInit : ∀ line body rest, statements body.statements → members rest →
    members (.staticInit line body :: rest)
  addMemberType : ∀ decl rest, members decl.members → members rest → members (.type decl :: rest)
  noStatements : statements []
  addStatement : ∀ statement rest, types statement.nested → statements rest →
    statements (statement :: rest)

namespace DeclarationInduction

variable {types : List TypeDecl → Prop} {members : List Member → Prop}
  {statements : List Statement → Prop}

mutual

theorem inType (step : DeclarationInduction types members statements) :
    (decl : TypeDecl) → members decl.members
  | ⟨_, _, _, _, _, _, _, _, inner⟩ => ofMembers step inner

theorem inBody (step : DeclarationInduction types members statements) :
    (body : Option Block) → ∀ block, body = some block → statements block.statements
  | none, _, absent => nomatch absent
  | some ⟨_, _, inner⟩, _, present => by
    cases present
    exact ofStatements step inner

theorem ofTypes (step : DeclarationInduction types members statements) :
    (decls : List TypeDecl) → types decls
  | [] => step.noTypes
  | decl :: rest => step.addType decl rest (inType step decl) (ofTypes step rest)

theorem ofMembers (step : DeclarationInduction types members statements) :
    (decls : List Member) → members decls
  | [] => step.noMembers
  | .method ⟨kind, name, line, column, endLine, modifiers, typeParams, params, throws, result,
      body⟩ :: rest =>
    step.addMethod ⟨kind, name, line, column, endLine, modifiers, typeParams, params, throws,
      result, body⟩ rest (inBody step body) (ofMembers step rest)
  | .staticInit line ⟨openLine, closeLine, inner⟩ :: rest =>
    step.addStaticInit line ⟨openLine, closeLine, inner⟩ rest (ofStatements step inner)
      (ofMembers step rest)
  | .type decl :: rest => step.addMemberType decl rest (inType step decl) (ofMembers step rest)

theorem ofStatements (step : DeclarationInduction types members statements) :
    (block : List Statement) → statements block
  | [] => step.noStatements
  | ⟨line, endLine, kind, nested⟩ :: rest =>
    step.addStatement ⟨line, endLine, kind, nested⟩ rest (ofTypes step nested)
      (ofStatements step rest)

end

end DeclarationInduction

end DocAudit
