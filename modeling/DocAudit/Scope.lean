import DocAudit.Declaration
import DocAudit.Text.Blank

set_option autoImplicit false

namespace DocAudit

inductive Scope where
  | nothing
  | pub
  | prot
  | pkg
  | priv
  | anonInner
deriving DecidableEq, Repr

namespace Scope

def rank : Scope → Nat
  | .nothing => 0
  | .pub => 1
  | .prot => 2
  | .pkg => 3
  | .priv => 4
  | .anonInner => 5

def isIn (a b : Scope) : Bool := a.rank ≤ b.rank

theorem isIn_refl (a : Scope) : a.isIn a := by simp [isIn]

theorem isIn_trans {a b c : Scope} (hab : a.isIn b) (hbc : b.isIn c) : a.isIn c := by
  simp only [isIn, decide_eq_true_eq] at *
  omega

def leastVisible (a b : Scope) : Scope := if a.isIn b then b else a

def ofModifiers (modifiers : Modifiers) : Scope :=
  match modifiers.access with
  | some .pub => .pub
  | some .prot => .prot
  | some .priv => .priv
  | none => .pkg

def effective (modifiers : Modifiers) (enclosing : Option TypeKind) : Scope :=
  if enclosing.any TypeKind.isInterfaceLike then .pub else ofModifiers modifiers

def ofEnclosing (decl : TypeDecl) : Scope :=
  if decl.kind == .anonymousBody then .anonInner else ofModifiers decl.modifiers

def surrounding : List TypeDecl → Option Scope
  | [] => none
  | decl :: rest =>
    some (rest.foldl (fun scope next => leastVisible scope (ofEnclosing next)) (ofEnclosing decl))

def name : Scope → String
  | .nothing => "nothing"
  | .pub => "public"
  | .prot => "protected"
  | .pkg => "package"
  | .priv => "private"
  | .anonInner => "anoninner"

def all : List Scope := [.nothing, .pub, .prot, .pkg, .priv, .anonInner]

def normalize (text : String) : String :=
  String.ofList ((Text.trim text.toList).map Char.toLower)

def ofName? (text : String) : Option Scope := all.find? fun scope => scope.name == normalize text

def unknownMessage (text : String) : String := "unknown scope '" ++ normalize text ++ "'"

end Scope

structure ScopeFilter where
  scope : Scope
  exclude : Option Scope
deriving DecidableEq, Repr

namespace ScopeFilter

def standard : ScopeFilter := ⟨.priv, none⟩

def covers (scope declared : Scope) (surrounding : Option Scope) : Bool :=
  declared.isIn scope && surrounding.all (·.isIn scope)

def shouldCheck (filter : ScopeFilter) (declared : Scope) (surrounding : Option Scope) : Bool :=
  covers filter.scope declared surrounding &&
    !(filter.exclude.any fun scope => covers scope declared surrounding)

theorem covers_mono {s t declared : Scope} {surrounding : Option Scope} (h : s.isIn t)
    (hc : covers s declared surrounding) : covers t declared surrounding := by
  simp only [covers, Bool.and_eq_true] at *
  refine ⟨Scope.isIn_trans hc.1 h, ?_⟩
  cases surrounding with
  | none => rfl
  | some u => exact Scope.isIn_trans (by simpa using hc.2) h

end ScopeFilter

end DocAudit
