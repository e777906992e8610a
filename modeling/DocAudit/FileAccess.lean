import DocAudit.Path

set_option autoImplicit false

namespace DocAudit

instance decidableEqExcept {ε α : Type} [DecidableEq ε] [DecidableEq α] :
    DecidableEq (Except ε α)
  | .ok a, .ok b => decidable_of_iff (a = b) (by simp)
  | .error a, .error b => decidable_of_iff (a = b) (by simp)
  | .ok _, .error _ | .error _, .ok _ => .isFalse nofun

-- A library that reads glob patterns and compares whole texts with them.
class GlobReader where
  read? : List Char → Option (List Char → Bool)

/-- What an audit sees of the files around it. A search takes an absolute pattern; it gives the
paths it finds and, as errors, the directories that it cannot look into. -/
structure FileAccess where
  search? : List Char → Option (List (Except Path Path))
  read? : Path → Option String
  absolute : ∀ pattern found path, search? pattern = some found → .ok path ∈ found →
    path.isAbsolute = true

end DocAudit
