set_option autoImplicit false

namespace DocAudit

inductive PathComponent where
  | root
  | current
  | parent
  | named (name : List Char)
deriving DecidableEq, Repr

structure Path where
  text : List Char
deriving DecidableEq, Repr

namespace Path

def ofString (text : String) : Path := ⟨text.toList⟩

def toString (path : Path) : String := String.ofList path.text

def isAbsolute (path : Path) : Bool := path.text.head? == some '/'

def nextSegment (text : List Char) : List Char × List Char :=
  (text.takeWhile (· != '/'), text.dropWhile (· != '/'))

def componentOf (segment : List Char) : Option PathComponent :=
  if segment.isEmpty || segment == ['.'] then none
  else if segment == ['.', '.'] then some .parent
  else some (.named segment)

def segmentsFrom (current : List Char) : List Char → List (List Char × List Char)
  | [] => if current.isEmpty then [] else [(current.reverse, [])]
  | c :: rest =>
    if c = '/' then
      if current.isEmpty then segmentsFrom [] rest
      else (current.reverse, c :: rest) :: segmentsFrom [] rest
    else segmentsFrom (c :: current) rest

def segments (text : List Char) : List (List Char × List Char) := segmentsFrom [] text

def bodyComponents (text : List Char) : List (PathComponent × List Char) :=
  (segments text).filterMap fun segment =>
    (componentOf segment.1).map fun component => (component, segment.2)

/-- Components, each with the text after it. Only a dot at the very start is a component. -/
def componentsWithRest (text : List Char) : List (PathComponent × List Char) :=
  match text with
  | '/' :: rest => (.root, rest) :: bodyComponents rest
  | _ =>
    let next := nextSegment text
    if next.1 == ['.'] then (.current, next.2) :: bodyComponents next.2
    else bodyComponents text

def components (path : Path) : List PathComponent :=
  (componentsWithRest path.text).map (·.1)

def trimFront (text : List Char) : List Char :=
  match text with
  | [] => []
  | '/' :: rest => trimFront rest
  | '.' :: '/' :: rest => trimFront rest
  | ['.'] => []
  | text => text

/-- Drops slashes and dot segments at the end, on reversed text; a lone root stays. -/
def trimBackReversed (text : List Char) : List Char :=
  match text with
  | ['/'] => ['/']
  | '/' :: rest => trimBackReversed rest
  | ['.', '/'] => ['/']
  | '.' :: '/' :: rest => trimBackReversed rest
  | text => text

def trimBack (text : List Char) : List Char := (trimBackReversed text.reverse).reverse

def restAfter : List PathComponent → List (PathComponent × List Char) → List Char →
    Option (List Char)
  | [], _, rest => some rest
  | _ :: _, [], _ => none
  | b :: base, (c, after) :: parts, _ =>
    if b = c then restAfter base parts (trimFront after) else none

def relativeTo? (path base : Path) : Option Path :=
  (restAfter base.components (componentsWithRest path.text) path.text).map fun rest =>
    ⟨trimBack rest⟩

def relativeTo (path base : Path) : Path := (path.relativeTo? base).getD path

def join (base path : Path) : Path :=
  if path.isAbsolute || base.text.isEmpty then path
  else if base.text.getLast? == some '/' then ⟨base.text ++ path.text⟩
  else ⟨base.text ++ '/' :: path.text⟩

theorem isAbsolute_join {base : Path} (absolute : base.isAbsolute = true) (path : Path) :
    (base.join path).isAbsolute = true := by
  obtain ⟨rest, begins⟩ := List.head?_eq_some_iff.mp (beq_iff_eq.mp absolute)
  unfold join
  split
  next replaced => simpa [begins] using replaced
  next => split <;> simp [isAbsolute, begins]

def componentRank : PathComponent → Nat
  | .root => 0
  | .current => 1
  | .parent => 2
  | .named _ => 3

def compareNames : List Char → List Char → Ordering
  | [], [] => .eq
  | [], _ :: _ => .lt
  | _ :: _, [] => .gt
  | a :: as, b :: bs =>
    if a.toNat < b.toNat then .lt else if b.toNat < a.toNat then .gt else compareNames as bs

def compareComponent : PathComponent → PathComponent → Ordering
  | .named a, .named b => compareNames a b
  | a, b => compare (componentRank a) (componentRank b)

def compareComponents : List PathComponent → List PathComponent → Ordering
  | [], [] => .eq
  | [], _ :: _ => .lt
  | _ :: _, [] => .gt
  | a :: as, b :: bs =>
    match compareComponent a b with
    | .eq => compareComponents as bs
    | order => order

def order (a b : Path) : Ordering := compareComponents a.components b.components

def parent? (path : Path) : Option Path :=
  match (componentsWithRest path.text).reverse with
  | [] => none
  | (.root, _) :: _ => none
  | [_] => some ⟨[]⟩
  | (.named name, rest) :: _ =>
    some ⟨trimBack (path.text.take (path.text.length - rest.length - name.length))⟩
  | (.parent, rest) :: _ =>
    some ⟨trimBack (path.text.take (path.text.length - rest.length - 2))⟩
  | (.current, _) :: _ => none

def ancestorsFrom : Nat → Path → List Path
  | 0, path => [path]
  | n + 1, path => path :: (path.parent?.map (ancestorsFrom n)).getD []

def ancestors (path : Path) : List Path := ancestorsFrom path.components.length path

end Path

end DocAudit
