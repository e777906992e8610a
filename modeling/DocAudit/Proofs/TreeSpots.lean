import DocAudit.Proofs.MethodOccurrence
import DocAudit.Proofs.NodePlaces

set_option autoImplicit false

namespace DocAudit.Java

structure Spot where
  address : Address
  above : List Node
  node : Node

namespace Spot

def under (index : Nat) (spot : Spot) : Spot := { spot with address := index :: spot.address }

mutual

def ofNode (above : List Node) (index : Nat) : Node → List Spot
  | .mk label children =>
    ⟨[index], above, .mk label children⟩ ::
      (ofForest (.mk label children :: above) 0 children).map (under index)

def ofForest (above : List Node) (index : Nat) : List Node → List Spot
  | [] => []
  | node :: rest => ofNode above index node ++ ofForest above (index + 1) rest

end

def nodeAt? (above nodes : List Node) : Address → Option (List Node × Node)
  | [] => none
  | index :: rest =>
    match nodes[index]? with
    | some node =>
      if rest = [] then some (above, node) else nodeAt? (node :: above) node.children rest
    | none => none

theorem mem_ofForest_iff {above around : List Node} {index : Nat} {nodes : List Node}
    {address : Address} {node : Node} : ⟨address, around, node⟩ ∈ ofForest above index nodes ↔
      ∃ offset rest, address = (index + offset) :: rest ∧
        nodeAt? above nodes (offset :: rest) = some (around, node) := by
  induction nodes using Node.forest_induction generalizing above index address with
  | nil => simp [ofForest, nodeAt?]
  | cons label children rest inChildren beside =>
    rw [ofForest, ofNode, List.cons_append, List.mem_cons, List.mem_append, List.mem_map, beside]
    constructor
    next =>
      rintro (same | ⟨⟨address, _, _⟩, member, same⟩ | ⟨offset, inner, rfl, found⟩)
      · cases same
        exact ⟨0, [], rfl, rfl⟩
      · cases same
        obtain ⟨offset, inner, rfl, found⟩ := inChildren.mp member
        rw [Nat.zero_add]
        exact ⟨0, offset :: inner, rfl, found⟩
      · exact ⟨offset + 1, inner, by rw [Nat.add_right_comm, Nat.add_assoc], found⟩
    next =>
      rintro ⟨offset, inner, rfl, found⟩
      cases offset with
      | succ offset =>
        exact .inr (.inr ⟨offset, inner, by rw [Nat.add_right_comm, Nat.add_assoc], found⟩)
      | zero =>
        cases inner with
        | nil =>
          cases found
          exact .inl rfl
        | cons next inner =>
          refine .inr (.inl ⟨⟨next :: inner, around, node⟩, inChildren.mpr ?_, rfl⟩)
          exact ⟨next, inner, by rw [Nat.zero_add], found⟩

abbrev Ordered (spots : List Spot) : Prop :=
  spots.Pairwise fun first second => first.address < second.address

theorem ofForest_ordered (above : List Node) (index : Nat) (nodes : List Node) :
    Ordered (ofForest above index nodes) := by
  induction nodes using Node.forest_induction generalizing above index with
  | nil => exact .nil
  | cons label children rest inChildren beside =>
    rw [ofForest, ofNode, List.cons_append, Ordered, List.pairwise_cons, List.pairwise_append,
      List.pairwise_map]
    have behind : ∀ spot ∈ ofForest above (index + 1) rest, ∀ inner,
        index :: inner < spot.address := by
      intro spot member inner
      obtain ⟨offset, address, same, _⟩ := mem_ofForest_iff.mp member
      rw [same]
      exact List.cons_lt_cons_iff.mpr (.inl (by omega))
    refine ⟨fun spot member => ?_, ?_, beside above (index + 1),
      fun first inFirst spot member => ?_⟩
    next =>
      rcases List.mem_append.mp member with member | member
      · obtain ⟨inner, inside, rfl⟩ := List.mem_map.mp member
        obtain ⟨offset, address, same, _⟩ := mem_ofForest_iff.mp inside
        refine List.cons_lt_cons_iff.mpr (.inr ⟨rfl, ?_⟩)
        rw [same]
        exact List.nil_lt_cons _ _
      · exact behind spot member []
    next =>
      refine (inChildren (.mk label children :: above) 0).imp fun before => ?_
      exact List.cons_lt_cons_iff.mpr (.inr ⟨rfl, before⟩)
    next =>
      obtain ⟨inner, _, rfl⟩ := List.mem_map.mp inFirst
      exact behind spot member inner.address

end Spot

namespace Form

def isTypeDecl : Form → Bool
  | .typeDecl _ => true
  | _ => false

def isBody : Form → Bool
  | .classBody | .body | .enumMembers => true
  | _ => false

def isPlain : Form → Bool
  | .block | .other => true
  | _ => false

def leadsTo : Form → NodeLabel → Bool
  | .file, child => child.isPart && child.form.isTypeDecl
  | .typeDecl _, child | .method _, child => child.inField "body"
  | .staticInit, child => child.isPart && child.form = .block
  | _, child => child.isPart

/-- Where the grammar of Java has room for a node of a form. -/
def hasRoomFor (parent : Form) (child : NodeLabel) : Bool :=
  match child.form with
  | .file => false
  | .method _ => parent = .file || parent.isBody
  | .staticInit | .enumMembers | .enumConstant => parent.isBody
  | .creation => !parent.isBody
  | .classBody =>
    parent = .creation || parent = .enumConstant || parent.isTypeDecl && child.inField "body"
  | .body => parent.isTypeDecl && child.inField "body"
  | .typeDecl _ | .block | .other => true

def hasForBody : Form → Form → Bool
  | .typeDecl _, child => child = .classBody || child = .body
  | .method _, child => child.isPlain
  | _, _ => true

def allows (parent : Form) (child : NodeLabel) : Bool :=
  parent.hasRoomFor child && (!child.inField "body" || parent.hasForBody child.form)

/-- A declaration has one body, and a class body ends the creation of an object. -/
def mayFollow (parent : Form) (first second : NodeLabel) : Bool :=
  match parent with
  | .typeDecl _ | .method _ | .staticInit => !(parent.leadsTo first && parent.leadsTo second)
  | .creation => !(first.isPart && first.form = .classBody && second.isPart)
  | _ => true

structure Fits (form : Form) (children : List Node) : Prop where
  allowed : ∀ child ∈ children, form.allows child.label = true
  single : children.Pairwise fun first second => form.mayFollow first.label second.label = true

theorem fits_iff {form : Form} {children : List Node} : form.Fits children ↔
    (∀ child ∈ children, form.allows child.label = true) ∧
      children.Pairwise fun first second => form.mayFollow first.label second.label = true :=
  ⟨fun fits => ⟨fits.allowed, fits.single⟩, fun both => ⟨both.1, both.2⟩⟩

instance (form : Form) (children : List Node) : Decidable (form.Fits children) :=
  decidable_of_iff' _ fits_iff

theorem Fits.tail {form : Form} {node : Node} {rest : List Node} (fits : form.Fits (node :: rest)) :
    form.Fits rest :=
  ⟨(List.forall_mem_cons.mp fits.allowed).2, (List.pairwise_cons.mp fits.single).2⟩

end Form

namespace Node

def isTypeDecl (node : Node) : Bool := node.form.isTypeDecl

def isMethod (node : Node) : Bool :=
  match node.form with
  | .method _ => true
  | _ => false

def leadsTo (parent child : Node) : Bool := parent.form.leadsTo child.label

def isOpen : List Node → Bool
  | node :: parent :: above => parent.leadsTo node && isOpen (parent :: above)
  | _ => true

def spots (tree : Node) : List Spot := Spot.ofForest [tree] 0 tree.children

def nodeAt? (tree : Node) (address : Address) : Option (List Node × Node) :=
  Spot.nodeAt? [tree] tree.children address

theorem mem_spots_iff (tree : Node) (address : Address) (above : List Node) (node : Node) :
    ⟨address, above, node⟩ ∈ tree.spots ↔ tree.nodeAt? address = some (above, node) := by
  rw [spots, Spot.mem_ofForest_iff]
  constructor
  next =>
    rintro ⟨offset, rest, rfl, found⟩
    rw [Nat.zero_add]
    exact found
  next =>
    intro found
    cases address with
    | nil => cases found
    | cons index rest => exact ⟨index, rest, by rw [Nat.zero_add], found⟩

theorem spots_ordered (tree : Node) : Spot.Ordered tree.spots :=
  Spot.ofForest_ordered [tree] 0 tree.children

/-- A tree with the kinds and fields that the grammar of Java gives its nodes. -/
structure Grammatical (tree : Node) : Prop where
  root : tree.form = .file
  fits : ∀ node ∈ tree.all, node.form.Fits node.children

theorem grammatical_iff {tree : Node} : tree.Grammatical ↔
    tree.form = .file ∧ ∀ node ∈ tree.all, node.form.Fits node.children :=
  ⟨fun is => ⟨is.root, is.fits⟩, fun both => ⟨both.1, both.2⟩⟩

instance (tree : Node) : Decidable tree.Grammatical := decidable_of_iff' _ grammatical_iff

end Node

inductive Node.Chain (root : Node) : List Node → Prop where
  | root : Chain root [root]
  | step {node parent : Node} {above : List Node} (member : node ∈ parent.children)
      (allowed : parent.form.allows node.label = true) (outer : Chain root (parent :: above)) :
      Chain root (node :: parent :: above)

theorem Spot.ofForest_chain {root parent : Node} {above : List Node}
    (outer : Node.Chain root (parent :: above)) (index : Nat) {nodes : List Node}
    (within : nodes ⊆ parent.children) (fits : parent.form.Fits parent.children)
    (below : ∀ node ∈ Node.allIn nodes, node.form.Fits node.children) :
    ∀ spot ∈ ofForest (parent :: above) index nodes, Node.Chain root (spot.node :: spot.above) := by
  induction nodes using Node.forest_induction generalizing parent above index with
  | nil => simp [ofForest]
  | cons label children rest inChildren beside =>
    obtain ⟨member, within⟩ := List.cons_subset.mp within
    rw [Node.allIn, Node.all, List.cons_append, List.forall_mem_cons,
      List.forall_mem_append] at below
    obtain ⟨here, inside, later⟩ := below
    have inner := Node.Chain.step member (fits.allowed _ member) outer
    rw [ofForest, ofNode, List.cons_append, List.forall_mem_cons, List.forall_mem_append,
      List.forall_mem_map]
    exact ⟨inner, inChildren inner 0 (List.Subset.refl children) here inside,
      beside outer (index + 1) within fits later⟩

theorem Node.Grammatical.chain {tree : Node} (grammatical : tree.Grammatical) :
    ∀ spot ∈ tree.spots, Node.Chain tree (spot.node :: spot.above) :=
  Spot.ofForest_chain .root 0 (List.Subset.refl _) (grammatical.fits tree tree.mem_all)
    fun node below => grammatical.fits node (Node.mem_all_iff.mpr (.inr below))

def Spot.isReached (spot : Spot) : Bool := Node.isOpen (spot.node :: spot.above)

theorem Spot.not_isReached_of_closed {above : List Node} (closed : Node.isOpen above = false)
    (index : Nat) (nodes : List Node) :
    ∀ spot ∈ ofForest above index nodes, spot.isReached = false := by
  have shut {above : List Node} (closed : Node.isOpen above = false) (node : Node) :
      Node.isOpen (node :: above) = false := by
    cases above with
    | nil => cases closed
    | cons parent above => rw [Node.isOpen, closed, Bool.and_false]
  induction nodes using Node.forest_induction generalizing above index with
  | nil => simp [ofForest]
  | cons label children rest inChildren beside =>
    rw [ofForest, ofNode, List.cons_append, List.forall_mem_cons, List.forall_mem_append,
      List.forall_mem_map]
    exact ⟨shut closed _, inChildren (shut closed _) 0, beside closed (index + 1)⟩

end DocAudit.Java
