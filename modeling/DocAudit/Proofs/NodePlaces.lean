import DocAudit.Proofs.DeclarationTrees

set_option autoImplicit false

namespace DocAudit.Java

namespace Position

instance : LE Position :=
  ⟨fun first second =>
    first.row < second.row ∨ first.row = second.row ∧ first.column ≤ second.column⟩

instance (first second : Position) : Decidable (first ≤ second) :=
  inferInstanceAs (Decidable (_ ∨ _))

theorem line_le_of_le {first second : Position} (le : first ≤ second) :
    first.line ≤ second.line := by
  have rows : first.row < second.row ∨ first.row = second.row ∧ _ := le
  unfold line
  omega

theorem advance_append (position : Position) (first second : List Char) :
    position.advance (first ++ second) = (position.advance first).advance second :=
  List.foldl_append

theorem line_advance (position : Position) (text : List Char) :
    (position.advance text).line = position.line + text.count '\n' := by
  induction text generalizing position with
  | nil => rfl
  | cons c rest ih =>
    have step : position.advance (c :: rest) = (position.next c).advance rest := rfl
    rw [step, ih, next, line, line]
    by_cases feed : c = '\n'
    · simp [feed]
      omega
    · simp [feed]

theorem offset_advance (position : Position) (text : List Char) :
    (position.advance text).offset = position.offset + text.length := by
  induction text generalizing position with
  | nil => rfl
  | cons c rest ih =>
    have step : position.advance (c :: rest) = (position.next c).advance rest := rfl
    rw [step, ih, next]
    split <;> simp <;> omega

def IsIn (text : List Char) (position : Position) : Prop :=
  position = start.advance (text.take position.offset)

instance (text : List Char) (position : Position) : Decidable (position.IsIn text) :=
  inferInstanceAs (Decidable (_ = _))

theorem IsIn.offset_le {text : List Char} {position : Position} (isIn : position.IsIn text) :
    position.offset ≤ text.length := by
  have same := congrArg offset isIn
  have none : start.offset = 0 := rfl
  rw [offset_advance, List.length_take, none] at same
  omega

end Position

namespace Node

theorem mem_allIn_iff {inner : Node} {nodes : List Node} :
    inner ∈ allIn nodes ↔ ∃ node ∈ nodes, inner ∈ node.all := by
  induction nodes with
  | nil => simp [allIn]
  | cons node rest ih => simp [allIn, ih]

theorem mem_all_iff {inner node : Node} :
    inner ∈ node.all ↔ inner = node ∨ inner ∈ allIn node.children := by
  obtain ⟨label, children⟩ := node
  rw [all, List.mem_cons, Node.children]

theorem mem_all_of_child {node child : Node} (member : child ∈ node.children) :
    child ∈ node.all :=
  mem_all_iff.mpr (.inr (mem_allIn member child.mem_all))

theorem all_subset {tree node : Node} (member : node ∈ tree.all) : node.all ⊆ tree.all := by
  have inForest (nodes : List Node) : ∀ node ∈ allIn nodes, node.all ⊆ allIn nodes := by
    induction nodes using forest_induction with
    | nil => simp [allIn]
    | cons label children rest inChildren beside =>
      simp only [allIn, all, List.cons_append, List.forall_mem_cons, List.forall_mem_append]
      refine ⟨List.cons_subset_cons _ (List.subset_append_left _ _), fun node below => ?_,
        fun node below => ?_⟩
      · exact List.subset_cons_of_subset _
          (List.subset_append_of_subset_left _ (inChildren node below))
      · exact List.subset_cons_of_subset _
          (List.subset_append_of_subset_right _ (beside node below))
  rcases mem_all_iff.mp member with rfl | below
  · exact List.Subset.refl _
  · exact fun inner deeper => mem_all_iff.mpr (.inr (inForest _ node below deeper))

/-- No node ends before it starts, and each lies in the node that it is a child of. -/
def Nested (tree : Node) : Prop :=
  ∀ node ∈ tree.all, node.start ≤ node.stop ∧
    ∀ child ∈ node.children, node.start ≤ child.start ∧ child.stop ≤ node.stop

instance (tree : Node) : Decidable tree.Nested := inferInstanceAs (Decidable (∀ _ ∈ _, _))

namespace Nested

variable {tree node child : Node} (nested : tree.Nested)

include nested

theorem below (member : node ∈ tree.all) : node.Nested :=
  fun inner deeper => nested inner (all_subset member deeper)

theorem ofChild (member : child ∈ tree.children) : child.Nested :=
  nested.below (mem_all_of_child member)

theorem line_le_endLine : tree.line ≤ tree.endLine :=
  Position.line_le_of_le (nested tree tree.mem_all).1

theorem encloses (member : child ∈ tree.children) :
    tree.line ≤ child.line ∧ child.endLine ≤ tree.endLine := by
  obtain ⟨starts, ends⟩ := (nested tree tree.mem_all).2 child member
  exact ⟨Position.line_le_of_le starts, Position.line_le_of_le ends⟩

end Nested

theorem one_le_line (node : Node) : 1 ≤ node.line := Nat.le_add_left 1 node.start.row

def comment? (source : Array Char) (node : Node) : Option Comment :=
  (commentStyle? node.kind).map fun style => commentOf source style node

end Node

theorem mem_commentsIn {source : Array Char} {nodes : List Node} {comment : Comment}
    (member : comment ∈ commentsIn source nodes) :
    ∃ node ∈ Node.allIn nodes, node.comment? source = some comment := by
  induction nodes using Node.forest_induction with
  | nil =>
    rw [commentsIn] at member
    cases member
  | cons label children rest inChildren beside =>
    rw [commentsIn, commentsAt, List.mem_append] at member
    rw [Node.allIn, Node.all]
    rcases member with member | member
    · split at member
      next style isComment =>
        refine ⟨.mk label children, List.mem_cons_self, ?_⟩
        rw [List.mem_singleton.mp member, Node.comment?, Node.kind, Node.label, isComment]
        rfl
      next =>
        obtain ⟨node, below, made⟩ := inChildren member
        exact ⟨node, List.mem_cons_of_mem _ (List.mem_append_left _ below), made⟩
    · obtain ⟨node, below, made⟩ := beside member
      exact ⟨node, List.mem_cons_of_mem _ (List.mem_append_right _ below), made⟩

theorem mem_commentsAt {source : Array Char} {tree : Node} {comment : Comment}
    (member : comment ∈ commentsAt source tree) :
    ∃ node ∈ tree.all, node.comment? source = some comment := by
  have alone : comment ∈ commentsIn source [tree] := by
    rw [commentsIn]
    exact List.mem_append_left _ member
  obtain ⟨node, below, made⟩ := mem_commentsIn alone
  rw [Node.allIn, Node.allIn, List.append_nil] at below
  exact ⟨node, below, made⟩

def isCommentText : CommentStyle → List Char → Bool
  | .line, text => ['/', '/'].isPrefixOf text && !text.contains '\n'
  | .block, text => ['/', '*'].isPrefixOf text && ['*', '/'].isSuffixOf text

namespace Node

/-- Rows are counted by line feeds and columns in bytes, and comments are nodes of their own. -/
structure LaidOut (text : List Char) (tree : Node) : Prop where
  placed : ∀ node ∈ tree.all, node.start.IsIn text ∧ node.stop.IsIn text ∧
    node.start.offset ≤ node.stop.offset
  comments : ∀ node ∈ tree.all, ∀ style ∈ commentStyle? node.kind,
    isCommentText style (node.text text.toArray).toList = true ∧ node.children.isEmpty = true

theorem laidOut_iff {text : List Char} {tree : Node} : tree.LaidOut text ↔
    (∀ node ∈ tree.all, node.start.IsIn text ∧ node.stop.IsIn text ∧
      node.start.offset ≤ node.stop.offset) ∧
    ∀ node ∈ tree.all, ∀ style ∈ commentStyle? node.kind,
      isCommentText style (node.text text.toArray).toList = true ∧ node.children.isEmpty = true :=
  ⟨fun laid => ⟨laid.placed, laid.comments⟩, fun both => ⟨both.1, both.2⟩⟩

instance (text : List Char) (tree : Node) : Decidable (tree.LaidOut text) :=
  decidable_of_iff' _ laidOut_iff

structure StandsIn (text before body after : List Char) (node : Node) : Prop where
  split : text = before ++ body ++ after
  start : node.start = Position.start.advance before
  stop : node.stop = Position.start.advance (before ++ body)
  body : (node.text text.toArray).toList = body

theorem LaidOut.exists_standsIn {text : List Char} {tree node : Node} (laid : tree.LaidOut text)
    (member : node ∈ tree.all) : ∃ before body after, node.StandsIn text before body after := by
  obtain ⟨starts, stops, le⟩ := laid.placed node member
  have within := stops.offset_le
  have front : (text.take node.stop.offset).take node.start.offset =
      text.take node.start.offset := by
    rw [List.take_take, Nat.min_eq_left le]
  have cut := List.take_append_drop node.start.offset (text.take node.stop.offset)
  rw [front] at cut
  refine ⟨text.take node.start.offset, (text.take node.stop.offset).drop node.start.offset,
    text.drop node.stop.offset, ?_, starts, ?_, ?_⟩
  · rw [cut, List.take_append_drop]
  · rw [cut]
    exact stops
  · rw [Node.text, String.toList_ofList]
    simp [List.extract_eq_take_drop, List.drop_take]

end Node

end DocAudit.Java
