import DocAudit.Proofs.CommentText

set_option autoImplicit false

namespace DocAudit.Java

namespace Position

def Before (first second : Position) : Prop :=
  first.line < second.line ∨ first.line = second.line ∧ first.column < second.column

theorem Before.trans {first second third : Position} (lower : first.Before second)
    (upper : second.Before third) : first.Before third := by
  simp only [Before] at lower upper ⊢
  omega

theorem before_next (position : Position) (c : Char) : position.Before (position.next c) := by
  by_cases feed : c = '\n'
  · exact .inl (by simp [next, line, feed])
  · exact .inr (by simp [next, line, feed, c.utf8Size_pos])

theorem before_advance (position : Position) {text : List Char} (held : text ≠ []) :
    position.Before (position.advance text) := by
  induction text generalizing position with
  | nil => exact absurd rfl held
  | cons c rest ih =>
    have here := position.before_next c
    by_cases last : rest = []
    · subst last
      exact here
    · exact here.trans (ih (position.next c) last)

theorem IsIn.before {text : List Char} {first second : Position} (isFirst : first.IsIn text)
    (isSecond : second.IsIn text) (apart : first.offset < second.offset) :
    first.Before second := by
  have within := isSecond.offset_le
  have split : text.take second.offset =
      text.take first.offset ++ (text.take second.offset).drop first.offset := by
    conv => lhs; rw [← List.take_append_drop first.offset (text.take second.offset)]
    rw [List.take_take, Nat.min_eq_left (Nat.le_of_lt apart)]
  have held : (text.take second.offset).drop first.offset ≠ [] := by
    apply List.ne_nil_of_length_pos
    rw [List.length_drop, List.length_take]
    omega
  rw [isSecond, split, advance_append, ← isFirst]
  exact before_advance first held

end Position

namespace Node

def InOrder (tree : Node) : Prop :=
  ∀ node ∈ tree.all,
    (∀ child ∈ node.children,
      node.start.offset ≤ child.start.offset ∧ child.stop.offset ≤ node.stop.offset) ∧
    node.children.Pairwise fun first second => first.stop.offset ≤ second.start.offset

instance (tree : Node) : Decidable tree.InOrder := inferInstanceAs (Decidable (∀ _ ∈ _, _))

theorem InOrder.ofChild {tree child : Node} (ordered : tree.InOrder)
    (member : child ∈ tree.children) : child.InOrder :=
  fun inner below => ordered inner (all_subset (mem_all_of_child member) below)

def Within (outer inner : Node) : Prop :=
  outer.start.offset ≤ inner.start.offset ∧ inner.stop.offset ≤ outer.stop.offset

theorem within_of_inOrder (nodes : List Node) (ordered : ∀ node ∈ nodes, node.InOrder) :
    ∀ node ∈ nodes, ∀ inner ∈ node.all, node.Within inner := by
  induction nodes using forest_induction with
  | nil => nofun
  | cons label children rest inChildren beside =>
    obtain ⟨here, later⟩ := List.forall_mem_cons.mp ordered
    refine List.forall_mem_cons.mpr ⟨fun inner below => ?_, beside later⟩
    rcases mem_all_iff.mp below with rfl | below
    next => exact ⟨Nat.le_refl _, Nat.le_refl _⟩
    next =>
      obtain ⟨child, member, deeper⟩ := mem_allIn_iff.mp below
      obtain ⟨starts, ends⟩ := (here _ (mem_all _)).1 child member
      have inner := inChildren (fun child member => here.ofChild member) child member inner deeper
      exact ⟨Nat.le_trans starts inner.1, Nat.le_trans inner.2 ends⟩

def isComment (node : Node) : Bool := (commentStyle? node.kind).isSome

abbrev Apart (nodes : List Node) : Prop :=
  nodes.Pairwise fun first second => first.stop.offset ≤ second.start.offset

-- Comments have no children, so none of them lies in another one.
theorem comments_apart (nodes : List Node) (ordered : ∀ node ∈ nodes, node.InOrder)
    (apart : Apart nodes)
    (leaves : ∀ node ∈ allIn nodes, node.isComment = true → node.children = []) :
    Apart ((allIn nodes).filter isComment) := by
  induction nodes using forest_induction with
  | nil =>
    rw [allIn]
    exact .nil
  | cons label children rest inChildren beside =>
    have within := within_of_inOrder _ ordered
    obtain ⟨here, later⟩ := List.forall_mem_cons.mp ordered
    obtain ⟨ahead, apart⟩ := List.pairwise_cons.mp apart
    rw [allIn] at leaves ⊢
    obtain ⟨inHead, inRest⟩ := List.forall_mem_append.mp leaves
    rw [List.filter_append]
    refine List.pairwise_append.mpr ⟨?_, beside later apart inRest, fun first isFirst second
      isSecond => ?_⟩
    next =>
      rw [all] at inHead ⊢
      obtain ⟨own, inside⟩ := List.forall_mem_cons.mp inHead
      rw [List.filter_cons]
      split
      next isComment =>
        obtain rfl : children = [] := own isComment
        rw [allIn]
        exact List.pairwise_singleton _ _
      next =>
        exact inChildren (fun child member => here.ofChild member) (here _ (mem_all _)).2 inside
    next =>
      obtain ⟨next, member, below⟩ := mem_allIn_iff.mp (List.mem_of_mem_filter isSecond)
      have ends := (within _ List.mem_cons_self first (List.mem_of_mem_filter isFirst)).2
      have starts := (within next (List.mem_cons_of_mem _ member) second below).1
      exact Nat.le_trans (Nat.le_trans ends (ahead next member)) starts

def lastLine (text : List Char) (node : Node) : Nat :=
  (Position.start.advance (text.take (node.stop.offset - 1))).line

end Node

theorem commentsIn_eq (source : Array Char) (nodes : List Node)
    (leaves : ∀ node ∈ Node.allIn nodes, node.isComment = true → node.children = []) :
    commentsIn source nodes = (Node.allIn nodes).filterMap (Node.comment? source) := by
  induction nodes using Node.forest_induction with
  | nil => rw [commentsIn, Node.allIn, List.filterMap_nil]
  | cons label children rest inChildren beside =>
    rw [Node.allIn, Node.all, List.cons_append] at leaves ⊢
    obtain ⟨own, below⟩ := List.forall_mem_cons.mp leaves
    obtain ⟨inside, later⟩ := List.forall_mem_append.mp below
    rw [commentsIn, beside later, commentsAt, List.filterMap_cons, Node.comment?, Node.kind,
      Node.label, List.filterMap_append]
    cases style : commentStyle? label.kind with
    | none => rw [inChildren inside, Option.map_none]
    | some style =>
      have isComment : (Node.mk label children).isComment = true := by
        rw [Node.isComment, Node.kind, Node.label, style]
        rfl
      obtain rfl : children = [] := own isComment
      rw [Node.allIn]
      rfl

theorem prefix_trimLineEnds (text : List Char) : trimLineEnds text <+: text := by
  rw [trimLineEnds, ← List.reverse_suffix, List.reverse_reverse]
  exact List.dropWhile_suffix _

theorem isCommentText_ne_nil {style : CommentStyle} {body : List Char}
    (isComment : isCommentText style body = true) : body ≠ [] := by
  rintro rfl
  cases style <;> cases isComment

-- Nothing but line ends behind a line comment is cut off.
theorem innerFeeds_trimmed {style : CommentStyle} {body : List Char}
    (isComment : isCommentText style body = true) :
    Text.innerFeeds (trimLineEnds body) = body.dropLast.count '\n' := by
  cases style with
  | line =>
    obtain ⟨_, unbroken⟩ := Bool.and_eq_true_iff.mp isComment
    have absent : '\n' ∉ body := by simpa using unbroken
    have none : ∀ part, part <+: body → part.count '\n' = 0 := fun part starts =>
      List.count_eq_zero_of_not_mem fun broken => absent (starts.subset broken)
    rw [Text.innerFeeds, none _ (prefix_trimLineEnds _), none _ (List.dropLast_prefix _),
      Nat.zero_sub]
  | block =>
    obtain ⟨_, closed⟩ := Bool.and_eq_true_iff.mp isComment
    have closes : ['*', '/'] <:+ body := List.isSuffixOf_iff_suffix.mp closed
    rw [trimLineEnds_closed closes]
    obtain ⟨front, rfl⟩ := closes
    have split : front ++ ['*', '/'] = (front ++ ['*']) ++ ['/'] := by simp
    rw [split, Text.innerFeeds, List.getLast?_concat, List.dropLast_concat]
    simp

namespace Node

variable {text before body after : List Char} {tree node : Node} {style : CommentStyle}

theorem StandsIn.stop_offset (stands : node.StandsIn text before body after) :
    node.stop.offset = before.length + body.length := by
  have none : Position.start.offset = 0 := rfl
  rw [stands.stop, Position.offset_advance, none, Nat.zero_add, List.length_append]

theorem StandsIn.endLine (stands : node.StandsIn text before body after)
    (isComment : isCommentText style body = true) :
    (commentOf text.toArray style node).endLine = node.lastLine text := by
  have held := List.length_pos_iff.mpr (isCommentText_ne_nil isComment)
  have upTo : text.take (node.stop.offset - 1) = before ++ body.dropLast := by
    have within : before.length + body.length - 1 = before.length + (body.length - 1) := by omega
    rw [stands.stop_offset, stands.split, List.append_assoc, within, List.take_length_add_append,
      List.take_append_of_le_length (by omega), List.dropLast_eq_take]
  rw [commentOf, Comment.endLine_ofText, stands.body, String.toList_ofList,
    innerFeeds_trimmed isComment, lastLine, upTo, Position.advance_append, Position.line_advance,
    Node.line, stands.start]

theorem StandsIn.start_lt_stop (stands : node.StandsIn text before body after)
    (isComment : isCommentText style body = true) : node.start.offset < node.stop.offset := by
  have held := List.length_pos_iff.mpr (isCommentText_ne_nil isComment)
  have none : Position.start.offset = 0 := rfl
  rw [stands.stop_offset, stands.start, Position.offset_advance, none]
  omega

end Node

end DocAudit.Java

namespace DocAudit

def Comment.StartsBefore (first second : Comment) : Prop :=
  first.startLine < second.startLine ∨
    first.startLine = second.startLine ∧ first.startColumn < second.startColumn

namespace CompilationUnit

open Java (Node)

variable {text : List Char} {tree : Node}

theorem childless (laid : tree.LaidOut text) :
    ∀ node ∈ Node.allIn [tree], node.isComment = true → node.children = [] := by
  rw [Node.allIn, Node.allIn, List.append_nil]
  intro node below isComment
  obtain ⟨style, made⟩ := Option.isSome_iff_exists.mp isComment
  exact List.isEmpty_iff.mp (laid.comments node below style made).2

theorem ofTree_comments (laid : tree.LaidOut text) :
    (ofTree text tree).comments = tree.all.filterMap (Node.comment? text.toArray) := by
  have listed := Java.commentsIn_eq text.toArray [tree] (childless laid)
  rwa [Java.commentsIn, Java.commentsIn, Node.allIn, Node.allIn, List.append_nil,
    List.append_nil] at listed

theorem ofTree_comments_ordered (laid : tree.LaidOut text) (ordered : tree.InOrder) :
    (ofTree text tree).comments.Pairwise Comment.StartsBefore := by
  have apart := Node.comments_apart [tree] (List.forall_mem_singleton.mpr ordered)
    (List.pairwise_singleton _ _) (childless laid)
  rw [Node.allIn, Node.allIn, List.append_nil, Node.Apart, List.pairwise_filter] at apart
  rw [ofTree_comments laid, List.pairwise_filterMap]
  refine apart.imp_of_mem fun {first second} inFirst inSecond behind => ?_
  intro earlier madeFirst later madeSecond
  obtain ⟨style, isStyle, rfl⟩ := Option.map_eq_some_iff.mp madeFirst
  obtain ⟨other, isOther, rfl⟩ := Option.map_eq_some_iff.mp madeSecond
  obtain ⟨before, body, after, stands⟩ := laid.exists_standsIn inFirst
  have lexical := (laid.comments first inFirst style isStyle).1
  have nonempty := stands.start_lt_stop (stands.body ▸ lexical)
  have le := behind (Option.isSome_iff_exists.mpr ⟨style, isStyle⟩)
    (Option.isSome_iff_exists.mpr ⟨other, isOther⟩)
  exact (laid.placed first inFirst).1.before (laid.placed second inSecond).1
    (Nat.lt_of_lt_of_le nonempty le)

theorem comments_placed :
    (∀ style line column text,
        (Comment.ofText style line column text).joinedText =
          Text.ended (Text.unifyEnds text.toList) ∧
        (Comment.ofText style line column text).endLine = line + Text.innerFeeds text.toList) ∧
      ∀ [Java.Parser] (text : List Char) (tree : Node) (unit : CompilationUnit),
        Java.Parser.parse? text = some tree → tree.LaidOut text → tree.InOrder →
        ofJava? text = some unit →
        unit.comments = tree.all.filterMap (Node.comment? text.toArray) ∧
        (∀ node ∈ tree.all, ∀ comment ∈ node.comment? text.toArray,
          comment.endLine = node.lastLine text) ∧
        unit.comments.Pairwise Comment.StartsBefore := by
  constructor
  next =>
    exact fun style line column text => ⟨Comment.joinedText_ofText .., Comment.endLine_ofText ..⟩
  next =>
    intro parser text tree unit parsed laid ordered accepted
    obtain rfl := ofJava?_eq parsed accepted
    refine ⟨ofTree_comments laid, fun node below comment made => ?_,
      ofTree_comments_ordered laid ordered⟩
    obtain ⟨style, isStyle, rfl⟩ := Option.map_eq_some_iff.mp made
    obtain ⟨before, body, after, stands⟩ := laid.exists_standsIn below
    have lexical := (laid.comments node below style isStyle).1
    exact stands.endLine (stands.body ▸ lexical)

-- A line comment and a block comment, with carriage returns at the line ends.
private def returnedSource : List Char := "// a\r\n  /* b\r\n */ class A \x7b\x7d\r\n".toList

theorem comments_placed_returned :
    ∃ tree unit, Java.Parser.parse? returnedSource = some tree ∧ tree.LaidOut returnedSource ∧
      tree.InOrder ∧ ofJava? returnedSource = some unit ∧
      unit.comments = [⟨.line, 1, 0, 1, ["// a"]⟩, ⟨.block, 2, 2, 3, ["/* b", " */"]⟩] ∧
      unit.comments.Pairwise Comment.StartsBefore := by
  have placed : ((Java.Parser.parse? returnedSource).map fun tree =>
      (decide (tree.LaidOut returnedSource), decide tree.InOrder)) = some (true, true) := by
    decide +kernel
  have read : (ofJava? returnedSource).map (·.comments) =
      some [⟨.line, 1, 0, 1, ["// a"]⟩, ⟨.block, 2, 2, 3, ["/* b", " */"]⟩] := by
    decide +kernel
  obtain ⟨tree, parsed, checked⟩ := Option.map_eq_some_iff.mp placed
  obtain ⟨isLaid, isOrdered⟩ := Prod.mk.inj checked
  have laid := of_decide_eq_true isLaid
  have inOrder := of_decide_eq_true isOrdered
  obtain ⟨unit, accepted, comments⟩ := Option.map_eq_some_iff.mp read
  obtain ⟨_, _, ordered⟩ := comments_placed.2 returnedSource tree unit parsed laid inOrder accepted
  exact ⟨tree, unit, parsed, laid, inOrder, accepted, comments, ordered⟩

end CompilationUnit

end DocAudit
