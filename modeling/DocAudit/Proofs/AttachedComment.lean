import DocAudit.CommentIndex
import DocAudit.Java.Grammar
import DocAudit.Proofs.ByteOffset
import DocAudit.Proofs.NodePlaces

set_option autoImplicit false

namespace DocAudit

namespace Text

/-- White space and line comments, each of these with its line end. -/
inductive Clear : List Char → Prop
  | nil : Clear []
  | blank {c : Char} {rest : List Char} (isBlank : isBlank c = true) (clear : Clear rest) :
      Clear (c :: rest)
  | lineComment {body rest : List Char} (unbroken : '\n' ∉ body) (clear : Clear rest) :
      Clear ('/' :: '/' :: (body ++ '\n' :: rest))

def lineRest (text : List Char) : List Char := text.takeWhile (· != '\n')

def lineFront (text : List Char) : List Char := (text.reverse.takeWhile (· != '\n')).reverse

variable {full : List Char}

theorem takeWhile_feed (front rest : List Char) :
    (front ++ '\n' :: rest).takeWhile (· != '\n') = front.takeWhile (· != '\n') := by
  induction front with
  | nil => rfl
  | cons c front ih => simp [List.takeWhile_cons, ih]

theorem takeWhile_unbroken (unbroken : '\n' ∉ full) : full.takeWhile (· != '\n') = full := by
  induction full with
  | nil => rfl
  | cons c full ih =>
    have other : c ≠ '\n' := (List.ne_of_not_mem_cons unbroken).symm
    simp [other, ih (List.not_mem_of_not_mem_cons unbroken)]

theorem lineRest_append (unbroken : '\n' ∉ full) (rest : List Char) :
    lineRest (full ++ '\n' :: rest) = full := by
  rw [lineRest, takeWhile_feed, takeWhile_unbroken unbroken]

theorem lineFront_append (front rest : List Char) :
    lineFront (front ++ '\n' :: rest) = lineFront rest := by
  have turned : (front ++ '\n' :: rest).reverse = rest.reverse ++ '\n' :: front.reverse := by simp
  rw [lineFront, turned, takeWhile_feed, lineFront]

theorem lineFront_unbroken (unbroken : '\n' ∉ full) : lineFront full = full := by
  rw [lineFront, takeWhile_unbroken (by simpa using unbroken), List.reverse_reverse]

theorem clear_cons_iff {c : Char} (isBlank : isBlank c = true) (rest : List Char) :
    Clear (c :: rest) ↔ Clear rest := by
  constructor
  · intro clear
    cases clear with
    | blank _ clear => exact clear
    | lineComment _ _ => exact absurd isBlank (by decide)
  · exact .blank isBlank

theorem isSkippableText_cons {c : Char} (isBlank : isBlank c = true) (rest : List Char) :
    CommentIndex.isSkippableText (c :: rest) = CommentIndex.isSkippableText rest := by
  simp [CommentIndex.isSkippableText, trimStart, isBlank]

theorem clear_lineFeed_iff (unbroken : '\n' ∉ full) (rest : List Char) :
    Clear (full ++ '\n' :: rest) ↔ CommentIndex.isSkippableText full = true ∧ Clear rest := by
  induction full with
  | nil =>
    have skippable : CommentIndex.isSkippableText [] = true := rfl
    have feed : isBlank '\n' = true := by decide
    simp [skippable, clear_cons_iff feed]
  | cons c full ih =>
    have unbrokenRest := List.not_mem_of_not_mem_cons unbroken
    by_cases blank : isBlank c = true
    next => rw [List.cons_append, clear_cons_iff blank, isSkippableText_cons blank, ih unbrokenRest]
    constructor
    next =>
      intro clear
      generalize held : c :: full ++ '\n' :: rest = text at clear
      cases clear with
      | nil => cases held
      | blank isBlank _ => exact absurd ((List.cons.inj held).1 ▸ isBlank) blank
      | @lineComment body after bodyUnbroken clear =>
        obtain ⟨rfl, second⟩ := List.cons.inj held
        cases full with
        | nil => cases second
        | cons d full =>
          obtain ⟨rfl, behind⟩ := List.cons.inj second
          have fullUnbroken := List.not_mem_of_not_mem_cons unbrokenRest
          have sameBody : full = body := by
            rw [← lineRest_append fullUnbroken rest, ← lineRest_append bodyUnbroken after]
            exact congrArg lineRest behind
          subst sameBody
          obtain ⟨_, rfl⟩ := List.cons.inj (List.append_cancel_left behind)
          exact ⟨rfl, clear⟩
    next =>
      rintro ⟨skippable, clear⟩
      simp only [CommentIndex.isSkippableText, trimStart,
        List.dropWhile_cons_of_neg blank] at skippable
      split at skippable
      next empty => cases empty
      next body begun =>
        obtain ⟨rfl, rfl⟩ := List.cons.inj begun
        exact .lineComment (List.not_mem_of_not_mem_cons unbrokenRest) clear
      next => cases skippable

theorem clear_unbroken_iff (unbroken : '\n' ∉ full) : Clear full ↔ full.all isBlank = true := by
  constructor
  · intro clear
    induction clear with
    | nil => rfl
    | blank isBlank _ ih => simp [isBlank, ih (List.not_mem_of_not_mem_cons unbroken)]
    | lineComment _ _ _ => exact absurd (by simp) unbroken
  · intro blank
    induction full with
    | nil => exact .nil
    | cons c full ih =>
      obtain ⟨here, beside⟩ := Bool.and_eq_true_iff.mp (List.all_cons ▸ blank)
      exact .blank here (ih (List.not_mem_of_not_mem_cons unbroken) beside)

theorem linesFrom_append (current front rest : List Char) :
    linesFrom current (front ++ '\n' :: rest) =
      linesFrom current (front ++ ['\n']) ++ lines rest := by
  induction front generalizing current with
  | nil => rfl
  | cons c front ih =>
    by_cases feed : c = '\n'
    · simp [linesFrom, feed, ih]
    · simp [linesFrom, feed, ih]

theorem length_linesFrom_concat (current front : List Char) (c : Char) :
    (linesFrom current (front ++ [c])).length = front.count '\n' + 1 := by
  induction front generalizing current with
  | nil => by_cases feed : c = '\n' <;> simp [linesFrom, feed]
  | cons d front ih =>
    by_cases feed : d = '\n'
    · simp [linesFrom, feed, ih]
    · simp [linesFrom, feed, ih]

theorem isSkippableText_return (line : List Char) :
    CommentIndex.isSkippableText (line ++ ['\r']) = CommentIndex.isSkippableText line := by
  induction line with
  | nil => rfl
  | cons c line ih =>
    by_cases here : isBlank c = true
    next => rw [List.cons_append, isSkippableText_cons here, isSkippableText_cons here, ih]
    next =>
      simp only [CommentIndex.isSkippableText, trimStart, List.cons_append,
        List.dropWhile_cons_of_neg here]
      cases line with
      | nil => grind
      | cons d line => grind

theorem isSkippableText_stripped (full : List Char) :
    CommentIndex.isSkippableText (dropCarriageReturn full.reverse).reverse =
      CommentIndex.isSkippableText full := by
  rcases List.eq_nil_or_concat' full with rfl | ⟨line, c, rfl⟩
  · rfl
  · rw [List.reverse_concat]
    by_cases returned : c = '\r'
    next =>
      subst returned
      rw [dropCarriageReturn, List.reverse_reverse, isSkippableText_return]
    next => simp [dropCarriageReturn, returned]

end Text

namespace CommentIndex

variable {index : CommentIndex}

theorem anchor_skips {line skipped : Nat} (above : index.anchor line < skipped)
    (upTo : skipped ≤ line) : index.isSkippable skipped = true := by
  fun_induction anchor index line with
  | case1 => omega
  | case2 => omega
  | case3 line skippable ih =>
    rcases Nat.lt_or_ge skipped (line + 2) with lower | last
    · exact ih above (by omega)
    · rwa [Nat.le_antisymm upTo last]
  | case4 line _ => omega

theorem isSkippable_whole {front full rest : List Char} (unbroken : '\n' ∉ full)
    (held : index.lines = Text.lines (front ++ '\n' :: (full ++ '\n' :: rest))) :
    index.isSkippable (front.count '\n' + 2) = isSkippableText full := by
  have length := Text.length_linesFrom_concat [] front '\n'
  have lines : index.lines = Text.linesFrom [] (front ++ ['\n']) ++
      (Text.dropCarriageReturn full.reverse).reverse :: Text.lines rest := by
    rw [held, Text.lines, Text.linesFrom_append, Text.lines, Text.linesFrom_lineFeed unbroken,
      List.append_nil]
  have found : index.lines[front.count '\n' + 1]? =
      some (Text.dropCarriageReturn full.reverse).reverse := by
    rw [lines, List.getElem?_append_right (Nat.le_of_eq length), length, Nat.sub_self]
    rfl
  have here : front.count '\n' + 2 - 1 = front.count '\n' + 1 := rfl
  rw [isSkippable, here, found, Option.elim_some, Text.isSkippableText_stripped]

-- The lines of a block of text are passed over, so only the one it ends in is left to look at.
theorem clear_below_iff {front block after : List Char}
    (held : index.lines = Text.lines (front ++ '\n' :: (block ++ after)))
    (skips : ∀ line, front.count '\n' + 1 < line →
      line ≤ front.count '\n' + 1 + block.count '\n' → index.isSkippable line = true) :
    Text.Clear block ↔ (Text.lineFront block).all Text.isBlank = true := by
  induction block using Text.lines_induction generalizing front with
  | unbroken block unbroken =>
    rw [Text.lineFront_unbroken unbroken, Text.clear_unbroken_iff unbroken]
  | lineFeed full rest unbroken ih =>
    have none : full.count '\n' = 0 := List.count_eq_zero_of_not_mem unbroken
    have first : isSkippableText full = true := by
      rw [← isSkippable_whole unbroken (by simpa using held)]
      exact skips _ (by omega) (by simp [none]; omega)
    have below : Text.Clear rest ↔ (Text.lineFront rest).all Text.isBlank = true := by
      refine @ih (front ++ '\n' :: full) (by simpa using held) fun line above upTo => ?_
      simp only [List.count_append, List.count_cons_self, none] at above upTo
      exact skips line (by omega) (by simp [none]; omega)
    rw [Text.clear_lineFeed_iff unbroken, Text.lineFront_append, below]
    simp [first]

theorem mem_of_javadocBefore? {line : Nat} {comment : Comment}
    (found : index.javadocBefore? line = some comment) :
    comment ∈ index.javadocs ∧ comment.endLine < line ∧
      ∀ skipped, comment.endLine < skipped → skipped < line →
        index.isSkippable skipped = true := by
  cases line with
  | zero => cases found
  | succ line =>
    obtain ⟨member, ends⟩ := List.mem_filter.mp (List.mem_of_getLast? found)
    have ends : comment.endLine = index.anchor line := beq_iff_eq.mp ends
    have upTo := index.anchor_le line
    refine ⟨member, by omega, fun skipped above below => ?_⟩
    exact anchor_skips (ends ▸ above) (Nat.le_of_lt_succ below)

end CommentIndex

theorem Java.trimLineEnds_closed {text : List Char} (closes : ['*', '/'] <:+ text) :
    trimLineEnds text = text := by
  obtain ⟨front, rfl⟩ := closes
  simp [trimLineEnds]

open Java (Position)

structure Comment.StandsIn (source before body after : List Char) (comment : Comment) : Prop where
  split : source = before ++ body ++ after
  made : comment = .ofText .block (Position.start.advance before).line
    (Position.start.advance before).column (String.ofList body)
  closes : ['*', '/'] <:+ body

theorem Comment.StandsIn.endLine {source before body after : List Char} {comment : Comment}
    (stands : comment.StandsIn source before body after) :
    comment.endLine = (Position.start.advance (before ++ body)).line := by
  obtain ⟨front, rfl⟩ := stands.closes
  have count : (Text.lines (front ++ ['*', '/'])).length = front.count '\n' + 1 := by
    simpa [Text.lines] using Text.length_linesFrom_concat [] (front ++ ['*']) '/'
  have last : comment.endLine = (Position.start.advance before).line +
      ((Text.lines (front ++ ['*', '/'])).length - 1) := by
    rw [stands.made]
    simp [Comment.ofText, Text.lineStrings]
  have mark : ['*', '/'].count '\n' = 0 := rfl
  rw [last, count, Position.line_advance, Position.line_advance, List.count_append,
    List.count_append, mark]
  omega

theorem Java.Node.LaidOut.comment_standsIn {text : List Char} {tree : Node}
    (laid : tree.LaidOut text) {comment : Comment}
    (listed : comment ∈ commentsAt text.toArray tree) (isBlock : comment.style = .block) :
    ∃ before body after, comment.StandsIn text before body after := by
  obtain ⟨node, below, made⟩ := mem_commentsAt listed
  obtain ⟨style, isComment, rfl⟩ := Option.map_eq_some_iff.mp made
  obtain rfl : style = .block := isBlock
  obtain ⟨before, body, after, stands⟩ := laid.exists_standsIn below
  have lexical := (laid.comments node below .block isComment).1
  rw [stands.body] at lexical
  have closes : ['*', '/'] <:+ body :=
    List.isSuffixOf_iff_suffix.mp (Bool.and_eq_true_iff.mp lexical).2
  refine ⟨before, body, after, stands.split, ?_, closes⟩
  rw [commentOf, Node.line, Node.column, stands.start, stands.body, trimLineEnds_closed closes]

/-- A comment and a declaration further down, with what stands between the comment and the first
lexeme of the declaration. -/
structure StandsBefore (text : List Char) (tree : Java.Node) (before body between after : List Char)
    (comment : Comment) (decl : Declaration) : Prop where
  comment : comment.StandsIn text before body (between ++ after)
  node : ∃ node ∈ tree.all, node.Makes text.toArray decl ∧
    node.start = Position.start.advance (before ++ body ++ between)
  line : (Position.start.advance (before ++ body ++ between)).line = decl.line
  column : ∀ column ∈ decl.column?,
    (Position.start.advance (before ++ body ++ between)).column = column

variable {text before body between after : List Char} {tree : Java.Node} {comment : Comment}
  {decl : Declaration}

theorem StandsBefore.clear_iff {index : CommentIndex}
    (stands : StandsBefore text tree before body between after comment decl)
    (held : index.lines = Text.lines text)
    (found : index.javadocBefore? decl.line = some comment) :
    Text.Clear between ↔
      CommentIndex.isSkippableText (Text.lineRest between) = true ∧
        (Text.lineFront between).all Text.isBlank = true := by
  obtain ⟨_, above, skips⟩ := CommentIndex.mem_of_javadocBefore? found
  have ends := stands.comment.endLine
  have starts := stands.line
  have first : Position.start.line = 1 := rfl
  simp only [Position.line_advance, List.count_append, first] at ends starts
  have broken : '\n' ∈ between := List.count_pos_iff.mp (by omega)
  obtain ⟨tail, block, rfl, unbroken⟩ := List.eq_append_cons_of_mem broken
  have none : tail.count '\n' = 0 := List.count_eq_zero_of_not_mem unbroken
  have below : Text.Clear block ↔ (Text.lineFront block).all Text.isBlank = true := by
    refine @CommentIndex.clear_below_iff index (before ++ body ++ tail) block after ?_ ?_
    · rw [held, stands.comment.split]
      simp
    · simp only [List.count_append, List.count_cons_self, none] at *
      exact fun line above upTo => skips line (by omega) (by omega)
  rw [Text.clear_lineFeed_iff unbroken, Text.lineRest_append unbroken, Text.lineFront_append, below]

namespace CompilationUnit

theorem exists_standsBefore (laid : tree.LaidOut text)
    (declared : decl ∈ (ofTree text tree).declarations)
    (found : (CommentIndex.ofUnit (ofTree text tree) text).javadocBefore? decl.line =
      some comment) :
    ∃ before body between after,
      StandsBefore text tree before body between after comment decl := by
  obtain ⟨member, above, _⟩ := CommentIndex.mem_of_javadocBefore? found
  obtain ⟨inBlocks, _⟩ := List.mem_filter.mp member
  obtain ⟨inUnit, isBlock⟩ := List.mem_filter.mp inBlocks
  obtain ⟨before, body, rest, stands⟩ := laid.comment_standsIn inUnit (beq_iff_eq.mp isBlock)
  obtain ⟨node, below, makes⟩ := ofTree_made text tree declared
  obtain ⟨front, own, after, position⟩ := laid.exists_standsIn below
  obtain ⟨line, column⟩ := makes.start
  rw [position.start] at line column
  -- The comment ends on a line above the declaration, so all of it stands in front of it.
  have ends := stands.endLine
  have apart : before ++ body <+: front := by
    have inText : before ++ body <+: text := ⟨rest, stands.split.symm⟩
    have frontInText : front <+: text := ⟨_, (List.append_assoc .. ▸ position.split).symm⟩
    rcases List.prefix_or_prefix_of_prefix inText frontInText with within | ⟨more, longer⟩
    · exact within
    · rw [← longer] at ends
      simp only [Position.line_advance, List.count_append] at ends line
      omega
  obtain ⟨between, rfl⟩ := apart
  refine ⟨before, body, between, own ++ after, ⟨?_, stands.made, stands.closes⟩,
    ⟨node, below, makes, position.start⟩, line.symm, column⟩
  simpa using position.split

theorem javadocBefore?_clear_iff [Java.Parser] {unit : CompilationUnit}
    (parsed : Java.Parser.parse? text = some tree) (laid : tree.LaidOut text)
    (accepted : ofJava? text = some unit) (declared : decl ∈ unit.declarations)
    (found : (CommentIndex.ofUnit unit text).javadocBefore? decl.line = some comment) :
    (∃ before body between after, StandsBefore text tree before body between after comment decl) ∧
      ∀ before body between after, StandsBefore text tree before body between after comment decl →
        (Text.Clear between ↔
          CommentIndex.isSkippableText (Text.lineRest between) = true ∧
            (Text.lineFront between).all Text.isBlank = true) := by
  obtain rfl := ofJava?_eq parsed accepted
  exact ⟨exists_standsBefore laid declared found,
    fun _ _ _ _ stands => stands.clear_iff rfl found⟩

private def startsOnlyAt (place : Position) (tree : Java.Node) : Bool :=
  tree.all.all fun node =>
    node.start == place || (node.line, node.column) != (place.line, place.column)

private theorem exists_sample [Java.Parser] {place : Position}
    (placed : ((Java.Parser.parse? text).map fun tree =>
      (decide (tree.LaidOut text), startsOnlyAt place tree)) = some (true, true))
    (read : (ofJava? text).map (fun unit =>
      (unit.declarations.any (fun decl =>
          decl.line = place.line ∧ decl.column? = some place.column),
        (CommentIndex.ofUnit unit text).javadocBefore? place.line)) = some (true, some comment))
    (stands : comment.StandsIn text before body (between ++ after))
    (reached : Position.start.advance (before ++ body ++ between) = place) :
    ∃ tree unit decl, Java.Parser.parse? text = some tree ∧ tree.LaidOut text ∧
      ofJava? text = some unit ∧ decl ∈ unit.declarations ∧
      (CommentIndex.ofUnit unit text).javadocBefore? decl.line = some comment ∧
      StandsBefore text tree before body between after comment decl := by
  obtain ⟨tree, parsed, checked⟩ := Option.map_eq_some_iff.mp placed
  obtain ⟨isLaid, only⟩ := Prod.mk.inj checked
  obtain ⟨unit, accepted, made⟩ := Option.map_eq_some_iff.mp read
  obtain ⟨among, found⟩ := Prod.mk.inj made
  obtain ⟨decl, declared, located⟩ := List.any_eq_true.mp among
  obtain ⟨onLine, inColumn⟩ := of_decide_eq_true located
  obtain ⟨node, below, makes⟩ := ofTree_made text tree (ofJava?_eq parsed accepted ▸ declared)
  obtain ⟨line, column⟩ := makes.start
  have here := List.all_eq_true.mp only node below
  have sameLine : node.line = place.line := line.symm.trans onLine
  have sameColumn : node.column = place.column := column _ inColumn
  rw [sameLine, sameColumn, bne_self_eq_false, Bool.or_false] at here
  have starts : node.start = place := beq_iff_eq.mp here
  rw [starts] at line column
  refine ⟨tree, unit, decl, parsed, of_decide_eq_true isLaid, accepted, declared,
    onLine ▸ found, ?_⟩
  subst reached
  exact ⟨stands, ⟨node, below, makes, starts⟩, line.symm, column⟩

-- A line comment behind the Javadoc comment, and an empty line below it.
private def notedSource : List Char := "/** Doc. */ // note\n\n  class A \x7b\x7d\n".toList

theorem javadocBefore?_noted :
    ∃ tree unit decl comment before body after, Java.Parser.parse? notedSource = some tree ∧
      tree.LaidOut notedSource ∧ ofJava? notedSource = some unit ∧ decl ∈ unit.declarations ∧
      (CommentIndex.ofUnit unit notedSource).javadocBefore? decl.line = some comment ∧
      StandsBefore notedSource tree before body " // note\n\n  ".toList after comment decl ∧
      Text.Clear " // note\n\n  ".toList := by
  have comment : Comment.StandsIn notedSource [] "/** Doc. */".toList
      (" // note\n\n  ".toList ++ "class A \x7b\x7d\n".toList)
      ⟨.block, 1, 0, 1, ["/** Doc. */"]⟩ :=
    ⟨by decide, by decide, by decide⟩
  obtain ⟨tree, unit, decl, parsed, laid, accepted, declared, found, stands⟩ :=
    @exists_sample _ _ _ _ _ _ _ ⟨23, 2, 2⟩ (by decide +kernel) (by decide +kernel) comment rfl
  refine ⟨tree, unit, decl, _, _, _, _, parsed, laid, accepted, declared, found, stands, ?_⟩
  have clear := (javadocBefore?_clear_iff parsed laid accepted declared found).2 _ _ _ _ stands
  exact clear.mpr (by decide)

-- A field follows the comment on its line, and a method stands below it.
private def sharedSource : List Char :=
  "class A \x7b\n    /** Doc. */ int x;\n    void m() \x7b\x7d\n\x7d\n".toList

theorem javadocBefore?_shared :
    ∃ tree unit decl comment before body between after,
      Java.Parser.parse? sharedSource = some tree ∧ tree.LaidOut sharedSource ∧
      ofJava? sharedSource = some unit ∧ decl ∈ unit.declarations ∧
      (CommentIndex.ofUnit unit sharedSource).javadocBefore? decl.line = some comment ∧
      StandsBefore sharedSource tree before body between after comment decl ∧
      ¬ Text.Clear between := by
  have comment : Comment.StandsIn sharedSource "class A \x7b\n    ".toList "/** Doc. */".toList
      (" int x;\n    ".toList ++ "void m() \x7b\x7d\n\x7d\n".toList)
      ⟨.block, 2, 4, 2, ["/** Doc. */"]⟩ :=
    ⟨by decide, by decide, by decide⟩
  obtain ⟨tree, unit, decl, parsed, laid, accepted, declared, found, stands⟩ :=
    @exists_sample _ _ _ _ _ _ _ ⟨37, 2, 4⟩ (by decide +kernel) (by decide +kernel) comment rfl
  refine ⟨tree, unit, decl, _, _, _, _, _, parsed, laid, accepted, declared, found, stands,
    fun clear => ?_⟩
  have unbroken : '\n' ∉ " int x;".toList := by decide
  exact absurd ((Text.clear_lineFeed_iff unbroken _).mp clear).1 (by decide)

end CompilationUnit

end DocAudit
