import DocAudit.Proofs.DeclarationPlaces
import DocAudit.Proofs.RegionLookup
import DocAudit.Proofs.SourceComments
import DocAudit.Proofs.TagPlaces

set_option autoImplicit false

namespace DocAudit

namespace Text

theorem byteLength_le_of_sublist {part text : List Char} (kept : part.Sublist text) :
    byteLength part ≤ byteLength text := by
  induction kept with
  | slnil => exact Nat.le_refl _
  | cons c _ ih =>
    rw [byteLength_cons]
    omega
  | cons_cons c _ ih =>
    rw [byteLength_cons, byteLength_cons]
    omega

theorem sublist_of_mem_lines {line text : List Char} (member : line ∈ lines text) :
    line.Sublist text := by
  induction text using lines_induction with
  | unbroken text unbroken =>
    rw [lines_unbroken unbroken] at member
    split at member
    next => cases member
    next =>
      cases List.mem_singleton.mp member
      exact List.Sublist.refl _
  | lineFeed full rest unbroken ih =>
    obtain ⟨stripped, returned, rfl, cut, _⟩ := exists_stripped unbroken
    rw [cut] at member
    rcases List.mem_cons.mp member with rfl | below
    · exact (List.sublist_append_left line returned).trans (List.sublist_append_left _ _)
    · exact (ih below).trans ((List.sublist_cons_self _ _).trans (List.sublist_append_right _ _))

end Text

namespace Site

def zone? : Site → Option Zone
  | .zone lines => some lines
  | .abstractMethod _ => none

theorem zones_type {decl : TypeDecl}
    (inner : (ofMembers decl.members).filterMap zone? =
      (Outline.flatten (Outline.ofMembers decl.members)).map (·.zone)) :
    decl.sites.filterMap zone? = (Outline.flatten decl.outline).map (·.zone) := by
  by_cases anonymous : decl.kind = .anonymousBody
  · rw [decl.sites_anonymous anonymous, decl.outline_anonymous anonymous, inner]
  · simp [decl.sites_named anonymous, decl.outline_named anonymous, zone?, inner]

-- The zones that are looked at are those of the outline.
theorem zones_eq : DeclarationInduction
    (fun types => (ofTypes types).filterMap zone? =
      (Outline.flatten (Outline.ofTypes types)).map (·.zone))
    (fun members => (ofMembers members).filterMap zone? =
      (Outline.flatten (Outline.ofMembers members)).map (·.zone))
    (fun statements => (ofStatements statements).filterMap zone? =
      (Outline.flatten (Outline.ofStatements statements)).map (·.zone)) where
  noTypes := rfl
  addType decl rest inner beside := by
    rw [ofTypes, Outline.ofTypes, List.filterMap_append, Outline.flatten_append, List.map_append,
      zones_type inner, beside]
  noMembers := rfl
  addMethod decl rest inner beside := by
    rw [ofMembers, Outline.ofMembers, List.filterMap_append, Outline.flatten_append,
      List.map_append, beside, Member.sites, Member.outline]
    cases held : decl.body with
    | none => simp [decl.sites_none held, decl.outline_none held, zone?]
    | some body => simp [decl.sites_some held, decl.outline_some held, zone?, inner body held]
  addStaticInit line body rest inner beside := by
    rw [ofMembers, Outline.ofMembers, List.filterMap_append, Outline.flatten_append,
      List.map_append, beside, Member.sites_staticInit, Member.outline_staticInit]
    simp [zone?, inner]
  addMemberType decl rest inner beside := by
    rw [ofMembers, Outline.ofMembers, List.filterMap_append, Outline.flatten_append,
      List.map_append, beside, Member.sites, Member.outline, zones_type inner]
  noStatements := rfl
  addStatement statement rest inner beside := by
    obtain ⟨⟩ := statement
    rw [ofStatements, Outline.ofStatements, List.filterMap_append, Outline.flatten_append,
      List.map_append, inner, beside]

end Site

namespace Java

theorem Position.advance_le (position : Position) (text : List Char) :
    (position.advance text).row + (position.advance text).column ≤
      position.row + position.column + Text.byteLength text := by
  induction text generalizing position with
  | nil => exact Nat.le_refl _
  | cons c rest ih =>
    have behind := ih (position.next c)
    have step : (position.next c).row + (position.next c).column ≤
        position.row + position.column + c.utf8Size := by
      have held := c.utf8Size_pos
      unfold next
      split
      · simp only
        omega
      · simp only
        omega
    rw [Text.byteLength_cons]
    exact behind.trans (by omega)

theorem Position.start_advance_le (text : List Char) :
    (start.advance text).row + (start.advance text).column ≤ Text.byteLength text := by
  simpa [start] using start.advance_le text

theorem Position.IsIn.le {text : List Char} {position : Position} (isIn : position.IsIn text) :
    position.row + position.column ≤ Text.byteLength text := by
  have reached := start_advance_le (text.take position.offset)
  rw [← isIn] at reached
  exact reached.trans (Text.byteLength_le_of_sublist (List.take_sublist _ _))

namespace Node

variable {text : List Char} {tree node : Node}

theorem LaidOut.endLine_le (laid : tree.LaidOut text) (member : node ∈ tree.all) :
    node.endLine ≤ Text.byteLength text + 1 := by
  have within := (laid.placed node member).2.1.le
  unfold endLine Position.line
  omega

theorem Makes.lastLine_le {decl : Declaration} {site : Site} {zone : Zone}
    (laid : tree.LaidOut text) (member : node ∈ tree.all) (makes : node.Makes text.toArray decl)
    (held : decl.site? = some site) (isZone : site.zone? = some zone) :
    zone.lastLine ≤ Text.byteLength text + 1 := by
  have inChild {child : Node} (among : child ∈ node.children) :
      child.endLine ≤ Text.byteLength text + 1 :=
    laid.endLine_le (all_subset member (mem_all_of_child among))
  cases makes with
  | type kind members =>
    obtain ⟨_, made⟩ := Option.dite_none_left_eq_some.mp held
    cases made
    cases isZone
    show ((node.childInField? "body").getD node).endLine ≤ _
    cases found : node.childInField? "body" with
    | none => exact laid.endLine_le member
    | some body => exact inChild (List.mem_of_find?_eq_some found)
  | anonymous members => cases held
  | method kind =>
    cases held
    cases found : bodyBlock text.toArray node.children with
    | none =>
      rw [found] at isZone
      cases isZone
    | some body =>
      rw [found] at isZone
      cases isZone
      obtain ⟨⟨label, children⟩, among, rfl⟩ := bodyBlock_mem found
      exact inChild among
  | staticInit found =>
    cases held
    cases isZone
    obtain ⟨⟨label, children⟩, among, rfl⟩ := initBlock_mem found
    exact inChild among

end Node

end Java

theorem Comment.marks_ofText_le {style : CommentStyle} {first column : Nat} {text name : String}
    {tag : Tag} (marks : (ofText style first column text).Marks tag name) :
    tag.line ≤ (ofText style first column text).endLine ∧
      tag.column ≤ column + Text.byteLength text.toList := by
  obtain ⟨below, _, line, position, present, place, stands⟩ := marks
  have starts : first ≤ tag.line := below
  obtain ⟨within, here⟩ := List.getElem?_eq_some_iff.mp present
  constructor
  next =>
    change tag.line - first < (Text.lineStrings text).length at within
    show tag.line ≤ first + ((Text.lineStrings text).length - 1)
    omega
  next =>
    have among : line ∈ (Text.lines text.toList).map String.ofList := List.mem_of_getElem? present
    obtain ⟨part, isLine, rfl⟩ := List.mem_map.mp among
    have inside := stands.inside
    have short := Text.byteLength_le_of_sublist (Text.sublist_of_mem_lines isLine)
    rw [String.toList_ofList, ← Text.byteLength_eq_size, ← Text.byteLength_eq_size] at inside
    rw [place]
    split
    next =>
      show position + column ≤ _
      omega
    next => omega

namespace CompilationUnit

variable {text : List Char} {tree : Java.Node}

-- A text in memory has fewer bytes than half the numbers of a machine word, so no line or column
-- of one is ever out of range, nor is the next one.
theorem declarations_le (laid : tree.LaidOut text) :
    ∀ decl ∈ (ofTree text tree).declarations, decl.line ≤ Text.byteLength text + 1 ∧
      ∀ column ∈ decl.column?, column ≤ Text.byteLength text := by
  intro decl declared
  obtain ⟨node, member, makes⟩ := ofTree_made text tree declared
  have within := (laid.placed node member).1.le
  obtain ⟨line, columns⟩ := makes.start
  rw [line, Java.Position.line]
  refine ⟨by omega, fun column present => ?_⟩
  rw [← columns column present]
  omega

theorem comments_le (laid : tree.LaidOut text) :
    ∀ comment ∈ (ofTree text tree).comments,
      comment.endLine ≤ Text.byteLength text + 1 ∧
      comment.startColumn ≤ Text.byteLength text ∧
      ∀ tag name, comment.Marks tag name →
        tag.line ≤ Text.byteLength text + 1 ∧ tag.column ≤ Text.byteLength text := by
  intro comment listed
  obtain ⟨node, member, made⟩ := Java.mem_commentsAt listed
  obtain ⟨style, isStyle, rfl⟩ := Option.map_eq_some_iff.mp made
  obtain ⟨before, body, after, stands⟩ := laid.exists_standsIn member
  have lexical := (laid.comments node member style isStyle).1
  have ends : (Java.commentOf text.toArray style node).endLine ≤ Text.byteLength text + 1 := by
    rw [stands.endLine (stands.body ▸ lexical), Java.Node.lastLine, Java.Position.line]
    have reached := Java.Position.start_advance_le (text.take (node.stop.offset - 1))
    have within := Text.byteLength_le_of_sublist (List.take_sublist (node.stop.offset - 1) text)
    omega
  have starts := Java.Position.start_advance_le before
  have trimmed := Text.byteLength_le_of_sublist (Java.prefix_trimLineEnds body).sublist
  have fits : node.start.column + Text.byteLength (Java.trimLineEnds body) ≤
      Text.byteLength text := by
    rw [← stands.start] at starts
    rw [stands.split, Text.byteLength_append, Text.byteLength_append]
    omega
  refine ⟨ends, (Nat.le_add_right _ _).trans fits, fun tag name marks => ?_⟩
  obtain ⟨line, column⟩ := Comment.marks_ofText_le marks
  rw [stands.body, String.toList_ofList] at column
  exact ⟨line.trans ends, column.trans fits⟩

theorem regions_le (laid : tree.LaidOut text) {map : RegionMap}
    (made : RegionMap.classify (ofTree text tree) = .ok map) :
    ∀ region ∈ map.regions, region.startLine ≤ Text.byteLength text + 2 := by
  obtain ⟨rfl, positioned⟩ := RegionMap.classify_records made
  intro region member
  rw [RegionMap.ofWalk, List.mem_mergeSort] at member
  rcases List.mem_cons.mp member with rfl | recorded
  · exact Nat.le_add_left 1 _
  · refine Outline.records_le positioned (fun node among => ?_) region recorded
    have zone : node.zone ∈ (sites (ofTree text tree)).filterMap Site.zone? := by
      rw [sites, Site.zones_eq.ofTypes]
      exact List.mem_map_of_mem among
    obtain ⟨site, isSite, isZone⟩ := List.mem_filterMap.mp zone
    rw [sites, Declaration.sites_eq.ofTypes] at isSite
    obtain ⟨decl, declared, held⟩ := List.mem_filterMap.mp isSite
    obtain ⟨maker, below, makes⟩ := ofTree_made text tree declared
    exact makes.lastLine_le laid below held isZone

end CompilationUnit

end DocAudit
