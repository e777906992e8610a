import DocAudit.Pattern.Basic
import DocAudit.Region

set_option autoImplicit false

namespace DocAudit

structure AllowClause where
  context : Context
  format : Option (List Char × Pattern.Regex)

namespace AllowClause

def accepts (clause : AllowClause) (text : List Char) : Bool :=
  clause.format.all fun format => format.2.matchesWithin text

end AllowClause

abbrev AllowList := List AllowClause

inductive DescriptorError where
  | trailingGarbage (rest : List Char)
  | badFormat (source : List Char)
deriving DecidableEq, Repr

def DescriptorError.message : DescriptorError → String
  | .trailingGarbage rest => "trailing garbage in format: '" ++ String.ofList rest ++ "'"
  | .badFormat source => "bad format: '" ++ String.ofList source ++ "'"

namespace AllowList

def anywhere : AllowList := Context.all.map fun context => ⟨context, none⟩

def isKeywordChar (c : Char) : Bool := c.isAlphanum || c == '_'

def isDelimiter (c : Char) : Bool := !isKeywordChar c && !Text.isBlank c

def delimited? (text : List Char) : Option (List Char × List Char) :=
  match text with
  | [] => none
  | delimiter :: body =>
    if isDelimiter delimiter then
      match body.dropWhile fun c => !(c == delimiter || c == '\n') with
      | c :: rest =>
        if c = delimiter then some (body.takeWhile fun c => !(c == delimiter || c == '\n'), rest)
        else none
      | [] => none
    else none

theorem length_delimited_rest {text source rest : List Char}
    (h : delimited? text = some (source, rest)) : rest.length < text.length := by
  unfold delimited? at h
  split at h
  · simp at h
  · rename_i delimiter body
    split at h
    · split at h
      · rename_i c rest' hdrop
        split at h
        · simp only [Option.some.injEq, Prod.mk.injEq] at h
          have hle := (List.dropWhile_sublist (l := body)
            fun c => !(c == delimiter || c == '\n')).length_le
          rw [hdrop, List.length_cons] at hle
          rw [← h.2, List.length_cons]
          omega
        · simp at h
      · simp at h
    · simp at h

def keyword? (text : List Char) : Option (Context × List Char) :=
  (Context.ofKeyword? (String.ofList (text.takeWhile isKeywordChar))).map fun context =>
    (context, text.dropWhile isKeywordChar)

theorem length_keyword_rest {text rest : List Char} {context : Context}
    (h : keyword? text = some (context, rest)) : rest.length < text.length := by
  have empty : Context.ofKeyword? (String.ofList []) = none := by decide
  rcases text with _ | ⟨c, cs⟩
  · simp [keyword?, empty] at h
  · by_cases hc : isKeywordChar c = true
    · simp only [keyword?, Option.map_eq_some_iff, Prod.mk.injEq] at h
      obtain ⟨_, _, _, hrest⟩ := h
      rw [← hrest, List.dropWhile_cons_of_pos hc, List.length_cons]
      exact Nat.lt_succ_of_le (List.dropWhile_sublist _).length_le
    · simp [keyword?, List.takeWhile_cons_of_neg hc, empty] at h

theorem length_trimStart_keyword_rest {text rest : List Char} {context : Context}
    (h : keyword? (Text.trimStart text) = some (context, rest)) :
    (Text.trimStart rest).length < text.length :=
  Nat.lt_of_le_of_lt (Text.length_trimStart_le rest)
    (Nat.lt_of_lt_of_le (length_keyword_rest h) (Text.length_trimStart_le text))

def parse [Pattern.Reader] (text : List Char) : Except DescriptorError AllowList :=
  if Text.trimStart text = [] then .ok []
  else
    match _hk : keyword? (Text.trimStart text) with
    | none => .error (.trailingGarbage (Text.trimStart text))
    | some (context, rest) =>
      match _hd : delimited? (Text.trimStart rest) with
      | none => (parse (Text.trimStart rest)).map (⟨context, none⟩ :: ·)
      | some (source, after) =>
        match Pattern.Reader.wholeWithLineEnds? source with
        | none => .error (.badFormat source)
        | some regex => (parse after).map (⟨context, some (source, regex)⟩ :: ·)
termination_by text.length
decreasing_by
  · exact length_trimStart_keyword_rest _hk
  · exact Nat.lt_trans (length_delimited_rest _hd) (length_trimStart_keyword_rest _hk)

end AllowList

inductive CommentFault where
  | neverAllowed
  | notAllowed
  | badFormat
deriving DecidableEq, Repr

structure CommentFinding where
  line : Nat
  column : Nat
  fault : CommentFault
  style : CommentStyle
deriving DecidableEq, Repr

namespace AllowList

def fault? (allowed : AllowList) (context : Context) (text : List Char) : Option CommentFault :=
  if allowed.isEmpty then some .neverAllowed
  else
    match allowed.find? (·.context == context) with
    | none => some .notAllowed
    | some clause => if clause.accepts text then none else some .badFormat

def check (map : RegionMap) (allowed : AllowList) :
    List Comment → Except MalformedTree (List CommentFinding)
  | [] => .ok []
  | comment :: rest =>
    match map.regionAt comment.startLine with
    | .error e => .error e
    | .ok region =>
      match check map allowed rest with
      | .error e => .error e
      | .ok findings =>
        match fault? allowed region.context comment.joinedText with
        | none => .ok findings
        | some fault =>
          .ok (⟨comment.startLine, comment.startColumn, fault, comment.style⟩ :: findings)

def validate (map : RegionMap) (unit : CompilationUnit) (block line : AllowList) :
    Except MalformedTree (List CommentFinding) :=
  match check map block (unit.commentsOf .block) with
  | .error e => .error e
  | .ok blockFindings =>
    match check map line (unit.commentsOf .line) with
    | .error e => .error e
    | .ok lineFindings => .ok (blockFindings ++ lineFindings)

end AllowList

end DocAudit
