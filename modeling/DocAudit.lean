import DocAudit.AllowList
import DocAudit.Audit
import DocAudit.ClassHierarchy
import DocAudit.CommandLine
import DocAudit.CommandLine.Help
import DocAudit.CommandLine.Invocation
import DocAudit.CommandLine.Options
import DocAudit.CommandLine.StarterFile
import DocAudit.Comment
import DocAudit.CommentIndex
import DocAudit.Context
import DocAudit.Decimal.Binary64
import DocAudit.Decimal.Shortest
import DocAudit.Declaration
import DocAudit.Exclusion
import DocAudit.FileCheck
import DocAudit.FileSearch
import DocAudit.FileTree
import DocAudit.Finding
import DocAudit.Glob
import DocAudit.Java.Grammar
import DocAudit.Java.Grammar.Expressions
import DocAudit.Java.Grammar.Phrase
import DocAudit.Java.Grammar.Statements
import DocAudit.Java.Grammar.Types
import DocAudit.Java.Lexeme
import DocAudit.Java.Lexer
import DocAudit.Java.Node
import DocAudit.Java.Unit
import DocAudit.Json
import DocAudit.Main
import DocAudit.MalformedTree
import DocAudit.Message
import DocAudit.Path
import DocAudit.Pattern.Basic
import DocAudit.Pattern.CharSet
import DocAudit.Pattern.Parser
import DocAudit.Preset
import DocAudit.Proofs.DeclarationInduction
import DocAudit.Proofs.Outline
import DocAudit.Region
import DocAudit.ReportJson
import DocAudit.ReportText
import DocAudit.Rule
import DocAudit.Rule.CommentPlacement
import DocAudit.Rule.MethodDoc.Check
import DocAudit.Rule.MethodDoc.Options
import DocAudit.Rule.MethodDoc.Params
import DocAudit.Rule.MethodDoc.Signature
import DocAudit.Rule.MethodDoc.Throws
import DocAudit.Rule.TypeDoc
import DocAudit.RuleSelection
import DocAudit.Scope
import DocAudit.Settings
import DocAudit.SettingsError
import DocAudit.SettingsFile
import DocAudit.SettingsLookup
import DocAudit.SourceFile
import DocAudit.Tag
import DocAudit.Text.Blank
import DocAudit.Text.CaseFolding
import DocAudit.Text.CaseRun
import DocAudit.Text.Category
import DocAudit.Text.CodePointSet
import DocAudit.Text.IdentifierChar
import DocAudit.Text.Lines
import DocAudit.Text.Numbers
import DocAudit.Text.Parts
import DocAudit.Text.Uppercase
import DocAudit.Text.WordChar
import DocAudit.Toml.Document
import DocAudit.Toml.Number
import DocAudit.Toml.Text
import DocAudit.Toml.Value
import DocAudit.Warning
import DocAudit.Proofs.RegionRecords
import DocAudit.Proofs.LineContext
import DocAudit.Proofs.RegionLookup
import DocAudit.Proofs.ThrowsMatching
import DocAudit.Proofs.SubclassTolerance
import DocAudit.Proofs.MethodOccurrence
import DocAudit.Proofs.MethodWalk
import DocAudit.Proofs.TagOrder
import DocAudit.Proofs.ByteOffset
import DocAudit.Proofs.ExclusionPatterns
import DocAudit.Proofs.TagAccounting
import DocAudit.Proofs.DeclarationSites
import DocAudit.Proofs.DeclarationPlaces
import DocAudit.Proofs.RuleCompletion
import DocAudit.Proofs.RuleRestriction
import DocAudit.Proofs.PrevailingRegion
import DocAudit.Proofs.SharedLines
import DocAudit.Proofs.PathOrder
import DocAudit.Proofs.PathParts
import DocAudit.Proofs.FileDiscovery
import DocAudit.Proofs.AttachedComment
import DocAudit.Proofs.RepeatedRules
import DocAudit.Proofs.RelativePath
import DocAudit.Proofs.AuditReport
import DocAudit.Proofs.TreeSpots
import DocAudit.Proofs.DeclarationNesting
import DocAudit.Proofs.MethodNodes
import DocAudit.Proofs.InspectedTypes
import DocAudit.Proofs.ClassAncestry
import DocAudit.Proofs.ParamCounts
import DocAudit.Proofs.TagLines
import DocAudit.Proofs.DescriptorGrammar
import DocAudit.Proofs.PositionFaults
import DocAudit.Proofs.ThrowsReport
import DocAudit.Proofs.RegionOrder
import DocAudit.Proofs.Leniency
import DocAudit.Proofs.InheritedDoc
import DocAudit.Proofs.ScopeNarrowing
import DocAudit.Proofs.SurroundingScope
import DocAudit.Proofs.TagDescription
import DocAudit.Proofs.CommentVerdicts
import DocAudit.Proofs.ConfiguredRules
import DocAudit.Proofs.TypeOccurrence
import DocAudit.Proofs.BlockTagText
import DocAudit.Proofs.TypeReport
import DocAudit.Proofs.TypeParamTags
import DocAudit.Proofs.NearestComment
import DocAudit.Proofs.NodePlaces
import DocAudit.Proofs.TextBytes
import DocAudit.Proofs.TokenSpan
import DocAudit.Proofs.TagPlaces
import DocAudit.Proofs.Placeholders
import DocAudit.Proofs.MessageText
import DocAudit.Proofs.ReportReading
import DocAudit.Proofs.TypeAddresses
import DocAudit.Proofs.ClassEntries
import DocAudit.Proofs.CommentText
import DocAudit.Proofs.SourceComments
import DocAudit.Proofs.PositionBounds
