import DocAudit.CommandLine.Options
import DocAudit.ReportText
import DocAudit.SettingsLookup

set_option autoImplicit false

namespace DocAudit.CommandLine

structure CheckOptions where
  path : Path
  format : ReportFormat
  rules : Option String
  exclude : List String
  preset : Option String

inductive Command where
  | check (options : CheckOptions)
  | listRules
  | init (force : Bool)

inductive Topic where
  | program
  | check
  | listRules
  | init
  | help
deriving DecidableEq, Repr

namespace Topic

def word? : Topic → Option String
  | .program => none
  | .check => some "check"
  | .listRules => some "list-rules"
  | .init => some "init"
  | .help => some "help"

def commands : List Topic := [.check, .listRules, .init, .help]

def ofWord? (word : String) : Option Topic := commands.find? fun topic => topic.word? == some word

end Topic

inductive Invocation where
  | run (settingsFile : Option Path) (command : Command)
  | help (topic : Topic) (long : Bool)
  | version
  | usageError

def isNonempty (text : String) : Bool := text != ""

def sharedOptions : List OptionSpec :=
  [⟨"verbose", some 'v', .flag⟩, ⟨"config", some 'c', .value isNonempty false⟩,
    ⟨"help", some 'h', .help⟩]

def programSignature : Signature :=
  ⟨sharedOptions ++ [⟨"version", some 'V', .version⟩], []⟩

def checkSignature : Signature :=
  ⟨sharedOptions ++
    [⟨"format", some 'f', .value (fun text => (ReportFormat.ofName? text).isSome) false⟩,
      ⟨"rules", none, .value (fun _ => true) false⟩,
      ⟨"exclude", some 'e', .value (fun _ => true) true⟩,
      ⟨"preset", none, .value (fun _ => true) false⟩], [isNonempty]⟩

def listRulesSignature : Signature := ⟨sharedOptions, []⟩

def initSignature : Signature := ⟨sharedOptions ++ [⟨"force", none, .flag⟩], []⟩

def signatureOf : Topic → Signature
  | .check => checkSignature
  | .init => initSignature
  | _ => listRulesSignature

def checkOptions (collected : Collected) : CheckOptions :=
  ⟨Path.ofString (collected.positionals.headD "."),
    ((collected.value? "format").bind ReportFormat.ofName?).getD .text,
    collected.value? "rules", collected.values "exclude", collected.value? "preset"⟩

def commandOf (collected : Collected) : Topic → Command
  | .check => .check (checkOptions collected)
  | .init => .init (collected.has "force")
  | _ => .listRules

namespace Invocation

def ofStop (topic : Topic) : Stop → Invocation
  | .usage => .usageError
  | .help long => .help topic long
  | .version => .version

def ofHelpWords : List String → Invocation
  | [] => .help .program true
  | [word] => (Topic.ofWord? word).elim .usageError fun topic => .help topic true
  | _ => .usageError

/-- The settings file: the one behind the command before the one in front of it, and then the one
from the environment, which must not be empty where it is needed. -/
def settingsFile (fallback : Option String) (front behind : Collected) :
    Except Stop (Option Path) :=
  let choose (collected : Collected) : Except Stop (Option String) :=
    match collected.value? "config", fallback with
    | some value, _ => .ok (some value)
    | none, some value => if isNonempty value then .ok none else .error .usage
    | none, none => .ok none
  do
    let inner ← choose behind
    let outer ← choose front
    pure ((inner <|> outer <|> fallback).map Path.ofString)

def ofWords (environment : Environment) (words : List String) : Invocation :=
  match programSignature.read (fun word => (Topic.ofWord? word).isSome) words with
  | .error stop => ofStop .program stop
  | .ok (_, []) => .usageError
  | .ok (front, word :: rest) =>
    match Topic.ofWord? word with
    | none => .usageError
    | some .help => ofHelpWords rest
    | some topic =>
      match (signatureOf topic).read (fun _ => false) rest with
      | .error stop => ofStop topic stop
      | .ok (behind, _) =>
        match settingsFile (environment.get? "DOCLINT_CONFIG") front behind with
        | .error stop => ofStop topic stop
        | .ok file => .run file (commandOf behind topic)

end Invocation

end DocAudit.CommandLine
