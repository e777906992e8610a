set_option autoImplicit false

namespace DocAudit.CommandLine

inductive OptionKind where
  | flag
  | value (isValid : String → Bool) (repeatable : Bool)
  | help
  | version

structure OptionSpec where
  long : String
  short : Option Char
  kind : OptionKind

inductive Stop where
  | usage
  | help (long : Bool)
  | version
deriving DecidableEq, Repr

structure Collected where
  given : List (String × String)
  positionals : List String
deriving DecidableEq, Repr

namespace Collected

def empty : Collected := ⟨[], []⟩

def has (collected : Collected) (long : String) : Bool := collected.given.any (·.1 == long)

def values (collected : Collected) (long : String) : List String :=
  (collected.given.filter (·.1 == long)).map (·.2)

def value? (collected : Collected) (long : String) : Option String :=
  (collected.values long).head?

def give (collected : Collected) (long value : String) : Collected :=
  { collected with given := collected.given ++ [(long, value)] }

end Collected

structure Signature where
  options : List OptionSpec
  positionals : List (String → Bool)

namespace Signature

def long? (signature : Signature) (name : String) : Option OptionSpec :=
  signature.options.find? (·.long == name)

def short? (signature : Signature) (letter : Char) : Option OptionSpec :=
  signature.options.find? (·.short == some letter)

def takeValue (spec : OptionSpec) (isValid : String → Bool) (repeatable : Bool)
    (collected : Collected) (value : String) : Except Stop Collected :=
  if !repeatable && collected.has spec.long then .error .usage
  else if isValid value then .ok (collected.give spec.long value)
  else .error .usage

def takeFlag (spec : OptionSpec) (collected : Collected) : Except Stop Collected :=
  if collected.has spec.long then .error .usage else .ok (collected.give spec.long "")

def looksLikeOption (word : String) : Bool :=
  match word.toList with
  | '-' :: _ :: _ => true
  | _ => false

def nextValue : List String → Option (String × List String)
  | [] => none
  | word :: rest => if looksLikeOption word then none else some (word, rest)

def splitLong (text : List Char) : String × Option String :=
  (String.ofList (text.takeWhile (· != '=')),
    match text.dropWhile (· != '=') with
    | [] => none
    | _ :: value => some (String.ofList value))

def attached? : List Char → Option String
  | [] => none
  | '=' :: value => some (String.ofList value)
  | value => some (String.ofList value)

def takeLong (signature : Signature) (collected : Collected) (text : List Char)
    (rest : List String) : Except Stop (Collected × List String) :=
  let (name, attached) := splitLong text
  match signature.long? name with
  | none => .error .usage
  | some spec =>
    match spec.kind, attached with
    | .flag, none => (takeFlag spec collected).map (·, rest)
    | .help, none => .error (.help true)
    | .version, none => .error .version
    | .value isValid repeatable, some value =>
      (takeValue spec isValid repeatable collected value).map (·, rest)
    | .value isValid repeatable, none =>
      match nextValue rest with
      | none => .error .usage
      | some (value, rest) => (takeValue spec isValid repeatable collected value).map (·, rest)
    | _, _ => .error .usage

def takeShorts (signature : Signature) (collected : Collected) (rest : List String) :
    List Char → Except Stop (Collected × List String)
  | [] => .ok (collected, rest)
  | letter :: more =>
    match signature.short? letter with
    | none => .error .usage
    | some spec =>
      match spec.kind with
      | .help => .error (.help false)
      | .version => .error .version
      | .flag => do signature.takeShorts (← takeFlag spec collected) rest more
      | .value isValid repeatable =>
        match attached? more with
        | some value => (takeValue spec isValid repeatable collected value).map (·, rest)
        | none =>
          match nextValue rest with
          | none => .error .usage
          | some (value, rest) =>
            (takeValue spec isValid repeatable collected value).map (·, rest)

def takePositional (signature : Signature) (collected : Collected) (word : String) :
    Except Stop Collected :=
  match signature.positionals[collected.positionals.length]? with
  | none => .error .usage
  | some isValid =>
    if isValid word then .ok { collected with positionals := collected.positionals ++ [word] }
    else .error .usage

def takePositionals (signature : Signature) (collected : Collected) :
    List String → Except Stop Collected
  | [] => .ok collected
  | word :: rest => do signature.takePositionals (← signature.takePositional collected word) rest

def takeOption (signature : Signature) (collected : Collected) (word : String)
    (rest : List String) : Option (Except Stop (Collected × List String)) :=
  match word.toList with
  | '-' :: '-' :: text => some (signature.takeLong collected text rest)
  | '-' :: letter :: more => some (signature.takeShorts collected rest (letter :: more))
  | _ => none

/-- Reads words; `fuel` bounds their number. A word for which `isCommand` holds ends the reading
and is given back with all that follows it. -/
def readFrom (signature : Signature) (isCommand : String → Bool) (collected : Collected) :
    Nat → List String → Except Stop (Collected × List String)
  | 0, rest => .ok (collected, rest)
  | _ + 1, [] => .ok (collected, [])
  | fuel + 1, word :: rest =>
    if word == "--" then (signature.takePositionals collected rest).map (·, [])
    else if isCommand word then .ok (collected, word :: rest)
    else
      match signature.takeOption collected word rest with
      | some (.error stop) => .error stop
      | some (.ok (collected, rest)) => signature.readFrom isCommand collected fuel rest
      | none => do
        signature.readFrom isCommand (← signature.takePositional collected word) fuel rest

def read (signature : Signature) (isCommand : String → Bool) (words : List String) :
    Except Stop (Collected × List String) :=
  signature.readFrom isCommand .empty words.length words

end Signature

end DocAudit.CommandLine
