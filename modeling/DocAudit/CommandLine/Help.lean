import DocAudit.CommandLine.Invocation
import DocAudit.Preset

set_option autoImplicit false

namespace DocAudit.CommandLine

def versionText : String := "doclint 0.3.0\n"

def unlines (lines : List String) : String := String.join (lines.map (· ++ "\n"))

def configVariable (environment : Environment) : String :=
  "[env: DOCLINT_CONFIG=" ++ (environment.get? "DOCLINT_CONFIG").getD "" ++ "]"

def programHelp (environment : Environment) : List String :=
  ["CLI tool for the doclint comment and Javadoc checker",
    "",
    "Usage: doclint [OPTIONS] <COMMAND>",
    "",
    "Commands:",
    "  check       Run lint checks",
    "  list-rules  List available rules",
    "  init        Initialize configuration file",
    "  help        Print this message or the help of the given subcommand(s)",
    "",
    "Options:",
    "  -v, --verbose          Enable verbose output",
    "  -c, --config <CONFIG>  Path to configuration file " ++ configVariable environment,
    "  -h, --help             Print help",
    "  -V, --version          Print version"]

def checkHelp (environment : Environment) : List String :=
  ["Run lint checks",
    "",
    "Usage: doclint check [OPTIONS] [PATH]",
    "",
    "Arguments:",
    "  [PATH]  Path to analyze (default: current directory) [default: .]",
    "",
    "Options:",
    "  -f, --format <FORMAT>    Output format [default: text] " ++
      "[possible values: text, json, compact, pretty]",
    "  -v, --verbose            Enable verbose output",
    "  -c, --config <CONFIG>    Path to configuration file " ++ configVariable environment,
    "      --rules <RULES>      Only run specific rules (comma-separated names or codes)",
    "  -e, --exclude <EXCLUDE>  Exclude patterns (can be specified multiple times)",
    "      --preset <PRESET>    Rule preset, overriding the configuration file",
    "  -h, --help               Print help (see more with '--help')"]

def checkLongHelp (environment : Environment) : List String :=
  let gap := "          "
  ["Run lint checks",
    "",
    "Usage: doclint check [OPTIONS] [PATH]",
    "",
    "Arguments:",
    "  [PATH]",
    "          Path to analyze (default: current directory)",
    gap,
    "          [default: .]",
    "",
    "Options:",
    "  -f, --format <FORMAT>",
    "          Output format",
    gap,
    "          [default: text]",
    "",
    "          Possible values:",
    "          - text:    Human-readable text output",
    "          - json:    JSON output",
    "          - compact: One-line-per-violation compact format",
    "          - pretty:  Source excerpts rendered through miette",
    "",
    "  -v, --verbose",
    "          Enable verbose output",
    "",
    "  -c, --config <CONFIG>",
    "          Path to configuration file",
    gap,
    "          " ++ configVariable environment,
    "",
    "      --rules <RULES>",
    "          Only run specific rules (comma-separated names or codes)",
    "",
    "  -e, --exclude <EXCLUDE>",
    "          Exclude patterns (can be specified multiple times)",
    "",
    "      --preset <PRESET>",
    "          Rule preset, overriding the configuration file",
    "",
    "  -h, --help",
    "          Print help (see a summary with '-h')"]

def listRulesHelp (environment : Environment) : List String :=
  ["List available rules",
    "",
    "Usage: doclint list-rules [OPTIONS]",
    "",
    "Options:",
    "  -v, --verbose          Enable verbose output",
    "  -c, --config <CONFIG>  Path to configuration file " ++ configVariable environment,
    "  -h, --help             Print help"]

def initHelp (environment : Environment) : List String :=
  ["Initialize configuration file",
    "",
    "Usage: doclint init [OPTIONS]",
    "",
    "Options:",
    "      --force            Overwrite existing config",
    "  -v, --verbose          Enable verbose output",
    "  -c, --config <CONFIG>  Path to configuration file " ++ configVariable environment,
    "  -h, --help             Print help"]

def helpHelp : List String :=
  ["Print this message or the help of the given subcommand(s)",
    "",
    "Usage: doclint help [COMMAND]...",
    "",
    "Arguments:",
    "  [COMMAND]...  Print help for the subcommand(s)"]

def helpText (environment : Environment) (topic : Topic) (long : Bool) : String :=
  unlines <|
    match topic with
    | .program => programHelp environment
    | .check => if long then checkLongHelp environment else checkHelp environment
    | .listRules => listRulesHelp environment
    | .init => initHelp environment
    | .help => helpHelp

def ruleRow (code name description : String) : String :=
  Text.padded 10 code ++ " " ++ Text.padded 25 name ++ " " ++ description

def rulesText : String :=
  unlines <|
    ["Available rules:",
      "",
      ruleRow "Code" "Name" "Description",
      String.ofList (List.replicate 80 '-')] ++
    Rule.all.map (fun rule => ruleRow rule.code rule.name rule.description) ++
    ["",
      "Presets:",
      "  recommended  - DL001, DL002, DL003 with defaults (default)",
      "  strict       - @author and @version required, no narrative tags",
      "  minimal      - DL002 only (for gradual adoption)",
      "",
      "Use --rules to filter specific rules, e.g.:",
      "  doclint check --rules javadoc-method,javadoc-type",
      "  doclint check --rules DL001,DL002"]

end DocAudit.CommandLine
