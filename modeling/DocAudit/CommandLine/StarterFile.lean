import DocAudit.CommandLine.Help

set_option autoImplicit false

namespace DocAudit.CommandLine

def starterSettings : String :=
  unlines
    ["# doclint configuration",
      "",
      "# Rule preset: recommended | strict | minimal",
      "preset = \"recommended\"",
      "",
      "[analyzer]",
      "# Root directory to analyze (default: current directory)",
      "# root = \"./src\"",
      "",
      "# Glob patterns to exclude from analysis",
      "exclude = [",
      "    \"**/build/**\",",
      "    \"**/target/**\",",
      "    \"**/generated/**\",",
      "]",
      "",
      "# Each rule can be enabled/disabled and have its severity overridden",
      "",
      "[rules.internal-comments]",
      "# Regions where block comments may appear, or a regex per region",
      "allowed_block_formats = \"package class func init prestmts stmts\"",
      "allowed_line_formats = \"stmts prestmts\"",
      "",
      "[rules.javadoc-method]",
      "# severity = \"warning\"",
      "scope = \"private\"",
      "allowed_annotations = [\"Override\"]",
      "# allow_narrative_param_tags = true",
      "# unused_param_format = \"unused.*\"",
      "",
      "[rules.javadoc-type]",
      "# author_format = \"\\\\S\"",
      "# version_format = \"\\\\S\""]

def nextStepsText : String :=
  unlines
    ["Created doclint.toml",
      "",
      "Next steps:",
      "  1. Edit doclint.toml to configure rules",
      "  2. Run: doclint check"]

end DocAudit.CommandLine
