set_option autoImplicit false

/-! What the program says about itself. -/
namespace ArithLex.CommandLine

def version : List String := ["abacus 0.1.0"]

def summary : List String :=
  ["Abacus arithmetic lexer - tokenize a file or start a shell",
   "",
   "Usage: abacus [OPTIONS] [FILE]",
   "",
   "Arguments:",
   "  [FILE]  Source file to tokenize (starts the interactive shell when omitted)",
   "",
   "Options:",
   "  -c, --config <CONFIG>          Configuration file path (default: ./abacus.json if present)",
   "      --json                     Print tokens and errors as JSON",
   "      --no-arrows                Do not underline the offending source on errors",
   "      --log-level <LEVEL>        Log level: silent, error, warn, info, debug, trace",
   "      --log-format <LOG_FORMAT>  Log output format [default: compact] [possible values: pretty, compact, json]",
   "      --log-file <PATH>          Also append logs to this file",
   "  -h, --help                     Print help (see more with '--help')",
   "  -V, --version                  Print version"]

def manual : List String :=
  ["Abacus arithmetic lexer - tokenize a file or start a shell",
   "",
   "Usage: abacus [OPTIONS] [FILE]",
   "",
   "Arguments:",
   "  [FILE]",
   "          Source file to tokenize (starts the interactive shell when omitted)",
   "",
   "Options:",
   "  -c, --config <CONFIG>",
   "          Configuration file path (default: ./abacus.json if present)",
   "",
   "      --json",
   "          Print tokens and errors as JSON",
   "",
   "      --no-arrows",
   "          Do not underline the offending source on errors",
   "",
   "      --log-level <LEVEL>",
   "          Log level: silent, error, warn, info, debug, trace",
   "",
   "      --log-format <LOG_FORMAT>",
   "          Log output format",
   "",
   "          Possible values:",
   "          - pretty:  彩色格式化（开发使用）",
   "          - compact: 紧凑格式",
   "          - json:    JSON 格式（工具集成）",
   "          ",
   "          [default: compact]",
   "",
   "      --log-file <PATH>",
   "          Also append logs to this file",
   "",
   "  -h, --help",
   "          Print help (see a summary with '-h')",
   "",
   "  -V, --version",
   "          Print version"]

/-- Lines with a line feed behind each. -/
def page (lines : List String) : String :=
  String.join (lines.map (· ++ "\n"))

end ArithLex.CommandLine
