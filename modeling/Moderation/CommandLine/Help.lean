import Moderation.CommandLine.Arguments

namespace Moderation.CommandLine

def versionText : String := "chatwarden 0.1.0"

def helpLines : List String :=
  [ versionText,
    "",
    "Run messages through a filter rule chain and report what happened.",
    "",
    "Usage:",
    "  chatwarden [OPTIONS] [--] <message...>",
    "  chatwarden [OPTIONS] < messages.txt      (one message per line)",
    "",
    "Options:",
    "  -r, --rules <file>         Rule file to load. Default: <rule_directory>/<chain>.txt",
    "  -c, --config <file>        TOML configuration (messages, filters, points).",
    "      --chain <name>         Chain name. Default: chat",
    "  -a, --author <name>        Author name used for tags and scoring. Default: Steve",
    "  -p, --permission <perm>    Grant the author a permission. Repeatable.",
    "      --color                Force ANSI color output.",
    "      --no-color             Disable ANSI color output.",
    "  -h, --help                 Show this help message.",
    "  -V, --version              Print version information.",
    "",
    "Environment:",
    "  CHATWARDEN_LOG             Log filter, e.g. chatwarden=debug",
    "",
    "Exit codes:",
    "  0  Success.",
    "  1  Rules or configuration failed to load.",
    "  2  Invalid arguments or missing input." ]

def helpText : String := String.join (helpLines.map (· ++ "\n"))

def UsageError.message : UsageError → String
  | .missingValue option => s!"error: {option} expects a value"
  | .unknownOption argument => s!"error: unknown option '{argument}'"
  | .noMessage => "error: no message provided\n\n" ++ helpText
  | .unreadableInput reason => s!"error: failed to read stdin: {reason}"

end Moderation.CommandLine
