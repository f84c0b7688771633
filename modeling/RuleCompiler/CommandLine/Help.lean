import RuleCompiler.CommandLine.Arguments
import RuleCompiler.Handshake

/-!
The texts that the program prints about itself.
-/

namespace RuleCompiler.CommandLine

def programName : String := "rulesets-cli"

def versionText : String :=
  programName ++ " " ++ engineVersion ++ "\n"

namespace Topic

def text : Topic → String
  | .commands =>
      "Rulesets CLI - multi-destination rule compiler\n\n" ++
      "Usage: " ++ programName ++ " <COMMAND>\n\n" ++
      "Commands:\n" ++
      "  providers  List active and rejected providers\n" ++
      "  compile    Compile rule documents\n" ++
      "  check      Check built-in providers against an SDK version\n" ++
      "  help       Print this message or the help of the given subcommand(s)\n\n" ++
      "Options:\n" ++
      "  -h, --help     Print help\n" ++
      "  -V, --version  Print version\n"
  | .providers =>
      "List active and rejected providers\n\n" ++
      "Usage: " ++ programName ++ " providers\n\n" ++
      "Options:\n" ++
      "  -h, --help  Print help\n"
  | .compile =>
      "Compile rule documents\n\n" ++
      "Usage: " ++ programName ++ " compile [OPTIONS] <FILES>...\n\n" ++
      "Arguments:\n" ++
      "  <FILES>...  Rule documents (markdown with optional YAML frontmatter)\n\n" ++
      "Options:\n" ++
      "  -d, --destination <DESTINATIONS>  Only compile these destinations (repeatable)\n" ++
      "  -c, --config <CONFIG>             Project config file (.json, .yaml, .yml)\n" ++
      "  -r, --root <ROOT>                 Project root [default: .]\n" ++
      "  -h, --help                        Print help\n"
  | .check =>
      "Check built-in providers against an SDK version\n\n" ++
      "Usage: " ++ programName ++ " check --sdk <SDK>\n\n" ++
      "Options:\n" ++
      "      --sdk <SDK>  \n" ++
      "  -h, --help       Print help\n"
  | .help =>
      "Print this message or the help of the given subcommand(s)\n\n" ++
      "Usage: " ++ programName ++ " help [COMMAND]...\n\n" ++
      "Arguments:\n" ++
      "  [COMMAND]...  Print help for the subcommand(s)\n"

end Topic

end RuleCompiler.CommandLine
