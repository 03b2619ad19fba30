/-!
# Help texts of the command line
-/

namespace Outline.Command

/-- What help can be asked about. -/
inductive Topic where
  /-- The program as a whole. -/
  | program
  | dump
  | listFormats
  | help
deriving DecidableEq

namespace Topic

/-- The topic of a subcommand. -/
def ofName? (name : String) : Option Topic :=
  match name with
  | "dump" => some .dump
  | "list-formats" => some .listFormats
  | "help" => some .help
  | _ => none

/-- The lines about a topic. -/
def lines : Topic → List String
  | program => [
    "Dump abstract syntax trees for inspection",
    "",
    "Usage: treedump <COMMAND>",
    "",
    "Commands:",
    "  dump          Dump a tree description",
    "  list-formats  List available output formats",
    "  help          Print this message or the help of the given subcommand(s)",
    "",
    "Options:",
    "  -h, --help     Print help",
    "  -V, --version  Print version"]
  | dump => [
    "Dump a tree description",
    "",
    "Usage: treedump dump [OPTIONS] <path>",
    "",
    "Arguments:",
    "  <path>  Path to the tree description (.json, .yaml or .yml)",
    "",
    "Options:",
    "  -f, --format <format>        Output format (e.g., 'dump', 'treeviz', 'json')",
    "      --indent <indent>        Indentation unit repeated once per nesting level",
    "      --max-depth <max-depth>  Fail on nodes deeper than this (0 disables the limit)",
    "  -c, --config <config>        Configuration file layered over the built-in defaults",
    "  -h, --help                   Print help"]
  | listFormats => [
    "List available output formats",
    "",
    "Usage: treedump list-formats",
    "",
    "Options:",
    "  -h, --help  Print help"]
  | help => [
    "Print this message or the help of the given subcommand(s)",
    "",
    "Usage: treedump help [COMMAND]...",
    "",
    "Arguments:",
    "  [COMMAND]...  Print help for the subcommand(s)"]

/-- The text about a topic. -/
def text (topic : Topic) : String := String.join (topic.lines.map (· ++ "\n"))

end Topic

/-- The line about the version. -/
def versionText : String := "treedump 0.1.0\n"

end Outline.Command
