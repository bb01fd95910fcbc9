import Outbound.Command.Line

namespace Outbound

def versionLine : String := "externalize 0.1.0\n"

namespace CommandName

def word : CommandName → String
  | route => "route"
  | check => "check"
  | version => "version"
  | help => "help"

def about : CommandName → String
  | route => "Route JSON events through the settings and print target/payload records"
  | check => "Validate a settings file"
  | version => "Print version information"
  | help => "Print this message or the help of the given subcommand(s)"

/-- What may follow the name of a command, and an explanation of it. -/
def usage : CommandName → String × String
  | route =>
    (" [OPTIONS] --settings <SETTINGS>",
      "Options:\n" ++
      "  -s, --settings <SETTINGS>  Settings file (JSON)\n" ++
      "  -i, --input <INPUT>        Events as JSON lines (reads stdin if omitted)\n" ++
      "  -h, --help                 Print help\n")
  | check =>
    (" --settings <SETTINGS>",
      "Options:\n" ++
      "  -s, --settings <SETTINGS>  Settings file (JSON)\n" ++
      "  -h, --help                 Print help\n")
  | version => ("", "Options:\n  -h, --help  Print help\n")
  | help => (" [COMMAND]...", "Arguments:\n  [COMMAND]...  Print help for the subcommand(s)\n")

end CommandName

/-- The help on the program, or on one command. -/
def helpText : Option CommandName → String
  | none =>
    "Decide where domain events are externalized to\n\n" ++
    "Usage: externalize <COMMAND>\n\n" ++
    "Commands:\n" ++
    String.join ([CommandName.route, .check, .version, .help].map fun name =>
      "  " ++ name.word ++ "".pushn ' ' (9 - name.word.length) ++ name.about ++ "\n") ++
    "\nOptions:\n" ++
    "  -h, --help     Print help\n" ++
    "  -V, --version  Print version\n"
  | some name =>
    name.about ++ "\n\nUsage: externalize " ++ name.word ++ name.usage.1 ++ "\n\n" ++ name.usage.2

namespace UsageError

/-- What the program prints instead of running a command. -/
def output : UsageError → String
  | help topic => helpText topic
  | showVersion => versionLine
  | _ => ""

/-- What is wrong with the arguments, or nothing if they ask a question. -/
def complaint : UsageError → String
  | help _ => ""
  | showVersion => ""
  | nothingAsked => helpText none
  | invalidSubcommand => "error: unrecognized subcommand\n"
  | unknownArgument => "error: unexpected argument\n"
  | invalidValue => "error: a value is required\n"
  | repeatedArgument => "error: an argument cannot be used multiple times\n"
  | missingArgument => "error: the required argument --settings was not provided\n"
  | tooManyValues => "error: unexpected value\n"

end UsageError

end Outbound
