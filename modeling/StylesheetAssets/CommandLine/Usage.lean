import StylesheetAssets.CommandLine.Switch

/-!
What the program says about its command line.
-/
namespace StylesheetAssets.CommandLine

def helpText : String :=
  "Rewrite url() references in stylesheets\n\n" ++
  "Usage: cssurl [OPTIONS] <COMMAND>\n\n" ++
  "Commands:\n" ++
  "  build, b  Flatten imports, rewrite url() references and copy assets\n" ++
  "  mark, m   Print a stylesheet with its @import statements marked\n" ++
  "  help      Print this message\n\n" ++
  "Options:\n" ++
  "      --color <COLOR>    Control colored output: auto, always, never\n" ++
  "  -C, --config <CONFIG>  Config file path [default: cssurl.toml]\n" ++
  "  -v, --verbose          Enable verbose output for debugging\n" ++
  "  -h, --help             Print help\n" ++
  "  -V, --version          Print version\n\n" ++
  "Options of build:\n" ++
  "  -d, --out-dir <DIR>      Where stylesheets are written to [default: dist]\n" ++
  "      --img-output <DIR>   Output directory for copied images\n" ++
  "      --font-output <DIR>  Output directory for copied fonts\n" ++
  "      --css-output <DIR>   Directory relocated paths are made relative to\n" ++
  "  -l, --limit <LIMIT>      Inline assets up to this many bytes\n" ++
  "      --hash [true|false]  Append a content hash to copied filenames\n" ++
  "      --slash [true|false] Start relocated paths with `./`\n"

def versionText : String := "cssurl 0.1.0\n"

namespace UsageError

/-- What is written when a command line is not carried out. -/
def message : UsageError → String
  | help => helpText
  | version => versionText
  | nothingGiven => helpText
  | unknownArgument => "error: unexpected argument found\n"
  | unknownCommand => "error: unrecognized subcommand\n"
  | missingCommand => "error: a subcommand is required\n"
  | invalidValue => "error: a value is missing or invalid\n"
  | invalidNumber => "error: a number is invalid\n"
  | repeated => "error: an argument cannot be used multiple times\n"
  | unwantedValue => "error: an argument takes no value\n"
  | missingInput => "error: a required argument was not provided\n"

end UsageError

end StylesheetAssets.CommandLine
