import SpokenSales.Log.Event

/-!
# Help

The texts for those who ask what the program is and how to call it.
-/

namespace SpokenSales
namespace Cli

def programName : String := "salesvoice"

def versionText : String :=
  s!"{programName} {Log.version}\n"

def usageText : String :=
  s!"Usage: {programName} [OPTIONS] [COMMAND]...\n"

def helpText : String :=
  "Run spoken-style sales commands such as \"top three in march 2024\"\n\n"
    ++ usageText
    ++ "\nArguments:\n"
    ++ "  [COMMAND]...  Command words; when omitted, every stdin line is one command\n"
    ++ "\nOptions:\n"
    ++ "      --catalog <CATALOG>      JSON catalog file (defaults to the built-in sample catalog)"
    ++ " [env: SALESVOICE_CATALOG_PATH=]\n"
    ++ "      --reset                  Print the unfiltered listing, most recent first, and exit\n"
    ++ "      --json                   Print outcomes as JSON\n"
    ++ "      --log-level <LOG_LEVEL>  Log level (trace, debug, info, warn, error)"
    ++ s!" [default: {Log.Level.default.label}]\n"
    ++ "      --log-dir <LOG_DIR>      Absolute directory for rolling log files; logging is off"
    ++ " without it\n"
    ++ "  -h, --help                   Print help\n"
    ++ "  -V, --version                Print version\n"

end Cli
end SpokenSales
