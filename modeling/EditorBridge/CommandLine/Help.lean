import EditorBridge.CommandLine.Flags

/-!
# Help

What the bridge says about itself: its version, a summary of the flags, and the full explanation.
-/
namespace EditorBridge.CommandLine

def listed : List (FlagName × Option Char × Option String × String) :=
  [(.option .config, none, some "PATH",
      "Path to a config file (default: search upward for .dmypy-bridge.toml)"),
    (.option .program, none, some "PATH", "Daemon client program"),
    (.option .statusFile, none, some "PATH", "Daemon status file shared by all invocations"),
    (.option .projectDir, none, some "DIR", "Working directory for daemon invocations"),
    (.option .timeout, none, some "SECS", "Per-invocation timeout in seconds"),
    (.switch .printConfig, none, none,
      "Print the effective configuration with value sources and exit"),
    (.switch .verbose, some 'v', none, "Debug-level logging on stderr")]

/-- The listed flags and the two wishes, whose explanation depends on the kind of help. -/
def listedIn (full : Bool) : List (FlagName × Option Char × Option String × String) :=
  listed ++
    [(.help, some 'h', none,
        if full then "Print help (see a summary with '-h')"
        else "Print help (see more with '--help')"),
      (.version, some 'V', none, "Print version")]

def headOf (name : FlagName) (letter : Option Char) (value : Option String) : String :=
  "  " ++ (letter.elim "    " fun c => String.ofList ['-', c, ',', ' ']) ++ "--" ++ name.long
    ++ (value.elim "" fun v => " <" ++ v ++ ">")

def columnWidth : Nat :=
  (listed.map fun (name, letter, value, _) => (headOf name letter value).length).foldl max 0 + 2

/-- One flag of the summary, or of the full explanation. -/
def entryOf (full : Bool) : FlagName × Option Char × Option String × String → String
  | (name, letter, value, text) =>
      let head := headOf name letter value
      if full then head ++ "\n          " ++ text ++ "\n"
      else head ++ String.ofList (List.replicate (columnWidth - head.length) ' ') ++ text ++ "\n"

def summary : String := "Line-oriented bridge between an editor plugin and the mypy daemon\n"

def explanation : String :=
  "Reads one command per line from stdin and runs it against the mypy daemon.\n\n"
    ++ "INPUT LINES:\n"
    ++ "  run                               full incremental check, then \"# done!\"\n"
    ++ "  pkg.mod.func::suggest             signature suggestion as JSON, then \"# done!\"\n"
    ++ "  pkg/mod.py:4:5:4:12::inspect      type of the expression at the location\n"
    ++ "  pkg/mod.py:4:5:4:12::run::inspect check (output to stderr), then inspect\n\n"
    ++ "Results go to stdout, diagnostics and logs to stderr. The bridge exits when\n"
    ++ "stdin is closed.\n\n"

def usageLine : String := "Usage: dmypy-bridge [OPTIONS]\n"

def helpText (full : Bool) : String :=
  (if full then explanation else summary) ++ "\n" ++ usageLine ++ "\nOptions:\n"
    ++ (if full then "\n" else "").intercalate ((listedIn full).map (entryOf full))

def versionLine : String := "dmypy-bridge 0.3.0\n"

/-- What the bridge says about a command line that it does not take. -/
def misuseText (error : UsageError) : String :=
  "error: " ++ error.message ++ "\n\n" ++ usageLine ++ "\nFor more information, try '--help'.\n"

end EditorBridge.CommandLine
