import ArgoQuery.CommandLine.Arguments
import ArgoQuery.Engine.Encoding
import ArgoQuery.Settings.File

/-!
# The program

What the program prints and the code that it ends with, given its arguments, the settings file and a
transport. It prints one JSON value or nothing.
-/

namespace ArgoQuery.CommandLine

/-- What a run of the program leaves behind. -/
structure Output where
  text : String := ""
  exitCode : Nat := 0
deriving DecidableEq, Repr

/-- What is printed when the version is asked for. -/
def versionText : String := "floatchat-query 0.2.0\n"

/-- What is printed when help is asked for. -/
def helpText : String :=
  "Usage: floatchat-query --config <FILE> <COMMAND>\n\nCommands:\n" ++
    "  query    Run a natural-language query and print the result envelope\n" ++
    "  explain  Show the descriptor a query would execute without fetching anything\n" ++
    "  health   Probe the tabular store\n" ++
    "  help     Print this message or the help of the given subcommand(s)\n\nOptions:\n" ++
    "  -c, --config <FILE>\n  -h, --help           Print help\n" ++
    "  -V, --version        Print version\n"

/-- What is printed when no command is carried out. Complaints do not go to the output. -/
def Refusal.output (refusal : Refusal) : Output where
  text := match refusal with
    | .help => helpText
    | .version => versionText
    | _ => ""
  exitCode := refusal.exitCode

/-- A JSON value as it is printed, in lines. -/
def printed (json : Json) : String := json.indented ++ "\n"

/-- What is left of a command that fails before it has anything to say. -/
def failed : Output := { exitCode := 1 }

/-- What is left of a program that stops in the middle. -/
def stopped : Output := { exitCode := 101 }

/-- What is printed about a store that answers. -/
def healthReport (store : StoreSettings) : Json :=
  .object [("status", .text "ok"), ("store", .text store.apiBase)]

/-- Carries out a command. An answer is given the identifier. -/
def carryOut (settings : Settings) (transport : Http.Transport) (id : String) : Command → Output
  | .query text =>
    match Engine.overNetwork settings transport with
    | .error _ => failed
    | .ok engine =>
      match (engine.run {} text).result with
      | .ok answer => { text := printed (answer.envelope id) }
      | .error (.join .disorder) => stopped
      | .error error => { text := printed (error.envelope text), exitCode := 1 }
  | .explain text =>
    match Engine.overNetwork settings transport with
    | .error _ => failed
    | .ok engine => { text := printed (engine.explain text).toJson }
  | .health =>
    match RestStore.ofSettings settings.store with
    | .error _ => failed
    | .ok store =>
      match store.health transport with
      | .error _ => failed
      | .ok _ => { text := printed (healthReport settings.store) }

/-- Carries out a command under the settings in a file, if there is one. -/
def runWithFile (content : Option String) (transport : Http.Transport) (id : String)
    (command : Command) : Output :=
  match Settings.ofFile content with
  | .error _ => failed
  | .ok settings => carryOut settings transport id command

end ArgoQuery.CommandLine
