/-!
# Command line arguments

The program takes the path of its settings and one of three commands. Arguments are read from left
to right. An option whose value is the next argument stays open until something needs it closed: a
later option, a request for help or the version, or the end; only then is its value looked at.
-/

namespace ArgoQuery.CommandLine

/-- What a user asks the program for. -/
inductive Command where
  | query (text : String)
  | explain (text : String)
  | health
deriving DecidableEq, Repr

/-- What is read from a command line. -/
structure Arguments where
  /-- The path of the settings file. -/
  config : String
  command : Command
deriving DecidableEq, Repr

/-- Why no command is carried out: help or the version was asked for, or the arguments are wrong. -/
inductive Refusal where
  | help
  | version
  /-- There are no arguments that say anything. -/
  | nothingGiven
  | missingCommand
  | missingArgument
  | invalidValue
  | invalidCommand
  | unknownArgument
  | tooManyValues
  | repeatedOption
deriving DecidableEq, Repr

/-- The program succeeds if help or the version was asked for. -/
def Refusal.exitCode : Refusal → Nat
  | help | version => 0
  | _ => 2

/-- The settings path so far. -/
structure Options where
  config : Option String := none
  /-- The option that is open, with its value if that has been read. -/
  opened : Option (Option String) := none
deriving DecidableEq, Repr

namespace Options

/-- Whether the next argument is the value of the open option. -/
def awaitsValue (options : Options) : Bool := options.opened == some none

/-- Closes the open option. It needs a value, it may be given once, and its value is not empty. -/
def close (options : Options) : Except Refusal Options :=
  match options.opened with
  | none => .ok options
  | some none => .error .invalidValue
  | some (some value) =>
    if options.config.isSome then .error .repeatedOption
    else if value.isEmpty then .error .invalidValue
    else .ok { config := some value }

/-- Opens the option. -/
def openConfig (options : Options) : Except Refusal Options := do
  let options ← options.close
  return { options with opened := some none }

/-- Takes the option with a value that is written in the same argument. -/
def setConfig (options : Options) (value : String) : Except Refusal Options := do
  let options ← options.close
  Options.close { options with opened := some (some value) }

/-- Ends with what was asked for, unless the open option is wrong. -/
def ask (options : Options) (refusal : Refusal) : Except Refusal Options := do
  discard options.close
  throw refusal

/-- Takes an option that is named by a word. -/
def takeLong (options : Options) (name : String) (value : Option String) :
    Except Refusal Options :=
  match name, value with
  | "config", some value => options.setConfig value
  | "config", none => options.openConfig
  | "help", none => options.ask .help
  | "version", none => options.ask .version
  | "help", some _ | "version", some _ => .error .tooManyValues
  | _, _ => .error .unknownArgument

/-- Takes an option that is named by a letter, with what follows the letter. -/
def takeShort (options : Options) (letter : Char) (attached : List Char) :
    Except Refusal Options :=
  match letter, attached with
  | 'c', [] => options.openConfig
  | 'c', '=' :: value => options.setConfig (String.ofList value)
  | 'c', value => options.setConfig (String.ofList value)
  | 'h', _ => options.ask .help
  | 'V', _ => options.ask .version
  | _, _ => .error .unknownArgument

end Options

/-- The forms of an argument. -/
inductive Word where
  /-- What follows is no option. -/
  | separator
  | long (name : String) (value : Option String)
  | short (letter : Char) (attached : List Char)
  | plain
deriving DecidableEq, Repr

/-- Reads one argument by the dashes that it begins with. -/
def Word.ofArgument (argument : String) : Word :=
  match argument.toList with
  | ['-', '-'] => separator
  | '-' :: '-' :: rest =>
    let name := String.ofList (rest.takeWhile (· != '='))
    match rest.dropWhile (· != '=') with
    | _ :: value => long name (some (String.ofList value))
    | [] => long name none
  | '-' :: letter :: attached => short letter attached
  | _ => plain

/-- What the arguments after a command come to: at most `room` texts and no options but the one
that asks for help. `texts` are those so far, last first. -/
def textsOf (room : Nat) (separated : Bool) (texts : List String) :
    List String → Except Refusal (List String)
  | [] => .ok texts.reverse
  | argument :: rest =>
    let takeText :=
      if texts.length < room then textsOf room separated (argument :: texts) rest
      else .error .unknownArgument
    if separated then takeText
    else match Word.ofArgument argument with
      | .separator => textsOf room true texts rest
      | .long "help" none | .short 'h' _ => .error .help
      | .long "help" (some _) => .error .tooManyValues
      | .long .. | .short .. => .error .unknownArgument
      | .plain => takeText

/-- The one text of a command. -/
def textOf (arguments : List String) : Except Refusal String := do
  match ← textsOf 1 false [] arguments with
  | text :: _ => return text
  | [] => throw .missingArgument

/-- The names of all commands. -/
def commandNames : List String := ["query", "explain", "health", "help"]

/-- The answer to a request for help on commands: only names of commands can be asked about, and no
command has commands of its own. -/
def helpOn : List String → Refusal
  | [] => .help
  | [name] => if name ∈ commandNames then .help else .invalidCommand
  | _ => .invalidCommand

/-- The command of a name, with the arguments after it. -/
def commandOf (name : String) (arguments : List String) : Except Refusal Command :=
  match name with
  | "query" => (textOf arguments).map .query
  | "explain" => (textOf arguments).map .explain
  | "health" => (textsOf 0 false [] arguments).map fun _ => .health
  | _ => .error (helpOn arguments)

/-- The arguments, all having been read. -/
def conclude (options : Options) (command : Option Command) : Except Refusal Arguments := do
  let options ← options.close
  match command, options.config with
  | some command, some config => return { config, command }
  | some _, none => throw .missingArgument
  | none, some _ => throw .missingCommand
  | none, none => throw .nothingGiven

/-- Reads the arguments from where the options are. What follows a separator is never understood,
as the program itself takes no texts. -/
def readFrom (options : Options) (separated : Bool) : List String → Except Refusal Arguments
  | [] => conclude options none
  | argument :: rest =>
    if separated then
      .error (if argument ∈ commandNames then .unknownArgument else .invalidCommand)
    else if !options.awaitsValue && commandNames.contains argument then do
      conclude options (some (← commandOf argument rest))
    else match Word.ofArgument argument with
      | .separator => readFrom options true rest
      | .long name value => do readFrom (← options.takeLong name value) false rest
      | .short letter attached => do readFrom (← options.takeShort letter attached) false rest
      | .plain =>
        if options.awaitsValue then
          readFrom { options with opened := some (some argument) } false rest
        else .error .invalidCommand

/-- Reads the arguments of the program. -/
def read (arguments : List String) : Except Refusal Arguments := readFrom {} false arguments

end ArgoQuery.CommandLine
