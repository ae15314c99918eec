/-!
# Arguments of the command line

    run     [--config PATH]
    plan    [--config PATH]
    inspect [--config PATH]

A path may follow its option as the next argument or behind an equals sign, and it is given once at
most.  Help can be asked for everywhere, the version only before a command.  An option takes effect
when the next one comes or when the arguments end; until then a fault in what follows is reported
first.
-/

namespace ClusterConvergence

/-- A command of the command line. -/
inductive CliCommand where
  | run
  | plan
  | inspect
  deriving DecidableEq, Repr

namespace CliCommand

/-- The word that asks for a command. -/
def name : CliCommand → String
  | .run => "run"
  | .plan => "plan"
  | .inspect => "inspect"

/-- The command of a name. -/
def ofName? : String → Option CliCommand
  | "run" => some .run
  | "plan" => some .plan
  | "inspect" => some .inspect
  | _ => none

end CliCommand

/-- Why arguments make no command. -/
inductive ArgsError where
  /-- There is no command. -/
  | missingCommand
  | invalidCommand
  | unknownArgument
  /-- An option has no value, or an empty one. -/
  | invalidValue
  /-- An option is given twice. -/
  | conflict
  /-- An option that takes no value has one. -/
  | tooManyValues
  /-- Help is asked for. -/
  | help
  /-- The version is asked for. -/
  | version
  deriving DecidableEq, Repr

/-- What the arguments ask for. -/
structure Invocation where
  command : CliCommand
  /-- The path of the configuration file. -/
  config : String
  deriving DecidableEq, Repr

namespace Args

/-- The configuration file when none is named. -/
def defaultConfig : String := "./shardkeeper.json"

/-- What an argument looks like. -/
inductive Word where
  /-- Two dashes. -/
  | separator
  /-- A long option, with the value behind its equals sign if there is one. -/
  | long (name : String) (value : Option String)
  /-- Short options, the first of which counts. -/
  | short (first : Char)
  | plain
  deriving DecidableEq, Repr

/-- The long option of an argument without its dashes. -/
def Word.ofLong (cs : List Char) : Word :=
  let name := String.ofList (cs.takeWhile (· != '='))
  match cs.dropWhile (· != '=') with
  | [] => .long name none
  | _ :: value => .long name (some (String.ofList value))

/-- What an argument looks like. -/
def Word.ofArg (arg : String) : Word :=
  match arg.toList with
  | ['-', '-'] => .separator
  | '-' :: '-' :: rest => .ofLong rest
  | '-' :: c :: _ => .short c
  | _ => .plain

/-! ## Behind a command -/

/-- The option for the configuration file. -/
inductive ConfigOption where
  /-- It has not come. -/
  | absent
  /-- It came without a value so far. -/
  | named
  /-- It came with a value. -/
  | valued (path : String)
  deriving DecidableEq, Repr

/-- Let a path take effect. -/
def takePath (given : Option String) (path : String) : Except ArgsError (Option String) :=
  if given.isSome then .error .conflict
  else if path = "" then .error .invalidValue
  else .ok (some path)

/-- Let an option take effect. -/
def ConfigOption.resolve (option : ConfigOption) (given : Option String) :
    Except ArgsError (Option String) :=
  match option with
  | .absent => .ok given
  | .named => .error .invalidValue
  | .valued path => takePath given path

/-- Read what follows a command: `given` is the path that has taken effect, `option` what came after
that. -/
def readOptions (given : Option String) (option : ConfigOption) :
    List String → Except ArgsError String
  | [] => do
    let given ← option.resolve given
    return given.getD defaultConfig
  | arg :: rest =>
    match Word.ofArg arg with
    | .separator =>
      if rest.isEmpty then do
        let given ← option.resolve given
        return given.getD defaultConfig
      else .error .unknownArgument
    | .long "config" none => do
      let given ← option.resolve given
      readOptions given .named rest
    | .long "config" (some path) => do
      let given ← option.resolve given
      let given ← takePath given path
      readOptions given .absent rest
    | .long "help" none => do
      let _ ← option.resolve given
      throw .help
    | .long "help" (some _) => .error .tooManyValues
    | .long _ _ => .error .unknownArgument
    | .short 'h' => do
      let _ ← option.resolve given
      throw .help
    | .short _ => .error .unknownArgument
    | .plain =>
      match option with
      | .named => readOptions given (.valued arg) rest
      | _ => .error .unknownArgument

/-! ## Before a command -/

/-- Whether a word names a command, the one for help among them. -/
def isCommandName (word : String) : Bool :=
  word == "help" || (CliCommand.ofName? word).isSome

/-- What follows the command for help: nothing, or the name of a command. -/
def readHelp : List String → ArgsError
  | [] => .help
  | [word] => if isCommandName word then .help else .invalidCommand
  | _ => .invalidCommand

/-- Read a word where a command is expected. -/
def readCommand (word : String) (rest : List String) : Except ArgsError Invocation :=
  match CliCommand.ofName? word with
  | some command => do
    let config ← readOptions none .absent rest
    return { command := command, config := config }
  | none => .error (if word = "help" then readHelp rest else .invalidCommand)

/-- Read arguments, without the name of the program. -/
def read : List String → Except ArgsError Invocation
  | [] => .error .missingCommand
  | arg :: rest =>
    match Word.ofArg arg with
    | .separator =>
      match rest with
      | [] => .error .missingCommand
      | word :: _ => .error (if isCommandName word then .unknownArgument else .invalidCommand)
    | .long "help" none => .error .help
    | .long "help" (some _) => .error .tooManyValues
    | .long "version" none => .error .version
    | .long "version" (some _) => .error .tooManyValues
    | .long _ _ => .error .unknownArgument
    | .short 'h' => .error .help
    | .short 'V' => .error .version
    | .short _ => .error .unknownArgument
    | .plain => readCommand arg rest

end Args

end ClusterConvergence
