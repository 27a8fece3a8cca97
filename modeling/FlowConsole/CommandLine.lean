/-!
# Command line

The options of the program. What is not given on the command line is taken from the environment, and
otherwise has a default.
-/

namespace FlowConsole.CommandLine

/-- How much is logged. -/
inductive LogLevel
  | off
  | error
  | warn
  | info
  | debug
  | trace
  deriving DecidableEq, Repr

/-- The level of a word, in any case. -/
def LogLevel.ofWord? (word : String) : Option LogLevel :=
  List.lookup word.toLower
    [("off", .off), ("error", .error), ("warn", .warn), ("info", .info), ("debug", .debug),
      ("trace", .trace)]

/-- What the program is started with. -/
structure Options where
  configPath : String
  logLevel : LogLevel
  deriving DecidableEq, Repr

/-- Why a command line is refused. -/
inductive Error
  | unexpected (argument : String)
  | missingValue (option : String)
  | repeated (option : String)
  | unknownLevel (word : String)
  deriving DecidableEq, Repr

/-- The wording of an error. -/
def Error.message : Error → String
  | .unexpected argument => "unexpected argument '" ++ argument ++ "' found"
  | .missingValue option => "a value is required for '" ++ option ++ "' but none was supplied"
  | .repeated option => "the argument '" ++ option ++ "' cannot be used multiple times"
  | .unknownLevel word => "invalid value '" ++ word ++ "' for '--loglevel'"

/-- The options with a value, by their names. -/
def names : List String := ["--config", "--loglevel"]

/-- The option and its value that an argument holds by itself. -/
def assignment? (argument : String) : Option (String × String) :=
  names.findSome? fun name =>
    ((name ++ "=").toList.isPrefixOf? argument.toList).map fun value => (name, String.ofList value)

/-- The options of the arguments with their values, in the order they are given. -/
def readArguments : List String → Except Error (List (String × String))
  | [] => .ok []
  | [argument] =>
    match assignment? argument with
    | some value => .ok [value]
    | none =>
      if names.contains argument then .error (.missingValue argument)
      else .error (.unexpected argument)
  | argument :: next :: rest =>
    match assignment? argument with
    | some value => (readArguments (next :: rest)).map (value :: ·)
    | none =>
      if names.contains argument then (readArguments rest).map ((argument, next) :: ·)
      else .error (.unexpected argument)

/-- An option that is given more than once. -/
def repeated? (values : List (String × String)) : Option String :=
  names.find? fun name => 1 < (values.filter fun v => v.1 == name).length

/-- Reads the options. -/
def read (environment : String → Option String) (arguments : List String) :
    Except Error Options := do
  let values ← readArguments arguments
  if let some name := repeated? values then throw (.repeated name)
  let value (option name byDefault : String) : String :=
    (values.lookup option).getD ((environment name).getD byDefault)
  let level := value "--loglevel" "LOGLEVEL" "info"
  match LogLevel.ofWord? level with
  | none => throw (.unknownLevel level)
  | some logLevel =>
    return { configPath := value "--config" "NETOBSERV_CONFIG" "config.yaml", logLevel }

end FlowConsole.CommandLine
