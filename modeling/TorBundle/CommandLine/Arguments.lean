/-!
# Arguments

What can be written on the command line: a request for help or for the version, or the
command `start` with its options, each with its value behind it or behind an equals sign. The
addresses of the agent and of the registry have a default; all other options that have a single
value are needed. A short flag counts by its first letter, whatever is written behind that.
-/

namespace TorBundle.CommandLine

/-- The options of the command `start` that have a value. -/
inductive Key where
  | agent
  | artifact
  | context
  | library
  | system
  | variable
  | listen
  | registry
  deriving DecidableEq, Repr

namespace Key

def all : List Key :=
  [.agent, .artifact, .context, .library, .system, .variable, .listen, .registry]

def flag : Key → String
  | .agent => "--agent"
  | .artifact => "--artifact"
  | .context => "--artifact-context"
  | .library => "--artifact-namespace"
  | .system => "--artifact-system"
  | .variable => "--artifact-variable"
  | .listen => "--port"
  | .registry => "--registry"

/-- What an option has as its value where it is not given. -/
def default? : Key → Option String
  | .agent | .registry => some "https://localhost:23151"
  | _ => none

/-- Whether an option may be given any number of times, also never. -/
def repeats : Key → Bool
  | .variable => true
  | _ => false

end Key

/-- The one option without a value. -/
def unlockFlag : String := "--artifact-unlock"

inductive UsageError where
  | noCommand
  | unknownCommand (text : String)
  | unknownArgument (text : String)
  | missingValue (flag : String)
  | repeated (flag : String)
  | emptyValue (flag : String)
  | badNumber (text : String)
  | missing (flag : String)
  deriving DecidableEq, Repr

def UsageError.message : UsageError → String
  | .noCommand => "a command is needed"
  | .unknownCommand text => "unknown command: " ++ text
  | .unknownArgument text => "unexpected argument: " ++ text
  | .missingValue flag => "a value is needed for " ++ flag
  | .repeated flag => flag ++ " cannot be given twice"
  | .emptyValue flag => "the value of " ++ flag ++ " cannot be empty"
  | .badNumber text => "not a number from 0 to 65535: " ++ text
  | .missing flag => flag ++ " is needed"

/-- The options given so far. -/
structure Given where
  values : List (Key × String) := []
  unlock : Bool := false
  deriving DecidableEq, Repr

/-- The options of the command `start`, complete. -/
structure Options where
  agent : String
  artifact : String
  context : String
  library : String
  system : String
  listen : String
  registry : String
  assignments : List String := []
  unlock : Bool := false
  deriving DecidableEq, Repr

inductive Command where
  | help
  | version
  | start (options : Options)
  deriving DecidableEq, Repr

/-- A number from 0 to 65535 in decimal digits, perhaps with a sign. -/
def isListenNumber (s : String) : Bool :=
  let digits := match s.toList with
    | '+' :: rest => rest
    | '-' :: rest => rest
    | rest => rest
  let value := digits.foldl (fun n c => 10 * n + (c.toNat - '0'.toNat)) 0
  !digits.isEmpty && digits.all Char.isDigit &&
    (if s.toList.head? = some '-' then value == 0 else value ≤ 65535)

/-- A text that is read as an option and so cannot stand behind one as its value. -/
def looksLikeOption (s : String) : Bool :=
  s.toList.head? == some '-' && s != "-"

namespace Given

def put (g : Given) (key : Key) (value : String) : Except UsageError Given :=
  if !key.repeats && g.values.any (·.1 == key) then .error (.repeated key.flag)
  else if key == .context && value.isEmpty then .error (.emptyValue key.flag)
  else if key == .listen && !isListenNumber value then .error (.badNumber value)
  else .ok { g with values := g.values ++ [(key, value)] }

def value (g : Given) (key : Key) : Except UsageError String :=
  match (g.values.lookup key).or key.default? with
  | some v => .ok v
  | none => .error (.missing key.flag)

def complete (g : Given) : Except UsageError Options := do
  let agent ← g.value .agent
  let artifact ← g.value .artifact
  let context ← g.value .context
  let library ← g.value .library
  let system ← g.value .system
  let listen ← g.value .listen
  let registry ← g.value .registry
  let assignments := (g.values.filter (·.1 == Key.variable)).map (·.2)
  return { agent, artifact, context, library, system, listen, registry, assignments
           unlock := g.unlock }

end Given

/-- The letter of a short flag. -/
def shortFlag? (arg : String) : Option Char :=
  match arg.toList with
  | '-' :: c :: _ => if c == '-' then none else some c
  | _ => none

/-- A request for information, which is answered wherever it is found. -/
def information? (arg : String) : Option Command :=
  if arg == "--help" || shortFlag? arg == some 'h' then some .help
  else if arg == "--version" || shortFlag? arg == some 'V' then some .version
  else none

/-- What an argument is that stands where an option can begin. -/
inductive Token where
  | information (command : Command)
  | endOfOptions
  | unlock
  | expects (key : Key)
  | assigned (key : Key) (value : String)
  | unknown

/-- The key of an option, with the value behind its equals sign if it has one. -/
def Token.of (arg : String) : Token :=
  let name := String.ofList (arg.toList.takeWhile (· != '='))
  if arg == unlockFlag then .unlock
  else if arg == "--" then .endOfOptions
  else match information? arg with
  | some command => .information command
  | none =>
    match Key.all.find? (fun k => k.flag == name), arg.toList.dropWhile (· != '=') with
    | some key, [] => .expects key
    | some key, _ :: value => .assigned key (String.ofList value)
    | none, _ => .unknown

/-- Reads the options of `start` from the left; the first fault or request for help decides. -/
def readOptions (g : Given) : List String → Except UsageError Command
  | [] => g.complete.map .start
  | arg :: rest =>
    match Token.of arg with
    | .information command => .ok command
    | .endOfOptions =>
      match rest with
      | [] => g.complete.map .start
      | extra :: _ => .error (.unknownArgument extra)
    | .unlock =>
      if g.unlock then .error (.repeated unlockFlag) else readOptions { g with unlock := true } rest
    | .assigned key value =>
      match g.put key value with
      | .ok g => readOptions g rest
      | .error e => .error e
    | .expects key =>
      match rest with
      | [] => .error (.missingValue key.flag)
      | value :: rest =>
        if looksLikeOption value then .error (.missingValue key.flag)
        else match g.put key value with
          | .ok g => readOptions g rest
          | .error e => .error e
    | .unknown => .error (.unknownArgument arg)

/-- What can stand behind the word `help`. -/
def readHelp : List String → Except UsageError Command
  | [] | ["start"] | ["help"] => .ok .help
  | topic :: _ => .error (.unknownCommand topic)

def Command.ofArgs : List String → Except UsageError Command
  | [] => .error .noCommand
  | "help" :: topics => readHelp topics
  | "start" :: rest => readOptions {} rest
  | word :: _ =>
    match information? word with
    | some command => .ok command
    | none => .error (.unknownCommand word)

end TorBundle.CommandLine
