import TorBundle.Bundle
import TorBundle.CommandLine.Arguments
import TorBundle.Log.Directive

/-!
# The program

The program first reads the filter of its log and then its arguments. The command `start` makes
a context for a system, builds the standard bundle in it and then serves the context. The place
to serve it at is always taken here, so a start always ends in a failure. A filter that can be
read only decides what is shown in the log; a torn one ends the program before it has begun.
-/

namespace TorBundle.CommandLine

/-- Why a start has ended. -/
inductive StartFailure where
  | address (text : String)
  | unknownSystem (text : String)
  | build (cause : BuildFailure)
  | serving
  deriving DecidableEq, Repr

def StartFailure.message : StartFailure → String
  | .address text => "unsupported address: " ++ text
  | .unknownSystem text => "unsupported system: " ++ text
  | .build cause => cause.message
  | .serving => "failed to serve: transport error"

/-- How the program ends. -/
inductive Ending where
  /-- Help or the version was asked for. -/
  | informed (command : Command)
  | misused (cause : UsageError)
  | failed (cause : StartFailure)
  /-- The filter of the log could not be cut into its parts. -/
  | torn
  deriving DecidableEq, Repr

namespace Ending

def exitCode : Ending → Nat
  | .informed _ => 0
  | .failed _ => 1
  | .misused _ => 2
  | .torn => 101

/-- The failure that a start tells of. -/
def failure? : Ending → Option StartFailure
  | .failed cause => some cause
  | _ => none

end Ending

/-- What the program shows, and what its agent got. -/
structure Outcome where
  ending : Ending
  log : List String := []
  stdout : List String := []
  requests : List Request := []

/-- The forms of address that agents and registries have. -/
def isAddress (s : String) : Bool :=
  ["http://", "https://", "unix://"].any fun scheme => scheme.toList.isPrefixOf s.toList

def Options.settings (o : Options) : Settings :=
  { unlock := o.unlock, directory := o.context, library := o.library, registry := o.registry }

/-- The agent's output in lines, each output behind the name of the artifact that it is about. -/
def outputLines (exchanges : List Exchange) : List String :=
  exchanges.flatMap fun x =>
    x.reply.outputs.flatMap fun output =>
      Text.printedLines (x.request.artifact.name ++ " |> " ++ output)

def servingLine : String := "context service: [::]:PORT"

/-- Builds the standard bundle in a new context of the given system. Without an agent every
request is as good as refused, and none gets through. -/
def Options.build (o : Options) (agent : Option Agent) (filter : Log.Filter)
    (target : TargetSystem) : Outcome :=
  let (build, _) := Bundle.standard.build (agent.getD Agent.absent) (Run.start target o.settings)
  let lines := outputLines build.exchanges
  let (failure, stdout) := match build.result with
    | .ok _ => (StartFailure.serving, lines ++ [servingLine])
    | .error cause => (StartFailure.build cause, lines)
  { ending := .failed failure
    stdout
    log := (build.events.filter fun e => filter.admits e).map Event.line
    requests := if agent.isSome then build.requests else [] }

def Options.start (o : Options) (agent : Option Agent) (filter : Log.Filter) : Outcome :=
  match [o.agent, o.registry].find? (fun a => !isAddress a) with
  | some text => { ending := .failed (.address text) }
  | none =>
    match TargetSystem.ofCanonical? o.system with
    | some target => o.build agent filter target
    | none => { ending := .failed (.unknownSystem o.system) }

/-- Runs the program with its arguments and the setting of its log filter. -/
def run (args : List String) (setting : Option String) (agent : Option Agent) : Outcome :=
  match Log.Filter.ofSetting? setting with
  | none => { ending := .torn }
  | some filter =>
    match Command.ofArgs args with
    | .error cause => { ending := .misused cause }
    | .ok (.start options) => options.start agent filter
    | .ok command => { ending := .informed command }

end TorBundle.CommandLine
