import TorBundle.Artifact

/-!
# Agents

The far side that artifacts are prepared by. An agent answers each request with a refusal or
with a stream of frames, which may break off. A code tells why; code 0 tells of no failure, so a
refusal with it is an empty stream. Nothing is assumed of an agent: it may answer a request by
all that it was asked before. A script is an agent with a reply laid down for each time that an
artifact of some name is asked for.
-/

namespace TorBundle

/-- What each request of a context carries besides its artifact. -/
structure Settings where
  unlock : Bool := false
  directory : String := ""
  library : String := ""
  registry : String := ""
  deriving DecidableEq, Repr

structure Request where
  artifact : Artifact
  settings : Settings
  deriving DecidableEq, Repr

/-- A piece of an answer: the artifact sent back or not, its digest, and a line of output. -/
structure Frame where
  artifact : Bool := false
  digest : Option String := none
  output : Option String := none
  deriving DecidableEq, Repr

structure Break where
  code : Int
  message : String
  deriving DecidableEq, Repr

/-- A stream that breaks off without a failure, or because nothing was found, has come to its
end. -/
def Break.isEnd (b : Break) : Bool := b.code == 0 || b.code == 5

inductive Reply where
  | refused (code : Int)
  | stream (frames : List Frame) (broken : Option Break)
  deriving DecidableEq, Repr

inductive PreparationFailure where
  | refused
  | broken (message : String)
  | noArtifact
  | noDigest
  deriving DecidableEq, Repr

def PreparationFailure.message : PreparationFailure → String
  | .refused => "failed to prepare artifact"
  | .broken message => message
  | .noArtifact => "artifact not returned from agent service"
  | .noDigest => "artifact digest not returned from agent service"

namespace Reply

/-- The digest under which the artifact was prepared. The last frame decides: each frame takes
the place of those before it, also where it has nothing to say. -/
def digest : Reply → Except PreparationFailure String
  | .refused code => if code == 0 then .error .noArtifact else .error .refused
  | .stream frames broken =>
    match broken.filter (fun b => !b.isEnd) with
    | some b => .error (.broken b.message)
    | none =>
      let last := frames.getLast?.getD {}
      if last.artifact then
        match last.digest with
        | some d => .ok d
        | none => .error .noDigest
      else .error .noArtifact

/-- The lines of output, in order, whatever becomes of the stream. -/
def outputs : Reply → List String
  | .refused _ => []
  | .stream frames _ => frames.filterMap Frame.output

end Reply

/-- How an agent answers a request, given the requests that it got before, oldest first. -/
abbrev Agent := List Request → Request → Reply

/-- Nobody is there, which is like a refusal of every request as unavailable. -/
def Agent.absent : Agent := fun _ _ => .refused 14

namespace Agent

abbrev Script := List (String × List Reply)

namespace Script

def made : String := "auto"

/-- The artifact sent back under a digest that is made up. -/
def fallback : Reply := .stream [{ artifact := true, digest := some made }] none

def repliesFor (s : Script) (name : String) : List Reply :=
  (s.lookup name).getD []

/-- Replaces a digest that is to be made up by the name and the number of the request. -/
def fill (name : String) (number : Nat) : Reply → Reply
  | .refused code => .refused code
  | .stream frames broken =>
    let digest := name ++ "-" ++ toString number
    .stream (frames.map fun f =>
      if f.digest == some made then { f with digest := some digest } else f) broken

def agent (s : Script) : Agent := fun past request =>
  let name := request.artifact.name
  let earlier := past.countP fun r => r.artifact.name == name
  fill name (past.length + 1) ((s.repliesFor name)[earlier]?.getD fallback)

end Script

end Agent

end TorBundle
