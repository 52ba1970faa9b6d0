import TorBundle.Release
import TorBundle.Shell

/-!
# The expert bundle

A bundle is provisioned by its version. A build finds the platform of its context, resolves
the address, reports both, makes the shell step and prepares the artifact, in this order. A
system without a platform ends it before anything is reported or asked for.
-/

namespace TorBundle

structure Bundle where
  version : String
  deriving DecidableEq, Repr

/-- Why a build failed. -/
inductive BuildFailure where
  | platform (cause : Platform.Unsupported)
  | preparation (cause : PreparationFailure)
  deriving DecidableEq, Repr

def BuildFailure.message : BuildFailure → String
  | .platform cause => cause.message
  | .preparation cause => cause.message

/-- What a build answers, what it reports, and what it exchanges with the agent. -/
structure Build where
  result : Except BuildFailure String
  events : List Event := []
  exchanges : List Exchange := []

namespace Build

def requests (b : Build) : List Request := b.exchanges.map Exchange.request

end Build

namespace Bundle

def name : String := "tor-expert-bundle"

/-- The systems that the bundle is provisioned for. -/
def systems : List TargetSystem := [.aarch64Darwin, .x8664Darwin, .x8664Linux]

def standard : Bundle := ⟨Release.defaultVersion⟩

instance : Inhabited Bundle := ⟨standard⟩

def withVersion (_ : Bundle) (version : String) : Bundle := ⟨version⟩

/-- The standard bundle with one version after another put in. -/
def withVersions (versions : List String) : Bundle :=
  versions.foldl withVersion standard

def release (b : Bundle) : Release := ⟨b.version⟩

/-- Installs the unpacked download. -/
def commands : String :=
  String.intercalate "\n"
    ["mkdir -pv \"$VORPAL_OUTPUT/bin\" \"$VORPAL_OUTPUT/share/tor\"",
     "pushd ./source/" ++ name,
     "cp -Rv tor/* \"$VORPAL_OUTPUT/bin/.\"",
     "cp -Rv data/* \"$VORPAL_OUTPUT/share/tor/.\"",
     "chmod +x \"$VORPAL_OUTPUT/bin/tor\""]

def artifact (b : Bundle) (target : TargetSystem) (url : String) (step : Artifact.Step) :
    Artifact :=
  { name
    target
    systems
    aliases := [name ++ ":" ++ b.version]
    sources := [{ name, path := url }]
    steps := [step] }

/-- The digest of the bundle whose download has the given address. -/
def provision (b : Bundle) (agent : Agent) (target : TargetSystem) (url : String) :
    Preparing String := do
  let step ← prepareShell agent target commands
  prepare agent (b.artifact target url step)

def build (b : Bundle) (agent : Agent) (run : Run) : Build × Run :=
  let target := run.context.system
  match target.platform with
  | .error cause => ({ result := .error (.platform cause) }, run)
  | .ok platform =>
    let found := Strategy.resolve b.release platform
    let (result, after) := (b.provision agent target found.url).run run
    ({ result := result.mapError .preparation
       events := [found.event, .provisioning platform b.version found.url]
       exchanges := after.exchanges.drop run.exchanges.length }, after)

/-- Builds one bundle after another in the same context. -/
def buildAll (agent : Agent) : List Bundle → Run → List Build × Run
  | [], run => ([], run)
  | b :: rest, run =>
    let (first, between) := b.build agent run
    let (others, after) := buildAll agent rest between
    (first :: others, after)

end Bundle

end TorBundle
