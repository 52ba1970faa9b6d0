import TorBundle.TargetSystem

/-!
# Artifacts

What a build context is asked to prepare. Artifacts are identical when all their fields are.
-/

namespace TorBundle

namespace Artifact

/-- A download that a step works on. -/
structure Source where
  name : String
  path : String
  digest : Option String := none
  excludes : List String := []
  includes : List String := []
  deriving DecidableEq, Repr

/-- A script, with what it is run by and what it is run with. -/
structure Step where
  entrypoint : String
  script : String
  arguments : List String := []
  artifacts : List String := []
  environments : List String := []
  secrets : List String := []
  deriving DecidableEq, Repr

end Artifact

structure Artifact where
  name : String
  target : TargetSystem
  systems : List TargetSystem
  aliases : List String := []
  sources : List Artifact.Source := []
  steps : List Artifact.Step := []
  deriving DecidableEq, Repr

end TorBundle
