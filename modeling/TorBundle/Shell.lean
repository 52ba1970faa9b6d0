import TorBundle.Preparation

/-!
# Shell steps

A step that runs a shell script: in a container over the base image on Linux, directly elsewhere.
The image is put together from three layers, each an artifact of its own that holds the digest of
the layer below it, so it is identical to an earlier one only if that digest is the same. What else
the layers hold is left out. Preparing a step prepares the image where one is needed, and nothing
else.
-/

namespace TorBundle

/-- A layer of the base image, from the bottom: how the image is made, the distribution in it,
and the tools added to that. -/
inductive Layer where
  | recipe
  | distribution
  | tools
  deriving DecidableEq, Repr

namespace Layer

def name : Layer → String
  | .recipe => "linux-debian-dockerfile"
  | .distribution => "linux-debian"
  | .tools => "linux-vorpal"

def aliases : Layer → List String
  | .recipe => []
  | .distribution => ["linux-debian:latest"]
  | .tools => ["linux-vorpal:latest"]

def artifact (l : Layer) (target : TargetSystem) (below : List String) : Artifact :=
  { name := l.name
    target
    systems := [.aarch64Linux, .x8664Linux]
    aliases := l.aliases
    steps := [{ entrypoint := "", script := "", artifacts := below }] }

end Layer

def prepareImage (agent : Agent) (target : TargetSystem) : Preparing String := do
  let recipe ← prepare agent (Layer.recipe.artifact target [])
  let distribution ← prepare agent (Layer.distribution.artifact target [recipe])
  prepare agent (Layer.tools.artifact target [distribution])

namespace Shell

def script (commands : String) : String :=
  "#!/bin/bash\nset -euo pipefail\n\n" ++ commands ++ "\n"

def direct (commands : String) : Artifact.Step :=
  { entrypoint := "bash"
    script := script commands
    environments :=
      ["HOME=$VORPAL_WORKSPACE", "PATH=:/usr/local/bin:/usr/bin:/usr/sbin:/bin:/sbin"] }

/-- Where a step finds an artifact that it is run with. -/
def mount (digest : String) : String := "$VORPAL_ARTIFACT_" ++ digest

def withoutDollars (s : String) : String :=
  String.ofList (s.toList.filter (· != '$'))

/-- The words that the container of an image is started with. -/
def containerWords (image : String) : List String :=
  let root := mount image
  ["--unshare-all", "--share-net", "--clearenv",
   "--chdir", "$VORPAL_WORKSPACE",
   "--gid", "1000",
   "--uid", "1000",
   "--dev", "/dev",
   "--proc", "/proc",
   "--tmpfs", "/tmp",
   "--bind", "$VORPAL_OUTPUT", "$VORPAL_OUTPUT",
   "--bind", "$VORPAL_WORKSPACE", "$VORPAL_WORKSPACE",
   "--setenv", "VORPAL_OUTPUT", "$VORPAL_OUTPUT",
   "--setenv", "VORPAL_WORKSPACE", "$VORPAL_WORKSPACE",
   "--setenv", "HOME", "$VORPAL_WORKSPACE",
   "--ro-bind", root ++ "/bin", "/bin",
   "--ro-bind", root ++ "/etc", "/etc",
   "--ro-bind", root ++ "/lib", "/lib",
   "--ro-bind-try", root ++ "/lib64", "/lib64",
   "--ro-bind", root ++ "/sbin", "/sbin",
   "--ro-bind", root ++ "/usr", "/usr",
   "--ro-bind", root, root,
   "--setenv", withoutDollars root, root,
   "--setenv", "PATH", root ++ "/bin:/usr/local/bin:/usr/bin:/usr/sbin:/bin:/sbin"]

def contained (image commands : String) : Artifact.Step :=
  { entrypoint := "bwrap"
    script := script commands
    arguments := containerWords image
    artifacts := [image]
    environments := ["PATH=/usr/local/bin:/usr/bin:/usr/sbin:/bin:/sbin"] }

end Shell

/-- The step that runs the given commands on a system. -/
def prepareShell (agent : Agent) (target : TargetSystem) (commands : String) :
    Preparing Artifact.Step :=
  if target.isLinux then do
    let image ← prepareImage agent target
    return Shell.contained image commands
  else
    return Shell.direct commands

end TorBundle
