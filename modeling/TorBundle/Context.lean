import TorBundle.Agent

/-!
# Build contexts

A context knows the artifacts that were prepared in it with success, in the order of their
preparation. Its store is a view of them: per digest, the artifact that was prepared last.
An artifact that another one has replaced in the store is still known as prepared.
-/

namespace TorBundle

/-- An artifact that was prepared with success. -/
structure Prepared where
  artifact : Artifact
  digest : String
  deriving DecidableEq, Repr

structure Context where
  system : TargetSystem
  settings : Settings
  prepared : List Prepared := []
  deriving DecidableEq, Repr

namespace Context

/-- The digest of an artifact that has been prepared here. -/
def digest? (c : Context) (a : Artifact) : Option String :=
  (c.prepared.find? fun p => p.artifact == a).map Prepared.digest

def record (c : Context) (a : Artifact) (digest : String) : Context :=
  { c with prepared := c.prepared ++ [⟨a, digest⟩] }

/-- Puts an entry at its place in a list in ascending order of digests. -/
def place (p : Prepared) : List Prepared → List Prepared
  | [] => [p]
  | q :: rest =>
    if p.digest < q.digest then p :: q :: rest
    else if p.digest = q.digest then p :: rest
    else q :: place p rest

/-- One entry per digest, in ascending order. -/
def store (c : Context) : List Prepared :=
  c.prepared.foldl (fun held p => place p held) []

end Context

end TorBundle
