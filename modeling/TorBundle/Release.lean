import TorBundle.Strategy

/-!
# Releases

A release of the bundle is known by its version, which is any text: it is put into addresses
as it is. There is no bundle of its own for Apple silicon, which runs the one for Intel.
-/

namespace TorBundle

/-- A release of the bundle in the public archive. -/
structure Release where
  version : String
  deriving DecidableEq, Repr

namespace Release

def defaultVersion : String := "13.5.6"

/-- The release that is provisioned when no version is asked for. -/
def standard : Release := ⟨defaultVersion⟩

/-- The platform whose bundle a platform runs. -/
def runs : Platform → Platform
  | .macosAarch64 => .macosX8664
  | p => p

def base (r : Release) : String :=
  "https://archive.torproject.org/tor-package-archive/torbrowser/" ++ r.version ++ "/"

def file (r : Release) (p : Platform) : String :=
  "tor-expert-bundle-" ++ r.version ++ "-" ++ (runs p).ident ++ ".tar.gz"

instance : Strategy Release where
  base := base
  file := file

def debugText (r : Release) : String :=
  Text.Quoted.record "TorBinaryUrlStrategy" "version" r.version

end Release

end TorBundle
