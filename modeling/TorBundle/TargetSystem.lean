import TorBundle.Platform

/-!
# Target systems

The systems that a build context can be made for. A system has a number on the wire, a name
and, unless it is the unknown one, a canonical text. Three of them are platforms that bundles
are published for.
-/

namespace TorBundle

/-- What a build context builds for. -/
inductive TargetSystem where
  | unknown
  | aarch64Darwin
  | aarch64Linux
  | x8664Darwin
  | x8664Linux
  deriving DecidableEq, Repr

namespace TargetSystem

/-- In the order of their numbers, from zero. -/
def all : List TargetSystem := [.unknown, .aarch64Darwin, .aarch64Linux, .x8664Darwin, .x8664Linux]

def name : TargetSystem → String
  | .unknown => "UnknownSystem"
  | .aarch64Darwin => "Aarch64Darwin"
  | .aarch64Linux => "Aarch64Linux"
  | .x8664Darwin => "X8664Darwin"
  | .x8664Linux => "X8664Linux"

def ofName? (s : String) : Option TargetSystem :=
  all.find? (fun t => t.name == s)

def ofTag? : Int → Option TargetSystem
  | .ofNat n => all[n]?
  | .negSucc _ => none

def ofCanonical? : String → Option TargetSystem
  | "aarch64-darwin" => some .aarch64Darwin
  | "aarch64-linux" => some .aarch64Linux
  | "x86_64-darwin" => some .x8664Darwin
  | "x86_64-linux" => some .x8664Linux
  | _ => none

def isLinux : TargetSystem → Bool
  | .aarch64Linux | .x8664Linux => true
  | _ => false

/-- The platform that a system builds for; any other system is refused by its name. -/
def platform : TargetSystem → Except Platform.Unsupported Platform
  | .x8664Linux => .ok .linuxX8664
  | .x8664Darwin => .ok .macosX8664
  | .aarch64Darwin => .ok .macosAarch64
  | other => .error ⟨other.name⟩

end TargetSystem

end TorBundle
