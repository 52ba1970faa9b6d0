import TorBundle.TargetSystem

/-!
# Designations of a platform

The five ways in which a caller can name a platform, and what can be wrong with each.
-/

namespace TorBundle

/-- A way to name a platform. -/
inductive Platform.Designation where
  | ident (text : String)
  | host (os arch : String)
  | system (system : TargetSystem)
  | canonical (text : String)
  | tag (number : Int)
  deriving DecidableEq, Repr

inductive Platform.Designation.Failure where
  | unsupported (cause : Platform.Unsupported)
  | unknownSystem (text : String)
  | unknownTag (number : Int)
  deriving DecidableEq, Repr

namespace Platform.Designation

def Failure.message : Failure → String
  | .unsupported cause => cause.message
  | .unknownSystem text => "unsupported system: " ++ text
  | .unknownTag number => "unknown enumeration value " ++ toString number

private def ofSystem (s : TargetSystem) : Except Failure Platform :=
  s.platform.mapError .unsupported

def platform : Designation → Except Failure Platform
  | .ident text => (Platform.ofIdent text).mapError .unsupported
  | .host os arch => (Platform.ofHost os arch).mapError .unsupported
  | .system s => ofSystem s
  | .canonical text =>
    match TargetSystem.ofCanonical? text with
    | some s => ofSystem s
    | none => .error (.unknownSystem text)
  | .tag number =>
    match TargetSystem.ofTag? number with
    | some s => ofSystem s
    | none => .error (.unknownTag number)

end Platform.Designation

end TorBundle
