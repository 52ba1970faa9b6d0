import TorBundle.Text.Quoted

/-!
# Platforms

The platforms that bundles are published for. A platform is named by its identifier, or by an
operating system together with an architecture; both names are compared exactly. A name of
neither kind is refused together with the text that was asked for.
-/

namespace TorBundle

/-- An operating system on a processor architecture. -/
inductive Platform where
  | linuxX8664
  | macosX8664
  | macosAarch64
  | windowsX8664
  deriving DecidableEq, Repr

/-- A target outside the published platforms. -/
structure Platform.Unsupported where
  asked : String
  deriving DecidableEq, Repr

inductive Alignment where
  | left
  | right
  | center
  deriving DecidableEq, Repr

/-- How a text is asked to be laid out in a field. -/
structure Layout where
  align : Alignment
  fill : Char
  width : Option Nat
  precision : Option Nat
  deriving DecidableEq, Repr

/-- The machine that a build runs on, under the names that it gives itself. -/
structure Host where
  os : String
  arch : String
  deriving DecidableEq, Repr

namespace Platform

def all : List Platform := [.linuxX8664, .macosX8664, .macosAarch64, .windowsX8664]

def ident : Platform → String
  | .linuxX8664 => "linux-x86_64"
  | .macosX8664 => "macos-x86_64"
  | .macosAarch64 => "macos-aarch64"
  | .windowsX8664 => "windows-x86_64"

/-- The name of the case, for developers. -/
def variant : Platform → String
  | .linuxX8664 => "LinuxX8664"
  | .macosX8664 => "MacosX8664"
  | .macosAarch64 => "MacosAarch64"
  | .windowsX8664 => "WindowsX8664"

/-- An identifier is neither padded nor cut, whatever the layout asks for. -/
def format (_layout : Layout) (p : Platform) : String := p.ident

/-- The platform with the given identifier. -/
def ofIdent (s : String) : Except Unsupported Platform :=
  match all.find? (fun p => p.ident == s) with
  | some p => .ok p
  | none => .error ⟨s⟩

/-- The platform of a host that names its operating system and its architecture. -/
def ofHost (os arch : String) : Except Unsupported Platform :=
  match os, arch with
  | "linux", "x86_64" => .ok .linuxX8664
  | "macos", "x86_64" => .ok .macosX8664
  | "macos", "aarch64" => .ok .macosAarch64
  | "windows", "x86_64" => .ok .windowsX8664
  | os, arch => .error ⟨os ++ "-" ++ arch⟩

/-- The platform of the machine that a build runs on. -/
def current (host : Host) : Except Unsupported Platform :=
  ofHost host.os host.arch

end Platform

namespace Platform.Unsupported

def message (e : Unsupported) : String := "unsupported platform: " ++ e.asked

def debugText (e : Unsupported) : String :=
  Text.Quoted.record "UnsupportedPlatform" "platform" e.asked

end Platform.Unsupported

end TorBundle
