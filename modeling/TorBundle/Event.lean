import TorBundle.Platform

/-!
# Log events

What the library reports while it works: that an address was resolved, and that a bundle is
being provisioned. Each kind of event has its own level and target.
-/

namespace TorBundle

/-- From the most to the least urgent. -/
inductive Level where
  | error
  | warn
  | info
  | debug
  | trace
  deriving DecidableEq, Repr

namespace Level

/-- Larger is less urgent. -/
def verbosity : Level → Nat
  | .error => 1
  | .warn => 2
  | .info => 3
  | .debug => 4
  | .trace => 5

def name : Level → String
  | .error => "ERROR"
  | .warn => "WARN"
  | .info => "INFO"
  | .debug => "DEBUG"
  | .trace => "TRACE"

end Level

inductive Event where
  | resolved (platform : Platform) (url : String)
  | provisioning (platform : Platform) (version url : String)
  deriving DecidableEq, Repr

namespace Event

def level : Event → Level
  | .resolved .. => .debug
  | .provisioning .. => .info

/-- The component that reports. -/
def target : Event → String
  | .resolved .. => "tor_binary_artifacts::strategy"
  | .provisioning .. => "tor_binary_artifacts::artifact::tor_expert_bundle"

def message : Event → String
  | .resolved .. => "resolved artifact url"
  | .provisioning _ _ url => "provisioning tor-expert-bundle from " ++ url

def fields : Event → List (String × String)
  | .resolved platform url => [("platform", platform.ident), ("url", url)]
  | .provisioning platform version _ => [("platform", platform.ident), ("version", version)]

/-- The names by which a log filter can ask for a field; the message is one of them. -/
def fieldNames (e : Event) : List String :=
  "message" :: e.fields.map (·.1)

/-- One line of a log, without its time. -/
def line (e : Event) : String :=
  e.level.name ++ " " ++ e.target ++ ": " ++ e.message ++
    String.join (e.fields.map fun (name, value) => " " ++ name ++ "=" ++ value)

end Event

end TorBundle
