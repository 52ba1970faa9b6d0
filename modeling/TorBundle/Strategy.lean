import TorBundle.Event

/-!
# Download addresses

A strategy names a download by a base address and by a file for each platform. Resolving asks
it for both, in this order, joins the answers and reports the outcome. It does not look into
the texts, which may hold anything. Minutes are kept of the questions and of the reports, and a
resolution is what the minutes of one inquiry hold.
-/

namespace TorBundle

/-- A way to name the download of each platform. -/
class Strategy (σ : Type) where
  base : σ → String
  file : σ → Platform → String

/-- A strategy given by its answers. -/
structure Strategy.Table where
  base : String
  file : Platform → String

instance : Strategy Strategy.Table where
  base := Strategy.Table.base
  file := Strategy.Table.file

/-- A strategy with its type forgotten. -/
def Strategy.Table.of {σ : Type} [Strategy σ] (s : σ) : Strategy.Table :=
  ⟨Strategy.base s, Strategy.file s⟩

inductive Strategy.Call where
  | base
  | file (platform : Platform)
  deriving DecidableEq, Repr

def Strategy.Call.text : Strategy.Call → String
  | .base => "url_prefix"
  | .file platform => "url_for " ++ platform.ident

/-- What strategies have been asked, and what has been reported, in order. -/
structure Minutes where
  calls : List Strategy.Call := []
  events : List Event := []

/-- An address, with the questions that led to it and the event that reports it. -/
structure Resolution where
  url : String
  calls : List Strategy.Call
  event : Event
  deriving DecidableEq, Repr

namespace Strategy

variable {σ : Type} [Strategy σ]

def url (s : σ) (p : Platform) : String :=
  base s ++ file s p

def answer (s : σ) : Call → String
  | .base => base s
  | .file p => file s p

def ask (s : σ) (call : Call) : StateM Minutes String := do
  modify fun m => { m with calls := m.calls ++ [call] }
  return answer s call

def report (e : Event) : StateM Minutes Unit :=
  modify fun m => { m with events := m.events ++ [e] }

/-- The address for a platform, question by question. -/
def inquire (s : σ) (p : Platform) : StateM Minutes String := do
  let base ← ask s .base
  let file ← ask s (.file p)
  let url := base ++ file
  report (.resolved p url)
  return url

theorem inquire_reports (s : σ) (p : Platform) : ((inquire s p).run {}).2.events ≠ [] :=
  List.cons_ne_nil _ _

def resolve (s : σ) (p : Platform) : Resolution :=
  let found := (inquire s p).run {}
  { url := found.1
    calls := found.2.calls
    event := found.2.events.head (inquire_reports s p) }

theorem resolve_eq (s : σ) (p : Platform) :
    resolve s p = ⟨url s p, [.base, .file p], .resolved p (url s p)⟩ := rfl

/-- Resolves for each identifier in turn, once all of them are known to name platforms. -/
def resolveAll (s : σ) (idents : List String) :
    Except Platform.Unsupported (List Resolution) :=
  (idents.mapM Platform.ofIdent).map fun platforms => platforms.map (resolve s)

end Strategy

end TorBundle
