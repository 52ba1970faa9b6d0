import TorBundle.Platform.Designation
import TorBundle.Release

/-!
# Sessions

A session makes strategies and platforms step by step and asks questions about those made
before. The step with number `i` fills the slot with number `i`: a step that makes nothing, or
is refused, fills it with nothing. A slot is never changed once it is filled. The questions
that strategies were asked are kept beside the slots, each with the slot that it went to.
-/

namespace TorBundle

namespace Session

/-- The number of a slot, or nothing where a step names none. -/
abbrev Ref := Option Nat

inductive Step where
  | release (made : Release)
  | table (made : Strategy.Table)
  | platform (designation : Platform.Designation)
  | clone (of : Ref)
  | base (of : Ref)
  | file (of platform : Ref)
  | url (of platform : Ref)
  | equal (a b : Ref)
  | count
  | calls (of : Ref)
  /-- A step that could not be read, with the field to blame. -/
  | unreadable (field : String)

inductive Slot where
  | empty
  | release (held : Release)
  | table (held : Strategy.Table)
  | platform (held : Platform)

inductive Answer where
  | done
  | text (value : String)
  | platform (value : Platform)
  | flag (value : Bool)
  | counts (value : List (Platform × Nat))
  | calls (value : List Strategy.Call)
  deriving DecidableEq, Repr

inductive Refusal where
  /-- The field is missing, unreadable, or names no slot that is there yet. -/
  | field (name : String)
  | notCloneable
  | notPlatform
  | notStrategy
  | notComparable
  | notTable
  | designation (cause : Platform.Designation.Failure)
  deriving DecidableEq, Repr

def Refusal.message : Refusal → String
  | .field name => name
  | .notCloneable => "not cloneable"
  | .notPlatform => "not a platform"
  | .notStrategy => "not a strategy"
  | .notComparable => "not comparable"
  | .notTable => "not a custom strategy"
  | .designation cause => cause.message

/-- What a step that is not refused brings about. -/
structure Effect where
  answer : Answer
  slot : Slot := .empty
  calls : List (Nat × Strategy.Call) := []
  events : List Event := []

/-- What has come of the steps so far, each list in the order of the steps. -/
structure State where
  slots : List Slot := []
  calls : List (Nat × Strategy.Call) := []
  events : List Event := []
  answers : List (Except Refusal Answer) := []

namespace Slot

def platform? : Slot → Option Platform
  | .platform p => some p
  | _ => none

def strategy? : Slot → Option Strategy.Table
  | .release r => some (.of r)
  | .table t => some t
  | _ => none

/-- Whether two slots hold equal releases or equal platforms; nothing else can be compared. -/
def equal? : Slot → Slot → Option Bool
  | .release r, .release s => some (r == s)
  | .platform p, .platform q => some (p == q)
  | _, _ => none

end Slot

namespace State

/-- The slot that a field of a step names. -/
def slotAt (s : State) (field : String) : Ref → Except Refusal (Nat × Slot)
  | none => .error (.field field)
  | some i =>
    match s.slots[i]? with
    | some slot => .ok (i, slot)
    | none => .error (.field field)

def platformAt (s : State) (ref : Ref) : Except Refusal Platform := do
  let (_, slot) ← s.slotAt "platform" ref
  match slot.platform? with
  | some p => .ok p
  | none => .error .notPlatform

def strategyAt (s : State) (ref : Ref) : Except Refusal (Nat × Strategy.Table) := do
  let (i, slot) ← s.slotAt "of" ref
  match slot.strategy? with
  | some t => .ok (i, t)
  | none => .error .notStrategy

/-- How many slots hold each platform, without the platforms that none holds. -/
def platformCounts (s : State) : List (Platform × Nat) :=
  (Platform.all.map fun p => (p, s.slots.countP fun slot => slot.platform? == some p)).filter
    fun entry => entry.2 != 0

/-- What a step brings about; the state is only looked at. -/
def effect (s : State) : Step → Except Refusal Effect
  | .release made => .ok { answer := .text made.version, slot := .release made }
  | .table made => .ok { answer := .done, slot := .table made }
  | .platform designation =>
    match designation.platform with
    | .ok p => .ok { answer := .platform p, slot := .platform p }
    | .error cause => .error (.designation cause)
  | .clone of => do
    let (_, slot) ← s.slotAt "of" of
    match slot with
    | .release r => .ok { answer := .text r.version, slot }
    | .platform p => .ok { answer := .platform p, slot }
    | _ => .error .notCloneable
  | .base of => do
    let (i, t) ← s.strategyAt of
    .ok { answer := .text t.base, calls := [(i, .base)] }
  | .file of platform => do
    let p ← s.platformAt platform
    let (i, t) ← s.strategyAt of
    .ok { answer := .text (t.file p), calls := [(i, .file p)] }
  | .url of platform => do
    let p ← s.platformAt platform
    let (i, t) ← s.strategyAt of
    let found := Strategy.resolve t p
    .ok { answer := .text found.url, calls := found.calls.map (i, ·), events := [found.event] }
  | .equal a b => do
    let (_, left) ← s.slotAt "a" a
    let (_, right) ← s.slotAt "b" b
    match left.equal? right with
    | some same => .ok { answer := .flag same }
    | none => .error .notComparable
  | .count => .ok { answer := .counts s.platformCounts }
  | .calls of => do
    let (i, slot) ← s.slotAt "of" of
    match slot with
    | .table _ => .ok { answer := .calls ((s.calls.filter (·.1 == i)).map (·.2)) }
    | _ => .error .notTable
  | .unreadable field => .error (.field field)

/-- A refused step leaves an empty slot and its refusal, and nothing else. -/
def record (s : State) : Except Refusal Effect → State
  | .ok e =>
    { slots := s.slots ++ [e.slot]
      calls := s.calls ++ e.calls
      events := s.events ++ e.events
      answers := s.answers ++ [.ok e.answer] }
  | .error refusal =>
    { s with slots := s.slots ++ [.empty], answers := s.answers ++ [.error refusal] }

def step (s : State) (x : Step) : State :=
  s.record (s.effect x)

end State

/-- The whole session, from nothing. -/
def run (steps : List Step) : State :=
  steps.foldl State.step {}

end Session

end TorBundle
