import TorBundle.Context

/-!
# Preparing artifacts

A run is a context together with the exchanges that it has had with its agent. An artifact
that is known to the context is answered from there; any other one costs one exchange, and is
recorded if the exchange ends well. What has been exchanged and recorded stays when a later
preparation fails.
-/

namespace TorBundle

structure Exchange where
  request : Request
  reply : Reply
  deriving DecidableEq, Repr

@[ext]
structure Run where
  context : Context
  exchanges : List Exchange := []
  deriving DecidableEq, Repr

/-- Work on a run that may fail. -/
def Preparing (α : Type) : Type := Run → Except PreparationFailure α × Run

namespace Preparing

variable {α β : Type}

def run (x : Preparing α) (r : Run) : Except PreparationFailure α × Run := x r

instance : Monad Preparing where
  pure a := fun r => (.ok a, r)
  bind x f := fun r =>
    match x r with
    | (.ok a, between) => f a between
    | (.error e, after) => (.error e, after)

@[simp] theorem run_pure (a : α) (r : Run) : (pure a : Preparing α).run r = (.ok a, r) := rfl

theorem run_bind_of_ok {x : Preparing α} {f : α → Preparing β} {a : α} {r between : Run}
    (h : x.run r = (.ok a, between)) : (x >>= f).run r = (f a).run between := by
  simp only [run] at h
  simp [run, bind, h]

/-- A failure ends the work where it arises. -/
theorem run_bind_of_error {x : Preparing α} {f : α → Preparing β} {e : PreparationFailure}
    {r after : Run} (h : x.run r = (.error e, after)) : (x >>= f).run r = (.error e, after) := by
  simp only [run] at h
  simp [run, bind, h]

instance : LawfulMonad Preparing := by
  refine LawfulMonad.mk' Preparing ?_ (fun _ _ => rfl) ?_
  · intro α x
    funext r
    rcases hx : x r with ⟨_ | a, after⟩ <;> simp only [Functor.map, hx]
    rfl
  · intro α β γ x f g
    funext r
    rcases hx : x r with ⟨_ | a, between⟩ <;> simp [bind, hx]

end Preparing

namespace Run

def start (system : TargetSystem) (settings : Settings) : Run :=
  { context := { system, settings } }

def requests (r : Run) : List Request :=
  r.exchanges.map Exchange.request

/-- One exchange with the agent about an artifact. -/
def exchange (r : Run) (agent : Agent) (a : Artifact) : Exchange :=
  let request : Request := ⟨a, r.context.settings⟩
  ⟨request, agent r.requests request⟩

/-- The run after an exchange. -/
def after (r : Run) (x : Exchange) : Run :=
  { r with exchanges := r.exchanges ++ [x] }

/-- The run with an artifact known to its context. -/
def record (r : Run) (a : Artifact) (digest : String) : Run :=
  { r with context := r.context.record a digest }

end Run

/-- The digest of an artifact, from the context or else from the agent. -/
def prepare (agent : Agent) (a : Artifact) : Preparing String := fun run =>
  match run.context.digest? a with
  | some d => (.ok d, run)
  | none =>
    let x := run.exchange agent a
    match x.reply.digest with
    | .ok d => (.ok d, (run.after x).record a d)
    | .error e => (.error e, run.after x)

/-- A known artifact costs nothing and changes nothing. -/
theorem prepare_of_known {agent : Agent} {a : Artifact} {r : Run} {d : String}
    (h : r.context.digest? a = some d) : (prepare agent a).run r = (.ok d, r) := by
  simp [prepare, Preparing.run, h]

theorem prepare_of_ok {agent : Agent} {a : Artifact} {r : Run} {d : String}
    (h : r.context.digest? a = none) (hd : (r.exchange agent a).reply.digest = .ok d) :
    (prepare agent a).run r = (.ok d, (r.after (r.exchange agent a)).record a d) := by
  simp [prepare, Preparing.run, h, hd]

theorem prepare_of_error {agent : Agent} {a : Artifact} {r : Run} {e : PreparationFailure}
    (h : r.context.digest? a = none) (he : (r.exchange agent a).reply.digest = .error e) :
    (prepare agent a).run r = (.error e, r.after (r.exchange agent a)) := by
  simp [prepare, Preparing.run, h, he]

end TorBundle
