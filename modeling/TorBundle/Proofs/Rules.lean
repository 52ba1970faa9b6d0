import TorBundle.Shell
import TorBundle.Proofs.Exchanges

/-!
# The rules of preparation

Whatever is said about builds is said from these rules: what it costs to prepare an artifact, what
is recorded of it, and which artifacts a shell step prepares on the way. They are stated of any way
to prepare artifacts and to make steps, and hold of the one that bundles are built by. What a
layer, a step or a reply consists of does not enter into them.
-/

namespace TorBundle

/-- How artifacts are prepared and steps are made under an agent. -/
structure PreparationRules (agent : Agent) (provide : Artifact → Preparing String)
    (makeStep : TargetSystem → String → Preparing Artifact.Step) : Prop where
  known : ∀ {a : Artifact} {r : Run} {d : String}, r.digests a = some d →
    (provide a).run r = (.ok d, r)
  one_request : ∀ {a : Artifact} {r : Run}, r.digests a = none →
    ((provide a).run r).1 = (r.exchange agent a).reply.digest ∧
      ((provide a).run r).2.exchanges = r.exchanges ++ [r.exchange agent a]
  success : ∀ {a : Artifact} {r : Run} {d : String}, r.digests a = none →
    ((provide a).run r).1 = .ok d → ((provide a).run r).2.context = r.context.record a d
  failure : ∀ {a : Artifact} {r : Run} {e : PreparationFailure},
    ((provide a).run r).1 = .error e → ((provide a).run r).2.context = r.context
  /-- The first failure ends the step, since work that fails ends where it does. -/
  layers_in_order : ∀ {target : TargetSystem}, target.isLinux = true → ∀ commands : String,
    makeStep target commands = do
      let recipe ← provide (Layer.recipe.artifact target [])
      let distribution ← provide (Layer.distribution.artifact target [recipe])
      let tools ← provide (Layer.tools.artifact target [distribution])
      return Shell.contained tools commands
  nothing_elsewhere : ∀ {target : TargetSystem}, target.isLinux = false →
    ∀ (commands : String) (r : Run),
      (makeStep target commands).run r = (.ok (Shell.direct commands), r)

theorem preparationRules (agent : Agent) :
    PreparationRules agent (prepare agent) (prepareShell agent) where
  known := prepare_of_known
  one_request := by
    intro a r hn
    cases hx : (r.exchange agent a).reply.digest with
    | ok d =>
      rw [prepare_of_ok hn hx]
      exact ⟨rfl, rfl⟩
    | error e =>
      rw [prepare_of_error hn hx]
      exact ⟨rfl, rfl⟩
  success := by
    intro a r d hn hd
    cases hx : (r.exchange agent a).reply.digest with
    | ok c =>
      rw [prepare_of_ok hn hx] at hd ⊢
      cases hd
      rfl
    | error e =>
      rw [prepare_of_error hn hx] at hd
      cases hd
  failure := by
    intro a r e he
    cases hk : r.digests a with
    | some d =>
      rw [prepare_of_known hk] at he
      cases he
    | none =>
      cases hx : (r.exchange agent a).reply.digest with
      | ok d =>
        rw [prepare_of_ok hk hx] at he
        cases he
      | error f =>
        rw [prepare_of_error hk hx]
        rfl
  layers_in_order := by
    intro target hlinux commands
    rw [prepareShell, if_pos hlinux, prepareImage]
    simp only [bind_assoc]
  nothing_elsewhere := by
    intro target hdirect commands r
    rw [prepareShell, hdirect]
    rfl

namespace PreparationRules

variable {agent : Agent} {provide : Artifact → Preparing String}
  {makeStep : TargetSystem → String → Preparing Artifact.Step} {a : Artifact} {r : Run}

/-- An artifact that is not known costs one exchange, whatever comes of it. -/
theorem run_of_unknown (rules : PreparationRules agent provide makeStep)
    (hn : r.digests a = none) :
    (provide a).run r =
      ((r.exchange agent a).reply.digest, r.extend [r.exchange agent a]) := by
  obtain ⟨hresult, hsent⟩ := rules.one_request hn
  have hcontext : ((provide a).run r).2.context = (r.extend [r.exchange agent a]).context := by
    cases hx : (r.exchange agent a).reply.digest with
    | ok d =>
      rw [rules.success hn (hresult.trans hx), ← Run.after_record hx]
      rfl
    | error e =>
      rw [rules.failure (hresult.trans hx), ← Run.after_eq hx]
      rfl
  exact Prod.ext hresult (Run.ext hcontext hsent)

end PreparationRules

end TorBundle
