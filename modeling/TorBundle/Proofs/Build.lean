import Mathlib.Data.List.Nodup
import TorBundle.Bundle
import TorBundle.Proofs.Plan

/-!
# What a build does

A build on a system with a platform is a plan carried out: the layers of the base image on
Linux, then the bundle. The layers are told from the bundle, and from each other, by their
names. A system without a platform has no plan, and its build does nothing.
-/

namespace TorBundle

variable {agent : Agent} {target : TargetSystem} {known : Digests} {r : Run} {xs : List Exchange}

/-- The base image, from the bottom layer up. -/
def Layer.plan (target : TargetSystem) : Plan String :=
  .ask (Layer.recipe.artifact target []) fun recipe =>
  .ask (Layer.distribution.artifact target [recipe]) fun distribution =>
  .ask (Layer.tools.artifact target [distribution]) .done

def Shell.plan (target : TargetSystem) (commands : String) : Plan Artifact.Step :=
  if target.isLinux then
    (Layer.plan target).bind fun image => .done (Shell.contained image commands)
  else .done (Shell.direct commands)

def Bundle.plan (b : Bundle) (target : TargetSystem) (p : Platform) : Plan String :=
  (Shell.plan target Bundle.commands).bind fun step =>
    .ask (b.artifact target (Strategy.url b.release p) step) .done

/-- By the rules a step is its plan carried out. -/
theorem PreparationRules.makeStep_eq {provide : Artifact → Preparing String}
    {makeStep : TargetSystem → String → Preparing Artifact.Step}
    (rules : PreparationRules agent provide makeStep) (target : TargetSystem) (commands : String) :
    makeStep target commands = (Shell.plan target commands).carryOut provide := by
  cases ht : target.isLinux with
  | true =>
    rw [rules.layers_in_order ht, Shell.plan, if_pos ht, Plan.carryOut_bind]
    simp [Layer.plan, Plan.carryOut]
  | false =>
    funext r
    rw [Shell.plan, ht]
    exact rules.nothing_elsewhere ht commands r

theorem Bundle.provision_eq (b : Bundle) (agent : Agent) (target : TargetSystem) (p : Platform) :
    b.provision agent target (Strategy.url b.release p) =
      (b.plan target p).carryOut (prepare agent) := by
  rw [Bundle.plan, Plan.carryOut_bind, ← (preparationRules agent).makeStep_eq]
  simp [Bundle.provision, Plan.carryOut]

theorem Build.exists_request_iff {build : Build} {name : String} :
    (∃ q ∈ build.requests, q.artifact.name = name) ↔
      ∃ x ∈ build.exchanges, x.artifact.name = name := by
  simp [Build.requests, Exchange.artifact]

namespace Layer

/-- The layers that a layer rests on. -/
def below : Layer → List Layer
  | .recipe => []
  | .distribution => [.recipe]
  | .tools => [.recipe, .distribution]

/-- The names of the layers, from the bottom. -/
def names : List String := [recipe.name, distribution.name, tools.name]

theorem names_nodup : names.Nodup := by decide

theorem bundle_name_not_mem : Bundle.name ∉ names := by decide

theorem asked_names (target : TargetSystem) (known : Digests) :
    ((Layer.plan target).asked known).map Artifact.name <+: names := by
  simp only [Layer.plan, Plan.asked]
  split
  · split
    · split <;> exact List.prefix_refl _
    · exact ⟨[tools.name], rfl⟩
  · exact ⟨[distribution.name, tools.name], rfl⟩

@[simp] theorem artifact_name (l : Layer) (target : TargetSystem) (below : List String) :
    (l.artifact target below).name = l.name := rfl

theorem name_ne_bundle (l : Layer) : l.name ≠ Bundle.name := by
  cases l <;> decide

/-- A layer is asked for once the digests of those that it rests on are known. -/
theorem asked_iff (target : TargetSystem) (known : Digests) (l : Layer) :
    (∃ a ∈ (Layer.plan target).asked known, a.name = l.name) ↔
      ∀ m ∈ l.below, ∃ a ∈ (Layer.plan target).asked known, a.name = m.name ∧ known a ≠ none := by
  have hrd : recipe.name ≠ distribution.name := by decide
  have hrt : recipe.name ≠ tools.name := by decide
  have hdt : distribution.name ≠ tools.name := by decide
  simp only [Layer.plan, Plan.asked]
  cases hr : known (recipe.artifact target []) with
  | none =>
    cases l <;> simp [below, hr, hrd, hrt]
    exact ⟨.distribution, fun _ => rfl⟩
  | some d =>
    cases hd : known (distribution.artifact target [d]) with
    | none => cases l <;> simp [below, hr, hd, hrd, hrt, hdt]
    | some t => cases ht : known (tools.artifact target [t]) <;> cases l <;> simp [below, hr, hd]

end Layer

namespace Shell

/-- A step asks for layers only, and on Linux only. -/
theorem asked_eq (target : TargetSystem) (commands : String) (known : Digests) :
    (Shell.plan target commands).asked known =
      if target.isLinux then (Layer.plan target).asked known else [] := by
  unfold Shell.plan
  split
  · rw [Plan.asked_bind]
    cases (Layer.plan target).result? known <;> simp [Plan.asked]
  · rfl

theorem asked_names (target : TargetSystem) (commands : String) (known : Digests) :
    ((Shell.plan target commands).asked known).map Artifact.name <+: Layer.names := by
  rw [asked_eq]
  split
  · exact Layer.asked_names target known
  · exact List.nil_prefix

/-- On the same knowledge a layer is known by its name. -/
theorem eq_of_name_eq {commands : String} {a b : Artifact}
    (ha : a ∈ (Shell.plan target commands).asked known)
    (hb : b ∈ (Shell.plan target commands).asked known) (h : a.name = b.name) : a = b := by
  have hn := (asked_names target commands known).sublist.nodup Layer.names_nodup
  exact List.inj_on_of_nodup_map hn ha hb h

theorem name_ne {commands : String} {a : Artifact}
    (ha : a ∈ (Shell.plan target commands).asked known) : a.name ≠ Bundle.name := by
  intro h
  have hm := (asked_names target commands known).subset (List.mem_map_of_mem ha)
  rw [h] at hm
  exact Layer.bundle_name_not_mem hm

theorem course_name_ne {commands : String} {outcome : Except PreparationFailure Artifact.Step}
    (h : Plan.Course agent (Shell.plan target commands) r xs outcome) :
    ∀ x ∈ xs, x.artifact.name ≠ Bundle.name :=
  fun _ hx => name_ne (h.sublist_asked.subset (List.mem_map_of_mem hx))

/-- A step is made without error exactly when its plan succeeds. -/
theorem ok_iff_course {commands : String} {step : Artifact.Step} :
    ((prepareShell agent target commands).run r).1 = .ok step ↔
      ∃ xs, Plan.Course agent (Shell.plan target commands) r xs (.ok step) := by
  have rules := preparationRules agent
  rw [rules.makeStep_eq]
  constructor
  · intro h
    obtain ⟨xs, hc, _⟩ := Plan.course_of_carryOut rules (Shell.plan target commands) r
    rw [h] at hc
    exact ⟨xs, hc⟩
  · rintro ⟨xs, hc⟩
    rw [hc.carryOut rules]

end Shell

namespace Bundle

variable {b : Bundle} {p : Platform}

/-- What is asked for under the name of the bundle is the bundle. -/
theorem mem_asked {a : Artifact} (h : a ∈ (b.plan target p).asked known) :
    a ∈ (Shell.plan target commands).asked known ∨
      ∃ step, (Shell.plan target commands).result? known = some step ∧
        a = b.artifact target (Strategy.url b.release p) step := by
  rw [Bundle.plan, Plan.asked_bind, List.mem_append] at h
  refine h.imp id fun hb => ?_
  cases hr : (Shell.plan target commands).result? known with
  | none => rw [hr] at hb; contradiction
  | some step =>
    rw [hr] at hb
    refine ⟨step, rfl, ?_⟩
    simp only [Plan.asked] at hb
    split at hb <;> simpa using hb

/-- What is asked for under the name of a layer is asked for by the step. -/
theorem mem_shell_asked {a : Artifact} {l : Layer} (h : a ∈ (b.plan target p).asked known)
    (hn : a.name = l.name) : a ∈ (Shell.plan target commands).asked known := by
  rcases mem_asked h with hs | ⟨step, _, hb⟩
  · exact hs
  · rw [hb] at hn
    exact absurd hn.symm l.name_ne_bundle

/-- A layer costs a request if the step asks for it and it was not known. -/
theorem layer_exchange_iff {outcome : Except PreparationFailure String}
    (h : Plan.Course agent (b.plan target p) r xs outcome) (l : Layer) :
    (∃ x ∈ xs, x.artifact.name = l.name) ↔
      ∃ a ∈ (Shell.plan target commands).asked (r.extend xs).digests,
        a.name = l.name ∧ r.digests a = none := by
  constructor
  · rintro ⟨x, hx, hn⟩
    obtain ⟨ha, hk⟩ := h.mem_artifacts_iff.mp (List.mem_map_of_mem hx)
    exact ⟨x.artifact, mem_shell_asked ha hn, hn, hk⟩
  · rintro ⟨a, ha, hn, hk⟩
    have hplan : a ∈ (b.plan target p).asked (r.extend xs).digests := by
      rw [Bundle.plan, Plan.asked_bind]
      exact List.mem_append_left _ ha
    obtain ⟨x, hx, rfl⟩ := List.mem_map.mp (h.mem_artifacts_iff.mpr ⟨hplan, hk⟩)
    exact ⟨x, hx, hn⟩

/-- A build ends with its step, or with an answer about the bundle on top of it: the one that
is known, or else the one that the agent gives. -/
theorem course_cases {outcome : Except PreparationFailure String}
    (h : Plan.Course agent (b.plan target p) r xs outcome) :
    (∃ e, outcome = .error e ∧ Plan.Course agent (Shell.plan target commands) r xs (.error e)) ∨
    ∃ step ys, Plan.Course agent (Shell.plan target commands) r ys (.ok step) ∧
      ((xs = ys ∧ ∃ d, outcome = .ok d ∧
          (r.extend ys).digests (b.artifact target (Strategy.url b.release p) step) = some d) ∨
        ∃ x, x = (r.extend ys).exchange agent
            (b.artifact target (Strategy.url b.release p) step) ∧
          (r.extend ys).digests x.artifact = none ∧ xs = ys ++ [x] ∧
          outcome = x.reply.digest) := by
  rcases h.of_bind with hs | ⟨step, ys, zs, rfl, hs, hb⟩
  · exact .inl hs
  refine .inr ⟨step, ys, hs, ?_⟩
  rcases hb.of_ask with ⟨rfl, d, hd, ho⟩ | ⟨hn, rfl, ho⟩
  · exact .inl ⟨List.append_nil ys, d, ho, hd⟩
  · exact .inr ⟨_, rfl, hn, rfl, ho⟩

@[simp] theorem mapError_eq_ok {outcome : Except PreparationFailure String} {d : String} :
    outcome.mapError BuildFailure.preparation = .ok d ↔ outcome = .ok d := by
  cases outcome <;> simp [Except.mapError]

/-- An exchange about the bundle decides on the outcome. -/
theorem outcome_of_exchange {outcome : Except PreparationFailure String}
    (h : Plan.Course agent (b.plan target p) r xs outcome) {x : Exchange} (hx : x ∈ xs)
    (hn : x.artifact.name = Bundle.name) : outcome = x.reply.digest := by
  rcases course_cases h with ⟨e, _, hs⟩ | ⟨step, ys, hs, ⟨rfl, _⟩ | ⟨y, _, _, rfl, ho⟩⟩
  · exact absurd hn (Shell.course_name_ne hs x hx)
  · exact absurd hn (Shell.course_name_ne hs x hx)
  · rcases List.mem_append.mp hx with hy | hy
    · exact absurd hn (Shell.course_name_ne hs x hy)
    · obtain rfl := List.mem_singleton.mp hy
      exact ho

/-- With a platform a build reports the address twice and then takes the course of its plan. -/
theorem build_of_platform (agent : Agent) (b : Bundle)
    (hp : r.context.system.platform = .ok p) :
    ∃ xs outcome, Plan.Course agent (b.plan r.context.system p) r xs outcome ∧
      b.build agent r =
        ({ result := outcome.mapError .preparation
           events := [(Strategy.resolve b.release p).event,
             .provisioning p b.version (Strategy.resolve b.release p).url]
           exchanges := xs }, r.extend xs) := by
  obtain ⟨xs, outcome, hc⟩ := Plan.exists_course agent (b.plan r.context.system p) r
  refine ⟨xs, outcome, hc, ?_⟩
  have hr : (b.provision agent r.context.system (Strategy.resolve b.release p).url).run r =
      (outcome, r.extend xs) := by
    rw [← hc.carryOut (preparationRules agent), ← Bundle.provision_eq]
    rfl
  simp only [Bundle.build, hp, hr, Run.extend_exchanges, List.drop_left]

/-- Without a platform a build fails before anything is reported or asked for. -/
theorem build_of_no_platform (agent : Agent) (b : Bundle) {e : Platform.Unsupported}
    (he : r.context.system.platform = .error e) :
    b.build agent r = ({ result := .error (.platform e) }, r) := by
  simp [Bundle.build, he]

theorem buildAll_cons (agent : Agent) (b : Bundle) (rest : List Bundle) (r : Run) :
    buildAll agent (b :: rest) r =
      ((b.build agent r).1 :: (buildAll agent rest (b.build agent r).2).1,
        (buildAll agent rest (b.build agent r).2).2) := rfl

end Bundle

end TorBundle
