import Mathlib.Data.List.Forall2
import TorBundle.Proofs.Build

/-!
# One run on two systems

A run is moved to another system by giving that system to its context and to every artifact in
it. As long as all artifacts are made for the system of the run, moving keeps them apart: what is
known stays known, and what is not stays unknown. Under an agent that does not look at targets a
plan takes the moved course from the moved run. The builds for the two Darwin systems are such a
pair, since both run the bundle for Intel and neither prepares an image.
-/

namespace TorBundle

/-- The artifact made for another system. -/
def Artifact.on (t : TargetSystem) (a : Artifact) : Artifact := { a with target := t }

def Request.on (t : TargetSystem) (q : Request) : Request := { q with artifact := q.artifact.on t }

def Exchange.on (t : TargetSystem) (x : Exchange) : Exchange := { x with request := x.request.on t }

def Prepared.on (t : TargetSystem) (m : Prepared) : Prepared :=
  { m with artifact := m.artifact.on t }

def Context.on (t : TargetSystem) (c : Context) : Context :=
  { c with system := t, prepared := c.prepared.map (.on t) }

def Run.on (t : TargetSystem) (r : Run) : Run where
  context := r.context.on t
  exchanges := r.exchanges.map (.on t)

def Plan.on {α : Type} (t : TargetSystem) : Plan α → Plan α
  | .done result => .done result
  | .ask a next => .ask (a.on t) fun d => (next d).on t

/-- All artifacts of a plan are made for the system. -/
def Plan.For {α : Type} (t : TargetSystem) : Plan α → Prop
  | .done _ => True
  | .ask a next => a.target = t ∧ ∀ d, (next d).For t

/-- An agent whose answers are the same whatever the targets of the artifacts are. -/
def Agent.BlindToTarget (agent : Agent) : Prop :=
  ∀ (t : TargetSystem) (past : List Request) (q : Request),
    agent (past.map (.on t)) (q.on t) = agent past q

/-- All artifacts of a run are made for its system. -/
def Run.Uniform (r : Run) : Prop :=
  ∀ m ∈ r.context.prepared, m.artifact.target = r.context.system

/-- A script is read by the names of the artifacts only. -/
theorem Agent.Script.blindToTarget (s : Agent.Script) : s.agent.BlindToTarget := by
  intro t past q
  simp only [Script.agent, List.countP_map, List.length_map]
  rfl

variable {agent : Agent} {t : TargetSystem} {r : Run} {xs : List Exchange} {a : Artifact}

theorem Artifact.on_eq_on_iff {b : Artifact} (h : a.target = b.target) :
    a.on t = b.on t ↔ a = b := by
  cases a
  cases b
  simp_all [Artifact.on]

theorem Exchange.prepared?_on (t : TargetSystem) (x : Exchange) :
    (x.on t).prepared? = x.prepared?.map (.on t) := by
  cases h : x.reply.digest with
  | ok d =>
    have ht : (x.on t).reply.digest = .ok d := h
    rw [prepared?_of_ok h, prepared?_of_ok ht]
    rfl
  | error e =>
    have ht : (x.on t).reply.digest = .error e := h
    rw [prepared?_of_error h, prepared?_of_error ht]
    rfl

theorem Exchange.filterMap_prepared?_on (t : TargetSystem) (xs : List Exchange) :
    (xs.map (.on t)).filterMap prepared? = (xs.filterMap prepared?).map (.on t) := by
  rw [List.filterMap_map, List.map_filterMap]
  congr 1
  funext x
  exact prepared?_on t x

/-- Moving keeps the artifacts of one system apart. -/
theorem Prepared.find?_on {known : List Prepared}
    (h : ∀ m ∈ known, m.artifact.target = a.target) (t : TargetSystem) :
    (known.map (Prepared.on t)).find? (fun m => m.artifact == a.on t) =
      (known.find? fun m => m.artifact == a).map (Prepared.on t) := by
  induction known with
  | nil => rfl
  | cons m rest ih =>
    obtain ⟨hm, hrest⟩ := List.forall_mem_cons.mp h
    have hsame : ((m.on t).artifact == a.on t) = (m.artifact == a) := by
      rw [Bool.eq_iff_iff, beq_iff_eq, beq_iff_eq]
      exact Artifact.on_eq_on_iff hm
    rw [List.map_cons, List.find?_cons, List.find?_cons, hsame, ih hrest]
    cases m.artifact == a <;> rfl

namespace Run

theorem extend_on (t : TargetSystem) (r : Run) (xs : List Exchange) :
    (r.extend xs).on t = (r.on t).extend (xs.map (.on t)) := by
  simp only [extend, on, Context.on, List.map_append, Exchange.filterMap_prepared?_on]

theorem requests_on (t : TargetSystem) (r : Run) : (r.on t).requests = r.requests.map (.on t) := by
  simp only [requests, on, List.map_map]
  rfl

theorem exchange_on (hb : agent.BlindToTarget) (t : TargetSystem) (r : Run) (a : Artifact) :
    (r.on t).exchange agent (a.on t) = (r.exchange agent a).on t := by
  have hreply := hb t r.requests ⟨a, r.context.settings⟩
  rw [← requests_on] at hreply
  exact congrArg (Exchange.mk _) hreply

theorem digests_on (hu : r.Uniform) (ha : a.target = r.context.system) (t : TargetSystem) :
    (r.on t).digests (a.on t) = r.digests a := by
  have hfind := Prepared.find?_on (fun m hm => (hu m hm).trans ha.symm) t
  simp only [digests, Context.digest?, on, Context.on, hfind, Option.map_map]
  rfl

theorem Uniform.extend (hu : r.Uniform) (hxs : ∀ x ∈ xs, x.artifact.target = r.context.system) :
    (r.extend xs).Uniform := by
  intro m hm
  rcases List.mem_append.mp hm with hm | hm
  · exact hu m hm
  · obtain ⟨x, hx, hxm⟩ := List.mem_filterMap.mp hm
    rw [(Exchange.of_prepared? hxm).1]
    exact hxs x hx

end Run

namespace Plan

variable {α : Type} {p : Plan α} {outcome : Except PreparationFailure α}

/-- What a plan asks for is made for the system of the plan. -/
theorem Course.targets (h : Course agent p r xs outcome) (hp : p.For t) :
    ∀ x ∈ xs, x.artifact.target = t := by
  induction h with
  | done => intro x hx; contradiction
  | known hd rest ih => exact ih (hp.2 _)
  | prepared hn hd rest ih => exact List.forall_mem_cons.mpr ⟨hp.1, ih (hp.2 _)⟩
  | failed hn he => exact List.forall_mem_cons.mpr ⟨hp.1, fun x hx => by contradiction⟩

/-- On the moved run the moved plan takes the moved course, to the same outcome. -/
theorem Course.on (hb : agent.BlindToTarget) (h : Course agent p r xs outcome)
    (hp : p.For r.context.system) (hu : r.Uniform) (t : TargetSystem) :
    Course agent (p.on t) (r.on t) (xs.map (.on t)) outcome := by
  induction h with
  | done result r => exact .done result _
  | known hd rest ih =>
    refine .known ?_ (ih (hp.2 _) hu)
    rwa [Run.digests_on hu hp.1]
  | @prepared a next r d xs outcome hn hd rest ih =>
    have hx := Run.exchange_on hb t r a
    have hur : (r.extend [r.exchange agent a]).Uniform :=
      hu.extend fun x hx => by
        rw [List.mem_singleton.mp hx]
        exact hp.1
    have hrest := ih (hp.2 d) hur
    rw [Run.extend_on, List.map_singleton, ← hx] at hrest
    rw [List.map_cons, ← hx]
    refine .prepared ?_ ?_ hrest
    · rwa [Run.digests_on hu hp.1]
    · rwa [hx]
  | @failed a next r e hn he =>
    have hx := Run.exchange_on hb t r a
    rw [List.map_singleton, ← hx]
    refine .failed ?_ ?_
    · rwa [Run.digests_on hu hp.1]
    · rwa [hx]

end Plan

namespace Context

theorem place_on (t : TargetSystem) (m : Prepared) (held : List Prepared) :
    place (m.on t) (held.map (.on t)) = (place m held).map (.on t) := by
  induction held with
  | nil => rfl
  | cons q rest ih =>
    have hm : (m.on t).digest = m.digest := rfl
    have hq : (q.on t).digest = q.digest := rfl
    simp only [List.map_cons, place, hm, hq, ih]
    split
    · rfl
    · split <;> rfl

/-- A store is moved with its context, since only digests decide on the places in it. -/
theorem store_on (t : TargetSystem) (c : Context) : (c.on t).store = c.store.map (.on t) := by
  have hfold : ∀ known held : List Prepared,
      (known.map (Prepared.on t)).foldl (fun held m => place m held) (held.map (.on t)) =
        (known.foldl (fun held m => place m held) held).map (.on t) := by
    intro known
    induction known with
    | nil => intro held; rfl
    | cons m rest ih =>
      intro held
      rw [List.map_cons, List.foldl_cons, List.foldl_cons, place_on, ih]
  exact hfold c.prepared []

end Context

/-- A build on Apple silicon and one on Intel that differ in the targets of their requests and in
the platforms of their events only. -/
structure Build.DarwinPair (arm intel : Build) : Prop where
  result : arm.result = intel.result
  requests : List.Forall₂
    (fun q q' => q.artifact.target = .aarch64Darwin ∧
      q' = { q with artifact := { q.artifact with target := .x8664Darwin } })
    arm.requests intel.requests
  events : List.Forall₂
    (fun e e' => e.level = e'.level ∧ e.target = e'.target ∧ e.message = e'.message ∧
      ∃ rest, e.fields = ("platform", "macos-aarch64") :: rest ∧
        e'.fields = ("platform", "macos-x86_64") :: rest)
    arm.events intel.events

namespace Bundle

theorem plan_for_arm (b : Bundle) : (b.plan .aarch64Darwin .macosAarch64).For .aarch64Darwin :=
  ⟨rfl, fun _ => trivial⟩

/-- Both Darwin systems run one bundle, by a step that needs no image. -/
theorem plan_on_intel (b : Bundle) :
    (b.plan .aarch64Darwin .macosAarch64).on .x8664Darwin = b.plan .x8664Darwin .macosX8664 := rfl

/-- A build goes on both Darwin systems alike. -/
theorem build_darwin (hb : agent.BlindToTarget) (hr : r.context.system = .aarch64Darwin)
    (hu : r.Uniform) (b : Bundle) :
    (b.build agent r).1.DarwinPair (b.build agent (r.on .x8664Darwin)).1 ∧
      (b.build agent r).2.context.system = .aarch64Darwin ∧ (b.build agent r).2.Uniform ∧
      (b.build agent (r.on .x8664Darwin)).2 = (b.build agent r).2.on .x8664Darwin := by
  obtain ⟨xs, outcome, hc, harm⟩ := build_of_platform agent b (r := r) (p := .macosAarch64)
    (by rw [hr]; rfl)
  obtain ⟨ys, outcome', hc', hintel⟩ := build_of_platform agent b (r := r.on .x8664Darwin)
    (p := .macosX8664) rfl
  rw [hr] at hc
  have htargets := hc.targets b.plan_for_arm
  have hmoved := hc.on hb (hr ▸ b.plan_for_arm) hu .x8664Darwin
  rw [plan_on_intel] at hmoved
  obtain ⟨rfl, rfl⟩ := hc'.unique hmoved
  rw [harm, hintel]
  refine ⟨⟨rfl, ?requests, ?events⟩, hr, hu.extend (hr ▸ htargets), (Run.extend_on _ r xs).symm⟩
  case requests =>
    simp only [Build.requests, List.map_map, List.forall₂_map_left_iff,
      List.forall₂_map_right_iff, List.forall₂_same]
    exact fun x hx => ⟨htargets x hx, rfl⟩
  case events =>
    exact .cons ⟨rfl, rfl, rfl, _, rfl, rfl⟩ (.cons ⟨rfl, rfl, rfl, _, rfl, rfl⟩ .nil)

theorem buildAll_darwin (hb : agent.BlindToTarget) (hr : r.context.system = .aarch64Darwin)
    (hu : r.Uniform) (bundles : List Bundle) :
    List.Forall₂ Build.DarwinPair (buildAll agent bundles r).1
        (buildAll agent bundles (r.on .x8664Darwin)).1 ∧
      (buildAll agent bundles (r.on .x8664Darwin)).2 =
        (buildAll agent bundles r).2.on .x8664Darwin := by
  induction bundles generalizing r with
  | nil => exact ⟨.nil, rfl⟩
  | cons b rest ih =>
    obtain ⟨hpair, hr', hu', hmoved⟩ := build_darwin hb hr hu b
    obtain ⟨hpairs, hend⟩ := ih hr' hu'
    rw [← hmoved] at hpairs hend
    exact ⟨.cons hpair hpairs, hend⟩

/-- Under an agent that does not look at targets, builds one after another on Apple silicon give
what they give on Intel: the same results, the same store, and requests and events that tell of
the same addresses, versions and aliases, and differ only by naming the system or platform. -/
theorem darwin_builds_alike (hb : agent.BlindToTarget) (settings : Settings)
    (bundles : List Bundle) :
    let arm := buildAll agent bundles (Run.start .aarch64Darwin settings)
    let intel := buildAll agent bundles (Run.start .x8664Darwin settings)
    List.Forall₂ Build.DarwinPair arm.1 intel.1 ∧
    (arm.2.context.store.map fun m => (m.digest, m.artifact.name, m.artifact.aliases)) =
      intel.2.context.store.map fun m => (m.digest, m.artifact.name, m.artifact.aliases) := by
  intro arm intel
  obtain ⟨hpairs, hend⟩ := buildAll_darwin hb (r := Run.start .aarch64Darwin settings) rfl
    (fun m hm => by contradiction) bundles
  refine ⟨hpairs, ?_⟩
  have hstore : intel.2.context.store = arm.2.context.store.map (.on .x8664Darwin) := by
    rw [← Context.store_on]
    exact congrArg (fun r => r.context.store) hend
  rw [hstore, List.map_map]
  rfl

/-- The first of four builds is refused and the last is answered from the context. -/
theorem darwin_builds_alike_scripted :
    let agent := Agent.Script.agent [(name, [.refused 14])]
    let bundles : List Bundle := [⟨"1"⟩, ⟨"1"⟩, ⟨"2"⟩, ⟨"1"⟩]
    let arm := buildAll agent bundles (Run.start .aarch64Darwin {})
    let intel := buildAll agent bundles (Run.start .x8664Darwin {})
    agent.BlindToTarget ∧
    arm.1.map Build.result = [.error (.preparation .refused), .ok "tor-expert-bundle-2",
      .ok "tor-expert-bundle-3", .ok "tor-expert-bundle-2"] ∧
    List.Forall₂ Build.DarwinPair arm.1 intel.1 := by
  intro agent bundles arm intel
  have hblind : agent.BlindToTarget := Agent.Script.blindToTarget _
  exact ⟨hblind, by decide +kernel, (darwin_builds_alike hblind {} bundles).1⟩

end Bundle

end TorBundle
