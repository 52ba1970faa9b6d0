import TorBundle.Proofs.Build
import TorBundle.Proofs.Refusals

/-!
# What a build tells and asks

The version of a bundle reaches the events, the source and the alias of a build by different
ways, and all of them agree on it. The last version put in counts. A build tells its two events
before anything can fail, and asks for the bundle at its very end.
-/

namespace TorBundle

namespace Bundle

/-- The last of the versions put in counts. -/
theorem foldl_withVersion (start : Bundle) (versions : List String) :
    versions.foldl withVersion start = ⟨versions.getLast?.getD start.version⟩ := by
  induction versions generalizing start with
  | nil => rfl
  | cons v rest ih =>
    rw [List.foldl_cons, ih, List.getLast?_cons, Option.getD_some]
    rfl

theorem start_version {start : Bundle} (h : start ∈ [standard, default]) :
    start.version = "13.5.6" := by
  rcases List.mem_pair.mp h with rfl | rfl <;> rfl

/-- The request for the bundle comes last, if at all; before it stand requests for layers. -/
theorem requests_of_course {agent : Agent} {target : TargetSystem} {p : Platform} {r : Run}
    {xs : List Exchange} {outcome : Except PreparationFailure String} {b : Bundle}
    (h : Plan.Course agent (b.plan target p) r xs outcome) :
    ∃ (others : List Request) (last : Option Request),
      xs.map Exchange.request = others ++ last.toList ∧
      (∀ q ∈ others, q.artifact.name ≠ Bundle.name) ∧
      ∀ q ∈ last, ∃ step, q.artifact = b.artifact target (Strategy.url b.release p) step := by
  have hlayers : ∀ {ys outcome},
      Plan.Course agent (Shell.plan target commands) r ys outcome →
      ∀ q ∈ ys.map Exchange.request, q.artifact.name ≠ Bundle.name := by
    intro ys outcome hs q hq
    obtain ⟨x, hx, rfl⟩ := List.mem_map.mp hq
    exact Shell.course_name_ne hs x hx
  rcases course_cases h with ⟨e, _, hs⟩ | ⟨step, ys, hs, ⟨rfl, _⟩ | ⟨x, hx, _, rfl, _⟩⟩
  · exact ⟨_, none, (List.append_nil _).symm, hlayers hs, nofun⟩
  · exact ⟨_, none, (List.append_nil _).symm, hlayers hs, nofun⟩
  · refine ⟨ys.map Exchange.request, some x.request, List.map_append, hlayers hs, ?_⟩
    intro q hq
    cases hq
    exact ⟨step, congrArg Exchange.artifact hx⟩

/-- However a bundle is started and whichever versions are put in, a build on a system with a
platform tells of the address of the last version, and of that version, in exactly two events;
if it asks for the bundle, then last, and with this address and version. On any other system it
only fails. -/
theorem build_tells_version (agent : Agent) (r : Run) {start : Bundle}
    (hstart : start ∈ [standard, default]) (versions : List String) :
    let v := versions.getLast?.getD "13.5.6"
    let build := ((versions.foldl withVersion start).build agent r).1
    let after := ((versions.foldl withVersion start).build agent r).2
    match r.context.system.platform with
    | .ok p =>
      let url := (Strategy.resolve (Release.mk v) p).url
      build.events.map (fun e => (e.level, e.target, e.message, e.fields)) =
        [(.debug, "tor_binary_artifacts::strategy", "resolved artifact url",
            [("platform", p.ident), ("url", url)]),
          (.info, "tor_binary_artifacts::artifact::tor_expert_bundle",
            "provisioning tor-expert-bundle from " ++ url,
            [("platform", p.ident), ("version", v)])] ∧
      ∃ (others : List Request) (last : Option Request),
        build.requests = others ++ last.toList ∧
        (∀ q ∈ others, q.artifact.name ≠ "tor-expert-bundle") ∧
        ∀ q ∈ last, q.artifact.name = "tor-expert-bundle" ∧
          q.artifact.sources.map Artifact.Source.path = [url] ∧
          q.artifact.aliases = ["tor-expert-bundle:" ++ v] ∧
          q.artifact.target = r.context.system
    | .error e =>
      e = ⟨r.context.system.name⟩ ∧ build.result = .error (.platform e) ∧ build.events = [] ∧
        build.requests = [] ∧ after = r := by
  intro v build after
  have hv : versions.foldl withVersion start = Bundle.mk v := by
    rw [foldl_withVersion, start_version hstart]
  have hboth : (build, after) = (Bundle.mk v).build agent r := by
    rw [← hv]
  split
  case h_1 p hp =>
    obtain ⟨xs, outcome, hc, hb⟩ := build_of_platform agent (Bundle.mk v) hp
    obtain ⟨others, last, hrequests, hothers, hlast⟩ := requests_of_course hc
    have hbuild := (Prod.mk.inj (hboth.trans hb)).1
    rw [hbuild]
    refine ⟨rfl, others, last, hrequests, hothers, fun q hq => ?_⟩
    obtain ⟨step, hq⟩ := hlast q hq
    rw [hq]
    exact ⟨rfl, rfl, rfl, rfl⟩
  case h_2 e he =>
    have hb := build_of_no_platform agent (Bundle.mk v) he
    obtain ⟨hbuild, hafter⟩ := Prod.mk.inj (hboth.trans hb)
    rw [hbuild, hafter]
    exact ⟨TargetSystem.platform_error he, rfl, rfl, rfl, rfl⟩

/-- The versions that are put in may hold anything, and the agent may be away. -/
theorem build_tells_odd_version :
    (default : Bundle) ∈ [standard, default] ∧
    let build := ((["1", "a/b-\x7b\x7d\n"].foldl withVersion default).build Agent.absent
      (Run.start .aarch64Darwin {})).1
    let url := (Strategy.resolve (Release.mk "a/b-\x7b\x7d\n") .macosAarch64).url
    build.events.map (fun e => (e.level, e.target, e.message, e.fields)) =
      [(.debug, "tor_binary_artifacts::strategy", "resolved artifact url",
          [("platform", "macos-aarch64"), ("url", url)]),
        (.info, "tor_binary_artifacts::artifact::tor_expert_bundle",
          "provisioning tor-expert-bundle from " ++ url,
          [("platform", "macos-aarch64"), ("version", "a/b-\x7b\x7d\n")])] ∧
    ∃ (others : List Request) (last : Option Request),
      build.requests = others ++ last.toList ∧
      (∀ q ∈ others, q.artifact.name ≠ "tor-expert-bundle") ∧
      ∀ q ∈ last, q.artifact.name = "tor-expert-bundle" ∧
        q.artifact.sources.map Artifact.Source.path = [url] ∧
        q.artifact.aliases = ["tor-expert-bundle:" ++ "a/b-\x7b\x7d\n"] ∧
        q.artifact.target = .aarch64Darwin := by
  have hstart : (default : Bundle) ∈ [standard, default] := List.mem_pair.mpr (.inr rfl)
  exact ⟨hstart, build_tells_version Agent.absent (Run.start .aarch64Darwin {}) hstart _⟩

end Bundle

end TorBundle
