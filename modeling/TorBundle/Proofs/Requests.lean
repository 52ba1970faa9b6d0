import TorBundle.Proofs.Journal

/-!
# The requests of builds one after another

In a context that several bundles are built in, each in turn, a build asks for the bundle
exactly if its step is made and no build before it has succeeded with the same version. After
such a success a build asks for nothing, answers the same digest and changes nothing. A name
with its aliases stands for one artifact all along, which is not asked for again once it has
been prepared. Any build may fail at any of its preparations.
-/

namespace TorBundle

namespace Bundle

variable {agent : Agent} {target : TargetSystem} {p : Platform}
  {past : List (Bundle × Build)} {r : Run}

theorem version_of_aliases {b c : Bundle} {url url' : String} {step step' : Artifact.Step}
    (h : (b.artifact target url step).aliases = (c.artifact target url' step').aliases) :
    b = c := by
  have hv : Bundle.name ++ ":" ++ b.version = Bundle.name ++ ":" ++ c.version :=
    (List.cons.inj h).1
  have hbc : b.version = c.version := (String.append_right_inj _).mp hv
  cases b
  cases c
  exact congrArg Bundle.mk hbc

theorem LedTo.origin (h : LedTo agent target p past r) {q : Prepared}
    (hq : q ∈ r.context.prepared) (hn : q.artifact.name = Bundle.name) :
    ∃ e ∈ past, (∃ d, e.2.result = .ok d) ∧
      ∃ step, q.artifact = e.1.artifact target (Strategy.url e.1.release p) step := by
  obtain ⟨e, he, x, hx, hqx, hs⟩ := h.exchange_of_prepared hq
  rw [hqx] at hn ⊢
  refine ⟨e, he, h.ended e he x hx hn hs, ?_⟩
  rcases mem_asked (h.asked e he x hx) with ha | ⟨step, _, hb⟩
  · exact absurd hn (Shell.name_ne ha)
  · exact ⟨step, hb⟩

theorem LedTo.succeeded_of_known (h : LedTo agent target p past r) {b : Bundle} {url d : String}
    {step : Artifact.Step} {ys : List Exchange}
    (hs : Plan.Course agent (Shell.plan target commands) r ys (.ok step))
    (hd : (r.extend ys).digests (b.artifact target url step) = some d) :
    ∃ e ∈ past, e.1.version = b.version ∧ ∃ d, e.2.result = .ok d := by
  obtain ⟨q, hq, hqa⟩ := Run.mem_prepared_of_digests hd
  have hqn : q.artifact.name = Bundle.name := by rw [hqa]; rfl
  rw [Run.extend_prepared] at hq
  rcases List.mem_append.mp hq with hq | hq
  · obtain ⟨e, he, hok, step', hstep⟩ := h.origin hq hqn
    have heb : e.1 = b := version_of_aliases (congrArg Artifact.aliases (hstep.symm.trans hqa))
    exact ⟨e, he, congrArg Bundle.version heb, hok⟩
  · obtain ⟨y, hy, hqy⟩ := List.mem_filterMap.mp hq
    rw [(Exchange.of_prepared? hqy).1] at hqn
    exact absurd hqn (Shell.course_name_ne hs y hy)

theorem LedTo.build_of_succeeded (hp : target.platform = .ok p)
    (h : LedTo agent target p past r) {e : Bundle × Build} (he : e ∈ past) {b : Bundle}
    (hv : e.1.version = b.version) {d : String} (hd : e.2.result = .ok d) :
    (b.build agent r).1.requests = [] ∧ (b.build agent r).1.result = .ok d ∧
      (b.build agent r).2 = r := by
  have hb : e.1 = b := by
    cases b
    exact congrArg Bundle.mk hv
  obtain ⟨xs, outcome, hc, hx⟩ := build_of_platform agent b (r := r) (h.system ▸ hp)
  rw [h.system] at hc
  obtain ⟨rfl, rfl⟩ := hc.unique (hb ▸ h.replay e he d hd)
  rw [hx, Run.extend_nil]
  exact ⟨rfl, rfl, rfl⟩

/-- A build asks for the bundle if its step is made and no success with its version is known. -/
theorem LedTo.bundle_request_iff (hp : target.platform = .ok p)
    (h : LedTo agent target p past r) (b : Bundle) :
    (∃ q ∈ (b.build agent r).1.requests, q.artifact.name = Bundle.name) ↔
      (∃ step, ((prepareShell agent target commands).run r).1 = .ok step) ∧
      ∀ e ∈ past, e.1.version = b.version → ∀ d, e.2.result ≠ .ok d := by
  obtain ⟨xs, outcome, hc, hb⟩ := build_of_platform agent b (r := r) (h.system ▸ hp)
  rw [h.system] at hc
  rw [Build.exists_request_iff]
  have hxs : (b.build agent r).1.exchanges = xs := by rw [hb]
  simp only [Shell.ok_iff_course, hxs]
  rcases course_cases hc with ⟨e, _, hs⟩ | ⟨step, ys, hs, ⟨rfl, d, _, hd⟩ | ⟨x, hx, _, rfl, _⟩⟩
  · constructor
    · rintro ⟨x, hx, hn⟩
      exact absurd hn (Shell.course_name_ne hs x hx)
    · rintro ⟨⟨step, zs, hz⟩, _⟩
      cases (hs.unique hz).2
  · obtain ⟨e, he, hv, c, hec⟩ := h.succeeded_of_known hs hd
    constructor
    · rintro ⟨x, hx, hn⟩
      exact absurd hn (Shell.course_name_ne hs x hx)
    · rintro ⟨_, hno⟩
      exact absurd hec (hno e he hv c)
  · have hxn : x.artifact.name = Bundle.name := by rw [hx]; rfl
    have hmem : x ∈ ys ++ [x] := List.mem_append_right ys (List.mem_singleton_self x)
    refine ⟨fun _ => ⟨⟨step, ys, hs⟩, fun e he hv d hd => ?_⟩, fun _ => ⟨x, hmem, hxn⟩⟩
    have hnone := (h.build_of_succeeded hp he hv hd).1
    rw [hb] at hnone
    simp [Build.requests] at hnone

theorem LedTo.preparedIn_of_known (h : LedTo agent target p past r) {a : Artifact}
    (hk : r.digests a ≠ none) : PreparedIn past a.name := by
  obtain ⟨d, hd⟩ := Option.ne_none_iff_exists'.mp hk
  obtain ⟨q, hq, rfl⟩ := Run.mem_prepared_of_digests hd
  obtain ⟨e, he, x, hx, hqx, hs⟩ := h.exchange_of_prepared hq
  exact ⟨e, he, x, hx, congrArg Artifact.name hqx.symm, hs⟩

/-- A layer that has been prepared is the one that the image is still made of. -/
theorem LedTo.layer_of_preparedIn (h : LedTo agent target p past r) {l : Layer}
    (hl : PreparedIn past l.name) :
    ∃ a ∈ (Shell.plan target commands).asked r.digests, a.name = l.name ∧ r.digests a ≠ none := by
  obtain ⟨e, he, x, hx, hn, hs⟩ := hl
  have hr : x ∈ r.exchanges := h.mem_exchanges.mpr ⟨e, he, hx⟩
  exact ⟨x.artifact, mem_shell_asked (h.asked e he x hx) hn, hn, h.known hr hs⟩

/-- A build asks for a layer if all that it rests on has been prepared by then, and the layer
itself not before. -/
theorem LedTo.layer_request_iff (hp : target.platform = .ok p)
    (h : LedTo agent target p past r) (b : Bundle) (l : Layer) :
    (∃ q ∈ (b.build agent r).1.requests, q.artifact.name = l.name) ↔
      target.isLinux = true ∧ ¬PreparedIn past l.name ∧
      ∀ m ∈ l.below, PreparedIn (past ++ [(b, (b.build agent r).1)]) m.name := by
  have hafter := h.build hp b
  obtain ⟨xs, outcome, hc, hb⟩ := build_of_platform agent b (r := r) (h.system ▸ hp)
  rw [h.system] at hc
  rw [hb] at hafter ⊢
  rw [Build.exists_request_iff, layer_exchange_iff hc]
  have hasked := Shell.asked_eq target commands (r.extend xs).digests
  constructor
  · rintro ⟨a, ha, hn, hk⟩
    have hlinux : target.isLinux = true := by
      by_contra hno
      rw [hasked, if_neg hno] at ha
      contradiction
    refine ⟨hlinux, fun hl => ?_, fun m hm => ?_⟩
    · obtain ⟨c, hca, hcn, hck⟩ := h.layer_of_preparedIn hl
      have hcm := (Plan.asked_prefix (r.digests_extend xs) _).subset hca
      have hac : c = a := Shell.eq_of_name_eq hcm ha (hcn.trans hn.symm)
      exact hck (hac ▸ hk)
    · rw [hasked, if_pos hlinux] at ha
      obtain ⟨c, _, hcm, hck⟩ := (Layer.asked_iff target _ l).mp ⟨a, ha, hn⟩ m hm
      exact hcm ▸ hafter.preparedIn_of_known hck
  · rintro ⟨hlinux, hno, hbelow⟩
    obtain ⟨a, ha, hn⟩ := (Layer.asked_iff target (r.extend xs).digests l).mpr fun m hm => by
      have hm' := hafter.layer_of_preparedIn (hbelow m hm)
      rwa [hasked, if_pos hlinux] at hm'
    refine ⟨a, by rwa [hasked, if_pos hlinux], hn, ?_⟩
    by_contra hk
    exact hno (hn ▸ h.preparedIn_of_known hk)

theorem LedTo.requests_pairwise (h : LedTo agent target p past r) :
    r.exchanges.Pairwise fun x y =>
      x.artifact.name = y.artifact.name →
      (x.artifact.name = Bundle.name → x.artifact.aliases = y.artifact.aliases) →
        x.request = y.request ∧ ¬x.Succeeded := by
  refine h.once.imp_of_mem fun {x y} hx hy honce hn ha => ?_
  have hxy : x.artifact = y.artifact := by
    obtain ⟨e, he, hxe⟩ := h.mem_exchanges.mp hx
    obtain ⟨f, hf, hyf⟩ := h.mem_exchanges.mp hy
    rcases mem_asked (h.asked e he x hxe) with hsx | ⟨step, hrx, hbx⟩ <;>
      rcases mem_asked (h.asked f hf y hyf) with hsy | ⟨step', hry, hby⟩
    · exact Shell.eq_of_name_eq hsx hsy hn
    · exact absurd (hn.trans (congrArg Artifact.name hby)) (Shell.name_ne hsx)
    · exact absurd (hn.symm.trans (congrArg Artifact.name hbx)) (Shell.name_ne hsy)
    · have hv := ha (congrArg Artifact.name hbx)
      rw [hbx, hby] at hv
      rw [hrx] at hry
      rw [hbx, hby, version_of_aliases hv, Option.some.inj hry]
  have hs : x.request.settings = y.request.settings :=
    (h.settings x hx).trans (h.settings y hy).symm
  exact ⟨congrArg₂ Request.mk hxy hs, fun hsx => honce hsx hxy⟩

theorem platform_of_mem_systems (ht : target ∈ systems) : ∃ p, target.platform = .ok p := by
  cases target <;> simp [systems] at ht <;> exact ⟨_, rfl⟩

/-- Of builds one after another in a new context, the one with number `k` asks for the bundle
if its step is made and no build before it has succeeded with its version. If one has, it asks
for nothing, answers the same and leaves its run as it is. It asks for a layer of the base image
on Linux, if all layers below have been prepared by then and this one not before. Over the whole
run a request is repeated only for what has not been prepared. -/
theorem requests_of_builds (agent : Agent) (settings : Settings) (ht : target ∈ systems)
    (bundles : List Bundle) :
    let builds := journal agent bundles (Run.start target settings)
    let before := runBefore agent bundles (Run.start target settings)
    builds.map Prod.fst = bundles ∧
    (∀ k b build, builds[k]? = some (b, build) →
      ((∃ q ∈ build.requests, q.artifact.name = Bundle.name) ↔
        (∃ step, ((prepareShell agent target commands).run (before k)).1 = .ok step) ∧
        ∀ e ∈ builds.take k, e.1.version = b.version → ∀ d, e.2.result ≠ .ok d) ∧
      (∀ e ∈ builds.take k, e.1.version = b.version → ∀ d, e.2.result = .ok d →
        build.requests = [] ∧ build.result = .ok d ∧ before (k + 1) = before k) ∧
      ∀ l : Layer, (∃ q ∈ build.requests, q.artifact.name = l.name) ↔
        target.isLinux = true ∧ ¬PreparedIn (builds.take k) l.name ∧
        ∀ m ∈ l.below, PreparedIn (builds.take (k + 1)) m.name) ∧
    (builds.flatMap fun e => e.2.exchanges).Pairwise fun x y =>
      x.artifact.name = y.artifact.name →
      (x.artifact.name = Bundle.name → x.artifact.aliases = y.artifact.aliases) →
        x.request = y.request ∧ ¬x.Succeeded := by
  intro builds before
  obtain ⟨p, hp⟩ := platform_of_mem_systems ht
  have hstart := ledTo_start agent target settings p
  refine ⟨journal_bundles agent bundles _, fun k b build hk => ?_, ?_⟩
  · have hled : LedTo agent target p (builds.take k) (before k) := by
      have h := hstart.buildAll hp (bundles.take k)
      rwa [← journal_take, List.nil_append] at h
    have hb : b.build agent (before k) = (build, before (k + 1)) := journal_getElem? hk
    have hbuild : (b.build agent (before k)).1 = build := congrArg Prod.fst hb
    refine ⟨?_, fun e he hv d hd => ?_, fun l => ?_⟩
    · rw [← hbuild]
      exact hled.bundle_request_iff hp b
    · have hs := hled.build_of_succeeded hp he hv hd
      rwa [hb] at hs
    · rw [List.take_add_one, hk, ← hbuild]
      exact hled.layer_request_iff hp b l
  · have h := hstart.buildAll hp bundles
    rw [List.nil_append] at h
    rw [← h.sent]
    exact h.requests_pairwise

def refusingFirst : Agent := fun past q =>
  if past.length = 0 then .refused 14
  else .stream [{ artifact := true, digest := some q.artifact.name }] none

/-- The first of three builds of one version fails, so the second makes all requests and the
third makes none. -/
theorem requests_of_builds_refused_first :
    let builds := journal refusingFirst [⟨"1"⟩, ⟨"1"⟩, ⟨"1"⟩] (Run.start .x8664Linux {})
    TargetSystem.x8664Linux ∈ systems ∧
    builds.map (fun e => (e.1.version, e.2.result)) =
      [("1", .error (.preparation .refused)), ("1", .ok Bundle.name), ("1", .ok Bundle.name)] ∧
    ∃ again, builds[2]? = some (⟨"1"⟩, again) ∧ again.requests = [] := by
  intro builds
  have ht : TargetSystem.x8664Linux ∈ systems := by decide
  have hresults : builds.map (fun e => (e.1.version, e.2.result)) =
      [("1", .error (.preparation .refused)), ("1", .ok Bundle.name), ("1", .ok Bundle.name)] := by
    decide +kernel
  have hentry : ∀ (k : Nat) (v : String) (o : Except BuildFailure String),
      (builds.map fun e => (e.1.version, e.2.result))[k]? = some (v, o) →
      ∃ build : Build, builds[k]? = some (Bundle.mk v, build) ∧ build.result = o := by
    intro k v o h
    rw [List.getElem?_map, Option.map_eq_some_iff] at h
    obtain ⟨⟨⟨_⟩, build⟩, hk, hvo⟩ := h
    cases hvo
    exact ⟨build, hk, rfl⟩
  obtain ⟨made, hmade, hok⟩ := hentry 1 "1" (.ok Bundle.name) (by rw [hresults]; rfl)
  obtain ⟨again, hagain, _⟩ := hentry 2 "1" (.ok Bundle.name) (by rw [hresults]; rfl)
  have hearlier : (⟨"1"⟩, made) ∈ builds.take 2 :=
    List.mem_of_getElem? ((List.getElem?_take_of_lt (by decide)).trans hmade)
  obtain ⟨_, h, _⟩ := requests_of_builds refusingFirst {} ht [⟨"1"⟩, ⟨"1"⟩, ⟨"1"⟩]
  exact ⟨ht, hresults, again, hagain, ((h 2 _ again hagain).2.1 _ hearlier rfl _ hok).1⟩

end Bundle

end TorBundle
