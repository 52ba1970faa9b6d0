import TorBundle.Proofs.Journal
import TorBundle.Proofs.Removal

/-!
# What a failed build leaves

A build that fails has prepared layers of the base image at most, and these are a stretch of the
image from some layer up: a layer that was known is not prepared again, and none is known whose
bottom is not. The bundle itself is never left behind. Where there is no image to prepare, a
failed build leaves its context as it was, so a run can do without it.
-/

namespace TorBundle

variable {agent : Agent} {target : TargetSystem} {r : Run} {xs : List Exchange}

/-- The names of the artifacts that some exchanges have prepared, in order. -/
def Exchange.preparedNames (xs : List Exchange) : List String :=
  (xs.filterMap Exchange.prepared?).map fun m => m.artifact.name

namespace Exchange

@[simp] theorem preparedNames_nil : preparedNames [] = [] := rfl

theorem preparedNames_cons_of_ok {x : Exchange} {d : String} (h : x.reply.digest = .ok d)
    (xs : List Exchange) : preparedNames (x :: xs) = x.artifact.name :: preparedNames xs := by
  simp [preparedNames, prepared?_of_ok h]

theorem preparedNames_cons_of_error {x : Exchange} {e : PreparationFailure}
    (h : x.reply.digest = .error e) (xs : List Exchange) :
    preparedNames (x :: xs) = preparedNames xs := by
  simp [preparedNames, prepared?_of_error h]

end Exchange

namespace Layer

open Exchange

theorem tools_prepared {below : List String} {outcome : Except PreparationFailure String}
    (h : Plan.Course agent (.ask (tools.artifact target below) .done) r xs outcome) :
    preparedNames xs <+: [tools.name] := by
  cases h with
  | known hd rest => cases rest; exact List.nil_prefix
  | prepared hn hd rest =>
    cases rest
    rw [preparedNames_cons_of_ok hd]
    exact List.prefix_refl _
  | failed hn he =>
    rw [preparedNames_cons_of_error he]
    exact List.nil_prefix

/-- The upper layers are prepared in a stretch, and from the lower one of them if that was not
known. -/
theorem upper_prepared {below : List String} {outcome : Except PreparationFailure String}
    (h : Plan.Course agent (.ask (distribution.artifact target below) fun d =>
      .ask (tools.artifact target [d]) .done) r xs outcome) :
    preparedNames xs <:+: [distribution.name, tools.name] ∧
      (r.digests (distribution.artifact target below) = none →
        preparedNames xs <+: [distribution.name, tools.name]) := by
  cases h with
  | known hd rest =>
    refine ⟨(tools_prepared rest).isInfix.trans (List.suffix_cons _ _).isInfix, fun hn => ?_⟩
    rw [hd] at hn
    contradiction
  | prepared hn hd rest =>
    rw [preparedNames_cons_of_ok hd]
    have hupper : distribution.name :: preparedNames _ <+: [distribution.name, tools.name] :=
      List.cons_prefix_cons.mpr ⟨rfl, tools_prepared rest⟩
    exact ⟨hupper.isInfix, fun _ => hupper⟩
  | failed hn he =>
    rw [preparedNames_cons_of_error he]
    exact ⟨List.nil_infix, fun _ => List.nil_prefix⟩

/-- Unless a layer stands without its bottom, what is prepared of the image is a stretch of it. -/
theorem prepared_infix {outcome : Except PreparationFailure String}
    (h : Plan.Course agent (Layer.plan target) r xs outcome)
    (hstands : r.digests (recipe.artifact target []) = none →
      ∀ d, r.digests (distribution.artifact target [d]) = none) :
    preparedNames xs <:+: names := by
  cases h with
  | known hd rest => exact (upper_prepared rest).1.trans (List.suffix_cons _ _).isInfix
  | @prepared _ _ _ d _ _ hn hd rest =>
    have hname : recipe.name ≠ distribution.name := by decide
    have hother : recipe.artifact target [] ≠ distribution.artifact target [d] :=
      fun he => hname (congrArg Artifact.name he)
    have hunknown := hstands hn d
    rw [← Run.digests_extend_other (x := r.exchange agent (recipe.artifact target [])) hother]
      at hunknown
    rw [preparedNames_cons_of_ok hd]
    exact (List.cons_prefix_cons.mpr ⟨rfl, (upper_prepared rest).2 hunknown⟩).isInfix
  | failed hn he =>
    rw [preparedNames_cons_of_error he]
    exact List.nil_infix

end Layer

namespace Shell

variable {commands : String} {outcome : Except PreparationFailure Artifact.Step}

/-- A step prepares layers only, in a stretch. -/
theorem prepared_infix (h : Plan.Course agent (Shell.plan target commands) r xs outcome)
    (hstands : r.digests (Layer.recipe.artifact target []) = none →
      ∀ d, r.digests (Layer.distribution.artifact target [d]) = none) :
    Exchange.preparedNames xs <:+: Layer.names := by
  unfold Shell.plan at h
  split at h
  · rcases h.of_bind with ⟨e, _, hl⟩ | ⟨image, ys, zs, rfl, hl, hdone⟩
    · exact Layer.prepared_infix hl hstands
    · cases hdone
      rw [List.append_nil]
      exact Layer.prepared_infix hl hstands
  · cases h
    exact List.nil_infix

theorem exchanges_of_direct (h : Plan.Course agent (Shell.plan target commands) r xs outcome)
    (hdirect : target.isLinux = false) : xs = [] := by
  simp only [Shell.plan, hdirect, Bool.false_eq_true, if_false] at h
  cases h
  rfl

end Shell

namespace Bundle

variable {p : Platform} {past : List (Bundle × Build)} {b : Bundle}

theorem LedTo.unknown_above (h : LedTo agent target p past r)
    (hn : r.digests (Layer.recipe.artifact target []) = none) (d : String) :
    r.digests (Layer.distribution.artifact target [d]) = none := by
  by_contra hk
  obtain ⟨c, hc⟩ := Option.ne_none_iff_exists'.mp hk
  obtain ⟨q, hq, hqa⟩ := Run.mem_prepared_of_digests hc
  obtain ⟨e, he, x, hx, hqx, _⟩ := h.exchange_of_prepared hq
  have hname : x.artifact.name = Layer.distribution.name :=
    congrArg Artifact.name (hqx.symm.trans hqa)
  have hasked := mem_shell_asked (h.asked e he x hx) hname
  have honly : (Layer.plan target).asked r.digests = [Layer.recipe.artifact target []] := by
    simp [Layer.plan, Plan.asked, hn]
  rw [Shell.asked_eq, honly] at hasked
  split at hasked
  · rw [List.mem_singleton.mp hasked] at hname
    exact absurd hname (by decide : Layer.recipe.name ≠ Layer.distribution.name)
  · contradiction

theorem prepared_of_failed (hp : r.context.system.platform = .ok p) {e : BuildFailure}
    (h : (b.build agent r).1.result = .error e) :
    ∃ ys outcome, Plan.Course agent (Shell.plan r.context.system commands) r ys outcome ∧
      (b.build agent r).1.exchanges.filterMap Exchange.prepared? =
        ys.filterMap Exchange.prepared? := by
  obtain ⟨xs, outcome, hc, hb⟩ := build_of_platform agent b hp
  rw [hb] at h ⊢
  rcases course_cases hc with ⟨f, _, hs⟩ | ⟨step, ys, hs, ⟨_, d, rfl, _⟩ | ⟨x, _, _, rfl, rfl⟩⟩
  · exact ⟨xs, _, hs, rfl⟩
  · cases h
  · refine ⟨ys, _, hs, ?_⟩
    cases hd : x.reply.digest with
    | ok d =>
      rw [hd] at h
      cases h
    | error f => simp [Exchange.prepared?_of_error hd]

/-- What a build has prepared is what it adds to its context. -/
theorem build_context (agent : Agent) (b : Bundle) (r : Run) :
    (b.build agent r).2.context =
      { r.context with
        prepared := r.context.prepared ++
          (b.build agent r).1.exchanges.filterMap Exchange.prepared? } := by
  rw [build_run]
  rfl

/-- Whatever has been built before, a failed build has prepared a stretch of the image at most. -/
theorem failed_prepared_infix (agent : Agent) (target : TargetSystem) (settings : Settings)
    (earlier : List Bundle) {e : BuildFailure}
    (h : (b.build agent (buildAll agent earlier (Run.start target settings)).2).1.result =
      .error e) :
    Exchange.preparedNames
      (b.build agent (buildAll agent earlier (Run.start target settings)).2).1.exchanges <:+:
        Layer.names := by
  have hsystem : (buildAll agent earlier (Run.start target settings)).2.context.system = target :=
    congrArg (fun r => r.context.system) (buildAll_run agent earlier (Run.start target settings))
  cases hp : target.platform with
  | error f =>
    rw [build_of_no_platform agent b (hsystem ▸ hp)]
    exact List.nil_infix
  | ok p =>
    have hled := (ledTo_start agent target settings p).buildAll hp earlier
    obtain ⟨ys, outcome, hs, hys⟩ := prepared_of_failed (hsystem ▸ hp) h
    rw [hsystem] at hs
    rw [Exchange.preparedNames, hys]
    exact Shell.prepared_infix hs fun hn d => hled.unknown_above hn d

theorem isLinux_of_platform {t : TargetSystem} (hp : t.platform = .ok p) (ht : t ≠ .x8664Linux) :
    t.isLinux = false := by
  cases t with
  | aarch64Linux => cases hp
  | x8664Linux => exact absurd rfl ht
  | unknown | aarch64Darwin | x8664Darwin => rfl

theorem failed_context (hdirect : r.context.system ≠ .x8664Linux) {e : BuildFailure}
    (h : (b.build agent r).1.result = .error e) :
    (b.build agent r).2.context = r.context := by
  cases hp : r.context.system.platform with
  | error f => rw [build_of_no_platform agent b hp]
  | ok p =>
    obtain ⟨ys, outcome, hs, hys⟩ := prepared_of_failed hp h
    rw [build_context, hys, Shell.exchanges_of_direct hs (isLinux_of_platform hp hdirect)]
    simp

def refusing (numbers : List Nat) : Agent := fun past q =>
  if past.length ∈ numbers then .refused 14
  else .stream [{ artifact := true, digest := some q.artifact.name }] none

/-- A build that fails after any earlier ones adds nothing to its context but the layers of the
image that it has prepared itself, a stretch of them. Off Linux it adds nothing, and on a system
that the bundle is not provisioned for it says and asks nothing either. On a Darwin system the
other builds of a run, and the context at its end, are the same without it and without the
answers that it got. -/
theorem failed_build_leaves_layers (agent : Agent) (target : TargetSystem) (settings : Settings)
    (earlier : List Bundle) (b : Bundle) {e : BuildFailure}
    (h : (b.build agent (buildAll agent earlier (Run.start target settings)).2).1.result =
      .error e) :
    let start := Run.start target settings
    let before := (buildAll agent earlier start).2
    let build := (b.build agent before).1
    let after := (b.build agent before).2
    let made := build.exchanges.filterMap Exchange.prepared?
    (after.context = { before.context with prepared := before.context.prepared ++ made } ∧
      (made.map fun m => m.artifact.name) <:+:
        ["linux-debian-dockerfile", "linux-debian", "linux-vorpal"] ∧
      ∀ m ∈ made, m.artifact.name ≠ "tor-expert-bundle") ∧
    (target ≠ .x8664Linux → after.context = before.context) ∧
    (target ∉ systems → after = before ∧ build.requests = [] ∧ build.events = []) ∧
    (target ∈ [.aarch64Darwin, .x8664Darwin] → ∀ later : List Bundle,
      let whole := buildAll agent (earlier ++ b :: later) start
      let spared := agent.skipping before.requests.length build.requests
      let without := buildAll spared (earlier ++ later) start
      without.1 = whole.1.eraseIdx earlier.length ∧
      without.2.context = whole.2.context) := by
  intro start before build after made
  have hsystem : before.context.system = target :=
    congrArg (fun r => r.context.system) (buildAll_run agent earlier start)
  have hnames : (made.map fun m => m.artifact.name) <:+: Layer.names :=
    failed_prepared_infix agent target settings earlier h
  refine ⟨⟨build_context agent b before, hnames, fun m hm hn => ?_⟩, fun ht => ?_, fun ht => ?_,
    fun ht later => ?_⟩
  · have hlayer := hnames.subset (List.mem_map_of_mem hm)
    rw [hn] at hlayer
    exact Layer.bundle_name_not_mem hlayer
  · exact failed_context (fun hb => ht (hsystem.symm.trans hb)) h
  · have hp : ∃ f, target.platform = .error f := by
      revert ht
      cases target <;> simp [systems, TargetSystem.platform]
    obtain ⟨f, hp⟩ := hp
    have hb := build_of_no_platform agent b (hsystem ▸ hp)
    simp only [after, build]
    rw [hb]
    exact ⟨rfl, rfl, rfl⟩
  · have hdirect : target ≠ .x8664Linux := by
      rintro rfl
      revert ht
      decide
    exact buildAll_remove agent earlier later b target settings
      (failed_context (fun hb => hdirect (hsystem.symm.trans hb)) h)

/-- On Linux the top layer is refused to the first build and prepared by the second, to which the
bundle is refused. On Darwin the second of four builds is refused and taken out. -/
theorem failed_build_leaves_top_layer :
    (let before := (buildAll (refusing [2, 4]) [⟨"1"⟩] (Run.start .x8664Linux {})).2
     let build := (Bundle.mk "2").build (refusing [2, 4]) before
     let made := build.1.exchanges.filterMap Exchange.prepared?
     build.1.result = .error (.preparation .refused) ∧
     (made.map fun m => m.artifact.name) = ["linux-vorpal"] ∧
     build.2.context = { before.context with prepared := before.context.prepared ++ made }) ∧
    let start := Run.start .aarch64Darwin {}
    let before := (buildAll (refusing [1]) [⟨"1"⟩] start).2
    let build := ((Bundle.mk "2").build (refusing [1]) before).1
    build.result = .error (.preparation .refused) ∧
    (buildAll ((refusing [1]).skipping before.requests.length build.requests)
        [⟨"1"⟩, ⟨"2"⟩, ⟨"3"⟩] start).1 =
      (buildAll (refusing [1]) [⟨"1"⟩, ⟨"2"⟩, ⟨"2"⟩, ⟨"3"⟩] start).1.eraseIdx 1 := by
  have hlinux : ((Bundle.mk "2").build (refusing [2, 4])
      (buildAll (refusing [2, 4]) [⟨"1"⟩] (Run.start .x8664Linux {})).2).1.result =
        .error (.preparation .refused) := by decide +kernel
  have hdarwin : ((Bundle.mk "2").build (refusing [1])
      (buildAll (refusing [1]) [⟨"1"⟩] (Run.start .aarch64Darwin {})).2).1.result =
        .error (.preparation .refused) := by decide +kernel
  obtain ⟨⟨hcontext, _⟩, _⟩ :=
    failed_build_leaves_layers (refusing [2, 4]) .x8664Linux {} [⟨"1"⟩] ⟨"2"⟩ hlinux
  obtain ⟨_, _, _, hremove⟩ :=
    failed_build_leaves_layers (refusing [1]) .aarch64Darwin {} [⟨"1"⟩] ⟨"2"⟩ hdarwin
  exact ⟨⟨hlinux, by decide +kernel, hcontext⟩, hdarwin,
    (hremove (by decide) [⟨"2"⟩, ⟨"3"⟩]).1⟩

end Bundle

end TorBundle
