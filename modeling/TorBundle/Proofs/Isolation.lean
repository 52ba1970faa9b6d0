import Mathlib.Data.List.Forall2
import Mathlib.Logic.Equiv.Defs
import TorBundle.Proofs.Build

/-!
# Builds that share a context

An agent that answers each request by itself gives every build of a shared context what it
gives the build alone. What the context remembers is what the agent would answer, so a build
that finds an artifact there goes on as one that asks for it. Two courses of one plan are
compared here, where one run knows more than the other.
-/

namespace TorBundle

def Agent.forgetful (answer : Request → Reply) : Agent := fun _ => answer

/-- The digests that an agent would answer with. -/
def Settings.answered (settings : Settings) (answer : Request → Reply) : Digests :=
  fun a => (answer ⟨a, settings⟩).digest.toOption

variable {answer : Request → Reply} {r s : Run} {xs ys : List Exchange} {α : Type}

/-- One run knows what another knows, and nothing but what the agent would answer. -/
structure Run.Ahead (answer : Request → Reply) (r s : Run) : Prop where
  system : r.context.system = s.context.system
  settings : r.context.settings = s.context.settings
  more : s.digests.Within r.digests
  honest : r.digests.Within (r.context.settings.answered answer)

theorem Run.exchange_forgetful (a : Artifact) :
    r.exchange (.forgetful answer) a =
      ⟨⟨a, r.context.settings⟩, answer ⟨a, r.context.settings⟩⟩ := rfl

namespace Run.Ahead

theorem exchange_eq (h : r.Ahead answer s) (a : Artifact) :
    r.exchange (.forgetful answer) a = s.exchange (.forgetful answer) a := by
  rw [exchange_forgetful, exchange_forgetful, h.settings]

/-- What is known to the run ahead is what the other run is answered. -/
theorem reply_of_known (h : r.Ahead answer s) {a : Artifact} {d : String}
    (hd : r.digests a = some d) : (s.exchange (.forgetful answer) a).reply.digest = .ok d := by
  have ha := h.honest a d hd
  rw [← h.exchange_eq, exchange_forgetful]
  unfold Settings.answered at ha
  cases hx : (answer ⟨a, r.context.settings⟩).digest with
  | error e =>
    rw [hx] at ha
    contradiction
  | ok c =>
    rw [hx] at ha
    exact congrArg Except.ok (Option.some.inj ha)

theorem catchUp (h : r.Ahead answer s) {a : Artifact} {d : String} (hd : r.digests a = some d) :
    r.Ahead answer (s.extend [s.exchange (.forgetful answer) a]) := by
  refine ⟨h.system, h.settings, fun b c hb => ?_, h.honest⟩
  rcases Run.digests_extend_cases hb with hs | ⟨rfl, hc⟩
  · exact h.more b c hs
  · rw [h.reply_of_known hd] at hc
    cases hc
    exact hd

theorem together (h : r.Ahead answer s) {a : Artifact} (hn : r.digests a = none) :
    (r.extend [r.exchange (.forgetful answer) a]).Ahead answer
      (s.extend [s.exchange (.forgetful answer) a]) := by
  refine ⟨h.system, h.settings, fun b c hb => ?_, fun b c hb => ?_⟩
  · rcases Run.digests_extend_cases hb with hs | ⟨rfl, hc⟩
    · exact r.digests_extend _ b c (h.more b c hs)
    · rw [← h.exchange_eq] at hc ⊢
      exact Run.digests_extend_self hn hc
  · rcases Run.digests_extend_cases hb with hr | ⟨rfl, hc⟩
    · exact h.honest b c hr
    · rw [exchange_forgetful] at hc
      simp only [Settings.answered, Run.extend_settings]
      exact congrArg Except.toOption hc

/-- A new run knows nothing, so whatever is ahead of some run is ahead of a new one. -/
theorem start (h : r.Ahead answer s) :
    r.Ahead answer (Run.start s.context.system s.context.settings) := by
  refine ⟨h.system, h.settings, fun a d hd => ?_, h.honest⟩
  rw [Run.digests_start] at hd
  contradiction

end Run.Ahead

/-- The run that knows more comes to the same outcome by some of the other's exchanges, and
stays ahead. -/
theorem Plan.Course.compare {p : Plan α} {outcome outcome' : Except PreparationFailure α}
    (hr : Plan.Course (.forgetful answer) p r xs outcome)
    (hs : Plan.Course (.forgetful answer) p s ys outcome') (h : r.Ahead answer s) :
    outcome = outcome' ∧ xs.Sublist ys ∧ (r.extend xs).Ahead answer (s.extend ys) := by
  induction p generalizing r s xs ys with
  | done result =>
    cases hr
    cases hs
    exact ⟨rfl, List.Sublist.refl _, by rwa [Run.extend_nil, Run.extend_nil]⟩
  | ask a next ih =>
    cases hr with
    | known hd rest =>
      have hreply := h.reply_of_known hd
      cases hs with
      | known hd' rest' =>
        cases hd.symm.trans (h.more a _ hd')
        exact ih _ rest rest' h
      | prepared hn' hd' rest' =>
        cases hreply.symm.trans hd'
        obtain ⟨ho, hxs, hahead⟩ := ih _ rest rest' (h.catchUp hd)
        rw [Run.extend_extend] at hahead
        exact ⟨ho, hxs.cons _, hahead⟩
      | failed hn' he' => cases hreply.symm.trans he'
    | prepared hn hd rest =>
      cases hs with
      | known hd' rest' => cases hn.symm.trans (h.more a _ hd')
      | prepared hn' hd' rest' =>
        rw [h.exchange_eq] at hd
        cases hd.symm.trans hd'
        obtain ⟨ho, hxs, hahead⟩ := ih _ rest rest' (h.together hn)
        rw [Run.extend_extend, Run.extend_extend] at hahead
        refine ⟨ho, ?_, hahead⟩
        rw [h.exchange_eq]
        exact hxs.cons_cons _
      | failed hn' he' =>
        rw [h.exchange_eq] at hd
        cases hd.symm.trans he'
    | failed hn he =>
      cases hs with
      | known hd' rest' => cases hn.symm.trans (h.more a _ hd')
      | prepared hn' hd' rest' =>
        rw [h.exchange_eq] at he
        cases he.symm.trans hd'
      | failed hn' he' =>
        have hahead := h.together hn
        rw [h.exchange_eq] at he hahead ⊢
        cases he.symm.trans he'
        exact ⟨rfl, List.Sublist.refl _, hahead⟩

/-- What a build shows besides its requests. -/
def Build.shown (build : Build) : Except BuildFailure String × List Event :=
  (build.result, build.events)

/-- A build that shows what another shows, for some of its requests in their order. -/
structure Build.Spares (build alone : Build) : Prop where
  result : build.result = alone.result
  events : build.events = alone.events
  requests : build.requests.Sublist alone.requests

namespace Bundle

variable {target : TargetSystem} {settings : Settings}

theorem build_spares (h : r.Ahead answer (Run.start target settings)) (b : Bundle) :
    (b.build (.forgetful answer) r).1.Spares
        (b.build (.forgetful answer) (Run.start target settings)).1 ∧
      (b.build (.forgetful answer) r).2.Ahead answer (Run.start target settings) := by
  have hsystem : r.context.system = target := h.system
  cases hp : target.platform with
  | error e =>
    rw [build_of_no_platform _ b (hsystem ▸ hp), build_of_no_platform _ b hp]
    exact ⟨⟨rfl, rfl, List.Sublist.refl _⟩, h⟩
  | ok p =>
    obtain ⟨xs, outcome, hc, hb⟩ := build_of_platform (.forgetful answer) b (hsystem ▸ hp)
    obtain ⟨ys, outcome', hc', hb'⟩ := build_of_platform (.forgetful answer) b
      (r := Run.start target settings) hp
    rw [hsystem] at hc
    obtain ⟨rfl, hxs, hahead⟩ := hc.compare hc' h
    rw [hb, hb']
    exact ⟨⟨rfl, rfl, hxs.map _⟩, hahead.start⟩

theorem buildAll_spares (h : r.Ahead answer (Run.start target settings)) (bundles : List Bundle) :
    List.Forall₂
      (fun b build => build.Spares (b.build (.forgetful answer) (Run.start target settings)).1)
      bundles (buildAll (.forgetful answer) bundles r).1 := by
  induction bundles generalizing r with
  | nil => exact .nil
  | cons b rest ih =>
    obtain ⟨hb, hrest⟩ := build_spares h b
    exact .cons hb (ih hrest)

theorem start_ahead (answer : Request → Reply) (target : TargetSystem) (settings : Settings) :
    (Run.start target settings).Ahead answer (Run.start target settings) := by
  refine ⟨rfl, rfl, Digests.Within.refl _, fun a d hd => ?_⟩
  rw [Run.digests_start] at hd
  contradiction

theorem shown_buildAll (answer : Request → Reply) (target : TargetSystem) (settings : Settings)
    (bundles : List Bundle) :
    (buildAll (.forgetful answer) bundles (Run.start target settings)).1.map Build.shown =
      bundles.map fun b =>
        (b.build (.forgetful answer) (Run.start target settings)).1.shown := by
  have h := buildAll_spares (start_ahead answer target settings) bundles
  generalize (buildAll (.forgetful answer) bundles (Run.start target settings)).1 = builds at h
  induction h with
  | nil => rfl
  | cons hb _ ih =>
    rw [List.map_cons, List.map_cons, ih]
    rw [Build.shown, Build.shown, hb.result, hb.events]

/-- With an agent that answers each request by itself, bundles built one after another in one
context give what each gives alone in a new one, for some of the requests that it has there.
So the order of the bundles is the order of the results and events. -/
theorem builds_spare_requests (answer : Request → Reply) (target : TargetSystem)
    (settings : Settings) (bundles : List Bundle) :
    let agent := Agent.forgetful answer
    let start := Run.start target settings
    List.Forall₂ (fun b build => build.Spares (b.build agent start).1)
      bundles (buildAll agent bundles start).1 ∧
    ∀ (σ : Equiv.Perm (Fin bundles.length)) (i : Fin bundles.length),
      ((buildAll agent (List.ofFn fun j => bundles.get (σ j)) start).1.map Build.shown)[i.val]? =
        ((buildAll agent bundles start).1.map Build.shown)[(σ i).val]? := by
  intro agent start
  refine ⟨buildAll_spares (start_ahead answer target settings) bundles, fun σ i => ?_⟩
  rw [shown_buildAll, shown_buildAll, List.getElem?_map, List.getElem?_map]
  congr 1
  rw [List.getElem?_ofFn, dif_pos i.isLt, List.getElem?_eq_getElem (σ i).isLt]
  rfl

end Bundle

end TorBundle
