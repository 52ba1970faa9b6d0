import TorBundle.Proofs.Build

/-!
# Builds one after another

A journal pairs each bundle of a run of builds with its build. The builds before a place in it
lead to the run that the build at this place starts from, and that run remembers them: every
exchange of theirs, every digest, and every success, which can be had again for nothing. The
start is a run that nothing has happened in.
-/

namespace TorBundle

namespace Bundle

variable {agent : Agent} {target : TargetSystem} {settings : Settings} {p : Platform}
  {past : List (Bundle × Build)} {r : Run}

/-- Each bundle with its build. -/
def journal (agent : Agent) (bundles : List Bundle) (r : Run) : List (Bundle × Build) :=
  bundles.zip (buildAll agent bundles r).1

/-- The run that the build with number `k` starts from. -/
def runBefore (agent : Agent) (bundles : List Bundle) (r : Run) (k : Nat) : Run :=
  (buildAll agent (bundles.take k) r).2

@[simp] theorem journal_nil (agent : Agent) (r : Run) : journal agent [] r = [] := rfl

theorem journal_cons (agent : Agent) (b : Bundle) (rest : List Bundle) (r : Run) :
    journal agent (b :: rest) r =
      (b, (b.build agent r).1) :: journal agent rest (b.build agent r).2 := rfl

theorem journal_bundles (agent : Agent) (bundles : List Bundle) (r : Run) :
    (journal agent bundles r).map Prod.fst = bundles := by
  induction bundles generalizing r with
  | nil => rfl
  | cons b rest ih => rw [journal_cons, List.map_cons, ih]

theorem journal_take (agent : Agent) (bundles : List Bundle) (r : Run) (k : Nat) :
    (journal agent bundles r).take k = journal agent (bundles.take k) r := by
  induction bundles generalizing r k with
  | nil => simp
  | cons b rest ih =>
    cases k with
    | zero => rfl
    | succ k => rw [List.take_succ_cons, journal_cons, journal_cons, List.take_succ_cons, ih]

/-- A build starts from the run that the builds before it led to, and leads to the next. -/
theorem journal_getElem? {bundles : List Bundle} {k : Nat} {b : Bundle} {build : Build}
    (h : (journal agent bundles r)[k]? = some (b, build)) :
    b.build agent (runBefore agent bundles r k) =
      (build, runBefore agent bundles r (k + 1)) := by
  induction bundles generalizing r k with
  | nil => simp at h
  | cons c rest ih =>
    rw [journal_cons] at h
    cases k with
    | zero =>
      rw [List.getElem?_cons_zero] at h
      cases Option.some.inj h
      rfl
    | succ k => exact ih h

/-- Some build of the past has prepared an artifact of a name. -/
def PreparedIn (past : List (Bundle × Build)) (name : String) : Prop :=
  ∃ e ∈ past, ∃ x ∈ e.2.exchanges, x.artifact.name = name ∧ x.Succeeded

/-- What the builds so far have left behind in the run that they led to. -/
structure LedTo (agent : Agent) (target : TargetSystem) (p : Platform)
    (past : List (Bundle × Build)) (r : Run) : Prop where
  system : r.context.system = target
  sent : r.exchanges = past.flatMap fun e => e.2.exchanges
  prepared : r.context.prepared = r.exchanges.filterMap Exchange.prepared?
  settings : ∀ x ∈ r.exchanges, x.request.settings = r.context.settings
  asked : ∀ e ∈ past, ∀ x ∈ e.2.exchanges, x.artifact ∈ (e.1.plan target p).asked r.digests
  once : r.exchanges.Pairwise fun x y => x.Succeeded → x.artifact ≠ y.artifact
  ended : ∀ e ∈ past, ∀ x ∈ e.2.exchanges, x.artifact.name = Bundle.name → x.Succeeded →
    ∃ d, e.2.result = .ok d
  replay : ∀ e ∈ past, ∀ d, e.2.result = .ok d →
    Plan.Course agent (e.1.plan target p) r [] (.ok d)

theorem ledTo_start (agent : Agent) (target : TargetSystem) (settings : Settings)
    (p : Platform) : LedTo agent target p [] (Run.start target settings) where
  system := rfl
  sent := rfl
  prepared := rfl
  settings := fun x hx => by contradiction
  asked := fun e he => by contradiction
  once := List.Pairwise.nil
  ended := fun e he => by contradiction
  replay := fun e he => by contradiction

theorem LedTo.mem_exchanges (h : LedTo agent target p past r) {x : Exchange} :
    x ∈ r.exchanges ↔ ∃ e ∈ past, x ∈ e.2.exchanges := by
  rw [h.sent, List.mem_flatMap]

/-- Whatever has been prepared came from an exchange of some build. -/
theorem LedTo.exchange_of_prepared (h : LedTo agent target p past r) {q : Prepared}
    (hq : q ∈ r.context.prepared) :
    ∃ e ∈ past, ∃ x ∈ e.2.exchanges, q.artifact = x.artifact ∧ x.Succeeded := by
  rw [h.prepared] at hq
  obtain ⟨x, hx, hxq⟩ := List.mem_filterMap.mp hq
  obtain ⟨ha, hd⟩ := Exchange.of_prepared? hxq
  obtain ⟨e, he, hxe⟩ := h.mem_exchanges.mp hx
  exact ⟨e, he, x, hxe, ha, _, hd⟩

/-- What an exchange of the past has prepared is known. -/
theorem LedTo.known (h : LedTo agent target p past r) {x : Exchange} (hx : x ∈ r.exchanges)
    (hs : x.Succeeded) : r.digests x.artifact ≠ none := by
  obtain ⟨d, hd⟩ := hs
  intro hn
  have hp : (⟨x.artifact, d⟩ : Prepared) ∈ r.context.prepared := by
    rw [h.prepared]
    exact List.mem_filterMap.mpr ⟨x, hx, Exchange.prepared?_of_ok hd⟩
  exact Run.digests_eq_none_iff.mp hn _ hp rfl

/-- One more build keeps all that the past has left. -/
theorem LedTo.build (hp : target.platform = .ok p) (h : LedTo agent target p past r)
    (b : Bundle) :
    LedTo agent target p (past ++ [(b, (b.build agent r).1)]) (b.build agent r).2 := by
  obtain ⟨xs, outcome, hc, hb⟩ := build_of_platform agent b (r := r) (h.system ▸ hp)
  rw [h.system] at hc
  rw [hb]
  have hw : r.digests.Within (r.extend xs).digests := r.digests_extend xs
  refine ⟨h.system, ?sent, ?prepared, ?settings, ?asked, ?once, ?ended, ?replay⟩
  case sent => simp [h.sent]
  case prepared => simp [h.prepared]
  case settings =>
    intro x hx
    rcases List.mem_append.mp hx with hx | hx
    · exact h.settings x hx
    · exact hc.settings x hx
  case asked =>
    intro e he x hx
    rcases List.mem_append.mp he with he | he
    · exact (Plan.asked_prefix hw _).subset (h.asked e he x hx)
    · obtain rfl := List.mem_singleton.mp he
      exact hc.sublist_asked.subset (List.mem_map_of_mem hx)
  case once =>
    refine List.pairwise_append.mpr ⟨h.once, hc.once, fun x hx y hy hs he => ?_⟩
    exact h.known hx hs (he ▸ hc.unknown y hy)
  case ended =>
    intro e he x hx hn hs
    rcases List.mem_append.mp he with he | he
    · exact h.ended e he x hx hn hs
    · obtain rfl := List.mem_singleton.mp he
      obtain ⟨d, hd⟩ := hs
      exact ⟨d, mapError_eq_ok.mpr ((outcome_of_exchange hc hx hn).trans hd)⟩
  case replay =>
    intro e he d hd
    rcases List.mem_append.mp he with he | he
    · exact (h.replay e he d hd).replay (by rwa [Run.extend_nil])
    · obtain rfl := List.mem_singleton.mp he
      obtain rfl := mapError_eq_ok.mp hd
      exact hc.replay (Digests.Within.refl _)

/-- So do any number of builds. -/
theorem LedTo.buildAll (hp : target.platform = .ok p) (h : LedTo agent target p past r)
    (bundles : List Bundle) :
    LedTo agent target p (past ++ journal agent bundles r) (Bundle.buildAll agent bundles r).2 := by
  induction bundles generalizing past r with
  | nil =>
    rw [journal_nil, List.append_nil]
    exact h
  | cons b rest ih =>
    rw [journal_cons, buildAll_cons, List.append_cons]
    exact ih (h.build hp b)

end Bundle

end TorBundle
