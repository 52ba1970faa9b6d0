import TorBundle.Proofs.Build

/-!
# Runs that go on alike

What a run has exchanged matters to it only through the answers of its agent. Two runs that know
the same, and whose agents answer the requests to come alike, go the same way from there. So the
requests of some build can be taken out of the agent's sight where that build has left no trace in
the context. Nothing is said here about which builds leave none.
-/

namespace TorBundle

variable {agent agent' : Agent} {past past' : List Request} {n : Nat}

/-- The agent that answers as if it had also got some requests, after the first `k`. -/
def Agent.skipping (agent : Agent) (k : Nat) (removed : List Request) : Agent := fun past q =>
  if past.length < k then agent past q
  else agent (past.take k ++ removed ++ past.drop k) q

/-- Two agents, each after its own past, answer the next `n` requests alike. -/
def Agent.Agree (agent agent' : Agent) (past past' : List Request) (n : Nat) : Prop :=
  ∀ later : List Request, later.length < n →
    ∀ q, agent' (past' ++ later) q = agent (past ++ later) q

namespace Agent.Agree

theorem head (h : agent.Agree agent' past past' (n + 1)) (q : Request) :
    agent' past' q = agent past q := by
  have hq := h [] (Nat.succ_pos n) q
  rwa [List.append_nil, List.append_nil] at hq

/-- They go on to agree after the same further requests. -/
theorem drop {m : Nat} {sent : List Request} (h : agent.Agree agent' past past' (m + n))
    (hm : sent.length = m) : agent.Agree agent' (past ++ sent) (past' ++ sent) n := by
  intro later hlater q
  rw [List.append_assoc, List.append_assoc]
  apply h
  rw [List.length_append, hm]
  omega

theorem take {m : Nat} (h : agent.Agree agent' past past' (n + m)) :
    agent.Agree agent' past past' n := by
  intro later hlater q
  exact h later (by omega) q

/-- Before the removed requests the agent that skips them is the agent itself. -/
theorem skipping_before (agent : Agent) (k : Nat) (removed : List Request) :
    agent.Agree (agent.skipping k removed) [] [] k := by
  intro later hlater q
  rw [List.nil_append, skipping, if_pos hlater]

theorem skipping_after (agent : Agent) (past removed : List Request) (n : Nat) :
    agent.Agree (agent.skipping past.length removed) (past ++ removed) past n := by
  intro later _ q
  have hlen : ¬(past ++ later).length < past.length := by
    rw [List.length_append]
    omega
  rw [skipping, if_neg hlen, List.take_left, List.drop_left]

end Agent.Agree

theorem Run.extend_context {r s : Run} (h : s.context = r.context) (xs : List Exchange) :
    (s.extend xs).context = (r.extend xs).context := by
  simp only [extend, h]

/-- The course of a plan is the same from any run that knows the same, where the agent there
answers the requests of the course alike. -/
theorem Plan.Course.elsewhere {α : Type} {p : Plan α} {r s : Run} {xs : List Exchange}
    {outcome : Except PreparationFailure α} (h : Plan.Course agent p r xs outcome)
    (hs : s.context = r.context) (ha : agent.Agree agent' r.requests s.requests xs.length) :
    Plan.Course agent' p s xs outcome := by
  induction h generalizing s with
  | done result r => exact .done result s
  | known hd rest ih =>
    refine .known ?_ (ih hs ha)
    rwa [Run.digests, hs]
  | @prepared a next r d xs outcome hn hd rest ih =>
    have hx : s.exchange agent' a = r.exchange agent a := by
      simp only [Run.exchange, hs, ha.head]
    have hns : s.digests a = none := by rwa [Run.digests, hs]
    rw [← hx] at hd ih ⊢
    refine .prepared hns hd (ih (Run.extend_context hs _) ?_)
    · rw [Run.extend_requests, Run.extend_requests]
      rw [List.length_cons, Nat.add_comm] at ha
      exact ha.drop rfl
  | @failed a next r e hn he =>
    have hx : s.exchange agent' a = r.exchange agent a := by
      simp only [Run.exchange, hs, ha.head]
    have hns : s.digests a = none := by rwa [Run.digests, hs]
    rw [← hx] at he ⊢
    exact .failed hns he

namespace Bundle

variable {r s : Run}

theorem build_run (agent : Agent) (b : Bundle) (r : Run) :
    (b.build agent r).2 = r.extend (b.build agent r).1.exchanges := by
  cases hp : r.context.system.platform with
  | error e => rw [build_of_no_platform agent b hp, Run.extend_nil]
  | ok p =>
    obtain ⟨xs, outcome, _, hb⟩ := build_of_platform agent b hp
    rw [hb]

theorem build_requests (agent : Agent) (b : Bundle) (r : Run) :
    (b.build agent r).2.requests = r.requests ++ (b.build agent r).1.requests := by
  rw [build_run, Run.extend_requests]
  rfl

theorem build_elsewhere {b : Bundle} (hs : s.context = r.context)
    (ha : agent.Agree agent' r.requests s.requests (b.build agent r).1.exchanges.length) :
    b.build agent' s =
      ((b.build agent r).1, s.extend (b.build agent r).1.exchanges) := by
  cases hp : r.context.system.platform with
  | error e =>
    rw [build_of_no_platform agent b hp, build_of_no_platform agent' b (hs ▸ hp), Run.extend_nil]
  | ok p =>
    obtain ⟨xs, outcome, hc, hb⟩ := build_of_platform agent b hp
    obtain ⟨ys, outcome', hc', hb'⟩ := build_of_platform agent' b (r := s) (hs ▸ hp)
    rw [hb] at ha
    have hcs := hc.elsewhere hs ha
    rw [hs] at hc'
    obtain ⟨rfl, rfl⟩ := hc'.unique hcs
    rw [hb, hb']

def exchangesOf (builds : List Build) : List Exchange := builds.flatMap Build.exchanges

theorem buildAll_append (agent : Agent) (bundles more : List Bundle) (r : Run) :
    buildAll agent (bundles ++ more) r =
      ((buildAll agent bundles r).1 ++ (buildAll agent more (buildAll agent bundles r).2).1,
        (buildAll agent more (buildAll agent bundles r).2).2) := by
  induction bundles generalizing r with
  | nil => rfl
  | cons b rest ih => rw [List.cons_append, buildAll_cons, ih, buildAll_cons, List.cons_append]

theorem buildAll_length (agent : Agent) (bundles : List Bundle) (r : Run) :
    (buildAll agent bundles r).1.length = bundles.length := by
  induction bundles generalizing r with
  | nil => rfl
  | cons b rest ih => rw [buildAll_cons, List.length_cons, ih, List.length_cons]

theorem buildAll_run (agent : Agent) (bundles : List Bundle) (r : Run) :
    (buildAll agent bundles r).2 = r.extend (exchangesOf (buildAll agent bundles r).1) := by
  induction bundles generalizing r with
  | nil => exact r.extend_nil.symm
  | cons b rest ih =>
    rw [buildAll_cons, ih, build_run, Run.extend_extend]
    rfl

/-- Any number of builds is the same from any run that knows the same, where the agent there
answers their requests alike. -/
theorem buildAll_elsewhere {bundles : List Bundle} (hs : s.context = r.context)
    (ha : agent.Agree agent' r.requests s.requests
      (exchangesOf (buildAll agent bundles r).1).length) :
    buildAll agent' bundles s =
      ((buildAll agent bundles r).1, s.extend (exchangesOf (buildAll agent bundles r).1)) := by
  induction bundles generalizing r s with
  | nil => exact congrArg (Prod.mk []) s.extend_nil.symm
  | cons b rest ih =>
    have hall : exchangesOf (buildAll agent (b :: rest) r).1 =
        (b.build agent r).1.exchanges ++
          exchangesOf (buildAll agent rest (b.build agent r).2).1 := rfl
    rw [hall, List.length_append] at ha
    have hb := build_elsewhere hs ha.take
    have hrest := @ih (b.build agent r).2 (s.extend (b.build agent r).1.exchanges) ?_ ?_
    · rw [buildAll_cons, hb, hrest, hall, Run.extend_extend, buildAll_cons]
    · rw [build_run]
      exact Run.extend_context hs _
    · rw [build_requests, Run.extend_requests]
      exact ha.drop (List.length_map _)

/-- A build that leaves the context as it is can be taken out of a run, if the agent does not see
its requests either. -/
theorem buildAll_remove (agent : Agent) (earlier later : List Bundle) (b : Bundle)
    (target : TargetSystem) (settings : Settings)
    (h : (b.build agent (buildAll agent earlier (Run.start target settings)).2).2.context =
      (buildAll agent earlier (Run.start target settings)).2.context) :
    let start := Run.start target settings
    let before := (buildAll agent earlier start).2
    let removed := (b.build agent before).1.requests
    let whole := buildAll agent (earlier ++ b :: later) start
    let without := buildAll (agent.skipping before.requests.length removed) (earlier ++ later) start
    without.1 = whole.1.eraseIdx earlier.length ∧ without.2.context = whole.2.context := by
  intro start before removed whole without
  have hsent : before.requests.length = (exchangesOf (buildAll agent earlier start).1).length := by
    simp only [before, buildAll_run, Run.extend_requests, List.length_append, List.length_map]
    exact Nat.zero_add _
  have hearlier : buildAll (agent.skipping before.requests.length removed) earlier start =
      buildAll agent earlier start := by
    have hagree := Agent.Agree.skipping_before agent before.requests.length removed
    rw [hsent] at hagree ⊢
    rw [buildAll_elsewhere rfl hagree, ← buildAll_run]
  have hlater : buildAll (agent.skipping before.requests.length removed) later before =
      ((buildAll agent later (b.build agent before).2).1,
        before.extend (exchangesOf (buildAll agent later (b.build agent before).2).1)) := by
    apply buildAll_elsewhere h.symm
    rw [build_requests]
    exact Agent.Agree.skipping_after agent before.requests removed _
  have hwhole : whole = _ := buildAll_append agent earlier (b :: later) start
  have hwithout : without = _ := buildAll_append _ earlier later start
  rw [hearlier, hlater] at hwithout
  rw [buildAll_cons] at hwhole
  rw [hwhole, hwithout]
  constructor
  · rw [List.eraseIdx_append_of_length_le (Nat.le_of_eq (buildAll_length agent earlier start)),
      buildAll_length, Nat.sub_self, List.eraseIdx_cons_zero]
  · rw [buildAll_run]
    exact Run.extend_context h.symm _

end Bundle

end TorBundle
