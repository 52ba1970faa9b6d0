import TorBundle.Proofs.Rules

/-!
# Plans and their courses

A plan says which artifact to prepare next, given the digests of those before. What a run does
is a plan carried out, so whatever is said about the course of a plan is said about the run. A
course is followed case by case: the artifact is known, or the exchange about it ends well, or
that exchange fails and ends the course. Agents are arbitrary throughout, and of the preparation
of artifacts nothing is used but its rules.
-/

namespace TorBundle

/-- Artifacts to prepare one after another, each of which may hold the digests so far. -/
inductive Plan (α : Type) where
  | done (result : α)
  | ask (a : Artifact) (next : String → Plan α)

namespace Plan

variable {α β : Type} {agent : Agent} {provide : Artifact → Preparing String}
  {makeStep : TargetSystem → String → Preparing Artifact.Step} {r s : Run} {xs ys : List Exchange}

def bind : Plan α → (α → Plan β) → Plan β
  | .done result, f => f result
  | .ask a next, f => .ask a fun d => (next d).bind f

def carryOut (provide : Artifact → Preparing String) : Plan α → Preparing α
  | .done result => pure result
  | .ask a next => do carryOut provide (next (← provide a))

/-- The artifacts that are asked for, as far as the digests of those before are known. -/
def asked (known : Digests) : Plan α → List Artifact
  | .done _ => []
  | .ask a next =>
    a :: match known a with
      | some d => (next d).asked known
      | none => []

/-- The result, where all digests on the way to it are known. -/
def result? (known : Digests) : Plan α → Option α
  | .done result => some result
  | .ask a next => (known a).bind fun d => (next d).result? known

theorem carryOut_bind (p : Plan α) (f : α → Plan β) :
    (p.bind f).carryOut provide = p.carryOut provide >>= fun a => (f a).carryOut provide := by
  induction p with
  | done result => simp [bind, carryOut]
  | ask a next ih => simp [bind, carryOut, ih]

theorem asked_bind (known : Digests) (p : Plan α) (f : α → Plan β) :
    (p.bind f).asked known = p.asked known ++
      match p.result? known with
      | some a => (f a).asked known
      | none => [] := by
  induction p with
  | done result => simp [bind, asked, result?]
  | ask a next ih =>
    cases h : known a with
    | none => simp [bind, asked, result?, h]
    | some d => simp [bind, asked, result?, h, ih]

/-- What is asked for on less knowledge is the beginning of what is asked for on more. -/
theorem asked_prefix {known more : Digests} (h : known.Within more) (p : Plan α) :
    p.asked known <+: p.asked more := by
  induction p with
  | done result => exact List.prefix_refl _
  | ask a next ih =>
    simp only [asked, List.cons_prefix_cons, true_and]
    cases ha : known a with
    | none => exact List.nil_prefix
    | some d =>
      rw [h a d ha]
      exact ih d

/-- What a plan does to a run: its exchanges in order, and how it ends. -/
inductive Course (agent : Agent) :
    Plan α → Run → List Exchange → Except PreparationFailure α → Prop where
  | done (result : α) (r : Run) : Course agent (.done result) r [] (.ok result)
  | known {a next r d xs outcome} (hd : r.digests a = some d)
      (rest : Course agent (next d) r xs outcome) :
      Course agent (.ask a next) r xs outcome
  | prepared {a next r d xs outcome} (hn : r.digests a = none)
      (hd : (r.exchange agent a).reply.digest = .ok d)
      (rest : Course agent (next d) (r.extend [r.exchange agent a]) xs outcome) :
      Course agent (.ask a next) r (r.exchange agent a :: xs) outcome
  | failed {a next r e} (hn : r.digests a = none)
      (he : (r.exchange agent a).reply.digest = .error e) :
      Course agent (.ask a next) r [r.exchange agent a] (.error e)

theorem exists_course (agent : Agent) (p : Plan α) (r : Run) :
    ∃ xs outcome, Course agent p r xs outcome := by
  induction p generalizing r with
  | done result => exact ⟨[], .ok result, .done result r⟩
  | ask a next ih =>
    cases hk : r.digests a with
    | some d =>
      obtain ⟨xs, outcome, h⟩ := ih d r
      exact ⟨xs, outcome, .known hk h⟩
    | none =>
      cases hx : (r.exchange agent a).reply.digest with
      | error e => exact ⟨_, _, .failed hk hx⟩
      | ok d =>
        obtain ⟨xs, outcome, h⟩ := ih d (r.extend [r.exchange agent a])
        exact ⟨_, outcome, .prepared hk hx h⟩

/-- The course of a plan is what carrying it out amounts to. -/
theorem Course.carryOut (rules : PreparationRules agent provide makeStep) {p : Plan α}
    {outcome : Except PreparationFailure α} (h : Course agent p r xs outcome) :
    (p.carryOut provide).run r = (outcome, r.extend xs) := by
  induction h with
  | done result r => simp [Plan.carryOut]
  | known hd rest ih =>
    rw [Plan.carryOut, Preparing.run_bind_of_ok (rules.known hd)]
    exact ih
  | @prepared a next r d xs outcome hn hd rest ih =>
    have hrun := rules.run_of_unknown hn
    rw [hd] at hrun
    rw [Plan.carryOut, Preparing.run_bind_of_ok hrun, ih, Run.extend_extend]
    rfl
  | @failed a next r e hn he =>
    have hrun := rules.run_of_unknown hn
    rw [he] at hrun
    rw [Plan.carryOut, Preparing.run_bind_of_error hrun]

theorem course_of_carryOut (rules : PreparationRules agent provide makeStep) (p : Plan α)
    (r : Run) :
    ∃ xs, Course agent p r xs ((p.carryOut provide).run r).1 ∧
      ((p.carryOut provide).run r).2 = r.extend xs := by
  obtain ⟨xs, outcome, h⟩ := exists_course agent p r
  rw [h.carryOut rules]
  exact ⟨xs, h, rfl⟩

namespace Course

theorem unique {p : Plan α} {outcome outcome' : Except PreparationFailure α}
    (h : Course agent p r xs outcome) (h' : Course agent p r ys outcome') :
    xs = ys ∧ outcome = outcome' := by
  have he := (h.carryOut (preparationRules agent)).symm.trans (h'.carryOut (preparationRules agent))
  have hx : r.exchanges ++ xs = r.exchanges ++ ys :=
    congrArg (fun o => o.2.exchanges) he
  exact ⟨List.append_cancel_left hx, congrArg Prod.fst he⟩

/-- The course of two plans in a row ends in the first, or goes on with the second. -/
theorem of_bind {p : Plan α} {f : α → Plan β} {outcome : Except PreparationFailure β}
    (h : Course agent (p.bind f) r xs outcome) :
    (∃ e, outcome = .error e ∧ Course agent p r xs (.error e)) ∨
    ∃ a ys zs, xs = ys ++ zs ∧ Course agent p r ys (.ok a) ∧
      Course agent (f a) (r.extend ys) zs outcome := by
  induction p generalizing r xs with
  | done result => exact .inr ⟨result, [], xs, rfl, .done result r, by rwa [Run.extend_nil]⟩
  | ask a next ih =>
    cases h with
    | known hd rest =>
      rcases ih _ rest with ⟨e, he, hp⟩ | ⟨b, ys, zs, rfl, hp, hf⟩
      · exact .inl ⟨e, he, .known hd hp⟩
      · exact .inr ⟨b, ys, zs, rfl, .known hd hp, hf⟩
    | prepared hn hd rest =>
      rcases ih _ rest with ⟨e, he, hp⟩ | ⟨b, ys, zs, rfl, hp, hf⟩
      · exact .inl ⟨e, he, .prepared hn hd hp⟩
      · rw [Run.extend_extend] at hf
        exact .inr ⟨b, _, zs, rfl, .prepared hn hd hp, hf⟩
    | failed hn he => exact .inl ⟨_, rfl, .failed hn he⟩

/-- A single artifact is known, or costs one exchange that decides on the outcome. -/
theorem of_ask {a : Artifact} {outcome : Except PreparationFailure String}
    (h : Course agent (.ask a .done) r xs outcome) :
    (xs = [] ∧ ∃ d, r.digests a = some d ∧ outcome = .ok d) ∨
    (r.digests a = none ∧ xs = [r.exchange agent a] ∧
      outcome = (r.exchange agent a).reply.digest) := by
  cases h with
  | known hd rest => cases rest; exact .inl ⟨rfl, _, hd, rfl⟩
  | prepared hn hd rest => cases rest; exact .inr ⟨hn, rfl, hd.symm⟩
  | failed hn he => exact .inr ⟨hn, rfl, he.symm⟩

variable {p : Plan α} {outcome : Except PreparationFailure α}

theorem settings (h : Course agent p r xs outcome) :
    ∀ x ∈ xs, x.request.settings = r.context.settings := by
  induction h with
  | done => intro x hx; contradiction
  | known hd rest ih => exact ih
  | prepared hn hd rest ih => exact List.forall_mem_cons.mpr ⟨rfl, ih⟩
  | failed hn he => exact List.forall_mem_cons.mpr ⟨rfl, fun x hx => by contradiction⟩

/-- Nothing that was known before is asked for. -/
theorem unknown (h : Course agent p r xs outcome) : ∀ x ∈ xs, r.digests x.artifact = none := by
  induction h with
  | done => intro x hx; contradiction
  | known hd rest ih => exact ih
  | @prepared a next r d xs outcome hn hd rest ih =>
    refine List.forall_mem_cons.mpr ⟨hn, fun x hx => ?_⟩
    cases hk : r.digests x.artifact with
    | none => rfl
    | some c =>
      have hc := r.digests_extend [r.exchange agent a] _ _ hk
      rw [ih x hx] at hc
      contradiction
  | failed hn he => exact List.forall_mem_cons.mpr ⟨hn, fun x hx => by contradiction⟩

theorem once (h : Course agent p r xs outcome) :
    xs.Pairwise fun x y => x.Succeeded → x.artifact ≠ y.artifact := by
  induction h with
  | done => exact List.Pairwise.nil
  | known hd rest ih => exact ih
  | @prepared a next r d xs outcome hn hd rest ih =>
    refine List.pairwise_cons.mpr ⟨fun y hy _ he => ?_, ih⟩
    have hk := Run.digests_extend_self (r := r) (x := r.exchange agent a) hn hd
    rw [he, rest.unknown y hy] at hk
    contradiction
  | failed hn he => exact List.pairwise_singleton _ _

/-- The requests are among what the plan asks for on all that is known at the end, in its order. -/
theorem sublist_asked (h : Course agent p r xs outcome) :
    (xs.map Exchange.artifact).Sublist (p.asked (r.extend xs).digests) := by
  induction h with
  | done => exact List.Sublist.refl _
  | @known a next r d xs outcome hd rest ih =>
    simp only [asked, r.digests_extend xs a d hd]
    exact ih.cons a
  | @prepared a next r d xs outcome hn hd rest ih =>
    have hk : (r.extend (r.exchange agent a :: xs)).digests a = some d :=
      Run.digests_extend_cons xs hn hd
    rw [Run.extend_extend] at ih
    simp only [asked, List.map_cons, hk]
    exact ih.cons_cons a
  | @failed a next r e hn he =>
    simp only [asked]
    exact (List.nil_sublist _).cons_cons a

/-- Whatever is asked for and was not known costs a request. -/
theorem mem_of_asked (h : Course agent p r xs outcome) {a : Artifact}
    (ha : a ∈ p.asked (r.extend xs).digests) (hn : r.digests a = none) :
    a ∈ xs.map Exchange.artifact := by
  induction h with
  | done => contradiction
  | @known b next r d xs outcome hd rest ih =>
    simp only [asked, r.digests_extend xs b d hd] at ha
    rcases List.mem_cons.mp ha with rfl | ha
    · rw [hd] at hn
      contradiction
    · exact ih ha hn
  | @prepared b next r d xs outcome hn' hd rest ih =>
    have hk : (r.extend (r.exchange agent b :: xs)).digests b = some d :=
      Run.digests_extend_cons xs hn' hd
    rw [Run.extend_extend] at ih
    simp only [asked, hk] at ha
    by_cases hb : a = b
    · subst hb
      exact List.mem_cons_self
    · have ha' : a ∈ (next d).asked (r.extend (r.exchange agent b :: xs)).digests :=
        (List.mem_cons.mp ha).resolve_left hb
      refine List.mem_cons_of_mem _ (ih ha' ?_)
      rw [Run.digests_extend_other (x := r.exchange agent b) (Ne.symm hb)]
      exact hn
  | @failed b next r e hn' he =>
    have hk : (r.extend [r.exchange agent b]).digests b = none := by
      rw [← Run.after_eq he]
      exact hn'
    simp only [asked, hk] at ha
    exact ha

/-- A course costs a request for exactly what is asked for and was not known before. -/
theorem mem_artifacts_iff (h : Course agent p r xs outcome) {a : Artifact} :
    a ∈ xs.map Exchange.artifact ↔
      a ∈ p.asked (r.extend xs).digests ∧ r.digests a = none := by
  constructor
  · intro ha
    refine ⟨h.sublist_asked.subset ha, ?_⟩
    obtain ⟨x, hx, rfl⟩ := List.mem_map.mp ha
    exact h.unknown x hx
  · rintro ⟨ha, hn⟩
    exact h.mem_of_asked ha hn

/-- Once a plan has succeeded it costs nothing more: it gives the same again from any run that
knows what was known at its end. -/
theorem replay {v : α} (h : Course agent p r xs (.ok v))
    (hs : (r.extend xs).digests.Within s.digests) : Course agent p s [] (.ok v) := by
  generalize ho : Except.ok v = outcome at h
  induction h with
  | done result r => cases ho; exact .done v s
  | @known a next r d xs outcome hd rest ih =>
    exact .known (hs a d (r.digests_extend xs a d hd)) (ih hs ho)
  | @prepared a next r d xs outcome hn hd rest ih =>
    rw [Run.extend_extend] at ih
    exact .known (hs a d (Run.digests_extend_cons xs hn hd)) (ih hs ho)
  | failed hn he => cases ho

end Course

end Plan

end TorBundle
