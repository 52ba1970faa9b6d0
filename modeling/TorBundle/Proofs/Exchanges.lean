import TorBundle.Preparation

/-!
# What exchanges make known

A run that goes on adds exchanges to its end, and each of them that ended well makes one
artifact known. An artifact keeps the digest that it got first. Nothing is said here about
which exchanges a piece of work has.
-/

namespace TorBundle

/-- Where the digests of artifacts are looked up. -/
abbrev Digests := Artifact → Option String

/-- Whatever the first source tells, the second tells too. -/
def Digests.Within (known more : Digests) : Prop :=
  ∀ a d, known a = some d → more a = some d

theorem Digests.Within.refl (known : Digests) : known.Within known := fun _ _ h => h

namespace Exchange

/-- The artifact that is asked for. -/
def artifact (x : Exchange) : Artifact := x.request.artifact

def Succeeded (x : Exchange) : Prop := ∃ d, x.reply.digest = .ok d

/-- What an exchange makes known. -/
def prepared? (x : Exchange) : Option Prepared :=
  match x.reply.digest with
  | .ok d => some ⟨x.artifact, d⟩
  | .error _ => none

theorem prepared?_of_ok {x : Exchange} {d : String} (h : x.reply.digest = .ok d) :
    x.prepared? = some ⟨x.artifact, d⟩ := by
  simp [prepared?, h]

theorem prepared?_of_error {x : Exchange} {e : PreparationFailure}
    (h : x.reply.digest = .error e) : x.prepared? = none := by
  simp [prepared?, h]

theorem of_prepared? {x : Exchange} {p : Prepared} (h : x.prepared? = some p) :
    p.artifact = x.artifact ∧ x.reply.digest = .ok p.digest := by
  unfold prepared? at h
  cases hd : x.reply.digest with
  | error e => rw [hd] at h; contradiction
  | ok d =>
    rw [hd] at h
    obtain rfl := Option.some.inj h
    exact ⟨rfl, rfl⟩

end Exchange

namespace Run

/-- The digests that a run knows. -/
def digests (r : Run) : Digests := r.context.digest?

/-- The run after further exchanges. -/
def extend (r : Run) (xs : List Exchange) : Run where
  context :=
    { r.context with prepared := r.context.prepared ++ xs.filterMap Exchange.prepared? }
  exchanges := r.exchanges ++ xs

@[simp] theorem extend_system (r : Run) (xs : List Exchange) :
    (r.extend xs).context.system = r.context.system := rfl

@[simp] theorem extend_settings (r : Run) (xs : List Exchange) :
    (r.extend xs).context.settings = r.context.settings := rfl

@[simp] theorem extend_exchanges (r : Run) (xs : List Exchange) :
    (r.extend xs).exchanges = r.exchanges ++ xs := rfl

@[simp] theorem extend_prepared (r : Run) (xs : List Exchange) :
    (r.extend xs).context.prepared =
      r.context.prepared ++ xs.filterMap Exchange.prepared? := rfl

@[simp] theorem extend_requests (r : Run) (xs : List Exchange) :
    (r.extend xs).requests = r.requests ++ xs.map Exchange.request := by
  simp [requests]

@[simp] theorem extend_nil (r : Run) : r.extend [] = r := by
  simp [extend]

@[simp] theorem extend_extend (r : Run) (xs ys : List Exchange) :
    (r.extend xs).extend ys = r.extend (xs ++ ys) := by
  simp [extend]

@[simp] theorem exchange_artifact (r : Run) (agent : Agent) (a : Artifact) :
    (r.exchange agent a).artifact = a := rfl

theorem after_record {r : Run} {x : Exchange} {d : String} (h : x.reply.digest = .ok d) :
    (r.after x).record x.artifact d = r.extend [x] := by
  simp [after, record, Context.record, extend, Exchange.prepared?_of_ok h]

theorem after_eq {r : Run} {x : Exchange} {e : PreparationFailure}
    (h : x.reply.digest = .error e) : r.after x = r.extend [x] := by
  simp [after, extend, Exchange.prepared?_of_error h]

/-- What is known stays known under the same digest. -/
theorem digests_extend (r : Run) (xs : List Exchange) : r.digests.Within (r.extend xs).digests := by
  intro a d h
  simp only [digests, Context.digest?, Option.map_eq_some_iff] at h ⊢
  obtain ⟨p, hp, hd⟩ := h
  refine ⟨p, ?_, hd⟩
  rw [extend_prepared, List.find?_append, hp, Option.some_or]

/-- An exchange that ended well makes its artifact known if it was not. -/
theorem digests_extend_self {r : Run} {x : Exchange} {d : String}
    (hn : r.digests x.artifact = none) (hd : x.reply.digest = .ok d) :
    (r.extend [x]).digests x.artifact = some d := by
  simp only [digests, Context.digest?, Option.map_eq_none_iff] at hn
  simp [digests, Context.digest?, List.find?_append, hn, Exchange.prepared?_of_ok hd]

/-- It stays known whatever follows. -/
theorem digests_extend_cons {r : Run} {x : Exchange} {d : String} (xs : List Exchange)
    (hn : r.digests x.artifact = none) (hd : x.reply.digest = .ok d) :
    (r.extend (x :: xs)).digests x.artifact = some d := by
  have h := (r.extend [x]).digests_extend xs _ _ (digests_extend_self hn hd)
  rwa [extend_extend] at h

/-- A single exchange makes nothing known but its own artifact. -/
theorem digests_extend_other {r : Run} {x : Exchange} {a : Artifact} (h : x.artifact ≠ a) :
    (r.extend [x]).digests a = r.digests a := by
  have hx : (List.filterMap Exchange.prepared? [x]).find? (fun p => p.artifact == a) = none := by
    rw [List.find?_eq_none]
    intro p hp
    obtain ⟨y, hy, hpy⟩ := List.mem_filterMap.mp hp
    obtain rfl := List.mem_singleton.mp hy
    rw [(Exchange.of_prepared? hpy).1]
    simpa using h
  simp only [digests, Context.digest?, extend_prepared, List.find?_append]
  rw [hx, Option.or_none]

theorem digests_extend_cases {r : Run} {x : Exchange} {a : Artifact} {d : String}
    (h : (r.extend [x]).digests a = some d) :
    r.digests a = some d ∨ (x.artifact = a ∧ x.reply.digest = .ok d) := by
  by_cases ha : x.artifact = a
  · subst ha
    cases hk : r.digests x.artifact with
    | some c =>
      rw [r.digests_extend [x] _ _ hk] at h
      exact .inl h
    | none =>
      cases hx : x.reply.digest with
      | ok c =>
        rw [digests_extend_self hk hx] at h
        exact .inr ⟨rfl, congrArg Except.ok (Option.some.inj h)⟩
      | error e =>
        rw [← after_eq hx] at h
        exact absurd (hk.symm.trans h) nofun
  · rw [digests_extend_other ha] at h
    exact .inl h

/-- An artifact is known exactly when something has been prepared that is identical to it. -/
theorem digests_eq_none_iff {r : Run} {a : Artifact} :
    r.digests a = none ↔ ∀ p ∈ r.context.prepared, p.artifact ≠ a := by
  simp [digests, Context.digest?]

theorem mem_prepared_of_digests {r : Run} {a : Artifact} {d : String} (h : r.digests a = some d) :
    ∃ p ∈ r.context.prepared, p.artifact = a := by
  obtain ⟨p, hp, _⟩ := Option.map_eq_some_iff.mp h
  exact ⟨p, List.mem_of_find?_eq_some hp, by simpa using List.find?_some hp⟩

@[simp] theorem digests_start (target : TargetSystem) (settings : Settings) (a : Artifact) :
    (Run.start target settings).digests a = none := rfl

end Run

end TorBundle
