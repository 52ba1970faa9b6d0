import TorBundle.Proofs.History

/-!
# Clones

A clone holds what its original holds, and no step ever changes a filled slot. So a later step may
name either of the two: two sessions that differ only in that are answered alike, step by step, and
tell the same events. The questions that were asked are kept by the slot that they went to, and
there the two sessions differ; but these slots hold nothing whose questions a step can ask about.
Strategies of the caller's own cannot be cloned, so nothing is said of copies of them.
-/

namespace TorBundle

namespace Session

/-- What can be cloned is what can be compared. -/
def Slot.Cloneable : Slot → Prop
  | .release _ | .platform _ => True
  | .empty | .table _ => False

/-- Two slots are filled with the same, which can be cloned. -/
def State.Twins (s : State) (i j : Nat) : Prop :=
  ∃ slot : Slot, slot.Cloneable ∧ s.slots[i]? = some slot ∧ s.slots[j]? = some slot

/-- A slot number that stays, or is changed from `i` to `j`. -/
def Led (i j a b : Nat) : Prop := b = a ∨ a = i ∧ b = j

/-- A reference that stays, or is led from slot `i` to slot `j`. -/
def Ref.Redirected (i j : Nat) (ref ref' : Ref) : Prop :=
  ref' = ref ∨ ref = some i ∧ ref' = some j

/-- A step, any of whose references to slot `i` are led to slot `j`. -/
inductive Step.Redirected (i j : Nat) : Step → Step → Prop where
  | release (made : Release) : Redirected i j (.release made) (.release made)
  | table (made : Strategy.Table) : Redirected i j (.table made) (.table made)
  | platform (designation : Platform.Designation) :
      Redirected i j (.platform designation) (.platform designation)
  | clone {of of' : Ref} (h : Ref.Redirected i j of of') : Redirected i j (.clone of) (.clone of')
  | base {of of' : Ref} (h : Ref.Redirected i j of of') : Redirected i j (.base of) (.base of')
  | file {of of' platform platform' : Ref} (h : Ref.Redirected i j of of')
      (hp : Ref.Redirected i j platform platform') :
      Redirected i j (.file of platform) (.file of' platform')
  | url {of of' platform platform' : Ref} (h : Ref.Redirected i j of of')
      (hp : Ref.Redirected i j platform platform') :
      Redirected i j (.url of platform) (.url of' platform')
  | equal {a a' b b' : Ref} (ha : Ref.Redirected i j a a') (hb : Ref.Redirected i j b b') :
      Redirected i j (.equal a b) (.equal a' b')
  | count : Redirected i j .count .count
  | calls {of of' : Ref} (h : Ref.Redirected i j of of') : Redirected i j (.calls of) (.calls of')
  | unreadable (field : String) : Redirected i j (.unreadable field) (.unreadable field)

/-- The questions among some calls that went to a slot. -/
def callsOf (k : Nat) (calls : List (Nat × Strategy.Call)) : List Strategy.Call :=
  (calls.filter (·.1 == k)).map (·.2)

/-- Two states that are the same but for the questions that went to two slots. -/
structure State.Like (i j : Nat) (s t : State) : Prop where
  slots : t.slots = s.slots
  events : t.events = s.events
  answers : t.answers = s.answers
  calls : ∀ k, k ≠ i → k ≠ j → callsOf k t.calls = callsOf k s.calls

/-- Two effects that are the same but for the questions that went to two slots. -/
structure Effect.Like (i j : Nat) (e e' : Effect) : Prop where
  answer : e'.answer = e.answer
  slot : e'.slot = e.slot
  events : e'.events = e.events
  calls : ∀ k, k ≠ i → k ≠ j → callsOf k e'.calls = callsOf k e.calls

/-- Two results that are refused alike, or both come about and are related. -/
inductive Both {α β : Type} (R : α → β → Prop) : Except Refusal α → Except Refusal β → Prop where
  | ok {a : α} {b : β} (h : R a b) : Both R (.ok a) (.ok b)
  | error (refusal : Refusal) : Both R (.error refusal) (.error refusal)

variable {i j k : Nat} {s t : State} {x y : Step}

theorem Both.bind {α β γ δ : Type} {R : α → β → Prop} {S : γ → δ → Prop} {m : Except Refusal α}
    {n : Except Refusal β} {f : α → Except Refusal γ} {g : β → Except Refusal δ} (h : Both R m n)
    (hfg : ∀ a b, R a b → Both S (f a) (g b)) : Both S (m >>= f) (n >>= g) := by
  cases h with
  | ok hab => exact hfg _ _ hab
  | error refusal => exact .error refusal

@[simp] theorem callsOf_append (k : Nat) (calls later : List (Nat × Strategy.Call)) :
    callsOf k (calls ++ later) = callsOf k calls ++ callsOf k later := by
  simp [callsOf]

/-- Questions that are led elsewhere are none of the other slots' concern. -/
theorem callsOf_led {a b : Nat} (h : Led i j a b) (hi : k ≠ i) (hj : k ≠ j)
    (calls : List Strategy.Call) : callsOf k (calls.map (b, ·)) = callsOf k (calls.map (a, ·)) := by
  rcases h with rfl | ⟨rfl, rfl⟩
  · rfl
  · have ha : (a == k) = false := beq_eq_false_iff_ne.mpr hi.symm
    have hb : (b == k) = false := beq_eq_false_iff_ne.mpr hj.symm
    simp [callsOf, List.filter_map, Function.comp_def, ha, hb]

theorem Effect.Like.refl (e : Effect) : Effect.Like i j e e := ⟨rfl, rfl, rfl, fun _ _ _ => rfl⟩

theorem State.Like.refl (s : State) : State.Like i j s s := ⟨rfl, rfl, rfl, fun _ _ _ => rfl⟩

namespace State

theorem slotAt_of_getElem? {slot : Slot} {a : Nat} (h : s.slots[a]? = some slot) (field : String) :
    s.slotAt field (some a) = .ok (a, slot) := by
  simp only [slotAt, h]

theorem slotAt_congr (h : t.slots = s.slots) (field : String) (ref : Ref) :
    t.slotAt field ref = s.slotAt field ref := by
  simp only [slotAt, h]

/-- What two references have led to. -/
structure Met (s : State) (i j : Nat) (a b : Nat × Slot) : Prop where
  slot : b.2 = a.2
  held : s.slots[a.1]? = some a.2
  place : Led i j a.1 b.1

theorem Twins.not_table (h : s.Twins i j) {made : Strategy.Table}
    (hk : s.slots[k]? = some (.table made)) : k ≠ i ∧ k ≠ j := by
  obtain ⟨slot, hslot, hi, hj⟩ := h
  constructor
  · rintro rfl
    cases hi.symm.trans hk
    exact hslot
  · rintro rfl
    cases hj.symm.trans hk
    exact hslot

namespace Like

theorem slotAt (h : Like i j s t) (hij : s.Twins i j) {ref ref' : Ref}
    (hr : Ref.Redirected i j ref ref') (field : String) :
    Both (Met s i j) (s.slotAt field ref) (t.slotAt field ref') := by
  rw [slotAt_congr h.slots]
  rcases hr with rfl | ⟨rfl, rfl⟩
  · cases hs : s.slotAt field ref' with
    | error refusal => exact .error refusal
    | ok found => exact .ok ⟨rfl, (of_slotAt hs).2, .inl rfl⟩
  · obtain ⟨slot, -, hi, hj⟩ := hij
    rw [slotAt_of_getElem? hi, slotAt_of_getElem? hj]
    exact .ok ⟨rfl, hi, .inr ⟨rfl, rfl⟩⟩

theorem platformAt (h : Like i j s t) (hij : s.Twins i j) {ref ref' : Ref}
    (hr : Ref.Redirected i j ref ref') :
    Both (fun p q => q = p) (s.platformAt ref) (t.platformAt ref') := by
  refine (h.slotAt hij hr "platform").bind ?_
  rintro ⟨a, _⟩ ⟨b, slot⟩ ⟨rfl, -, -⟩
  cases slot with
  | platform p => exact .ok rfl
  | empty | release r | table made => exact .error _

theorem strategyAt (h : Like i j s t) (hij : s.Twins i j) {ref ref' : Ref}
    (hr : Ref.Redirected i j ref ref') :
    Both (fun a b => b.2 = a.2 ∧ Led i j a.1 b.1) (s.strategyAt ref) (t.strategyAt ref') := by
  refine (h.slotAt hij hr "of").bind ?_
  rintro ⟨a, _⟩ ⟨b, slot⟩ ⟨rfl, -, hled⟩
  cases slot with
  | release r => exact .ok ⟨rfl, hled⟩
  | table made => exact .ok ⟨rfl, hled⟩
  | empty | platform p => exact .error _

/-- A step that may name either of two slots with the same in them brings about the same. -/
theorem effect (h : Like i j s t) (hij : s.Twins i j) (hx : Step.Redirected i j x y) :
    Both (Effect.Like i j) (s.effect x) (t.effect y) := by
  cases hx with
  | release made => exact .ok (.refl _)
  | table made => exact .ok (.refl _)
  | platform designation =>
    simp only [State.effect]
    cases designation.platform with
    | ok p => exact .ok (.refl _)
    | error cause => exact .error _
  | clone hof =>
    refine (h.slotAt hij hof "of").bind ?_
    rintro ⟨a, _⟩ ⟨b, slot⟩ ⟨rfl, -, -⟩
    cases slot with
    | release r => exact .ok (.refl _)
    | platform p => exact .ok (.refl _)
    | empty | table made => exact .error _
  | base hof =>
    refine (h.strategyAt hij hof).bind ?_
    rintro ⟨a, _⟩ ⟨b, made⟩ ⟨rfl, hled⟩
    exact .ok ⟨rfl, rfl, rfl, fun k hi hj => callsOf_led hled hi hj [.base]⟩
  | file hof hp =>
    refine (h.platformAt hij hp).bind ?_
    rintro _ p rfl
    refine (h.strategyAt hij hof).bind ?_
    rintro ⟨a, _⟩ ⟨b, made⟩ ⟨rfl, hled⟩
    exact .ok ⟨rfl, rfl, rfl, fun k hi hj => callsOf_led hled hi hj [.file p]⟩
  | url hof hp =>
    refine (h.platformAt hij hp).bind ?_
    rintro _ p rfl
    refine (h.strategyAt hij hof).bind ?_
    rintro ⟨a, _⟩ ⟨b, made⟩ ⟨rfl, hled⟩
    exact .ok ⟨rfl, rfl, rfl, fun k hi hj => callsOf_led hled hi hj [.base, .file p]⟩
  | equal ha hb =>
    refine (h.slotAt hij ha "a").bind ?_
    rintro ⟨a, _⟩ ⟨a', left⟩ ⟨rfl, -, -⟩
    refine (h.slotAt hij hb "b").bind ?_
    rintro ⟨b, _⟩ ⟨b', right⟩ ⟨rfl, -, -⟩
    dsimp only
    cases left.equal? right with
    | some same => exact .ok (.refl _)
    | none => exact .error _
  | count =>
    have hcounts : t.platformCounts = s.platformCounts := by
      rw [platformCounts, platformCounts, h.slots]
    exact .ok ⟨congrArg Answer.counts hcounts, rfl, rfl, fun _ _ _ => rfl⟩
  | calls hof =>
    refine (h.slotAt hij hof "of").bind ?_
    rintro ⟨a, _⟩ ⟨b, slot⟩ ⟨rfl, hheld, hled⟩
    cases slot with
    | table made =>
      obtain ⟨hi, hj⟩ := hij.not_table hheld
      rcases hled with hb | ⟨ha, -⟩
      · cases hb
        exact .ok ⟨congrArg Answer.calls (h.calls a hi hj), rfl, rfl, fun _ _ _ => rfl⟩
      · exact absurd ha hi
    | empty | release r | platform p => exact .error _
  | unreadable field => exact .error _

theorem step (h : Like i j s t) (hij : s.Twins i j) (hx : Step.Redirected i j x y) :
    Like i j (s.step x) (t.step y) := by
  have heffect := h.effect hij hx
  unfold State.step
  generalize s.effect x = m at heffect ⊢
  generalize t.effect y = n at heffect ⊢
  cases heffect with
  | ok he =>
    refine ⟨?_, ?_, ?_, fun k hi hj => ?_⟩
    · simp only [record, h.slots, he.slot]
    · simp only [record, h.events, he.events]
    · simp only [record, h.answers, he.answer]
    · simp only [record, callsOf_append, h.calls k hi hj, he.calls k hi hj]
  | error refusal =>
    refine ⟨?_, h.events, ?_, h.calls⟩
    · simp only [record, h.slots]
    · simp only [record, h.answers]

end Like

end State

theorem step_slots (s : State) (x : Step) : ∃ slot, (s.step x).slots = s.slots ++ [slot] := by
  cases h : s.effect x with
  | ok e => exact ⟨e.slot, by rw [step_of_ok h]⟩
  | error refusal => exact ⟨.empty, by rw [step_of_error h]⟩

/-- No step changes a slot that is filled. -/
theorem held_step {a : Nat} {slot : Slot} (h : s.slots[a]? = some slot) (x : Step) :
    (s.step x).slots[a]? = some slot := by
  obtain ⟨filled, hfilled⟩ := step_slots s x
  rwa [hfilled, List.getElem?_append_left (List.getElem?_eq_some_iff.mp h).1]

theorem State.Twins.step (h : s.Twins i j) (x : Step) : (s.step x).Twins i j := by
  obtain ⟨slot, hslot, hi, hj⟩ := h
  exact ⟨slot, hslot, held_step hi x, held_step hj x⟩

theorem State.Twins.foldl (h : s.Twins i j) (steps : List Step) :
    (steps.foldl State.step s).Twins i j := by
  induction steps generalizing s with
  | nil => exact h
  | cons x rest ih => exact ih (h.step x)

/-- Steps that may name either of two slots with the same in them go the same way. -/
theorem State.Like.foldl {steps steps' : List Step} (h : State.Like i j s t) (hij : s.Twins i j)
    (hsteps : List.Forall₂ (Step.Redirected i j) steps steps') :
    State.Like i j (steps.foldl State.step s) (steps'.foldl State.step t) := by
  induction hsteps generalizing s t with
  | nil => exact h
  | cons hx _ ih => exact ih (h.step hij hx) (hij.step _)

theorem slots_length (steps : List Step) : (run steps).slots.length = steps.length := by
  rw [(recorded_run steps).slots, List.length_map, history, List.length_zip, answers_length,
    Nat.min_self]

/-- A clone is filled with what its original holds. -/
theorem held_of_effect_clone {e : Effect} (h : s.effect (.clone (some i)) = .ok e) :
    e.slot.Cloneable ∧ s.slots[i]? = some e.slot := by
  obtain ⟨⟨a, slot⟩, hslot, he⟩ := bind_eq_ok_iff.mp h
  obtain ⟨ha, hheld⟩ := of_slotAt hslot
  cases ha
  cases slot with
  | release r | platform p => cases he; exact ⟨trivial, hheld⟩
  | empty | table made => cases he

/-- A slot and its clone are filled with the same, right after the step that cloned it. -/
theorem twins_of_clone {steps : List Step} {answer : Answer}
    (h : (history steps)[j]? = some (.clone (some i), .ok answer)) :
    (run (steps.take (j + 1))).Twins i j := by
  obtain ⟨hstep, hanswer⟩ := history_getElem?_eq_some_iff.mp h
  rw [answers_getElem? hstep, Option.some.injEq] at hanswer
  obtain ⟨e, he, -⟩ := answerTo_eq_ok_iff.mp hanswer
  obtain ⟨hcloneable, hheld⟩ := held_of_effect_clone he
  have hlength : (run (steps.take j)).slots.length = j := by
    rw [slots_length, (parted hstep).2]
  rw [List.take_add_one, hstep, Option.toList_some, run_concat]
  refine ⟨e.slot, hcloneable, held_step hheld _, ?_⟩
  rw [step_of_ok he, List.getElem?_append_right (Nat.le_of_eq hlength), hlength, Nat.sub_self]
  rfl

/-- Ever after, they are. -/
theorem twins_run {steps : List Step} {answer : Answer}
    (h : (history steps)[j]? = some (.clone (some i), .ok answer)) : (run steps).Twins i j := by
  have hlater := (twins_of_clone h).foldl (steps.drop (j + 1))
  rwa [← run_append, List.take_append_drop] at hlater

/-- Asked here, whether two slots are equal, the answer is that they are. -/
def State.SaysEqual (s : State) (a b : Nat) : Prop :=
  s.answerTo (.equal (some a) (some b)) = .ok (.flag true)

theorem equal?_eq_true_iff {left right : Slot} :
    left.equal? right = some true ↔ left.Cloneable ∧ left = right := by
  cases left <;> cases right <;> simp [Slot.equal?, Slot.Cloneable]

theorem effect_equal_eq_ok_iff {a b : Nat} {e : Effect} :
    s.effect (.equal (some a) (some b)) = .ok e ↔
      ∃ left right same, s.slots[a]? = some left ∧ s.slots[b]? = some right ∧
        left.equal? right = some same ∧ e = { answer := .flag same } := by
  constructor
  · intro h
    obtain ⟨⟨a', left⟩, hleft, hrest⟩ := bind_eq_ok_iff.mp h
    obtain ⟨⟨b', right⟩, hright, he⟩ := bind_eq_ok_iff.mp hrest
    obtain ⟨ha, hheldLeft⟩ := of_slotAt hleft
    obtain ⟨hb, hheldRight⟩ := of_slotAt hright
    cases ha
    cases hb
    simp only at he
    split at he
    · cases he
      exact ⟨left, right, _, hheldLeft, hheldRight, by assumption, rfl⟩
    · cases he
  · rintro ⟨left, right, same, hleft, hright, hsame, rfl⟩
    refine bind_eq_ok_iff.mpr ⟨_, State.slotAt_of_getElem? hleft "a", ?_⟩
    refine bind_eq_ok_iff.mpr ⟨_, State.slotAt_of_getElem? hright "b", ?_⟩
    simp only [hsame]

/-- Slots are said to be equal exactly if they are filled with the same. -/
theorem saysEqual_iff {a b : Nat} : s.SaysEqual a b ↔ s.Twins a b := by
  unfold State.SaysEqual
  rw [answerTo_eq_ok_iff]
  constructor
  · rintro ⟨e, he, hanswer⟩
    obtain ⟨left, right, same, hleft, hright, hsame, rfl⟩ := effect_equal_eq_ok_iff.mp he
    cases hanswer
    obtain ⟨hcloneable, rfl⟩ := equal?_eq_true_iff.mp hsame
    exact ⟨_, hcloneable, hleft, hright⟩
  · rintro ⟨slot, hslot, ha, hb⟩
    have hsame := equal?_eq_true_iff.mpr ⟨hslot, rfl⟩
    exact ⟨_, effect_equal_eq_ok_iff.mpr ⟨slot, slot, true, ha, hb, hsame, rfl⟩, rfl⟩

theorem State.Twins.symm (h : s.Twins i j) : s.Twins j i := by
  obtain ⟨slot, hslot, hi, hj⟩ := h
  exact ⟨slot, hslot, hj, hi⟩

theorem State.Twins.trans (h : s.Twins i j) (h' : s.Twins j k) : s.Twins i k := by
  obtain ⟨slot, hslot, hi, hj⟩ := h
  obtain ⟨slot', -, hj', hk⟩ := h'
  cases hj.symm.trans hj'
  exact ⟨slot, hslot, hi, hk⟩

/-- No question tells apart two slots that are filled with the same. -/
theorem State.Twins.answerTo (h : s.Twins i j) (hx : Step.Redirected i j x y) :
    s.answerTo y = s.answerTo x := by
  have heffect := (State.Like.refl s).effect h hx
  unfold State.answerTo
  generalize s.effect x = m at heffect ⊢
  generalize s.effect y = n at heffect ⊢
  cases heffect with
  | ok he => exact congrArg Except.ok he.answer
  | error refusal => rfl

/-- The slots that hold releases. -/
abbrev State.Releases (s : State) : Type := { a : Nat // ∃ r, s.slots[a]? = some (.release r) }

/-- The slots that hold platforms. -/
abbrev State.Platforms (s : State) : Type := { a : Nat // ∃ p, s.slots[a]? = some (.platform p) }

/-- Two steps would be answered by one text. -/
def State.SameText (s : State) (x y : Step) : Prop :=
  ∃ text, s.answerTo x = .ok (.text text) ∧ s.answerTo y = .ok (.text text)

/-- What comparing has to amount to. -/
structure State.Compares (s : State) : Prop where
  releases : Equivalence fun a b : s.Releases => s.SaysEqual a.1 b.1
  platforms : Equivalence fun p q : s.Platforms => s.SaysEqual p.1 q.1
  /-- Comparing two releases, or two platforms, is never refused. -/
  decided :
    (∀ a b : s.Releases, ∃ same, s.answerTo (.equal (some a.1) (some b.1)) = .ok (.flag same)) ∧
    ∀ p q : s.Platforms, ∃ same, s.answerTo (.equal (some p.1) (some q.1)) = .ok (.flag same)
  /-- Equal releases give equal texts for equal platforms. -/
  texts : ∀ (a b : s.Releases) (p q : s.Platforms), s.SaysEqual a.1 b.1 → s.SaysEqual p.1 q.1 →
    s.SameText (.base (some a.1)) (.base (some b.1)) ∧
    s.SameText (.file (some a.1) (some p.1)) (.file (some b.1) (some q.1)) ∧
    s.SameText (.url (some a.1) (some p.1)) (.url (some b.1) (some q.1))
  /-- Any step is answered alike, whichever of two equal slots it names. -/
  alike : ∀ (a b : Nat) (x y : Step), s.SaysEqual a b → Step.Redirected a b x y →
    s.answerTo y = s.answerTo x

theorem strategyAt_of_release {a : Nat} {r : Release} (h : s.slots[a]? = some (.release r)) :
    s.strategyAt (some a) = .ok (a, .of r) :=
  bind_eq_ok_iff.mpr ⟨_, State.slotAt_of_getElem? h "of", rfl⟩

theorem platformAt_of_platform {a : Nat} {p : Platform} (h : s.slots[a]? = some (.platform p)) :
    s.platformAt (some a) = .ok p :=
  bind_eq_ok_iff.mpr ⟨_, State.slotAt_of_getElem? h "platform", rfl⟩

theorem texts_of_release {a c : Nat} {r : Release} {p : Platform}
    (ha : s.slots[a]? = some (.release r)) (hc : s.slots[c]? = some (.platform p)) :
    s.answerTo (.base (some a)) = .ok (.text (Strategy.base r)) ∧
    s.answerTo (.file (some a) (some c)) = .ok (.text (Strategy.file r p)) ∧
    s.answerTo (.url (some a) (some c)) = .ok (.text (Strategy.url r p)) := by
  have hof := strategyAt_of_release ha
  have hplatform := platformAt_of_platform hc
  have hbase : s.effect (.base (some a)) =
      .ok { answer := .text (Strategy.base r), calls := [(a, .base)] } :=
    bind_eq_ok_iff.mpr ⟨_, hof, rfl⟩
  have hfile : s.effect (.file (some a) (some c)) =
      .ok { answer := .text (Strategy.file r p), calls := [(a, .file p)] } :=
    bind_eq_ok_iff.mpr ⟨_, hplatform, bind_eq_ok_iff.mpr ⟨_, hof, rfl⟩⟩
  have hurl : s.effect (.url (some a) (some c)) =
      .ok { answer := .text (Strategy.url r p), calls := [(a, .base), (a, .file p)],
            events := [.resolved p (Strategy.url r p)] } :=
    bind_eq_ok_iff.mpr ⟨_, hplatform, bind_eq_ok_iff.mpr ⟨_, hof, rfl⟩⟩
  exact ⟨answerTo_eq_ok_iff.mpr ⟨_, hbase, rfl⟩, answerTo_eq_ok_iff.mpr ⟨_, hfile, rfl⟩,
    answerTo_eq_ok_iff.mpr ⟨_, hurl, rfl⟩⟩

theorem saysEqual_refl {a : Nat} {slot : Slot} (h : s.slots[a]? = some slot)
    (hslot : slot.Cloneable) : s.SaysEqual a a :=
  saysEqual_iff.mpr ⟨slot, hslot, h, h⟩

theorem saysEqual_symm {a b : Nat} (h : s.SaysEqual a b) : s.SaysEqual b a :=
  saysEqual_iff.mpr (saysEqual_iff.mp h).symm

theorem saysEqual_trans {a b c : Nat} (h : s.SaysEqual a b) (h' : s.SaysEqual b c) :
    s.SaysEqual a c :=
  saysEqual_iff.mpr ((saysEqual_iff.mp h).trans (saysEqual_iff.mp h'))

theorem compares (s : State) : s.Compares where
  releases :=
    { refl := fun ⟨_, _, ha⟩ => saysEqual_refl ha trivial
      symm := saysEqual_symm
      trans := saysEqual_trans }
  platforms :=
    { refl := fun ⟨_, _, hp⟩ => saysEqual_refl hp trivial
      symm := saysEqual_symm
      trans := saysEqual_trans }
  decided := by
    constructor
    · rintro ⟨a, r, ha⟩ ⟨b, r', hb⟩
      have he := effect_equal_eq_ok_iff.mpr ⟨_, _, r == r', ha, hb, rfl, rfl⟩
      exact ⟨_, answerTo_eq_ok_iff.mpr ⟨_, he, rfl⟩⟩
    · rintro ⟨p, x, hp⟩ ⟨q, x', hq⟩
      have he := effect_equal_eq_ok_iff.mpr ⟨_, _, x == x', hp, hq, rfl, rfl⟩
      exact ⟨_, answerTo_eq_ok_iff.mpr ⟨_, he, rfl⟩⟩
  texts := by
    rintro ⟨a, r, ha⟩ ⟨b, _⟩ ⟨p, x, hp⟩ ⟨q, _⟩ hab hpq
    obtain ⟨slot, -, ha', hb⟩ := saysEqual_iff.mp hab
    obtain ⟨slot', -, hp', hq⟩ := saysEqual_iff.mp hpq
    cases ha.symm.trans ha'
    cases hp.symm.trans hp'
    obtain ⟨hbase, hfile, hurl⟩ := texts_of_release ha hp
    obtain ⟨hbase', hfile', hurl'⟩ := texts_of_release hb hq
    exact ⟨⟨_, hbase, hbase'⟩, ⟨_, hfile, hfile'⟩, ⟨_, hurl, hurl'⟩⟩
  alike := fun _ _ _ _ hab hx => (saysEqual_iff.mp hab).answerTo hx

/-- At every later point of a session, a clone is said to equal its original. -/
theorem saysEqual_of_clone {steps : List Step} {answer : Answer}
    (h : (history steps)[j]? = some (.clone (some i), .ok answer)) (hjk : j < k)
    (hk : k < steps.length) : (run (steps.take k)).SaysEqual i j := by
  have htaken : (history (steps.take k))[j]? = some (.clone (some i), .ok answer) := by
    rw [← history_take (Nat.le_of_lt hk), List.getElem?_take_of_lt hjk, h]
  exact saysEqual_iff.mpr (twins_run htaken)

/-- A clone stands for its original. Later steps may name the one for the other wherever they like,
and every answer, every refusal and every event of the session stays as it was; compared, the two
are equal ever after. At any point of any session comparing is an equivalence, and what is equal
there cannot be told apart by questions. -/
theorem clone_stands_for_original :
    (∀ (steps : List Step) (i j : Nat) (answer : Answer),
      (history steps)[j]? = some (.clone (some i), .ok answer) →
      (∀ later, List.Forall₂ (Step.Redirected i j) (steps.drop (j + 1)) later →
        let other := run (steps.take (j + 1) ++ later)
        other.answers = (run steps).answers ∧ other.events = (run steps).events) ∧
      ∀ k, j < k →
        steps[k]? = some (.equal (some i) (some j)) ∨
          steps[k]? = some (.equal (some j) (some i)) →
        (run steps).answers[k]? = some (.ok (.flag true))) ∧
    ∀ steps : List Step, (run steps).Compares := by
  refine ⟨fun steps i j answer hclone => ⟨fun later hlater => ?other, ?equal⟩, fun _ => compares _⟩
  case other =>
    have htwins := twins_of_clone hclone
    have hlike := (State.Like.refl (run (steps.take (j + 1)))).foldl htwins hlater
    rw [← run_append, ← run_append, List.take_append_drop] at hlike
    exact ⟨hlike.answers, hlike.events⟩
  case equal =>
    intro k hjk hk
    rcases hk with hk | hk
    · have hequal := saysEqual_of_clone hclone hjk (List.getElem?_eq_some_iff.mp hk).1
      exact (answers_getElem? hk).trans (congrArg some hequal)
    · have hequal := saysEqual_of_clone hclone hjk (List.getElem?_eq_some_iff.mp hk).1
      exact (answers_getElem? hk).trans (congrArg some (saysEqual_symm hequal))

/-- A clone of a clone is used in the place of the first one here and there, also where a step is
refused; and a strategy of the caller's own still tells all that it has been asked. -/
theorem clone_stands_for_original_twice :
    let steps : List Step :=
      [.release ⟨"14.0"⟩, .clone (some 0), .table ⟨"a/", Platform.ident⟩,
        .platform (.ident "macos-x86_64"), .clone (some 1), .url (some 1) (some 3),
        .file (some 2) (some 3), .calls (some 1), .base (some 1), .equal (some 4) (some 1),
        .calls (some 2)]
    let later : List Step :=
      [.url (some 4) (some 3), .file (some 2) (some 3), .calls (some 4), .base (some 1),
        .equal (some 4) (some 4), .calls (some 2)]
    (history steps)[4]? = some (.clone (some 1), .ok (.text "14.0")) ∧
    List.Forall₂ (Step.Redirected 1 4) (steps.drop 5) later ∧
    (run (steps.take 5 ++ later)).answers = (run steps).answers ∧
    (run (steps.take 5 ++ later)).events = (run steps).events ∧
    (run steps).answers[9]? = some (.ok (.flag true)) := by
  intro steps later
  have hclone : (history steps)[4]? = some (.clone (some 1), .ok (.text "14.0")) :=
    history_getElem?_eq_some_iff.mpr ⟨rfl, by decide +kernel⟩
  have hlater : List.Forall₂ (Step.Redirected 1 4) (steps.drop 5) later :=
    .cons (.url (.inr ⟨rfl, rfl⟩) (.inl rfl)) <| .cons (.file (.inl rfl) (.inl rfl)) <|
      .cons (.calls (.inr ⟨rfl, rfl⟩)) <| .cons (.base (.inl rfl)) <|
      .cons (.equal (.inl rfl) (.inr ⟨rfl, rfl⟩)) <| .cons (.calls (.inl rfl)) .nil
  obtain ⟨hother, hequal⟩ := clone_stands_for_original.1 steps 1 4 _ hclone
  obtain ⟨hanswers, hevents⟩ := hother later hlater
  exact ⟨hclone, hlater, hanswers, hevents, hequal 9 (by decide) (.inr rfl)⟩

end Session

end TorBundle
