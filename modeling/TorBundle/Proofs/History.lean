import Mathlib.Data.List.Forall2
import Mathlib.Data.List.Induction
import TorBundle.Session

/-!
# The history of a session

All that a session has come to can be read off its steps and their answers: what each slot holds,
which questions each strategy was asked, and which events were told. A step that is refused has no
part in any of this, so nothing but its own answer would be different with another refused step
in its place. Which steps are refused is not said here, except for questions about calls.
-/

namespace TorBundle

namespace Session

/-- A step with its answer. -/
abbrev Entry : Type := Step × Except Refusal Answer

/-- What a step has left in its slot, told from its answer. -/
def Entry.slot : Entry → Slot
  | (_, .ok (.platform p)) => .platform p
  | (.release made, .ok _) => .release made
  | (.table made, .ok _) => .table made
  | (.clone _, .ok (.text version)) => .release ⟨version⟩
  | _ => .empty

/-- The steps with their answers, in order. -/
def history (steps : List Step) : List Entry := steps.zip (run steps).answers

/-- The slot of the strategy that a step puts its questions to. -/
def Step.asks : Step → Ref
  | .base of | .file of _ | .url of _ => of
  | _ => none

/-- The events that a step tells of, by its answer and those of all steps: one event if it has
resolved an address, for the platform that it named. -/
inductive Tells (answers : List (Except Refusal Answer)) : Entry → List Event → Prop where
  | url {of : Ref} {j : Nat} {p : Platform} {url : String} {e : Event}
      (named : answers[j]? = some (.ok (.platform p)))
      (level : e.level = .debug) (target : e.target = "tor_binary_artifacts::strategy")
      (message : e.message = "resolved artifact url")
      (fields : e.fields = [("platform", p.ident), ("url", url)]) :
      Tells answers (.url of (some j), .ok (.text url)) [e]
  | other {x : Step} {answer : Answer} (h : ∀ of platform, x ≠ .url of platform) :
      Tells answers (x, .ok answer) []
  | refused {x : Step} {refusal : Refusal} : Tells answers (x, .error refusal) []

/-- The questions that a step puts to the strategy in a slot, likewise. -/
inductive Asks (answers : List (Except Refusal Answer)) (i : Nat) : Entry → List String → Prop where
  | base {answer : Answer} : Asks answers i (.base (some i), .ok answer) ["url_prefix"]
  | file {j : Nat} {p : Platform} {answer : Answer}
      (named : answers[j]? = some (.ok (.platform p))) :
      Asks answers i (.file (some i) (some j), .ok answer) ["url_for " ++ p.ident]
  | url {j : Nat} {p : Platform} {answer : Answer}
      (named : answers[j]? = some (.ok (.platform p))) :
      Asks answers i (.url (some i) (some j), .ok answer) ["url_prefix", "url_for " ++ p.ident]
  | other {x : Step} {answer : Answer} (h : x.asks ≠ some i) : Asks answers i (x, .ok answer) []
  | refused {x : Step} {refusal : Refusal} : Asks answers i (x, .error refusal) []

variable {answers more : List (Except Refusal Answer)} {s : State} {x : Step} {e : Effect}

theorem bind_eq_ok_iff {α β : Type} {y : Except Refusal α} {f : α → Except Refusal β} {b : β} :
    (y >>= f) = .ok b ↔ ∃ a, y = .ok a ∧ f a = .ok b := by
  cases y <;> simp [bind, Except.bind]

theorem of_slotAt {field : String} {ref : Ref} {i : Nat} {slot : Slot}
    (h : s.slotAt field ref = .ok (i, slot)) : ref = some i ∧ s.slots[i]? = some slot := by
  unfold State.slotAt at h
  split at h
  · cases h
  · split at h
    · cases h
      exact ⟨rfl, by assumption⟩
    · cases h

theorem of_platformAt {ref : Ref} {p : Platform} (h : s.platformAt ref = .ok p) :
    ∃ j slot, ref = some j ∧ s.slots[j]? = some slot ∧ slot.platform? = some p := by
  obtain ⟨⟨j, slot⟩, hslot, hp⟩ := bind_eq_ok_iff.mp h
  obtain ⟨hj, hs⟩ := of_slotAt hslot
  refine ⟨j, slot, hj, hs, ?_⟩
  simp only at hp
  split at hp
  · cases hp
    assumption
  · cases hp

theorem of_strategyAt {ref : Ref} {i : Nat} {t : Strategy.Table}
    (h : s.strategyAt ref = .ok (i, t)) : ref = some i := by
  obtain ⟨⟨j, slot⟩, hslot, ht⟩ := bind_eq_ok_iff.mp h
  simp only at ht
  split at ht
  · cases ht
    exact (of_slotAt hslot).1
  · cases ht

theorem of_effect_base {of : Ref} (h : s.effect (.base of) = .ok e) :
    ∃ i t, s.strategyAt of = .ok (i, t) ∧
      e = { answer := .text t.base, calls := [(i, .base)] } := by
  obtain ⟨⟨i, t⟩, ht, he⟩ := bind_eq_ok_iff.mp h
  cases he
  exact ⟨i, t, ht, rfl⟩

theorem of_effect_file {of platform : Ref} (h : s.effect (.file of platform) = .ok e) :
    ∃ p i t, s.platformAt platform = .ok p ∧ s.strategyAt of = .ok (i, t) ∧
      e = { answer := .text (t.file p), calls := [(i, .file p)] } := by
  obtain ⟨p, hp, hrest⟩ := bind_eq_ok_iff.mp h
  obtain ⟨⟨i, t⟩, ht, he⟩ := bind_eq_ok_iff.mp hrest
  cases he
  exact ⟨p, i, t, hp, ht, rfl⟩

theorem of_effect_url {of platform : Ref} (h : s.effect (.url of platform) = .ok e) :
    ∃ p i t, s.platformAt platform = .ok p ∧ s.strategyAt of = .ok (i, t) ∧
      e = { answer := .text (Strategy.url t p), calls := [(i, .base), (i, .file p)],
            events := [.resolved p (Strategy.url t p)] } := by
  obtain ⟨p, hp, hrest⟩ := bind_eq_ok_iff.mp h
  obtain ⟨⟨i, t⟩, ht, he⟩ := bind_eq_ok_iff.mp hrest
  cases he
  exact ⟨p, i, t, hp, ht, rfl⟩

theorem of_effect_clone {of : Ref} (h : s.effect (.clone of) = .ok e) :
    (∃ r : Release, e = { answer := .text r.version, slot := .release r }) ∨
      ∃ p, e = { answer := .platform p, slot := .platform p } := by
  obtain ⟨⟨i, slot⟩, _, he⟩ := bind_eq_ok_iff.mp h
  cases slot <;> cases he
  · exact .inl ⟨_, rfl⟩
  · exact .inr ⟨_, rfl⟩

theorem of_effect_equal {a b : Ref} (h : s.effect (.equal a b) = .ok e) :
    ∃ same, e = { answer := .flag same } := by
  obtain ⟨⟨i, left⟩, _, hrest⟩ := bind_eq_ok_iff.mp h
  obtain ⟨⟨j, right⟩, _, he⟩ := bind_eq_ok_iff.mp hrest
  simp only at he
  split at he
  · cases he
    exact ⟨_, rfl⟩
  · cases he

theorem effect_calls_eq_ok_iff {of : Ref} :
    s.effect (.calls of) = .ok e ↔ ∃ i t, of = some i ∧ s.slots[i]? = some (.table t) ∧
      e = { answer := .calls ((s.calls.filter (·.1 == i)).map (·.2)) } := by
  constructor
  · intro h
    obtain ⟨⟨i, slot⟩, hslot, he⟩ := bind_eq_ok_iff.mp h
    obtain ⟨hi, hs⟩ := of_slotAt hslot
    cases slot with
    | table t =>
      cases he
      exact ⟨i, t, hi, hs, rfl⟩
    | empty | release r | platform p => cases he
  · rintro ⟨i, t, rfl, hs, rfl⟩
    simp [State.effect, State.slotAt, hs, bind, Except.bind]

theorem of_effect_platform {designation : Platform.Designation}
    (h : s.effect (.platform designation) = .ok e) :
    ∃ p, e = { answer := .platform p, slot := .platform p } := by
  simp only [State.effect] at h
  split at h
  · cases h
    exact ⟨_, rfl⟩
  · cases h

/-- The slots hold the platforms that have been answered. -/
def State.Faithful (s : State) : Prop :=
  ∀ (j : Nat) (slot : Slot) (p : Platform), s.slots[j]? = some slot → slot.platform? = some p →
    s.answers[j]? = some (.ok (.platform p))

theorem State.Faithful.named (hs : s.Faithful) {ref : Ref} {p : Platform}
    (h : s.platformAt ref = .ok p) :
    ∃ j, ref = some j ∧ s.answers[j]? = some (.ok (.platform p)) := by
  obtain ⟨j, slot, hj, hslot, hp⟩ := of_platformAt h
  exact ⟨j, hj, hs j slot p hslot hp⟩

/-- The effects of a step that is not refused. All but three kinds of steps only leave a slot. -/
inductive Brings (answers : List (Except Refusal Answer)) : Step → Effect → Prop where
  | base {i : Nat} {t : Strategy.Table} :
      Brings answers (.base (some i)) { answer := .text t.base, calls := [(i, .base)] }
  | file {i j : Nat} {t : Strategy.Table} {p : Platform}
      (named : answers[j]? = some (.ok (.platform p))) :
      Brings answers (.file (some i) (some j))
        { answer := .text (t.file p), calls := [(i, .file p)] }
  | url {i j : Nat} {t : Strategy.Table} {p : Platform}
      (named : answers[j]? = some (.ok (.platform p))) :
      Brings answers (.url (some i) (some j))
        { answer := .text (Strategy.url t p), calls := [(i, .base), (i, .file p)],
          events := [.resolved p (Strategy.url t p)] }
  | other {x : Step} {answer : Answer} {slot : Slot} (left : Entry.slot (x, .ok answer) = slot)
      (silent : ∀ of platform, x ≠ .url of platform) (asks : x.asks = none) :
      Brings answers x { answer, slot }

theorem brings_of_effect (hs : s.Faithful) (h : s.effect x = .ok e) : Brings s.answers x e := by
  cases x with
  | base of =>
    obtain ⟨i, t, ht, rfl⟩ := of_effect_base h
    obtain rfl := of_strategyAt ht
    exact .base
  | file of platform =>
    obtain ⟨p, i, t, hp, ht, rfl⟩ := of_effect_file h
    obtain rfl := of_strategyAt ht
    obtain ⟨j, rfl, hj⟩ := hs.named hp
    exact .file hj
  | url of platform =>
    obtain ⟨p, i, t, hp, ht, rfl⟩ := of_effect_url h
    obtain rfl := of_strategyAt ht
    obtain ⟨j, rfl, hj⟩ := hs.named hp
    exact .url hj
  | release made | table made | count => cases h; exact .other rfl nofun rfl
  | platform designation =>
    obtain ⟨p, rfl⟩ := of_effect_platform h
    exact .other rfl nofun rfl
  | clone of =>
    rcases of_effect_clone h with ⟨r, rfl⟩ | ⟨p, rfl⟩
    · exact .other rfl nofun rfl
    · exact .other rfl nofun rfl
  | equal a b =>
    obtain ⟨same, rfl⟩ := of_effect_equal h
    exact .other rfl nofun rfl
  | calls of =>
    obtain ⟨i, t, _, _, rfl⟩ := effect_calls_eq_ok_iff.mp h
    exact .other rfl nofun rfl
  | unreadable field => cases h

/-- The texts of the questions among some calls that went to a slot. -/
def askedOf (i : Nat) (calls : List (Nat × Strategy.Call)) : List String :=
  (calls.filter (·.1 == i)).map (·.2.text)

/-- Questions that all go to one slot are asked of that slot, and of no other. -/
theorem asks_of_calls {i k : Nat} {answer : Answer} (calls : List Strategy.Call)
    (hx : x.asks = some k) (h : Asks answers k (x, .ok answer) (calls.map Strategy.Call.text)) :
    Asks answers i (x, .ok answer) (askedOf i (calls.map (k, ·))) := by
  by_cases hk : k = i
  · subst hk
    have hall : askedOf k (calls.map (k, ·)) = calls.map Strategy.Call.text := by
      simp [askedOf, List.filter_map, Function.comp_def]
    rwa [hall]
  · have hnone : askedOf i (calls.map (k, ·)) = [] := by
      simp [askedOf, List.filter_map, Function.comp_def, hk]
    rw [hnone]
    apply Asks.other
    rw [hx]
    exact fun he => hk (Option.some.inj he)

namespace Brings

theorem slot (h : Brings answers x e) : Entry.slot (x, .ok e.answer) = e.slot := by
  cases h with
  | base | file | url => rfl
  | other left => exact left

theorem tells (h : Brings answers x e) : Tells answers (x, .ok e.answer) e.events := by
  cases h with
  | url named => exact .url named rfl rfl rfl rfl
  | base | file => exact .other nofun
  | other _ silent => exact .other silent

theorem asks (h : Brings answers x e) (i : Nat) :
    Asks answers i (x, .ok e.answer) (askedOf i e.calls) := by
  cases h with
  | base => exact asks_of_calls [.base] rfl .base
  | @file _ _ _ p named => exact asks_of_calls [.file p] rfl (.file named)
  | @url _ _ _ p named => exact asks_of_calls [.base, .file p] rfl (.url named)
  | other _ _ asks =>
    apply Asks.other
    rw [asks]
    exact (Option.some_ne_none i).symm

end Brings

theorem answered_append {j : Nat} {answer : Except Refusal Answer}
    (h : answers[j]? = some answer) : (answers ++ more)[j]? = some answer := by
  rwa [List.getElem?_append_left (List.getElem?_eq_some_iff.mp h).1]

/-- Answers that come later change nothing in what has been told. -/
theorem Tells.append {entry : Entry} {events : List Event} (h : Tells answers entry events) :
    Tells (answers ++ more) entry events := by
  cases h with
  | url named level target message fields =>
    exact .url (answered_append named) level target message fields
  | other h => exact .other h
  | refused => exact .refused

theorem Asks.append {i : Nat} {entry : Entry} {calls : List String}
    (h : Asks answers i entry calls) : Asks (answers ++ more) i entry calls := by
  cases h with
  | base => exact .base
  | file named => exact .file (answered_append named)
  | url named => exact .url (answered_append named)
  | other h => exact .other h
  | refused => exact .refused

/-- A state is what its history of steps and answers amounts to. -/
structure Recorded (h : List Entry) (s : State) : Prop where
  answers : s.answers = h.map Prod.snd
  slots : s.slots = h.map Entry.slot
  events : ∃ parts, s.events = parts.flatten ∧ List.Forall₂ (Tells s.answers) h parts
  calls : ∀ i, ∃ parts, askedOf i s.calls = parts.flatten ∧ List.Forall₂ (Asks s.answers i) h parts

/-- How a step is answered. -/
def State.answerTo (s : State) (x : Step) : Except Refusal Answer := (s.effect x).map Effect.answer

theorem answerTo_eq_ok_iff {answer : Answer} :
    s.answerTo x = .ok answer ↔ ∃ e, s.effect x = .ok e ∧ e.answer = answer := by
  unfold State.answerTo
  cases s.effect x <;> simp [Except.map]

theorem answerTo_eq_error_iff {refusal : Refusal} :
    s.answerTo x = .error refusal ↔ s.effect x = .error refusal := by
  unfold State.answerTo
  cases s.effect x <;> simp [Except.map]

theorem step_of_ok (h : s.effect x = .ok e) :
    s.step x =
      { slots := s.slots ++ [e.slot]
        calls := s.calls ++ e.calls
        events := s.events ++ e.events
        answers := s.answers ++ [.ok e.answer] } := by
  rw [State.step, h]
  rfl

theorem step_of_error {refusal : Refusal} (h : s.effect x = .error refusal) :
    s.step x =
      { s with slots := s.slots ++ [.empty], answers := s.answers ++ [.error refusal] } := by
  rw [State.step, h]
  rfl

theorem step_answers (s : State) (x : Step) : (s.step x).answers = s.answers ++ [s.answerTo x] := by
  unfold State.answerTo
  cases h : s.effect x with
  | ok e => rw [step_of_ok h]; rfl
  | error refusal => rw [step_of_error h]; rfl

theorem entry_platform? (entry : Entry) (p : Platform) :
    entry.slot.platform? = some p ↔ entry.2 = .ok (.platform p) := by
  obtain ⟨x, answer⟩ := entry
  constructor
  · intro h
    unfold Entry.slot at h
    split at h <;> simp_all [Slot.platform?]
  · rintro rfl
    rfl

@[simp] theorem askedOf_append (i : Nat) (calls later : List (Nat × Strategy.Call)) :
    askedOf i (calls ++ later) = askedOf i calls ++ askedOf i later := by
  simp [askedOf]

namespace Recorded

variable {h : List Entry}

theorem start : Recorded [] {} where
  answers := rfl
  slots := rfl
  events := ⟨[], rfl, .nil⟩
  calls := fun _ => ⟨[], rfl, .nil⟩

theorem faithful (hr : Recorded h s) : s.Faithful := by
  intro j slot p hslot hp
  rw [hr.slots, List.getElem?_map, Option.map_eq_some_iff] at hslot
  obtain ⟨entry, hentry, rfl⟩ := hslot
  rw [hr.answers, List.getElem?_map, hentry, Option.map_some]
  exact congrArg some ((entry_platform? entry p).mp hp)

theorem extend (hr : Recorded h s) {answer : Except Refusal Answer} {slot : Slot}
    (told : List Event) (asked : List (Nat × Strategy.Call))
    (hslot : Entry.slot (x, answer) = slot) (htold : Tells s.answers (x, answer) told)
    (hasked : ∀ i, Asks s.answers i (x, answer) (askedOf i asked)) :
    Recorded (h ++ [(x, answer)])
      { slots := s.slots ++ [slot], calls := s.calls ++ asked, events := s.events ++ told,
        answers := s.answers ++ [answer] } := by
  refine ⟨?answers, ?slots, ?events, fun i => ?calls⟩
  case answers => simp [hr.answers]
  case slots => simp [hr.slots, hslot]
  case events =>
    obtain ⟨parts, he, hparts⟩ := hr.events
    refine ⟨parts ++ [told], by simp [he], ?_⟩
    exact List.rel_append (hparts.imp fun _ _ ht => ht.append) (.cons htold.append .nil)
  case calls =>
    obtain ⟨parts, hc, hparts⟩ := hr.calls i
    refine ⟨parts ++ [askedOf i asked], by simp [hc], ?_⟩
    exact List.rel_append (hparts.imp fun _ _ ha => ha.append) (.cons (hasked i).append .nil)

/-- Each step adds itself with its answer to what the state amounts to. -/
theorem step (hr : Recorded h s) (x : Step) :
    Recorded (h ++ [(x, s.answerTo x)]) (s.step x) := by
  unfold State.answerTo
  cases hx : s.effect x with
  | ok e =>
    rw [step_of_ok hx]
    have hbrings := brings_of_effect hr.faithful hx
    exact hr.extend e.events e.calls hbrings.slot hbrings.tells hbrings.asks
  | error refusal =>
    have hslot : Entry.slot (x, .error refusal) = .empty := by
      cases x <;> rfl
    have hextend := hr.extend [] [] hslot .refused fun i => .refused
    rw [List.append_nil, List.append_nil] at hextend
    rwa [step_of_error hx]

end Recorded

theorem run_concat (steps : List Step) (x : Step) :
    run (steps ++ [x]) = (run steps).step x := by
  rw [run, List.foldl_append]
  rfl

theorem answers_length (steps : List Step) : (run steps).answers.length = steps.length := by
  induction steps using List.reverseRecOn with
  | nil => rfl
  | append_singleton steps x ih => simp [run_concat, step_answers, ih]

theorem history_concat (steps : List Step) (x : Step) :
    history (steps ++ [x]) = history steps ++ [(x, (run steps).answerTo x)] := by
  rw [history, run_concat, step_answers, List.zip_append (answers_length steps).symm]
  rfl

/-- Any session amounts to its history. -/
theorem recorded_run (steps : List Step) : Recorded (history steps) (run steps) := by
  induction steps using List.reverseRecOn with
  | nil => exact .start
  | append_singleton steps x ih =>
    rw [history_concat, run_concat]
    exact ih.step x

theorem step_withAnswers (s : State) (given : List (Except Refusal Answer)) (x : Step) :
    State.step { s with answers := given } x =
      { s.step x with answers := given ++ [s.answerTo x] } := by
  have heffect : State.effect { s with answers := given } x = s.effect x := by
    cases x <;> rfl
  unfold State.answerTo
  cases h : s.effect x with
  | ok e =>
    rw [step_of_ok h, step_of_ok (heffect.trans h)]
    rfl
  | error refusal =>
    rw [step_of_error h, step_of_error (heffect.trans h)]
    rfl

/-- The answers given so far have no part in what comes later. -/
theorem foldl_step_answers (s : State) (rest : List Step) :
    ∃ later, ∀ given, rest.foldl State.step { s with answers := given } =
      { rest.foldl State.step s with answers := given ++ later } := by
  induction rest generalizing s with
  | nil => exact ⟨[], fun given => by rw [List.append_nil]; rfl⟩
  | cons x rest ih =>
    obtain ⟨later, hlater⟩ := ih (s.step x)
    refine ⟨s.answerTo x :: later, fun given => ?_⟩
    rw [List.foldl_cons, List.foldl_cons, step_withAnswers, hlater, List.append_assoc,
      List.singleton_append]

/-- A session goes on from what its beginning has come to. -/
theorem run_append (steps rest : List Step) :
    run (steps ++ rest) = rest.foldl State.step (run steps) := by
  rw [run, List.foldl_append]
  rfl

theorem answers_append (steps rest : List Step) :
    ∃ later, (run (steps ++ rest)).answers = (run steps).answers ++ later := by
  obtain ⟨later, hlater⟩ := foldl_step_answers (run steps) rest
  refine ⟨later, ?_⟩
  rw [run_append]
  exact congrArg State.answers (hlater (run steps).answers)

theorem parted {steps : List Step} {k : Nat} (h : steps[k]? = some x) :
    steps = steps.take k ++ x :: steps.drop (k + 1) ∧ (steps.take k).length = k := by
  obtain ⟨hk, rfl⟩ := List.getElem?_eq_some_iff.mp h
  refine ⟨?_, List.length_take_of_le (Nat.le_of_lt hk)⟩
  rw [List.getElem_cons_drop, List.take_append_drop]

theorem answers_take {steps : List Step} {k : Nat} (hk : k ≤ steps.length) :
    (run (steps.take k)).answers = (run steps).answers.take k := by
  obtain ⟨later, hlater⟩ := answers_append (steps.take k) (steps.drop k)
  have hlength : (run (steps.take k)).answers.length = k := by
    rw [answers_length, List.length_take_of_le hk]
  rw [List.take_append_drop] at hlater
  rw [hlater, List.take_left' hlength]

theorem history_take {steps : List Step} {k : Nat} (hk : k ≤ steps.length) :
    (history steps).take k = history (steps.take k) := by
  rw [history, history, answers_take hk]
  exact List.take_zipWith

theorem answers_getElem? {steps : List Step} {k : Nat} (h : steps[k]? = some x) :
    (run steps).answers[k]? = some ((run (steps.take k)).answerTo x) := by
  obtain ⟨hparted, hlength⟩ := parted h
  obtain ⟨later, hlater⟩ := answers_append (steps.take k ++ [x]) (steps.drop (k + 1))
  rw [List.append_assoc, List.singleton_append, ← hparted, run_concat, step_answers] at hlater
  have hk : (run (steps.take k)).answers.length = k := by
    rw [answers_length, hlength]
  rw [hlater, List.append_assoc, List.getElem?_append_right (Nat.le_of_eq hk), hk, Nat.sub_self]
  rfl

theorem history_getElem?_eq_some_iff {steps : List Step} {k : Nat}
    {answer : Except Refusal Answer} :
    (history steps)[k]? = some (x, answer) ↔
      steps[k]? = some x ∧ (run steps).answers[k]? = some answer := by
  rw [history, List.getElem?_zip_eq_some]

theorem of_slot_table {entry : Entry} {t : Strategy.Table} (h : entry.slot = .table t) :
    entry.1 = .table t := by
  unfold Entry.slot at h
  split at h <;> cases h
  rfl

/-- A step that makes a strategy can be asked about ever after. -/
theorem calls_answered {steps : List Step} {i k : Nat} {made : Strategy.Table} (hik : i < k)
    (hi : steps[i]? = some (.table made)) (hk : steps[k]? = some (.calls (some i))) :
    ∃ answer, (run steps).answers[k]? = some (.ok answer) := by
  have hlt := (List.getElem?_eq_some_iff.mp hk).1
  have hentry : (history (steps.take k))[i]? = some (.table made, .ok .done) := by
    rw [← history_take (Nat.le_of_lt hlt), List.getElem?_take_of_lt hik,
      history_getElem?_eq_some_iff]
    exact ⟨hi, answers_getElem? hi⟩
  have hslot : (run (steps.take k)).slots[i]? = some (.table made) := by
    rw [(recorded_run _).slots, List.getElem?_map, hentry]
    rfl
  have heffect := effect_calls_eq_ok_iff.mpr ⟨i, made, rfl, hslot, rfl⟩
  have hanswer := answerTo_eq_ok_iff.mpr ⟨_, heffect, rfl⟩
  exact ⟨_, (answers_getElem? hk).trans (congrArg some hanswer)⟩

/-- The answer tells what the steps before have asked of the strategy. -/
theorem asked_before {steps : List Step} {k : Nat} {of : Ref} {answer : Answer}
    (h : (history steps)[k]? = some (.calls of, .ok answer)) :
    ∃ i made asked parts, of = some i ∧ i < k ∧ steps[i]? = some (.table made) ∧
      answer = .calls asked ∧ asked.map Strategy.Call.text = parts.flatten ∧
      List.Forall₂ (Asks (run steps).answers i) ((history steps).take k) parts := by
  obtain ⟨hk, hanswer⟩ := history_getElem?_eq_some_iff.mp h
  have hle := Nat.le_of_lt (List.getElem?_eq_some_iff.mp hk).1
  rw [answers_getElem? hk, Option.some.injEq] at hanswer
  obtain ⟨e, heffect, rfl⟩ := answerTo_eq_ok_iff.mp hanswer
  obtain ⟨i, made, rfl, hslot, rfl⟩ := effect_calls_eq_ok_iff.mp heffect
  have hrec := recorded_run (steps.take k)
  rw [hrec.slots, List.getElem?_map, Option.map_eq_some_iff] at hslot
  obtain ⟨⟨x, given⟩, hentry, hmade⟩ := hslot
  obtain rfl : x = .table made := of_slot_table hmade
  obtain ⟨hi, _⟩ := history_getElem?_eq_some_iff.mp hentry
  rw [List.getElem?_take] at hi
  obtain ⟨hik, hi⟩ := Option.ite_none_right_eq_some.mp hi
  obtain ⟨parts, hasked, hparts⟩ := hrec.calls i
  obtain ⟨later, hlater⟩ := answers_append (steps.take k) (steps.drop k)
  rw [List.take_append_drop] at hlater
  refine ⟨i, made, _, parts, rfl, hik, hi, rfl, ?_, ?_⟩
  · rw [← hasked, askedOf, List.map_map]
    rfl
  · rw [history_take hle, hlater]
    exact hparts.imp fun _ _ ha => ha.append

theorem effect_of_refused {steps : List Step} {k : Nat} {refusal : Refusal}
    (hk : steps[k]? = some x) (h : (run steps).answers[k]? = some (.error refusal)) :
    (run (steps.take k)).effect x = .error refusal := by
  rw [answers_getElem? hk, Option.some.injEq] at h
  exact answerTo_eq_error_iff.mp h

theorem exists_step {steps : List Step} {k : Nat} {answer : Except Refusal Answer}
    (h : (run steps).answers[k]? = some answer) : ∃ x, steps[k]? = some x := by
  have hk := (List.getElem?_eq_some_iff.mp h).1
  rw [answers_length] at hk
  exact ⟨_, List.getElem?_eq_getElem hk⟩

/-- A refused step fills its slot with nothing, and adds nothing but its refusal. -/
theorem run_take_of_refused {steps : List Step} {k : Nat} {refusal : Refusal}
    (h : (run steps).answers[k]? = some (.error refusal)) :
    run (steps.take (k + 1)) =
      { run (steps.take k) with
        slots := (run (steps.take k)).slots ++ [.empty]
        answers := (run (steps.take k)).answers ++ [.error refusal] } := by
  obtain ⟨x, hk⟩ := exists_step h
  rw [List.take_add_one, hk, Option.toList_some, run_concat]
  exact step_of_error (effect_of_refused hk h)

/-- What a refused step leaves of itself among the others is its refusal. -/
theorem run_of_refused (before rest : List Step) :
    ∃ (s : State) (later : List (Except Refusal Answer)), ∀ x refusal,
      (run before).effect x = .error refusal → run (before ++ x :: rest) =
        { s with answers := (run before).answers ++ .error refusal :: later } := by
  let gap : State := { run before with slots := (run before).slots ++ [.empty] }
  obtain ⟨later, hlater⟩ := foldl_step_answers gap rest
  refine ⟨rest.foldl State.step gap, later, fun x refusal hx => ?_⟩
  calc run (before ++ x :: rest)
    _ = rest.foldl State.step ((run before).step x) := run_append before (x :: rest)
    _ = rest.foldl State.step { gap with answers := (run before).answers ++ [.error refusal] } := by
      rw [step_of_error hx]
    _ = _ := by rw [hlater, List.append_assoc, List.singleton_append]

/-- A refused step in the place of another changes nothing but the answer in that place. -/
theorem run_set_of_refused {steps : List Step} {k : Nat} {refusal refusal' : Refusal}
    (h : (run steps).answers[k]? = some (.error refusal)) (y : Step)
    (h' : (run (steps.set k y)).answers[k]? = some (.error refusal')) :
    run (steps.set k y) =
      { run steps with answers := (run steps).answers.set k (.error refusal') } := by
  obtain ⟨x, hk⟩ := exists_step h
  have hlt := (List.getElem?_eq_some_iff.mp hk).1
  have hx := effect_of_refused hk h
  have hy := effect_of_refused (List.getElem?_set_self hlt) h'
  rw [List.take_set_of_le (Nat.le_refl k)] at hy
  obtain ⟨hparted, hlength⟩ := parted hk
  obtain ⟨s, later, hs⟩ := run_of_refused (steps.take k) (steps.drop (k + 1))
  have hanswers : (run (steps.take k)).answers.length = k := by rw [answers_length, hlength]
  have hold : run steps = _ := (congrArg run hparted).trans (hs x refusal hx)
  have hset : steps.set k y = steps.take k ++ y :: steps.drop (k + 1) := by
    rw [List.set_eq_take_append_cons_drop, if_pos hlt]
  rw [hset, hs y refusal' hy, hold, List.set_append_right _ _ (Nat.le_of_eq hanswers), hanswers,
    Nat.sub_self, List.set_cons_zero]

/-- A session leaves what its history says. Each address that was resolved is told of once, in
order, and nothing else is. A question about the calls of a strategy, which is answered whenever
the strategy was made before, is answered with what the steps before asked of it. And a refused
step adds nothing but its refusal, so with any other refused step in its place everything but
that refusal is the same. -/
theorem session_leaves_history (steps : List Step) :
    let s := run steps
    let h := history steps
    (h.map Prod.fst = steps ∧ h.map Prod.snd = s.answers) ∧
    (∃ parts, s.events = parts.flatten ∧ List.Forall₂ (Tells s.answers) h parts) ∧
    (∀ (k : Nat) of answer, h[k]? = some (.calls of, .ok answer) →
      ∃ i made asked parts, of = some i ∧ i < k ∧ steps[i]? = some (.table made) ∧
        answer = .calls asked ∧ asked.map Strategy.Call.text = parts.flatten ∧
        List.Forall₂ (Asks s.answers i) (h.take k) parts) ∧
    (∀ (i k : Nat) made, i < k → steps[i]? = some (.table made) →
      steps[k]? = some (.calls (some i)) → ∃ answer, s.answers[k]? = some (.ok answer)) ∧
    ∀ (k : Nat) refusal, s.answers[k]? = some (.error refusal) →
      (run (steps.take (k + 1)) =
        { run (steps.take k) with
          slots := (run (steps.take k)).slots ++ [.empty]
          answers := (run (steps.take k)).answers ++ [.error refusal] }) ∧
      ∀ y refusal', (run (steps.set k y)).answers[k]? = some (.error refusal') →
        run (steps.set k y) = { s with answers := s.answers.set k (.error refusal') } := by
  intro s h
  have hlength : steps.length = s.answers.length := (answers_length steps).symm
  refine ⟨⟨List.map_fst_zip (Nat.le_of_eq hlength), List.map_snd_zip (Nat.le_of_eq hlength.symm)⟩,
    (recorded_run steps).events, ?calls, ?answered, ?refused⟩
  case calls => exact fun k of answer hk => asked_before hk
  case answered => exact fun i k made hik hi hk => calls_answered hik hi hk
  case refused =>
    intro k refusal hk
    exact ⟨run_take_of_refused hk, fun y refusal' hy => run_set_of_refused hk y hy⟩

/-- Two strategies are used in turn, and step 5 names a platform for a strategy. -/
theorem session_leaves_history_interleaved :
    let file (p : Platform) : String := p.ident ++ ".tar.gz"
    let steps : List Step :=
      [.table ⟨"a/", file⟩, .table ⟨"b/", file⟩, .platform (.ident "macos-x86_64"),
        .url (some 0) (some 2), .base (some 1), .url (some 2) (some 2), .file (some 1) (some 2),
        .file (some 0) (some 2), .calls (some 0)]
    let s := run steps
    let asked : List Strategy.Call := [.base, .file .macosX8664, .file .macosX8664]
    s.events = [.resolved .macosX8664 "a/macos-x86_64.tar.gz"] ∧
    (history steps)[8]? = some (.calls (some 0), .ok (.calls asked)) ∧
    (∃ parts, asked.map Strategy.Call.text = parts.flatten ∧
      List.Forall₂ (Asks s.answers 0) ((history steps).take 8) parts) ∧
    s.answers[5]? = some (.error .notStrategy) ∧
    run (steps.set 5 (.calls (some 2))) =
      { s with answers := s.answers.set 5 (.error .notTable) } := by
  intro file steps s asked
  obtain ⟨-, -, hasked, -, hrefused⟩ := session_leaves_history steps
  have hcalls : (history steps)[8]? = some (.calls (some 0), .ok (.calls asked)) :=
    history_getElem?_eq_some_iff.mpr ⟨rfl, by decide +kernel⟩
  have hlate : s.answers[5]? = some (.error .notStrategy) := by decide +kernel
  refine ⟨by decide +kernel, hcalls, ?asked, hlate, ?refused⟩
  case asked =>
    obtain ⟨i, made, _, parts, hi, -, -, hanswer, htexts, hparts⟩ := hasked 8 _ _ hcalls
    cases hi
    cases hanswer
    exact ⟨parts, htexts, hparts⟩
  case refused => exact (hrefused 5 _ hlate).2 (.calls (some 2)) .notTable (by decide +kernel)

end Session

end TorBundle
