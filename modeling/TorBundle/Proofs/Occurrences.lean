import Mathlib.Data.List.Infix

/-!
# Occurrences in a text

The occurrences of a text in another one are looked for from the left. Each is passed over as a
whole, so they do not overlap. Counting and replacing both go by one reading of the other text, in
which the occurrences are marked. A delimiter that the text looked for does not hold parts this
reading, since nothing is found across it. Nothing is claimed of occurrences of the empty text.
-/

namespace TorBundle.Text

/-- Reads a text from the left: a copy of `v` becomes a mark, any other character stays. -/
def scan (v s : List Char) : List (Option Char) :=
  match s with
  | [] => []
  | c :: rest =>
    if v <+: c :: rest then none :: scan v (rest.drop (v.length - 1))
    else some c :: scan v rest
termination_by s.length
decreasing_by
  all_goals simp only [List.length_drop, List.length_cons]; omega

/-- A marked text with `w` in the place of each mark. -/
def fill (w : List Char) (marked : List (Option Char)) : List Char :=
  marked.flatMap fun m => m.elim w fun c => [c]

/-- How often `v` occurs in a text, from the left and without overlap. -/
def occurrences (v s : String) : Nat :=
  (scan v.toList s.toList).count none

/-- A text with `w` in the place of each of these occurrences of `v`. -/
def replace (v w s : String) : String :=
  String.ofList (fill w.toList (scan v.toList s.toList))

variable {v w s t : List Char} {d : Char}

theorem scan_nil (v : List Char) : scan v [] = [] := by
  rw [scan]

theorem scan_append (hv : v ≠ []) (s : List Char) : scan v (v ++ s) = none :: scan v s := by
  obtain ⟨c, u, rfl⟩ := List.exists_cons_of_ne_nil hv
  have hp : c :: u <+: c :: (u ++ s) := List.prefix_append (c :: u) s
  have hdrop : (u ++ s).drop ((c :: u).length - 1) = s := by simp
  rw [List.cons_append, scan, if_pos hp, hdrop]

theorem scan_cons {c : Char} (h : ¬ v <+: c :: s) : scan v (c :: s) = some c :: scan v s := by
  rw [scan, if_neg h]

/-- What holds of a text can be shown along its reading. -/
@[elab_as_elim]
theorem scan_induction {motive : List Char → Prop} (hv : v ≠ []) (nil : motive [])
    (copy : ∀ s, motive s → motive (v ++ s))
    (kept : ∀ c s, ¬ v <+: c :: s → motive s → motive (c :: s)) (s : List Char) : motive s := by
  induction hn : s.length using Nat.strong_induction_on generalizing s with
  | _ n ih =>
    subst hn
    by_cases hp : v <+: s
    · obtain ⟨u, rfl⟩ := hp
      have hlen := List.length_pos_iff.mpr hv
      exact copy u (ih u.length (by rw [List.length_append]; omega) u rfl)
    · cases s with
      | nil => exact nil
      | cons c s => exact kept c s hp (ih s.length (Nat.lt_succ_self _) s rfl)

/-- A text without `d` that begins another one ends there before the first `d`. -/
theorem prefix_append_cons_iff (hd : d ∉ v) : v <+: s ++ d :: t ↔ v <+: s := by
  induction s generalizing v with
  | nil =>
    cases v with
    | nil => simp
    | cons c v =>
      have hc : c ≠ d := fun h => hd (h ▸ List.mem_cons_self)
      simp [List.cons_prefix_cons, hc]
  | cons c s ih =>
    cases v with
    | nil => simp
    | cons b v =>
      rw [List.cons_append, List.cons_prefix_cons, List.cons_prefix_cons,
        ih (List.not_mem_of_not_mem_cons hd)]

/-- A text without `d` is found on one side of it, if at all. -/
theorem infix_append_cons_iff (hd : d ∉ v) : v <:+: s ++ d :: t ↔ v <:+: s ∨ v <:+: t := by
  induction s with
  | nil =>
    rw [List.nil_append, List.infix_cons_iff, List.infix_nil]
    have hp : v <+: d :: t ↔ v = [] := by
      rw [← List.prefix_nil]
      exact prefix_append_cons_iff (s := []) hd
    rw [hp]
  | cons c s ih =>
    have hp : v <+: c :: (s ++ d :: t) ↔ v <+: c :: s := prefix_append_cons_iff (s := c :: s) hd
    rw [List.cons_append, List.infix_cons_iff, hp, ih, List.infix_cons_iff, or_assoc]

/-- A delimiter parts a reading. -/
theorem scan_append_cons (hv : v ≠ []) (hd : d ∉ v) (s t : List Char) :
    scan v (s ++ d :: t) = scan v s ++ some d :: scan v t := by
  induction s using scan_induction hv with
  | nil =>
    have hn : ¬ v <+: d :: t := fun h =>
      hv (List.prefix_nil.mp ((prefix_append_cons_iff (s := []) hd).mp h))
    rw [List.nil_append, scan_cons hn, scan_nil, List.nil_append]
  | copy s ih => rw [List.append_assoc, scan_append hv, ih, scan_append hv, List.cons_append]
  | kept c s hp ih =>
    have hn : ¬ v <+: c :: (s ++ d :: t) := fun h =>
      hp ((prefix_append_cons_iff (s := c :: s) hd).mp h)
    rw [List.cons_append, scan_cons hn, ih, scan_cons hp, List.cons_append]

/-- Something is marked exactly where there is something to find. -/
theorem none_mem_scan_iff (hv : v ≠ []) : none ∈ scan v s ↔ v <:+: s := by
  induction s using scan_induction hv with
  | nil => simp [scan_nil, hv]
  | copy s ih =>
    rw [scan_append hv]
    exact iff_of_true List.mem_cons_self (List.prefix_append v s).isInfix
  | kept c s hp ih => simp [scan_cons hp, ih, List.infix_cons_iff, hp]

theorem count_scan_eq_zero_iff (hv : v ≠ []) : (scan v s).count none = 0 ↔ ¬ v <:+: s := by
  rw [List.count_eq_zero, none_mem_scan_iff hv]

theorem scan_self (hv : v ≠ []) : scan v v = [none] := by
  have h := scan_append hv []
  rwa [List.append_nil, scan_nil] at h

@[simp] theorem fill_nil (w : List Char) : fill w [] = [] := rfl

@[simp] theorem fill_none (w : List Char) (m : List (Option Char)) :
    fill w (none :: m) = w ++ fill w m := rfl

@[simp] theorem fill_some (w : List Char) (c : Char) (m : List (Option Char)) :
    fill w (some c :: m) = c :: fill w m := rfl

theorem fill_append (w : List Char) (m n : List (Option Char)) :
    fill w (m ++ n) = fill w m ++ fill w n :=
  List.flatMap_append

/-- What has been marked can be put back. -/
theorem fill_scan (hv : v ≠ []) (s : List Char) : fill v (scan v s) = s := by
  induction s using scan_induction hv with
  | nil => rw [scan_nil, fill_nil]
  | copy s ih => rw [scan_append hv, fill_none, ih]
  | kept c s hp ih => rw [scan_cons hp, fill_some, ih]

theorem length_fill_le (h : v.length ≤ w.length) (m : List (Option Char)) :
    (fill v m).length ≤ (fill w m).length := by
  induction m with
  | nil => exact Nat.le_refl 0
  | cons a m ih =>
    cases a with
    | none =>
      rw [fill_none, fill_none, List.length_append, List.length_append]
      omega
    | some c =>
      rw [fill_some, fill_some, List.length_cons, List.length_cons]
      omega

/-- Only where there are no marks does it not matter what is put in their place. -/
theorem fill_eq_fill_iff (h : v ≠ w) (m : List (Option Char)) :
    fill v m = fill w m ↔ none ∉ m := by
  induction m with
  | nil => simp
  | cons a m ih =>
    cases a with
    | some c => simp [ih]
    | none =>
      refine iff_of_false (fun he => h ?_) (fun hn => hn List.mem_cons_self)
      rw [fill_none, fill_none] at he
      have hlen := congrArg List.length he
      rw [List.length_append, List.length_append] at hlen
      have heq : v.length = w.length := by
        rcases Nat.le_total v.length w.length with hle | hle
        · have hrest := length_fill_le hle m
          omega
        · have hrest := length_fill_le hle m
          omega
      exact List.append_inj_left he heq

/-- Replacing changes a text exactly if there is something to replace. -/
theorem fill_scan_eq_self_iff (hv : v ≠ []) (hw : w ≠ v) :
    fill w (scan v s) = s ↔ ¬ v <:+: s := by
  have h := fill_eq_fill_iff hw (scan v s)
  rwa [fill_scan hv, none_mem_scan_iff hv] at h

/-- Replacing by a shorter text makes no text longer, and by a longer one none shorter. -/
theorem length_replaced (hv : v ≠ []) (w : List Char) :
    (∀ s, (fill w (scan v s)).length ≤ s.length) ∨ ∀ s, s.length ≤ (fill w (scan v s)).length := by
  rcases Nat.le_total w.length v.length with hle | hle
  · refine .inl fun s => ?_
    have h := length_fill_le hle (scan v s)
    rwa [fill_scan hv] at h
  · refine .inr fun s => ?_
    have h := length_fill_le hle (scan v s)
    rwa [fill_scan hv] at h

end TorBundle.Text
