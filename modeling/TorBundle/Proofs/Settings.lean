import Mathlib.Data.List.TakeWhile
import TorBundle.Log.Directive

/-!
# Settings of the log

What can be relied on whatever the setting of the log filter is. A level alone lets through what
is as urgent, and the events here are of two levels only. A setting is torn only by a character of
more than one byte: where all are narrow, every offset is between two characters, and a cut is
possible there. It is not said which wide settings are torn, since that hangs on where the blanks
stand.
-/

namespace TorBundle

namespace Text

variable {s : List Char}

/-- All characters are one byte long, as those of ASCII are. -/
def Narrow (s : List Char) : Prop := ∀ c ∈ s, c.utf8Size = 1

namespace Narrow

theorem of_subset {s t : List Char} (h : Narrow t) (hs : s ⊆ t) : Narrow s :=
  fun c hc => h c (hs hc)

theorem of_ascii (h : ∀ c ∈ s, c.toNat < 128) : Narrow s := by
  intro c hc
  rw [Char.utf8Size_eq_one_iff, UInt32.le_iff_toNat_le]
  exact Nat.le_of_lt_succ (h c hc)

theorem utf8Length (h : Narrow s) : utf8Length s = s.length := by
  induction s with
  | nil => rfl
  | cons c s ih =>
    obtain ⟨hc, hs⟩ := List.forall_mem_cons.mp h
    rw [Text.utf8Length, hc, ih hs, List.length_cons, Nat.add_comm]

theorem utf8Length_takeWhile (h : Narrow s) (p : Char → Bool) :
    Text.utf8Length (s.takeWhile p) + (s.dropWhile p).length = s.length := by
  have hfront : Narrow (s.takeWhile p) := h.of_subset (List.takeWhile_subset p)
  rw [hfront.utf8Length, ← List.length_append, List.takeWhile_append_dropWhile]

theorem dropUtf8? (h : Narrow s) {n : Nat} (hn : n ≤ s.length) :
    dropUtf8? n s = some (s.drop n) := by
  induction s generalizing n with
  | nil =>
    obtain rfl := Nat.le_zero.mp hn
    rfl
  | cons c s ih =>
    obtain ⟨hc, hs⟩ := List.forall_mem_cons.mp h
    cases n with
    | zero => rfl
    | succ n =>
      rw [Text.dropUtf8?, hc, if_pos (Nat.le_add_left 1 n), Nat.add_sub_cancel]
      exact ih hs (Nat.le_of_succ_le_succ hn)

theorem takeUtf8? (h : Narrow s) {n : Nat} (hn : n ≤ s.length) :
    takeUtf8? n s = some (s.take n) := by
  induction s generalizing n with
  | nil =>
    obtain rfl := Nat.le_zero.mp hn
    rfl
  | cons c s ih =>
    obtain ⟨hc, hs⟩ := List.forall_mem_cons.mp h
    cases n with
    | zero => rfl
    | succ n =>
      rw [Text.takeUtf8?, hc, if_pos (Nat.le_add_left 1 n), Nat.add_sub_cancel,
        ih hs (Nat.le_of_succ_le_succ hn)]
      rfl

/-- A cut is possible everywhere. -/
theorem sliceUtf8? (h : Narrow s) {start stop : Nat} (hstart : start ≤ s.length)
    (hstop : stop ≤ s.length) :
    sliceUtf8? s start stop = some ((s.drop start).take (stop - start)) := by
  have hrest : Narrow (s.drop start) := h.of_subset (List.drop_subset start s)
  have hlen : stop - start ≤ (s.drop start).length := by
    rw [List.length_drop]
    omega
  rw [Text.sliceUtf8?, h.dropUtf8? hstart, Option.bind_some, hrest.takeUtf8? hlen]

end Narrow

theorem trim_sublist (s : List Char) : (trim s).Sublist s := by
  have hback := (List.dropWhile_sublist (l := (s.dropWhile isBlank).reverse) isBlank).reverse
  rw [List.reverse_reverse] at hback
  exact hback.trans (List.dropWhile_sublist isBlank)

theorem sublist_of_mem_splitOn {a : Char} {piece : List Char} (h : piece ∈ s.splitOn a) :
    piece.Sublist s := by
  induction s generalizing piece with
  | nil =>
    obtain rfl := List.mem_singleton.mp h
    exact List.Sublist.refl []
  | cons c s ih =>
    rw [List.splitOn_cons_eq_if_modifyHead] at h
    split at h
    · rcases List.mem_cons.mp h with rfl | h
      · exact List.nil_sublist _
      · exact (ih h).cons c
    · cases hs : s.splitOn a with
      | nil => exact absurd hs (List.splitOn_ne_nil a s)
      | cons first rest =>
        rw [hs, List.modifyHead_cons] at h
        rcases List.mem_cons.mp h with rfl | h
        · exact (ih (hs ▸ List.mem_cons_self)).cons_cons c
        · exact (ih (hs ▸ List.mem_cons_of_mem _ h)).cons c

end Text

namespace Log

/-- A reading has not come upon a cut inside a character, whatever else it has come to. -/
def Untorn {α : Type} (x : Except ReadFailure α) : Prop := x ≠ .error .torn

theorem untorn_ok {α : Type} (a : α) : Untorn (.ok a) := nofun

theorem untorn_malformed {α : Type} : Untorn (.error .malformed : Except ReadFailure α) := nofun

theorem Untorn.bind {α β : Type} {x : Except ReadFailure α} {f : α → Except ReadFailure β}
    (hx : Untorn x) (hf : ∀ a, Untorn (f a)) : Untorn (x >>= f) := by
  cases x with
  | ok a => exact hf a
  | error e => exact fun h => hx (by cases h; rfl)

theorem Untorn.mapM {α β : Type} {f : α → Except ReadFailure β} {l : List α}
    (h : ∀ a ∈ l, Untorn (f a)) : Untorn (l.mapM f) := by
  induction l with
  | nil => exact untorn_ok []
  | cons a l ih =>
    obtain ⟨ha, hl⟩ := List.forall_mem_cons.mp h
    rw [List.mapM_cons]
    exact ha.bind fun b => (ih hl).bind fun bs => untorn_ok (b :: bs)

namespace Directive

variable {s : List Char}

theorem untorn_cut (h : Text.Narrow s) {start stop : Nat} (hstart : start ≤ s.length)
    (hstop : stop ≤ s.length) : Untorn (cut s start stop) := by
  rw [cut, h.sliceUtf8? hstart hstop]
  exact untorn_ok _

theorem untorn_withLevel (h : Text.Narrow s) (d : Directive) {start : Nat}
    (hstart : start ≤ s.length) : Untorn (withLevel s d start) := by
  refine (untorn_cut h hstart h.utf8Length.le).bind fun level => ?_
  split
  · exact untorn_ok _
  · split
    · exact untorn_ok _
    · exact untorn_malformed

theorem untorn_afterBrackets (h : Text.Narrow s) (d : Directive) {start : Nat} {rest : List Char}
    (hrest : start + rest.length ≤ s.length) : Untorn (afterBrackets s d start rest) := by
  unfold afterBrackets
  split
  · exact untorn_ok _
  · rw [List.length_cons] at hrest
    exact untorn_withLevel h d (by omega)
  · exact untorn_malformed

/-- What follows a bracket fits into the whole text behind it, and so do all the offsets that are
counted from there. -/
theorem untorn_ofBrackets (h : Text.Narrow s) (target : Option String) {start : Nat}
    {inside : List Char} (hi : inside ⊆ s) (hlen : start + inside.length ≤ s.length) :
    Untorn (ofBrackets s target start inside) := by
  have hspan := (h.of_subset hi).utf8Length_takeWhile fun c => c != ']' && c != '\x7b'
  unfold ofBrackets
  dsimp only
  split
  case h_1 rest hrest =>
    rw [hrest, List.length_cons] at hspan
    exact (untorn_cut h (by omega) (by omega)).bind fun _ =>
      untorn_afterBrackets h _ (by omega)
  case h_2 fields hfields =>
    have hsub : fields ⊆ s := fun c hc => hi
      ((List.dropWhile_suffix _).subset (hfields ▸ List.mem_cons_of_mem _ hc))
    have hclose := (h.of_subset hsub).utf8Length_takeWhile fun c => c != '\x7d'
    rw [hfields, List.length_cons] at hspan
    refine (untorn_cut h (by omega) (by omega)).bind fun span => ?_
    split
    case h_1 head rest hrest =>
      rw [hrest, List.length_cons] at hclose
      refine (untorn_cut h (by omega) (by omega)).bind fun text => ?_
      split
      · exact untorn_malformed
      · split
        case h_1 =>
          rw [List.length_cons] at hclose
          exact untorn_afterBrackets h _ (by omega)
        case h_2 => exact untorn_malformed
    case h_2 => exact untorn_malformed
  case h_3 => exact untorn_malformed

theorem untorn_ofChars (h : Text.Narrow s) : Untorn (ofChars s) := by
  have htrim := Text.trim_sublist s
  have hlen := htrim.length_le
  unfold ofChars
  dsimp only
  generalize Text.trim s = body at htrim hlen
  split
  case h_1 => exact untorn_malformed
  case h_2 inside =>
    rw [List.length_cons] at hlen
    have hsub : inside ⊆ s := fun c hc => htrim.subset (List.mem_cons_of_mem _ hc)
    exact untorn_ofBrackets h none hsub (by omega)
  case h_3 c rest _ =>
    split
    · exact untorn_malformed
    · have hname := (h.of_subset htrim.subset).utf8Length_takeWhile fun c => c != '=' && c != '['
      split
      case h_1 => exact untorn_ok _
      case h_2 sign inside hinside =>
        have hsub : inside ⊆ s := fun c hc => htrim.subset
          ((List.dropWhile_suffix _).subset (hinside ▸ List.mem_cons_of_mem _ hc))
        rw [hinside, List.length_cons] at hname
        refine (untorn_cut h (by omega) (by omega)).bind fun name => ?_
        split
        · exact untorn_withLevel h _ (by omega)
        · exact untorn_ofBrackets h _ hsub (by omega)

end Directive

namespace Filter

theorem untorn_ofText {s : String} (h : Text.Narrow s.toList) : Untorn (ofText s) := by
  refine Untorn.mapM fun piece hpiece => Directive.untorn_ofChars ?_
  have hmem : piece ∈ s.toList.splitOn ',' := (List.mem_filter.mp hpiece).1
  exact h.of_subset (Text.sublist_of_mem_splitOn hmem).subset

theorem torn_of_ofSetting? {s : String} (h : ofSetting? (some s) = none) :
    ofText s = .error .torn := by
  unfold ofSetting? at h
  dsimp only at h
  split at h
  · cases h
  · cases h
  · assumption

/-- Every setting in ASCII gives a filter. -/
theorem ofSetting?_ascii {s : String} (h : ∀ c ∈ s.toList, c.toNat < 128) :
    ofSetting? (some s) ≠ none :=
  fun hnone => untorn_ofText (Text.Narrow.of_ascii h) (torn_of_ofSetting? hnone)

theorem ofSetting?_malformed {s : String} (h : ofText s = .error .malformed) :
    ofSetting? (some s) = some standard := by
  simp only [ofSetting?, h]

/-- A level alone decides by how urgent an event is. -/
theorem admits_level (v : Nat) (e : Event) :
    Filter.admits [{ verbosity := v }] e = decide (e.level.verbosity ≤ v) := by
  simp [admits, deciding, Directive.covers]

theorem admits_of_debug_le {v : Nat} (h : Level.debug.verbosity ≤ v) (e : Event) :
    Filter.admits [{ verbosity := v }] e = true := by
  have hlevel : e.level.verbosity ≤ Level.debug.verbosity := by
    cases e with
    | resolved => exact Nat.le_refl 4
    | provisioning => exact Nat.le_succ 3
  rw [admits_level, decide_eq_true_iff]
  exact hlevel.trans h

theorem admits_standard (e : Event) : Filter.admits standard e = (e.level == .info) := by
  rw [standard, admits_level]
  cases e <;> rfl

end Filter

end Log

end TorBundle
