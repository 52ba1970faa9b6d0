import Mathlib.Algebra.GroupWithZero.Nat
import Mathlib.Data.List.Forall2
import TorBundle.Proofs.Occurrences

/-!
# Forms

A form is a text in pieces behind delimiters, some of which are left blank. A text without these
delimiters that is put into the blanks is found there and in the pieces, and nowhere across them.
So it is counted and replaced piece by piece. That a form is filled in with another text instead
can be told from replacing the first one only if a piece holds it.
-/

namespace TorBundle.Text

variable {v w : List Char}

/-- Pieces one after another, each but the first behind its delimiter. -/
def joined (first : List Char) (rest : List (Char × List Char)) : List Char :=
  first ++ rest.flatMap fun e => e.1 :: e.2

@[simp] theorem joined_nil (first : List Char) : joined first [] = first :=
  List.append_nil first

@[simp] theorem joined_cons (first : List Char) (e : Char × List Char)
    (rest : List (Char × List Char)) :
    joined first (e :: rest) = first ++ e.1 :: joined e.2 rest := by
  simp [joined]

theorem count_scan_joined (hv : v ≠ []) {rest : List (Char × List Char)}
    (hd : ∀ e ∈ rest, e.1 ∉ v) (first : List Char) :
    (scan v (joined first rest)).count none =
      (scan v first).count none + (rest.map fun e => (scan v e.2).count none).sum := by
  induction rest generalizing first with
  | nil => simp [joined_nil]
  | cons e rest ih =>
    obtain ⟨he, hrest⟩ := List.forall_mem_cons.mp hd
    rw [joined_cons, scan_append_cons hv he, List.count_append,
      List.count_cons_of_ne (Option.some_ne_none e.1), ih hrest, List.map_cons, List.sum_cons]

theorem fill_scan_joined (hv : v ≠ []) {rest : List (Char × List Char)}
    (hd : ∀ e ∈ rest, e.1 ∉ v) (w first : List Char) :
    fill w (scan v (joined first rest)) =
      joined (fill w (scan v first)) (rest.map fun e => (e.1, fill w (scan v e.2))) := by
  induction rest generalizing first with
  | nil => rw [joined_nil, List.map_nil, joined_nil]
  | cons e rest ih =>
    obtain ⟨he, hrest⟩ := List.forall_mem_cons.mp hd
    rw [joined_cons, scan_append_cons hv he, fill_append, fill_some, ih hrest, List.map_cons,
      joined_cons]

/-- Nothing without these delimiters is found across pieces. -/
theorem infix_joined_iff {rest : List (Char × List Char)} (hd : ∀ e ∈ rest, e.1 ∉ v)
    (first : List Char) :
    v <:+: joined first rest ↔ v <:+: first ∨ ∃ e ∈ rest, v <:+: e.2 := by
  induction rest generalizing first with
  | nil => simp
  | cons e rest ih =>
    obtain ⟨he, hrest⟩ := List.forall_mem_cons.mp hd
    rw [joined_cons, infix_append_cons_iff he, ih hrest, List.exists_mem_cons_iff]

/-- The pieces are no longer than others that stand behind the same delimiters. -/
abbrev NoLonger (rest rest' : List (Char × List Char)) : Prop :=
  List.Forall₂ (fun e e' => e.1 = e'.1 ∧ e.2.length ≤ e'.2.length) rest rest'

theorem length_joined_le {first first' : List Char} {rest rest' : List (Char × List Char)}
    (hfirst : first.length ≤ first'.length) (hrest : NoLonger rest rest') :
    (joined first rest).length ≤ (joined first' rest').length := by
  induction hrest generalizing first first' with
  | nil => rwa [joined_nil, joined_nil]
  | cons he hrest ih =>
    have htail := ih he.2
    simp only [joined_cons, List.length_append, List.length_cons]
    omega

/-- Such texts are equal only piece by piece: a shorter piece is not made up for elsewhere. -/
theorem joined_inj {first first' : List Char} {rest rest' : List (Char × List Char)}
    (hfirst : first.length ≤ first'.length) (hrest : NoLonger rest rest')
    (h : joined first rest = joined first' rest') : first = first' ∧ rest = rest' := by
  induction hrest generalizing first first' with
  | nil =>
    rw [joined_nil, joined_nil] at h
    exact ⟨h, rfl⟩
  | @cons e e' rest rest' he hrest ih =>
    rw [joined_cons, joined_cons] at h
    have hlen := congrArg List.length h
    have htail := length_joined_le he.2 hrest
    simp only [List.length_append, List.length_cons] at hlen
    obtain ⟨rfl, hcons⟩ := List.append_inj h (by omega)
    obtain ⟨hpiece, rfl⟩ := ih he.2 (List.cons.inj hcons).2
    exact ⟨rfl, by rw [Prod.ext he.1 hpiece]⟩

/-- A text in pieces, some of which are left blank. -/
structure Form where
  first : List Char
  rest : List (Char × Option (List Char))

namespace Form

/-- The form with a text put into its blanks. -/
def put (f : Form) (w : List Char) : List Char :=
  joined f.first (f.rest.map fun e => (e.1, e.2.getD w))

/-- The pieces that are not blank. -/
def texts (f : Form) : List (List Char) :=
  f.first :: f.rest.filterMap (·.2)

def blanks (f : Form) : Nat :=
  f.rest.countP fun e => e.2.isNone

/-- The form with its pieces changed. -/
def map (g : List Char → List Char) (f : Form) : Form where
  first := g f.first
  rest := f.rest.map fun e => (e.1, e.2.map g)

/-- The text holds no delimiter of the form. -/
def Spares (f : Form) (v : List Char) : Prop :=
  ∀ e ∈ f.rest, e.1 ∉ v

variable {f : Form}

theorem forall_mem_texts {P : List Char → Prop} :
    (∀ text ∈ f.texts, P text) ↔ P f.first ∧ ∀ e ∈ f.rest, ∀ text ∈ e.2, P text := by
  simp only [texts, List.forall_mem_cons, List.mem_filterMap]
  exact and_congr_right' ⟨fun h e he text ht => h text ⟨e, he, ht⟩,
    fun h text ⟨e, he, ht⟩ => h e he text ht⟩

theorem Spares.delimiters (hd : f.Spares v) (w : List Char) :
    ∀ e ∈ f.rest.map fun e => (e.1, e.2.getD w), e.1 ∉ v := by
  intro e he
  obtain ⟨e', he', rfl⟩ := List.mem_map.mp he
  exact hd e' he'

theorem count_scan_pieces (hv : v ≠ []) (rest : List (Char × Option (List Char))) :
    (rest.map fun e => (scan v (e.2.getD v)).count none).sum =
      (rest.countP fun e => e.2.isNone) +
        ((rest.filterMap (·.2)).map fun text => (scan v text).count none).sum := by
  induction rest with
  | nil => rfl
  | cons e rest ih =>
    obtain ⟨d, _ | text⟩ := e
    · have hblank : (scan v v).count none = 1 := by rw [scan_self hv]; rfl
      rw [List.map_cons, List.sum_cons, ih, List.countP_cons_of_pos rfl,
        List.filterMap_cons_none rfl, Option.getD_none, hblank]
      omega
    · have htexts : ((d, some text) :: rest).filterMap (·.2) = text :: rest.filterMap (·.2) := rfl
      rw [List.map_cons, List.sum_cons, ih, List.countP_cons_of_neg (by simp), htexts,
        List.map_cons, List.sum_cons, Option.getD_some]
      omega

/-- A text is found once in each blank that it has been put into, and besides in the pieces. -/
theorem count_scan_put (hv : v ≠ []) (hd : f.Spares v) :
    (scan v (f.put v)).count none =
      f.blanks + (f.texts.map fun text => (scan v text).count none).sum := by
  have hpieces := count_scan_pieces hv f.rest
  rw [put, count_scan_joined hv (hd.delimiters v), List.map_map, texts, blanks, List.map_cons,
    List.sum_cons]
  change (scan v f.first).count none +
    (f.rest.map fun e => (scan v (e.2.getD v)).count none).sum = _
  omega

/-- A text is found in a filled form if it is in what the blanks were filled with, or in a piece. -/
theorem infix_put_iff (hd : f.Spares v) (hblanks : f.blanks ≠ 0) :
    v <:+: f.put w ↔ v <:+: w ∨ ∃ text ∈ f.texts, v <:+: text := by
  obtain ⟨⟨d, piece⟩, hmem, hnone⟩ := List.countP_pos_iff.mp (Nat.pos_of_ne_zero hblanks)
  obtain rfl : piece = none := Option.isNone_iff_eq_none.mp hnone
  rw [put, infix_joined_iff (hd.delimiters w)]
  constructor
  · rintro (hfirst | ⟨_, he, hv⟩)
    · exact .inr ⟨f.first, List.mem_cons_self, hfirst⟩
    · obtain ⟨⟨d', _ | text⟩, hrest, rfl⟩ := List.mem_map.mp he
      · exact .inl hv
      · have htext : text ∈ f.rest.filterMap (·.2) := List.mem_filterMap.mpr ⟨_, hrest, rfl⟩
        exact .inr ⟨text, List.mem_cons_of_mem _ htext, hv⟩
  · rintro (hw | ⟨text, htext, hv⟩)
    · exact .inr ⟨(d, w), List.mem_map.mpr ⟨_, hmem, rfl⟩, hw⟩
    · rcases List.mem_cons.mp htext with rfl | hrest
      · exact .inl hv
      · obtain ⟨⟨d', piece⟩, hpiece, rfl⟩ := List.mem_filterMap.mp hrest
        exact .inr ⟨(d', text), List.mem_map.mpr ⟨_, hpiece, rfl⟩, hv⟩

/-- Replacing a text fills the blanks that it was put into anew and changes the pieces. -/
theorem fill_scan_put (hv : v ≠ []) (hd : f.Spares v) (w : List Char) :
    fill w (scan v (f.put v)) = (f.map fun text => fill w (scan v text)).put w := by
  rw [put, fill_scan_joined hv (hd.delimiters v), put, map, List.map_map, List.map_map]
  congr 2
  funext ⟨d, piece⟩
  cases piece with
  | none => simp [scan_self hv]
  | some text => rfl

theorem put_map (g : List Char → List Char) (w : List Char) :
    (f.map g).put w = joined (g f.first) (f.rest.map fun e => (e.1, (e.2.map g).getD w)) := by
  rw [put, map, List.map_map]
  rfl

theorem noLonger_map (g h : Option (List Char) → List Char)
    (hle : ∀ piece, (g piece).length ≤ (h piece).length)
    (rest : List (Char × Option (List Char))) :
    NoLonger (rest.map fun e => (e.1, g e.2)) (rest.map fun e => (e.1, h e.2)) := by
  rw [NoLonger, List.forall₂_map_left_iff, List.forall₂_map_right_iff, List.forall₂_same]
  exact fun e _ => ⟨rfl, hle e.2⟩

/-- A change that makes no piece longer, or none shorter, shows wherever a piece is changed. -/
theorem put_map_eq_iff {g : List Char → List Char}
    (hg : (∀ text, (g text).length ≤ text.length) ∨ ∀ text, text.length ≤ (g text).length) :
    (f.map g).put w = f.put w ↔ ∀ text ∈ f.texts, g text = text := by
  rw [forall_mem_texts, put_map, put]
  constructor
  · intro h
    have hparts : g f.first = f.first ∧ (f.rest.map fun e => (e.1, (e.2.map g).getD w)) =
        f.rest.map fun e => (e.1, e.2.getD w) := by
      rcases hg with hle | hge
      · have hpieces : ∀ piece : Option (List Char),
            ((piece.map g).getD w).length ≤ (piece.getD w).length := by
          rintro (_ | text)
          · exact Nat.le_refl _
          · exact hle text
        exact joined_inj (hle f.first) (noLonger_map _ _ hpieces f.rest) h
      · have hpieces : ∀ piece : Option (List Char),
            (piece.getD w).length ≤ ((piece.map g).getD w).length := by
          rintro (_ | text)
          · exact Nat.le_refl _
          · exact hge text
        exact (joined_inj (hge f.first) (noLonger_map _ _ hpieces f.rest) h.symm).imp
          Eq.symm Eq.symm
    refine ⟨hparts.1, fun e he text htext => ?_⟩
    have hpiece := congrArg Prod.snd (List.map_inj_left.mp hparts.2 e he)
    rw [Option.mem_def] at htext
    simpa only [htext, Option.map_some, Option.getD_some] using hpiece
  · rintro ⟨hfirst, hrest⟩
    rw [hfirst]
    congr 1
    refine List.map_inj_left.mpr ?_
    rintro ⟨d, _ | text⟩ he
    · rfl
    · exact congrArg (Prod.mk d) (hrest _ he text rfl)

/-- Replacing a text in a filled form comes to filling it with the new one, exactly if no piece of
the form holds the text. -/
theorem fill_scan_put_eq_iff (hv : v ≠ []) (hw : w ≠ v) (hd : f.Spares v) :
    fill w (scan v (f.put v)) = f.put w ↔ ∀ text ∈ f.texts, ¬ v <:+: text := by
  rw [fill_scan_put hv hd, put_map_eq_iff (length_replaced hv w)]
  exact forall₂_congr fun text _ => fill_scan_eq_self_iff hv hw

end Form

end TorBundle.Text
