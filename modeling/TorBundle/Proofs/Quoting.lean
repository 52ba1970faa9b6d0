import Mathlib.Data.List.DropRight
import TorBundle.Release
import TorBundle.Text

/-!
# Quoted texts are read back

A quoted text is read from the left, character by character, up to the first quotation mark that no
backslash belongs to. What the escapes stand for is restored on the way, so the text comes back as
it was, whatever it holds: no text looks like the escapes of another. A quoted text holds no control
characters, and the quotation marks inside are escaped. The reader takes more than what is ever
written, numbers with leading zeros among it; nothing is said of what it makes of them.
-/

namespace TorBundle

namespace Text.Quoted

/-- How far the reading of one character has come. -/
inductive Progress where
  | between
  | escaped
  | opening
  | number (n : Nat)

def short? : Char → Option Char
  | '0' => some '\x00'
  | 't' => some '\t'
  | 'r' => some '\r'
  | 'n' => some '\n'
  | '"' => some '"'
  | '\\' => some '\\'
  | _ => none

def digit? (c : Char) : Option Nat :=
  (List.range 16).find? fun d => Nat.digitChar d == c

def readFirst (c : Char) (found : Option (List Char × List Char)) :
    Option (List Char × List Char) :=
  found.map fun (value, rest) => (c :: value, rest)

/-- The text up to the closing quotation mark, and what follows that. -/
def read : Progress → List Char → Option (List Char × List Char)
  | _, [] => none
  | .between, c :: s =>
    if c = '"' then some ([], s)
    else if c = '\\' then read .escaped s
    else readFirst c (read .between s)
  | .escaped, c :: s =>
    if c = 'u' then read .opening s
    else (short? c).bind fun d => readFirst d (read .between s)
  | .opening, c :: s => if c = '\x7b' then read (.number 0) s else none
  | .number n, c :: s =>
    if c = '\x7d' then readFirst (Char.ofNat n) (read .between s)
    else (digit? c).bind fun d => read (.number (16 * n + d)) s

def opening (name field : String) : String := name ++ " \x7b " ++ field ++ ": \""

def ofRecord? (name field shown : String) : Option String := do
  let behind ← shown.toList.dropPrefix? (opening name field).toList
  let (value, rest) ← read .between behind
  if rest = " \x7d".toList then some (String.ofList value) else none

inductive Written : Char → List Char → Prop where
  | short {c d : Char} (h : short? d = some c) : Written c ['\\', d]
  | number {c : Char} : Written c (codePoint c)
  | kept {c : Char} (printable : isUnprintable c = false) (quote : c ≠ '"')
      (backslash : c ≠ '\\') : Written c [c]

theorem written_escape (c : Char) : Written c (escape c) := by
  unfold escape
  split
  case h_7 hquote hbackslash =>
    split
    case isTrue => exact .number
    case isFalse h => exact .kept (Bool.eq_false_iff.mpr h) hquote hbackslash
  all_goals exact .short rfl

theorem mem_toDigits {n : Nat} {c : Char} (h : c ∈ Nat.toDigits 16 n) :
    ∃ d < 16, c = Nat.digitChar d := by
  induction n using Nat.strong_induction_on with
  | _ n ih =>
    rw [Nat.toDigits_eq_if (by omega)] at h
    split at h
    case isTrue hn => exact ⟨n, hn, List.mem_singleton.mp h⟩
    case isFalse hn =>
      rcases List.mem_append.mp h with hleft | hlast
      · exact ih (n / 16) (by omega) hleft
      · exact ⟨n % 16, by omega, List.mem_singleton.mp hlast⟩

theorem forall_mem_codePoint {P : Char → Prop} (frame : ∀ x ∈ ['\\', 'u', '\x7b', '\x7d'], P x)
    (digits : ∀ d < 16, P (Nat.digitChar d)) (c : Char) : ∀ x ∈ codePoint c, P x := by
  intro x hx
  simp only [codePoint, List.mem_cons, List.mem_append, List.not_mem_nil, or_false] at hx
  rcases hx with rfl | rfl | rfl | hx | rfl
  · exact frame _ (by decide)
  · exact frame _ (by decide)
  · exact frame _ (by decide)
  · obtain ⟨d, hd, rfl⟩ := mem_toDigits hx
    exact digits d hd
  · exact frame _ (by decide)

theorem digit?_digitChar : ∀ d < 16, digit? (Nat.digitChar d) = some d := by decide

theorem digitChar_ne_brace : ∀ d < 16, Nat.digitChar d ≠ '\x7d' := by decide

theorem read_digitChar {d : Nat} (hd : d < 16) (n : Nat) (s : List Char) :
    read (.number n) (Nat.digitChar d :: s) = read (.number (16 * n + d)) s := by
  rw [read, if_neg (digitChar_ne_brace d hd), digit?_digitChar d hd, Option.bind_some]

theorem read_toDigits (n : Nat) (s : List Char) :
    read (.number 0) (Nat.toDigits 16 n ++ s) = read (.number n) s := by
  induction n using Nat.strong_induction_on generalizing s with
  | _ n ih =>
    rw [Nat.toDigits_eq_if (by omega)]
    split
    case isTrue hn => rw [List.singleton_append, read_digitChar hn, Nat.mul_zero, Nat.zero_add]
    case isFalse hn =>
      have hn' : 16 * (n / 16) + n % 16 = n := Nat.div_add_mod n 16
      rw [List.append_assoc, ih (n / 16) (by omega), List.singleton_append,
        read_digitChar (by omega), hn']

/-- However a character is written, it is read back, whatever follows. -/
theorem read_written {c : Char} {w : List Char} (h : Written c w) (s : List Char) :
    read .between (w ++ s) = readFirst c (read .between s) := by
  cases h with
  | @short d h =>
    have hd : d ≠ 'u' := by
      rintro rfl
      cases h
    show read .escaped (d :: s) = _
    rw [read, if_neg hd, h, Option.bind_some]
  | number =>
    have hopen : read .between (codePoint c ++ s) =
        read (.number 0) (Nat.toDigits 16 c.toNat ++ '\x7d' :: s) := by
      simp [codePoint, read]
    rw [hopen, read_toDigits, read, if_pos rfl, Char.ofNat_toNat]
  | kept _ hquote hbackslash =>
    rw [List.singleton_append, read, if_neg hquote, if_neg hbackslash]

theorem read_encode (s rest : List Char) :
    read .between (encode s ++ '"' :: rest) = some (s, rest) := by
  induction s with
  | nil => rfl
  | cons c s ih =>
    rw [encode_cons, List.append_assoc, read_written (written_escape c), ih]
    rfl

/-- A text that looks like an escape is not taken for one. -/
example : read .between (encode "\\u\x7b7f\x7d\x7f".toList ++ ['"']) =
    some ("\\u\x7b7f\x7d\x7f".toList, []) := by decide

theorem record_toList (name field value : String) :
    (record name field value).toList =
      (opening name field).toList ++ (encode value.toList ++ '"' :: " \x7d".toList) := by
  simp [record, quote, opening]

theorem ofRecord?_record (name field value : String) :
    ofRecord? name field (record name field value) = some value := by
  rw [ofRecord?, record_toList, List.dropPrefix?_append_of_beq _ BEq.rfl]
  simp [read_encode]

theorem isControl_eq_false_iff {c : Char} :
    isControl c = false ↔ ¬(c.toNat ≤ 0x1F ∨ 0x7F ≤ c.toNat ∧ c.toNat ≤ 0x9F) := by
  rw [← Bool.not_eq_true]
  apply not_congr
  simp only [isControl, Bool.or_eq_true, Bool.and_eq_true, decide_eq_true_eq]
  omega

theorem not_control_of_short? {c d : Char} (h : short? d = some c) : isControl d = false := by
  unfold short? at h
  split at h
  case h_7 => cases h
  all_goals decide

theorem not_control_of_written {c : Char} {w : List Char} (h : Written c w) :
    ∀ x ∈ w, isControl x = false := by
  cases h with
  | @short d h =>
    simp only [List.forall_mem_cons]
    exact ⟨rfl, not_control_of_short? h, nofun⟩
  | number => exact forall_mem_codePoint (by simp [isControl]) (by decide) c
  | kept printable =>
    rw [List.forall_mem_singleton]
    exact (Bool.or_eq_false_iff.mp printable).1

theorem not_control_of_mem_encode {s : List Char} : ∀ x ∈ encode s, isControl x = false := by
  intro x hx
  obtain ⟨c, -, hc⟩ := List.mem_flatMap.mp hx
  exact not_control_of_written (written_escape c) x hc

def backslashesAtEnd (s : List Char) : Nat := (s.rtakeWhile (· == '\\')).length

theorem backslashesAtEnd_concat_self (s : List Char) :
    backslashesAtEnd (s ++ ['\\']) = backslashesAtEnd s + 1 := by
  simp [backslashesAtEnd]

theorem backslashesAtEnd_concat_of_ne {c : Char} (hc : c ≠ '\\') (s : List Char) :
    backslashesAtEnd (s ++ [c]) = 0 := by
  simp [backslashesAtEnd, hc]

/-- A character that is written ends with an even number of backslashes, if any. -/
theorem backslashesAtEnd_written {c : Char} {w : List Char} (h : Written c w) (s : List Char) :
    backslashesAtEnd (s ++ w) = backslashesAtEnd s + 2 ∨ backslashesAtEnd (s ++ w) = 0 := by
  cases h with
  | @short d h =>
    have hsplit : s ++ ['\\', d] = s ++ ['\\'] ++ [d] := by simp
    rw [hsplit]
    by_cases hd : d = '\\'
    · rw [hd, backslashesAtEnd_concat_self, backslashesAtEnd_concat_self]
      exact .inl rfl
    · exact .inr (backslashesAtEnd_concat_of_ne hd _)
  | number =>
    have hsplit : s ++ codePoint c =
        s ++ ('\\' :: 'u' :: '\x7b' :: Nat.toDigits 16 c.toNat) ++ ['\x7d'] := by
      simp [codePoint]
    rw [hsplit]
    exact .inr (backslashesAtEnd_concat_of_ne (by decide) _)
  | kept _ _ hbackslash => exact .inr (backslashesAtEnd_concat_of_ne hbackslash s)

theorem eq_of_written_quote {c : Char} {w u v : List Char} (h : Written c w)
    (hw : w = u ++ '"' :: v) : u = ['\\'] := by
  have hmem : '"' ∈ w := by
    rw [hw]
    exact List.mem_append_right u List.mem_cons_self
  cases h with
  | @short d h =>
    rcases u with _ | ⟨x, _ | ⟨y, u⟩⟩
    · cases hw
    · cases hw
      rfl
    · have hlength := congrArg List.length hw
      simp only [List.length_cons, List.length_append, List.length_nil] at hlength
      omega
  | number =>
    have hnone := forall_mem_codePoint (P := (· ≠ '"')) (by simp) (by decide) c
    exact absurd rfl (hnone _ hmem)
  | kept _ hquote =>
    exact absurd (List.mem_singleton.mp hmem).symm hquote

/-- Each quotation mark in a quoted text is escaped: the backslashes before it are odd in number,
so that the last of them is not itself escaped. -/
theorem odd_backslashes {s p u v : List Char} (hp : backslashesAtEnd p % 2 = 0)
    (h : encode s = u ++ '"' :: v) : backslashesAtEnd (p ++ u) % 2 = 1 := by
  induction s generalizing p u with
  | nil =>
    have hlength := congrArg List.length h
    simp at hlength
  | cons c s ih =>
    rw [encode_cons] at h
    have hnext : backslashesAtEnd (p ++ escape c) % 2 = 0 := by
      rcases backslashesAtEnd_written (written_escape c) p with htwo | hnone <;> omega
    rcases List.append_eq_append_iff.mp h with ⟨u', rfl, hrest⟩ | ⟨v', hescape, hv⟩
    · rw [← List.append_assoc]
      exact ih hnext hrest
    · cases v' with
      | nil =>
        rw [List.append_nil] at hescape
        rw [← hescape, ← List.append_nil (p ++ escape c)]
        exact ih hnext hv.symm
      | cons x v' =>
        obtain ⟨rfl, -⟩ := List.cons.inj hv
        rw [eq_of_written_quote (written_escape c) hescape, backslashesAtEnd_concat_self]
        omega

end Text.Quoted

theorem Text.printedLines_of_not_control {s : String}
    (h : ∀ c ∈ s.toList, isControl c = false) : printedLines s = [s] := by
  have hfeed : ∀ c ∈ s.toList, (c == '\n') = false := by
    intro c hc
    apply beq_eq_false_iff_ne.mpr
    rintro rfl
    exact absurd (h _ hc) (by decide)
  have hreturn : '\r' ∉ s.toList := fun hc => absurd (h _ hc) (by decide)
  have hsplit : s.toList.splitOn '\n' = [s.toList] := List.splitOnP_eq_singleton hfeed
  have hkept : withoutReturn s.toList = s.toList := by
    unfold withoutReturn
    split
    case h_1 hlast => exact absurd (List.mem_of_getLast? hlast) hreturn
    case h_2 => rfl
  rw [printedLines, hsplit, List.map_singleton, hkept, String.ofList_toList]

namespace Text.Quoted

/-- What the text of a record with one text field has to be like. The records are those made of
texts, and each is shown under the name and the field. -/
structure Faithful {α : Type} (name field : String) (make : String → α) (shown : α → String) :
    Prop where
  told_apart : ∀ s t, (shown (make s) = shown (make t) ↔ make s = make t) ∧ (make s = make t ↔ s = t)
  read_back : ∀ s, ofRecord? name field (shown (make s)) = some s
  no_control : ∀ s, ∀ c ∈ (shown (make s)).toList,
    ¬(c.toNat ≤ 0x1F ∨ 0x7F ≤ c.toNat ∧ c.toNat ≤ 0x9F)
  one_line : ∀ s, printedLines (shown (make s)) = [shown (make s)]
  /-- Each quotation mark between the two has an odd number of backslashes before it. -/
  quoted : ∀ s,
    (shown (make s)).toList =
      (opening name field).toList ++ (encode s.toList ++ '"' :: " \x7d".toList) ∧
    ∀ u v, encode s.toList = u ++ '"' :: v → backslashesAtEnd u % 2 = 1

theorem faithful_record {α : Type} {name field : String} {make : String → α} {shown : α → String}
    (hshown : ∀ s, shown (make s) = record name field s)
    (hopening : ∀ c ∈ (opening name field).toList, isControl c = false) :
    Faithful name field make shown := by
  have hread (s : String) : ofRecord? name field (shown (make s)) = some s := by
    rw [hshown, ofRecord?_record]
  have hvalue (s t : String) (h : shown (make s) = shown (make t)) : s = t := by
    have heq := hread s
    rw [h, hread t] at heq
    exact (Option.some.inj heq).symm
  have hcontrol (s : String) : ∀ c ∈ (shown (make s)).toList, isControl c = false := by
    rw [hshown, record_toList]
    simp only [List.forall_mem_append, List.forall_mem_cons]
    exact ⟨hopening, not_control_of_mem_encode, rfl, by simp [isControl]⟩
  refine ⟨fun s t => ⟨⟨?_, congrArg shown⟩, ⟨?_, congrArg make⟩⟩, hread, ?_, ?_, ?_⟩
  · intro h
    rw [hvalue s t h]
  · intro h
    exact hvalue s t (congrArg shown h)
  · intro s c hc
    exact isControl_eq_false_iff.mp (hcontrol s c hc)
  · intro s
    exact printedLines_of_not_control (hcontrol s)
  · intro s
    refine ⟨by rw [hshown, record_toList], fun u v h => ?_⟩
    show backslashesAtEnd ([] ++ u) % 2 = 1
    exact odd_backslashes rfl h

end Text.Quoted

/-- Refusals of a platform, and releases, are shown to developers by texts that tell them apart and
can be read back, stay on one line, and hold no quotation mark that could be taken for the closing
one. -/
theorem debugText_faithful :
    Text.Quoted.Faithful "UnsupportedPlatform" "platform" Platform.Unsupported.mk
      Platform.Unsupported.debugText ∧
    Text.Quoted.Faithful "TorBinaryUrlStrategy" "version" Release.mk Release.debugText :=
  ⟨Text.Quoted.faithful_record (fun _ => rfl) (by simp [Text.Quoted.opening, Text.isControl]),
    Text.Quoted.faithful_record (fun _ => rfl) (by simp [Text.Quoted.opening, Text.isControl])⟩

end TorBundle
