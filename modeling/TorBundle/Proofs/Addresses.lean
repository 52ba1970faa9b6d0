import TorBundle.Release

/-!
# Addresses are told apart

The address of a release is its version between fixed texts, twice, and ends with the name of
the platform whose bundle is run. No ending is the end of another one, whatever stands before
it, and what is left then determines the version. Versions are any texts: nothing here depends
on what they hold.
-/

namespace TorBundle

namespace Release

/-- What stands before the version in an address. -/
def archive : String := "https://archive.torproject.org/tor-package-archive/torbrowser/"

/-- What stands before the version in a file. -/
def stem : String := "tor-expert-bundle-"

/-- What stands after the version in a file. -/
def ending (p : Platform) : String := "-" ++ (runs p).ident ++ ".tar.gz"

theorem file_eq (r : Release) (p : Platform) : r.file p = stem ++ r.version ++ ending p := by
  unfold file stem ending
  simp only [String.append_assoc]

theorem file_toList (r : Release) (p : Platform) :
    (r.file p).toList = stem.toList ++ r.version.toList ++ (ending p).toList := by
  rw [file_eq, String.toList_append, String.toList_append]

theorem url_eq (r : Release) (p : Platform) :
    Strategy.url r p = archive ++ r.version ++ "/" ++ (stem ++ r.version ++ ending p) := by
  rw [← file_eq]
  rfl

theorem url_toList (r : Release) (p : Platform) :
    (Strategy.url r p).toList =
      archive.toList ++ r.version.toList ++ ('/' :: stem.toList) ++ r.version.toList ++
        (ending p).toList := by
  have hslash : "/".toList = ['/'] := rfl
  rw [url_eq]
  simp only [String.toList_append, hslash, List.append_assoc, List.cons_append, List.nil_append]

/-- No ending is the end of that of another bundle. -/
theorem runs_eq_of_ending_suffix :
    ∀ p q, (ending p).toList <:+ (ending q).toList → runs p = runs q := by
  intro p q
  cases p <;> cases q <;> decide +kernel

/-- Texts that end alike have been made for one bundle. -/
theorem runs_eq_of_append_eq {s t : List Char} {p q : Platform}
    (h : s ++ (ending p).toList = t ++ (ending q).toList) : runs p = runs q := by
  have hp : (ending p).toList <:+ t ++ (ending q).toList := ⟨s, h⟩
  have hq : (ending q).toList <:+ t ++ (ending q).toList := List.suffix_append t _
  rcases List.suffix_or_suffix_of_suffix hp hq with hpq | hqp
  · exact runs_eq_of_ending_suffix p q hpq
  · exact (runs_eq_of_ending_suffix q p hqp).symm

theorem ending_eq_of_runs_eq {p q : Platform} (h : runs p = runs q) : ending p = ending q := by
  rw [ending, ending, h]

/-- Two platforms run one bundle if they are equal, or if both are of macOS. -/
theorem runs_eq_iff (p q : Platform) :
    runs p = runs q ↔ p = q ∨
      (p ∈ [Platform.macosX8664, .macosAarch64] ∧ q ∈ [Platform.macosX8664, .macosAarch64]) := by
  cases p <;> cases q <;> decide

/-- A text can be read off a longer one that holds it at both ends. -/
theorem eq_of_both_ends {v w m : List Char} (h : v ++ m ++ v = w ++ m ++ w) : v = w := by
  have hlen : v.length = w.length := by
    have hl := congrArg List.length h
    simp only [List.length_append] at hl
    omega
  rw [List.append_assoc, List.append_assoc] at h
  exact List.append_inj_left h hlen

theorem eq_iff_toList {r s : Release} : r = s ↔ r.version.toList = s.version.toList := by
  rw [String.toList_inj]
  constructor
  · exact congrArg Release.version
  · intro h
    cases r
    cases s
    exact congrArg Release.mk h

theorem file_eq_iff (r s : Release) (p q : Platform) :
    r.file p = s.file q ↔ r = s ∧ runs p = runs q := by
  rw [← String.toList_inj, file_toList, file_toList, eq_iff_toList]
  constructor
  · intro h
    have hr := runs_eq_of_append_eq h
    rw [ending_eq_of_runs_eq hr] at h
    exact ⟨List.append_cancel_left (List.append_cancel_right h), hr⟩
  · rintro ⟨hv, hr⟩
    rw [hv, ending_eq_of_runs_eq hr]

theorem url_eq_iff (r s : Release) (p q : Platform) :
    Strategy.url r p = Strategy.url s q ↔ r = s ∧ runs p = runs q := by
  rw [← String.toList_inj, url_toList, url_toList, eq_iff_toList]
  constructor
  · intro h
    have hr := runs_eq_of_append_eq h
    rw [ending_eq_of_runs_eq hr] at h
    have hmid := List.append_cancel_right h
    simp only [List.append_assoc] at hmid
    have hends := List.append_cancel_left hmid
    rw [← List.append_assoc, ← List.append_assoc] at hends
    exact ⟨eq_of_both_ends hends, hr⟩
  · rintro ⟨hv, hr⟩
    rw [hv, ending_eq_of_runs_eq hr]

/-- Addresses, and files, are equal exactly for equal versions and platforms that run the same
bundle. So releases are equal if they have one address in common, and then they have all. -/
theorem addresses_told_apart :
    (∀ (v w : String) (p q : Platform),
      (Strategy.resolve (Release.mk v) p).url = (Strategy.resolve (Release.mk w) q).url ↔
        v = w ∧ (p = q ∨ (p ∈ [Platform.macosX8664, .macosAarch64] ∧
          q ∈ [Platform.macosX8664, .macosAarch64]))) ∧
    (∀ (v w : String) (p q : Platform),
      Strategy.file (Release.mk v) p = Strategy.file (Release.mk w) q ↔
        v = w ∧ (p = q ∨ (p ∈ [Platform.macosX8664, .macosAarch64] ∧
          q ∈ [Platform.macosX8664, .macosAarch64]))) ∧
    ∀ r s : Release,
      ((r == s) = true ↔ ∃ p, (Strategy.resolve r p).url = (Strategy.resolve s p).url) ∧
      ((r == s) = true ↔ ∀ p, (Strategy.resolve r p).url = (Strategy.resolve s p).url) := by
  have hversion (v w : String) : Release.mk v = Release.mk w ↔ v = w :=
    ⟨congrArg Release.version, congrArg Release.mk⟩
  refine ⟨fun v w p q => ?_, fun v w p q => ?_, fun r s => ⟨?_, ?_⟩⟩
  · rw [← runs_eq_iff, ← hversion v w]
    exact url_eq_iff _ _ p q
  · rw [← runs_eq_iff, ← hversion v w]
    exact file_eq_iff _ _ p q
  · rw [beq_iff_eq]
    constructor
    · rintro rfl
      exact ⟨.linuxX8664, rfl⟩
    · rintro ⟨p, h⟩
      exact ((url_eq_iff r s p p).mp h).1
  · rw [beq_iff_eq]
    constructor
    · rintro rfl p
      rfl
    · intro h
      exact ((url_eq_iff r s _ _).mp (h .linuxX8664)).1

end Release

end TorBundle
