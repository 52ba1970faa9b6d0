import Mathlib.Data.List.Basic
import TorBundle.Platform

/-!
# Two ways to name a platform

An identifier is an operating system and an architecture with a hyphen between them, and there is
no other hyphen in it. So it can be taken apart at a hyphen in one way only, and a host that names
both parts is answered as its identifier is, by the same platform or the same refusal. Nothing is
assumed of the names that a host gives: they may hold hyphens of their own.
-/

namespace TorBundle

namespace Platform

/-- The operating system, as a host names it. -/
def os : Platform → String
  | .linuxX8664 => "linux"
  | .macosX8664 | .macosAarch64 => "macos"
  | .windowsX8664 => "windows"

/-- The architecture, as a host names it. -/
def arch : Platform → String
  | .macosAarch64 => "aarch64"
  | .linuxX8664 | .macosX8664 | .windowsX8664 => "x86_64"

theorem ident_eq (p : Platform) : p.ident = p.os ++ "-" ++ p.arch := by
  cases p <;> decide

theorem mem_all (p : Platform) : p ∈ all := by
  cases p <;> decide

theorem ident_injective {p q : Platform} (h : p.ident = q.ident) : p = q := by
  revert h
  cases p <;> cases q <;> decide

theorem hyphen_not_mem_os (p : Platform) : '-' ∉ p.os.toList := by
  cases p <;> decide

theorem hyphen_not_mem_arch (p : Platform) : '-' ∉ p.arch.toList := by
  cases p <;> decide

/-- An identifier can be taken apart at a hyphen in one way only. -/
theorem joined_eq_ident_iff {os arch : String} {p : Platform} :
    os ++ "-" ++ arch = p.ident ↔ os = p.os ∧ arch = p.arch := by
  constructor
  · intro h
    rw [ident_eq] at h
    have hchars : p.os.toList ++ '-' :: p.arch.toList = os.toList ++ '-' :: arch.toList := by
      simpa [String.toList_append] using (congrArg String.toList h).symm
    obtain ⟨ho, _, ha⟩ :=
      (List.append_cons_inj_of_notMem (hyphen_not_mem_os p) (hyphen_not_mem_arch p)).mp hchars
    exact ⟨(String.toList_inj.mp ho).symm, (String.toList_inj.mp ha).symm⟩
  · rintro ⟨rfl, rfl⟩
    exact (ident_eq p).symm

/-- An identifier is found exactly by its own text. -/
theorem ofIdent_eq_ok_iff {s : String} {p : Platform} : ofIdent s = .ok p ↔ s = p.ident := by
  unfold ofIdent
  split
  case h_1 q hq =>
    have hqs : q.ident = s := by simpa using List.find?_some hq
    constructor
    · intro h
      cases h
      exact hqs.symm
    · intro h
      rw [ident_injective (hqs.trans h)]
  case h_2 hnone =>
    constructor
    · intro h
      cases h
    · intro h
      have hp := List.find?_eq_none.mp hnone p (mem_all p)
      exact absurd (by simpa using h.symm) hp

theorem ofIdent_error {s : String} {e : Unsupported} (h : ofIdent s = .error e) : e = ⟨s⟩ := by
  unfold ofIdent at h
  split at h <;> cases h
  rfl

/-- A text is refused exactly if it is no identifier, and the refusal tells it as it stands. -/
theorem ofIdent_eq_error_iff {s : String} {e : Unsupported} :
    ofIdent s = .error e ↔ e = ⟨s⟩ ∧ ∀ p : Platform, s ≠ p.ident := by
  constructor
  · intro h
    refine ⟨ofIdent_error h, fun p hp => ?_⟩
    cases h.symm.trans (ofIdent_eq_ok_iff.mpr hp)
  · rintro ⟨rfl, hno⟩
    cases h : ofIdent s with
    | ok p => exact absurd (ofIdent_eq_ok_iff.mp h) (hno p)
    | error e => rw [ofIdent_error h]

theorem ofHost_self (p : Platform) : ofHost p.os p.arch = .ok p := by
  cases p <;> rfl

/-- A host is known by both of its names. -/
theorem ofHost_eq_ok_iff {os arch : String} {p : Platform} :
    ofHost os arch = .ok p ↔ os = p.os ∧ arch = p.arch := by
  constructor
  · intro h
    unfold ofHost at h
    split at h <;> cases h <;> exact ⟨rfl, rfl⟩
  · rintro ⟨rfl, rfl⟩
    exact ofHost_self p

theorem ofHost_error {os arch : String} {e : Unsupported} (h : ofHost os arch = .error e) :
    e = ⟨os ++ "-" ++ arch⟩ := by
  unfold ofHost at h
  split at h <;> cases h
  rfl

theorem ofHost_joined (os arch : String) : ofHost os arch = ofIdent (os ++ "-" ++ arch) := by
  cases hh : ofHost os arch with
  | ok p => rw [ofIdent_eq_ok_iff.mpr (joined_eq_ident_iff.mpr (ofHost_eq_ok_iff.mp hh))]
  | error e =>
    rw [ofHost_error hh]
    cases hi : ofIdent (os ++ "-" ++ arch) with
    | error f => rw [ofIdent_error hi]
    | ok p =>
      have hok := ofHost_eq_ok_iff.mpr (joined_eq_ident_iff.mp (ofIdent_eq_ok_iff.mp hi))
      cases hh.symm.trans hok

/-- A host is answered as the identifier is that joins its two names by a hyphen, and a refusal
tells this text. So it does not matter which hyphen of a text the names are parted at. -/
theorem ofHost_eq_ofIdent (os arch : String) :
    ofHost os arch = ofIdent (os ++ "-" ++ arch) ∧
    ((∃ p, ofHost os arch = .ok p) ∨ ofHost os arch = .error ⟨os ++ "-" ++ arch⟩) ∧
    ∀ os' arch' : String, os' ++ "-" ++ arch' = os ++ "-" ++ arch →
      ofHost os' arch' = ofHost os arch := by
  refine ⟨ofHost_joined os arch, ?_, fun os' arch' h => ?_⟩
  · cases hh : ofHost os arch with
    | ok p => exact .inl ⟨p, rfl⟩
    | error e =>
      rw [ofHost_error hh]
      exact .inr rfl
  · rw [ofHost_joined, ofHost_joined, h]

/-- Names with a hyphen in them are refused on either side of it. -/
theorem ofHost_parted_twice :
    "macos-x86" ++ "-" ++ "64" = "macos" ++ "-" ++ "x86-64" ∧
      ofHost "macos-x86" "64" = ofHost "macos" "x86-64" ∧
      ofHost "macos" "x86-64" = .error ⟨"macos-x86-64"⟩ := by
  have h : "macos-x86" ++ "-" ++ "64" = "macos" ++ "-" ++ "x86-64" := by decide
  exact ⟨h, (ofHost_eq_ofIdent "macos" "x86-64").2.2 "macos-x86" "64" h, rfl⟩

end Platform

end TorBundle
