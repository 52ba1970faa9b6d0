import TorBundle.Platform.Designation
import TorBundle.Proofs.Names

/-!
# Refusals are final

A text is read as a platform exactly if the platform is printed so, and any other text is refused
as it stands. A platform can be asked for by an identifier, by the two names of a host, or by a
target system, and each way words its refusals in its own manner. But what any of them refuses is a
text that no platform is printed as, so asking for it again as an identifier meets with the same
refusal. Nothing is said of a designation that fails before a platform is asked for, such as a
number that no system has.
-/

namespace TorBundle

namespace TargetSystem

/-- A system is refused by its name. -/
theorem platform_error {t : TargetSystem} {e : Platform.Unsupported} (h : t.platform = .error e) :
    e = ⟨t.name⟩ := by
  cases t <;> cases h <;> rfl

theorem hyphen_not_mem_name (t : TargetSystem) : '-' ∉ t.name.toList := by
  cases t <;> decide

end TargetSystem

namespace Platform

theorem hyphen_mem_ident (p : Platform) : '-' ∈ p.ident.toList := by
  rw [ident_eq, String.toList_append, String.toList_append]
  exact List.mem_append_left _ (List.mem_append_right _ List.mem_cons_self)

/-- Every identifier holds a hyphen, and no name of a system does. -/
theorem name_ne_ident (t : TargetSystem) (p : Platform) : t.name ≠ p.ident := by
  intro h
  apply t.hyphen_not_mem_name
  rw [h]
  exact hyphen_mem_ident p

/-- The name of a system is no identifier, whether or not the system has a platform. -/
theorem ofIdent_name (t : TargetSystem) : ofIdent t.name = .error ⟨t.name⟩ :=
  ofIdent_eq_error_iff.mpr ⟨rfl, name_ne_ident t⟩

namespace Unsupported

/-- The refusals that asking for a platform can end in. -/
inductive Arises : Unsupported → Prop where
  | ident {s : String} {e : Unsupported} (h : ofIdent s = .error e) : Arises e
  | host {os arch : String} {e : Unsupported} (h : ofHost os arch = .error e) : Arises e
  | system {t : TargetSystem} {e : Unsupported} (h : t.platform = .error e) : Arises e

/-- What was refused in one way is refused as an identifier too, and by the same refusal. -/
theorem Arises.ofIdent_asked {e : Unsupported} (h : e.Arises) : ofIdent e.asked = .error e := by
  cases h with
  | @ident s _ h =>
    obtain rfl := ofIdent_error h
    exact h
  | @host os arch _ h =>
    obtain rfl := ofHost_error h
    rwa [ofHost_joined] at h
  | @system t _ h =>
    obtain rfl := TargetSystem.platform_error h
    exact ofIdent_name t

theorem arises_iff {e : Unsupported} : e.Arises ↔ ofIdent e.asked = .error e :=
  ⟨Arises.ofIdent_asked, .ident⟩

theorem message_inj {e f : Unsupported} : e.message = f.message ↔ e = f := by
  constructor
  · intro h
    have hasked : e.asked = f.asked := (String.append_right_inj _).mp h
    exact congrArg Unsupported.mk hasked
  · rintro rfl
    rfl

end Unsupported

namespace Designation

theorem refused_of_mapError {asked : Except Unsupported Platform} {e : Unsupported}
    (h : asked.mapError Failure.unsupported = .error (.unsupported e)) : asked = .error e := by
  cases asked with
  | ok p => cases h
  | error f =>
    cases h
    rfl

/-- However a platform is designated, a refusal of it arises in one of the three ways. -/
theorem arises_of_platform {d : Designation} {e : Unsupported}
    (h : d.platform = .error (.unsupported e)) : e.Arises := by
  cases d with
  | ident s => exact .ident (refused_of_mapError h)
  | host os arch => exact .host (refused_of_mapError h)
  | system t => exact .system (refused_of_mapError h)
  | canonical s =>
    cases ht : TargetSystem.ofCanonical? s with
    | none => simp only [platform, ht, Except.error.injEq, reduceCtorEq] at h
    | some t =>
      simp only [platform, ht] at h
      exact .system (refused_of_mapError h)
  | tag n =>
    cases ht : TargetSystem.ofTag? n with
    | none => simp only [platform, ht, Except.error.injEq, reduceCtorEq] at h
    | some t =>
      simp only [platform, ht] at h
      exact .system (refused_of_mapError h)

end Designation

/-- A platform is read from the text it is printed as, however that is to be laid out, and from no
other. All other texts are refused unchanged. The refusals that can arise, in whichever way a
platform is asked for, are those that meet with themselves when their text is asked for again, and
their messages tell them apart. -/
theorem printed_or_refused_for_good :
    (∀ (s : String) (p : Platform) (layout : Layout), ofIdent s = .ok p ↔ s = p.format layout) ∧
    (∀ (s : String) (e : Unsupported) (layout : Layout),
      ofIdent s = .error e ↔ e = ⟨s⟩ ∧ ∀ p : Platform, s ≠ p.format layout) ∧
    (∀ e : Unsupported, e.Arises ↔ ofIdent e.asked = .error e) ∧
    (∀ (d : Designation) (e : Unsupported), d.platform = .error (.unsupported e) → e.Arises) ∧
    (∀ e : Unsupported, e.message = "unsupported platform: " ++ e.asked) ∧
    ∀ e f : Unsupported, e.message = f.message ↔ e = f := by
  refine ⟨?read, ?refused, fun _ => Unsupported.arises_iff, ?designated, fun _ => rfl,
    fun _ _ => Unsupported.message_inj⟩
  case read =>
    intro s p layout
    exact ofIdent_eq_ok_iff
  case refused =>
    intro s e layout
    exact ofIdent_eq_error_iff
  case designated =>
    intro d e h
    exact Designation.arises_of_platform h

/-- A layout that asks for three characters does not keep a platform from being read. An identifier
that a host joins to nothing, and a system without a platform, are refused again. -/
theorem printed_or_refused_for_good_nearly :
    let short : Layout := ⟨.center, '*', some 30, some 3⟩
    ofIdent (Platform.windowsX8664.format short) = .ok .windowsX8664 ∧
    ofHost "linux-x86_64" "" = .error ⟨"linux-x86_64-"⟩ ∧
    ofIdent "linux-x86_64-" = .error ⟨"linux-x86_64-"⟩ ∧
    (Designation.tag 2).platform = .error (.unsupported ⟨"Aarch64Linux"⟩) ∧
    ofIdent "Aarch64Linux" = .error ⟨"Aarch64Linux"⟩ := by
  intro short
  obtain ⟨hread, -, hfinal, harises, -⟩ := printed_or_refused_for_good
  have hhost : ofHost "linux-x86_64" "" = .error ⟨"linux-x86_64-"⟩ := rfl
  have htag : (Designation.tag 2).platform = .error (.unsupported ⟨"Aarch64Linux"⟩) := rfl
  refine ⟨(hread _ _ short).mpr rfl, hhost, ?_, htag, ?_⟩
  · exact (hfinal _).mp (.host hhost)
  · exact (hfinal _).mp (harises _ _ htag)

end Platform

end TorBundle
