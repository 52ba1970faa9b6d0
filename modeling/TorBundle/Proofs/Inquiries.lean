import Mathlib.Data.List.Forall2
import TorBundle.Proofs.Names
import TorBundle.Strategy

/-!
# Addresses are found by asking

Inquiries go on in the same minutes: for any number of platforms these hold what the resolutions
tell one by one, in the same order. Only the answers of a strategy matter. Identifiers are read
before anything is asked, and the first that names no platform is refused in place of all.
-/

namespace TorBundle

namespace Strategy

variable {σ : Type} [Strategy σ]

/-- What resolving for a platform has to come to. -/
structure Answered (s : σ) (p : Platform) (r : Resolution) : Prop where
  url : r.url = base s ++ file s p
  calls : r.calls.map Call.text = ["url_prefix", "url_for " ++ p.ident]
  level : r.event.level = .debug
  target : r.event.target = "tor_binary_artifacts::strategy"
  message : r.event.message = "resolved artifact url"
  fields : r.event.fields = [("platform", p.ident), ("url", r.url)]

theorem answered_resolve (s : σ) (p : Platform) : Answered s p (resolve s p) where
  url := rfl
  calls := rfl
  level := rfl
  target := rfl
  message := rfl
  fields := rfl

theorem inquire_run (s : σ) (p : Platform) (m : Minutes) :
    (inquire s p).run m =
      ((resolve s p).url,
        { calls := m.calls ++ (resolve s p).calls
          events := m.events ++ [(resolve s p).event] }) := by
  have hcalls : m.calls ++ [Call.base] ++ [Call.file p] = m.calls ++ [.base, .file p] :=
    List.append_assoc m.calls [.base] [.file p]
  rw [resolve_eq]
  show (url s p, Minutes.mk (m.calls ++ [.base] ++ [.file p]) _) = _
  rw [hcalls]
  rfl

/-- Inquiries for many platforms leave minutes of all of them, in order. -/
theorem mapM_inquire_run (s : σ) (platforms : List Platform) (m : Minutes) :
    (platforms.mapM (inquire s)).run m =
      ((platforms.map (resolve s)).map (·.url),
        { calls := m.calls ++ (platforms.map (resolve s)).flatMap (·.calls)
          events := m.events ++ (platforms.map (resolve s)).map (·.event) }) := by
  induction platforms generalizing m with
  | nil =>
    show ([], m) = _
    simp
  | cons p rest ih =>
    rw [List.mapM_cons, StateT.run_bind, inquire_run]
    show ((resolve s p).url :: ((rest.mapM (inquire s)).run _).1,
      ((rest.mapM (inquire s)).run _).2) = _
    rw [ih]
    simp

theorem mapM_ofIdent_ident (platforms : List Platform) :
    (platforms.map Platform.ident).mapM Platform.ofIdent = .ok platforms := by
  induction platforms with
  | nil => rfl
  | cons p rest ih =>
    rw [List.map_cons, List.mapM_cons, Platform.ofIdent_eq_ok_iff.mpr rfl, ih]
    rfl

/-- The first identifier that names no platform is refused in place of all. -/
theorem mapM_ofIdent_of_error (platforms : List Platform) {x : String} {e : Platform.Unsupported}
    (hx : Platform.ofIdent x = .error e) (rest : List String) :
    (platforms.map Platform.ident ++ x :: rest).mapM Platform.ofIdent = .error e := by
  rw [List.mapM_append, mapM_ofIdent_ident, List.mapM_cons, hx]
  rfl

/-- Identifiers all name platforms, or there is a first one that names none. -/
theorem read_or_refused (idents : List String) :
    (∃ platforms : List Platform, idents = platforms.map Platform.ident) ∨
    ∃ (platforms : List Platform) (x : String) (rest : List String),
      idents = platforms.map Platform.ident ++ x :: rest ∧ Platform.ofIdent x = .error ⟨x⟩ := by
  induction idents with
  | nil => exact .inl ⟨[], rfl⟩
  | cons y idents ih =>
    cases hy : Platform.ofIdent y with
    | error e =>
      rw [Platform.ofIdent_error hy] at hy
      exact .inr ⟨[], y, idents, rfl, hy⟩
    | ok p =>
      obtain rfl := Platform.ofIdent_eq_ok_iff.mp hy
      rcases ih with ⟨platforms, rfl⟩ | ⟨platforms, x, rest, rfl, hx⟩
      · exact .inl ⟨p :: platforms, rfl⟩
      · exact .inr ⟨p :: platforms, x, rest, rfl, hx⟩

theorem resolveAll_idents (s : σ) (platforms : List Platform) :
    resolveAll s (platforms.map Platform.ident) = .ok (platforms.map (resolve s)) := by
  rw [resolveAll, mapM_ofIdent_ident]
  rfl

theorem resolveAll_of_error (s : σ) (platforms : List Platform) {x : String}
    {e : Platform.Unsupported} (hx : Platform.ofIdent x = .error e) (rest : List String) :
    resolveAll s (platforms.map Platform.ident ++ x :: rest) = .error e := by
  rw [resolveAll, mapM_ofIdent_of_error platforms hx]
  rfl

/-- Identifiers that all name platforms are resolved in order: the addresses are base and file one
after the other, and the minutes of asking for them hold the two questions and the one event of
each, repetitions included. Else the first identifier that names none is refused. A strategy whose
type is forgotten fares no differently. -/
theorem resolveAll_in_order (s : σ) (idents : List String) :
    ((∀ x ∈ idents, ∃ p, Platform.ofIdent x = .ok p) →
      ∃ (platforms : List Platform) (found : List Resolution),
        idents = platforms.map Platform.ident ∧
        resolveAll s idents = .ok found ∧
        List.Forall₂ (Answered s) platforms found ∧
        found.map (·.url) = platforms.map (fun p => base s ++ file s p) ∧
        found.flatMap (·.calls) = platforms.flatMap (fun p => [.base, .file p]) ∧
        (platforms.mapM (inquire s)).run {} =
          (found.map (·.url), ⟨found.flatMap (·.calls), found.map (·.event)⟩)) ∧
    ((∃ x ∈ idents, ∀ p, Platform.ofIdent x ≠ .ok p) →
      ∃ (platforms : List Platform) (x : String) (rest : List String),
        idents = platforms.map Platform.ident ++ x :: rest ∧
        Platform.ofIdent x = .error ⟨x⟩ ∧ resolveAll s idents = .error ⟨x⟩) ∧
    resolveAll (Table.of s) idents = resolveAll s idents ∧
    ∀ (platforms : List Platform) (m : Minutes),
      (platforms.mapM (inquire (Table.of s))).run m = (platforms.mapM (inquire s)).run m := by
  refine ⟨fun hread => ?read, fun hbad => ?refused, rfl, fun _ _ => rfl⟩
  case read =>
    rcases read_or_refused idents with ⟨platforms, rfl⟩ | ⟨platforms, x, rest, rfl, hx⟩
    · refine ⟨platforms, platforms.map (resolve s), rfl, resolveAll_idents s platforms, ?_, ?_, ?_,
        mapM_inquire_run s platforms {}⟩
      · rw [List.forall₂_map_right_iff, List.forall₂_same]
        exact fun p _ => answered_resolve s p
      · rw [List.map_map]
        rfl
      · rw [List.flatMap_map]
        rfl
    · obtain ⟨p, hp⟩ := hread x (List.mem_append_right _ List.mem_cons_self)
      cases hx.symm.trans hp
  case refused =>
    rcases read_or_refused idents with ⟨platforms, rfl⟩ | ⟨platforms, x, rest, rfl, hx⟩
    · obtain ⟨_, hmem, hno⟩ := hbad
      obtain ⟨p, -, rfl⟩ := List.mem_map.mp hmem
      exact absurd (Platform.ofIdent_eq_ok_iff.mpr rfl) (hno p)
    · exact ⟨platforms, x, rest, rfl, hx, resolveAll_of_error s platforms hx rest⟩

/-- One platform is asked for twice, of a strategy without a base; and of two identifiers that name
no platform the first one is refused. -/
theorem resolveAll_in_order_repeated :
    let s : Table := ⟨"", fun p => p.ident ++ ".zip"⟩
    let twice := ["macos-x86_64", "macos-x86_64"]
    let mixed := ["macos-x86_64", "linux-aarch64", "plan9-mips"]
    (∀ x ∈ twice, ∃ p, Platform.ofIdent x = .ok p) ∧
    (∃ found, resolveAll s twice = .ok found ∧
      found.map (·.url) = ["macos-x86_64.zip", "macos-x86_64.zip"] ∧
      found.flatMap (·.calls) = [.base, .file .macosX8664, .base, .file .macosX8664]) ∧
    (∃ x ∈ mixed, ∀ p, Platform.ofIdent x ≠ .ok p) ∧
    resolveAll s mixed = .error ⟨"linux-aarch64"⟩ := by
  intro s twice mixed
  have hmac : Platform.ofIdent "macos-x86_64" = .ok .macosX8664 := by decide
  have harm : Platform.ofIdent "linux-aarch64" = .error ⟨"linux-aarch64"⟩ := by decide
  have hread : ∀ x ∈ twice, ∃ p, Platform.ofIdent x = .ok p := by
    simp only [twice, List.forall_mem_cons]
    exact ⟨⟨_, hmac⟩, ⟨_, hmac⟩, nofun⟩
  have hbad : ∃ x ∈ mixed, ∀ p, Platform.ofIdent x ≠ .ok p := by
    refine ⟨"linux-aarch64", by decide, fun p hp => ?_⟩
    cases harm.symm.trans hp
  refine ⟨hread, ?twice, hbad, ?mixed⟩
  case twice =>
    obtain ⟨platforms, found, hidents, hfound, -, hurls, hcalls, -⟩ :=
      (resolveAll_in_order s twice).1 hread
    have hplatforms : platforms = [.macosX8664, .macosX8664] := by
      have hnamed : platforms.map Platform.ident =
          [Platform.macosX8664, .macosX8664].map Platform.ident := hidents.symm
      exact List.map_injective_iff.mpr (fun _ _ => Platform.ident_injective) hnamed
    subst hplatforms
    exact ⟨found, hfound, hurls, hcalls⟩
  case mixed =>
    obtain ⟨platforms, x, rest, hidents, hx, herror⟩ := (resolveAll_in_order s mixed).2.1 hbad
    rcases platforms with _ | ⟨p, _ | ⟨q, platforms⟩⟩
    · obtain ⟨rfl, -⟩ := List.cons.inj hidents
      cases hmac.symm.trans hx
    · obtain ⟨-, htail⟩ := List.cons.inj hidents
      obtain ⟨rfl, -⟩ := List.cons.inj htail
      exact herror
    · obtain ⟨-, htail⟩ := List.cons.inj hidents
      obtain ⟨hq, -⟩ := List.cons.inj htail
      cases harm.symm.trans (Platform.ofIdent_eq_ok_iff.mpr hq)

end Strategy

end TorBundle
