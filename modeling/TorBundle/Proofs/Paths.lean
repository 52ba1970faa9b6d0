import Mathlib.Data.List.DropRight
import TorBundle.Proofs.Addresses

/-!
# The path of an address

An address is parted by slashes, the last of which stands before the file as long as the version
holds none. Versions with slashes are not refused: each of their slashes adds two segments, since
the version is put in twice, and the last one moves the end of the base into the file.
-/

namespace TorBundle

namespace Text

/-- The segments of a text between the copies of a delimiter. -/
def segments (d : Char) (s : String) : List String :=
  (s.toList.splitOn d).map String.ofList

/-- A text cut just after the last copy of a delimiter. -/
def cutAfterLast (d : Char) (s : String) : String × String :=
  (String.ofList (s.toList.rdropWhile (· != d)), String.ofList (s.toList.rtakeWhile (· != d)))

theorem length_splitOn (d : Char) (s : List Char) : (s.splitOn d).length = s.count d + 1 := by
  induction s with
  | nil => rfl
  | cons c s ih =>
    rw [List.splitOn_cons_eq_if_modifyHead, List.count_cons]
    split
    · rw [List.length_cons, ih]
    · rw [List.length_modifyHead, ih, Nat.add_zero]

theorem length_segments (d : Char) (s : String) :
    (segments d s).length = s.toList.count d + 1 := by
  rw [segments, List.length_map, length_splitOn]

/-- Pieces without the delimiter are found again as segments. -/
theorem segments_intercalate {d : Char} {pieces : List String} (h : ∀ s ∈ pieces, d ∉ s.toList)
    (hne : pieces ≠ []) : segments d ((String.singleton d).intercalate pieces) = pieces := by
  have hlists : pieces.map String.toList ≠ [] := fun hnil => hne (List.map_eq_nil_iff.mp hnil)
  have hsplit : ([d].intercalate (pieces.map String.toList)).splitOn d =
      pieces.map String.toList :=
    List.splitOn_intercalate d (List.forall_mem_map.mpr h) hlists
  rw [segments, String.toList_intercalate, String.toList_singleton, hsplit, List.map_map]
  simp

/-- A text is cut behind a delimiter that no other one follows. -/
theorem cutAfterLast_append {d : Char} {s t : String} (h : d ∉ t.toList) :
    cutAfterLast d (s ++ String.singleton d ++ t) = (s ++ String.singleton d, t) := by
  have hkept : ∀ c ∈ t.toList.reverse, (c != d) = true := by
    intro c hc
    have hct := List.mem_reverse.mp hc
    exact bne_iff_ne.mpr fun hcd => h (hcd ▸ hct)
  have hreverse : (s ++ String.singleton d ++ t).toList.reverse =
      t.toList.reverse ++ d :: s.toList.reverse := by
    simp
  rw [cutAfterLast, List.rdropWhile, List.rtakeWhile, hreverse,
    List.dropWhile_append_of_pos hkept, List.takeWhile_append_of_pos hkept]
  refine Prod.ext (String.toList_inj.mp ?_) (String.toList_inj.mp ?_)
  · simp
  · simp

/-- No delimiter stands behind the cut. -/
theorem not_mem_cutAfterLast (d : Char) (s : String) : d ∉ (cutAfterLast d s).2.toList := by
  intro h
  rw [cutAfterLast, String.toList_ofList] at h
  have hd := List.mem_rtakeWhile_imp h
  simp at hd

end Text

namespace Release

/-- The release that an address is of, read off its sixth segment. -/
def ofUrl (url : String) : Release := ⟨(Text.segments '/' url).getD 5 ""⟩

/-- The pieces of an address between the slashes that the version has no part in. -/
def urlPieces (r : Release) (p : Platform) : List String :=
  ["https:", "", "archive.torproject.org", "tor-package-archive", "torbrowser", r.version,
    Strategy.file r p]

theorem url_eq_base_file (r : Release) (p : Platform) :
    Strategy.url r p = archive ++ r.version ++ String.singleton '/' ++ Strategy.file r p := rfl

theorem url_eq_intercalate (r : Release) (p : Platform) :
    Strategy.url r p = (String.singleton '/').intercalate (urlPieces r p) := by
  have harchive : archive = "https:" ++ "/" ++ "" ++ "/" ++ "archive.torproject.org" ++ "/" ++
      "tor-package-archive" ++ "/" ++ "torbrowser" ++ "/" := by decide
  have hslash : String.singleton '/' = "/" := by decide
  rw [url_eq_base_file, urlPieces, hslash, harchive]
  simp only [String.intercalate_cons_cons, String.intercalate_singleton, String.append_assoc]

theorem slash_mem_file_iff (r : Release) (p : Platform) :
    '/' ∈ (Strategy.file r p).toList ↔ '/' ∈ r.version.toList := by
  have hstem : '/' ∉ stem.toList := by decide
  have hending : '/' ∉ (ending p).toList := by cases p <;> decide
  change '/' ∈ (r.file p).toList ↔ _
  rw [file_toList, List.mem_append, List.mem_append, or_iff_left hending, or_iff_right hstem]

theorem count_slash_url (r : Release) (p : Platform) :
    (Strategy.url r p).toList.count '/' = 6 + 2 * r.version.toList.count '/' := by
  have harchive : archive.toList.count '/' = 5 := by decide
  have hstem : stem.toList.count '/' = 0 := by decide
  have hending : (ending p).toList.count '/' = 0 := by cases p <;> decide
  rw [url_toList]
  simp only [List.count_append, List.count_cons_self, harchive, hstem, hending]
  omega

theorem segments_url {r : Release} (h : '/' ∉ r.version.toList) (p : Platform) :
    Text.segments '/' (Strategy.url r p) = urlPieces r p := by
  have hfile : '/' ∉ (Strategy.file r p).toList := fun hf => h ((slash_mem_file_iff r p).mp hf)
  rw [url_eq_intercalate]
  refine Text.segments_intercalate ?_ (List.cons_ne_nil _ _)
  simp only [urlPieces, List.forall_mem_cons]
  exact ⟨by decide, by decide, by decide, by decide, by decide, h, hfile, nofun⟩

theorem cutAfterLast_url_iff (r : Release) (p : Platform) :
    Text.cutAfterLast '/' (Strategy.url r p) = (Strategy.base r, Strategy.file r p) ↔
      '/' ∉ r.version.toList := by
  rw [← slash_mem_file_iff r p]
  constructor
  · intro h hslash
    have hnot := Text.not_mem_cutAfterLast '/' (Strategy.url r p)
    rw [h] at hnot
    exact hnot hslash
  · intro h
    rw [url_eq_base_file, Text.cutAfterLast_append h]
    rfl

/-- The address of a release has seven segments, and two more for each slash in the version. The
cut after its last slash parts base and file exactly if the version holds no slash. In that case
the version, too, can be read off the address. -/
theorem url_path (v : String) (p : Platform) :
    let r := Release.mk v
    let url := (Strategy.resolve r p).url
    (Text.segments '/' url).length = 7 + 2 * v.toList.count '/' ∧
    (Text.cutAfterLast '/' url = (Strategy.base r, Strategy.file r p) ↔ '/' ∉ v.toList) ∧
    ('/' ∉ v.toList →
      Text.segments '/' url = ["https:", "", "archive.torproject.org", "tor-package-archive",
        "torbrowser", v, Strategy.file r p] ∧
      ofUrl url = r) := by
  intro r url
  refine ⟨?_, cutAfterLast_url_iff r p, fun h => ?_⟩
  · have hcount : url.toList.count '/' = 6 + 2 * v.toList.count '/' := count_slash_url r p
    rw [Text.length_segments, hcount]
    omega
  · have hsegments : Text.segments '/' url = urlPieces r p := segments_url h p
    refine ⟨hsegments, ?_⟩
    rw [ofUrl, hsegments]
    rfl

/-- A nightly version with a slash has nine segments and is cut inside its file; one without a
slash is read off its address. -/
theorem url_path_nightly :
    (Text.segments '/' (Strategy.resolve (Release.mk "14.0/b2") .windowsX8664).url).length = 9 ∧
    Text.cutAfterLast '/' (Strategy.resolve (Release.mk "14.0/b2") .windowsX8664).url ≠
      (Strategy.base (Release.mk "14.0/b2"), Strategy.file (Release.mk "14.0/b2") .windowsX8664) ∧
    '/' ∉ "14.0b2".toList ∧
    ofUrl (Strategy.resolve (Release.mk "14.0b2") .windowsX8664).url = ⟨"14.0b2"⟩ := by
  have hslash : '/' ∈ "14.0/b2".toList := by decide
  have hnone : '/' ∉ "14.0b2".toList := by decide
  have hparted := url_path "14.0/b2" .windowsX8664
  have hwhole := url_path "14.0b2" .windowsX8664
  exact ⟨hparted.1, fun h => hparted.2.1.mp h hslash, hnone, (hwhole.2.2 hnone).2⟩

end Release

end TorBundle
