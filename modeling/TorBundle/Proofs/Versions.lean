import TorBundle.Proofs.Addresses
import TorBundle.Proofs.Forms
import TorBundle.Proofs.Names

/-!
# Where a version is found

An address is a form with the version in its two blanks, and a file is one with a single blank.
Their other pieces are fixed words. So a version that is no part of these words is found where it
has been put in, and only there; any other one is found in the words, too, and replacing it spoils
them. Versions with delimiters of their own are left out, since they can be found across pieces.
-/

namespace TorBundle

namespace Release

/-- The words of a file besides the version. -/
def fileWords (p : Platform) : List String :=
  ["tor", "expert", "bundle", (runs p).os, "x86_64.tar.gz"]

/-- The words of an address besides the version. -/
def urlWords (p : Platform) : List String :=
  ["https:", "archive.torproject.org", "tor", "package", "archive", "torbrowser"] ++ fileWords p

def fileForm (p : Platform) : Text.Form where
  first := "tor".toList
  rest := [('-', some "expert".toList), ('-', some "bundle".toList), ('-', none),
    ('-', some (runs p).os.toList), ('-', some "x86_64.tar.gz".toList)]

def urlForm (p : Platform) : Text.Form where
  first := "https:".toList
  rest := [('/', some []), ('/', some "archive.torproject.org".toList), ('/', some "tor".toList),
    ('-', some "package".toList), ('-', some "archive".toList), ('/', some "torbrowser".toList),
    ('/', none), ('/', some (fileForm p).first)] ++ (fileForm p).rest

/-!
## Addresses as forms

The forms are opened with `delta`: for an equation of a form its texts would be compared character
by character.
-/

theorem stem_toList :
    stem.toList = "tor".toList ++ '-' :: ("expert".toList ++ '-' :: ("bundle".toList ++ ['-'])) := by
  decide

theorem ending_toList (p : Platform) :
    (ending p).toList = '-' :: ((runs p).os.toList ++ '-' :: "x86_64.tar.gz".toList) := by
  cases p <;> decide

theorem archive_toList :
    archive.toList = "https:".toList ++ '/' :: '/' :: ("archive.torproject.org".toList ++ '/' ::
      ("tor".toList ++ '-' :: ("package".toList ++ '-' :: ("archive".toList ++ '/' ::
        ("torbrowser".toList ++ ['/']))))) := by
  decide

theorem file_eq_put (r : Release) (p : Platform) :
    (Strategy.file r p).toList = (fileForm p).put r.version.toList := by
  change (r.file p).toList = _
  rw [file_toList, stem_toList, ending_toList]
  delta fileForm
  simp [Text.Form.put]

theorem url_eq_put (r : Release) (p : Platform) :
    (Strategy.url r p).toList = (urlForm p).put r.version.toList := by
  rw [url_toList, archive_toList, stem_toList, ending_toList]
  delta urlForm fileForm
  simp [Text.Form.put]

theorem fileForm_spares {v : List Char} (hd : '-' ∉ v) (p : Platform) : (fileForm p).Spares v := by
  delta fileForm
  simp [Text.Form.Spares, hd]

theorem urlForm_spares {v : List Char} (hd : '-' ∉ v) (hs : '/' ∉ v) (p : Platform) :
    (urlForm p).Spares v := by
  delta urlForm fileForm
  simp [Text.Form.Spares, hd, hs]

theorem fileForm_blanks (p : Platform) : (fileForm p).blanks = 1 := rfl

theorem fileForm_texts (p : Platform) : (fileForm p).texts = (fileWords p).map String.toList := rfl

/-- The one other piece of an address is empty, so that nothing is found in it. -/
theorem urlForm_texts_iff {v : List Char} (hv : v ≠ []) (p : Platform) :
    (∀ text ∈ (urlForm p).texts, ¬ v <:+: text) ↔
      ∀ word ∈ urlWords p, ¬ v <:+: word.toList := by
  have htexts : (urlForm p).texts =
      "https:".toList :: [] :: (urlWords p).tail.map String.toList := rfl
  have hempty : ¬ v <:+: [] := fun h => hv (List.infix_nil.mp h)
  rw [htexts, List.forall_mem_cons, List.forall_mem_cons, List.forall_mem_map, urlWords,
    List.cons_append, List.forall_mem_cons]
  exact and_congr_right' (and_iff_right hempty)

variable {v w : String}

theorem toList_ne_nil (hv : v ≠ "") : v.toList ≠ [] :=
  fun h => hv (String.toList_eq_nil_iff.mp h)

/-- A version without hyphens is found in its file once where it has been put in, and besides as
often as it is found in the words of the file. So it is found there just once exactly if it is no
part of these words. -/
theorem occurrences_in_file (hv : v ≠ "") (hd : '-' ∉ v.toList) (p : Platform) :
    let found := Text.occurrences v (Strategy.file (Release.mk v) p)
    found = 1 + ((fileWords p).map (Text.occurrences v)).sum ∧
      (found = 1 ↔ ∀ word ∈ fileWords p, ¬ v.toList <:+: word.toList) := by
  intro found
  have hne := toList_ne_nil hv
  have hfound : found = 1 + ((fileWords p).map (Text.occurrences v)).sum := by
    have hcount := Text.Form.count_scan_put hne (fileForm_spares hd p)
    rw [fileForm_blanks, fileForm_texts, List.map_map] at hcount
    simp only [found, Text.occurrences]
    rw [file_eq_put]
    exact hcount
  refine ⟨hfound, ?_⟩
  rw [hfound, Nat.add_eq_left, List.sum_eq_zero_iff_forall_eq_nat, List.forall_mem_map]
  exact forall₂_congr fun word _ => Text.count_scan_eq_zero_iff hne

/-- The short version `64` is found once more, in the name of the architecture. -/
theorem occurrences_in_file_64 :
    "64" ≠ "" ∧ '-' ∉ "64".toList ∧
    Text.occurrences "64" (Strategy.file (Release.mk "64") .macosAarch64) = 2 := by
  have hv : "64" ≠ "" := by decide
  have hd : '-' ∉ "64".toList := by decide
  have hwords : ((fileWords .macosAarch64).map (Text.occurrences "64")).sum = 1 := by cbv
  have hfound := (occurrences_in_file hv hd .macosAarch64).1
  rw [hwords] at hfound
  exact ⟨hv, hd, hfound⟩

/-- Replacing a version without hyphens and slashes by another version makes its address that of
the other version exactly if the version is no part of the words of the address. -/
theorem replace_version_iff (hv : v ≠ "") (hd : '-' ∉ v.toList) (hs : '/' ∉ v.toList)
    (hw : w ≠ v) (p : Platform) :
    Text.replace v w (Strategy.resolve (Release.mk v) p).url =
        (Strategy.resolve (Release.mk w) p).url ↔
      ∀ word ∈ urlWords p, ¬ v.toList <:+: word.toList := by
  have hne := toList_ne_nil hv
  have hchanged : w.toList ≠ v.toList := fun h => hw (String.toList_inj.mp h)
  have hurl (u : String) :
      (Strategy.resolve (Release.mk u) p).url.toList = (urlForm p).put u.toList :=
    url_eq_put (Release.mk u) p
  rw [← urlForm_texts_iff hne, ← Text.Form.fill_scan_put_eq_iff hne hchanged
    (urlForm_spares hd hs p), ← String.toList_inj, Text.replace, String.toList_ofList, hurl v,
    hurl w]

/-- The versions `64` and `32` are of one length, and still replacing tells. -/
theorem replace_version_64 :
    "64" ≠ "" ∧ '-' ∉ "64".toList ∧ '/' ∉ "64".toList ∧ "32" ≠ "64" ∧
    Text.replace "64" "32" (Strategy.resolve (Release.mk "64") .linuxX8664).url ≠
      (Strategy.resolve (Release.mk "32") .linuxX8664).url ∧
    Text.replace "13.5.6" "14.0" (Strategy.resolve (Release.mk "13.5.6") .linuxX8664).url =
      (Strategy.resolve (Release.mk "14.0") .linuxX8664).url := by
  have hv : "64" ≠ "" := by decide
  have hd : '-' ∉ "64".toList := by decide
  have hs : '/' ∉ "64".toList := by decide
  have hw : "32" ≠ "64" := by decide
  have hword : "64".toList <:+: "x86_64.tar.gz".toList := by decide
  refine ⟨hv, hd, hs, hw, fun h => ?_, ?_⟩
  · exact (replace_version_iff hv hd hs hw .linuxX8664).mp h "x86_64.tar.gz" (by decide) hword
  · exact (replace_version_iff (by decide) (by decide) (by decide) (by decide)
      .linuxX8664).mpr (by decide)

end Release

end TorBundle
