import TorBundle.Proofs.Versions

/-!
# Architectures in an address

A text without hyphens and slashes is found in an address if it is found in the version or in one
of the fixed words, since it cannot begin in one and end in the other. The native architecture of
Apple silicon is no part of a fixed word, on any platform. So it is named by an address only where
the version names it. Nothing is said of versions, which may name anything.
-/

namespace TorBundle

namespace Release

theorem urlForm_blanks (p : Platform) : (urlForm p).blanks = 2 := rfl

theorem infix_file_iff {u : List Char} (hd : '-' ∉ u) (r : Release) (p : Platform) :
    u <:+: (Strategy.file r p).toList ↔
      u <:+: r.version.toList ∨ ∃ word ∈ fileWords p, u <:+: word.toList := by
  have hblanks : (fileForm p).blanks ≠ 0 := by
    rw [fileForm_blanks]
    omega
  have htexts : (∃ text ∈ (fileForm p).texts, u <:+: text) ↔
      ∃ word ∈ fileWords p, u <:+: word.toList := by
    simp only [fileForm_texts, List.mem_map, exists_exists_and_eq_and]
  rw [file_eq_put, Text.Form.infix_put_iff (fileForm_spares hd p) hblanks, htexts]

/-- Where a text without hyphens and slashes is found in an address. -/
theorem infix_url_iff {u : List Char} (hu : u ≠ []) (hd : '-' ∉ u) (hs : '/' ∉ u) (r : Release)
    (p : Platform) :
    u <:+: (Strategy.url r p).toList ↔
      u <:+: r.version.toList ∨ ∃ word ∈ urlWords p, u <:+: word.toList := by
  have hblanks : (urlForm p).blanks ≠ 0 := by
    rw [urlForm_blanks]
    omega
  have htexts : (∃ text ∈ (urlForm p).texts, u <:+: text) ↔
      ∃ word ∈ urlWords p, u <:+: word.toList := by
    have hnone := not_congr (urlForm_texts_iff hu p)
    simpa only [not_forall, not_not, exists_prop] using hnone
  rw [url_eq_put, Text.Form.infix_put_iff (urlForm_spares hd hs p) hblanks, htexts]

/-- The fixed words of an address know no architecture but that of Intel. -/
theorem arm_not_in_words (p : Platform) :
    ¬ ∃ word ∈ urlWords p, "aarch64".toList <:+: word.toList := by
  cases p <;> decide

/-- No address, and no file, names the architecture of Apple silicon on its own account: it is
found there exactly if the version holds it. -/
theorem arm_found_iff (v : String) (p : Platform) :
    ("aarch64".toList <:+: (Strategy.resolve (Release.mk v) p).url.toList ↔
      "aarch64".toList <:+: v.toList) ∧
    ("aarch64".toList <:+: (Strategy.file (Release.mk v) p).toList ↔
      "aarch64".toList <:+: v.toList) := by
  have hne : "aarch64".toList ≠ [] := by decide
  have hhyphen : '-' ∉ "aarch64".toList := by decide
  have hslash : '/' ∉ "aarch64".toList := by decide
  have hfile : ¬ ∃ word ∈ fileWords p, "aarch64".toList <:+: word.toList := by
    rintro ⟨word, hword, hfound⟩
    exact arm_not_in_words p ⟨word, List.mem_append_right _ hword, hfound⟩
  constructor
  · show "aarch64".toList <:+: (Strategy.url (Release.mk v) p).toList ↔ _
    rw [infix_url_iff hne hhyphen hslash, or_iff_left (arm_not_in_words p)]
  · rw [infix_file_iff hhyphen, or_iff_left hfile]

end Release

end TorBundle
