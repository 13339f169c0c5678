import PublishGate.Page
import PublishGate.Proofs.Pattern.Span
import PublishGate.Proofs.Text.Pieces

/-! # Versions and the lines they stand on -/

namespace PublishGate.VersionPattern

variable {p : VersionPattern}

theorem infix_of_onLine? {line version : List Char} (h : p.onLine? line = some version) :
    version <:+: line := by
  obtain ⟨found, hf, ht⟩ := Option.bind_eq_some_iff.mp h
  cases found with
  | nothing => simp [Pattern.Captured.text?] at ht
  | partly t => simp [Pattern.Captured.text?] at ht
  | text t =>
    obtain rfl : t = version := by simpa [Pattern.Captured.text?] using ht
    exact Pattern.Program.infix_of_searchFrom hf

/-- A version stands on one line of the page. -/
theorem mem_scan {page version : String} (h : version ∈ p.scan page) :
    ∃ line ∈ page.toList.splitOnP isLineEnd, version.toList <:+: line := by
  simp only [scan, List.mem_map, List.mem_filterMap] at h
  obtain ⟨t, ⟨line, hl, ht⟩, rfl⟩ := h
  exact ⟨line, hl, by simpa using infix_of_onLine? ht⟩

/-- No version has a line end in it, whatever the pattern and the page. -/
theorem not_lineEnd_of_mem_scan {page version : String} (h : version ∈ p.scan page) {c : Char}
    (hc : c ∈ version.toList) : isLineEnd c = false := by
  obtain ⟨line, hl, hi⟩ := mem_scan h
  exact Text.not_sep_of_mem_splitOnP hl (hi.subset hc)

end PublishGate.VersionPattern
