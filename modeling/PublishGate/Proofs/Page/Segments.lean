import Mathlib.Data.List.Basic
import PublishGate.Proofs.Page.Lines
import PublishGate.Proofs.Pattern.FirstMatch

/-! # Which segment of a page shows which version

A page is scanned segment by segment: a version comes from the first match of the pattern in its
segment, and from no other part of the page. This holds of patterns of any dialect, as it depends on
the expression alone. -/

namespace PublishGate.VersionPattern

open Pattern

/-- The text between one carriage return or line feed of a page and the next. -/
def segments (page : String) : List (List Char) :=
  page.toList.splitOnP isLineEnd

/-- The versions `found` on a page, each with the number of the segment it is from. -/
structure Located (p : VersionPattern) (page : String) (found : List (Nat × String)) : Prop where
  scanned : p.scan page = found.map Prod.snd
  ordered : found.Pairwise fun x y => x.1 < y.1
  inside : ∀ x ∈ found, ∃ segment, (segments page)[x.1]? = some segment ∧ x.2.toList <:+: segment
  shown : ∀ k segment, (segments page)[k]? = some segment →
    ∀ v, (k, v) ∈ found ↔ p.expr.FirstMatch segment (.text v.toList)
  silent : ∀ k segment, (segments page)[k]? = some segment →
    ((∀ v, (k, v) ∉ found) ↔ ¬ p.expr.MatchesIn segment ∨ p.expr.FirstMatch segment .nothing)

variable {p : VersionPattern} {dialect : Dialect} {source page : String}
  {line t : List Char} {k : Nat} {v : String}

theorem program_of_read (h : read dialect source = .ok p) : p.program = .ofExpr p.expr := by
  unfold read ofParsed at h
  split at h
  · simp at h
  · split at h
    · obtain rfl := Except.ok.inj h
      rfl
    · simp at h

/-! ## One segment -/

theorem onLine?_eq_some_iff (hp : p.program = .ofExpr p.expr) :
    p.onLine? line = some t ↔ p.expr.FirstMatch line (.text t) := by
  rw [onLine?, hp, Option.bind_eq_some_iff]
  constructor
  · rintro ⟨r, hr, ht⟩
    cases r with
    | nothing => simp [Captured.text?] at ht
    | partly u => simp [Captured.text?] at ht
    | text u =>
      obtain rfl : u = t := by simpa [Captured.text?] using ht
      exact Expr.search_eq_some_iff.mp hr
  · intro h
    exact ⟨.text t, Expr.search_eq_some_iff.mpr h, rfl⟩

theorem onLine?_eq_none_iff (hp : p.program = .ofExpr p.expr) :
    p.onLine? line = none ↔ ¬ p.expr.MatchesIn line ∨ p.expr.FirstMatch line .nothing := by
  rw [onLine?, hp, ← Expr.search_eq_none_iff, ← Expr.search_eq_some_iff]
  cases hs : (Program.ofExpr p.expr).search line with
  | none => simp
  | some r =>
    rcases (Expr.search_eq_some_iff.mp hs).eq_nothing_or_text with rfl | ⟨t, rfl⟩
    · simp [Captured.text?]
    · simp [Captured.text?]

/-! ## All segments -/

def finds (p : VersionPattern) (page : String) : List (Nat × String) :=
  (segments page).zipIdx.filterMap fun x => (p.onLine? x.1).map fun t => (x.2, String.ofList t)

theorem mem_finds :
    (k, v) ∈ p.finds page ↔
      ∃ line, (segments page)[k]? = some line ∧ p.onLine? line = some v.toList := by
  simp only [finds, List.mem_filterMap, Option.map_eq_some_iff, Prod.exists, Prod.mk.injEq]
  constructor
  · rintro ⟨line, i, hi, t, ht, rfl, rfl⟩
    exact ⟨line, List.mem_zipIdx_iff_getElem?.mp hi, by rw [ht, String.toList_ofList]⟩
  · rintro ⟨line, hi, ht⟩
    exact ⟨line, k, List.mem_zipIdx_iff_getElem?.mpr hi, v.toList, ht, rfl, String.ofList_toList⟩

theorem scan_eq_map_finds (p : VersionPattern) (page : String) :
    p.scan page = (p.finds page).map Prod.snd := by
  have hfst : segments page = (segments page).zipIdx.map Prod.fst := by rw [List.zipIdx_map_fst]
  rw [scan, ← segments, hfst, List.filterMap_map, finds]
  simp [List.map_filterMap, Function.comp_def]

theorem pairwise_finds (p : VersionPattern) (page : String) :
    (p.finds page).Pairwise fun x y => x.1 < y.1 := by
  have hidx : (segments page).zipIdx.Pairwise fun x y => x.2 < y.2 := by
    rw [← List.pairwise_map (f := Prod.snd) (R := (· < ·)), List.zipIdx_map_snd]
    exact List.pairwise_lt_range'
  rw [finds, List.pairwise_filterMap]
  refine hidx.imp ?_
  intro x y hlt a ha b hb
  obtain ⟨_, -, rfl⟩ := Option.map_eq_some_iff.mp ha
  obtain ⟨_, -, rfl⟩ := Option.map_eq_some_iff.mp hb
  exact hlt

theorem located_finds (hp : p.program = .ofExpr p.expr) (page : String) :
    p.Located page (p.finds page) := by
  constructor
  · exact scan_eq_map_finds p page
  · exact pairwise_finds p page
  · rintro ⟨k, v⟩ hx
    obtain ⟨line, hline, hv⟩ := mem_finds.mp hx
    exact ⟨line, hline, infix_of_onLine? hv⟩
  · intro k line hline v
    rw [← onLine?_eq_some_iff hp, mem_finds, hline]
    simp
  · intro k line hline
    rw [← onLine?_eq_none_iff hp]
    constructor
    · intro hnone
      cases ht : p.onLine? line with
      | none => rfl
      | some t =>
        have hmem : (k, String.ofList t) ∈ p.finds page :=
          mem_finds.mpr ⟨line, hline, by rw [ht, String.toList_ofList]⟩
        exact absurd hmem (hnone _)
    · intro hnone v hmem
      obtain ⟨line', hline', hv⟩ := mem_finds.mp hmem
      obtain rfl := Option.some.inj (hline.symm.trans hline')
      simp [hnone] at hv

theorem scan_append_lineEnd {c : Char} {lineEnd : String} (hl : lineEnd.toList = [c])
    (hc : isLineEnd c = true) (a b : String) :
    p.scan (a ++ lineEnd ++ b) = p.scan a ++ p.scan b := by
  simp [scan, hl, List.splitOnP_append_cons _ _ hc]

/-- Line ends cut a scan apart, and every version found is the group of the first match in a segment
of its own. -/
theorem scan_segmentwise (h : read dialect source = .ok p) :
    (∀ a b, p.scan (a ++ "\n" ++ b) = p.scan a ++ p.scan b ∧
      p.scan (a ++ "\r" ++ b) = p.scan a ++ p.scan b) ∧
    ∀ page, ∃ found, p.Located page found := by
  constructor
  · intro a b
    exact ⟨scan_append_lineEnd (c := '\n') rfl rfl a b, scan_append_lineEnd (c := '\r') rfl rfl a b⟩
  · intro page
    exact ⟨p.finds page, located_finds (program_of_read h) page⟩

/-- A group that takes no part in the first match leaves its segment without a version. -/
theorem scan_segmentwise_with_optional_group :
    let e : Expr := .seq (.chars (.single 'v')) (.optional true (.group 1 (.chars (.single '1'))))
    let p : VersionPattern := ⟨"v(1)?", e, .ofExpr e⟩
    read .standard "v(1)?" = .ok p ∧ p.scan ("v" ++ "\r" ++ "v1") = ["1"] ∧
      e.FirstMatch "v".toList .nothing := by
  intro e p
  have hread : read .standard "v(1)?" = .ok p := by decide +kernel
  obtain ⟨hsep, hlocated⟩ := scan_segmentwise hread
  have hbare : p.scan "v" = [] := by decide +kernel
  have hfull : p.scan "v1" = ["1"] := by decide +kernel
  refine ⟨hread, by rw [(hsep "v" "v1").2, hbare, hfull]; rfl, ?_⟩
  obtain ⟨found, hfound⟩ := hlocated "v"
  obtain rfl : found = [] := by simpa [hbare] using hfound.scanned
  rcases (hfound.silent 0 "v".toList (by decide)).mp (by simp) with hno | hfirst
  · refine absurd ⟨[], "v".toList, .nothing, rfl, ⟨some 'v', []⟩, ?_⟩ hno
    exact .seq (.chars (by decide)) .optionalNone
  · exact hfirst

end PublishGate.VersionPattern
