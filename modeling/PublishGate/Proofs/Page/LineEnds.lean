import PublishGate.Proofs.Page.Footer

/-! # Lines that end with two characters

On a page with single line ends every line is scanned for itself. A carriage return and the line
feed behind it end two lines, the second of which is empty. So the versions on a page depend on its
line ends just when the pattern finds a version in the empty text. -/

namespace PublishGate.VersionPattern

open Pattern

variable {p : VersionPattern} {dialect : Dialect} {source sep : String} {between : List String}

/-- A page is scanned in two parts where `sep` stands, with the versions `between` from the separator
itself. -/
def Parts (p : VersionPattern) (sep : String) (between : List String) : Prop :=
  ∀ a b, p.scan (a ++ sep ++ b) = p.scan a ++ (between ++ p.scan b)

theorem parts_lineEnd {c : Char} (hsep : sep.toList = [c]) (hc : isLineEnd c = true) :
    p.Parts sep [] :=
  scan_append_lineEnd hsep hc

theorem parts_lineFeed (p : VersionPattern) : p.Parts "\n" [] :=
  parts_lineEnd (c := '\n') rfl rfl

theorem parts_carriageReturn (p : VersionPattern) : p.Parts "\r" [] :=
  parts_lineEnd (c := '\r') rfl rfl

/-- Between a carriage return and a line feed lies an empty line. -/
theorem parts_bothLineEnds (p : VersionPattern) : p.Parts "\r\n" (p.scan "") := by
  intro a b
  have hcut : a ++ "\r\n" ++ b = a ++ "\r" ++ ("" ++ "\n" ++ b) := by
    simp [← String.toList_inj]
  rw [hcut, parts_carriageReturn, parts_lineFeed, List.nil_append, List.nil_append]

theorem Parts.scan_intercalate (h : p.Parts sep between) (line : String) (lines : List String) :
    p.scan (sep.intercalate (line :: lines)) =
      p.scan line ++ lines.flatMap fun next => between ++ p.scan next := by
  induction lines generalizing line with
  | nil => simp
  | cons next lines ih =>
    have hjoin : sep.intercalate (line :: next :: lines) =
        line ++ sep ++ sep.intercalate (next :: lines) := String.intercalate_cons_cons
    rw [hjoin, h, ih, List.flatMap_cons, List.append_assoc]

theorem scan_intercalate_carriageReturn (p : VersionPattern) (lines : List String) :
    p.scan ("\r".intercalate lines) = p.scan ("\n".intercalate lines) := by
  cases lines with
  | nil => rfl
  | cons line lines =>
    rw [(parts_carriageReturn p).scan_intercalate, (parts_lineFeed p).scan_intercalate]

theorem length_flatMap_append (f : String → List String) (lines : List String) :
    (lines.flatMap fun next => between ++ f next).length =
      lines.length * between.length + (lines.flatMap f).length := by
  induction lines with
  | nil => simp
  | cons next lines ih =>
    simp only [List.flatMap_cons, List.length_append, List.length_cons, ih, Nat.succ_mul]
    omega

/-- Every line end of two characters adds what the pattern finds in the empty text. -/
theorem scan_intercalate_bothLineEnds_iff {lines : List String} :
    p.scan ("\r\n".intercalate lines) = p.scan ("\n".intercalate lines) ↔
      lines.length ≤ 1 ∨ p.scan "" = [] := by
  cases lines with
  | nil => simp
  | cons line lines =>
    rw [(parts_bothLineEnds p).scan_intercalate, (parts_lineFeed p).scan_intercalate,
      List.append_cancel_left_eq]
    constructor
    · intro h
      -- equal lists are equally long, so no line end adds a version
      have hlength := congrArg List.length h
      rw [length_flatMap_append, length_flatMap_append] at hlength
      have hzero : lines.length * (p.scan "").length = 0 := by simpa using hlength
      rcases Nat.mul_eq_zero.mp hzero with hnone | hnone
      · exact .inl (by simp [hnone])
      · exact .inr (List.length_eq_zero_iff.mp hnone)
    · rintro (hshort | hnone)
      · obtain rfl : lines = [] := by simpa using hshort
        rfl
      · rw [hnone]

theorem scan_empty_eq_nil_iff (hp : p.program = .ofExpr p.expr) :
    p.scan "" = [] ↔ ¬ p.expr.FirstMatch [] (.text []) := by
  rw [← onLine?_eq_some_iff hp]
  have hscan : p.scan "" = (p.onLine? []).toList.map String.ofList := by
    cases h : p.onLine? [] <;> simp [scan, h]
  rw [hscan]
  cases h : p.onLine? [] with
  | none => simp
  | some t =>
    obtain rfl : t = [] := List.infix_nil.mp (infix_of_onLine? h)
    simp

theorem scan_footer_empty :
    (⟨footer, footerExpr, .ofExpr footerExpr⟩ : VersionPattern).scan "" = [] := by
  decide +kernel

/-! ## Any pattern -/

/-- Lines joined by line feeds or by carriage returns show the same versions. Joined by both, two
lines or more show the same versions exactly if the group captures nothing in the empty text. -/
theorem scan_intercalate_lineEnds (h : read dialect source = .ok p) (lines : List String) :
    p.scan ("\r".intercalate lines) = p.scan ("\n".intercalate lines) ∧
      (p.scan ("\r\n".intercalate lines) = p.scan ("\n".intercalate lines) ↔
        lines.length ≤ 1 ∨ ¬ p.expr.FirstMatch [] (.text [])) := by
  refine ⟨scan_intercalate_carriageReturn p lines, ?_⟩
  rw [scan_intercalate_bothLineEnds_iff, scan_empty_eq_nil_iff (program_of_read h)]

theorem scan_footer_with_bothLineEnds :
    let p : VersionPattern := ⟨footer, footerExpr, .ofExpr footerExpr⟩
    read .standard footer = .ok p ∧ ¬ p.expr.FirstMatch [] (.text []) ∧
      p.scan ("\r\n".intercalate ["<p>", "Currently 2.3.1. Created"]) = ["2.3.1"] := by
  intro p
  have hnone : ¬ p.expr.FirstMatch [] (.text []) := (scan_empty_eq_nil_iff rfl).mp scan_footer_empty
  have hfeeds : p.scan ("\n".intercalate ["<p>", "Currently 2.3.1. Created"]) = ["2.3.1"] := by
    decide +kernel
  obtain ⟨-, hboth⟩ := scan_intercalate_lineEnds read_footer ["<p>", "Currently 2.3.1. Created"]
  exact ⟨read_footer, hnone, (hboth.mpr (.inr hnone)).trans hfeeds⟩

def bareVersion : VersionPattern :=
  let e : Expr := .seq (.look .textStart)
    (.seq (.group 1 (.star true (.chars (.ofPairs [(0x2E, 0x2E), (0x30, 0x39)])))) (.look .textEnd))
  ⟨"^([0-9.]*)$", e, .ofExpr e⟩

/-- A page with a single version gets a second one, the empty text. -/
theorem version_added_by_bothLineEnds :
    read .standard "^([0-9.]*)$" = .ok bareVersion ∧
      (∀ line ∈ ["<p>", "2.3.1"], ∀ c ∈ line.toList, isLineEnd c = false) ∧
      bareVersion.scan ("\n".intercalate ["<p>", "2.3.1"]) = ["2.3.1"] ∧
      bareVersion.scan ("\r".intercalate ["<p>", "2.3.1"]) = ["2.3.1"] ∧
      bareVersion.scan ("\r\n".intercalate ["<p>", "2.3.1"]) = ["", "2.3.1"] := by
  have hread : read .standard "^([0-9.]*)$" = .ok bareVersion := by decide +kernel
  exact ⟨hread, by simp [isLineEnd], by decide +kernel⟩

/-! ## The pattern of the footer -/

/-- A footer is found on the same lines whichever way these end. -/
theorem scan_intercalate_of_footer (h : read .standard footer = .ok p) (lines : List String) :
    p.scan ("\r".intercalate lines) = p.scan ("\n".intercalate lines) ∧
      p.scan ("\r\n".intercalate lines) = p.scan ("\n".intercalate lines) := by
  obtain rfl := Except.ok.inj (read_footer.symm.trans h)
  exact ⟨scan_intercalate_carriageReturn _ lines,
    scan_intercalate_bothLineEnds_iff.mpr (.inr scan_footer_empty)⟩

end PublishGate.VersionPattern
