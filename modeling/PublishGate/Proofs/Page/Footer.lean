import Mathlib.Data.Prod.Lex
import PublishGate.Proofs.Page.Segments
import PublishGate.Proofs.Pattern.Longest

/-! # The version in a footer

The pattern of the site generator's footer takes as much as it can in front of the version, then as
much white space, and then as long a version as it can. -/

namespace PublishGate.VersionPattern

open Pattern Pattern.Expr

def openMark : List Char := "Currently".toList

def endMark : List Char := "Created".toList

/-- A line cut at the marks of a footer. -/
structure Footer where
  lead : List Char
  space : List Char
  version : List Char
  gap : List Char
  tail : List Char
  blank_space : ∀ c ∈ space, Text.isBlank c = true
  version_ne_nil : version ≠ []
  blank_gap : ∀ c ∈ gap, Text.isBlank c = true

namespace Footer

def line (f : Footer) : List Char :=
  f.lead ++ (openMark ++ (f.space ++ (f.version ++ '.' :: (f.gap ++ (endMark ++ f.tail)))))

/-- How far the cuts reach, the leftmost difference deciding. -/
def extent (f : Footer) : ℕ ×ₗ ℕ ×ₗ ℕ :=
  toLex (f.lead.length, toLex (f.space.length, f.version.length))

/-- Of all ways to cut the line this one reaches furthest. -/
def Widest (f : Footer) (line : List Char) : Prop :=
  f.line = line ∧ ∀ g : Footer, g.line = line → g.extent ≤ f.extent

variable {f g : Footer} {line : List Char}

theorem extent_le_iff : g.extent ≤ f.extent ↔ g.lead.length < f.lead.length ∨
    g.lead.length = f.lead.length ∧ (g.space.length < f.space.length ∨
      g.space.length = f.space.length ∧ g.version.length ≤ f.version.length) := by
  simp [extent, Prod.Lex.toLex_le_toLex]

/-- Two ways to cut a line that reach equally far have the same version. -/
theorem version_eq (hl : g.line = f.line) (he : g.extent = f.extent) : g.version = f.version := by
  have he : g.lead.length = f.lead.length ∧ g.space.length = f.space.length ∧
      g.version.length = f.version.length := by simpa [extent] using he
  obtain ⟨-, hl⟩ := List.append_inj hl he.1
  obtain ⟨-, hl⟩ := List.append_inj (List.append_cancel_left hl) he.2.1
  exact (List.append_inj hl he.2.2).1

theorem Widest.version_eq (hf : f.Widest line) (hg : g.Widest line) : g.version = f.version := by
  have he := le_antisymm (hf.2 g hg.1) (hg.2 f hf.1)
  exact Footer.version_eq (hg.1.trans hf.1.symm) he

end Footer

/-! ## The pattern of the footer -/

def lineChars : Charset := .ofPairs [(0, 9), (11, Charset.top)]

def blankChars : Charset := .ofPairs Text.blankRanges

def endParts : List Expr :=
  .chars (.single '.') :: .star true (.chars blankChars) :: word endMark

def versionPart : Expr := .group 1 (.plus true (.chars lineChars))

def footerExpr : Expr :=
  sequence (.star true (.chars lineChars) ::
    (word openMark ++ .star true (.chars blankChars) :: versionPart :: endParts))

theorem read_footer : read .standard footer = .ok ⟨footer, footerExpr, .ofExpr footerExpr⟩ := by
  decide +kernel

theorem toNat_le_top (c : Char) : c.toNat ≤ Charset.top := by
  have hvalid : c.toNat < 0xD800 ∨ 0xDFFF < c.toNat ∧ c.toNat < 0x110000 := c.valid
  unfold Charset.top
  omega

theorem contains_lineChars {c : Char} : lineChars.contains c = true ↔ c ≠ '\n' := by
  have htop := toNat_le_top c
  rw [Ne, ← Char.toNat_inj]
  simp only [lineChars, Charset.ofPairs, Charset.contains, Charset.has, CodeRange.has,
    List.map_cons, List.map_nil, List.any_cons, List.any_nil, Bool.or_false, Bool.or_eq_true,
    Bool.and_eq_true, decide_eq_true_eq]
  have hfeed : '\n'.toNat = 10 := rfl
  omega

theorem contains_blankChars (c : Char) : blankChars.contains c = Text.isBlank c := by
  simp only [blankChars, Charset.ofPairs, Charset.contains, Charset.has, List.any_map]
  rfl

/-! ## What the parts of the pattern find -/

theorem mem_lineChars_iff {cs : List Char} :
    (∀ c ∈ cs, lineChars.contains c = true) ↔ '\n' ∉ cs := by
  simp only [contains_lineChars]
  exact ⟨fun h hm => h _ hm rfl, fun h c hc he => h (he ▸ hc)⟩

theorem mem_blankChars_iff {cs : List Char} :
    (∀ c ∈ cs, blankChars.contains c = true) ↔ ∀ c ∈ cs, Text.isBlank c = true := by
  simp only [contains_blankChars]

def Ends (line : List Char) : Prop :=
  ∃ gap tail, line = '.' :: (gap ++ (endMark ++ tail)) ∧ ∀ c ∈ gap, Text.isBlank c = true

/-- From the front of the line the longest version is captured. -/
def Shows (line : List Char) (r : Captured) : Prop :=
  ∃ s, Loops 1 lineChars (fun line s => Ends line ∧ s = .partly []) line s ∧ r = s.opening

/-- Behind the mark at the front and the longest white space a version is captured. -/
def Opens (line : List Char) (r : Captured) : Prop :=
  ∃ rest, line = openMark ++ rest ∧ Loops 0 blankChars Shows rest r

theorem finds_endMark :
    Finds ((word endMark).foldr Expr.first fun _ => some .nothing) fun line r =>
      endMark <+: line ∧ r = .nothing := by
  intro P r
  rw [finds_word endMark finds_nothing P r]
  constructor
  · rintro ⟨tail, _, hline, rfl, rfl⟩
    exact ⟨⟨tail, hline.symm⟩, by simp⟩
  · rintro ⟨⟨tail, hline⟩, rfl⟩
    exact ⟨tail, .nothing, hline.symm, rfl, by simp⟩

theorem finds_endParts :
    Finds (endParts.foldr Expr.first fun _ => some .nothing) fun line r =>
      Ends line ∧ r = .nothing := by
  intro P r
  rw [endParts, List.foldr_cons, List.foldr_cons, finds_chars (finds_star finds_endMark) P r]
  constructor
  · rintro ⟨c, _, _, hline, hc, ⟨gap, _, _, -, hlong, ⟨⟨tail, rfl⟩, rfl⟩, rfl⟩, rfl⟩
    obtain rfl := contains_single.mp hc
    exact ⟨⟨gap, tail, by rw [hline, hlong.split], mem_blankChars_iff.mp hlong.taken⟩,
      by simp [Captured.taking]⟩
  · rintro ⟨⟨gap, tail, hline, hgap⟩, rfl⟩
    obtain ⟨s, hs⟩ := exists_loops finds_endMark (Nat.zero_le _) (mem_blankChars_iff.mpr hgap)
      (⟨⟨tail, rfl⟩, rfl⟩ : endMark <+: endMark ++ tail ∧ Captured.nothing = .nothing)
    obtain ⟨_, _, _, -, _, ⟨-, rfl⟩, rfl⟩ := id hs
    exact ⟨'.', _, _, hline, contains_single.mpr rfl, hs, by simp [Captured.taking]⟩

theorem finds_closed :
    Finds (fun P => (endParts.foldr Expr.first (fun _ => some .nothing) P).map Captured.closing)
      fun line s => Ends line ∧ s = .partly [] := by
  intro P s
  rw [finds_map Captured.closing finds_endParts P s]
  constructor
  · rintro ⟨_, ⟨hends, rfl⟩, rfl⟩
    exact ⟨hends, rfl⟩
  · rintro ⟨hends, rfl⟩
    exact ⟨_, ⟨hends, rfl⟩, rfl⟩

theorem finds_versionPart :
    Finds (versionPart.first (endParts.foldr Expr.first fun _ => some .nothing)) Shows :=
  finds_map Captured.opening (finds_plus finds_closed)

theorem text_of_shows {line : List Char} {r : Captured} (h : Shows line r) :
    ∃ version post, version ≠ [] ∧
      Longest lineChars.contains (fun t => ∃ s, Ends t ∧ s = Captured.partly []) line version post ∧
      Ends post ∧ r = .text version := by
  obtain ⟨_, ⟨version, post, _, hn, hlong, ⟨hends, rfl⟩, rfl⟩, rfl⟩ := h
  exact ⟨version, post, List.ne_nil_of_length_pos hn, hlong, hends, by simp [Captured.opening]⟩

theorem finds_opens :
    Finds ((word openMark ++ .star true (.chars blankChars) :: versionPart :: endParts).foldr
      Expr.first fun _ => some .nothing) Opens := by
  intro P r
  rw [List.foldr_append, List.foldr_cons, List.foldr_cons,
    finds_word openMark (finds_star finds_versionPart) P r]
  have htext : ∀ {rest s}, Loops 0 blankChars Shows rest s →
      openMark.foldr Captured.taking s = s := by
    rintro rest _ ⟨_, _, _, -, -, hshows, rfl⟩
    obtain ⟨_, _, -, -, -, rfl⟩ := text_of_shows hshows
    simp
  constructor
  · rintro ⟨rest, s, hline, hs, rfl⟩
    exact ⟨rest, hline, by rwa [htext hs]⟩
  · rintro ⟨rest, hline, hs⟩
    exact ⟨rest, r, hline, hs, (htext hs).symm⟩

theorem finds_footerExpr : Finds footerExpr.whole (Loops 0 lineChars Opens) := by
  intro P r
  rw [whole, footerExpr, first_sequence]
  exact finds_star finds_opens P r

/-! ## Footers on a line -/

namespace Footer

variable {f g : Footer} {line : List Char} {r : Captured} {P : Point}

theorem ends (f : Footer) : Ends ('.' :: (f.gap ++ (endMark ++ f.tail))) :=
  ⟨f.gap, f.tail, rfl, f.blank_gap⟩

theorem exists_shows (f : Footer) (hf : '\n' ∉ f.version) :
    ∃ r, Shows (f.version ++ '.' :: (f.gap ++ (endMark ++ f.tail))) r := by
  obtain ⟨s, hs⟩ := exists_loops finds_closed (List.length_pos_iff.mpr f.version_ne_nil)
    (mem_lineChars_iff.mpr hf) ⟨f.ends, rfl⟩
  exact ⟨_, s, hs, rfl⟩

theorem exists_opens (f : Footer) (hf : '\n' ∉ f.version) :
    ∃ r, Opens (openMark ++ (f.space ++
      (f.version ++ '.' :: (f.gap ++ (endMark ++ f.tail))))) r := by
  obtain ⟨s, hs⟩ := f.exists_shows hf
  obtain ⟨r, hr⟩ :=
    exists_loops finds_versionPart (Nat.zero_le _) (mem_blankChars_iff.mpr f.blank_space) hs
  exact ⟨r, _, rfl, hr⟩

theorem not_mem_of_not_mem_line (hf : '\n' ∉ f.line) : '\n' ∉ f.lead ∧ '\n' ∉ f.version := by
  simp only [Footer.line, List.mem_append, not_or] at hf
  exact ⟨hf.1, hf.2.2.2.1⟩

theorem whole_ne_none (h : f.line = P.rest) (hP : '\n' ∉ P.rest) : footerExpr.whole P ≠ none := by
  obtain ⟨hlead, hversion⟩ := not_mem_of_not_mem_line (h ▸ hP)
  obtain ⟨s, hs⟩ := f.exists_opens hversion
  obtain ⟨r, hr⟩ := exists_loops finds_opens (Nat.zero_le _) (mem_lineChars_iff.mpr hlead) hs
  rw [(finds_footerExpr P r).mpr (h ▸ hr)]
  simp

/-- What the pattern captures is the version of the footer that reaches furthest. -/
theorem exists_widest (hP : '\n' ∉ P.rest) (h : footerExpr.whole P = some r) :
    ∃ f : Footer, f.Widest P.rest ∧ r = .text f.version := by
  obtain ⟨lead, _, _, -, hlead, ⟨_, rfl, space, _, _, -, hspace, hshows, rfl⟩, rfl⟩ :=
    (finds_footerExpr P r).mp h
  obtain ⟨version, _, hne, hversion, ⟨gap, tail, rfl, hgap⟩, rfl⟩ := text_of_shows hshows
  have hblank := mem_blankChars_iff.mp hspace.taken
  refine ⟨⟨lead, space, version, gap, tail, hblank, hne, hgap⟩, ⟨?_, ?_⟩, by simp⟩
  · rw [hlead.split, hspace.split, hversion.split]
    rfl
  · intro g hg
    obtain ⟨hglead, hgversion⟩ := not_mem_of_not_mem_line (hg ▸ hP)
    rw [extent_le_iff]
    -- the cuts are compared from the left, each only where those before it fall together
    have hle := hlead.longest g.lead _ hg.symm (mem_lineChars_iff.mpr hglead)
      (g.exists_opens hgversion)
    rcases Nat.lt_or_eq_of_le hle with hlt | heq
    · exact .inl hlt
    obtain ⟨-, hg⟩ := List.append_inj (hg.trans hlead.split) heq
    have hg := List.append_cancel_left hg
    have hle := hspace.longest g.space _ hg.symm (mem_blankChars_iff.mpr g.blank_space)
      (g.exists_shows hgversion)
    refine .inr ⟨heq, ?_⟩
    rcases Nat.lt_or_eq_of_le hle with hlt | heq
    · exact .inl hlt
    obtain ⟨-, hg⟩ := List.append_inj (hg.trans hspace.split) heq
    exact .inr ⟨heq, hversion.longest g.version _ hg.symm (mem_lineChars_iff.mpr hgversion)
      ⟨_, g.ends, rfl⟩⟩

theorem whole_of_widest (hP : '\n' ∉ P.rest) (h : f.Widest P.rest) :
    footerExpr.whole P = some (.text f.version) := by
  obtain ⟨r, hr⟩ := Option.ne_none_iff_exists'.mp (whole_ne_none h.1 hP)
  obtain ⟨g, hg, rfl⟩ := exists_widest hP hr
  rw [hr, hg.version_eq h]

/-! ## Footers without further marks -/

/-- Text in which a character does not occur lies in front of it. -/
theorem exists_of_append_cons {c : Char} {x y u z : List Char} (h : x ++ c :: y = u ++ z)
    (hc : c ∉ u) : ∃ x', x = u ++ x' ∧ x' ++ c :: y = z := by
  rcases List.append_eq_append_iff.mp h with ⟨u', rfl, hu⟩ | ⟨x', rfl, hz⟩
  · cases u' with
    | nil => exact ⟨[], by simp, hu⟩
    | cons d u' =>
      obtain ⟨rfl, -⟩ := List.cons.inj hu
      simp at hc
  · exact ⟨x', rfl, hz.symm⟩

theorem exists_of_length_lt {a b x y : List Char} (h : x ++ y = a ++ b)
    (hlt : a.length < x.length) : ∃ c x', x = a ++ c :: x' ∧ c :: (x' ++ y) = b := by
  rcases List.append_eq_append_iff.mp h with ⟨a', rfl, -⟩ | ⟨x', rfl, hb⟩
  · rw [List.length_append] at hlt
    omega
  · cases x' with
    | nil => simp at hlt
    | cons c x' => exact ⟨c, x', rfl, hb.symm⟩

theorem not_mem_of_blank {c : Char} {cs : List Char} (hcs : ∀ d ∈ cs, Text.isBlank d = true)
    (hc : Text.isBlank c = false) : c ∉ cs := by
  intro hm
  simp [hcs c hm] at hc

/-- Nothing in the version or behind it could be taken for a mark, and the version begins where the
white space ends. -/
structure Plain (f : Footer) : Prop where
  starts : ∀ c ∈ f.version.head?, Text.isBlank c = false
  version_open : ¬ openMark <:+: f.version
  tail_open : ¬ openMark <:+: f.tail
  tail_end : ¬ endMark <:+: f.tail

/-- The opening mark does not stand behind its place once more. -/
theorem Plain.lead_le (h : f.Plain) (hl : g.line = f.line) : g.lead.length ≤ f.lead.length := by
  have hopen : openMark = 'C' :: "urrently".toList := by decide
  have hend : endMark = 'C' :: "reated".toList := by decide
  by_contra hlt
  obtain ⟨c, x, -, hx⟩ := exists_of_length_lt hl (not_le.mp hlt)
  generalize g.space ++ (g.version ++ '.' :: (g.gap ++ (endMark ++ g.tail))) = t at hx
  -- the mark begins with a letter that it has nowhere else, and white space has not at all
  rw [hopen, List.cons_append, List.cons_append] at hx
  obtain ⟨x, -, hx⟩ := exists_of_append_cons (List.cons.inj hx).2 (by decide)
  obtain ⟨x, -, hx⟩ := exists_of_append_cons hx (not_mem_of_blank f.blank_space (by decide))
  rcases List.append_eq_append_iff.mp hx with ⟨y, hversion, hy⟩ | ⟨x, -, hx⟩
  · -- it would begin in the version and so, since it has no full stop, end there too
    rw [← List.cons_append, ← hopen] at hy
    obtain ⟨y, rfl, -⟩ := exists_of_append_cons hy.symm (by decide)
    exact h.version_open ⟨_, y, by rw [hversion, List.append_assoc]⟩
  · have hgap : 'C' ∉ '.' :: f.gap := by
      simpa using not_mem_of_blank f.blank_gap (by decide)
    obtain ⟨x, -, hx⟩ := exists_of_append_cons (u := '.' :: f.gap) hx.symm hgap
    rw [hend, List.cons_append] at hx
    cases x with
    | nil => simp at hx
    | cons d x =>
      obtain ⟨x, -, hx⟩ := exists_of_append_cons (List.cons.inj hx).2 (by decide)
      exact h.tail_open ⟨x, t, by rw [hopen, List.append_assoc]; exact hx⟩

theorem Plain.space_le {post : List Char} (h : f.Plain)
    (hl : g.space ++ post = f.space ++ (f.version ++ line)) : g.space.length ≤ f.space.length := by
  by_contra hlt
  obtain ⟨c, x, hspace, hx⟩ := exists_of_length_lt hl (not_le.mp hlt)
  obtain ⟨d, v, hv⟩ := List.exists_cons_of_ne_nil f.version_ne_nil
  rw [hv] at hx
  obtain ⟨rfl, -⟩ := List.cons.inj hx
  have hblank := g.blank_space c (by simp [hspace])
  simp [h.starts c (by simp [hv])] at hblank

/-- No full stop behind the version is followed by the closing mark. -/
theorem Plain.version_le (h : f.Plain)
    (hl : g.version ++ '.' :: (g.gap ++ (endMark ++ g.tail)) =
      f.version ++ '.' :: (f.gap ++ (endMark ++ f.tail))) :
    g.version.length ≤ f.version.length := by
  by_contra hlt
  obtain ⟨c, x, -, hx⟩ := exists_of_length_lt hl (not_le.mp hlt)
  have hgap : '.' ∉ f.gap := not_mem_of_blank f.blank_gap (by decide)
  obtain ⟨x, -, hx⟩ := exists_of_append_cons (List.cons.inj hx).2 hgap
  obtain ⟨x, -, hx⟩ := exists_of_append_cons hx (by decide)
  exact h.tail_end ⟨x ++ '.' :: g.gap, g.tail, by rw [← hx]; simp⟩

theorem Plain.widest (h : f.Plain) : f.Widest f.line := by
  refine ⟨rfl, ?_⟩
  intro g hl
  rw [extent_le_iff]
  rcases Nat.lt_or_eq_of_le (h.lead_le hl) with hlt | hlead
  · exact .inl hlt
  have hl := List.append_cancel_left (List.append_inj hl hlead).2
  rcases Nat.lt_or_eq_of_le (h.space_le hl) with hlt | hspace
  · exact .inr ⟨hlead, .inl hlt⟩
  have hl := (List.append_inj hl hspace).2
  exact .inr ⟨hlead, .inr ⟨hspace, h.version_le hl⟩⟩

end Footer

/-! ## Scanning for footers -/

variable {p : VersionPattern} {line t : List Char}

theorem scan_of_line {line : String} (h : ∀ c ∈ line.toList, isLineEnd c = false) :
    p.scan line = ((p.onLine? line.toList).map String.ofList).toList := by
  rw [scan, List.splitOnP_eq_singleton h]
  cases hv : p.onLine? line.toList <;> simp [hv]

def footerPattern : VersionPattern := ⟨footer, footerExpr, .ofExpr footerExpr⟩

theorem isSteady_footerExpr : footerExpr.isSteady = true := by decide

theorem onLine?_of_widest {f : Footer} (hline : '\n' ∉ line) (h : f.Widest line) :
    footerPattern.onLine? line = some f.version := by
  rw [onLine?_eq_some_iff rfl]
  refine (firstMatch_iff isSteady_footerExpr).mpr ⟨[], line, rfl, ?_, by simp⟩
  exact Footer.whole_of_widest hline h

/-- A footer may have anything in front, so one that is found anywhere begins with the line. -/
theorem exists_footer_of_onLine? (hline : '\n' ∉ line)
    (h : footerPattern.onLine? line = some t) : ∃ f : Footer, f.line = line := by
  obtain ⟨lead, rest, rfl, hfirst, -⟩ :=
    (firstMatch_iff isSteady_footerExpr).mp ((onLine?_eq_some_iff rfl).mp h)
  have hrest : '\n' ∉ rest := fun hm => hline (List.mem_append_right lead hm)
  obtain ⟨f, ⟨hf, -⟩, -⟩ := Footer.exists_widest (P := .behind lead rest) hrest hfirst
  refine ⟨{ f with lead := lead ++ f.lead }, ?_⟩
  exact (List.append_assoc ..).trans (congrArg (lead ++ ·) hf)

theorem exists_widest_of_footer {f : Footer} (hline : '\n' ∉ line) (h : f.line = line) :
    ∃ g : Footer, g.Widest line := by
  obtain ⟨r, hr⟩ :=
    Option.ne_none_iff_exists'.mp (Footer.whole_ne_none (P := ⟨none, line⟩) h hline)
  obtain ⟨g, hg, -⟩ := Footer.exists_widest (P := ⟨none, line⟩) hline hr
  exact ⟨g, hg⟩

theorem not_lineFeed_of_not_lineEnd (h : ∀ c ∈ line, isLineEnd c = false) : '\n' ∉ line :=
  fun hm => absurd (h _ hm) (by decide)

theorem scan_of_widest {line : String} {f : Footer} (h : ∀ c ∈ line.toList, isLineEnd c = false)
    (hf : f.Widest line.toList) : footerPattern.scan line = [String.ofList f.version] := by
  rw [scan_of_line h, onLine?_of_widest (not_lineFeed_of_not_lineEnd h) hf]
  rfl

theorem scan_ne_nil_iff {line : String} (h : ∀ c ∈ line.toList, isLineEnd c = false) :
    footerPattern.scan line ≠ [] ↔ ∃ f : Footer, f.line = line.toList := by
  have hline := not_lineFeed_of_not_lineEnd h
  constructor
  · intro hne
    rw [scan_of_line h] at hne
    cases hv : footerPattern.onLine? line.toList with
    | none => simp [hv] at hne
    | some t => exact exists_footer_of_onLine? hline hv
  · rintro ⟨f, hf⟩
    obtain ⟨g, hg⟩ := exists_widest_of_footer hline hf
    simp [scan_of_widest h hg]

/-- The pattern of the footer finds a version on just the lines that can be cut at its marks, and it
is the version of the cut that reaches furthest. On a footer without further marks that is the
version between the white space and the last full stop before the closing mark. -/
theorem scan_footer :
    ∃ p, read .standard footer = .ok p ∧
      (∀ line : String, (∀ c ∈ line.toList, isLineEnd c = false) →
        (p.scan line ≠ [] ↔ ∃ f : Footer, f.line = line.toList) ∧
        (p.scan line ≠ [] → ∃ f : Footer, f.Widest line.toList) ∧
        ∀ f : Footer, f.Widest line.toList → p.scan line = [String.ofList f.version]) ∧
      ∀ f : Footer, f.Plain → (∀ c ∈ f.line, isLineEnd c = false) →
        p.scan (String.ofList f.line) = [String.ofList f.version] := by
  refine ⟨footerPattern, read_footer, ?_, ?_⟩
  · intro line h
    refine ⟨scan_ne_nil_iff h, ?_, fun f => scan_of_widest h⟩
    intro hne
    obtain ⟨f, hf⟩ := (scan_ne_nil_iff h).mp hne
    exact exists_widest_of_footer (not_lineFeed_of_not_lineEnd h) hf
  · intro f hf h
    have hline : (String.ofList f.line).toList = f.line := String.toList_ofList
    exact scan_of_widest (by rwa [hline]) (by rw [hline]; exact hf.widest)

/-- A stray mark in front, full stops in the version and wide white space. -/
theorem scan_footer_behind_stray_mark :
    let f : Footer := ⟨"Currently 1. ".toList, "\u00A0 ".toList, "2.4.0".toList, "\t".toList,
      " by hand.".toList, List.all_eq_true.mp (by decide +kernel), by decide +kernel,
      List.all_eq_true.mp (by decide +kernel)⟩
    let line := "Currently 1. Currently\u00A0 2.4.0.\tCreated by hand."
    ∃ p, read .standard footer = .ok p ∧ f.Plain ∧ f.line = line.toList ∧ p.scan line = ["2.4.0"] ∧
      ∃ g : Footer, g.Widest line.toList ∧ p.scan line = [String.ofList g.version] := by
  intro f line
  obtain ⟨p, hp, hlines, hplain⟩ := scan_footer
  have hstarts : ∀ c ∈ f.version.head?, Text.isBlank c = false := by
    have hhead : f.version.head? = some '2' := by decide +kernel
    rw [hhead]
    rintro c ⟨⟩
    decide
  have hf : f.Plain := ⟨hstarts, by decide +kernel, by decide +kernel, by decide +kernel⟩
  have hline : f.line = line.toList := by decide +kernel
  have hends : ∀ c ∈ line.toList, isLineEnd c = false := by
    have hall : line.toList.all (!isLineEnd ·) = true := by decide +kernel
    simpa using hall
  have hversion : String.ofList f.version = "2.4.0" := by decide +kernel
  have hscan := hplain f hf (by rwa [hline])
  rw [hline, String.ofList_toList, hversion] at hscan
  obtain ⟨-, hwidest, hfound⟩ := hlines line hends
  obtain ⟨g, hg⟩ := hwidest (by rw [hscan]; exact List.cons_ne_nil _ _)
  exact ⟨p, hp, hf, hline, hscan, g, hg, hfound g hg⟩

end PublishGate.VersionPattern
