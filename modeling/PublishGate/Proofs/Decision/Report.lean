import PublishGate.Decision.Report
import PublishGate.Proofs.Json.RoundTrip

/-! # Decisions read back from their JSON -/

namespace PublishGate

theorem Json.named_append (name : String) (fields others : List (String × Json)) :
    named name (fields ++ others) = named name fields ++ named name others := by
  simp [named]

theorem mapM_text? (versions : List String) :
    (versions.map Json.string).mapM Json.text? = some versions := by
  induction versions with
  | nil => rfl
  | cons v versions ih =>
    rw [List.map_cons, List.mapM_cons, ih]
    rfl

theorem SiteVersion.ofJson?_toJson (site : SiteVersion) : ofJson? site.toJson = some site := by
  cases site with
  | unknown => rfl
  | single v => rfl
  | ambiguous versions =>
    change ofParts? "ambiguous" (some (.array (versions.map .string))) = _
    simp only [ofParts?, Json.list?, Option.bind_some, mapM_text?, Option.map_some]

theorem SiteVersion.plain_toJson (site : SiteVersion) : site.toJson.Plain := by
  cases site with
  | unknown => exact .object (by simp [Json.Plain.string])
  | single v => exact .object (by simp [Json.Plain.string])
  | ambiguous versions =>
    have hversions : (Json.array (versions.map .string)).Plain :=
      .array (by simp [Json.Plain.string])
    exact .object (by simp [Json.Plain.string, hversions])

theorem CompareMode.ofName?_name (mode : CompareMode) : ofName? mode.name = some mode := by
  cases mode <;> decide

namespace Decision

variable (d : Decision)

def fieldNames : List String :=
  ["site_url", "build_version", "site_version", "compare", "deploy", "message"]

/-- A decision is read from its fields, whatever other fields follow them. -/
theorem ofJson?_fields_append {others : List (String × Json)}
    (h : ∀ name ∈ fieldNames, Json.named name others = []) :
    ofJson? (.object (d.fields ++ others)) = some d := by
  have hrecord : (Json.object (d.fields ++ others)).record? fieldNames =
      some [some (.string d.siteUrl), some (.string d.build.text), some d.site.toJson,
        some (.string d.compare.name), some (.bool d.deploy), some (.string d.message)] := by
    simp only [fieldNames, List.forall_mem_cons] at h
    simp [fieldNames, Json.record?, Json.pick?, Json.named_append, h]
    simp [fields, Json.named]
  have hmode : CompareMode.ofJson? (.string d.compare.name) = some d.compare :=
    d.compare.ofName?_name
  unfold fieldNames at hrecord
  simp only [ofJson?, hrecord, SiteVersion.ofJson?_toJson, hmode]
  rfl

theorem ofJson?_toJson : ofJson? d.toJson = some d := by
  have h : ofJson? (.object (d.fields ++ [])) = some d :=
    d.ofJson?_fields_append (by simp [Json.named])
  rwa [List.append_nil] at h

/-- A report is read as the decision it is about. -/
theorem ofJson?_report (evaluatedAt : String) : ofJson? (d.report evaluatedAt) = some d :=
  d.ofJson?_fields_append (by simp [fieldNames, Json.named])

theorem dryDeploy_report (evaluatedAt : String) :
    (d.report evaluatedAt).field? "dry_deploy" = some (.bool (!d.deploy)) := rfl

/-! ## From the text -/

theorem plain_fields : ∀ f ∈ d.fields, f.2.Plain := by
  simp [fields, Json.Plain.string, Json.Plain.bool, d.site.plain_toJson]

theorem plain_toJson : d.toJson.Plain := .object d.plain_fields

theorem plain_report (evaluatedAt : String) : (d.report evaluatedAt).Plain := by
  refine .object fun f hf => ?_
  rcases List.mem_append.mp hf with hf | hf
  · exact d.plain_fields f hf
  · simp only [List.mem_cons, List.not_mem_nil, or_false] at hf
    rcases hf with rfl | rfl
    · exact .bool _
    · exact .string _

/-- A decision is read back from its JSON, compact or indented, and from the text of a report on it.
What a report holds besides is the dry-run flag, the contrary of `deploy`, and the time. -/
theorem decoded_from_texts (evaluatedAt : Instant) :
    (Json.parse? d.toJson.compactText).bind ofJson? = some d ∧
      (Json.parse? d.toJson.prettyText).bind ofJson? = some d ∧
      (Json.parse? (d.reportText evaluatedAt)).bind ofJson? = some d ∧
      ∃ fields, Json.parse? (d.reportText evaluatedAt) = some (.object fields) ∧
        fields = d.fields ++
          [("dry_deploy", .bool (!d.deploy)), ("evaluated_at", .string evaluatedAt.text)] ∧
        Json.named "dry_deploy" fields = [.bool (!d.deploy)] := by
  have hreport : Json.parse? (d.reportText evaluatedAt) = some (d.report evaluatedAt.text) :=
    (d.plain_report evaluatedAt.text).parse?_prettyText
  refine ⟨?_, ?_, ?_, _, hreport, rfl, ?_⟩
  · rw [d.plain_toJson.parse?_compactText, Option.bind_some, ofJson?_toJson]
  · rw [d.plain_toJson.parse?_prettyText, Option.bind_some, ofJson?_toJson]
  · rw [hreport, Option.bind_some, ofJson?_report]
  · rw [Json.named_append]
    rfl

end Decision

end PublishGate
