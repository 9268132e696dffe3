import CodeShape.Proofs.Json.Pretty
import CodeShape.Report.Format

/-!
# The report as a JSON document

What is reported in JSON can be read back: the document says of every finding what the finding says,
and of nothing else (`document_faithful`).
-/

namespace CodeShape.Report

theorem toList_write_json (colored : Bool) (findings : List Finding) :
    (write .json colored findings).toList = document findings :=
  String.toList_ofList

/-- The report is a document of the findings and the number of errors. -/
theorem document_documentValue (findings : List Finding) :
    Json.Document (documentValue findings) (document findings) := by
  refine ⟨[], _, ['\n'], Json.blank_nil, Json.written_pretty 0 (documentValue findings), ?_, rfl⟩
  intro c hc
  rw [List.mem_singleton.mp hc]
  rfl

/-- **A report in JSON is read back as what it reports.** It is a JSON document, of one value only, and
this is the object that holds the findings in order, each with its path, line, severity, message and
text, and the number of those that are errors. -/
theorem document_faithful (colored : Bool) (findings : List Finding) :
    ∃ v : Json.Value,
      v = .object [("errors", .number (findings.filter (·.severity = .error)).length),
        ("findings", .array (findings.map fun f =>
          .object [("line", .number f.line), ("message", .string f.message),
            ("path", .string f.path.written), ("severity", .string f.severity.name),
            ("text", .string f.text)]))] ∧
      Json.Document v (write .json colored findings).toList ∧
      (∀ w, Json.Document w (write .json colored findings).toList → w = v) ∧
      Json.read? (write .json colored findings).toList = some v := by
  have hdocument := document_documentValue findings
  rw [toList_write_json]
  refine ⟨documentValue findings, ?_, hdocument, fun w hw => hw.value_unique hdocument,
    hdocument.read?_eq⟩
  rw [documentValue, errorCount, List.countP_eq_length_filter]
  rfl

end CodeShape.Report
