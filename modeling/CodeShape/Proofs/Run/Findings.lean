import CodeShape.Proofs.Finding.Collection
import CodeShape.Proofs.Report.Document
import CodeShape.Proofs.Report.Rows
import CodeShape.Proofs.Run.Failure

/-!
# What a run finds

A run that does not fail reports what each rule finds in each file, file by file and rule by rule
(`run_finished`). `Rule.found` is what one rule finds in one text, and `searchedText?` is the text of a
path, for those that have one: other paths add nothing.
-/

namespace CodeShape

/-! ## One text -/

/-- What a rule finds in the text of a file: one finding for each place of its pattern, if it is meant
for the file. -/
def Rule.found (r : Rule) (path : Path) (text : String) : List Finding :=
  if r.appliesTo path then
    (r.matcher.spans (.ofString text)).map fun place =>
      { path := path
        line := (LineIndex.ofText text.toList).lineOf place.start
        severity := r.severity
        message := r.message
        text := place.text }
  else []

namespace Collector

/-- A rule adds what it finds and leaves the rest as it is. -/
theorem On.run {c : Collector} {path : Path} {text : String} (h : c.On path text) (r : Rule) :
    (r.run c).On path text ∧ (r.run c).findings = c.findings ++ r.found path text := by
  unfold Rule.run Rule.found
  rw [h.path_eq]
  by_cases happlies : r.appliesTo path = true
  · obtain ⟨hon, -, hfindings⟩ := h.report (.pattern r.matcher) r.message r.severity
    rw [if_pos happlies, if_pos happlies, hfindings, funext (h.findingAt_eq r.message r.severity)]
    exact ⟨hon, rfl⟩
  · rw [if_neg happlies, if_neg happlies, List.append_nil]
    exact ⟨h, rfl⟩

/-- Rules that run one after the other add what each of them finds. -/
theorem On.foldl_run {c : Collector} {path : Path} {text : String} (h : c.On path text)
    (rules : List Rule) : (rules.foldl (fun c r => r.run c) c).findings =
      c.findings ++ rules.flatMap (·.found path text) := by
  induction rules generalizing c with
  | nil => simp only [List.foldl_nil, List.flatMap_nil, List.append_nil]
  | cons r rules ih =>
    obtain ⟨hon, hfindings⟩ := h.run r
    rw [List.foldl_cons, ih hon, hfindings, List.flatMap_cons, List.append_assoc]

end Collector

namespace Run

variable {s : Surroundings}

theorem findings_searchText (rules : List Rule) (limits : Pattern.Limits) (path : Path)
    (text : String) :
    (searchText rules limits path text).findings = rules.flatMap (·.found path text) :=
  (Collector.on_new path text limits).foldl_run rules

/-! ## One file -/

/-- The text to search under a path, if there is one: there is none under the path of a configuration,
in a directory, where nothing can be read, and where what is read is no text. -/
def searchedText? (look : Look) (path : Path) : Option String :=
  if path.fileName? = some Config.fileName.toList then none
  else
    match look path with
    | .ok (.file bytes) => String.fromUTF8? bytes
    | .ok .directory => none
    | .error _ => none

theorem findings_searchFile (look : Look) (rules : List Rule) (limits : Pattern.Limits)
    (path : Path) : (searchFile look rules limits path).findings =
      ((searchedText? look path).map fun text => rules.flatMap (·.found path text)).getD [] := by
  unfold searchFile searchedText? isConfig
  by_cases hconfig : path.fileName? = some Config.fileName.toList
  · rw [if_pos (beq_iff_eq.mpr hconfig), if_pos hconfig]
    rfl
  · rw [if_neg (by rwa [beq_iff_eq]), if_neg hconfig]
    cases hlook : look path with
    | error why => rfl
    | ok e =>
      cases e with
      | directory => rfl
      | file bytes =>
        dsimp only [Entry.text]
        cases htext : String.fromUTF8? bytes with
        | none => rfl
        | some text => exact findings_searchText rules limits path text

/-! ## The whole run -/

/-- What rules find under some paths. -/
def foundUnder (look : Look) (rules : List Rule) (paths : List Path) : List Finding :=
  paths.flatMap fun path =>
    ((searchedText? look path).map fun text => rules.flatMap (·.found path text)).getD []

theorem findings_searchFiles (look : Look) (rules : List Rule) (limits : Pattern.Limits)
    (paths : List Path) : ((paths.map (searchFile look rules limits)).flatMap (·.findings)) =
      foundUnder look rules paths := by
  rw [List.flatMap_map]
  exact congrArg paths.flatMap (funext (findings_searchFile look rules limits))

/-- A run that is finished has read its command line and has got ready. -/
theorem ready_of_finished {words : List String} {findings : List Finding} {report : String}
    (h : (run s words).ending = .finished findings report) :
    ∃ a c rules, Arguments.read words s.config = .ok a ∧ Loads s a c ∧ Prepares a c rules ∧
      findings = foundUnder s.look rules a.paths ∧ report = Run.report s a findings := by
  unfold run at h
  cases ha : Arguments.read words s.config with
  | error why =>
    rw [ha] at h
    cases h
  | ok a =>
    rw [ha] at h
    dsimp only at h
    rcases exists_ready_or_fault s a with ⟨c, rules, hc, hrules⟩ | ⟨why, hwhy⟩
    · rw [hrules.withArguments_eq hc, findings_searchFiles] at h
      cases h
      exact ⟨a, c, rules, rfl, hc, hrules, rfl, rfl⟩
    · rw [hwhy.withArguments_eq] at h
      cases h

theorem code_of_finished {o : Outcome} {findings : List Finding} {report : String}
    (h : o.ending = .finished findings report) :
    o.code = if ∃ f ∈ findings, f.severity = .error then 1 else 0 := by
  unfold Outcome.code errorCount
  rw [h]
  dsimp only
  by_cases herror : ∃ f ∈ findings, f.severity = .error
  · rw [if_pos herror, if_neg]
    obtain ⟨f, hf, hseverity⟩ := herror
    exact Nat.ne_of_gt (List.countP_pos_iff.mpr ⟨f, hf, decide_eq_true hseverity⟩)
  · rw [if_neg herror, if_pos]
    exact List.countP_eq_zero.mpr fun f hf hseverity =>
      herror ⟨f, hf, of_decide_eq_true hseverity⟩

/-- The report as text ends with the number of findings and that of errors. -/
theorem report_text {a : Arguments} (hformat : a.output = .text) (findings : List Finding) :
    (findings = [] → Run.report s a findings = "") ∧
    (findings ≠ [] → ∃ front, (Run.report s a findings).toList = front ++
      ("\n" ++ Report.counted findings.length "finding" ++ ", " ++
        Report.counted (errorCount findings) "error" ++ "\n").toList) := by
  unfold Run.report Report.write Report.text
  rw [hformat]
  constructor
  · rintro rfl
    rfl
  · intro hne
    rw [String.toList_ofList, if_neg (by simpa only [List.isEmpty_iff] using hne)]
    dsimp only
    rw [Report.render_append, Report.render_summary]
    exact ⟨_, rfl⟩

/-- The report in JSON gives the number of errors. -/
theorem report_json {a : Arguments} (hformat : a.output = .json) (findings : List Finding) :
    Json.Document (.object [("errors", .number (errorCount findings)),
      ("findings", .array (findings.map Report.findingValue))]) (Run.report s a findings).toList := by
  rw [Run.report, hformat, Report.toList_write_json]
  exact Report.document_documentValue findings

/-- **A run that does not fail reports what every rule finds in every file.** Its findings are those of
the paths of the command line, in order, which are those of the rules, in order; paths without a text
to search add nothing. It ends with code 1 if some finding is an error and with code 0 otherwise, and
it prints the number of errors. -/
theorem run_finished {words : List String} {findings : List Finding} {report : String}
    (h : (run s words).ending = .finished findings report) :
    ∃ a c rules, Arguments.read words s.config = .ok a ∧ Loads s a c ∧ Prepares a c rules ∧
      findings = foundUnder s.look rules a.paths ∧
      (run s words).code = (if ∃ f ∈ findings, f.severity = .error then 1 else 0) ∧
      (a.output = .text → findings = [] → (run s words).output = "") ∧
      (a.output = .text → findings ≠ [] → ∃ front, (run s words).output.toList = front ++
        ("\n" ++ Report.counted findings.length "finding" ++ ", " ++
          Report.counted (findings.filter (·.severity = .error)).length "error" ++ "\n").toList) ∧
      (a.output = .json → ∃ vs, Json.Document
        (.object [("errors", .number (findings.filter (·.severity = .error)).length),
          ("findings", .array vs)]) (run s words).output.toList) := by
  obtain ⟨a, c, rules, ha, hc, hrules, hfindings, hreport⟩ := ready_of_finished h
  have houtput : (run s words).output = Run.report s a findings := by
    unfold Outcome.output
    rw [h]
    exact hreport
  have hcount : (findings.filter (·.severity = .error)).length = errorCount findings :=
    List.countP_eq_length_filter.symm
  rw [houtput, hcount]
  refine ⟨a, c, rules, ha, hc, hrules, hfindings, code_of_finished h,
    fun hformat => (report_text hformat findings).1, fun hformat => (report_text hformat findings).2,
    fun hformat => ⟨_, report_json hformat findings⟩⟩

/-- Two findings in one of three paths. -/
theorem run_finished_twice :
    let s : Surroundings := {
      look := fun path => if path.written = "a" then .ok (.file "x yx".toUTF8) else .error .notFound
      directory := ⟨"/"⟩ }
    let words := ["-e", "x", "cgrep.toml", "a", "b"]
    let found (start : String) : Finding := ⟨⟨"a"⟩, 1, .error, "matched `x`", start⟩
    ∃ report, (run s words).ending = .finished [found "x", found "x"] report ∧
      (run s words).code = 1 := by
  have h : (run {
      look := fun path => if path.written = "a" then .ok (.file "x yx".toUTF8) else .error .notFound
      directory := ⟨"/"⟩ } ["-e", "x", "cgrep.toml", "a", "b"]).ending = .finished
        [⟨⟨"a"⟩, 1, .error, "matched `x`", "x"⟩, ⟨⟨"a"⟩, 1, .error, "matched `x`", "x"⟩]
        "error: matched `x`\n  a:1: x\n  a:1: x\n\n2 findings, 2 errors\n" := by
    decide +kernel
  obtain ⟨a, c, rules, -, -, -, -, hcode, -⟩ := run_finished h
  exact ⟨_, h, hcode⟩

end Run

end CodeShape
