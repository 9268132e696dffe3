import Mathlib
import CodeShape.Report.Format

/-!
# The rows of the report as text

The uncoloured report is a list of rows, each ended by a newline (`render_lines`): one indented row for
each finding, with a header before it unless the row before it is about a finding of the same group,
and at the end a blank row and the summary. What stands in front of the row of a finding is said once
(`rows_append`). So each row can be attributed: the last header before it is its own
(`text_attributed`).
-/

namespace CodeShape.Report

/-! ## What a row says -/

/-- A text as it is shown in one row: whole, or cut at its first newline, without the blanks before the
cut, and marked. -/
def shown (cs : List Char) : List Char :=
  if '\n' ∈ cs then (cs.takeWhile (· != '\n')).rdropWhile Unicode.isBlank ++ " ...".toList else cs

/-- The row of a finding: its path as given, its line and its text. -/
def locationRow (f : Finding) : List Char :=
  "  ".toList ++ (f.path.written.toList ++ ":".toList ++ (toString f.line).toList ++ ": ".toList
    ++ shown f.text.toList)

/-- The header over a finding: its severity and its message. -/
def headerRow (f : Finding) : List Char :=
  f.severity.name.toList ++ ": ".toList ++ f.message.toList

/-- The last row of the report: how many findings there are, and how many of them are errors. -/
def summaryRow (findings : List Finding) : List Char :=
  (counted findings.length "finding" ++ ", "
    ++ counted (findings.filter (·.severity = .error)).length "error").toList

/-- A row is indented if it begins with two blanks. -/
def isIndented (row : List Char) : Bool :=
  "  ".toList.isPrefixOf row

/-- Two findings belong together if they agree in the path, component by component, in the severity and
in the message. -/
structure Agree (f g : Finding) : Prop where
  absolute : f.path.isAbsolute = g.path.isAbsolute
  components : f.path.components = g.path.components
  severity : f.severity = g.severity
  message : f.message = g.message

theorem sameGroup_iff {f g : Finding} : sameGroup f g = true ↔ Agree f g := by
  unfold sameGroup Path.same
  simp only [Bool.and_eq_true, beq_iff_eq]
  exact ⟨fun h => ⟨h.1.1.1, h.1.1.2, h.1.2, h.2⟩,
    fun h => ⟨⟨⟨h.absolute, h.components⟩, h.severity⟩, h.message⟩⟩

theorem firstLine_eq_shown (cs : List Char) : firstLine cs = shown cs := by
  unfold firstLine shown
  rw [List.span_eq_takeWhile_dropWhile]
  cases hrest : cs.dropWhile (· != '\n') with
  | nil =>
    have hall := List.dropWhile_eq_nil_iff.mp hrest
    have hnot : '\n' ∉ cs := fun h => absurd (hall _ h) (by decide)
    rw [if_neg hnot]
    exact List.takeWhile_eq_self_iff.mpr hall
  | cons c rest =>
    have hmem : '\n' ∈ cs := by
      by_contra hnot
      have hnil : cs.dropWhile (· != '\n') = [] :=
        List.dropWhile_eq_nil_iff.mpr fun c hc => bne_iff_ne.mpr fun heq => hnot (heq ▸ hc)
      rw [hrest] at hnil
      cases hnil
    rw [if_pos hmem]
    rfl

/-! ## The rows in order -/

/-- The header over a finding, if it needs one behind the finding before it. -/
def heading (previous : Option Finding) (f : Finding) : List (List Char) :=
  if previous.any (sameGroup · f) then [] else [headerRow f]

/-- The rows of findings, the one before the first of them being given. -/
def rows (previous : Option Finding) : List Finding → List (List Char)
  | [] => []
  | f :: rest => heading previous f ++ locationRow f :: rows (some f) rest

/-- Rows as they are written, each ended by a newline. -/
def written (rows : List (List Char)) : List Char :=
  rows.flatMap (· ++ ['\n'])

theorem written_append (front back : List (List Char)) :
    written (front ++ back) = written front ++ written back :=
  List.flatMap_append

theorem render_append (colored : Bool) (front back : List Part) :
    render colored (front ++ back) = render colored front ++ render colored back :=
  List.flatMap_append

/-- The summary is the same in colour or not. -/
theorem render_summary (colored : Bool) (findings : List Finding) :
    render colored (summary findings) =
      ("\n" ++ counted findings.length "finding" ++ ", " ++ counted (errorCount findings) "error"
        ++ "\n").toList := by
  rw [summary, render, List.flatMap_singleton]
  cases colored <;> rfl

theorem render_header (f : Finding) : render false (header f) = written [headerRow f] := by
  simp [render, header, Part.plain, written, headerRow]

theorem render_location (f : Finding) : render false (location f) = written [locationRow f] := by
  simp [render, location, Part.plain, written, locationRow, firstLine_eq_shown]

/-- The header over a finding in its styles, if it needs one behind the finding before it. -/
def headingParts (previous : Option Finding) (f : Finding) : List Part :=
  if previous.any (sameGroup · f) then [] else header f

theorem lines_cons (previous : Option Finding) (f : Finding) (rest : List Finding) :
    lines previous (f :: rest)
      = headingParts previous f ++ location f ++ lines (some f) rest :=
  rfl

theorem render_headingParts (previous : Option Finding) (f : Finding) :
    render false (headingParts previous f) = written (heading previous f) := by
  unfold headingParts heading
  split
  next => rfl
  next => exact render_header f

theorem render_lines (previous : Option Finding) (findings : List Finding) :
    render false (lines previous findings) = written (rows previous findings) := by
  induction findings generalizing previous with
  | nil => rfl
  | cons f rest ih =>
    have hrows : rows previous (f :: rest)
        = heading previous f ++ [locationRow f] ++ rows (some f) rest := by
      rw [rows, List.append_assoc, List.singleton_append]
    rw [lines_cons, render_append, render_append, render_headingParts, render_location, ih, hrows,
      written_append, written_append]

/-- **The report is written row by row.** -/
theorem toList_write_text {findings : List Finding} (hne : findings ≠ []) :
    (write .text false findings).toList
      = written (rows none findings ++ [[], summaryRow findings]) := by
  have hsummary : render false (summary findings) = written [[], summaryRow findings] := by
    rw [render_summary, errorCount, List.countP_eq_length_filter]
    simp [written, summaryRow]
  rw [write, String.toList_ofList, text, if_neg (by rwa [List.isEmpty_iff]), written_append,
    ← render_lines, ← hsummary]
  exact render_append false _ _

/-- The last of what is before, when more has come before. -/
theorem getLast?_cons_or {α : Type} (a : α) (as : List α) (previous : Option α) :
    (a :: as).getLast?.or previous = as.getLast?.or (some a) := by
  rw [List.getLast?_cons]
  cases as.getLast? <;> rfl

/-- **What stands in front of the row of a finding**: the rows of the findings before it, and its header
if it needs one behind the last of them. -/
theorem rows_append (previous : Option Finding) (before : List Finding) (f : Finding)
    (after : List Finding) : rows previous (before ++ f :: after) =
      rows previous before ++ heading (before.getLast?.or previous) f ++
        locationRow f :: rows (some f) after := by
  induction before generalizing previous with
  | nil => rfl
  | cons g before ih =>
    rw [List.cons_append, rows, ih, rows, getLast?_cons_or]
    simp only [List.append_assoc, List.cons_append]

/-! ## Indented rows -/

theorem headerRow_ne_nil (f : Finding) : headerRow f ≠ [] := by
  unfold headerRow
  cases f.severity <;> exact List.cons_ne_nil _ _

theorem isIndented_locationRow (f : Finding) : isIndented (locationRow f) = true :=
  rfl

theorem isIndented_headerRow (f : Finding) : isIndented (headerRow f) = false := by
  unfold isIndented headerRow
  cases f.severity <;> rfl

theorem isIndented_of_mem_heading {previous : Option Finding} {f : Finding} {row : List Char}
    (h : row ∈ heading previous f) : isIndented row = false := by
  unfold heading at h
  split at h
  next => cases h
  next => rw [List.mem_singleton.mp h, isIndented_headerRow]

/-- **There is one indented row for each finding.** -/
theorem filter_rows (previous : Option Finding) (findings : List Finding) :
    (rows previous findings).filter isIndented = findings.map locationRow := by
  induction findings generalizing previous with
  | nil => rfl
  | cons f rest ih =>
    have hheading : (heading previous f).filter isIndented = [] :=
      List.filter_eq_nil_iff.mpr fun row hrow => by
        rw [isIndented_of_mem_heading hrow]
        exact Bool.false_ne_true
    rw [rows, List.filter_append, hheading, List.nil_append,
      List.filter_cons_of_pos (isIndented_locationRow f), ih, List.map_cons]

/-- The last row is about the last finding. -/
theorem getLast?_rows (previous : Option Finding) (findings : List Finding) :
    (rows previous findings).getLast? = findings.getLast?.map locationRow := by
  induction findings generalizing previous with
  | nil => rfl
  | cons f rest ih =>
    rw [rows, List.getLast?_append, List.getLast?_cons, ih, List.getLast?_cons]
    cases rest.getLast? <;> rfl

/-! ## Headers -/

/-- The headers among some rows. -/
def headers (rows : List (List Char)) : List (List Char) :=
  rows.filter (!isIndented ·)

/-- A finding that is the first, or does not belong to the one before it, has a header. -/
theorem heading_of_apart {previous : Option Finding} {f : Finding}
    (h : ∀ g, previous = some g → ¬ Agree g f) : heading previous f = [headerRow f] := by
  refine if_neg fun hsame => ?_
  cases previous with
  | none => cases hsame
  | some g => exact h g rfl (sameGroup_iff.mp hsame)

/-- A finding that belongs to the one before it has none of its own. -/
theorem heading_of_agree {g f : Finding} (h : Agree g f) : heading (some g) f = [] :=
  if_pos (sameGroup_iff.mpr h)

/-- A header is left out only if the header before it reads the same. -/
theorem getLast?_heading (previous : Option Finding) (f : Finding) :
    (heading previous f).getLast?.or (previous.map headerRow) = some (headerRow f) := by
  by_cases h : ∃ g, previous = some g ∧ Agree g f
  · obtain ⟨g, rfl, hagree⟩ := h
    rw [heading_of_agree hagree]
    show some (headerRow g) = some (headerRow f)
    rw [headerRow, headerRow, hagree.severity, hagree.message]
  · rw [heading_of_apart fun g hg hagree => h ⟨g, hg, hagree⟩]
    rfl

theorem headers_heading (previous : Option Finding) (f : Finding) :
    headers (heading previous f) = heading previous f := by
  refine List.filter_eq_self.mpr fun row hrow => ?_
  rw [isIndented_of_mem_heading hrow]
  rfl

theorem headers_append (front back : List (List Char)) :
    headers (front ++ back) = headers front ++ headers back :=
  List.filter_append _ _

/-- **The last header is that of the last finding.** -/
theorem getLast?_headers_rows (previous : Option Finding) (findings : List Finding) :
    (headers (rows previous findings)).getLast?.or (previous.map headerRow)
      = (findings.getLast?.or previous).map headerRow := by
  induction findings generalizing previous with
  | nil => rfl
  | cons f rest ih =>
    have hrest : headers (locationRow f :: rows (some f) rest) = headers (rows (some f) rest) :=
      List.filter_cons_of_neg (by rw [isIndented_locationRow]; exact Bool.false_ne_true)
    rw [rows, headers_append, headers_heading, hrest, List.getLast?_append, Option.or_assoc,
      getLast?_heading, getLast?_cons_or]
    exact ih (some f)

/-! ## One row each -/

theorem mem_heading {previous : Option Finding} {f : Finding} {row : List Char}
    (h : row ∈ heading previous f) : row = headerRow f := by
  unfold heading at h
  split at h
  next => cases h
  next => exact List.mem_singleton.mp h

/-- Every row is about some finding. -/
theorem mem_rows {previous : Option Finding} {findings : List Finding} {row : List Char}
    (h : row ∈ rows previous findings) : ∃ f ∈ findings, row = headerRow f ∨ row = locationRow f := by
  induction findings generalizing previous with
  | nil => cases h
  | cons f rest ih =>
    rw [rows, List.mem_append, List.mem_cons] at h
    rcases h with hheader | hlocation | hrest
    · exact ⟨f, List.mem_cons_self, .inl (mem_heading hheader)⟩
    · exact ⟨f, List.mem_cons_self, .inr hlocation⟩
    · obtain ⟨g, hg, hrow⟩ := ih hrest
      exact ⟨g, List.mem_cons_of_mem f hg, hrow⟩

theorem isDigit_of_mem_toString {n : Nat} {c : Char} (h : c ∈ (toString n).toList) :
    c.isDigit = true := by
  rw [Nat.toString_eq_repr, Nat.toList_repr] at h
  exact Nat.isDigit_of_mem_toDigits (by decide) (by decide) h

theorem newline_not_mem_toString (n : Nat) : '\n' ∉ (toString n).toList :=
  fun h => absurd (isDigit_of_mem_toString h) (by decide)

theorem newline_not_mem_shown (cs : List Char) : '\n' ∉ shown cs := by
  unfold shown
  split
  next =>
    rw [List.mem_append, not_or]
    refine ⟨fun h => ?_, by decide⟩
    have hfirst := (List.rdropWhile_prefix Unicode.isBlank _).subset h
    exact absurd (List.mem_takeWhile_imp hfirst) (by decide)
  next h => exact h

theorem newline_not_mem_headerRow {f : Finding} (h : '\n' ∉ f.message.toList) :
    '\n' ∉ headerRow f := by
  have hname : '\n' ∉ f.severity.name.toList := by cases f.severity <;> decide
  simp only [headerRow, List.mem_append, not_or]
  exact ⟨⟨hname, by decide⟩, h⟩

theorem newline_not_mem_locationRow {f : Finding} (h : '\n' ∉ f.path.written.toList) :
    '\n' ∉ locationRow f := by
  simp only [locationRow, List.mem_append, not_or]
  exact ⟨by decide, ⟨⟨⟨h, by decide⟩, newline_not_mem_toString f.line⟩, by decide⟩,
    newline_not_mem_shown _⟩

/-- Besides the word there are only digits, a blank and maybe an `s`. -/
theorem not_mem_counted (n : Nat) {word : String} {c : Char} (hdigit : c.isDigit = false)
    (hblank : c ≠ ' ') (hs : c ≠ 's') (hword : c ∉ word.toList) : c ∉ (counted n word).toList := by
  have hplural : c ∉ (if n = 1 then word else word ++ "s").toList := by
    split
    next => exact hword
    next =>
      rw [String.toList_append, List.mem_append, not_or]
      exact ⟨hword, fun h => hs (List.mem_singleton.mp h)⟩
  simp only [counted, String.toList_append, List.mem_append, not_or]
  refine ⟨⟨fun h => ?_, fun h => hblank (List.mem_singleton.mp h)⟩, hplural⟩
  rw [isDigit_of_mem_toString h] at hdigit
  cases hdigit

theorem newline_not_mem_summaryRow (findings : List Finding) : '\n' ∉ summaryRow findings := by
  have hcounted (n : Nat) {word : String} (hword : '\n' ∉ word.toList) :
      '\n' ∉ (counted n word).toList :=
    not_mem_counted n (by decide) (by decide) (by decide) hword
  simp only [summaryRow, String.toList_append, List.mem_append, not_or]
  exact ⟨⟨hcounted _ (by decide), by decide⟩, hcounted _ (by decide)⟩

/-- The summary begins with a number. -/
theorem isIndented_summaryRow (findings : List Finding) :
    isIndented (summaryRow findings) = false := by
  obtain ⟨d, ds, hdigits⟩ := List.exists_cons_of_ne_nil
    (Nat.toDigits_ne_nil (n := findings.length) (b := 10))
  have hdigit : d.isDigit = true :=
    Nat.isDigit_of_mem_toDigits (by decide) (by decide) (hdigits ▸ List.mem_cons_self)
  have hne : (' ' == d) = false := by
    rw [beq_eq_false_iff_ne]
    rintro rfl
    exact absurd hdigit (by decide)
  obtain ⟨rest, hrest⟩ : ∃ rest, summaryRow findings = d :: rest := by
    simp only [summaryRow, counted, String.toList_append, Nat.toString_eq_repr, Nat.toList_repr,
      List.append_assoc, hdigits, List.cons_append]
    exact ⟨_, rfl⟩
  rw [hrest]
  show (' ' == d && _) = false
  rw [hne, Bool.false_and]

/-! ## The whole report -/

/-- **Every finding of the report as text can be told.** Let no message and no path have a newline in
it. The report on findings is a list of rows, each ended by a newline. The indented rows are those of
the findings, in order. Behind the row of one finding, that of the next one follows at once if both
belong together, and else behind its header; so the last header before a row is always its own. The
report ends with one blank row and the summary. The report on no findings is empty. -/
theorem text_attributed (findings : List Finding)
    (hlines : ∀ f ∈ findings, '\n' ∉ f.message.toList ∧ '\n' ∉ f.path.written.toList) :
    (findings = [] → write .text false findings = "") ∧
      (findings ≠ [] → ∃ body : List (List Char),
        (write .text false findings).toList
          = (body ++ [[], summaryRow findings]).flatMap (· ++ ['\n']) ∧
        (∀ row ∈ body ++ [[], summaryRow findings], '\n' ∉ row) ∧
        (∀ row ∈ body, row ≠ []) ∧
        (body ++ [[], summaryRow findings]).filter isIndented = findings.map locationRow ∧
        ∀ (before : List Finding) (f : Finding) (after : List Finding),
          findings = before ++ f :: after → ∃ front head back : List (List Char),
            body = front ++ head ++ locationRow f :: back ∧
            front.filter isIndented = before.map locationRow ∧
            front.getLast? = before.getLast?.map locationRow ∧
            ((∀ g, before.getLast? = some g → ¬ Agree g f) → head = [headerRow f]) ∧
            ((∃ g, before.getLast? = some g ∧ Agree g f) → head = []) ∧
            ((front ++ head).filter (!isIndented ·)).getLast? = some (headerRow f)) := by
  constructor
  · rintro rfl
    rfl
  · intro hne
    refine ⟨rows none findings, toList_write_text hne, ?_, ?_, ?_, ?_⟩
    · intro row hrow
      rw [List.mem_append, List.mem_cons, List.mem_singleton] at hrow
      rcases hrow with hrow | rfl | rfl
      · obtain ⟨f, hf, rfl | rfl⟩ := mem_rows hrow
        · exact newline_not_mem_headerRow (hlines f hf).1
        · exact newline_not_mem_locationRow (hlines f hf).2
      · exact List.not_mem_nil
      · exact newline_not_mem_summaryRow findings
    · -- the only blank row is the one in front of the summary
      rintro row hrow rfl
      obtain ⟨f, -, h | h⟩ := mem_rows hrow
      · exact headerRow_ne_nil f h.symm
      · exact absurd h.symm (List.cons_ne_nil _ _)
    · rw [List.filter_append, filter_rows, List.filter_cons_of_neg (by decide),
        List.filter_cons_of_neg (by rw [isIndented_summaryRow]; exact Bool.false_ne_true),
        List.filter_nil, List.append_nil]
    · rintro before f after rfl
      have hlast : before.getLast?.or none = before.getLast? := Option.or_none
      refine ⟨rows none before, heading before.getLast? f, rows (some f) after, ?_,
        filter_rows none before, getLast?_rows none before, heading_of_apart, ?_, ?_⟩
      · rw [rows_append, hlast]
      · rintro ⟨g, hg, hagree⟩
        rw [hg, heading_of_agree hagree]
      · have hheaders := getLast?_headers_rows none before
        rw [hlast, Option.map_none, Option.or_none] at hheaders
        show (headers (rows none before ++ heading before.getLast? f)).getLast? = _
        rw [headers_append, headers_heading, List.getLast?_append, hheaders, getLast?_heading]

/-- Two spellings of one path under one header, a text that is cut, and an error. -/
theorem text_attributed_shared :
    let findings : List Finding := [⟨⟨"a//b"⟩, 2, .warn, "m", "x \n y"⟩,
      ⟨⟨"a/b"⟩, 5, .warn, "m", "y"⟩, ⟨⟨"a/b"⟩, 7, .error, "m", "z"⟩]
    (∀ f ∈ findings, '\n' ∉ f.message.toList ∧ '\n' ∉ f.path.written.toList) ∧
      write .text false findings =
        "warn: m\n  a//b:2: x ...\n  a/b:5: y\nerror: m\n  a/b:7: z\n\n3 findings, 1 error\n" ∧
      ∃ body : List (List Char), (write .text false findings).toList
          = (body ++ [[], summaryRow findings]).flatMap (· ++ ['\n']) ∧
        (body ++ [[], summaryRow findings]).filter isIndented = findings.map locationRow := by
  intro findings
  have hlines : ∀ f ∈ findings, '\n' ∉ f.message.toList ∧ '\n' ∉ f.path.written.toList := by
    decide
  obtain ⟨body, hbody, -, -, hindented, -⟩ :=
    (text_attributed findings hlines).2 (List.cons_ne_nil _ _)
  exact ⟨hlines, by decide +kernel, body, hbody, hindented⟩

end CodeShape.Report
