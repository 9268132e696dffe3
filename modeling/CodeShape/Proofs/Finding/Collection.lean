import Mathlib
import CodeShape.Proofs.Finding.LineNumbers
import CodeShape.Proofs.Pattern.Places
import CodeShape.Proofs.Pattern.Progress

/-!
# What a collector collects

A collector is told what to look for by one request after the other. Each adds one finding for every
place of its target and leaves the rest as it is (`Collector.On.report`), so that in the end there are
the findings of all requests, in order (`Collector.On.foldl_serve`). The places are those of the
pattern, which brings its own limits along, or of the text, for which the limits of the collector
count (`Target.places`). With what is known of the places of matches and of line numbers, this says
what every finding is about (`findings_collected`).
-/

namespace CodeShape

open Pattern (Limits Matcher Span covers_spanOf of_build build_of_compiled search_of_mem_scan)

/-! ## The places of a target -/

namespace Target

/-- The matcher for a target: a pattern is one already, and a text becomes one with the given
limits. -/
def matcher (given : Limits) : Target → Except Pattern.Error Matcher
  | pattern m => .ok m
  | text cs => Matcher.literal cs given

/-- The limits that count for a target: a pattern has its own. -/
def limits (given : Limits) : Target → Limits
  | pattern m => m.limits
  | text _ => given

/-- The places of a target in the contents of a file. A text that is too long to be compiled has
none. -/
def places (given : Limits) (contents : String) (t : Target) : List Span :=
  match t.matcher given with
  | .ok m => m.spans (.ofString contents)
  | .error _ => []

/-- The pattern of a target, if it is one, has been compiled. -/
def Compiled : Target → Prop
  | pattern m =>
    ∃ source, Matcher.compile source m.limits = .ok m ∨ Matcher.literal source m.limits = .ok m
  | text _ => True

/-- The pattern of a target, if it is one, has been compiled and has no raw expressions. -/
def Plain : Target → Prop
  | pattern m => m.Plain m.limits
  | text _ => True

variable {t : Target} {given : Limits} {m : Matcher}

theorem places_of_matcher (h : t.matcher given = .ok m) (contents : String) :
    t.places given contents = m.spans (.ofString contents) := by
  rw [places, h]

theorem compiled_of_compile {source : List Char} {own : Limits}
    (h : Matcher.compile source own = .ok m) : (pattern m).Compiled := by
  obtain ⟨expr, captures, hbuild⟩ := build_of_compiled (.inl h)
  obtain ⟨rfl, -⟩ := of_build hbuild
  exact ⟨source, .inl h⟩

/-- What a target is searched with has been built with the limits that count for it. -/
theorem Compiled.built (ht : t.Compiled) (h : t.matcher given = .ok m) :
    ∃ source expr captures, Matcher.build source expr captures (t.limits given) = .ok m := by
  cases t with
  | pattern p =>
    obtain rfl := Except.ok.inj h
    obtain ⟨source, hcompiled⟩ := ht
    exact ⟨source, build_of_compiled hcompiled⟩
  | text cs => exact ⟨cs, _, _, h⟩

theorem Plain.matcher (ht : t.Plain) (h : t.matcher given = .ok m) :
    m.Plain (t.limits given) := by
  cases t with
  | pattern p =>
    obtain rfl := Except.ok.inj h
    exact ht
  | text cs => exact .literal h

/-- **Every place of a target is a place of the contents.** -/
theorem Compiled.within (ht : t.Compiled) (contents : String) :
    ∀ place ∈ t.places given contents, place.Within contents := by
  intro place hplace
  cases hm : t.matcher given with
  | error e =>
    rw [places, hm] at hplace
    cases hplace
  | ok m =>
    obtain ⟨source, expr, captures, hbuild⟩ := ht.built hm
    obtain ⟨-, e, hmethod⟩ := of_build hbuild
    rw [places_of_matcher hm] at hplace
    obtain ⟨f, hf, rfl⟩ := List.mem_map.mp hplace
    obtain ⟨start, origin, hstart, hsearch⟩ := search_of_mem_scan m _ hf
    obtain ⟨hle, -, hsize⟩ := Regex.Searcher.search_bounds hmethod hstart hsearch
    exact (covers_spanOf contents hle hsize).within

/-- Without raw expressions, no place begins before the one before it. -/
theorem Plain.places_ordered (ht : t.Plain) (contents : String) :
    (t.places given contents).Pairwise fun a b => a.start ≤ b.start := by
  cases hm : t.matcher given with
  | error e =>
    rw [places, hm]
    exact .nil
  | ok m =>
    obtain ⟨horderly, -⟩ := (ht.matcher hm).orderly
    obtain ⟨fs, ended, hoffers, hscan⟩ := horderly.scan_eq (.ofString contents)
    obtain ⟨hbounds, hapart⟩ := hoffers.apart horderly
    rw [places_of_matcher hm, Matcher.spans, hscan, Pattern.Scan.found_upTo, List.pairwise_map]
    refine (hapart.sublist (List.take_sublist _ fs)).imp_of_mem fun {f g} hf hg hfg => ?_
    obtain ⟨-, hle, hsize⟩ := hbounds f (List.mem_of_mem_take hf)
    obtain ⟨-, hle', hsize'⟩ := hbounds g (List.mem_of_mem_take hg)
    rw [(covers_spanOf contents hle hsize).start, (covers_spanOf contents hle' hsize').start]
    exact Pattern.bytesBefore_le (Nat.le_of_lt hfg.1) (Nat.le_trans hle' hsize')

end Target

/-! ## One request after the other -/

/-- What a collector is told to report: every place of the target, with the message and the
severity. -/
structure Request where
  target : Target
  message : String
  severity : Severity

/-- What a request finds in the contents of a file: one finding for each place of its target. -/
def Request.found (r : Request) (path : Path) (contents : String) (limits : Limits) :
    List Finding :=
  (r.target.places limits contents).map fun place =>
    { path := path
      line := 1 + newlinesBefore contents place.start
      severity := r.severity
      message := r.message
      text := place.text }

namespace Collector

/-- Does what a request says. -/
def serve (c : Collector) (r : Request) : Collector :=
  c.report r.target r.message r.severity

/-- A collector that goes through the given text of a file. -/
structure On (c : Collector) (path : Path) (text : String) : Prop where
  path_eq : c.path = path
  text_eq : c.text = .ofString text
  lines_eq : c.lines = .ofText text.toList

theorem on_new (path : Path) (text : String) (limits : Limits) :
    (new path text limits).On path text :=
  ⟨rfl, rfl, rfl⟩

variable {c : Collector} {path : Path} {text : String}

theorem On.findingAt_eq (h : c.On path text) (message : String) (severity : Severity)
    (place : Span) : c.findingAt message severity place =
      { path := path
        line := (LineIndex.ofText text.toList).lineOf place.start
        severity := severity
        message := message
        text := place.text } := by
  rw [findingAt, h.path_eq, h.lines_eq]

/-- **A report adds one finding for each place of the target** and leaves the rest as it is. -/
theorem On.report (h : c.On path text) (target : Target) (message : String) (severity : Severity) :
    (c.report target message severity).On path text ∧
      (c.report target message severity).limits = c.limits ∧
      (c.report target message severity).findings
        = c.findings ++ (target.places c.limits text).map (c.findingAt message severity) := by
  obtain ⟨hpath, htext, hlines⟩ := h
  have hrecord (m : Matcher) : (c.record m message severity).findings
      = c.findings ++ (m.spans (.ofString text)).map (c.findingAt message severity) := by
    rw [record, htext]
    rfl
  cases target with
  | pattern m => exact ⟨⟨hpath, htext, hlines⟩, rfl, hrecord m⟩
  | text cs =>
    rw [Target.places, Target.matcher, Collector.report]
    cases Matcher.literal cs c.limits with
    | ok m => exact ⟨⟨hpath, htext, hlines⟩, rfl, hrecord m⟩
    | error e => exact ⟨⟨hpath, htext, hlines⟩, rfl, (List.append_nil _).symm⟩

/-- **In the end there are the findings of all requests, in order.** -/
theorem On.foldl_serve (h : c.On path text) (hlines : newlines text < 2 ^ 32 - 1)
    (requests : List Request) :
    (requests.foldl serve c).findings
      = c.findings ++ requests.flatMap (·.found path text c.limits) := by
  induction requests generalizing c with
  | nil => rw [List.foldl_nil, List.flatMap_nil, List.append_nil]
  | cons r requests ih =>
    obtain ⟨hon, hlimits, hfindings⟩ := h.report r.target r.message r.severity
    have hfound : (r.target.places c.limits text).map (c.findingAt r.message r.severity)
        = r.found path text c.limits := by
      refine List.map_congr_left fun place _ => ?_
      rw [h.findingAt_eq, LineIndex.lineOf_eq hlines]
    rw [hfound] at hfindings
    rw [List.foldl_cons, serve, ih hon, List.flatMap_cons, ← List.append_assoc, ← hfindings, hlimits]

end Collector

/-! ## What the findings say -/

section Collected

variable {path : Path} {contents : String} {limits : Limits} {requests : List Request}

theorem Request.found_ordered {r : Request} (hr : r.target.Plain) (path : Path) (contents : String)
    (limits : Limits) : (r.found path contents limits).Pairwise fun f g => f.line ≤ g.line := by
  rw [found, List.pairwise_map]
  refine (hr.places_ordered contents).imp fun hle => ?_
  exact Nat.add_le_add_left (newlinesBefore_mono contents hle) 1

/-- An error has been found if a request that is for errors has a place. -/
theorem exists_error_found :
    (∃ f ∈ requests.flatMap (·.found path contents limits), f.severity = .error) ↔
      ∃ r ∈ requests, r.severity = .error ∧ r.target.places limits contents ≠ [] := by
  constructor
  · rintro ⟨f, hf, herror⟩
    obtain ⟨r, hr, hf⟩ := List.mem_flatMap.mp hf
    obtain ⟨place, hplace, rfl⟩ := List.mem_map.mp hf
    exact ⟨r, hr, herror, List.ne_nil_of_mem hplace⟩
  · rintro ⟨r, hr, herror, hne⟩
    obtain ⟨place, hplace⟩ := List.exists_mem_of_ne_nil _ hne
    exact ⟨_, List.mem_flatMap.mpr ⟨r, hr, List.mem_map_of_mem hplace⟩, herror⟩

/-- **The findings are exactly the places of the targets.** After any requests there is one finding
for each place of each target, request by request and in the order of the places. It has the path of
the file, the line at which the place begins, the severity and the message of the request, and the
text that stands there in the contents. A pattern is searched for within its own limits and a text
within those of the collector. Earlier findings stay as they are, the lines that one request adds do
not decrease unless there are raw expressions, and there are errors if a request for errors has found
something. -/
theorem findings_collected (hlines : newlines contents < 2 ^ 32 - 1)
    (hcompiled : ∀ r ∈ requests, r.target.Compiled) :
    (requests.foldl Collector.serve (.new path contents limits)).findings =
        requests.flatMap (fun r => (r.target.places limits contents).map fun place =>
          { path := path
            line := 1 + newlinesBefore contents place.start
            severity := r.severity
            message := r.message
            text := place.text }) ∧
      (∀ r ∈ requests, ∀ place ∈ r.target.places limits contents, place.Within contents) ∧
      (∀ r ∈ requests, ∀ m, r.target.matcher limits = .ok m → m.limits = r.target.limits limits) ∧
      (∀ before after : List Request, requests = before ++ after →
        (before.foldl Collector.serve (.new path contents limits)).findings <+:
          (requests.foldl Collector.serve (.new path contents limits)).findings) ∧
      (∀ r ∈ requests, r.target.Plain →
        (r.found path contents limits).Pairwise fun f g => f.line ≤ g.line) ∧
      ((requests.foldl Collector.serve (.new path contents limits)).hasErrors = true ↔
        ∃ r ∈ requests, r.severity = .error ∧ r.target.places limits contents ≠ []) := by
  have hfindings (requests : List Request) :
      (requests.foldl Collector.serve (.new path contents limits)).findings
        = requests.flatMap (·.found path contents limits) :=
    (Collector.on_new path contents limits).foldl_serve hlines requests
  refine ⟨hfindings requests, fun r hr => (hcompiled r hr).within contents, fun r hr m hm => ?_, ?_,
    fun r hr hplain => Request.found_ordered hplain path contents limits, ?_⟩
  · obtain ⟨source, expr, captures, hbuild⟩ := (hcompiled r hr).built hm
    exact (of_build hbuild).1
  · rintro before after rfl
    rw [hfindings, hfindings, List.flatMap_append]
    exact List.prefix_append _ _
  · rw [Collector.hasErrors, hfindings, List.any_eq_true]
    simp only [decide_eq_true_eq]
    exact exists_error_found

/-- A pattern that may be found once, and a text that may be found more often. -/
theorem findings_collected_mixed :
    ∃ m, Matcher.compile "f (".toList ⟨1, 1000⟩ = .ok m ∧
      newlines "é\nf(1)\nf(2)" < 2 ^ 32 - 1 ∧
      (∀ r ∈ [⟨.pattern m, "call", .warn⟩, ⟨.text ['('], "bracket", .error⟩],
        Target.Compiled (Request.target r)) ∧
      ([⟨.pattern m, "call", .warn⟩, ⟨.text ['('], "bracket", .error⟩].foldl Collector.serve
        (.new ⟨"a.js"⟩ "é\nf(1)\nf(2)" {})).findings =
          [⟨⟨"a.js"⟩, 2, .warn, "call", "f("⟩, ⟨⟨"a.js"⟩, 2, .error, "bracket", "("⟩,
            ⟨⟨"a.js"⟩, 3, .error, "bracket", "("⟩] := by
  have hlines : newlines "é\nf(1)\nf(2)" < 2 ^ 32 - 1 := by cbv
  have hspans : (Matcher.compile "f (".toList ⟨1, 1000⟩).map
      (·.spans (.ofString "é\nf(1)\nf(2)")) = .ok [⟨3, 5, "f("⟩] := by cbv
  have htext : Target.places {} "é\nf(1)\nf(2)" (.text ['(']) = [⟨4, 5, "("⟩, ⟨9, 10, "("⟩] := by
    cbv
  have hnewlines : newlinesBefore "é\nf(1)\nf(2)" 3 = 1 ∧ newlinesBefore "é\nf(1)\nf(2)" 4 = 1 ∧
      newlinesBefore "é\nf(1)\nf(2)" 9 = 2 := by cbv
  obtain ⟨m, hm, hspans⟩ := map_eq_ok_iff.mp hspans
  have hpattern : Target.places {} "é\nf(1)\nf(2)" (.pattern m) = [⟨3, 5, "f("⟩] := hspans
  have hcompiled : ∀ r ∈ [⟨.pattern m, "call", .warn⟩, ⟨.text ['('], "bracket", .error⟩],
      Target.Compiled (Request.target r) :=
    List.forall_mem_cons.mpr
      ⟨Target.compiled_of_compile hm, List.forall_mem_singleton.mpr trivial⟩
  obtain ⟨hfindings, -⟩ := @findings_collected ⟨"a.js"⟩ _ {} _ hlines hcompiled
  refine ⟨m, hm, hlines, hcompiled, hfindings.trans ?_⟩
  simp [hpattern, htext, hnewlines]

end Collected

end CodeShape
