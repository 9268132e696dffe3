import CodeShape.Proofs.Report.Rows

/-!
# Colours of the report

A report in colour is read as a terminal reads it: a control sequence `ESC [ … m` sets the style in
which everything behind it is shown, and every other character is shown. What is shown then are the
characters of the uncoloured report, each of them in the style that the parts of the report ask for
(`signals_render`, `shownIn_signals`). A style is asked for only around one text, and the default style
comes back behind it (`Decorated`); so the styles do not get out of hand, however many findings there
are and whichever of them share a header (`decorated_text`, `colors_decorate`).
-/

namespace CodeShape.Report

/-! ## What a terminal reads -/

/-- The character with which a control sequence begins. -/
def escape : Char :=
  '\x1b'

/-- What a terminal is told. -/
inductive Signal where
  /-- To show a character. -/
  | char (c : Char)
  /-- To change the style, by codes. -/
  | codes (ns : List Nat)
deriving Repr, DecidableEq

/-- Does a character stand between the bracket and the `m` of a control sequence? -/
def isCodeChar (c : Char) : Bool :=
  c.isDigit || c == ';'

/-- The codes of a control sequence. One that is left out is zero. -/
def readCodes (cs : List Char) : List Nat :=
  (cs.splitOn ';').map (Text.digitsValue 10)

/-- What is told behind an escape character, up to the next one: a control sequence and characters, or,
if no control sequence stands there, characters alone. -/
def behindEscape (cs : List Char) : List Signal :=
  match cs with
  | '[' :: rest =>
    match rest.span isCodeChar with
    | (codes, 'm' :: behind) => .codes (readCodes codes) :: behind.map .char
    | _ => (escape :: cs).map .char
  | _ => (escape :: cs).map .char

/-- What a text tells a terminal. -/
def signals (cs : List Char) : List Signal :=
  match cs.splitOn escape with
  | [] => []
  | first :: rest => first.map .char ++ rest.flatMap behindEscape

/-- The character that is shown, if it is one. -/
def Signal.char? : Signal → Option Char
  | char c => some c
  | codes _ => none

/-- A text without its control sequences `ESC [ … m`. -/
def strip (cs : List Char) : List Char :=
  (signals cs).filterMap Signal.char?

/-- The style behind a code. A code for what no report makes use of changes nothing. -/
def Style.behindCode (s : Style) : Nat → Style
  | 0 => {}
  | 1 => { s with bold := true }
  | 22 => { s with bold := false }
  | 31 => { s with color := some .red }
  | 33 => { s with color := some .yellow }
  | 36 => { s with color := some .cyan }
  | 39 => { s with color := none }
  | _ => s

/-- The style behind a signal. -/
def Style.behindSignal (s : Style) : Signal → Style
  | .char _ => s
  | .codes ns => ns.foldl Style.behindCode s

/-- The style behind some signals. -/
def Style.behind (s : Style) (sigs : List Signal) : Style :=
  sigs.foldl Style.behindSignal s

/-- The characters that signals show, each with the style it is shown in. -/
def shownIn (s : Style) : List Signal → List (Char × Style)
  | [] => []
  | .char c :: rest => (c, s) :: shownIn s rest
  | .codes ns :: rest => shownIn (s.behindSignal (.codes ns)) rest

/-- A text that is shown in one style. -/
def inStyle (s : Style) (cs : List Char) : List (Char × Style) :=
  cs.map fun c => (c, s)

theorem Style.behind_append (s : Style) (front back : List Signal) :
    s.behind (front ++ back) = (s.behind front).behind back :=
  List.foldl_append

theorem Style.behind_chars (s : Style) (cs : List Char) : s.behind (cs.map .char) = s := by
  induction cs with
  | nil => rfl
  | cons c cs ih => exact ih

theorem shownIn_append (s : Style) (front back : List Signal) :
    shownIn s (front ++ back) = shownIn s front ++ shownIn (s.behind front) back := by
  induction front generalizing s with
  | nil => rfl
  | cons sig front ih =>
    cases sig with
    | char c => exact congrArg _ (ih s)
    | codes ns => exact ih _

theorem shownIn_chars (s : Style) (cs : List Char) :
    shownIn s (cs.map .char) = inStyle s cs := by
  induction cs with
  | nil => rfl
  | cons c cs ih => exact congrArg _ ih

/-- The style does not matter for which characters are shown. -/
theorem map_fst_shownIn (s : Style) (sigs : List Signal) :
    (shownIn s sigs).map Prod.fst = sigs.filterMap Signal.char? := by
  induction sigs generalizing s with
  | nil => rfl
  | cons sig sigs ih =>
    cases sig with
    | char c => exact congrArg (c :: ·) (ih s)
    | codes ns => exact ih _

/-! ### Control sequences -/

/-- What stands in front of the first escape character goes to the first of the parts between them. -/
theorem splitOn_escape_append {front : List Char} (hfront : escape ∉ front) (rest : List Char) :
    ∃ first more, rest.splitOn escape = first :: more ∧
      (front ++ rest).splitOn escape = (front ++ first) :: more := by
  induction front with
  | nil =>
    obtain ⟨first, more, h⟩ := List.exists_cons_of_ne_nil (List.splitOn_ne_nil escape rest)
    exact ⟨first, more, h, h⟩
  | cons c front ih =>
    rw [List.mem_cons, not_or] at hfront
    obtain ⟨first, more, hrest, hboth⟩ := ih hfront.2
    have hc : ¬ (c == escape) = true := fun h => hfront.1 (beq_iff_eq.mp h).symm
    refine ⟨first, more, hrest, ?_⟩
    rw [List.cons_append, List.splitOn_cons_eq_if_modifyHead, if_neg hc, hboth]
    rfl

/-- Characters in front of the first escape character are shown. -/
theorem signals_chars_append {cs : List Char} (hcs : escape ∉ cs) (rest : List Char) :
    signals (cs ++ rest) = cs.map .char ++ signals rest := by
  obtain ⟨first, more, hrest, hboth⟩ := splitOn_escape_append hcs rest
  simp only [signals, hrest, hboth, List.map_append, List.append_assoc]

theorem behindEscape_sequence {codes : List Char} (hcodes : codes.all isCodeChar = true)
    (behind : List Char) : behindEscape ('[' :: (codes ++ 'm' :: behind)) =
      .codes (readCodes codes) :: behind.map .char := by
  have hspan : (codes ++ 'm' :: behind).span isCodeChar = (codes, 'm' :: behind) := by
    rw [List.all_eq_true] at hcodes
    rw [List.span_eq_takeWhile_dropWhile, List.takeWhile_append_of_pos hcodes,
      List.dropWhile_append_of_pos hcodes, List.takeWhile_cons_of_neg (by decide),
      List.dropWhile_cons_of_neg (by decide), List.append_nil]
  simp only [behindEscape, hspan]

/-- **A control sequence changes the style**, whatever stands behind it. -/
theorem signals_sequence (codes : List Char) (hcodes : codes.all isCodeChar = true)
    (rest : List Char) : signals (escape :: '[' :: (codes ++ 'm' :: rest)) =
      .codes (readCodes codes) :: signals rest := by
  have hfront : escape ∉ '[' :: (codes ++ ['m']) := by
    simp only [List.mem_cons, List.mem_append, List.not_mem_nil, or_false, not_or]
    exact ⟨by decide, fun h => absurd (List.all_eq_true.mp hcodes _ h) (by decide), by decide⟩
  obtain ⟨first, more, hrest, hboth⟩ := splitOn_escape_append hfront rest
  have hsplit : (escape :: '[' :: (codes ++ 'm' :: rest)).splitOn escape
      = [] :: ('[' :: (codes ++ 'm' :: first)) :: more := by
    rw [List.splitOn_cons_eq_if_modifyHead, if_pos (beq_self_eq_true escape)]
    simp only [List.cons_append, List.append_assoc, List.nil_append] at hboth
    rw [hboth]
  simp only [signals, hsplit, hrest, List.map_nil, List.nil_append, List.flatMap_cons,
    behindEscape_sequence hcodes, List.cons_append]

example : signals "a\x1b[1;31mb\x1b[m\x1b[2".toList =
    [.char 'a', .codes [1, 31], .char 'b', .codes [0], .char escape, .char '[', .char '2'] := by
  decide +kernel

/-! ## What the parts of a report ask for -/

/-- The code of a colour. -/
def Color.code : Color → Nat
  | red => 31
  | yellow => 33
  | cyan => 36

/-- The codes that bring a style about, if they come behind a reset. -/
def Style.settings (s : Style) : List Nat :=
  (if s.bold then [1] else []) ++ (s.color.map Color.code).toList

/-- What a part of a styled text tells a terminal. -/
def Part.signals : Part → List Signal
  | text cs => cs.map .char
  | style s => .codes [0] :: s.settings.map fun n => .codes [n]
  | reset => [.codes [0]]

theorem signals_reset (rest : List Char) :
    signals (resetSequence ++ rest) = .codes [0] :: signals rest :=
  signals_sequence ['0'] rfl rest

theorem signals_color (c : Color) (rest : List Char) :
    signals (c.sequence ++ rest) = .codes [c.code] :: signals rest := by
  cases c with
  | red => exact signals_sequence ['3', '1'] rfl rest
  | yellow => exact signals_sequence ['3', '3'] rfl rest
  | cyan => exact signals_sequence ['3', '6'] rfl rest

theorem signals_style (s : Style) (rest : List Char) :
    signals (s.sequence ++ rest) = Part.signals (.style s) ++ signals rest := by
  have hbold (rest : List Char) :
      signals ((if s.bold then "\x1b[1m".toList else []) ++ rest)
        = (if s.bold then [1] else []).map (fun n => .codes [n]) ++ signals rest := by
    cases s.bold with
    | false => rfl
    | true => exact signals_sequence ['1'] rfl rest
  rw [Style.sequence, List.append_assoc, List.append_assoc, signals_reset, hbold, Part.signals,
    Style.settings, List.map_append, List.cons_append, List.append_assoc]
  cases s.color with
  | none => rfl
  | some c => exact congrArg (fun more => .codes [0] :: (_ ++ more)) (signals_color c rest)

/-- Behind its own codes a style is in force, whatever was before. -/
theorem behind_style (t s : Style) : t.behind (Part.signals (.style s)) = s := by
  obtain ⟨color, bold⟩ := s
  cases bold <;> rcases color with _ | _ | _ | _ <;> rfl

/-- Codes show nothing. -/
theorem shownIn_of_forall_codes (s : Style) {sigs : List Signal}
    (h : ∀ sig ∈ sigs, sig.char? = none) : shownIn s sigs = [] := by
  rw [← List.map_eq_nil_iff, map_fst_shownIn, List.filterMap_eq_nil_iff]
  exact h

theorem shownIn_style (s t : Style) : shownIn s (Part.signals (.style t)) = [] :=
  shownIn_of_forall_codes s
    (List.forall_mem_cons.mpr ⟨rfl, List.forall_mem_map.mpr fun _ _ => rfl⟩)

/-- The characters that the parts of a styled text ask for, each with the style it is asked for in. -/
def wanted (s : Style) : List Part → List (Char × Style)
  | [] => []
  | .text cs :: rest => inStyle s cs ++ wanted s rest
  | .style s' :: rest => wanted s' rest
  | .reset :: rest => wanted {} rest

/-- **Each character is shown in the style that is asked for.** -/
theorem shownIn_signals (s : Style) (parts : List Part) :
    shownIn s (parts.flatMap Part.signals) = wanted s parts := by
  induction parts generalizing s with
  | nil => rfl
  | cons part parts ih =>
    rw [List.flatMap_cons, shownIn_append, ih]
    cases part with
    | text cs => rw [Part.signals, shownIn_chars, Style.behind_chars, wanted]
    | style s' => rw [behind_style, shownIn_style, wanted, List.nil_append]
    | reset => rfl

/-- What is asked for are the characters of the uncoloured text. -/
theorem map_fst_wanted (s : Style) (parts : List Part) :
    (wanted s parts).map Prod.fst = render false parts := by
  induction parts generalizing s with
  | nil => rfl
  | cons part parts ih =>
    have hrender : render false (part :: parts) = part.plain ++ render false parts := rfl
    rw [hrender]
    cases part with
    | text cs =>
      rw [wanted, inStyle, List.map_append, ih, List.map_map]
      exact congrArg (· ++ render false parts) (List.map_id cs)
    | style s' => exact ih s'
    | reset => exact ih {}

/-! ## Styles that end behind their text -/

/-- A styled text without escape characters in which a style is asked for only in front of one text, and
the default style behind it. -/
inductive Decorated : List Part → Prop
  | nil : Decorated []
  | plain {cs : List Char} {rest : List Part} (hcs : escape ∉ cs) (h : Decorated rest) :
      Decorated (.text cs :: rest)
  | styled {s : Style} {cs : List Char} {rest : List Part} (hcs : escape ∉ cs)
      (h : Decorated rest) : Decorated (.style s :: .text cs :: .reset :: rest)

namespace Decorated

variable {parts more : List Part}

theorem append (h : Decorated parts) (hmore : Decorated more) : Decorated (parts ++ more) := by
  induction h with
  | nil => exact hmore
  | plain hcs _ ih => exact .plain hcs ih
  | styled hcs _ ih => exact .styled hcs ih

/-- **A terminal is told what the parts ask for.** -/
theorem signals_render (h : Decorated parts) :
    signals (render true parts) = parts.flatMap Part.signals := by
  induction h with
  | nil => rfl
  | plain hcs _ ih =>
    rw [List.flatMap_cons, ← ih]
    exact signals_chars_append hcs _
  | @styled s cs rest hcs _ ih =>
    calc signals (render true (.style s :: .text cs :: .reset :: rest))
        = signals (s.sequence ++ (cs ++ (resetSequence ++ render true rest))) := rfl
      _ = (Part.style s :: .text cs :: .reset :: rest).flatMap Part.signals := by
        rw [signals_style, signals_chars_append hcs, signals_reset, ih]
        rfl

/-- The style behind is the default style if the one before is. -/
theorem behind_signals (h : Decorated parts) :
    Style.behind {} (parts.flatMap Part.signals) = {} := by
  induction h with
  | nil => rfl
  | plain _ _ ih => rw [List.flatMap_cons, Style.behind_append, Part.signals, Style.behind_chars, ih]
  | styled _ _ ih =>
    simp only [List.flatMap_cons, Style.behind_append]
    exact ih

end Decorated

/-- Behind each setting of a colour or of bold there comes a reset, and what is shown in between is shown
in one style. -/
def ClosesStyles (s : Style) (sigs : List Signal) : Prop :=
  ∀ (front : List Signal) (ns : List Nat) (back : List Signal),
    sigs = front ++ .codes ns :: back → ns ≠ [0] →
    ∃ (inner rest : List Signal) (t : Style), back = inner ++ .codes [0] :: rest ∧
      ∀ cell ∈ shownIn (s.behind (front ++ [.codes ns])) inner, cell.2 = t

namespace ClosesStyles

variable {s : Style} {sig : Signal} {sigs : List Signal}

theorem nil (s : Style) : ClosesStyles s [] :=
  fun _ _ _ heq => absurd heq.symm (List.append_ne_nil_of_right_ne_nil _ (List.cons_ne_nil _ _))

theorem cons (hsig : ∀ ns, sig = .codes ns → ns ≠ [0] → ∃ inner rest t,
      sigs = inner ++ .codes [0] :: rest ∧
        ∀ cell ∈ shownIn (s.behindSignal sig) inner, cell.2 = t)
    (h : ClosesStyles (s.behindSignal sig) sigs) : ClosesStyles s (sig :: sigs) := by
  intro front ns back heq hns
  cases front with
  | nil =>
    obtain ⟨rfl, rfl⟩ := List.cons.inj heq
    exact hsig ns rfl hns
  | cons sig' front =>
    obtain ⟨rfl, rfl⟩ := List.cons.inj heq
    exact h front ns back rfl hns

theorem chars (cs : List Char) (h : ClosesStyles s sigs) :
    ClosesStyles s (cs.map .char ++ sigs) := by
  induction cs with
  | nil => exact h
  | cons c cs ih => exact cons nofun ih

theorem reset (h : ClosesStyles {} sigs) : ClosesStyles s (.codes [0] :: sigs) :=
  cons (fun _ hreset hns => absurd (Signal.codes.inj hreset).symm hns) h

/-- A style that is set for one text and reset behind it. -/
theorem settings (ns : List Nat) (cs : List Char) (h : ClosesStyles {} sigs) :
    ClosesStyles s (ns.map (fun n => .codes [n]) ++ (cs.map .char ++ .codes [0] :: sigs)) := by
  induction ns generalizing s with
  | nil => exact chars cs (reset h)
  | cons n ns ih =>
    refine cons (fun _ _ _ => ?_) ih
    refine ⟨ns.map (fun n => .codes [n]) ++ cs.map .char, sigs,
      (s.behindSignal (.codes [n])).behind (ns.map fun n => .codes [n]),
      (List.append_assoc _ _ _).symm, fun cell hcell => ?_⟩
    rw [shownIn_append, shownIn_chars, shownIn_of_forall_codes _
      (List.forall_mem_map.mpr fun _ _ => rfl), List.nil_append, inStyle, List.mem_map] at hcell
    obtain ⟨c, -, rfl⟩ := hcell
    rfl

end ClosesStyles

/-- **No style outlasts the text it is asked for.** -/
theorem Decorated.closesStyles {parts : List Part} (h : Decorated parts) (s : Style) :
    ClosesStyles s (parts.flatMap Part.signals) := by
  induction h generalizing s with
  | nil => exact .nil s
  | plain _ _ ih => exact .chars _ (ih s)
  | @styled t cs rest _ _ ih =>
    have hsignals : (Part.style t :: .text cs :: .reset :: rest).flatMap Part.signals
        = .codes [0] :: (t.settings.map (fun n => .codes [n]) ++
          (cs.map .char ++ .codes [0] :: rest.flatMap Part.signals)) := rfl
    rw [hsignals]
    exact .reset (.settings _ _ (ih {}))

/-! ## The parts of the report -/

theorem escape_not_mem_firstLine {cs : List Char} (h : escape ∉ cs) : escape ∉ firstLine cs := by
  rw [firstLine_eq_shown]
  unfold shown
  split
  next =>
    rw [List.mem_append, not_or]
    refine ⟨fun hmem => ?_, by decide⟩
    exact h ((List.takeWhile_prefix _).subset ((List.rdropWhile_prefix _ _).subset hmem))
  next => exact h

/-- The texts of a finding have no escape character in them. -/
structure Escapeless (f : Finding) : Prop where
  path : escape ∉ f.path.written.toList
  message : escape ∉ f.message.toList
  text : escape ∉ f.text.toList

theorem decorated_header {f : Finding} (h : Escapeless f) : Decorated (header f) := by
  have hname : escape ∉ f.severity.name.toList := by cases f.severity <;> decide
  have hmessage : escape ∉ f.message.toList ++ ['\n'] := by
    rw [List.mem_append, not_or]
    exact ⟨h.message, by decide⟩
  exact .styled hname (.plain (by decide) (.styled hmessage .nil))

theorem decorated_location {f : Finding} (h : Escapeless f) : Decorated (location f) := by
  have hline : escape ∉ (toString f.line).toList :=
    fun hmem => absurd (isDigit_of_mem_toString hmem) (by decide)
  have htext : escape ∉ ": ".toList ++ firstLine f.text.toList ++ ['\n'] := by
    simp only [List.mem_append, not_or]
    exact ⟨⟨by decide, escape_not_mem_firstLine h.text⟩, by decide⟩
  exact .plain (by decide) (.styled h.path (.plain (by decide) (.styled hline (.styled htext .nil))))

theorem decorated_headingParts (previous : Option Finding) {f : Finding} (h : Escapeless f) :
    Decorated (headingParts previous f) := by
  unfold headingParts
  split
  next => exact .nil
  next => exact decorated_header h

theorem decorated_lines (previous : Option Finding) {findings : List Finding}
    (h : ∀ f ∈ findings, Escapeless f) : Decorated (lines previous findings) := by
  induction findings generalizing previous with
  | nil => exact .nil
  | cons f rest ih =>
    obtain ⟨hf, hrest⟩ := List.forall_mem_cons.mp h
    rw [lines_cons]
    exact ((decorated_headingParts previous hf).append (decorated_location hf)).append
      (ih (some f) hrest)

theorem decorated_summary (findings : List Finding) : Decorated (summary findings) := by
  have hcounted (n : Nat) {word : String} (hword : escape ∉ word.toList) :
      escape ∉ (counted n word).toList :=
    not_mem_counted n (by decide) (by decide) (by decide) hword
  refine .plain ?_ .nil
  simp only [String.toList_append, List.mem_append, not_or]
  exact ⟨⟨⟨⟨by decide, hcounted _ (by decide)⟩, by decide⟩, hcounted _ (by decide)⟩, by decide⟩

/-- **In the report no style outlasts its text.** -/
theorem decorated_text {findings : List Finding} (h : ∀ f ∈ findings, Escapeless f) :
    Decorated (text findings) := by
  unfold text
  split
  next => exact .nil
  next => exact (decorated_lines none h).append (decorated_summary findings)

/-! ## The whole report -/

/-- What stands in front of the line of a finding and behind it. -/
theorem lines_append (previous : Option Finding) (before : List Finding) (f : Finding)
    (after : List Finding) : lines previous (before ++ f :: after) =
      lines previous before ++ headingParts (before.getLast?.or previous) f ++
        (location f ++ lines (some f) after) := by
  induction before generalizing previous with
  | nil => exact List.append_assoc _ _ _
  | cons g before ih =>
    rw [List.cons_append, lines_cons, ih, lines_cons, getLast?_cons_or]
    simp only [List.append_assoc]

/-- The header over a finding as it is shown in colour. -/
def headerShown (f : Finding) : List (Char × Style) :=
  inStyle (.severity f.severity) f.severity.name.toList ++ inStyle {} ": ".toList ++
    inStyle .message (f.message.toList ++ ['\n'])

/-- The line of a finding as it is shown in colour. -/
def locationShown (f : Finding) : List (Char × Style) :=
  inStyle {} "  ".toList ++ inStyle .path f.path.written.toList ++ inStyle {} ":".toList ++
    inStyle .lineNumber (toString f.line).toList ++
    inStyle {} (": ".toList ++ shown f.text.toList ++ ['\n'])

theorem wanted_header (f : Finding) : wanted {} (header f) = headerShown f := by
  simp [header, wanted, headerShown]

theorem wanted_location_append (f : Finding) (more : List Part) :
    wanted {} (location f ++ more) = locationShown f ++ wanted {} more := by
  simp [location, wanted, locationShown, firstLine_eq_shown, Style.matched]

theorem toList_write_text_colored (colored : Bool) (findings : List Finding) :
    (write .text colored findings).toList = render colored (text findings) :=
  String.toList_ofList

/-- What signals show but for the style. -/
theorem filterMap_char?_signals (parts : List Part) :
    (parts.flatMap Part.signals).filterMap Signal.char? = render false parts := by
  rw [← map_fst_shownIn {}, shownIn_signals, map_fst_wanted]

theorem settings_subset (s : Style) : s.settings ⊆ [1, 31, 33, 36] := by
  obtain ⟨color, bold⟩ := s
  cases bold <;> rcases color with _ | _ | _ | _ <;> decide

/-- Every change of style is a reset, or sets bold or one of the colours. -/
theorem codes_of_mem_signals {parts : List Part} {ns : List Nat}
    (h : .codes ns ∈ parts.flatMap Part.signals) : ns = [0] ∨ ∃ n ∈ [1, 31, 33, 36], ns = [n] := by
  obtain ⟨part, -, hpart⟩ := List.mem_flatMap.mp h
  cases part with
  | text cs =>
    obtain ⟨c, -, hc⟩ := List.mem_map.mp hpart
    cases hc
  | style s =>
    rcases List.mem_cons.mp hpart with hreset | hsetting
    · exact .inl (Signal.codes.inj hreset)
    · obtain ⟨n, hn, hns⟩ := List.mem_map.mp hsetting
      exact .inr ⟨n, settings_subset s hn, (Signal.codes.inj hns).symm⟩
  | reset => exact .inl (Signal.codes.inj (List.mem_singleton.mp hpart))

/-- **Colours only decorate the report.** Let no path, message and text have an escape character in it.
Without its control sequences the report in colour is the uncoloured one. These are resets and settings
of bold and of the colours in use; behind each setting comes a reset, before anything is shown in
another style, and the report ends in the default style. Behind the lines of the findings before it and
its header, if it needs one, every line of a finding begins in the default style. Headers and lines are
shown in the styles of their parts. -/
theorem colors_decorate (findings : List Finding) (hplain : ∀ f ∈ findings, Escapeless f) :
    strip (write .text true findings).toList = (write .text false findings).toList ∧
      (∀ ns, .codes ns ∈ signals (write .text true findings).toList →
        ns = [0] ∨ ∃ n ∈ [1, 31, 33, 36], ns = [n]) ∧
      ClosesStyles {} (signals (write .text true findings).toList) ∧
      Style.behind {} (signals (write .text true findings).toList) = {} ∧
      ∀ (before : List Finding) (f : Finding) (after : List Finding),
        findings = before ++ f :: after → ∃ front head back : List Signal,
          signals (write .text true findings).toList = front ++ head ++ back ∧
          front.filterMap Signal.char? = written (rows none before) ∧
          head.filterMap Signal.char? = written (heading before.getLast? f) ∧
          Style.behind {} front = {} ∧
          (head ≠ [] → shownIn {} head = headerShown f) ∧
          Style.behind {} (front ++ head) = {} ∧
          ∃ rest, shownIn {} back = locationShown f ++ rest := by
  have hsignals : signals (write .text true findings).toList
      = (text findings).flatMap Part.signals := by
    rw [toList_write_text_colored, (decorated_text hplain).signals_render]
  rw [hsignals]
  refine ⟨?_, fun _ => codes_of_mem_signals, (decorated_text hplain).closesStyles {},
    (decorated_text hplain).behind_signals, ?_⟩
  · rw [strip, hsignals, filterMap_char?_signals, toList_write_text_colored]
  · rintro before f after rfl
    -- the parts of the report, divided in front of the finding and behind its header
    have hparts : text (before ++ f :: after) = lines none before ++
        headingParts before.getLast? f ++
        (location f ++ (lines (some f) after ++ summary (before ++ f :: after))) := by
      rw [text, if_neg (by simp), lines_append, Option.or_none]
      simp only [List.append_assoc]
    have hbefore := decorated_lines none fun g hg => hplain g (List.mem_append_left _ hg)
    have hf := hplain f (List.mem_append_right _ List.mem_cons_self)
    rw [hparts, List.flatMap_append, List.flatMap_append]
    refine ⟨_, _, _, rfl, ?_, ?_, hbefore.behind_signals, ?_, ?_, ?_⟩
    · rw [filterMap_char?_signals, render_lines]
    · rw [filterMap_char?_signals, render_headingParts]
    · unfold headingParts
      split
      next => exact fun h => absurd rfl h
      next =>
        intro _
        rw [shownIn_signals, wanted_header]
    · rw [Style.behind_append, hbefore.behind_signals,
        (decorated_headingParts _ hf).behind_signals]
    · rw [shownIn_signals, wanted_location_append]
      exact ⟨_, rfl⟩

/-- A header for two findings, a message that looks like a control sequence, and an error. -/
theorem colors_decorate_shared :
    let first : Finding := ⟨⟨"a.js"⟩, 2, .warn, "[31m", "x"⟩
    let second : Finding := ⟨⟨"a.js"⟩, 5, .warn, "[31m", "y"⟩
    let third : Finding := ⟨⟨"b.js"⟩, 7, .error, "m", "z"⟩
    let report := (write .text true [first, second, third]).toList
    (∀ f ∈ [first, second, third], Escapeless f) ∧
      strip report = ("warn: [31m\n  a.js:2: x\n  a.js:5: y\nerror: m\n  b.js:7: z\n"
        ++ "\n3 findings, 1 error\n").toList ∧
      ClosesStyles {} (signals report) ∧ Style.behind {} (signals report) = {} ∧
      ∃ front back rest, signals report = front ++ back ∧ Style.behind {} front = {} ∧
        shownIn {} back = locationShown second ++ rest := by
  intro first second third report
  have hplain : ∀ f ∈ [first, second, third], Escapeless f := by
    refine List.forall_mem_cons.mpr ⟨?_, List.forall_mem_cons.mpr
      ⟨?_, List.forall_mem_singleton.mpr ?_⟩⟩
    all_goals exact ⟨by decide, by decide, by decide⟩
  obtain ⟨hstrip, -, hcloses, hend, hlines⟩ := colors_decorate _ hplain
  obtain ⟨front, head, back, hsignals, -, -, -, -, hbegin, rest, hshown⟩ :=
    hlines [first] second [third] rfl
  refine ⟨hplain, ?_, hcloses, hend, front ++ head, back, rest, hsignals, hbegin, hshown⟩
  rw [hstrip]
  decide +kernel

end CodeShape.Report
