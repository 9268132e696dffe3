import CodeShape.Proofs.Pattern.Containment
import CodeShape.Proofs.Pattern.PlainText
import CodeShape.Proofs.Regex.Openings

/-!
# Named groups of raw expressions

Outside of raw expressions, the only groups of an assembled expression that have names are the
captures (`captureAt_or_bodyAt`): quoted text opens no group, and the words of the language are told
apart by groups without names. So whatever is in a raw expression, a group that is named there is
reported in the category `other` and no capture loses its place to it, as long as it is not named as
captures are (`findAll_by_place`).
-/

namespace CodeShape.Pattern

open Regex (Expr Named NamesGroup skipBlanks)

variable {pattern : List Char} {pieces : List Piece} {limits : Limits} {m : Matcher}
  {segs : List Segment} {c : Captures} {cs ds es rest name place place' : List Char} {n n' : Nat}
  {t t' : Token} {spaced : Bool}

/-! ## Places -/

/-- Where the expression of the segments reads on with `place`, the `n`-th capture begins, which is
that of the token `t`. -/
def CaptureAt (c : Captures) (segs : List Segment) (n : Nat) (t : Token) (place : List Char) : Prop :=
  ∃ front back, segs = front ++ .token t :: back ∧ n = (bindFrom c front).2.size ∧
    (bindToken (bindFrom c front).2 t).2.size = n + 1 ∧
    place = assemble (bindFrom (bindFrom c front).2 (.token t :: back)).1

/-- Where the expression of the segments reads on with `place`, it is inside a raw expression. -/
def BodyAt (c : Captures) (segs : List Segment) (place : List Char) : Prop :=
  ∃ front body back inside, segs = front ++ .token (.raw body) :: back ∧ inside ≠ [] ∧
    inside <:+ body ∧ place = inside ++
      ')' :: assemble (bindFrom (bindToken (bindFrom c front).2 (.raw body)).2 back).1

theorem CaptureAt.cons {s : Segment} (h : CaptureAt (bindOne c s).2 segs n t place) :
    CaptureAt c (s :: segs) n t place := by
  obtain ⟨front, back, rfl, hn, hnew, hplace⟩ := h
  refine ⟨s :: front, back, rfl, ?_⟩
  rw [bindFrom_cons]
  exact ⟨hn, hnew, hplace⟩

theorem BodyAt.cons {s : Segment} (h : BodyAt (bindOne c s).2 segs place) :
    BodyAt c (s :: segs) place := by
  obtain ⟨front, body, back, inside, rfl, hne, hinside, hplace⟩ := h
  refine ⟨s :: front, body, back, inside, rfl, hne, hinside, ?_⟩
  rw [bindFrom_cons]
  exact hplace

/-! ## Where no group is named -/

/-- A parenthesis in front of the text opens no group with a name. -/
def Unnamed (ds : List Char) : Prop :=
  ∀ spaced es name, skipBlanks spaced .blanks ds = .ok es → ¬ Named es name

theorem unnamed_of_skip (hskip : ∀ spaced, skipBlanks spaced .blanks ds = .ok ds)
    (h : ∀ name, ¬ Named ds name) : Unnamed ds := by
  intro spaced es name hes
  rw [hskip] at hes
  cases hes
  exact h name

theorem not_named_of_head (h : ds.head? ≠ some '?') : ¬ Named ds name := by
  rintro ⟨named, rest, ⟨rfl, -⟩ | rfl, -⟩
  · exact h rfl
  · exact h rfl

theorem skipBlanks_cons {d : Char} (hparen : d ≠ '(') (hhash : d ≠ '#')
    (hblank : Unicode.isBlank d = false) : skipBlanks spaced .blanks (d :: ds) = .ok (d :: ds) := by
  have hall : [' ', '\r', '\n', '\t'].all Unicode.isBlank = true := by decide
  have hnot : [' ', '\r', '\n', '\t'].contains d = false := by
    rw [List.contains_eq_mem, decide_eq_false_iff_not]
    intro hmem
    rw [List.all_eq_true.mp hall d hmem] at hblank
    cases hblank
  rw [skipBlanks]
  · rw [hnot, Bool.and_false, if_neg Bool.false_ne_true]
  · exact fun _ h _ => hparen h
  · exact hhash

/-- In front of a character that is not skipped and does not ask for a name. -/
theorem unnamed_cons {d : Char} (hmark : d ∉ ['(', '#', '?']) (hblank : Unicode.isBlank d = false)
    (ds : List Char) : Unnamed (d :: ds) := by
  simp only [List.mem_cons, List.not_mem_nil, or_false, not_or] at hmark
  obtain ⟨hparen, hhash, hquestion⟩ := hmark
  refine unnamed_of_skip (fun spaced => skipBlanks_cons hparen hhash hblank) fun name => ?_
  refine not_named_of_head fun hhead => ?_
  exact hquestion (Option.some.inj hhead)

theorem unnamed_nil : Unnamed [] := by
  refine unnamed_of_skip (fun spaced => ?_) fun name => not_named_of_head nofun
  rw [skipBlanks]
  intro h
  cases h

/-- The marks of groups that have no name. -/
def namelessMarks : List (List Char) := [['?', ':'], ['?', '!'], ['?', '<', '!']]

theorem unnamed_of_mark {mark : List Char} (hmark : mark ∈ namelessMarks) (ds : List Char) :
    Unnamed (mark ++ ds) := by
  have hskip (ds : List Char) (spaced : Bool) :
      skipBlanks spaced .blanks ('?' :: ds) = .ok ('?' :: ds) :=
    skipBlanks_cons (by decide) (by decide) (by decide)
  simp only [namelessMarks, List.mem_cons, List.not_mem_nil, or_false] at hmark
  rcases hmark with rfl | rfl | rfl
  · refine unnamed_of_skip (hskip _) fun name => ?_
    rintro ⟨named, rest, ⟨heq, -⟩ | heq, -⟩
    · cases heq
    · cases heq
  · refine unnamed_of_skip (hskip _) fun name => ?_
    rintro ⟨named, rest, ⟨heq, -⟩ | heq, -⟩
    · cases heq
    · cases heq
  · refine unnamed_of_skip (hskip _) fun name => ?_
    rintro ⟨named, rest, ⟨heq, -, hbehind⟩ | heq, -⟩
    · cases heq
      exact hbehind rfl
    · cases heq

theorem unnamed_capture (n : Nat) (body rest : List Char) : Unnamed (capture n body ++ rest) := by
  rw [capture_append]
  refine unnamed_of_skip (fun spaced => ?_) fun name => not_named_of_head nofun
  rw [skipBlanks]
  · simp
  · intro more _ heq
    exact absurd (List.cons.inj (List.cons.inj heq).2).1 (by decide)
  · decide

/-- Quoted text opens no group, and a parenthesis in front of it names none. -/
theorem unnamed_quote (hcs : ∀ c ∈ cs, Unicode.isBlank c = false) (h : Unnamed rest) :
    Unnamed (Regex.quote cs ++ rest) := by
  cases cs with
  | nil => exact h
  | cons c cs =>
    obtain ⟨hc, -⟩ := List.forall_mem_cons.mp hcs
    rw [Regex.quote, List.flatMap_cons]
    split
    · exact unnamed_cons (by decide) (by decide) _
    next hspecial =>
      have hall : ['(', '#', '?'].all Regex.isSpecial = true := by decide
      exact unnamed_cons (fun hmem => hspecial (List.all_eq_true.mp hall c hmem)) hc _

/-! ## Parentheses in the parts of an expression -/

theorem suffix_append_cases {xs front back : List Char} (h : xs <:+ front ++ back) :
    xs <:+ back ∨ ∃ xs', xs' ≠ [] ∧ xs' <:+ front ∧ xs = xs' ++ back := by
  induction front with
  | nil => exact .inl h
  | cons d front ih =>
    rcases List.suffix_cons_iff.mp h with rfl | h
    · exact .inr ⟨d :: front, List.cons_ne_nil d front, List.suffix_rfl, rfl⟩
    · rcases ih h with hback | ⟨xs', hne, hfront, rfl⟩
      · exact .inl hback
      · exact .inr ⟨xs', hne, hfront.trans (List.suffix_cons d front), rfl⟩

/-- What begins with a parenthesis does not begin where there is none. -/
theorem paren_suffix_of_append {front back : List Char} (hfront : '(' ∉ front)
    (h : '(' :: ds <:+ front ++ back) : '(' :: ds <:+ back := by
  rcases suffix_append_cases h with hback | ⟨xs, hne, hxs, heq⟩
  · exact hback
  · obtain ⟨d, xs, rfl⟩ := List.exists_cons_of_ne_nil hne
    obtain ⟨rfl, -⟩ := List.cons.inj heq
    exact absurd (hxs.subset List.mem_cons_self) hfront

/-- A parenthesis in quoted text is behind a backslash, and quoted text follows it. -/
theorem paren_suffix_quote (h : '(' :: ds <:+ Regex.quote cs) :
    ∃ cs', ds = Regex.quote cs' ∧ cs' <:+ cs := by
  induction cs with
  | nil => exact absurd (List.suffix_nil.mp h) (List.cons_ne_nil _ _)
  | cons c cs ih =>
    have htail (h : '(' :: ds <:+ Regex.quote cs) : ∃ cs', ds = Regex.quote cs' ∧ cs' <:+ c :: cs := by
      obtain ⟨cs', hds, hcs'⟩ := ih h
      exact ⟨cs', hds, hcs'.trans (List.suffix_cons c cs)⟩
    rw [Regex.quote, List.flatMap_cons] at h
    split at h
    · rcases List.suffix_cons_iff.mp h with heq | h
      · cases heq
      · rcases List.suffix_cons_iff.mp h with heq | h
        · exact ⟨cs, (List.cons.inj heq).2, List.suffix_cons c cs⟩
        · exact htail h
    next hspecial =>
      rcases List.suffix_cons_iff.mp h with heq | h
      · obtain ⟨rfl, -⟩ := List.cons.inj heq
        exact absurd rfl hspecial
      · exact htail h

/-- Each parenthesis opens a group that has no name. -/
def groupsNameless : List Char → Bool
  | [] => true
  | c :: rest =>
    (c != '(' || namelessMarks.any (·.isPrefixOf rest)) && groupsNameless rest

theorem mark_of_groupsNameless (h : groupsNameless cs = true) (hsuffix : '(' :: ds <:+ cs) :
    ∃ mark ∈ namelessMarks, mark <+: ds := by
  induction cs with
  | nil => exact absurd (List.suffix_nil.mp hsuffix) (List.cons_ne_nil _ _)
  | cons c cs ih =>
    obtain ⟨hfirst, hrest⟩ := Bool.and_eq_true_iff.mp h
    rcases List.suffix_cons_iff.mp hsuffix with heq | hsuffix
    · obtain ⟨rfl, rfl⟩ := List.cons.inj heq
      simpa using hfirst
    · exact ih hrest hsuffix

/-- The words of the language are told apart by groups that have no names. -/
theorem groupsNameless_body (ht : ∀ body, t ≠ .raw body) : groupsNameless t.body = true := by
  have hall : groupsNameless Grammar.variableName = true ∧ groupsNameless Grammar.literal = true ∧
      groupsNameless Grammar.operator = true ∧ groupsNameless Grammar.keyword = true ∧
      groupsNameless Grammar.greedyBlock = true ∧ groupsNameless Grammar.lazyBlock = true := by
    decide +kernel
  obtain ⟨hvariable, hliteral, hoperator, hkeyword, hgreedy, hlazy⟩ := hall
  cases t with
  | «variable» id => exact hvariable
  | literal id => exact hliteral
  | operator id => exact hoperator
  | keyword id => exact hkeyword
  | block greedy id =>
    cases greedy with
    | true => exact hgreedy
    | false => exact hlazy
  | raw body => exact absurd rfl (ht body)

theorem paren_not_mem_captureName (n : Nat) : '(' ∉ (captureName n).toList := by
  intro hmem
  have h := (isName_captureName n).2 _ hmem
  revert h
  decide

/-- A parenthesis in a capture is the one that opens it, or stands in its body. -/
theorem paren_suffix_capture {n : Nat} {body : List Char} (h : '(' :: ds <:+ capture n body) :
    '(' :: ds = capture n body ∨ ∃ inside, inside ≠ [] ∧ inside <:+ body ∧
      '(' :: ds = inside ++ [')'] := by
  have hcapture := capture_append n body []
  rw [List.append_nil] at hcapture
  rw [hcapture] at h ⊢
  rcases List.suffix_cons_iff.mp h with heq | hinside
  · exact .inl heq
  have hmark : '(' ∉ ['?', 'P', '<'] ++ (captureName n).toList ++ ['>'] := by
    simp [paren_not_mem_captureName]
  have hparts : '?' :: 'P' :: '<' :: ((captureName n).toList ++ '>' :: (body ++ [')'])) =
      (['?', 'P', '<'] ++ (captureName n).toList ++ ['>']) ++ (body ++ [')']) := by
    simp
  rw [hparts] at hinside
  rcases suffix_append_cases (paren_suffix_of_append hmark hinside) with hclose | hbody
  · exact absurd (hclose.subset List.mem_cons_self) (by decide)
  · exact .inr hbody

/-- The group of a capture is named as the capture is. -/
theorem name_of_capture {n : Nat} {body : List Char} (hds : '(' :: ds = capture n body)
    (hes : skipBlanks spaced .blanks (ds ++ rest) = .ok es) (hnamed : Named es name) :
    name = (captureName n).toList := by
  have hcapture := capture_append n body rest
  rw [← hds] at hcapture
  obtain ⟨-, htail⟩ := List.cons.inj hcapture
  rw [List.append_eq] at htail
  rw [htail, skipBlanks_cons (by decide) (by decide) (by decide)] at hes
  cases hes
  obtain ⟨named, behind, ⟨heq, -⟩ | heq, hread⟩ := hnamed
  · cases heq
  · cases heq
    cases hread.symm.trans (Regex.Reader.readName_append (isName_captureName n) _)
    rfl

theorem paren_not_mem_reference (n : Nat) : '(' ∉ reference n := by
  intro hmem
  rcases List.mem_append.mp hmem with hmem | hmem
  · rcases List.mem_append.mp hmem with hmem | hmem
    · revert hmem
      decide
    · exact paren_not_mem_captureName n hmem
  · revert hmem
    decide

/-- A token is written as a new capture, or as a reference to one. -/
theorem bindToken_cases (c : Captures) (t : Token) :
    (bindToken c t).1.written = capture c.size t.body ∧
        (bindToken c t).2.categories = c.categories ++ [t.category] ∨
      ∃ n, (bindToken c t).1.written = reference n ∧
        (bindToken c t).2.categories = c.categories := by
  unfold bindToken
  dsimp only
  split
  · exact .inl ⟨rfl, rfl⟩
  · split
    next n _ => exact .inr ⟨n, rfl, rfl⟩
    next => exact .inl ⟨rfl, rfl⟩

/-! ## Places where groups are named -/

/-- A text is quoted, and holds no blanks. -/
def Segment.IsSolid : Segment → Prop
  | .text quoted => ∃ cs, quoted = Regex.quote cs ∧ ∀ c ∈ cs, Unicode.isBlank c = false
  | _ => True

theorem layout_isSolid (pieces : List Piece) : ∀ s ∈ layout (normalize pieces), s.IsSolid := by
  intro s hs
  obtain ⟨p, -, hs⟩ := List.mem_flatMap.mp (mem_of_mem_layout hs)
  cases p with
  | text cs =>
    rcases mem_splitBlanks hs with rfl | ⟨run, rfl, -, -, hink⟩
    · trivial
    · exact ⟨run, rfl, hink⟩
  | token t =>
    cases s with
    | text quoted =>
      cases t with
      | block greedy id => exact absurd (List.mem_singleton.mp hs) nofun
      | _ => exact absurd hs (by simp [Piece.segments])
    | space => trivial
    | token t => trivial

theorem assemble_bindFrom_cons (c : Captures) (s : Segment) (segs : List Segment) :
    assemble (bindFrom c (s :: segs)).1 =
      (bindOne c s).1.written ++ assemble (bindFrom (bindOne c s).2 segs).1 := by
  rw [bindFrom_cons]
  rfl

/-- A parenthesis in front of what segments are assembled to names no group. -/
theorem unnamed_assemble (hsegs : ∀ s ∈ segs, s.IsSolid) :
    Unnamed (assemble (bindFrom c segs).1) := by
  induction segs generalizing c with
  | nil => exact unnamed_nil
  | cons s segs ih =>
    obtain ⟨hs, hrest⟩ := List.forall_mem_cons.mp hsegs
    rw [assemble_bindFrom_cons]
    cases s with
    | space => exact unnamed_cons (by decide) (by decide) _
    | text quoted =>
      obtain ⟨cs, rfl, hcs⟩ := hs
      exact unnamed_quote hcs (ih hrest)
    | token t =>
      rcases bindToken_cases c t with ⟨hwritten, -⟩ | ⟨n, hwritten, -⟩
      · show Unnamed ((bindToken c t).1.written ++ _)
        rw [hwritten]
        exact unnamed_capture _ _ _
      · show Unnamed ((bindToken c t).1.written ++ _)
        rw [hwritten]
        exact unnamed_cons (by decide) (by decide) _

/-- In a capture, the only group with a name is the capture itself, unless it holds a raw
expression. -/
theorem captureAt_or_bodyAt_head (hwritten : (bindToken c t).1.written = capture c.size t.body)
    (hnew : (bindToken c t).2.categories = c.categories ++ [t.category])
    (hxs : '(' :: ds <:+ capture c.size t.body)
    (hes : skipBlanks spaced .blanks (ds ++ assemble (bindFrom (bindToken c t).2 segs).1) = .ok es)
    (hnamed : Named es name) :
    BodyAt c (.token t :: segs) ('(' :: (ds ++ assemble (bindFrom (bindToken c t).2 segs).1)) ∨
      ∃ n t', CaptureAt c (.token t :: segs) n t'
        ('(' :: (ds ++ assemble (bindFrom (bindToken c t).2 segs).1)) ∧
          name = (captureName n).toList := by
  rcases paren_suffix_capture hxs with heq | ⟨inside, hne, hsuffix, heq⟩
  · right
    refine ⟨c.size, t, ⟨[], segs, rfl, rfl, ?_, ?_⟩, name_of_capture heq hes hnamed⟩
    · show (bindToken c t).2.categories.length = c.categories.length + 1
      rw [hnew, List.length_append, List.length_singleton]
    · show _ = assemble (bindFrom c (.token t :: segs)).1
      rw [assemble_bindFrom_cons]
      show _ = (bindToken c t).1.written ++ _
      rw [hwritten, ← heq]
      rfl
  · have hplace : '(' :: (ds ++ assemble (bindFrom (bindToken c t).2 segs).1) =
        inside ++ ')' :: assemble (bindFrom (bindToken c t).2 segs).1 := by
      rw [← List.cons_append, heq, List.append_assoc]
      rfl
    by_cases hraw : ∃ body, t = .raw body
    · obtain ⟨body, rfl⟩ := hraw
      exact .inl ⟨[], body, segs, inside, rfl, hne, hsuffix, hplace⟩
    · -- the bodies of all other tokens open no group but nameless ones
      obtain ⟨d, inside, rfl⟩ := List.exists_cons_of_ne_nil hne
      obtain ⟨rfl, rfl⟩ := List.cons.inj heq
      have hbody := groupsNameless_body fun body ht => hraw ⟨body, ht⟩
      obtain ⟨mark, hmark, more, rfl⟩ := mark_of_groupsNameless hbody hsuffix
      rw [List.append_eq, List.append_assoc, List.append_assoc] at hes
      exact absurd hnamed (unnamed_of_mark hmark _ spaced es name hes)

/-- **Outside of raw expressions, only captures have names.** -/
theorem captureAt_or_bodyAt (hsegs : ∀ s ∈ segs, s.IsSolid)
    (hplace : '(' :: ds <:+ assemble (bindFrom c segs).1)
    (hes : skipBlanks spaced .blanks ds = .ok es) (hnamed : Named es name) :
    BodyAt c segs ('(' :: ds) ∨
      ∃ n t, CaptureAt c segs n t ('(' :: ds) ∧ name = (captureName n).toList := by
  -- the parenthesis stands in the first segment or in the text of those behind it
  induction segs generalizing c with
  | nil => exact absurd (List.suffix_nil.mp hplace) (List.cons_ne_nil _ _)
  | cons s segs ih =>
    obtain ⟨hs, hsegs'⟩ := List.forall_mem_cons.mp hsegs
    rw [assemble_bindFrom_cons] at hplace
    rcases suffix_append_cases hplace with hback | ⟨xs, hne, hxs, heq⟩
    · rcases ih hsegs' hback with hbody | ⟨n, t, hcapture, hname⟩
      · exact .inl hbody.cons
      · exact .inr ⟨n, t, hcapture.cons, hname⟩
    · obtain ⟨d, xs, rfl⟩ := List.exists_cons_of_ne_nil hne
      obtain ⟨rfl, rfl⟩ := List.cons.inj heq
      have hunnamed : Unnamed (assemble (bindFrom (bindOne c s).2 segs).1) :=
        unnamed_assemble hsegs'
      cases s with
      | space =>
        -- only captures and quoted text have parentheses, and a quoted one is followed by what
        -- names nothing
        have hnone : '(' ∉ Grammar.blanks := by decide
        exact absurd (hxs.subset List.mem_cons_self) hnone
      | text quoted =>
        obtain ⟨cs, rfl, hcs⟩ := hs
        obtain ⟨cs', rfl, hcs'⟩ := paren_suffix_quote hxs
        have hquote := unnamed_quote (fun d hd => hcs d (hcs'.subset hd)) hunnamed
        exact absurd hnamed (hquote spaced es name hes)
      | token t =>
        change '(' :: xs <:+ (bindToken c t).1.written at hxs
        rcases bindToken_cases c t with ⟨hwritten, hnew⟩ | ⟨n, hwritten, -⟩
        · rw [hwritten] at hxs
          exact captureAt_or_bodyAt_head hwritten hnew hxs hes hnamed
        · rw [hwritten] at hxs
          exact absurd (hxs.subset List.mem_cons_self) (paren_not_mem_reference n)

/-! ## The captures -/

/-- What segments are bound by adds captures behind those that are there. -/
theorem categories_bindFrom (c : Captures) (segs : List Segment) :
    c.categories <+: (bindFrom c segs).2.categories := by
  induction segs generalizing c with
  | nil => exact List.prefix_rfl
  | cons s segs ih =>
    rw [bindFrom_cons]
    refine List.IsPrefix.trans ?_ (ih (bindOne c s).2)
    cases s with
    | space => exact List.prefix_rfl
    | text quoted => exact List.prefix_rfl
    | token t =>
      show c.categories <+: (bindToken c t).2.categories
      rcases bindToken_cases c t with ⟨-, hnew⟩ | ⟨n, -, hsame⟩
      · exact hnew ▸ List.prefix_append _ _
      · exact hsame ▸ List.prefix_rfl

namespace CaptureAt

/-- The category of a capture is that of its token. -/
theorem category_eq (h : CaptureAt c segs n t place) :
    (bindFrom c segs).2.categories[n]? = some t.category := by
  obtain ⟨front, back, rfl, rfl, hnew, -⟩ := h
  have hcategories : (bindToken (bindFrom c front).2 t).2.categories =
      (bindFrom c front).2.categories ++ [t.category] := by
    rcases bindToken_cases (bindFrom c front).2 t with ⟨-, hcategories⟩ | ⟨m, -, hsame⟩
    · exact hcategories
    · have hlength := congrArg List.length hsame
      unfold Captures.size at hnew
      omega
  obtain ⟨more, hmore⟩ := categories_bindFrom (bindToken (bindFrom c front).2 t).2 back
  rw [bindFrom_append, bindFrom_cons]
  show (bindFrom (bindToken (bindFrom c front).2 t).2 back).2.categories[
    (bindFrom c front).2.categories.length]? = _
  rw [← hmore, hcategories, List.append_assoc, List.getElem?_append_right (Nat.le_refl _),
    Nat.sub_self]
  rfl

/-- A later capture has a greater number. -/
theorem size_lt {front : List Segment}
    (hnew : (bindToken (bindFrom c front).2 t).2.size = (bindFrom c front).2.size + 1)
    (more : List Segment) :
    (bindFrom c front).2.size < (bindFrom c (front ++ .token t :: more)).2.size := by
  have hle := (categories_bindFrom (bindToken (bindFrom c front).2 t).2 more).length_le
  rw [bindFrom_append, bindFrom_cons]
  show (bindFrom c front).2.size <
    (bindFrom (bindToken (bindFrom c front).2 t).2 more).2.categories.length
  unfold Captures.size at hnew ⊢
  omega

/-- Each capture begins at one place. -/
theorem place_eq (h : CaptureAt c segs n t place) (h' : CaptureAt c segs n t' place') :
    place = place' := by
  obtain ⟨front, back, rfl, hn, hnew, rfl⟩ := h
  obtain ⟨front', back', hsegs, hn', hnew', rfl⟩ := h'
  rw [hn] at hnew hn'
  rw [hn, hn'] at hnew'
  rcases List.append_eq_append_iff.mp hsegs with ⟨more, rfl, hmore⟩ | ⟨more, rfl, hmore⟩
  · cases more with
    | nil => rw [List.append_nil, hmore, List.nil_append]
    | cons s more =>
      obtain ⟨rfl, -⟩ := List.cons.inj hmore
      have hlt := size_lt hnew more
      omega
  · cases more with
    | nil => rw [List.append_nil, hmore, List.nil_append]
    | cons s more =>
      obtain ⟨rfl, -⟩ := List.cons.inj hmore
      have hlt := size_lt hnew' more
      omega

end CaptureAt

/-! ## What is reported -/

/-- The group `g` of an expression is the capture of a token of the given category. -/
def IsCapture (segs : List Segment) (expr : List Char) (category : Category) (g : Nat) : Prop :=
  ∃ n t place, CaptureAt {} segs n t place ∧ NamesGroup expr (captureName n).toList g place ∧
    t.category = category

/-- The group `g` of an expression is named in a raw expression, and no later group has its name. -/
def IsInner (segs : List Segment) (expr : List Char) (g : Nat) : Prop :=
  ∃ name place, BodyAt {} segs place ∧ NamesGroup expr name g place ∧
    ∀ g' place', NamesGroup expr name g' place' → g' ≤ g

/-- The texts of a category are those that its groups have taken, in order. -/
theorem Matcher.get_classify (m : Matcher) (t : Text) (f : Regex.Match) (category : Category) :
    (m.classify t f).get category =
      ((m.groups.filter (·.2 = category)).map (·.1)).filterMap fun g =>
        (f.span? g).map fun (i, j) => t.slice i j := by
  rw [Matcher.classify, get_classify_eq, textsOf, List.filterMap_filterMap, List.filterMap_map,
    List.filterMap_filter]
  refine List.filterMap_congr fun p _ => ?_
  obtain ⟨g, category'⟩ := p
  dsimp only
  by_cases hcategory : category' = category
  · rw [if_pos (decide_eq_true hcategory), hcategory, Function.comp_apply]
    cases f.span? g with
    | none => rfl
    | some ij => exact if_pos rfl
  · rw [if_neg (by simpa using hcategory)]
    cases f.span? g with
    | none => rfl
    | some ij => exact if_neg hcategory

section Reported

variable (hextract : extract pattern = .ok pieces) (hm : Matcher.compile pattern limits = .ok m)
include hextract hm

/-- What is compiled is the assembled expression, and its groups have the categories of their names. -/
theorem groups_of_compile :
    Regex.Searcher.compile m.expr = .ok m.searcher ∧
      m.expr = assemble (bind (layout (normalize pieces))).1 ∧
      m.groups = (List.range (m.searcher.groups + 1)).filterMap fun g =>
        (m.searcher.nameOf? g).map fun name =>
          (g, (bind (layout (normalize pieces))).2.category name) := by
  rw [compile_eq hextract] at hm
  obtain ⟨searcher, hcompile, rfl⟩ := build_eq_ok_iff.mp hm
  obtain ⟨source, method, -, -, rfl⟩ := Regex.Searcher.compile_ok_iff.mp hcompile
  exact ⟨hcompile, rfl, rfl⟩

/-- A group is reported in the category of its name. -/
theorem mem_groups_iff_nameOf? {g : Nat} {category : Category} : (g, category) ∈ m.groups ↔
    ∃ name, m.searcher.nameOf? g = some name ∧
      (bind (layout (normalize pieces))).2.category name = category := by
  obtain ⟨hs, -, hgroups⟩ := groups_of_compile hextract hm
  rw [hgroups, List.mem_filterMap]
  constructor
  · rintro ⟨g', -, h⟩
    obtain ⟨name, hname, heq⟩ := Option.map_eq_some_iff.mp h
    cases heq
    exact ⟨name, hname, rfl⟩
  · rintro ⟨name, hname, rfl⟩
    obtain ⟨⟨place, hplace⟩, -⟩ := (Regex.Searcher.nameOf?_eq_some_iff hs).mp hname
    have hle := hplace.le_groups hs
    exact ⟨g, List.mem_range.mpr (by omega), by rw [hname]; rfl⟩

/-- The groups that are reported are numbered upwards. -/
theorem groups_pairwise : m.groups.Pairwise fun p q => p.1 < q.1 := by
  obtain ⟨-, -, hgroups⟩ := groups_of_compile hextract hm
  rw [hgroups, List.pairwise_filterMap]
  refine List.pairwise_lt_range.imp fun {g g'} hlt p hp q hq => ?_
  obtain ⟨name, -, rfl⟩ := Option.map_eq_some_iff.mp hp
  obtain ⟨name', -, rfl⟩ := Option.map_eq_some_iff.mp hq
  exact hlt

/-- A group that is named is so in a raw expression, or it is a capture. -/
theorem place_cases {g : Nat} (h : NamesGroup m.expr name g place) :
    BodyAt {} (layout (normalize pieces)) place ∨
      ∃ n t, CaptureAt {} (layout (normalize pieces)) n t place ∧
        name = (captureName n).toList := by
  obtain ⟨-, hexpr, -⟩ := groups_of_compile hextract hm
  obtain ⟨ds, es, spaced, rfl, hes, hnamed⟩ := h.spelled
  have hplace := h.place_suffix
  rw [hexpr] at hplace
  exact captureAt_or_bodyAt (layout_isSolid pieces) hplace hes hnamed

variable (hnames : ∀ name g place, NamesGroup m.expr name g place →
    BodyAt {} (layout (normalize pieces)) place →
      ∀ n < (bind (layout (normalize pieces))).2.size, name ≠ (captureName n).toList)
include hnames

/-- A capture bears its name: no other group is given it. -/
theorem nameOf?_capture {n g : Nat} {t : Token}
    (hcapture : CaptureAt {} (layout (normalize pieces)) n t place)
    (hplace : NamesGroup m.expr (captureName n).toList g place) :
    m.searcher.nameOf? g = some (captureName n) := by
  obtain ⟨hs, -, -⟩ := groups_of_compile hextract hm
  refine (Regex.Searcher.nameOf?_eq_some_iff hs).mpr ⟨⟨place, hplace⟩, fun g' place' h' => ?_⟩
  -- the name is given nowhere in a raw expression, and at one capture
  rcases place_cases hextract hm h' with hbody | ⟨n', t', hcapture', heq⟩
  · have hn : n < (bind (layout (normalize pieces))).2.size :=
      (List.getElem?_eq_some_iff.mp hcapture.category_eq).1
    exact absurd rfl (hnames _ _ _ h' hbody n hn)
  · obtain rfl := captureName_inj (String.toList_inj.mp heq)
    obtain rfl := hcapture.place_eq hcapture'
    exact Nat.le_of_eq (h'.group_eq hplace)

/-- **Which groups are reported in a category**: the captures of its tokens, and in the category `other`
those that are named in raw expressions. -/
theorem mem_groups_iff {g : Nat} {category : Category} : (g, category) ∈ m.groups ↔
    IsCapture (layout (normalize pieces)) m.expr category g ∨
      category = .other ∧ IsInner (layout (normalize pieces)) m.expr g := by
  obtain ⟨hs, -, -⟩ := groups_of_compile hextract hm
  rw [mem_groups_iff_nameOf? hextract hm]
  constructor
  · rintro ⟨name, hname, rfl⟩
    obtain ⟨⟨place, hplace⟩, hlatest⟩ := (Regex.Searcher.nameOf?_eq_some_iff hs).mp hname
    rcases place_cases hextract hm hplace with hbody | ⟨n, t, hcapture, heq⟩
    · right
      refine ⟨?_, name.toList, place, hbody, hplace, hlatest⟩
      by_contra hother
      obtain ⟨n, hn, rfl⟩ := exists_captureName_of_category hother
      exact hnames _ _ _ hplace hbody n hn rfl
    · left
      obtain rfl : name = captureName n := String.toList_inj.mp heq
      exact ⟨n, t, place, hcapture, hplace, (category_captureName _ hcapture.category_eq).symm⟩
  · rintro (⟨n, t, place, hcapture, hplace, rfl⟩ | ⟨rfl, name, place, hbody, hplace, hlatest⟩)
    · exact ⟨captureName n, nameOf?_capture hextract hm hnames hcapture hplace,
        category_captureName _ hcapture.category_eq⟩
    · refine ⟨String.ofList name, ?_, ?_⟩
      · rw [Regex.Searcher.nameOf?_eq_some_iff hs, String.toList_ofList]
        exact ⟨⟨place, hplace⟩, hlatest⟩
      · by_contra hother
        obtain ⟨n, hn, heq⟩ := exists_captureName_of_category hother
        refine hnames _ _ _ hplace hbody n hn ?_
        rw [heq, String.toList_ofList]

/-- **Groups are reported by where they are named.** A group that is named in a raw expression is no
capture, and what it has taken is reported in the category `other` only. In each match, the texts of a
category are those that the captures of its tokens have taken, in order, and none of these gives way
to another group. This holds if no group in a raw expression is given the name of a capture. -/
theorem findAll_by_place (text : String) {k : Nat} {f : Regex.Match} {result : MatchResult}
    (hf : (m.scan (.ofString text)).found[k]? = some f)
    (hresult : (m.findAll (.ofString text))[k]? = some result) (category : Category) :
    (∀ name g place, NamesGroup m.expr name g place → BodyAt {} (layout (normalize pieces)) place →
      ¬ IsCapture (layout (normalize pieces)) m.expr category g) ∧
    ∃ groups : List Nat, groups.Pairwise (· < ·) ∧
      (∀ g, g ∈ groups ↔ IsCapture (layout (normalize pieces)) m.expr category g ∨
        category = .other ∧ IsInner (layout (normalize pieces)) m.expr g) ∧
      result.get category = groups.filterMap fun g =>
        (f.span? g).map fun (i, j) => (Text.ofString text).slice i j := by
  have hclassify : m.classify (.ofString text) f = result := by
    rw [Matcher.findAll, List.getElem?_map, hf] at hresult
    exact Option.some.inj hresult
  refine ⟨fun name g place h hbody hcapture => ?_,
    (m.groups.filter (·.2 = category)).map (·.1), ?_, fun g => ?_, ?_⟩
  · obtain ⟨n, t, place', hplace', hnamed, -⟩ := hcapture
    obtain ⟨hs, -, -⟩ := groups_of_compile hextract hm
    have hn : n < (bind (layout (normalize pieces))).2.size :=
      (List.getElem?_eq_some_iff.mp hplace'.category_eq).1
    exact hnames _ _ _ h hbody n hn (h.name_eq hnamed hs)
  · exact List.pairwise_map.mpr ((groups_pairwise hextract hm).filter _)
  · rw [← mem_groups_iff hextract hm hnames, List.mem_map]
    constructor
    · rintro ⟨⟨g', category'⟩, hmem, rfl⟩
      obtain ⟨hmem, hcategory⟩ := List.mem_filter.mp hmem
      rw [decide_eq_true_eq] at hcategory
      rw [← hcategory]
      exact hmem
    · intro hmem
      exact ⟨(g, category), List.mem_filter.mpr ⟨hmem, decide_eq_true rfl⟩, rfl⟩
  · rw [← hclassify, Matcher.get_classify]

end Reported

/-- The pieces of `$a REGEX((?<n>x))`. -/
def innerPieces : List Piece :=
  [.token (.variable (.named ['a'])), .text [' '], .token (.raw "(?<n>x)".toList)]

theorem read_inner : extract "$a REGEX((?<n>x))".toList = .ok innerPieces ∧
    layout (normalize innerPieces)
      = [.token (.variable (.named ['a'])), .space, .token (.raw "(?<n>x)".toList)] :=
  ⟨by cbv, by cbv⟩

/-- The items of `$a REGEX((?<n>x))`. -/
def innerItems : List Expr :=
  [.group 1 (Expr.cats Grammar.variableItems), Grammar.blanksItem,
    .group 2 (.group 3 (.chars (.single 'x')))]

theorem parse_inner : (Regex.parse (assemble (bind (layout (normalize innerPieces))).1)).map
    (fun s => (s.expr, s.groups, s.names))
      = .ok (Expr.cats innerItems, 3, [("n", 3), ("__cg1", 2), ("__cg0", 1)]) := by decide +kernel

set_option maxRecDepth 10000 in
theorem run_inner : (Matcher.compile "$a REGEX((?<n>x))".toList {}).map
    (fun m => ((m.scan (.ofString "b x")).found.length, m.findAll (.ofString "b x")))
      = .ok (1, [{ names := ["b"], others := ["x", "x"] }]) := by
  refine compile_run_of_parse read_inner.1 parse_inner fun written => ?_
  cbv

/-- The group in the raw expression has its own name. -/
theorem named_inner {expr : List Char} {g : Nat} (h : NamesGroup expr name g place)
    (hbody : BodyAt {} (layout (normalize innerPieces)) place) : name = ['n'] := by
  obtain ⟨ds, es, spaced, rfl, hes, hnamed⟩ := h.spelled
  obtain ⟨front, body, back, inside, hsegs, hne, hinside, hplace⟩ := hbody
  obtain rfl : body = ['(', '?', '<', 'n', '>', 'x', ')'] := by
    have hmem : Segment.token (.raw body) ∈ layout (normalize innerPieces) :=
      hsegs ▸ List.mem_append_right front List.mem_cons_self
    rw [read_inner.2] at hmem
    simpa using hmem
  obtain ⟨d, inside, rfl⟩ := List.exists_cons_of_ne_nil hne
  obtain ⟨rfl, rfl⟩ := List.cons.inj hplace
  rcases List.suffix_cons_iff.mp hinside with heq | hinside
  · obtain ⟨-, rfl⟩ := List.cons.inj heq
    rw [List.append_eq, List.cons_append, skipBlanks_cons (by decide) (by decide) (by decide)] at hes
    cases hes
    have hname : Regex.Reader.IsName ['n'] := ⟨List.cons_ne_nil _ _, by simp⟩
    obtain ⟨named, rest, ⟨heq, -⟩ | heq, hread⟩ := hnamed
    · obtain ⟨-, heq⟩ := List.cons.inj heq
      obtain ⟨-, rfl⟩ := List.cons.inj heq
      cases hread.symm.trans (Regex.Reader.readName_append hname _)
      rfl
    · cases heq
  · exact absurd (hinside.subset List.mem_cons_self) (by decide)

theorem findAll_by_place_inner :
    ∃ m f result, extract "$a REGEX((?<n>x))".toList = .ok innerPieces ∧
      Matcher.compile "$a REGEX((?<n>x))".toList {} = .ok m ∧
      (m.scan (.ofString "b x")).found[0]? = some f ∧
      (m.findAll (.ofString "b x"))[0]? = some result ∧
      result = { names := ["b"], others := ["x", "x"] } ∧
      (∀ name g place, NamesGroup m.expr name g place →
        BodyAt {} (layout (normalize innerPieces)) place →
          ¬ IsCapture (layout (normalize innerPieces)) m.expr .variable g) ∧
      ∃ groups : List Nat, groups.Pairwise (· < ·) ∧
        (∀ g, g ∈ groups ↔ IsCapture (layout (normalize innerPieces)) m.expr .variable g ∨
          Category.variable = .other ∧ IsInner (layout (normalize innerPieces)) m.expr g) ∧
        result.get .variable = groups.filterMap fun g =>
          (f.span? g).map fun (i, j) => (Text.ofString "b x").slice i j := by
  obtain ⟨m, hm, hrun⟩ := map_eq_ok_iff.mp run_inner
  obtain ⟨hlength, hresults⟩ := Prod.mk.inj hrun
  have hlt : 0 < (m.scan (.ofString "b x")).found.length := by
    rw [hlength]
    exact Nat.one_pos
  have hresult : (m.findAll (.ofString "b x"))[0]?
      = some { names := ["b"], others := ["x", "x"] } := by
    rw [hresults]
    rfl
  have hnames : ∀ name g place, NamesGroup m.expr name g place →
      BodyAt {} (layout (normalize innerPieces)) place →
        ∀ n < (bind (layout (normalize innerPieces))).2.size, name ≠ (captureName n).toList := by
    intro name g place h hbody n _
    rw [named_inner h hbody, captureName_toList]
    exact nofun
  refine ⟨m, _, _, read_inner.1, hm, List.getElem?_eq_getElem hlt, hresult, rfl, ?_⟩
  exact findAll_by_place read_inner.1 hm hnames "b x" (List.getElem?_eq_getElem hlt) hresult .variable

end CodeShape.Pattern
