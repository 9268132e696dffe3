import Mathlib
import CodeShape.Proofs.Pattern.Extraction
import CodeShape.Proofs.Pattern.Soundness
import CodeShape.Proofs.Pattern.Surroundings
import CodeShape.Proofs.Regex.Openings

/-!
# Raw expressions speak for themselves

The matches of a pattern with raw expressions are splits around these, if the raw expressions speak
for themselves (`SelfContained`): they can be read alone, leave no flags in force behind them and
name no group as captures are named. Then what stands around them obeys the rules of a pattern
without raw expressions, and what the placeholders stand for is reported as there
(`findAll_around`).
-/

namespace CodeShape.Pattern

open Regex (Expr Link Occurs Reader Slots Source Subject Walk Way)

variable {pattern : List Char} {pieces : List Piece} {limits : Limits} {m : Matcher}
  {segs : List Segment} {c : Captures} {total : Nat}

/-! ## The links of a pattern -/

theorem segments_plain_or_raw (p : Piece) : ∀ s ∈ p.segments, s.IsPlain ∨ s.IsRaw := by
  by_cases hp : ∀ body, p ≠ .token (.raw body)
  · exact fun s hs => .inl (segments_isPlain hp s hs)
  · simp only [not_forall, not_not] at hp
    obtain ⟨body, rfl⟩ := hp
    exact List.forall_mem_cons.mpr ⟨.inl trivial, List.forall_mem_cons.mpr
      ⟨.inr ⟨body, rfl⟩, List.forall_mem_singleton.mpr (.inl trivial)⟩⟩

/-- Each segment is plain or raw. -/
theorem layout_plain_or_raw (pieces : List Piece) :
    ∀ s ∈ layout (normalize pieces), s.IsPlain ∨ s.IsRaw := by
  intro s hs
  obtain ⟨p, -, hs⟩ := List.mem_flatMap.mp (mem_of_mem_layout hs)
  exact segments_plain_or_raw p s hs

/-- A raw expression is part of the assembled text. -/
theorem byteLength_le_assemble {body : List Char} (h : .token (.raw body) ∈ segs) :
    Regex.byteLength body ≤ Regex.byteLength (assemble (bindFrom c segs).1) := by
  induction segs generalizing c with
  | nil => exact absurd h List.not_mem_nil
  | cons s segs ih =>
    have htext : assemble (bindFrom c (s :: segs)).1
        = (bindOne c s).1.written ++ assemble (bindFrom (bindOne c s).2 segs).1 := by
      rw [bindFrom_cons]
      rfl
    rw [htext, byteLength_append]
    rcases List.mem_cons.mp h with rfl | h
    · have hwritten : (bindOne c (.token (.raw body))).1.written
          = ("(?P<".toList ++ (captureName c.size).toList ++ ['>']) ++ (body ++ [')']) := by
        show capture c.size body = _
        unfold capture
        simp only [List.append_assoc, List.cons_append, List.nil_append]
      rw [hwritten]
      simp only [byteLength_append]
      omega
    · exact Nat.le_trans (ih h) (Nat.le_add_left _ _)

/-- **What the assembled text of segments is read as**, if it can be read: the links that the segments
stand for, the captures having groups of their names. -/
theorem links_of_parse (hsegs : ∀ s ∈ segs, s.IsPlain ∨ s.IsRaw)
    (hself : SelfContained (bind segs).2.size segs) {source : Source}
    (hsource : Regex.parse (assemble (bind segs).1) = .ok source) :
    ∃ groups links z, Stands (bind segs).2.size (bind segs).2 groups z ∧ Reader.Proper z ∧
      Linked (groupOf groups) (bind segs).2.size {} segs links ∧
      source = ⟨Expr.cats (links.map Link.expr), z.groups,
        z.names.map fun (name, i) => (String.ofList name, i)⟩ := by
  have hempty : ({} : Captures).Consistent := nofun
  have hfront : Stands (bind segs).2.size {} [] {} :=
    ⟨rfl, rfl, nofun, nofun, List.Pairwise.nil, nofun⟩
  obtain ⟨z, hrun, hfinish, -⟩ := Regex.run_of_parse hsource
  obtain ⟨-, -, rfl⟩ := Reader.finish_ok_iff.mp hfinish
  obtain ⟨groups, links, -, hstands, hlinked, hlevel⟩ :=
    links_of_run hsegs hself hempty rfl hfront (fun _ => rfl) rfl
      (fun body hbody => byteLength_le_assemble hbody) hrun (Nat.lt_succ_self _)
  have hexpr : z.settle.level.expr = Expr.cats (links.map Link.expr) := by
    have hitems : z.settle.level = { items := (links.map Link.expr).reverse } := by
      rw [hlevel]
      show ({ items := (links.map Link.expr).reverse ++ [] } : Regex.Level) = _
      rw [List.append_nil]
    rw [hitems, Reader.expr_of_branches, List.reverse_reverse]
    rfl
  refine ⟨groups, links, z, hstands, Reader.run_proper Reader.proper_empty hrun, hlinked, ?_⟩
  rw [hexpr, Reader.settle_groups, Reader.settle_names]

/-! ## What is reported -/

/-- Numbers that are smaller than `n` and come in order are among all such numbers. -/
theorem filter_range_eq {groups : List Nat} (hordered : groups.Pairwise (· < ·)) {n : Nat}
    (hle : ∀ g ∈ groups, g < n) : (List.range n).filter (· ∈ groups) = groups := by
  refine (List.pairwise_lt_range.filter _).eq_of_mem_iff hordered fun g => ?_
  simp only [List.mem_filter, List.mem_range, decide_eq_true_eq]
  exact ⟨And.right, fun hg => ⟨hle g hg, hg⟩⟩

/-- Names that are not those of captures have the category `other`. -/
theorem exists_captureName_of_category {name : String} (h : c.category name ≠ .other) :
    ∃ n < c.size, captureName n = name := by
  unfold Captures.category at h
  dsimp only at h
  cases hlookup : (((List.range c.size).map captureName).zip c.categories).lookup name with
  | none =>
    rw [hlookup] at h
    exact absurd rfl h
  | some category =>
    have hmem := (List.of_mem_zip (Regex.mem_of_lookup hlookup)).1
    obtain ⟨n, hn, rfl⟩ := List.mem_map.mp hmem
    exact ⟨n, List.mem_range.mp hn, rfl⟩

theorem lookup_map_ofList (names : List (List Char × Nat)) (name : String) :
    (names.map fun (name, i) => (String.ofList name, i)).lookup name
      = names.lookup name.toList := by
  induction names with
  | nil => rfl
  | cons p names ih =>
    rw [List.map_cons, List.lookup_cons, List.lookup_cons, ih]
    by_cases h : name.toList = p.1
    · rw [beq_iff_eq.mpr h, ← h, String.ofList_toList, beq_self_eq_true]
    · have hne : name ≠ String.ofList p.1 := by
        rintro rfl
        exact h (String.toList_ofList)
      rw [beq_eq_false_iff_ne.mpr h, beq_eq_false_iff_ne.mpr hne]

section Names

variable {groups : List Nat} {z : Reader} {s : Regex.Searcher}
  (hnames : s.names = z.names.map fun (name, i) => (String.ofList name, i))
include hnames

/-- The name of a capture's group is that of the capture. -/
theorem nameOf?_groupOf (h : Stands total c groups z) (hproper : z.Proper) {n : Nat}
    (hn : n < c.size) : s.nameOf? (groupOf groups n) = some (captureName n) := by
  have hn' : n < groups.length := h.size.symm ▸ hn
  have hgroup : groups[n]? = some (groupOf groups n) := by
    rw [groupOf, List.getD_eq_getElem?_getD, List.getElem?_eq_getElem hn']
    rfl
  have hlookup : s.names.lookup (captureName n) = some (groupOf groups n) := by
    rw [hnames, lookup_map_ofList]
    exact h.named n _ hgroup
  have hnodup : (s.names.map (·.2)).Nodup := by
    rw [hnames, List.map_map]
    exact hproper.ordered.imp fun hgt => Nat.ne_of_gt hgt
  exact Regex.Searcher.nameOf?_of_lookup hnodup hlookup

/-- A group whose name has the category of a placeholder is the group of a capture. -/
theorem mem_groups_of_nameOf? (h : Stands c.size c groups z) {g : Nat} {name : String}
    (hname : s.nameOf? g = some name) (hcategory : c.category name ≠ .other) : g ∈ groups := by
  obtain ⟨n, hn, rfl⟩ := exists_captureName_of_category hcategory
  obtain ⟨⟨name, i⟩, he, heq⟩ := Option.map_eq_some_iff.mp hname
  have hfound := List.find?_some he
  have hmem := List.mem_of_find?_eq_some he
  simp only [Bool.and_eq_true, beq_iff_eq] at hfound
  obtain rfl := hfound.1
  rw [hnames] at hmem
  obtain ⟨⟨chars, i⟩, hp, hpair⟩ := List.mem_map.mp hmem
  cases hpair
  have hchars : chars = (captureName n).toList := by
    rw [← heq]
    exact String.toList_ofList.symm
  exact List.mem_of_getElem? (h.only _ hp n hn hchars)

end Names

/-- What is reported for a group: the category of its name and what it has taken. -/
def reported (s : Regex.Searcher) (c : Captures) (text : Text) (f : Regex.Match) (g : Nat) :
    Option (Category × String) :=
  (s.nameOf? g).bind fun name =>
    (f.span? g).map fun (i, j) => (c.category name, text.slice i j)

/-- What a matcher reports about a match, group by group. -/
theorem classify_of_build {source expr : List Char}
    (hm : Matcher.build source expr c limits = .ok m) (text : Text) (f : Regex.Match) :
    m.classify text f = MatchResult.classify
      ((List.range (m.searcher.groups + 1)).filterMap (reported m.searcher c text f)) := by
  obtain ⟨searcher, -, rfl⟩ := build_eq_ok_iff.mp hm
  unfold Matcher.classify
  dsimp only
  rw [List.filterMap_filterMap]
  refine congrArg MatchResult.classify (List.filterMap_congr fun g _ => ?_)
  rw [Option.bind_map]
  rfl

/-- What is reported for a capture. -/
def Taken.entry (r : Option (Category × Identity) × List Char) : Category × String :=
  (Taken.category r, String.ofList r.2)

section Reported

variable {groups : List Nat} {z : Reader} {s : Regex.Searcher} {taken : Taken} {slots : Slots}
  {text : Text} {f : Regex.Match}
  (hnames : s.names = z.names.map fun (name, i) => (String.ofList name, i))
  (h : Stands total c groups z) (hproper : z.Proper)
  (hholds : Holds (groupOf groups) text.chars c taken slots)
  (hslots : f.slots = Regex.Automaton.complete slots f.stop)
include hnames h hproper hholds hslots

/-- For the group of a capture, it is what the capture has taken that is reported. -/
theorem reported_groupOf {n : Nat} {r : Option (Category × Identity) × List Char}
    (hn : taken[n]? = some r) :
    reported s c text f (groupOf groups n) = some (Taken.entry r) := by
  have hlt : n < c.size := hholds.size_eq ▸ (List.getElem?_eq_some_iff.mp hn).1
  have hne : groupOf groups n ≠ 0 := h.numbers.ne_zero n hlt
  obtain ⟨i, j, hspan, hocc⟩ := hholds.slots n r hn
  have hcategory : c.categories[n]? = some (Taken.category r) := by
    rw [hholds.categories, List.getElem?_map, hn]
    rfl
  have hreported : f.span? (groupOf groups n) = some (i, j) := by
    rw [Regex.Match.span?, if_neg hne, hslots, Regex.Automaton.span?_complete _ _ hne, hspan]
  unfold reported
  rw [nameOf?_groupOf hnames h hproper hlt, Option.bind_some, hreported, Option.map_some,
    category_captureName c hcategory]
  show some (_, String.ofList (text.chars.extract i j).toList) = _
  rw [hocc.eq]
  rfl

/-- The groups of the captures report in order what these have taken. -/
theorem filterMap_reported :
    groups.filterMap (reported s c text f) = taken.map Taken.entry := by
  have hlength : groups.length = taken.length := h.size.trans hholds.size_eq
  have hmap : groups.map (reported s c text f) = taken.map (some ∘ Taken.entry) := by
    refine List.ext_getElem (by rw [List.length_map, List.length_map, hlength]) fun n hn hn' => ?_
    rw [List.length_map] at hn hn'
    have hgroup : groups[n] = groupOf groups n := by
      rw [groupOf, List.getD_eq_getElem?_getD, List.getElem?_eq_getElem hn]
      rfl
    rw [List.getElem_map, List.getElem_map, hgroup,
      reported_groupOf hnames h hproper hholds hslots (List.getElem?_eq_getElem hn')]
    rfl
  calc groups.filterMap (reported s c text f)
      = (groups.map (reported s c text f)).filterMap id := by
        rw [List.filterMap_map, Function.id_comp]
    _ = (taken.map (some ∘ Taken.entry)).filterMap id := by rw [hmap]
    _ = taken.filterMap (some ∘ Taken.entry) := List.filterMap_map
    _ = taken.map Taken.entry := by rw [List.filterMap_eq_map]

variable (hgroups : s.groups = z.groups)
include hgroups

/-- What the captures have taken is reported in order, besides what other groups report. -/
theorem sublist_reported :
    (taken.map Taken.entry).Sublist
      ((List.range (s.groups + 1)).filterMap (reported s c text f)) := by
  rw [← filterMap_reported hnames h hproper hholds hslots, hgroups]
  have hamong := filter_range_eq h.ordered (n := z.groups + 1)
    fun g hg => Nat.lt_succ_of_le (h.bounds g hg).2
  refine List.Sublist.filterMap _ ?_
  rw [← hamong]
  exact List.filter_sublist

end Reported

/-- Other groups than those of the captures are in the category `other`. -/
theorem reported_other {groups : List Nat} {z : Reader} {s : Regex.Searcher} {text : Text}
    {f : Regex.Match} (hnames : s.names = z.names.map fun (name, i) => (String.ofList name, i))
    (h : Stands c.size c groups z) {g : Nat} (hg : g ∉ groups) {p : Category × String}
    (hp : reported s c text f g = some p) : p.1 = .other := by
  obtain ⟨name, hname, hp⟩ := Option.bind_eq_some_iff.mp hp
  obtain ⟨⟨i, j⟩, -, rfl⟩ := Option.map_eq_some_iff.mp hp
  by_contra hcategory
  exact hg (mem_groups_of_nameOf? hnames h hname hcategory)

/-- The texts of one category. -/
def textsOf (category : Category) (texts : List (Category × String)) : List String :=
  texts.filterMap fun (d, text) => if d = category then some text else none

theorem get_classify_eq (texts : List (Category × String)) (category : Category) :
    (MatchResult.classify texts).get category = textsOf category texts := by
  rw [MatchResult.classify, MatchResult.get_ofLists]
  rfl

/-- In the categories of placeholders, what the captures have taken is all that is reported. -/
theorem textsOf_reported {groups : List Nat} {z : Reader} {s : Regex.Searcher} {taken : Taken}
    {slots : Slots} {text : Text} {f : Regex.Match}
    (hnames : s.names = z.names.map fun (name, i) => (String.ofList name, i))
    (hgroups : s.groups = z.groups) (h : Stands c.size c groups z) (hproper : z.Proper)
    (hholds : Holds (groupOf groups) text.chars c taken slots)
    (hslots : f.slots = Regex.Automaton.complete slots f.stop) {category : Category}
    (hcategory : category ≠ .other) :
    textsOf category ((List.range (s.groups + 1)).filterMap (reported s c text f))
      = textsOf category (taken.map Taken.entry) := by
  have hamong := filter_range_eq h.ordered (n := s.groups + 1)
    fun g hg => hgroups ▸ Nat.lt_succ_of_le (h.bounds g hg).2
  rw [← filterMap_reported hnames h hproper hholds hslots, ← hamong]
  unfold textsOf
  rw [List.filterMap_filterMap, List.filterMap_filterMap, List.filterMap_filter]
  refine List.filterMap_congr fun g _ => ?_
  by_cases hg : g ∈ groups
  · rw [if_pos (decide_eq_true hg)]
  · rw [if_neg (by simpa using hg)]
    cases hp : reported s c text f g with
    | none => rfl
    | some p =>
      have hother := reported_other hnames h hg hp
      rw [Option.bind_some]
      exact if_neg fun heq => hcategory (heq.symm.trans hother)

/-- In the categories of placeholders, this is what these are bound to. -/
theorem textsOf_entries (taken : Taken) {category : Category} (hcategory : category ≠ .other) :
    textsOf category (taken.map Taken.entry)
      = (taken.bindings.filter fun use => use.1.1 = category).map
          fun use => String.ofList use.2 := by
  unfold textsOf Taken.bindings
  rw [List.filterMap_map, List.filter_filterMap, List.map_filterMap]
  refine List.filterMap_congr fun r _ => ?_
  obtain ⟨key?, cs⟩ := r
  cases key? with
  | none => exact if_neg hcategory.symm
  | some key =>
    by_cases hkey : key.1 = category
    · exact (if_pos hkey).trans (by simp [hkey])
    · exact (if_neg hkey).trans (by simp [hkey])

/-- The texts of raw expressions are in the category `other`. -/
theorem raws_sublist (taken : Taken) :
    (taken.raws.map String.ofList).Sublist (textsOf .other (taken.map Taken.entry)) := by
  induction taken with
  | nil => exact List.Sublist.slnil
  | cons r taken ih =>
    obtain ⟨key?, cs⟩ := r
    have hentry : textsOf .other (((key?, cs) :: taken).map Taken.entry)
        = textsOf .other [Taken.entry (key?, cs)] ++ textsOf .other (taken.map Taken.entry) :=
      List.filterMap_append (l := [Taken.entry (key?, cs)])
    rw [hentry]
    cases key? with
    | none => exact ih.cons_cons _
    | some key => exact ih.trans (List.sublist_append_right _ _)

/-! ## Matches -/

/-- No raw expression among the segments lets a match begin elsewhere. -/
def Still (segs : List Segment) : Prop :=
  ∀ body source, .token (.raw body) ∈ segs → Regex.parse body = .ok source →
    source.expr.movesStart = false

/-- Then no link moves the start of a match. -/
theorem Linked.zero_marks {num : Nat → Nat} {links : List Link} (hnum : Numbers num total)
    (h : Linked num total c segs links) (hsize : (bindFrom c segs).2.size ≤ total)
    (hsegs : ∀ s ∈ segs, s.IsPlain ∨ s.IsRaw) (hstill : Still segs) :
    ∀ l ∈ links, 0 ∉ l.marks := by
  have hsuits := Linked.suits hnum h hsize hsegs
  induction h with
  | nil c => exact nofun
  | @plain c s segs links hs _ ih =>
    obtain ⟨-, hsegs⟩ := List.forall_mem_cons.mp hsegs
    obtain ⟨hexact, hsuits⟩ := List.forall_mem_append.mp hsuits
    rw [bindFrom_cons] at hsize
    refine List.forall_mem_append.mpr ⟨List.forall_mem_map.mpr fun e he hzero => ?_,
      ih hsize hsegs (fun body source hbody => hstill body source (List.mem_cons_of_mem s hbody))
        hsuits⟩
    obtain ⟨-, horder, -, hgroups⟩ := hexact _ (List.mem_map_of_mem he)
    exact hgroups (Expr.mem_groups_of_marks horder hzero)
  | @raw c body segs links e source k hsource hshifted _ _ ih =>
    obtain ⟨-, hsegs⟩ := List.forall_mem_cons.mp hsegs
    obtain ⟨hloose, hsuits⟩ := List.forall_mem_cons.mp hsuits
    refine List.forall_mem_cons.mpr ⟨fun hzero => ?_, ih hsize hsegs
      (fun body source hbody => hstill body source (List.mem_cons_of_mem _ hbody)) hsuits⟩
    rcases List.mem_cons.mp hzero with heq | hzero
    · exact hloose.2.2 heq.symm
    · rcases Expr.marks_of_shifted (Regex.proper_of_parse hsource) hshifted hzero with
        ⟨-, hmoves⟩ | ⟨hlt, -⟩
      · rw [hstill body source List.mem_cons_self hsource] at hmoves
        cases hmoves
      · exact absurd hlt (Nat.not_lt_zero k)

/-- The expression of what is built can be read, and it is what is searched for. -/
theorem source_of_build {source expr : List Char}
    (hm : Matcher.build source expr c limits = .ok m) :
    ∃ read, Regex.parse expr = .ok read ∧ Regex.Method.ofExpr read.expr = .ok m.searcher.method ∧
      m.searcher.groups = read.groups ∧ m.searcher.names = read.names := by
  obtain ⟨searcher, hcompile, rfl⟩ := build_eq_ok_iff.mp hm
  obtain ⟨read, method, hread, hmethod, rfl⟩ := Regex.Searcher.compile_ok_iff.mp hcompile
  exact ⟨read, hread, hmethod, rfl, rfl⟩

/-- A match whose walk does not move its start begins where the walk does. -/
theorem start_of_walk {t : Subject} {links : List Link} {i : Nat} {slots : Slots}
    {f : Regex.Match} (hzero : ∀ l ∈ links, 0 ∉ l.marks)
    (hwalk : Walk t links (i, [(0, some i)]) (f.stop, slots))
    (hslots : f.slots = Regex.Automaton.complete slots f.stop)
    (hmatch : Regex.Match.ofSlots? f.slots = some f) : f.start = i := by
  have hkept : slots.get? 0 = some i := by
    refine (hwalk.roams.keeps 0 fun hmem => ?_).trans rfl
    obtain ⟨l, hl, hmem⟩ := List.mem_flatMap.mp hmem
    exact hzero l hl hmem
  have hspan : f.slots.span? 0 = some (i, f.stop) := by
    rw [hslots]
    unfold Slots.span? Regex.Automaton.complete
    rw [Regex.Slots.get?_cons, Regex.Slots.get?_cons, if_neg (by decide), if_pos rfl, hkept]
  rw [Regex.Match.ofSlots?, hspan, Option.map_some] at hmatch
  have hstart : min i f.stop = f.start := congrArg Regex.Match.start (Option.some.inj hmatch)
  rw [← hstart, Nat.min_eq_left hwalk.roams.le]

/-- **Every match of a scan is a split around the raw expressions**, and what has been captured is
reported. -/
theorem around_of_found (hextract : extract pattern = .ok pieces)
    (hself : SelfContained (bind (layout (normalize pieces))).2.size (layout (normalize pieces)))
    (hm : Matcher.compile pattern limits = .ok m) (text : Text) {f : Regex.Match}
    (hf : f ∈ (m.scan text).found) :
    ∃ i ps, ∃ taken : Taken, ps.map (·.segment) = layout (normalize pieces) ∧
      SplitsAround text.chars [] i ps f.stop taken.bindings ∧
      taken.raws = rawTexts text.chars ps ∧
      f.start ≤ f.stop ∧ (Still (layout (normalize pieces)) → f.start = i) ∧
      (∀ category ≠ .other, (m.classify text f).get category
        = textsOf category (taken.map Taken.entry)) ∧
      (textsOf .other (taken.map Taken.entry)).Sublist ((m.classify text f).get .other) := by
  have hsegs := layout_plain_or_raw pieces
  rw [compile_eq hextract] at hm
  have hclassify := classify_of_build hm text f
  obtain ⟨source, hsource, hmethod, hgroups, hnames⟩ := source_of_build hm
  -- the expression is read as links, and a walk over these is found
  obtain ⟨groups, links, z, hstands, hproper, hlinked, rfl⟩ := links_of_parse hsegs hself hsource
  have hnum := hstands.numbers
  have hsize := Nat.le_refl (bind (layout (normalize pieces))).2.size
  obtain ⟨start, origin, hstart, hsearch⟩ := search_of_mem_scan m text hf
  obtain ⟨i, slots, -, hi, hwalk, hslots, hmatch⟩ := Regex.Searcher.search_walk
    (Linked.suits hnum hlinked hsize hsegs) (Linked.apart hnum hlinked hsize hsegs) hmethod hstart
    hsearch
  obtain ⟨ps, taken, hps, hsplits, hholds, hraws⟩ :=
    splitsAround_of_walk hnum hlinked hsize hsegs (Holds.empty _ _ _) hi hwalk
  refine ⟨i, ps, taken, hps, hsplits, hraws, (Regex.Match.of_ofSlots? hmatch).1, fun hstill => ?_,
    fun category hcategory => ?_, ?_⟩
  · exact start_of_walk (Linked.zero_marks hnum hlinked hsize hsegs hstill) hwalk hslots hmatch
  · rw [hclassify, get_classify_eq]
    exact textsOf_reported hnames hgroups hstands hproper hholds hslots hcategory
  · rw [hclassify, get_classify_eq]
    exact (sublist_reported hnames hstands hproper hholds hslots hgroups).filterMap _

/-- A span and a result report the split of a text, up to character `j`, into the parts of a pattern
around its raw expressions. The split begins at character `i`, and so does the span, unless a raw
expression lets the match begin elsewhere. So plain text stands for its own characters, blanks stand
for blanks, and each use of a placeholder stands for the same characters as its first use. The result
lists by category what the placeholders stand for where they are first used, each placeholder once;
what the raw expressions have taken is listed in the category `other`, besides what groups inside of
them have taken. -/
structure ReportsAround (pieces : List Piece) (text : String) (span : Span) (result : MatchResult)
    (i j : Nat) (ps : List Part) : Prop where
  segments : ps.map (·.segment) = layout (normalize pieces)
  splits : SplitsAround text.toList.toArray [] i ps j (firstUses text.toList.toArray ps)
  covers : ∃ start, span.Covers text start j ∧ (Still (layout (normalize pieces)) → start = i)
  texts : ∀ p ∈ ps, ∀ quoted, p.segment = .text quoted →
    Occurs text.toList.toArray (unquote quoted) p.start p.stop
  blanks : ∀ p ∈ ps, p.segment = .space → ∃ cs, Occurs text.toList.toArray cs p.start p.stop ∧
    ∀ ch ∈ cs, Unicode.isBlank ch = true
  uses : ∀ p ∈ ps, ∀ key, p.segment.key? = some key →
    ∃ cs, (firstUses text.toList.toArray ps).lookup key = some cs ∧
      Occurs text.toList.toArray cs p.start p.stop
  distinct : ((firstUses text.toList.toArray ps).map (·.1)).Nodup
  lists : ∀ category ≠ .other, result.get category
    = ((firstUses text.toList.toArray ps).filter fun use => use.1.1 = category).map
        fun use => String.ofList use.2
  others : ((rawTexts text.toList.toArray ps).map String.ofList).Sublist (result.get .other)

/-- **A raw expression only speaks for itself**: what stands around the raw expressions in a match
obeys the rules of a pattern without them. -/
theorem findAll_around (hextract : extract pattern = .ok pieces)
    (hself : SelfContained (bind (layout (normalize pieces))).2.size (layout (normalize pieces)))
    (hm : Matcher.compile pattern limits = .ok m) (text : String) {k : Nat} {span : Span}
    {result : MatchResult} (hspan : (m.spans (.ofString text))[k]? = some span)
    (hresult : (m.findAll (.ofString text))[k]? = some result) :
    ∃ i j ps, ReportsAround pieces text span result i j ps := by
  obtain ⟨f, hf, rfl, hclassified⟩ := found_of_reported hspan hresult
  obtain ⟨i, ps, taken, hps, hsplits, hraws, hle, hstart, hlists, hothers⟩ :=
    around_of_found hextract hself hm (.ofString text) (List.mem_of_getElem? hf)
  rw [hclassified] at hlists hothers
  have hcovers := covers_spanOf text hle hsplits.le.2
  have huses := hsplits.eq_firstUses
  have hdistinct := hsplits.nodup List.nodup_nil
  rw [huses] at hsplits hdistinct
  refine ⟨i, f.stop, ps, hps, hsplits, ⟨f.start, hcovers, hstart⟩,
    fun p hp quoted hseg => hsplits.text_of_mem hp hseg,
    fun p hp hseg => hsplits.blanks_of_mem hp hseg,
    fun p hp key hkey => hsplits.use_of_mem hp hkey, hdistinct, fun category hcategory => ?_, ?_⟩
  · rw [hlists category hcategory, textsOf_entries taken hcategory, huses]
    rfl
  · have hsublist := raws_sublist taken
    rw [hraws] at hsublist
    exact hsublist.trans hothers

/-! ## Runs -/

/-- What is built around a searcher. -/
def matcherFor (pattern : List Char) (searcher : Regex.Searcher) (captures : Captures)
    (limits : Limits) : Matcher :=
  ⟨pattern, searcher, (List.range (searcher.groups + 1)).filterMap fun g =>
    (searcher.nameOf? g).map fun name => (g, captures.category name), limits⟩

/-- A run of a pattern with raw expressions needs no more of the expression than what it is read
as. -/
theorem compile_run_of_parse {e : Expr} {groups : Nat} {names : List (String × Nat)}
    (hextract : extract pattern = .ok pieces)
    (hparse : (Regex.parse (assemble (bind (layout (normalize pieces))).1)).map
      (fun s => (s.expr, s.groups, s.names)) = .ok (e, groups, names)) {α : Type}
    {run : Matcher → α} {result : α}
    (hrun : ∀ written, (Regex.Method.ofExpr e).map (fun method =>
      run (matcherFor pattern ⟨written, groups, names, method⟩
        (bind (layout (normalize pieces))).2 limits)) = .ok result) :
    (Matcher.compile pattern limits).map run = .ok result := by
  obtain ⟨source, hsource, hread⟩ := map_eq_ok_iff.mp hparse
  obtain ⟨rfl, rfl, rfl⟩ : source.expr = e ∧ source.groups = groups ∧ source.names = names := by
    simpa only [Prod.mk.injEq] using hread
  let written := assemble (bind (layout (normalize pieces))).1
  obtain ⟨method, hmethod, hresult⟩ := map_eq_ok_iff.mp (hrun written)
  have hsearcher : Regex.Searcher.compile written
      = .ok ⟨written, source.groups, source.names, method⟩ :=
    Regex.Searcher.compile_ok_iff.mpr ⟨source, method, hsource, hmethod, rfl⟩
  refine map_eq_ok_iff.mpr ⟨_, ?_, hresult⟩
  rw [compile_eq hextract]
  exact build_eq_ok_iff.mpr ⟨_, hsearcher, rfl⟩

/-! ## Arrows between two variables -/

/-- The pieces of `$a REGEX([<>]+) $a`. -/
def arrowPieces : List Piece :=
  [.token (.variable (.named ['a'])), .text [' '], .token (.raw "[<>]+".toList), .text [' '],
    .token (.variable (.named ['a']))]

/-- The segments of `$a REGEX([<>]+) $a`. -/
def arrowSegments : List Segment :=
  [.token (.variable (.named ['a'])), .space, .token (.raw "[<>]+".toList), .space,
    .token (.variable (.named ['a']))]

/-- How `$a REGEX([<>]+) $a` is read, and its raw expression. -/
theorem read_arrow : extract "$a REGEX([<>]+) $a".toList = .ok arrowPieces ∧
    layout (normalize arrowPieces) = arrowSegments ∧
    (Regex.parse "[<>]+".toList).map (·.names) = .ok [] ∧
    Regex.flagsBehind "[<>]+".toList = {} :=
  ⟨by cbv, by cbv, by cbv, by cbv⟩

/-- Arrows speak for themselves. -/
theorem selfContained_arrow (total : Nat) : SelfContained total arrowSegments := by
  obtain ⟨-, -, hread, hflags⟩ := read_arrow
  have hbody {body : List Char} (h : .token (.raw body) ∈ arrowSegments) :
      body = "[<>]+".toList := by
    simpa [arrowSegments] using h
  refine ⟨fun body hmem => ?_, fun front body back hsplit => ?_⟩
  · obtain rfl := hbody hmem
    obtain ⟨source, hsource, hnames⟩ := map_eq_ok_iff.mp hread
    refine ⟨source, hsource, ?_⟩
    rw [hnames]
    exact nofun
  · obtain rfl : body = "[<>]+".toList :=
      hbody (hsplit ▸ List.mem_append_right front List.mem_cons_self)
    rw [hflags]
    exact ⟨rfl, fun _ => rfl⟩

/-- The items of `$a REGEX([<>]+) $a`. -/
def arrowItems : List Expr :=
  [.group 1 (Expr.cats Grammar.variableItems), Grammar.blanksItem,
    .group 2 (.repeated 1 none true (.chars (.union (.union .empty (.range 60 60)) (.range 62 62)))),
    Grammar.blanksItem, .backref 1]

theorem parse_arrow : (Regex.parse (assemble (bind (layout (normalize arrowPieces))).1)).map
    (fun s => (s.expr, s.groups, s.names))
      = .ok (Expr.cats arrowItems, 2, [("__cg1", 2), ("__cg0", 1)]) := by decide +kernel

set_option maxRecDepth 10000 in
theorem run_arrow : (Matcher.compile "$a REGEX([<>]+) $a".toList {}).map
    (fun m => (m.spans (.ofString "x <<x"), m.findAll (.ofString "x <<x")))
      = .ok ([⟨0, 5, "x <<x"⟩], [{ names := ["x"], others := ["<<"] }]) := by
  refine compile_run_of_parse read_arrow.1 parse_arrow fun written => ?_
  cbv

theorem findAll_around_arrow :
    ∃ m span result, Matcher.compile "$a REGEX([<>]+) $a".toList {} = .ok m ∧
      (m.spans (.ofString "x <<x"))[0]? = some span ∧
      (m.findAll (.ofString "x <<x"))[0]? = some result ∧
      result = { names := ["x"], others := ["<<"] } ∧
      ∃ i j ps, ReportsAround arrowPieces "x <<x" span result i j ps := by
  obtain ⟨hextract, hlayout, -⟩ := read_arrow
  obtain ⟨m, hm, hrun⟩ := map_eq_ok_iff.mp run_arrow
  obtain ⟨hspans, hresults⟩ := Prod.mk.inj hrun
  have hspan : (m.spans (.ofString "x <<x"))[0]? = some ⟨0, 5, "x <<x"⟩ := by
    rw [hspans]
    rfl
  have hresult : (m.findAll (.ofString "x <<x"))[0]?
      = some { names := ["x"], others := ["<<"] } := by
    rw [hresults]
    rfl
  have hself := selfContained_arrow (bind arrowSegments).2.size
  rw [← hlayout] at hself
  exact ⟨m, _, _, hm, hspan, hresult, rfl,
    findAll_around hextract hself hm "x <<x" hspan hresult⟩

/-! ## Raw expressions that do not only speak for themselves -/

/-- The pieces of `REGEX((?i))foo`. -/
def ignoringPieces : List Piece :=
  [.token (.raw "(?i)".toList), .text "foo".toList]

/-- The pieces of `$a REGEX((?<__cg0>x)) $a`. -/
def renamingPieces : List Piece :=
  [.token (.variable (.named ['a'])), .text [' '], .token (.raw "(?<__cg0>x)".toList), .text [' '],
    .token (.variable (.named ['a']))]

/-- How `REGEX((?i))foo` is read, and its raw expression. -/
theorem read_ignoring : extract "REGEX((?i))foo".toList = .ok ignoringPieces ∧
    layout (normalize ignoringPieces)
      = [.token (.raw "(?i)".toList), .space, .text "foo".toList] ∧
    (Regex.parse "(?i)".toList).map (fun _ => ()) = .ok () :=
  ⟨by cbv, by cbv, by cbv⟩

/-- How `$a REGEX((?<__cg0>x)) $a` is read, and its raw expression. -/
theorem read_renaming : extract "$a REGEX((?<__cg0>x)) $a".toList = .ok renamingPieces ∧
    layout (normalize renamingPieces)
      = [.token (.variable (.named ['a'])), .space, .token (.raw "(?<__cg0>x)".toList), .space,
        .token (.variable (.named ['a']))] ∧
    (Regex.parse "(?<__cg0>x)".toList).map (fun _ => ()) = .ok () :=
  ⟨by cbv, by cbv, by cbv⟩

set_option maxRecDepth 10000 in
theorem spans_ignoring : (Matcher.compile "REGEX((?i))foo".toList {}).map
    (fun m => m.spans (.ofString "FOO")) = .ok [⟨0, 3, "FOO"⟩] := by decide +kernel

/-- The items of `$a REGEX((?<__cg0>x)) $a`. The last one refers to the group that took the name. -/
def renamingItems : List Expr :=
  [.group 1 (Expr.cats Grammar.variableItems), Grammar.blanksItem,
    .group 2 (.group 3 (.chars (.single 'x'))), Grammar.blanksItem, .backref 3]

theorem parse_renaming : (Regex.parse (assemble (bind (layout (normalize renamingPieces))).1)).map
    (fun s => (s.expr, s.groups, s.names))
      = .ok (Expr.cats renamingItems, 3, [("__cg0", 3), ("__cg1", 2), ("__cg0", 1)]) := by
  decide +kernel

set_option maxRecDepth 10000 in
theorem spans_renaming : (Matcher.compile "$a REGEX((?<__cg0>x)) $a".toList {}).map
    (fun m => m.spans (.ofString "foo x x")) = .ok [⟨0, 7, "foo x x"⟩] := by
  refine compile_run_of_parse read_renaming.1 parse_renaming fun written => ?_
  cbv

/-- Letter case is not ignored in a text that is split. -/
theorem not_splits_ignoring (ps : List Part) (b : Bindings)
    (hps : ps.map (·.segment) = layout (normalize ignoringPieces)) :
    ¬ SplitsAround "FOO".toList.toArray [] 0 ps 3 b := by
  rw [read_ignoring.2.1] at hps
  intro h
  obtain ⟨p, hp, hseg⟩ : ∃ p ∈ ps, p.segment = .text "foo".toList := by
    refine List.mem_map.mp ?_
    rw [hps]
    exact List.mem_cons_of_mem _ (List.mem_cons_of_mem _ List.mem_cons_self)
  have hocc := h.text_of_mem hp hseg
  have hnowhere : ∀ j < 4, ∀ i < 4,
      ("FOO".toList.toArray.extract i j).toList ≠ unquote "foo".toList := by decide
  have hsize : p.stop ≤ 3 := hocc.le_size
  exact hnowhere p.stop (by omega) p.start (by have := hocc.le; omega) hocc.eq

/-- A variable that is used again does not stand for other characters in a text that is split. -/
theorem not_splits_renaming (ps : List Part) (b : Bindings)
    (hps : ps.map (·.segment) = layout (normalize renamingPieces)) :
    ¬ SplitsAround "foo x x".toList.toArray [] 0 ps 7 b := by
  rw [read_renaming.2.1] at hps
  intro h
  obtain ⟨p₁, ps, rfl, h₁, hps⟩ := List.map_eq_cons_iff.mp hps
  obtain ⟨p₂, ps, rfl, h₂, hps⟩ := List.map_eq_cons_iff.mp hps
  obtain ⟨p₃, ps, rfl, h₃, hps⟩ := List.map_eq_cons_iff.mp hps
  obtain ⟨p₄, ps, rfl, h₄, hps⟩ := List.map_eq_cons_iff.mp hps
  obtain ⟨p₅, ps, rfl, h₅, hps⟩ := List.map_eq_cons_iff.mp hps
  obtain rfl := List.map_eq_nil_iff.mp hps
  obtain ⟨hstart, _, h'⟩ := h.tail
  obtain ⟨-, _, h'⟩ := h'.tail
  obtain ⟨-, _, h'⟩ := h'.tail
  obtain ⟨-, _, h'⟩ := h'.tail
  obtain ⟨-, _, h'⟩ := h'.tail
  have hstop := h'.stop_eq
  have hkey₁ : p₁.segment.key? = some (.variable, .named ['a']) := by rw [h₁]; rfl
  have hkey₅ : p₅.segment.key? = some (.variable, .named ['a']) := by rw [h₅]; rfl
  obtain ⟨cs, hcs, hocc⟩ := h.use_of_mem List.mem_cons_self hkey₁
  obtain ⟨cs', hcs', hocc'⟩ := h.use_of_mem (by simp) hkey₅
  obtain rfl := Option.some.inj (hcs.symm.trans hcs')
  -- both uses are the same only if both are empty or both are the whole text, which is no name
  have hsame : ∀ j < 8, ∀ i < 8, ("foo x x".toList.toArray.extract 0 j).toList
      = ("foo x x".toList.toArray.extract i 7).toList → j = 0 ∨ j = 7 := by decide
  have hname : Grammar.IsName cs := by
    obtain ⟨s, i, j⟩ := p₁
    obtain rfl : s = .token (.variable (.named ['a'])) := h₁
    cases h with
    | plain head _ =>
      cases head with
      | first _ _ hword _ _ =>
        obtain ⟨cs', hcs', hname⟩ := hword.2.2
        obtain rfl := hcs'.chars_eq hocc
        exact hname
      | again _ hbound _ _ => cases hbound
  obtain ⟨c, rest, rfl, -, hrest⟩ := hname
  rw [hstart] at hocc
  rw [← hstop] at hocc'
  have hsize : p₁.stop ≤ 7 := hocc.le_size
  have hsize' : p₅.start ≤ 7 := hocc'.le
  rcases hsame p₁.stop (by omega) p₅.start (by omega) (hocc.eq.trans hocc'.eq.symm) with hj | hj
  · have hempty := hocc.eq
    rw [hj] at hempty
    cases hempty
  · have hwhole := hocc.eq
    rw [hj] at hwhole
    obtain ⟨-, rfl⟩ := List.cons.inj (hwhole.symm.trans (by decide : _ = "foo x x".toList))
    exact absurd (hrest ' ' (by decide)) (by decide)

/-- **Raw expressions that do not only speak for themselves** change what stands around them, though
they can be read alone: a flag that is left in force has `foo` match `FOO`, and a name like that of a
capture has a variable stand for something else when it is used again. -/
theorem raw_reaches_out :
    (extract "REGEX((?i))foo".toList = .ok ignoringPieces ∧
      (∃ source, Regex.parse "(?i)".toList = .ok source) ∧
      ∃ m, Matcher.compile "REGEX((?i))foo".toList {} = .ok m ∧
        m.spans (.ofString "FOO") = [⟨0, 3, "FOO"⟩] ∧
        ∀ ps b, ps.map (·.segment) = layout (normalize ignoringPieces) →
          ¬ SplitsAround "FOO".toList.toArray [] 0 ps 3 b) ∧
    extract "$a REGEX((?<__cg0>x)) $a".toList = .ok renamingPieces ∧
      (∃ source, Regex.parse "(?<__cg0>x)".toList = .ok source) ∧
      ∃ m, Matcher.compile "$a REGEX((?<__cg0>x)) $a".toList {} = .ok m ∧
        m.spans (.ofString "foo x x") = [⟨0, 7, "foo x x"⟩] ∧
        ∀ ps b, ps.map (·.segment) = layout (normalize renamingPieces) →
          ¬ SplitsAround "foo x x".toList.toArray [] 0 ps 7 b := by
  obtain ⟨hextract, -, hread⟩ := read_ignoring
  obtain ⟨hextract', -, hread'⟩ := read_renaming
  obtain ⟨source, hsource, -⟩ := map_eq_ok_iff.mp hread
  obtain ⟨source', hsource', -⟩ := map_eq_ok_iff.mp hread'
  obtain ⟨m, hm, hspans⟩ := map_eq_ok_iff.mp spans_ignoring
  obtain ⟨m', hm', hspans'⟩ := map_eq_ok_iff.mp spans_renaming
  exact ⟨⟨hextract, ⟨source, hsource⟩, m, hm, hspans, not_splits_ignoring⟩,
    hextract', ⟨source', hsource'⟩, m', hm', hspans', not_splits_renaming⟩

end CodeShape.Pattern
