import Mathlib.Data.List.Nodup
import CodeShape.Proofs.Regex.Contexts
import CodeShape.Proofs.Regex.SearchWays

/-!
# Where groups are named

The names of groups that an expression ends up with are those given at the parentheses that open
them (`mem_names_iff`). `NamesAt` tells where in the expression this is. At each place at most one
group is named (`NamesAt.group_eq`), there stands a parenthesis with the name behind it
(`NamesAt.spelled`), and no group gets two names (`NamesGroup.name_eq`).
-/

namespace CodeShape.Regex

variable {cs ds es rest place place' name name' : List Char} {c : Char} {g g' len fuel : Nat}

/-! ## Lexemes that name a group -/

theorem lexReference_not_group {stop : Char} :
    lexReference stop cs ≠ .ok (.group (some name), rest) := by
  intro h
  unfold lexReference at h
  split at h
  · obtain ⟨⟨name', rest'⟩, -, h⟩ := bind_eq_ok_iff.mp h
    dsimp only at h
    split at h
    · cases h
    · cases h
  · obtain ⟨⟨name', rest'⟩, -, h⟩ := bind_eq_ok_iff.mp h
    cases h

theorem lexBackslash_not_group {f : Flags} :
    lexBackslash f len cs ≠ .ok (.group (some name), rest) := by
  intro h
  unfold lexBackslash at h
  split at h
  case h_2 | h_3 => exact lexReference_not_group h
  case h_15 =>
    split at h
    · split at h
      · split at h
        · cases h
        · cases h
      · cases h
    · obtain ⟨⟨e, rest'⟩, -, h⟩ := bind_eq_ok_iff.mp h
      cases h
  all_goals cases h

theorem lexFlags_not_group {f : Flags} {letters : Nat} {negated : Bool} {last : Char} :
    lexFlags f letters negated last cs ≠ .ok (.group (some name), rest) := by
  intro h
  fun_induction lexFlags f letters negated last cs with
  | case1 | case2 | case3 | case4 | case5 | case6 | case9 => cases h
  | case7 _ _ _ _ _ _ ih => exact ih h
  | case8 _ _ _ _ _ _ _ _ _ _ _ ih => exact ih h

/-- A name in front of which there stands what makes it the name of a group. -/
def Named (cs name : List Char) : Prop :=
  ∃ named rest, (cs = '?' :: '<' :: named ∧ named.head? ≠ some '=' ∧ named.head? ≠ some '!' ∨
    cs = '?' :: 'P' :: '<' :: named) ∧ Reader.readName '>' named = .ok (name, rest)

theorem named_of_lexOpening {f : Flags} (h : lexOpening f cs = .ok (.group (some name), rest)) :
    Named cs name := by
  have hname {named : List Char} (h : lexName named = .ok (.group (some name), rest)) :
      Reader.readName '>' named = .ok (name, rest) := by
    obtain ⟨⟨name', rest'⟩, hread, h⟩ := bind_eq_ok_iff.mp h
    cases h
    exact hread
  unfold lexOpening at h
  split at h
  case h_5 named hahead hbehind =>
    refine ⟨named, rest, .inl ⟨rfl, fun heq => ?_, fun heq => ?_⟩, hname h⟩
    · obtain ⟨more, rfl⟩ := List.head?_eq_some_iff.mp heq
      exact hahead more rfl
    · obtain ⟨more, rfl⟩ := List.head?_eq_some_iff.mp heq
      exact hbehind more rfl
  case h_6 named => exact ⟨named, rest, .inr rfl, hname h⟩
  case h_7 => exact absurd h lexReference_not_group
  case h_9 => exact absurd h lexFlags_not_group
  all_goals cases h

/-- Where a group is named there stands a parenthesis, and the name behind it. -/
theorem named_of_lex {f : Flags} {quantifiable : Bool}
    (h : lex f quantifiable len c cs = .ok (.group (some name), rest)) :
    c = '(' ∧ ∃ es, skipBlanks f.spaced .blanks cs = .ok es ∧ Named es name := by
  unfold lex at h
  split at h
  · obtain ⟨ds, -, h⟩ := bind_eq_ok_iff.mp h
    cases h
  · unfold lexItem at h
    split at h
    case h_4 =>
      obtain ⟨es, hes, h⟩ := bind_eq_ok_iff.mp h
      exact ⟨rfl, es, hes, named_of_lexOpening h⟩
    case h_7 => exact absurd h lexBackslash_not_group
    case h_8 =>
      obtain ⟨⟨items, rest'⟩, -, h⟩ := bind_eq_ok_iff.mp h
      obtain ⟨set, -, h⟩ := bind_eq_ok_iff.mp h
      cases h
    all_goals cases h

namespace Reader

variable {r s t : Reader} {a : Lexeme}

/-! ## Names given by a step -/

theorem openLevel_names {o : Opening} (h : r.openLevel o = .ok s) :
    s.names = r.names ∧ s.groups = r.groups := by
  obtain ⟨-, rfl⟩ := openLevel_ok_iff.mp h
  exact ⟨settle_names r, settle_groups r⟩

/-- A group that is opened is numbered next, and its name, if it has one, is given to it. -/
theorem openGroup_names {name? : Option (List Char)} (h : r.openGroup name? = .ok s) :
    s.groups = r.groups + 1 ∧
      s.names = name?.toList.map (fun name => (name, r.groups + 1)) ++ r.names := by
  unfold openGroup at h
  obtain ⟨hnames, hgroups⟩ := openLevel_names h
  refine ⟨hgroups, ?_⟩
  rw [hnames]
  cases name? <;> rfl

/-- No lexeme but a named group gives a name. -/
theorem take_names (h : r.take a = .ok s) :
    s.names = r.names ∨ ∃ name, a = .group (some name) ∧ s.groups = r.groups + 1 ∧
      s.names = (name, s.groups) :: r.names := by
  cases a with
  | chars | assert | keepOut | searchStart | bar =>
    cases h
    exact .inl (settle_names r)
  | flags f =>
    cases h
    left
    rw [push, settle_names]
    exact settle_names r
  | group name? =>
    obtain ⟨hgroups, hnames⟩ := openGroup_names h
    cases name? with
    | none => exact .inl hnames
    | some name => exact .inr ⟨name, rfl, hgroups, by rw [hgroups]; exact hnames⟩
  | atomic => exact .inl (openLevel_names (o := .atomic) h).1
  | look side negated => exact .inl (openLevel_names (o := .look side negated) h).1
  | parens inside =>
    left
    obtain ⟨hnames, -⟩ := openLevel_names (o := .parens r.flags) h
    exact hnames.trans (settle_names r)
  | reference target =>
    obtain ⟨g, b, -, rfl⟩ := refer_ok h
    exact .inl (settle_names r)
  | close =>
    obtain ⟨o, around, outer, -, -, rfl⟩ := closeLevel_ok_iff.mp h
    exact .inl (settle_names r)
  | quantifier lo hi greedy possessive =>
    obtain ⟨e, -, -, -, rfl⟩ := repeatPending_ok_iff.mp h
    exact .inl rfl

/-! ## Places where names are given -/

/-- As it reads on, the reader opens the group `g` with the name `name` where the text is `place`. -/
inductive NamesAt (len : Nat) : Reader → List Char → List Char → Nat → List Char → Prop
  | here {r s : Reader} {cs ds rest name : List Char} {c : Char} {g : Nat}
      (hskip : r.skip cs = .ok (c :: ds)) (hstep : r.step len c ds = .ok (s, rest))
      (hnames : s.names = (name, g) :: r.names) : NamesAt len r cs name g (c :: ds)
  | later {r s : Reader} {cs ds rest name place : List Char} {c : Char} {g : Nat}
      (hskip : r.skip cs = .ok (c :: ds)) (hstep : r.step len c ds = .ok (s, rest))
      (h : NamesAt len s rest name g place) : NamesAt len r cs name g place

/-- Each step reads something. -/
theorem step_length (hskip : r.skip cs = .ok (c :: ds)) (hstep : r.step len c ds = .ok (s, rest)) :
    rest <:+ ds ∧ rest.length < cs.length := by
  obtain ⟨a, hlex, -⟩ := step_ok_iff.mp hstep
  have hrest := lex_suffix hlex
  have hle := hrest.length_le
  have hle' := (skipping_suffix hskip).length_le
  rw [List.length_cons] at hle'
  exact ⟨hrest, by omega⟩

/-- A step gives one name at most. -/
theorem mem_names_of_take (h : r.take a = .ok s) :
    (name, g) ∈ s.names ↔ (name, g) ∈ r.names ∨ s.names = (name, g) :: r.names := by
  rcases take_names h with hnames | ⟨name', -, -, hnames⟩
  · rw [hnames]
    exact (or_iff_left fun heq => List.cons_ne_self _ _ heq.symm).symm
  · rw [hnames, List.mem_cons, List.cons.injEq, and_iff_left rfl, eq_comm, or_comm]

/-- A group is named by the next step or behind it. -/
theorem namesAt_iff (hskip : r.skip cs = .ok (c :: ds)) (hstep : r.step len c ds = .ok (s, rest)) :
    NamesAt len r cs name g place ↔
      s.names = (name, g) :: r.names ∧ place = c :: ds ∨ NamesAt len s rest name g place := by
  constructor
  · intro h
    cases h with
    | here hskip' hstep' hnames =>
      cases hskip.symm.trans hskip'
      cases hstep.symm.trans hstep'
      exact .inl ⟨hnames, rfl⟩
    | later hskip' hstep' hplace =>
      cases hskip.symm.trans hskip'
      cases hstep.symm.trans hstep'
      exact .inr hplace
  · rintro (⟨hnames, rfl⟩ | hplace)
    · exact .here hskip hstep hnames
    · exact .later hskip hstep hplace

/-- **The names at the end are those given on the way.** -/
theorem mem_names_iff (hrun : run len fuel r cs = .ok t) (hfuel : cs.length < fuel) :
    (name, g) ∈ t.names ↔ (name, g) ∈ r.names ∨ ∃ place, NamesAt len r cs name g place := by
  induction fuel generalizing r cs with
  | zero => exact absurd hfuel (Nat.not_lt_zero _)
  | succ fuel ih =>
    rcases run_succ_ok_iff.mp hrun with ⟨hskip, rfl⟩ | ⟨c, ds, a, s, rest, hskip, hlex, hs, hgo⟩
    · refine (or_iff_left ?_).symm
      rintro ⟨place, hplace⟩
      cases hplace with
      | here hskip' => cases hskip.symm.trans hskip'
      | later hskip' => cases hskip.symm.trans hskip'
    · have hstep : r.step len c ds = .ok (s, rest) := step_ok_iff.mpr ⟨a, hlex, hs⟩
      have hlt := (step_length hskip hstep).2
      rw [ih hgo (by omega), mem_names_of_take hs, or_assoc]
      refine or_congr_right ?_
      simp only [namesAt_iff hskip hstep, exists_or, exists_and_left, exists_eq, and_true]

namespace NamesAt

theorem place_suffix (h : NamesAt len r cs name g place) : place <:+ cs := by
  induction h with
  | here hskip _ _ => exact skipping_suffix hskip
  | later hskip hstep _ ih =>
    exact ih.trans ((step_length hskip hstep).1.trans
      ((List.suffix_cons _ _).trans (skipping_suffix hskip)))

/-- Where a group is named there stands a parenthesis, and the name behind it. -/
theorem spelled (h : NamesAt len r cs name g place) : ∃ ds es spaced, place = '(' :: ds ∧
    skipBlanks spaced .blanks ds = .ok es ∧ Named es name := by
  induction h with
  | @here r s cs ds rest name c g hskip hstep hnames =>
    obtain ⟨a, hlex, hs⟩ := step_ok_iff.mp hstep
    rcases take_names hs with hsame | ⟨name', rfl, -, hnames'⟩
    · have hlength := congrArg List.length (hsame.symm.trans hnames)
      rw [List.length_cons] at hlength
      omega
    · obtain ⟨heq, -⟩ := List.cons.inj (hnames'.symm.trans hnames)
      cases heq
      obtain ⟨rfl, es, hes, hnamed⟩ := named_of_lex hlex
      exact ⟨ds, es, r.flags.spaced, rfl, hes, hnamed⟩
  | later _ _ _ ih => exact ih

/-- At one place only one group is named. -/
theorem group_eq (h : NamesAt len r cs name g place) (h' : NamesAt len r cs name' g' place) :
    g = g' := by
  have hbehind {r s : Reader} {c : Char} {cs ds rest name : List Char} {g : Nat}
      (hskip : r.skip cs = .ok (c :: ds)) (hstep : r.step len c ds = .ok (s, rest)) :
      ¬ NamesAt len s rest name g (c :: ds) := by
    intro h
    have hle := (h.place_suffix.trans (step_length hskip hstep).1).length_le
    rw [List.length_cons] at hle
    omega
  induction h with
  | here hskip hstep hnames =>
    rcases (namesAt_iff hskip hstep).mp h' with ⟨hnames', -⟩ | h'
    · cases hnames.symm.trans hnames'
      rfl
    · exact absurd h' (hbehind hskip hstep)
  | later hskip hstep h ih =>
    rcases (namesAt_iff hskip hstep).mp h' with ⟨-, rfl⟩ | h'
    · exact absurd h (hbehind hskip hstep)
    · exact ih h'

end NamesAt

end Reader

/-! ## Names of a searcher -/

/-- The group `g` of an expression is named where it reads on with `place`. -/
def NamesGroup (expr name : List Char) (g : Nat) (place : List Char) : Prop :=
  Reader.NamesAt (byteLength expr) {} expr name g place

variable {expr : List Char} {s : Searcher}

/-- The names that a searcher holds are those given in its expression, the latest first. -/
theorem names_of_compile (hs : Searcher.compile expr = .ok s) :
    (s.names.map (·.2)).Pairwise (· > ·) ∧ (∀ p ∈ s.names, p.2 ≤ s.groups) ∧
      ∀ name g, (name, g) ∈ s.names ↔ ∃ place, NamesGroup expr name.toList g place := by
  obtain ⟨source, method, hsource, -, rfl⟩ := Searcher.compile_ok_iff.mp hs
  obtain ⟨t, ht, hfinish, -⟩ := run_of_parse hsource
  obtain ⟨-, -, rfl⟩ := Reader.finish_ok_iff.mp hfinish
  have hproper := (Reader.run_proper Reader.proper_empty ht).settle
  refine ⟨?_, ?_, fun name g => ?_⟩
  · rw [List.map_map]
    exact hproper.ordered
  · exact List.forall_mem_map.mpr hproper.named
  · have hiff : (name.toList, g) ∈ t.names ↔ _ := Reader.mem_names_iff ht (Nat.lt_succ_self _)
    show (name, g) ∈ t.settle.names.map (fun p => (String.ofList p.1, p.2)) ↔ _
    rw [Reader.settle_names, List.mem_map]
    constructor
    · rintro ⟨⟨name', g'⟩, hmem, heq⟩
      cases heq
      have hin : ((String.ofList name').toList, g') ∈ t.names := by
        rw [String.toList_ofList]
        exact hmem
      rcases hiff.mp hin with hnil | h
      · exact absurd hnil List.not_mem_nil
      · exact h
    · intro h
      refine ⟨(name.toList, g), hiff.mpr (.inr h), ?_⟩
      rw [String.ofList_toList]

theorem NamesGroup.mem_names (h : NamesGroup expr name g place) (hs : Searcher.compile expr = .ok s) :
    (String.ofList name, g) ∈ s.names := by
  obtain ⟨-, -, hmem⟩ := names_of_compile hs
  refine (hmem _ _).mpr ⟨place, ?_⟩
  rw [String.toList_ofList]
  exact h

/-- A group that is named is among the groups of the searcher. -/
theorem NamesGroup.le_groups (h : NamesGroup expr name g place) (hs : Searcher.compile expr = .ok s) :
    g ≤ s.groups := by
  obtain ⟨-, hle, -⟩ := names_of_compile hs
  exact hle _ (h.mem_names hs)

/-- A group is given only one name. -/
theorem NamesGroup.name_eq (h : NamesGroup expr name g place) (h' : NamesGroup expr name' g place')
    (hs : Searcher.compile expr = .ok s) : name = name' := by
  obtain ⟨hordered, -, -⟩ := names_of_compile hs
  have hnodup : (s.names.map (·.2)).Nodup := hordered.imp fun hgt => Nat.ne_of_gt hgt
  have heq := List.inj_on_of_nodup_map hnodup (h.mem_names hs) (h'.mem_names hs) rfl
  exact String.ofList_injective (congrArg Prod.fst heq)

theorem mem_of_lookup {α β : Type} [BEq α] [LawfulBEq α] {l : List (α × β)} {a : α} {b : β}
    (h : l.lookup a = some b) : (a, b) ∈ l := by
  obtain ⟨front, back, rfl, -⟩ := List.lookup_eq_some_iff.mp h
  exact List.mem_append_right _ List.mem_cons_self

/-- A group bears the name that stands for it, if no group is named twice. -/
theorem Searcher.nameOf?_of_lookup (hnodup : (s.names.map (·.2)).Nodup) {name : String}
    (h : s.names.lookup name = some g) : s.nameOf? g = some name := by
  have hmem : (name, g) ∈ s.names := mem_of_lookup h
  unfold Searcher.nameOf?
  generalize hfind : s.names.find? _ = found
  cases found with
  | none => exact absurd (List.find?_eq_none.mp hfind _ hmem) (by simp [h])
  | some e =>
    -- the numbers of named groups differ, so that it is this entry that is found
    have hfound := List.find?_some hfind
    simp only [Bool.and_eq_true, beq_iff_eq] at hfound
    obtain rfl := List.inj_on_of_nodup_map hnodup (List.mem_of_find?_eq_some hfind) hmem hfound.1
    rfl

/-- **A group bears the name that it was given, if no later one was given it too.** -/
theorem Searcher.nameOf?_eq_some_iff (hs : Searcher.compile expr = .ok s) {name : String} :
    s.nameOf? g = some name ↔ (∃ place, NamesGroup expr name.toList g place) ∧
      ∀ g' place', NamesGroup expr name.toList g' place' → g' ≤ g := by
  obtain ⟨hordered, -, hmem⟩ := names_of_compile hs
  -- the latest names stand in front, and so the first one of a list has the greatest group
  have hlatest {g : Nat} (h : s.names.lookup name = some g) {g' : Nat}
      (h' : (name, g') ∈ s.names) : g' ≤ g := by
    obtain ⟨front, back, hnames, hfront⟩ := List.lookup_eq_some_iff.mp h
    rw [hnames] at h' hordered
    rcases List.mem_append.mp h' with h' | h'
    · exact absurd (hfront _ h') (by simp)
    · rw [List.map_append, List.map_cons] at hordered
      have hback := (List.pairwise_cons.mp (List.pairwise_append.mp hordered).2.1).1
      rcases List.mem_cons.mp h' with heq | h'
      · cases heq
        exact Nat.le_refl _
      · exact Nat.le_of_lt (hback g' (List.mem_map.mpr ⟨_, h', rfl⟩))
  constructor
  · intro h
    obtain ⟨⟨name', g'⟩, hfind, heq⟩ := Option.map_eq_some_iff.mp h
    have hfound := List.find?_some hfind
    simp only [Bool.and_eq_true, beq_iff_eq] at hfound
    obtain ⟨rfl, hlookup⟩ := hfound
    cases heq
    refine ⟨(hmem _ _).mp (List.mem_of_find?_eq_some hfind), fun g' place' h' => ?_⟩
    exact hlatest hlookup ((hmem _ _).mpr ⟨place', h'⟩)
  · rintro ⟨hplace, hall⟩
    have hin : (name, g) ∈ s.names := (hmem _ _).mpr hplace
    have hlookup : s.names.lookup name = some g := by
      cases hlookup : s.names.lookup name with
      | none => exact absurd (List.lookup_eq_none_iff.mp hlookup _ hin) (by simp)
      | some g' =>
        obtain ⟨place', h'⟩ := (hmem _ _).mp (mem_of_lookup hlookup)
        rw [Nat.le_antisymm (hall g' place' h') (hlatest hlookup hin)]
    exact nameOf?_of_lookup (hordered.imp fun hgt => Nat.ne_of_gt hgt) hlookup

end CodeShape.Regex
