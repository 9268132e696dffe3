import Mathlib.Data.List.TakeDrop
import CodeShape.Proofs.Regex.Consumption

/-!
# Reading what is put together from parts

An expression that is put together from parts is read part by part. `Spells` says that a text is
read as a list of items wherever it stands, and `Fills` that it is read as the contents of a pair of
parentheses. Both need to know two things about what follows (`clear`): no quantifier stands there,
which would reach back to the last item, and no comment, which would be skipped. Most parts begin
in a way that is clear themselves, so that parts can be put side by side.

At the end stands `spells_quote`: quoted text is read as its characters, whatever they are.
-/

namespace CodeShape.Regex

/-- The flags behind a level, `inside` being those at its end. -/
def Opening.restored (inside : Flags) : Opening → Flags
  | parens restore => restore
  | _ => inside

namespace Reader

variable {len : Nat} {r s t : Reader} {cs ds es rest : List Char}

/-! ## Steps -/

/-- Reading goes on from one reader and what it has before it to another. -/
def Leads (len : Nat) (r : Reader) (cs : List Char) (s : Reader) (rest : List Char) : Prop :=
  ∀ fuel, cs.length < fuel → ∃ left, rest.length < left ∧ run len fuel r cs = run len left s rest

theorem Leads.refl (len : Nat) (r : Reader) (cs : List Char) : Leads len r cs r cs :=
  fun fuel hfuel => ⟨fuel, hfuel, rfl⟩

theorem Leads.trans (h : Leads len r cs s ds) (h' : Leads len s ds t es) :
    Leads len r cs t es := by
  intro fuel hfuel
  obtain ⟨left, hleft, hrun⟩ := h fuel hfuel
  obtain ⟨left', hleft', hrun'⟩ := h' left hleft
  exact ⟨left', hleft', hrun.trans hrun'⟩

theorem leads_of_step {c : Char} (hskip : r.skip (c :: cs) = .ok (c :: cs))
    (hstep : r.step len c cs = .ok (s, rest)) (hlen : rest.length ≤ cs.length) :
    Leads len r (c :: cs) s rest := by
  intro fuel hfuel
  cases fuel with
  | zero => exact absurd hfuel (Nat.not_lt_zero _)
  | succ fuel =>
    refine ⟨fuel, ?_, ?_⟩
    · rw [List.length_cons] at hfuel
      omega
    · rw [run, hskip]
      show (r.step len c cs >>= fun found => run len fuel found.1 found.2) = _
      rw [hstep]
      rfl

/-- Where reading ends at the end of the text, that is what is read. -/
theorem parse_of_leads (h : Leads (byteLength cs) {} cs s []) : parse cs = s.finish := by
  obtain ⟨left, hleft, hrun⟩ := h (cs.length + 1) (Nat.lt_succ_self _)
  unfold parse
  rw [hrun]
  cases left with
  | zero => exact absurd hleft (Nat.not_lt_zero _)
  | succ left => rfl

/-! ## What may follow -/

/-- Neither a quantifier nor a comment stands at the front. -/
def clear : List Char → Bool
  | '(' :: '?' :: '#' :: _ => false
  | c :: _ => !(['?', '*', '+', '{'].contains c)
  | [] => true

theorem clear_cons {c : Char} (hparen : c ≠ '(')
    (hquant : ['?', '*', '+', '{'].contains c = false) : clear (c :: cs) = true := by
  rw [clear]
  · rw [hquant]
    rfl
  · exact fun _ h _ => hparen h

theorem skip_cons {c : Char} (hflags : r.flags = {}) (hparen : c ≠ '(') :
    r.skip (c :: cs) = .ok (c :: cs) := by
  unfold skip
  rw [hflags]
  by_cases hhash : c = '#'
  · rw [hhash]
    rfl
  · rw [skipBlanks]
    · simp
    · exact fun _ h _ => hparen h
    · exact hhash

theorem skip_of_clear (hflags : r.flags = {}) (h : clear cs = true) : r.skip cs = .ok cs := by
  cases cs with
  | nil =>
    unfold skip
    rw [skipBlanks]
    · exact nofun
  | cons c cs =>
    by_cases hparen : c = '('
    · subst hparen
      unfold skip
      rw [hflags, skipBlanks]
      · simp
      · intro rest _ hcs
        rw [hcs] at h
        exact Bool.false_ne_true h
      · decide
    · exact skip_cons hflags hparen

theorem not_quantifier_of_clear {c : Char} (h : clear (c :: cs) = true) :
    c ≠ '?' ∧ c ≠ '*' ∧ c ≠ '+' ∧ c ≠ '{' := by
  refine ⟨?_, ?_, ?_, ?_⟩
  · intro h
    subst h
    exact absurd h Bool.false_ne_true
  · intro h
    subst h
    exact absurd h Bool.false_ne_true
  · intro h
    subst h
    exact absurd h Bool.false_ne_true
  · intro h
    subst h
    exact absurd h Bool.false_ne_true

/-- Where it is clear, the next thing is an item. -/
theorem step_of_clear {c : Char} (h : clear (c :: cs) = true) :
    r.step len c cs = r.readItem len c cs := by
  obtain ⟨hopt, hstar, hplus, hbrace⟩ := not_quantifier_of_clear h
  unfold step
  cases r.pending with
  | none => rfl
  | some e =>
    have hnone : r.readQuantifier? (c :: cs) = none := by
      rw [readQuantifier?]
      · exact fun _ h => hopt (List.cons.inj h).1
      · exact fun _ h => hstar (List.cons.inj h).1
      · exact fun _ h => hplus (List.cons.inj h).1
      · exact fun _ h => hbrace (List.cons.inj h).1
    dsimp only
    rw [hnone]

theorem leads_of_item {c : Char} (hflags : r.flags = {}) (hclear : clear (c :: cs) = true)
    (hitem : r.readItem len c cs = .ok (s, rest)) (hlen : rest.length ≤ cs.length) :
    Leads len r (c :: cs) s rest :=
  leads_of_step (skip_of_clear hflags hclear) ((step_of_clear hclear).trans hitem) hlen

/-! ## Settled readers -/

@[simp] theorem settle_flags (r : Reader) : r.settle.flags = r.flags := by
  unfold settle
  split <;> rfl

@[simp] theorem settle_groups (r : Reader) : r.settle.groups = r.groups := by
  unfold settle
  split <;> rfl

@[simp] theorem settle_names (r : Reader) : r.settle.names = r.names := by
  unfold settle
  split <;> rfl

@[simp] theorem settle_numbered (r : Reader) : r.settle.numbered = r.numbered := by
  unfold settle
  split <;> rfl

@[simp] theorem settle_outer (r : Reader) : r.settle.outer = r.outer := by
  unfold settle
  split <;> rfl

@[simp] theorem settle_pending (r : Reader) : r.settle.pending = none := by
  unfold settle
  split
  · assumption
  · rfl

theorem settle_of_none (h : r.pending = none) : r.settle = r := by
  unfold settle
  rw [h]

@[simp] theorem settle_settle (r : Reader) : r.settle.settle = r.settle :=
  settle_of_none (settle_pending r)

/-- The reader with more items in the branch at hand. -/
def put (r : Reader) (es : List Expr) : Reader :=
  { r with level := { r.level with items := es.reverse ++ r.level.items } }

theorem put_put (r : Reader) (es fs : List Expr) : (r.put es).put fs = r.put (es ++ fs) := by
  unfold put
  simp

theorem push_settle {e : Expr} (h : e.isBlank = false) :
    (r.push e).settle = r.settle.put [e] := by
  have hadd :
      r.settle.level.add e = { r.settle.level with items := e :: r.settle.level.items } := by
    rw [Level.add, h, if_neg Bool.false_ne_true]
  show { r.settle with level := r.settle.level.add e, pending := none } = _
  rw [hadd]
  unfold put
  rw [List.reverse_singleton, List.singleton_append, ← settle_pending r]

/-! ## Texts that spell items -/

/-- Wherever it stands, the text is read as the items, with parentheses up to `depth` deep. -/
def Spells (depth : Nat) (cs : List Char) (es : List Expr) : Prop :=
  ∀ (len : Nat) (r : Reader) (rest : List Char), r.flags = {} → r.numbered = false →
    r.outer.length + depth < maxDepth → clear rest = true →
    clear (cs ++ rest) = true ∧ ∃ s, s.settle = r.settle.put es ∧ Leads len r (cs ++ rest) s rest

variable {depth : Nat} {items : List Expr} {e : Expr}

theorem Spells.nil (depth : Nat) : Spells depth [] [] :=
  fun len r rest _ _ _ hclear => ⟨hclear, r, rfl, Leads.refl len r rest⟩

theorem Spells.mono {deeper : Nat} (h : Spells depth cs items) (hle : depth ≤ deeper) :
    Spells deeper cs items :=
  fun len r rest hflags hnum hdepth hclear => h len r rest hflags hnum (by omega) hclear

/-- What a reader keeps while items are read. -/
theorem kept_of_settle {items : List Expr} (h : s.settle = r.settle.put items) :
    s.flags = r.flags ∧ s.numbered = r.numbered ∧ s.outer = r.outer := by
  refine ⟨?_, ?_, ?_⟩
  · rw [← settle_flags s, h]
    exact settle_flags r
  · rw [← settle_numbered s, h]
    exact settle_numbered r
  · rw [← settle_outer s, h]
    exact settle_outer r

theorem Spells.append {more : List Expr} (h : Spells depth cs items) (h' : Spells depth ds more) :
    Spells depth (cs ++ ds) (items ++ more) := by
  intro len r rest hflags hnum hdepth hclear
  rw [List.append_assoc]
  have hafter := (h' len r rest hflags hnum hdepth hclear).1
  obtain ⟨hfront, s, hs, hlead⟩ := h len r (ds ++ rest) hflags hnum hdepth hafter
  obtain ⟨hsflags, hsnum, hsouter⟩ := kept_of_settle hs
  obtain ⟨-, t, ht, hlead'⟩ := h' len s rest (hsflags ▸ hflags) (hsnum ▸ hnum) (hsouter ▸ hdepth)
    hclear
  refine ⟨hfront, t, ?_, hlead.trans hlead'⟩
  rw [ht, hs, put_put]

theorem Spells.flatMap {α : Type} (text : α → List Char) (meaning : α → List Expr) {parts : List α}
    (h : ∀ a ∈ parts, Spells depth (text a) (meaning a)) :
    Spells depth (parts.flatMap text) (parts.flatMap meaning) := by
  induction parts with
  | nil => exact Spells.nil depth
  | cons a parts ih =>
    rw [List.flatMap_cons, List.flatMap_cons]
    exact (h a List.mem_cons_self).append (ih fun b hb => h b (List.mem_cons_of_mem a hb))

/-- The text is read as an item to which a quantifier may still be applied. -/
def Item (cs : List Char) (e : Expr) : Prop :=
  ∀ (len : Nat) (r : Reader) (rest : List Char), r.flags = {} →
    clear (cs ++ rest) = true ∧ Leads len r (cs ++ rest) (r.push e) rest

theorem Item.spells (h : Item cs e) (hblank : e.isBlank = false) : Spells 0 cs [e] := by
  intro len r rest hflags _ _ _
  obtain ⟨hclear, hlead⟩ := h len r rest hflags
  exact ⟨hclear, r.push e, push_settle hblank, hlead⟩

/-! ### Single characters -/

/-- Text without special characters is read as it stands. -/
theorem item_plain {c : Char} (h : isSpecial c = false) : Item [c] (.chars (.single c)) := by
  have hne (d : Char) (hd : isSpecial d = true) : c ≠ d := by
    intro h
    subst h
    rw [hd] at h
    exact absurd h.symm Bool.false_ne_true
  intro len r rest hflags
  have hclear : clear (c :: rest) = true := by
    refine clear_cons (hne '(' rfl) ?_
    simp only [List.contains_cons, List.contains_nil, Bool.or_false, Bool.or_eq_false_iff,
      beq_eq_false_iff_ne]
    exact ⟨hne '?' rfl, hne '*' rfl, hne '+' rfl, hne '{' rfl⟩
  refine ⟨hclear, leads_of_item hflags hclear ?_ (Nat.le_refl _)⟩
  unfold readItem
  split
  any_goals exact absurd rfl (hne _ rfl)
  rw [hflags]
  rfl

/-- What stands behind a backslash, if it is an escape for characters. -/
theorem item_escape {c : Char} {set : CharSet} (escape : Escaped)
    (hread : ∀ len (r : Reader) rest, r.flags = {} → r.readBackslash len (c :: rest)
      = .ok (r.push (.chars (escape.toSet false)), rest)) (hset : escape.toSet false = set) :
    Item ['\\', c] (.chars set) := by
  intro len r rest hflags
  refine ⟨rfl, leads_of_item hflags rfl ?_ (Nat.le_succ _)⟩
  rw [← hset]
  exact hread len r rest hflags

/-- A special character stands for itself behind a backslash. -/
theorem item_special {c : Char} (h : isSpecial c = true) :
    Item ['\\', c] (.chars (.single c)) := by
  refine item_escape (.char c) ?_ rfl
  unfold isSpecial at h
  simp only [List.contains_cons, List.contains_nil, Bool.or_false, Bool.or_eq_true,
    beq_iff_eq] at h
  intro len r rest hflags
  rcases h with rfl | rfl | rfl | rfl | rfl | rfl | rfl | rfl | rfl | rfl | rfl | rfl | rfl | rfl |
    rfl <;>
  · unfold readBackslash
    rw [hflags]
    rfl

/-- **Quoted text is read as its characters**, whatever they are. -/
theorem spells_quote (text : List Char) :
    Spells 0 (quote text) (text.map fun c => .chars (.single c)) := by
  have hone : ∀ c ∈ text, Spells 0 (if isSpecial c then ['\\', c] else [c])
      [.chars (.single c)] := by
    intro c _
    cases hc : isSpecial c with
    | true => exact (item_special hc).spells rfl
    | false => exact (item_plain hc).spells rfl
  have hall := Spells.flatMap _ (fun c => [.chars (.single c)]) hone
  rw [← List.map_eq_flatMap] at hall
  exact hall

/-- A class in brackets. -/
theorem item_class (cs : List Char) {items : List Bracket.Item} {set : CharSet}
    (hscan : ∀ rest, Bracket.scan false (cs ++ rest) = .ok (items, rest))
    (hread : Bracket.read false items = .ok set) : Item ('[' :: cs) (.chars set) := by
  intro len r rest hflags
  have hitem : r.readItem len '[' (cs ++ rest) = .ok (r.push (.chars set), rest) := by
    unfold readItem
    rw [hflags]
    simp only [hscan rest]
    show (do return (r.push (.chars (← Bracket.read false items)), rest)) = _
    rw [hread]
    rfl
  exact ⟨rfl, leads_of_item hflags rfl hitem (List.length_append ▸ Nat.le_add_left _ _)⟩

/-! ### Quantifiers -/

/-- What stands at a clear place neither makes a quantifier lazy nor keeps it from giving back. -/
theorem quantify_of_clear {lo : Nat} {hi : Option Nat} (hflags : r.flags = {})
    (hrep : e.isRepeatable = true) (hhi : hi.any (· < lo) = false) (hclear : clear rest = true)
    (greedy : Bool) :
    r.quantify e lo hi ((if greedy then [] else ['?']) ++ rest) = .ok ({ r with
      level := r.level.add (.repeated lo hi greedy e), pending := none }, rest) := by
  unfold quantify
  rw [hrep, hhi]
  cases greedy with
  | true =>
    rw [if_pos rfl, List.nil_append, skip_of_clear hflags hclear, hflags]
    cases rest with
    | nil => rfl
    | cons c rest =>
      obtain ⟨hopt, -, hplus, -⟩ := not_quantifier_of_clear hclear
      simp [hopt, hplus, bind, Except.bind, pure, Except.pure]
  | false =>
    rw [show (if false = true then [] else ['?']) ++ rest = '?' :: rest from rfl,
      skip_cons hflags (by decide), hflags]
    cases rest with
    | nil => rfl
    | cons c rest =>
      obtain ⟨-, -, hplus, -⟩ := not_quantifier_of_clear hclear
      simp only [Bool.not_true, Bool.false_eq_true, if_false, bind, Except.bind]
      split
      next heq => exact absurd (List.cons.inj heq).1 hplus
      next => rfl

/-- An item with a quantifier behind it. -/
theorem Item.quantified (h : Item cs e) (mark : Char) {lo : Nat} {hi : Option Nat}
    (hmark : ∀ (r : Reader) rest, r.readQuantifier? (mark :: rest) = some ((lo, hi), rest))
    (hparen : mark ≠ '(') (hrep : e.isRepeatable = true) (hhi : hi.any (· < lo) = false)
    (greedy : Bool) :
    Spells 0 (cs ++ mark :: if greedy then [] else ['?']) [.repeated lo hi greedy e] := by
  intro len r rest hflags hnum hdepth hclear
  rw [List.append_assoc, List.cons_append]
  obtain ⟨hfront, hlead⟩ := h len r (mark :: ((if greedy then [] else ['?']) ++ rest)) hflags
  have hpush : (r.push e).flags = {} := (settle_flags r).trans hflags
  have hstep : (r.push e).step len mark ((if greedy then [] else ['?']) ++ rest)
      = .ok ({ r.push e with
          level := (r.push e).level.add (.repeated lo hi greedy e), pending := none }, rest) := by
    unfold step
    simp only [show (r.push e).pending = some e from rfl, hmark]
    exact quantify_of_clear hpush hrep hhi hclear greedy
  refine ⟨hfront, _, ?_, hlead.trans (leads_of_step (skip_cons hpush hparen) hstep ?_)⟩
  · rw [settle_of_none rfl]
    show { r.settle with
      level := r.settle.level.add (.repeated lo hi greedy e), pending := none } = _
    rw [← settle_pending r]
    rfl
  · rw [List.length_append]
    omega

theorem Item.star (h : Item cs e) (hrep : e.isRepeatable = true) :
    Spells 0 (cs ++ ['*']) [.repeated 0 none true e] :=
  h.quantified '*' (fun _ _ => rfl) (by decide) hrep rfl true

theorem Item.lazyStar (h : Item cs e) (hrep : e.isRepeatable = true) :
    Spells 0 (cs ++ ['*', '?']) [.repeated 0 none false e] :=
  h.quantified '*' (fun _ _ => rfl) (by decide) hrep rfl false

theorem Item.plus (h : Item cs e) (hrep : e.isRepeatable = true) :
    Spells 0 (cs ++ ['+']) [.repeated 1 none true e] :=
  h.quantified '+' (fun _ _ => rfl) (by decide) hrep rfl true

theorem Item.optional (h : Item cs e) (hrep : e.isRepeatable = true) :
    Spells 0 (cs ++ ['?']) [.repeated 0 (some 1) true e] :=
  h.quantified '?' (fun _ _ => rfl) (by decide) hrep rfl true

/-! ## Texts that fill parentheses -/

/-- At the beginning of a level, the text is read as an expression that fills it. -/
def Fills (depth : Nat) (cs : List Char) (e : Expr) : Prop :=
  ∀ (len : Nat) (r : Reader) (rest : List Char), r.flags = {} → r.numbered = false →
    r.outer.length + depth < maxDepth → r.settle.level = {} → clear rest = true →
    clear (cs ++ rest) = true ∧ ∃ s l, s.settle = { r.settle with level := l } ∧ l.expr = e ∧
      Leads len r (cs ++ rest) s rest

/-- A level with branches before the one at hand. -/
theorem expr_of_branches (branches items : List Expr) :
    Level.expr { branches := branches, items := items }
      = Expr.alts (branches.reverse ++ [Expr.cats items.reverse]) := by
  unfold Level.expr Level.branch
  rw [List.reverse_cons]

/-- Alternatives, some branches being finished already. -/
theorem alternatives_from :
    ∀ (parts : List (List Char × List Expr)) (first : List Char × List Expr),
      (∀ p ∈ first :: parts, Spells depth p.1 p.2) →
      ∀ (len : Nat) (r : Reader) (rest : List Char) (branches : List Expr), r.flags = {} →
        r.numbered = false → r.outer.length + depth < maxDepth →
        r.settle.level = { branches := branches } → clear rest = true →
        clear (['|'].intercalate ((first :: parts).map (·.1)) ++ rest) = true ∧
        ∃ s l, s.settle = { r.settle with level := l } ∧
          l.expr = Expr.alts (branches.reverse ++ (first :: parts).map (Expr.cats ·.2)) ∧
          Leads len r (['|'].intercalate ((first :: parts).map (·.1)) ++ rest) s rest := by
  intro parts
  induction parts with
  | nil =>
    intro first h len r rest branches hflags hnum hdepth hlevel hclear
    obtain ⟨hfront, s, hs, hlead⟩ := h first List.mem_cons_self len r rest hflags hnum hdepth hclear
    rw [List.map_singleton, List.intercalate_singleton]
    refine ⟨hfront, s, { branches := branches, items := first.2.reverse }, ?_, ?_, hlead⟩
    · rw [hs, put, hlevel, List.append_nil]
    · rw [expr_of_branches, List.reverse_reverse]
      rfl
  | cons second parts ih =>
    intro first h len r rest branches hflags hnum hdepth hlevel hclear
    have htext : ['|'].intercalate ((first :: second :: parts).map (·.1)) ++ rest
        = first.1 ++ '|' :: (['|'].intercalate ((second :: parts).map (·.1)) ++ rest) := by
      simp [List.intercalate]
    rw [htext]
    generalize hmore : ['|'].intercalate ((second :: parts).map (·.1)) ++ rest = more
    obtain ⟨hfront, s, hs, hlead⟩ := h first List.mem_cons_self len r ('|' :: more) hflags hnum
      hdepth rfl
    obtain ⟨hsflags, hsnum, hsouter⟩ := kept_of_settle hs
    -- the bar finishes the first branch
    have hbar : Leads len s ('|' :: more) { s.settle with level := s.settle.level.branch } more :=
      leads_of_item (hsflags ▸ hflags) rfl rfl (Nat.le_refl _)
    have hbranch : s.settle.level.branch = { branches := Expr.cats first.2 :: branches } := by
      rw [hs, put, hlevel, List.append_nil]
      unfold Level.branch
      rw [List.reverse_reverse]
    rw [hbranch] at hbar
    generalize hb : ({ s.settle with
      level := { branches := Expr.cats first.2 :: branches } } : Reader) = b at hbar
    have hbsettle : b.settle = b := by
      rw [← hb]
      exact settle_of_none (settle_pending s)
    obtain ⟨-, t, l, ht, hl, hlead'⟩ := ih second
      (fun p hp => h p (List.mem_cons_of_mem first hp)) len b rest (Expr.cats first.2 :: branches)
      (by rw [← hb]; exact (settle_flags s).trans (hsflags ▸ hflags))
      (by rw [← hb]; exact (settle_numbered s).trans (hsnum ▸ hnum))
      (by rw [← hb]; exact (settle_outer s).symm ▸ hsouter ▸ hdepth)
      (by rw [hbsettle, ← hb]) hclear
    rw [hmore] at hlead'
    refine ⟨hfront, t, l, ?_, ?_, (hlead.trans hbar).trans hlead'⟩
    · rw [ht, hbsettle, ← hb, hs]
      rfl
    · rw [hl, List.reverse_cons, List.append_assoc, List.singleton_append, List.map_cons]
      rfl

/-- Alternatives are read one by one. -/
theorem fills_alternatives {parts : List (List Char × List Expr)} (hne : parts ≠ [])
    (h : ∀ p ∈ parts, Spells depth p.1 p.2) :
    Fills depth (['|'].intercalate (parts.map (·.1))) (Expr.alts (parts.map (Expr.cats ·.2))) := by
  obtain ⟨first, parts, rfl⟩ := List.exists_cons_of_ne_nil hne
  intro len r rest hflags hnum hdepth hlevel hclear
  exact alternatives_from parts first h len r rest [] hflags hnum hdepth hlevel hclear

/-- A text that spells items is read as their sequence. -/
theorem parse_of_spells (h : Spells depth cs items) (hdepth : depth < maxDepth) :
    parse cs = .ok ⟨Expr.cats items, 0, []⟩ := by
  obtain ⟨-, s, hs, hlead⟩ := h (byteLength cs) {} [] rfl rfl (by simpa using hdepth) rfl
  rw [List.append_nil] at hlead
  rw [parse_of_leads hlead]
  have hlevel : s.settle.level.expr = Expr.cats items := by
    rw [hs]
    show Level.expr { branches := [], items := items.reverse ++ [] } = _
    rw [List.append_nil, expr_of_branches, List.reverse_reverse]
    rfl
  unfold finish
  rw [hs] at hlevel ⊢
  exact congrArg (fun e => Except.ok (Source.mk e 0 [])) hlevel

theorem Spells.fills (h : Spells depth cs items) : Fills depth cs (Expr.cats items) := by
  have hone : ∀ p ∈ [(cs, items)], Spells depth p.1 p.2 := by
    intro p hp
    rw [List.mem_singleton.mp hp]
    exact h
  have hfills := fills_alternatives (List.cons_ne_nil _ _) hone
  rw [List.map_singleton, List.map_singleton, List.intercalate_singleton] at hfills
  exact hfills

/-! ## What a step can do -/

/-- The reader with one more level open. -/
def opened (r : Reader) (o : Opening) : Reader :=
  { r with outer := (o, r.level) :: r.outer, level := {} }

/-- A level is opened unless there are too many around it. -/
theorem openLevel_ok_iff {o : Opening} :
    r.openLevel o = .ok s ↔ r.outer.length + 1 < maxDepth ∧ s = r.settle.opened o := by
  unfold openLevel
  dsimp only
  rw [settle_outer]
  split
  next hdepth => exact iff_of_false nofun fun h => absurd h.1 (Nat.not_lt.mpr hdepth)
  next hdepth =>
    rw [opened, settle_outer]
    exact ⟨fun h => ⟨Nat.not_le.mp hdepth, (Except.ok.inj h).symm⟩,
      fun h => congrArg Except.ok h.2.symm⟩

/-- A level is closed if there is one and its end may stand here. -/
theorem closeLevel_ok_iff : r.closeLevel = .ok s ↔
    ∃ o around outer, r.outer = (o, around) :: outer ∧ r.settle.checkNumbers = .ok () ∧
      s = { r.settle with
        flags := o.restored r.settle.flags
        outer := outer
        level := around
        pending := some (o.close r.settle.level.expr) } := by
  unfold closeLevel
  dsimp only
  rw [settle_outer]
  cases houter : r.outer with
  | nil => exact iff_of_false nofun (by rintro ⟨o, around, outer, ⟨⟩, -⟩)
  | cons first outer =>
    obtain ⟨o, around⟩ := first
    constructor
    · intro h
      obtain ⟨⟨⟩, hcheck, h⟩ := bind_eq_ok_iff.mp h
      refine ⟨o, around, outer, rfl, hcheck, (Except.ok.inj h).symm.trans ?_⟩
      cases o <;> rfl
    · rintro ⟨_, _, _, ⟨⟩, hcheck, rfl⟩
      refine bind_eq_ok_iff.mpr ⟨(), hcheck, congrArg Except.ok ?_⟩
      cases o <;> rfl

/-- A group can be referred to if it has been opened. -/
theorem pushBackref_ok_iff {g : Nat} :
    r.pushBackref g = .ok s ↔ g ≤ r.groups ∧ s = r.push (.backref g) := by
  unfold pushBackref
  split
  next hle => exact ⟨fun h => ⟨hle, (Except.ok.inj h).symm⟩, fun h => congrArg Except.ok h.2.symm⟩
  next hle => exact iff_of_false nofun fun h => hle h.1

/-- A name stands for the number of a group. -/
theorem exists_of_pushNamedBackref {name : List Char} (h : r.pushNamedBackref name = .ok s) :
    ∃ g, r.pushBackref g = .ok s := by
  unfold pushNamedBackref at h
  split at h
  · exact ⟨_, h⟩
  · split at h
    · exact ⟨_, h⟩
    · cases h

/-- At the end of an expression no parenthesis is open. -/
theorem finish_ok_iff {source : Source} : t.finish = .ok source ↔
    t.outer = [] ∧ t.settle.checkNumbers = .ok () ∧ source = ⟨t.settle.level.expr,
      t.settle.groups, t.settle.names.map fun (name, i) => (String.ofList name, i)⟩ := by
  unfold finish
  dsimp only
  rw [settle_outer]
  cases t.outer with
  | cons => exact iff_of_false nofun nofun
  | nil =>
    constructor
    · intro h
      obtain ⟨⟨⟩, hcheck, h⟩ := bind_eq_ok_iff.mp h
      exact ⟨rfl, hcheck, (Except.ok.inj h).symm⟩
    · rintro ⟨-, hcheck, rfl⟩
      exact bind_eq_ok_iff.mpr ⟨(), hcheck, rfl⟩

/-! ## Parentheses -/

/-- The text opens a level that captures nothing. -/
def Opens (cs : List Char) (o : Opening) : Prop :=
  ∀ (len : Nat) (r : Reader) (rest : List Char), r.flags = {} →
    r.outer.length + 1 < maxDepth →
    clear (cs ++ rest) = true ∧ Leads len r (cs ++ rest) (r.settle.opened o) rest

theorem openLevel_of_lt {o : Opening} (hdepth : r.outer.length + 1 < maxDepth) :
    r.openLevel o = .ok (r.settle.opened o) :=
  openLevel_ok_iff.mpr ⟨hdepth, rfl⟩

theorem leads_of_readOpen (hflags : r.flags = {}) (hclear : clear ('(' :: cs) = true)
    (hopen : r.readOpen cs = .ok (s, rest)) (hlen : rest.length ≤ cs.length) :
    Leads len r ('(' :: cs) s rest :=
  leads_of_item hflags hclear hopen hlen

theorem opens_parens : Opens ['(', '?', ':'] (.parens {}) := by
  intro len r rest hflags hdepth
  have hread : r.readOpen ('?' :: ':' :: rest) = .ok (r.settle.opened (.parens {}), rest) := by
    unfold readOpen
    rw [skip_cons hflags (by decide)]
    show (do return (← r.settle.openLevel (.parens r.flags), rest)) = _
    rw [openLevel_of_lt (by rw [settle_outer]; exact hdepth), settle_settle, hflags]
    rfl
  exact ⟨rfl, leads_of_readOpen hflags rfl hread (Nat.le_add_right _ 2)⟩

theorem opens_ahead : Opens ['(', '?', '!'] (.look .ahead true) := by
  intro len r rest hflags hdepth
  have hread : r.readOpen ('?' :: '!' :: rest)
      = .ok (r.settle.opened (.look .ahead true), rest) := by
    unfold readOpen
    rw [skip_cons hflags (by decide)]
    show (do return (← r.openLevel (.look .ahead true), rest)) = _
    rw [openLevel_of_lt hdepth]
    rfl
  exact ⟨rfl, leads_of_readOpen hflags rfl hread (Nat.le_add_right _ 2)⟩

theorem opens_behind : Opens ['(', '?', '<', '!'] (.look .behind true) := by
  intro len r rest hflags hdepth
  have hread : r.readOpen ('?' :: '<' :: '!' :: rest)
      = .ok (r.settle.opened (.look .behind true), rest) := by
    unfold readOpen
    rw [skip_cons hflags (by decide)]
    show (do return (← r.openLevel (.look .behind true), rest)) = _
    rw [openLevel_of_lt hdepth]
    rfl
  exact ⟨rfl, leads_of_readOpen hflags rfl hread (Nat.le_add_right _ 3)⟩

/-- A parenthesis closes the innermost level. -/
theorem leads_close {o : Opening} {around : Level} {outer : List (Opening × Level)}
    (hflags : r.flags = {}) (hnum : r.numbered = false) (ho : ∀ f, o = .parens f → f = {})
    (houter : r.outer = (o, around) :: outer) (rest : List Char) :
    Leads len r (')' :: rest) { r.settle with
      outer := outer, level := around, pending := some (o.close r.settle.level.expr) } rest := by
  refine leads_of_item hflags rfl ?_ (Nat.le_refl _)
  show (do return (← r.closeLevel, rest)) = _
  unfold closeLevel
  have hcheck : r.settle.checkNumbers = .ok () := by
    unfold checkNumbers
    rw [settle_numbered, hnum, Bool.and_false, Bool.false_and]
    rfl
  simp only [settle_outer, houter, hcheck]
  cases o with
  | parens f =>
    have hf : f = r.settle.flags := by rw [ho f rfl, settle_flags, hflags]
    rw [hf]
    rfl
  | _ => rfl

/-- What fills parentheses becomes an item when they are closed. -/
theorem Fills.closed (h : Fills depth cs e) {o : Opening} (ho : ∀ f, o = .parens f → f = {})
    (hpending : r.pending = none) (hflags : r.flags = {}) (hnum : r.numbered = false)
    (hdepth : r.outer.length + (depth + 1) < maxDepth) (rest : List Char) :
    Leads len (r.opened o) (cs ++ ')' :: rest) { r with pending := some (o.close e) } rest := by
  have hsettled : (r.opened o).settle = r.opened o := settle_of_none hpending
  obtain ⟨-, s, l, hs, hl, hinner⟩ := h len (r.opened o) (')' :: rest) hflags hnum
    (by rw [opened, List.length_cons]; omega) (by rw [hsettled]; rfl) rfl
  rw [hsettled] at hs
  have hsflags : s.flags = {} := by
    rw [← settle_flags s, hs]
    exact hflags
  have hsnum : s.numbered = false := by
    rw [← settle_numbered s, hs]
    exact hnum
  have hsouter : s.outer = (o, r.level) :: r.outer := by
    rw [← settle_outer s, hs]
    rfl
  have hclose : Leads len s (')' :: rest) _ rest := leads_close hsflags hsnum ho hsouter rest
  rw [hs, show Level.expr _ = e from hl] at hclose
  exact hinner.trans hclose

/-- Parentheses with the expression that fills them. -/
theorem Fills.enclosed (h : Fills depth cs e) {op : List Char} {o : Opening} (hop : Opens op o)
    (ho : ∀ f, o = .parens f → f = {}) (hblank : (o.close e).isBlank = false) :
    Spells (depth + 1) (op ++ (cs ++ [')'])) [o.close e] := by
  intro len r rest hflags hnum hdepth hclear
  rw [List.append_assoc, List.append_assoc, List.singleton_append]
  obtain ⟨hfront, hopen⟩ := hop len r (cs ++ ')' :: rest) hflags (by omega)
  have hclose : Leads len (r.settle.opened o) (cs ++ ')' :: rest) (r.push (o.close e)) rest :=
    h.closed ho (settle_pending r) ((settle_flags r).trans hflags)
      ((settle_numbered r).trans hnum) (by rw [settle_outer]; exact hdepth) rest
  exact ⟨hfront, _, push_settle hblank, hopen.trans hclose⟩

/-! ## Named groups -/

/-- A name that can be given to a group. -/
def IsName (name : List Char) : Prop :=
  name ≠ [] ∧ ∀ c ∈ name, (c.isAlphanum || c == '_') = true

theorem readName_append {name : List Char} (hname : IsName name) (rest : List Char) :
    readName '>' (name ++ '>' :: rest) = .ok (name, rest) := by
  have hall : ∀ c ∈ name, isNameChar c = true := by
    intro c hc
    rw [isNameChar, hname.2 c hc, Bool.true_or]
  exact readName_ok_iff.mpr ⟨rfl, hname.1, hall, by decide⟩

/-- The reader with a group of the given name and contents read. -/
def capture (r : Reader) (name : List Char) (e : Expr) : Reader :=
  { r with groups := r.groups + 1, names := (name, r.groups + 1) :: r.names }.put
    [.group (r.groups + 1) e]

/-- A group with a name is read as a capture. -/
theorem Fills.captured (h : Fills depth cs e) {name : List Char} (hname : IsName name)
    (hflags : r.flags = {}) (hnum : r.numbered = false)
    (hdepth : r.outer.length + (depth + 1) < maxDepth) (rest : List Char) :
    ∃ s, s.settle = r.settle.capture name e ∧
      Leads len r ('(' :: '?' :: 'P' :: '<' :: (name ++ '>' :: (cs ++ ')' :: rest))) s rest := by
  generalize hr' : ({ r.settle with
    groups := r.groups + 1, names := (name, r.groups + 1) :: r.names } : Reader) = r'
  have hsettle : ({ r with
      groups := r.groups + 1, names := (name, r.groups + 1) :: r.names } : Reader).settle = r' := by
    rw [← hr']
    obtain ⟨flags, groups, names, numbered, outer, level, pending⟩ := r
    cases pending <;> rfl
  have hpending : r'.pending = none := by
    rw [← hr']
    exact settle_pending r
  -- the name is given before the level is opened, and so the contents may refer to it
  have hopen : Leads len r ('(' :: '?' :: 'P' :: '<' :: (name ++ '>' :: (cs ++ ')' :: rest)))
      (r'.opened (.group (r.groups + 1))) (cs ++ ')' :: rest) := by
    refine leads_of_readOpen hflags rfl ?_ ?_
    · unfold readOpen
      rw [skip_cons hflags (by decide)]
      show (readName '>' (name ++ '>' :: (cs ++ ')' :: rest)) >>= fun found =>
        do return (← r.openGroup (some found.1), found.2)) = _
      rw [readName_append hname]
      show (do return (← r.openGroup (some name), cs ++ ')' :: rest)) = _
      unfold openGroup
      dsimp only
      rw [openLevel_of_lt (by dsimp only; omega), hsettle]
      rfl
    · simp only [List.length_append, List.length_cons]
      omega
  have hclose : Leads len (r'.opened (.group (r.groups + 1))) (cs ++ ')' :: rest)
      { r' with pending := some (.group (r.groups + 1) e) } rest := by
    have hnoparens : ∀ f, Opening.group (r.groups + 1) = .parens f → f = {} := by rintro _ ⟨⟩
    refine h.closed hnoparens hpending ?_ ?_ ?_ rest
    · rw [← hr']
      exact (settle_flags r).trans hflags
    · rw [← hr']
      exact (settle_numbered r).trans hnum
    · rw [← hr']
      show r.settle.outer.length + (depth + 1) < maxDepth
      rw [settle_outer]
      exact hdepth
  refine ⟨_, ?_, hopen.trans hclose⟩
  have hpush : ({ r' with pending := some (.group (r.groups + 1) e) } : Reader)
      = r'.push (.group (r.groups + 1) e) := by
    rw [push, settle_of_none hpending]
  rw [hpush, push_settle rfl, settle_of_none hpending, ← hr', capture, settle_groups, settle_names]

/-- A reference to a name is read as a reference to the group that has it. -/
theorem leads_reference {name : List Char} (hname : IsName name) {g : Nat} (hflags : r.flags = {})
    (hfound : r.names.lookup name = some g) (hle : g ≤ r.groups) (rest : List Char) :
    Leads len r ('\\' :: 'k' :: '<' :: (name ++ '>' :: rest)) (r.push (.backref g)) rest := by
  have hminus : ∀ tail, name ++ '>' :: rest ≠ '-' :: tail := by
    intro tail h
    obtain ⟨c, name', rfl⟩ := List.exists_cons_of_ne_nil hname.1
    have hc := hname.2 c List.mem_cons_self
    rw [(List.cons.inj h).1] at hc
    exact absurd hc (by decide)
  have hread : r.readBackref '>' (name ++ '>' :: rest) = .ok (r.push (.backref g), rest) := by
    unfold readBackref
    split
    next tail heq => exact absurd heq (hminus tail)
    next =>
      rw [readName_append hname]
      show (do return (← r.pushNamedBackref name, rest)) = _
      unfold pushNamedBackref
      rw [hfound]
      dsimp only
      unfold pushBackref
      rw [if_pos hle]
      rfl
  refine leads_of_item hflags rfl ?_ ?_
  · show r.readBackref '>' (name ++ '>' :: rest) = _
    exact hread
  · simp only [List.length_append, List.length_cons]
    omega

end Reader

end CodeShape.Regex
