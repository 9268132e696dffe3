import CodeShape.Proofs.Regex.PlanWays

/-!
# What an expression takes

`Occurs` says that some characters are what a text holds from one position to another. `Takes` says
which characters some ways take, whatever stands around them and whatever slots are set, and that
they leave the slots alone: they end exactly where such characters do. The expressions of words and
of classes of words are put together from single characters, and so is what they take.
-/

namespace CodeShape.Regex

/-- The characters `cs` are what the text holds from position `i` up to position `j`. -/
structure Occurs (text : Array Char) (cs : List Char) (i j : Nat) : Prop where
  le : i ≤ j
  le_size : j ≤ text.size
  eq : (text.extract i j).toList = cs

section Occurs

variable {text : Array Char} {cs ds : List Char} {i j k : Nat} {c : Char}

/-- Character by character. -/
theorem occurs_iff :
    Occurs text cs i j ↔
      j = i + cs.length ∧ j ≤ text.size ∧ ∀ k, k < cs.length → text[i + k]? = cs[k]? := by
  constructor
  · intro h
    obtain ⟨hle, hsize, rfl⟩ := h
    have hlen : (text.extract i j).toList.length = j - i := by
      rw [Array.length_toList, Array.size_extract]
      omega
    refine ⟨by omega, hsize, fun k hk => ?_⟩
    rw [Array.getElem?_toList, Array.getElem?_extract, if_pos (by omega)]
  · intro h
    obtain ⟨rfl, hsize, hget⟩ := h
    refine ⟨Nat.le_add_right _ _, hsize, List.ext_getElem? fun k => ?_⟩
    rw [Array.getElem?_toList]
    rw [Array.getElem?_extract]
    rcases Nat.lt_or_ge k cs.length with hk | hk
    · rw [if_pos (by omega), hget k hk]
    · rw [if_neg (by omega), List.getElem?_eq_none hk]

theorem occurs_nil : Occurs text [] i j ↔ j = i ∧ i ≤ text.size := by
  rw [occurs_iff]
  constructor
  · intro h
    obtain ⟨rfl, hsize, -⟩ := h
    exact ⟨rfl, hsize⟩
  · intro h
    obtain ⟨rfl, hsize⟩ := h
    exact ⟨rfl, hsize, fun k hk => absurd hk (Nat.not_lt_zero k)⟩

theorem occurs_cons :
    Occurs text (c :: cs) i j ↔ text[i]? = some c ∧ Occurs text cs (i + 1) j := by
  rw [occurs_iff, occurs_iff, List.length_cons]
  constructor
  · intro h
    obtain ⟨hj, hsize, hget⟩ := h
    refine ⟨hget 0 (Nat.succ_pos _), by omega, hsize, fun k hk => ?_⟩
    have := hget (k + 1) (by omega)
    rw [List.getElem?_cons_succ] at this
    rw [← this, show i + (k + 1) = i + 1 + k by omega]
  · intro h
    obtain ⟨hc, hj, hsize, hget⟩ := h
    refine ⟨by omega, hsize, fun k hk => ?_⟩
    cases k with
    | zero => exact hc
    | succ k =>
      rw [List.getElem?_cons_succ, ← hget k (by omega), show i + (k + 1) = i + 1 + k by omega]

theorem occurs_append :
    Occurs text (cs ++ ds) i k ↔ ∃ j, Occurs text cs i j ∧ Occurs text ds j k := by
  induction cs generalizing i with
  | nil =>
    rw [List.nil_append]
    constructor
    · intro h
      exact ⟨i, occurs_nil.mpr ⟨rfl, Nat.le_trans h.le h.le_size⟩, h⟩
    · intro h
      obtain ⟨j, hnil, h⟩ := h
      rw [← (occurs_nil.mp hnil).1]
      exact h
  | cons c cs ih =>
    rw [List.cons_append, occurs_cons, ih]
    constructor
    · intro h
      obtain ⟨hc, j, hcs, hds⟩ := h
      exact ⟨j, occurs_cons.mpr ⟨hc, hcs⟩, hds⟩
    · intro h
      obtain ⟨j, hcs, hds⟩ := h
      obtain ⟨hc, hcs⟩ := occurs_cons.mp hcs
      exact ⟨hc, j, hcs, hds⟩

theorem occurs_singleton : Occurs text [c] i j ↔ text[i]? = some c ∧ j = i + 1 := by
  rw [occurs_cons, occurs_nil]
  constructor
  · intro h
    obtain ⟨hc, hj, -⟩ := h
    exact ⟨hc, hj⟩
  · intro h
    obtain ⟨hc, hj⟩ := h
    exact ⟨hc, hj, (Array.getElem?_eq_some_iff.mp hc).1⟩

theorem occurs_extract (hle : i ≤ j) (hsize : j ≤ text.size) :
    Occurs text (text.extract i j).toList i j :=
  ⟨hle, hsize, rfl⟩

theorem Occurs.length_eq (h : Occurs text cs i j) : j = i + cs.length :=
  (occurs_iff.mp h).1

theorem Occurs.chars_eq (h : Occurs text cs i j) (h' : Occurs text ds i j) : cs = ds :=
  h.eq.symm.trans h'.eq

/-- What occurs in a text stands between what comes before it and what comes behind it. -/
theorem occurs_toArray_iff {whole : List Char} :
    Occurs whole.toArray cs i j ↔
      ∃ front back, whole = front ++ (cs ++ back) ∧ i = front.length ∧ j = i + cs.length := by
  constructor
  · intro h
    have hj := h.length_eq
    have hsize := h.le_size
    rw [List.size_toArray] at hsize
    have hcs : (whole.drop i).take cs.length = cs := by
      have heq := h.eq
      rw [Array.toList_extract, List.extract_eq_take_drop, hj, Nat.add_sub_cancel_left] at heq
      exact heq
    refine ⟨whole.take i, (whole.drop i).drop cs.length, ?_, ?_, hj⟩
    · have hrest := List.take_append_drop cs.length (whole.drop i)
      rw [hcs] at hrest
      rw [hrest, List.take_append_drop]
    · rw [List.length_take]
      omega
  · intro h
    obtain ⟨front, back, rfl, rfl, rfl⟩ := h
    refine ⟨Nat.le_add_right _ _, ?_, ?_⟩
    · simp
    · simp [List.extract_eq_take_drop]

end Occurs

/-- What occurred once stands wherever it occurs again. -/
theorem Subject.standsAt_iff {t : Subject} {cs : List Char} {a z pos : Nat}
    (h : Occurs t.text cs a z) (hpos : pos ≤ t.text.size) :
    t.standsAt (a, z) pos = true ↔ Occurs t.text cs pos (pos + (z - a)) := by
  obtain ⟨hz, hsize, hget⟩ := occurs_iff.mp h
  have hlen : z - a = cs.length := by omega
  unfold standsAt
  rw [List.all_eq_true, occurs_iff]
  simp only [List.mem_range, Bool.and_eq_true, beq_iff_eq, hlen]
  constructor
  · intro hall
    have hread : ∀ k, k < cs.length → t.text[pos + k]? = cs[k]? := by
      intro k hk
      rw [← (hall k hk).2]
      exact hget k hk
    refine ⟨trivial, ?_, hread⟩
    rcases Nat.eq_zero_or_pos cs.length with hzero | hone
    · omega
    · -- the last character is there
      have hlast := hread (cs.length - 1) (by omega)
      rw [List.getElem?_eq_getElem (by omega)] at hlast
      have := (Array.getElem?_eq_some_iff.mp hlast).1
      omega
  · rintro ⟨-, -, hread⟩ k hk
    rw [hget k hk, hread k hk, List.getElem?_eq_getElem hk]
    exact ⟨rfl, rfl⟩

/-! ## What ways take -/

namespace Ways

/-- From within the text, the ways lead to the ends of such characters as `L` admits and set no
slots. -/
def Takes (text : Array Char) (f : Ways) (L : List Char → Prop) : Prop :=
  ∀ i slots w, i ≤ text.size →
    (w ∈ f i slots ↔ w.2 = slots ∧ ∃ cs, Occurs text cs i w.1 ∧ L cs)

variable {text : Array Char} {f g : Ways} {L M : List Char → Prop}

theorem Takes.congr (h : Takes text f L) (hLM : ∀ cs, L cs ↔ M cs) : Takes text f M := by
  intro i slots w hi
  rw [h i slots w hi]
  simp only [hLM]

theorem takes_pure (text : Array Char) : Takes text (fun pos slots => [(pos, slots)]) (· = []) := by
  intro i slots w hi
  rw [List.mem_singleton]
  constructor
  · intro h
    subst h
    exact ⟨rfl, [], occurs_nil.mpr ⟨rfl, hi⟩, rfl⟩
  · intro h
    obtain ⟨rfl, cs, hcs, rfl⟩ := h
    rw [← (occurs_nil.mp hcs).1]

theorem Takes.andThen (hf : Takes text f L) (hg : Takes text g M) :
    Takes text (f.andThen g) fun cs => ∃ as bs, cs = as ++ bs ∧ L as ∧ M bs := by
  intro i slots w hi
  rw [Ways.mem_andThen]
  constructor
  · intro h
    obtain ⟨v, hv, hw⟩ := h
    obtain ⟨hslots, as, has, hL⟩ := (hf i slots v hi).mp hv
    obtain ⟨hslots', bs, hbs, hM⟩ := (hg v.1 v.2 w has.le_size).mp hw
    exact ⟨hslots'.trans hslots, as ++ bs, occurs_append.mpr ⟨v.1, has, hbs⟩, as, bs, rfl, hL, hM⟩
  · intro h
    obtain ⟨hslots, cs, hcs, as, bs, rfl, hL, hM⟩ := h
    obtain ⟨j, has, hbs⟩ := occurs_append.mp hcs
    exact ⟨(j, slots), (hf i slots (j, slots) hi).mpr ⟨rfl, as, has, hL⟩,
      (hg j slots w has.le_size).mpr ⟨hslots, bs, hbs, hM⟩⟩

theorem Takes.append (hf : Takes text f L) (hg : Takes text g M) :
    Takes text (fun pos slots => f pos slots ++ g pos slots) fun cs => L cs ∨ M cs := by
  intro i slots w hi
  rw [List.mem_append, hf i slots w hi, hg i slots w hi]
  constructor
  · intro h
    rcases h with ⟨hslots, cs, hcs, hL⟩ | ⟨hslots, cs, hcs, hM⟩
    · exact ⟨hslots, cs, hcs, Or.inl hL⟩
    · exact ⟨hslots, cs, hcs, Or.inr hM⟩
  · intro h
    rcases h with ⟨hslots, cs, hcs, hL | hM⟩
    · exact Or.inl ⟨hslots, cs, hcs, hL⟩
    · exact Or.inr ⟨hslots, cs, hcs, hM⟩

end Ways

variable {t : Subject} {set : CharSet}

theorem takes_chars (t : Subject) (set : CharSet) :
    ((Expr.chars set).ways t).Takes t.text fun cs => ∃ c, cs = [c] ∧ set.contains c = true := by
  intro i slots w hi
  simp only [Expr.ways]
  constructor
  · intro hw
    split at hw
    next c hc =>
      split at hw
      next hset =>
        rw [List.mem_singleton.mp hw]
        exact ⟨rfl, [c], occurs_singleton.mpr ⟨hc, rfl⟩, c, rfl, hset⟩
      next => exact absurd hw List.not_mem_nil
    next => exact absurd hw List.not_mem_nil
  · intro h
    obtain ⟨rfl, cs, hcs, c, rfl, hset⟩ := h
    obtain ⟨hc, hj⟩ := occurs_singleton.mp hcs
    rw [hc]
    dsimp only
    rw [if_pos hset, ← hj]
    exact List.mem_singleton.mpr rfl

/-- The ways of one character after the other. -/
theorem takes_word (t : Subject) (word : List Char) :
    (Expr.cats (word.map fun c => .chars (.single c))).ways t |>.Takes t.text (· = word) := by
  rw [Expr.ways_cats]
  induction word with
  | nil => exact Ways.takes_pure t.text
  | cons c word ih =>
    refine ((takes_chars t (.single c)).andThen ih).congr fun cs => ?_
    constructor
    · intro h
      obtain ⟨as, bs, rfl, ⟨d, rfl, hd⟩, rfl⟩ := h
      rw [CharSet.contains_single, beq_iff_eq] at hd
      rw [hd]
      rfl
    · intro h
      subst h
      exact ⟨[c], word, rfl, ⟨c, rfl, by rw [CharSet.contains_single, beq_self_eq_true]⟩, rfl⟩

/-- The ways of alternatives are those of all of them. -/
theorem takes_alts {α : Type} (t : Subject) (expr : α → Expr) (L : α → List Char → Prop)
    {choices : List α} (hne : choices ≠ [])
    (h : ∀ a ∈ choices, ((expr a).ways t).Takes t.text (L a)) :
    ((Expr.alts (choices.map expr)).ways t).Takes t.text fun cs => ∃ a ∈ choices, L a cs := by
  induction choices with
  | nil => exact absurd rfl hne
  | cons a choices ih =>
    have hfirst := h a List.mem_cons_self
    cases choices with
    | nil =>
      refine hfirst.congr fun cs => ?_
      simp only [List.mem_singleton, exists_eq_left]
    | cons b choices =>
      have hrest := ih nofun fun c hc => h c (List.mem_cons_of_mem a hc)
      refine (hfirst.append hrest).congr fun cs => ?_
      simp only [List.exists_mem_cons_iff]

/-! ### Repetitions -/

/-- Rounds of one character each that may follow. -/
theorem takes_rounds (t : Subject) (set : CharSet) (greedy : Bool) :
    ∀ (more i : Nat) (since : Option Nat) (slots : Slots) (w : Way), i ≤ t.text.size →
      t.text.size < i + more → since ≠ some i →
      (w ∈ ((Expr.chars set).ways t).rounds true greedy 0 more since i slots ↔
        w.2 = slots ∧ ∃ cs, Occurs t.text cs i w.1 ∧ ∀ c ∈ cs, set.contains c = true) := by
  intro more
  induction more with
  | zero => omega
  | succ more ih =>
    intro i since slots w hi hmore hsince
    -- a round of one character is never empty, and so it never stops the repetition
    have hgo : (true && since == some i) = false := by
      rw [Bool.true_and, beq_eq_false_iff_ne]
      exact hsince
    have hmem : w ∈ ((Expr.chars set).ways t).rounds true greedy 0 (more + 1) since i slots ↔
        w = (i, slots) ∨ w ∈ ((Expr.chars set).ways t).andThen
          (((Expr.chars set).ways t).rounds true greedy 0 more (some i)) i slots := by
      rw [Ways.rounds_more _ _ _ _ hgo]
      cases greedy with
      | true => rw [if_pos rfl, List.mem_append, List.mem_singleton, or_comm]
      | false => rw [if_neg Bool.false_ne_true, List.mem_cons]
    rw [hmem, Ways.mem_andThen]
    constructor
    · intro h
      rcases h with rfl | ⟨v, hv, hw⟩
      · exact ⟨rfl, [], occurs_nil.mpr ⟨rfl, hi⟩, fun c hc => absurd hc List.not_mem_nil⟩
      · obtain ⟨hslots, _, hone, c, rfl, hc⟩ := (takes_chars t set i slots v hi).mp hv
        have hv1 := (occurs_singleton.mp hone).2
        obtain ⟨hslots', cs, hcs, hall⟩ := (ih v.1 (some i) v.2 w hone.le_size (by omega)
          (by simp only [ne_eq, Option.some.injEq]; omega)).mp hw
        refine ⟨hslots'.trans hslots, c :: cs, ?_, List.forall_mem_cons.mpr ⟨hc, hall⟩⟩
        show Occurs t.text ([c] ++ cs) i w.1
        exact occurs_append.mpr ⟨v.1, hone, hcs⟩
    · intro h
      obtain ⟨hslots, cs, hcs, hall⟩ := h
      cases cs with
      | nil =>
        left
        exact Prod.ext (occurs_nil.mp hcs).1 hslots
      | cons c cs =>
        right
        obtain ⟨hc, hrest⟩ := occurs_cons.mp hcs
        obtain ⟨hset, hall⟩ := List.forall_mem_cons.mp hall
        have hlt := (Array.getElem?_eq_some_iff.mp hc).1
        refine ⟨(i + 1, slots), (takes_chars t set i slots _ hi).mpr
          ⟨rfl, [c], occurs_singleton.mpr ⟨hc, rfl⟩, c, rfl, hset⟩, ?_⟩
        exact (ih (i + 1) (some i) slots w hlt (by omega) (by simp)).mpr
          ⟨hslots, cs, hrest, hall⟩

theorem takes_star (t : Subject) (set : CharSet) (greedy : Bool) :
    ((Expr.repeated 0 none greedy (.chars set)).ways t).Takes t.text
      fun cs => ∀ c ∈ cs, set.contains c = true := by
  intro i slots w hi
  exact takes_rounds t set greedy (t.text.size + 2) i none slots w hi (by omega) nofun

theorem takes_plus (t : Subject) (set : CharSet) (greedy : Bool) :
    ((Expr.repeated 1 none greedy (.chars set)).ways t).Takes t.text
      fun cs => cs ≠ [] ∧ ∀ c ∈ cs, set.contains c = true := by
  have hsplit : (Expr.repeated 1 none greedy (.chars set)).ways t
      = ((Expr.chars set).ways t).andThen
          ((Expr.repeated 0 none greedy (.chars set)).ways t) :=
    Ways.rounds_need true greedy 0 (t.text.size + 2) none
  rw [hsplit]
  refine ((takes_chars t set).andThen (takes_star t set greedy)).congr fun cs => ?_
  constructor
  · intro h
    obtain ⟨as, bs, rfl, ⟨c, rfl, hc⟩, hbs⟩ := h
    exact ⟨nofun, List.forall_mem_cons.mpr ⟨hc, hbs⟩⟩
  · intro h
    obtain ⟨hne, hall⟩ := h
    obtain ⟨c, cs, rfl⟩ := List.exists_cons_of_ne_nil hne
    obtain ⟨hc, hall⟩ := List.forall_mem_cons.mp hall
    exact ⟨[c], cs, rfl, ⟨c, rfl, hc⟩, hall⟩

theorem takes_optional (t : Subject) (set : CharSet) :
    ((Expr.repeated 0 (some 1) true (.chars set)).ways t).Takes t.text
      fun cs => cs = [] ∨ ∃ c, cs = [c] ∧ set.contains c = true := by
  have hsplit : (Expr.repeated 0 (some 1) true (.chars set)).ways t
      = fun pos slots => (Expr.chars set).ways t pos slots ++ [(pos, slots)] := by
    funext pos slots
    show ((Expr.chars set).ways t).rounds false true 0 1 none pos slots = _
    rw [Ways.rounds_more _ _ _ _ rfl, if_pos rfl, Ways.rounds_zero_zero, Ways.andThen_pure]
  rw [hsplit]
  refine ((takes_chars t set).append (Ways.takes_pure t.text)).congr fun cs => ?_
  exact or_comm

end CodeShape.Regex
