import CodeShape.Proofs.Regex.AutomatonSearch
import CodeShape.Proofs.Regex.Ways

/-!
# The automaton of an expression runs along its ways

The runs of `Automaton.ofExpr e` are the ways of `e`, in the same order (`edgeRuns_ofExpr`), as long
as no part of `e` needs backtracking and `e` is `progressing`. Each combinator of fragments has its
own lemma about `Builds`, the statement that a builder of fragments follows given ways; repetitions
without an upper limit need that each round takes a character, so that the automaton, which never
repeats a round that took nothing, drops no way.
-/

namespace CodeShape.Regex

/-- No upper limit of a repetition is below the lower one, and where there is none, each round takes
a character. -/
@[grind =]
def Expr.progressing : Expr → Bool
  | cat a b | alt a b => a.progressing && b.progressing
  | parens e | group _ e | look _ _ e | atomic e => e.progressing
  | repeated lo hi _ e => e.progressing && hi.all (lo ≤ ·) && (hi.isSome || 0 < e.minSize)
  | empty | chars _ | assert _ | backref _ | keepOut | searchStart => true

attribute [grind =] Automaton.leafCount Automaton.fragment Automaton.copies Automaton.optionals

namespace Automaton

variable {a : Automaton} {text : Array Char} {pos : Nat} {slots : Slots}

/-! ## Runs along changed edges -/

theorem edgeRuns_setting (slot : Nat) (edges : List Edge) :
    a.edgeRuns text (edges.map (.setting slot)) pos slots
      = a.edgeRuns text edges pos ((slot, some pos) :: slots) := by
  simp only [edgeRuns, List.flatMap_map]
  rfl

theorem edgeRuns_requiring (cond : Assertion) (edges : List Edge) :
    a.edgeRuns text (edges.map (.requiring cond)) pos slots
      = if cond.holds text pos then a.edgeRuns text edges pos slots else [] := by
  by_cases h : cond.holds text pos = true
  · simp only [edgeRuns, List.flatMap_map, Edge.requiring, List.all_cons, h, Bool.true_and, if_true]
  · simp only [edgeRuns, List.flatMap_map, Edge.requiring, List.all_cons, h, Bool.false_and,
      Bool.false_eq_true, if_false, List.flatMap_eq_nil_iff, implies_true]

theorem edgeRuns_prefer (greedy : Bool) (again onward : List Edge) :
    a.edgeRuns text (prefer greedy again onward) pos slots
      = if greedy then a.edgeRuns text again pos slots ++ a.edgeRuns text onward pos slots
        else a.edgeRuns text onward pos slots ++ a.edgeRuns text again pos slots := by
  cases greedy
  · exact edgeRuns_append onward again
  · exact edgeRuns_append again onward

/-! ## Builders that follow given ways -/

/-- The automaton has the given leaves, numbered from `first` on. -/
def Embedded (a : Automaton) (first : Nat) (leaves : List Leaf) : Prop :=
  ∀ k l, leaves[k]? = some l → a.leaves[first + k]? = some l

theorem Embedded.left {first : Nat} {ls ls' : List Leaf} (h : a.Embedded first (ls ++ ls')) :
    a.Embedded first ls := by
  intro k l hk
  refine h k l ?_
  rw [List.getElem?_append_left (List.getElem?_eq_some_iff.mp hk).1]
  exact hk

theorem Embedded.right {first : Nat} {ls ls' : List Leaf} (h : a.Embedded first (ls ++ ls')) :
    a.Embedded (first + ls.length) ls' := by
  intro k l hk
  have := h (ls.length + k) l (by rw [List.getElem?_append_right (Nat.le_add_right _ _)]; simpa)
  rwa [← Nat.add_assoc] at this

/-- The runs that take one of the ways and then go on along the edges. -/
def runsAfter (a : Automaton) (text : Array Char) (f : Ways) (onward : List Edge) (pos : Nat)
    (slots : Slots) : List Slots :=
  (f pos slots).flatMap fun w => a.edgeRuns text onward w.1 w.2

theorem runsAfter_andThen {f g : Ways} {onward : List Edge} :
    a.runsAfter text (f.andThen g) onward pos slots
      = (f pos slots).flatMap fun w => a.runsAfter text g onward w.1 w.2 := by
  simp only [runsAfter, Ways.andThen, List.flatMap_assoc]

theorem runsAfter_pure {onward : List Edge} :
    a.runsAfter text (fun pos slots => [(pos, slots)]) onward pos slots
      = a.edgeRuns text onward pos slots := by
  simp [runsAfter]

/-- The builder makes `size` leaves, and an automaton that has them runs along the ways `f`. -/
structure Builds (a : Automaton) (text : Array Char) (body : Builder) (size : Nat) (f : Ways) :
    Prop where
  length : ∀ first onward, (body first onward).leaves.length = size
  runs : ∀ first onward, a.Embedded first (body first onward).leaves → ∀ pos slots,
    a.edgeRuns text (body first onward).start pos slots = a.runsAfter text f onward pos slots

theorem builds_pure : Builds a text (fun _ onward => ⟨onward, []⟩) 0 fun pos slots => [(pos, slots)]
    where
  length _ _ := rfl
  runs _ _ _ _ _ := runsAfter_pure.symm

/-- The second builder, its leaves behind those of the first. -/
theorem Builds.andThen {p q : Builder} {m n : Nat} {f g : Ways} (hp : Builds a text p m f)
    (hq : Builds a text q n g) :
    Builds a text (fun first onward =>
      ⟨(p first (q (first + m) onward).start).start,
        (p first (q (first + m) onward).start).leaves ++ (q (first + m) onward).leaves⟩)
      (m + n) (f.andThen g) where
  length first onward := by
    simp only [List.length_append, hp.length, hq.length]
  runs first onward h pos slots := by
    have hright := h.right
    rw [hp.length] at hright
    rw [hp.runs _ _ h.left, runsAfter_andThen, runsAfter]
    refine List.flatMap_congr fun w _ => ?_
    exact hq.runs _ _ hright w.1 w.2

theorem Builds.alt {p q : Builder} {m n : Nat} {f g : Ways} (hp : Builds a text p m f)
    (hq : Builds a text q n g) :
    Builds a text (fun first onward =>
      ⟨(p first onward).start ++ (q (first + m) onward).start,
        (p first onward).leaves ++ (q (first + m) onward).leaves⟩)
      (m + n) (fun pos slots => f pos slots ++ g pos slots) where
  length first onward := by
    simp only [List.length_append, hp.length, hq.length]
  runs first onward h pos slots := by
    have hright := h.right
    rw [hp.length] at hright
    rw [edgeRuns_append, hp.runs _ _ h.left, hq.runs _ _ hright]
    simp only [runsAfter, List.flatMap_append]

theorem Builds.captured {p : Builder} {m : Nat} {f : Ways} (hp : Builds a text p m f) (i : Nat) :
    Builds a text (fun first onward =>
      ⟨(p first (onward.map (.setting (2 * i + 1)))).start.map (.setting (2 * i)),
        (p first (onward.map (.setting (2 * i + 1)))).leaves⟩)
      m (f.captured i) where
  length first onward := hp.length _ _
  runs first onward h pos slots := by
    rw [edgeRuns_setting, hp.runs _ _ h, runsAfter, runsAfter, Ways.captured, List.flatMap_map]
    refine List.flatMap_congr fun w _ => ?_
    exact edgeRuns_setting (2 * i + 1) onward

/-! ## Repetitions with an upper limit -/

theorem Builds.copies {body : Builder} {size : Nat} {f : Ways} (hb : Builds a text body size f)
    (isOpen greedy : Bool) (since : Option Nat) :
    ∀ n, Builds a text (copies size body n) (n * size) (f.rounds isOpen greedy n 0 since)
  | 0 => by
    rw [Nat.zero_mul, Ways.rounds_zero_zero]
    exact builds_pure
  | n + 1 => by
    rw [Ways.rounds_need, Nat.succ_mul, Nat.add_comm (n * size)]
    exact hb.andThen (Builds.copies hb isOpen greedy since n)

theorem Builds.optionals {body : Builder} {size : Nat} {f : Ways} (hb : Builds a text body size f)
    (greedy : Bool) :
    ∀ n since, Builds a text (optionals greedy size body n) (n * size)
      (f.rounds false greedy 0 n since)
  | 0, since => by
    rw [Nat.zero_mul, Ways.rounds_zero_zero]
    exact builds_pure
  | n + 1, since => by
    rw [Nat.succ_mul, Nat.add_comm (n * size)]
    constructor
    · intro first onward
      simp only [Automaton.optionals, List.length_append, hb.length,
        (Builds.optionals hb greedy n since).length]
    · intro first onward h pos slots
      have hrest := hb.andThen (Builds.optionals hb greedy n (some pos))
      have hagain := hrest.runs first onward h pos slots
      simp only [Automaton.optionals, edgeRuns_prefer]
      rw [hagain, runsAfter, runsAfter, Ways.rounds_more false greedy n since rfl]
      cases greedy
      · simp
      · simp [List.flatMap_append]

/-! ## Repetitions without an upper limit -/

/-- What a body has to be like so that it may be repeated without limit: each round takes a
character, and where a round begins does not depend on what follows it. -/
structure Repeatable (text : Array Char) (body : Builder) (f : Ways) : Prop where
  advances : ∀ pos slots, ∀ w ∈ f pos slots, pos < w.1 ∧ w.1 ≤ text.size
  start : ∀ first onward, (body first onward).start = (body first []).start

/-- Going round again, or onward. -/
def loopEdges (greedy : Bool) (body : Builder) (first : Nat) (onward : List Edge) : List Edge :=
  prefer greedy (body first []).start onward

/-- The loop edges run along all rounds that may follow. -/
theorem edgeRuns_loopEdges {body : Builder} {size : Nat} {f : Ways}
    (hb : Builds a text body size f) (hr : Repeatable text body f) (greedy : Bool) (first : Nat)
    (onward : List Edge)
    (h : a.Embedded first (body first (loopEdges greedy body first onward)).leaves) :
    ∀ (more pos : Nat) (since : Option Nat) (slots : Slots), text.size < pos + more →
      since ≠ some pos →
      a.edgeRuns text (loopEdges greedy body first onward) pos slots
        = a.runsAfter text (f.rounds true greedy 0 more since) onward pos slots := by
  intro more
  induction more with
  | zero =>
    intro pos since slots hsize _
    -- a round would have to take a character behind the end of the text
    have hnil : f pos slots = [] := by
      rw [List.eq_nil_iff_forall_not_mem]
      intro w hw
      have := hr.advances pos slots w hw
      omega
    have hstart : a.edgeRuns text (body first []).start pos slots = [] := by
      rw [← hr.start first (loopEdges greedy body first onward), hb.runs _ _ h, runsAfter, hnil]
      rfl
    rw [loopEdges, edgeRuns_prefer, hstart, Ways.rounds_zero_zero, runsAfter_pure]
    cases greedy <;> simp
  | succ more ih =>
    intro pos since slots hsize hsince
    -- by the induction hypothesis, the loop edges behind a round run along the rounds after it
    have hround : a.edgeRuns text (body first []).start pos slots
        = a.runsAfter text (f.andThen (f.rounds true greedy 0 more (some pos))) onward pos
          slots := by
      rw [← hr.start first (loopEdges greedy body first onward), hb.runs _ _ h, runsAfter_andThen,
        runsAfter]
      refine List.flatMap_congr fun w hw => ?_
      have := hr.advances pos slots w hw
      refine ih w.1 (some pos) w.2 (by omega) ?_
      intro heq
      injection heq with heq
      omega
    -- the last round took something, or there was none: one more is not refused
    have hneq : (true && since == some pos) = false := by
      rw [Bool.true_and, beq_eq_false_iff_ne]
      exact hsince
    rw [loopEdges, edgeRuns_prefer, hround, runsAfter, runsAfter, Ways.rounds_more _ _ _ _ hneq]
    cases greedy
    · simp
    · simp [List.flatMap_append]

theorem Builds.star {body : Builder} {size : Nat} {f : Ways} (hb : Builds a text body size f)
    (hr : Repeatable text body f) (greedy : Bool) :
    Builds a text (star greedy body) size
      (f.rounds true greedy 0 (text.size + 2) none) where
  length first onward := hb.length _ _
  runs first onward h pos slots := by
    have hways : (Automaton.star greedy body first onward).start
        = loopEdges greedy body first onward := by
      cases greedy
      · rfl
      · simp only [Automaton.star, if_true, hr.start first onward]
        rfl
    rw [hways]
    exact edgeRuns_loopEdges hb hr greedy first onward h _ pos none slots (by omega) nofun

theorem Builds.plus {body : Builder} {size : Nat} {f : Ways} (hb : Builds a text body size f)
    (hr : Repeatable text body f) (greedy : Bool) :
    Builds a text (plus greedy body) size
      (f.andThen (f.rounds true greedy 0 (text.size + 2) none)) where
  length first onward := hb.length _ _
  runs first onward h pos slots := by
    have hstart : (Automaton.plus greedy body first onward).start
        = (body first (loopEdges greedy body first onward)).start := by
      rw [hr.start first (loopEdges greedy body first onward)]
      exact hr.start first onward
    have hruns := hb.runs first (loopEdges greedy body first onward) h pos slots
    rw [hstart, hruns, runsAfter_andThen, runsAfter]
    refine List.flatMap_congr fun w _ => ?_
    exact edgeRuns_loopEdges hb hr greedy first onward h _ w.1 none w.2 (by omega) nofun

/-! ## The fragment of an expression -/

/-- Where an expression begins that takes a character does not depend on what follows it. -/
theorem start_fragment_congr (e : Expr) (h : 0 < e.minSize) (first : Nat) (es es' : List Edge) :
    (fragment e first es).start = (fragment e first es').start := by
  induction e generalizing first es es' with
  | chars s => rfl
  | cat a b iha ihb =>
    simp only [fragment]
    -- the first part decides if it takes a character, else the second one does
    rcases Nat.eq_zero_or_pos a.minSize with ha | ha
    · rw [ihb (by simp only [Expr.minSize] at h; omega) _ es es']
    · exact iha ha _ _ _
  | alt a b iha ihb =>
    simp only [Expr.minSize] at h
    simp only [fragment]
    rw [iha (by omega) _ es es', ihb (by omega) _ es es']
  | parens e ih => exact ih h first es es'
  | atomic e ih => exact ih h first es es'
  | group i e ih =>
    simp only [fragment]
    rw [ih h first _ (es'.map (.setting (2 * i + 1)))]
  | repeated lo hi greedy e ih =>
    rw [Expr.minSize] at h
    have he : 0 < e.minSize := Nat.pos_of_mul_pos_left h
    obtain ⟨n, rfl⟩ : ∃ n, lo = n + 1 :=
      Nat.exists_eq_succ_of_ne_zero (Nat.ne_of_gt (Nat.pos_of_mul_pos_right h))
    cases hi with
    | some hi => exact ih he first _ _
    | none =>
      simp only [fragment]
      cases n with
      | zero =>
        simp only [copies, plus]
        exact ih he _ _ _
      | succ n => exact ih he first _ _
  | empty | assert _ | look _ _ _ | backref _ | keepOut | searchStart =>
    exact absurd h (Nat.lt_irrefl 0)

/-- The fragment of an expression runs along its ways. -/
theorem builds_fragment {recalled : List Nat} (a : Automaton) (t : Subject) (e : Expr)
    (hreg : e.needsBacktracking recalled = false) (hprog : e.progressing = true) :
    Builds a t.text (fragment e) (leafCount e) (e.ways t) := by
  -- the fragment of each constructor is built from those of its parts by one of the lemmas above
  induction e with
  | empty => exact builds_pure
  | chars set =>
    constructor
    · intro first onward
      rfl
    · intro first onward h pos slots
      -- the only leaf is taken where the character at hand is one of the set
      have hleaf : a.leaves[first]? = some ⟨set, onward⟩ := h 0 _ rfl
      have henter : a.edgeRuns t.text [⟨some first, [], []⟩] pos slots
          = a.runs t.text first pos slots := edgeRuns_enter rfl rfl
      rw [show (fragment (.chars set) first onward).start = [⟨some first, [], []⟩] from rfl, henter,
        runsAfter]
      simp only [Expr.ways]
      rcases Nat.lt_or_ge pos t.text.size with hlt | hge
      · rw [runs_of_lt hlt, hleaf, Array.getElem?_eq_getElem hlt]
        dsimp only
        split
        · simp
        · rfl
      · rw [runs_of_size_le hge, Array.getElem?_eq_none hge]
        rfl
  | assert cond =>
    constructor
    · intro first onward
      rfl
    · intro first onward _ pos slots
      rw [show (fragment (.assert cond) first onward).start = onward.map (.requiring cond) from rfl,
        edgeRuns_requiring, runsAfter]
      simp only [Expr.ways]
      split
      · simp
      · rfl
  | cat p q ihp ihq =>
    simp only [Expr.needsBacktracking, Bool.or_eq_false_iff] at hreg
    simp only [Expr.progressing, Bool.and_eq_true] at hprog
    exact (ihp hreg.1 hprog.1).andThen (ihq hreg.2 hprog.2)
  | alt p q ihp ihq =>
    simp only [Expr.needsBacktracking, Bool.or_eq_false_iff] at hreg
    simp only [Expr.progressing, Bool.and_eq_true] at hprog
    exact (ihp hreg.1 hprog.1).alt (ihq hreg.2 hprog.2)
  | parens e ih => exact ih hreg hprog
  | group i e ih =>
    simp only [Expr.needsBacktracking, Bool.or_eq_false_iff] at hreg
    exact (ih hreg.2 hprog).captured i
  | repeated lo hi greedy e ih =>
    simp only [Expr.progressing, Bool.and_eq_true, Bool.or_eq_true, decide_eq_true_eq] at hprog
    have hb := ih hreg hprog.1.1
    cases hi with
    | some hi =>
      -- copies of what has to follow, then optional ones
      have hle : lo ≤ hi := by simpa using hprog.1.2
      have h := (hb.copies false greedy none lo).andThen (hb.optionals greedy (hi - lo) none)
      rw [← Ways.rounds_eq_andThen, ← Nat.add_mul, Nat.add_sub_cancel' hle] at h
      exact h
    | none =>
      -- an open repetition becomes a loop, since every round takes a character
      have hpos : 0 < e.minSize := by simpa using hprog.2
      have hr : Repeatable t.text (fragment e) (e.ways t) := by
        constructor
        · intro pos slots w hw
          have h₁ := Expr.minSize_le_of_mem_ways t e pos slots w hw
          have h₂ := Expr.ways_within t e pos slots w hw
          omega
        · exact fun first onward => start_fragment_congr e hpos first onward []
      cases lo with
      | zero =>
        have h := hb.star hr greedy
        rw [← Nat.one_mul (leafCount e)] at h
        exact h
      | succ lo =>
        have h := (hb.copies true greedy none lo).andThen (hb.plus hr greedy)
        rw [← Ways.rounds_succ_eq_andThen, ← Nat.succ_mul] at h
        simp only [leafCount, Option.getD_none, Nat.max_eq_left (Nat.le_add_left 1 lo)]
        exact h
  | look _ _ _ _ | backref _ | atomic _ _ | keepOut | searchStart =>
    simp only [Expr.needsBacktracking, Bool.true_eq_false] at hreg

/-- The runs of the automaton of an expression are its ways, in the same order. -/
theorem edgeRuns_ofExpr {recalled : List Nat} (t : Subject) (e : Expr)
    (hreg : e.needsBacktracking recalled = false) (hprog : e.progressing = true) (pos : Nat)
    (slots : Slots) :
    (ofExpr e).edgeRuns t.text (ofExpr e).start pos slots
      = (e.ways t pos slots).map fun w => complete w.2 w.1 := by
  have hembed : (ofExpr e).Embedded 0 (fragment e 0 [.accept]).leaves := by
    intro k l hk
    rw [Nat.zero_add, ofExpr, List.getElem?_toArray]
    exact hk
  have h := (builds_fragment (ofExpr e) t e hreg hprog).runs 0 [.accept] hembed pos slots
  rw [ofExpr] at h ⊢
  rw [h, runsAfter, List.map_eq_flatMap]
  rfl

end Automaton

end CodeShape.Regex
