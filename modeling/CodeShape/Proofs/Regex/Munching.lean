import CodeShape.Proofs.Regex.Cursor
import CodeShape.Proofs.Regex.Order
import CodeShape.Proofs.Regex.Reading
import CodeShape.Proofs.Regex.Spending

/-!
# Words from left to right

Where words are looked for, a scan takes them by maximal munch: the leftmost place at which a word
stands, there the longest word, and so on from its end (`Munches`). A searcher whose expression
takes words that are not empty, the longer ones first, scans a text like that (`Seeks.munches`). If
its budget does not last, what it has found until then is what the whole scan begins with
(`Seeks.places_prefix`).
-/

namespace CodeShape.Regex

/-- From a position on, words are taken one after the other: always the leftmost place at which one
stands, there the longest one, and then on from where it ends, until no more stand behind. -/
inductive Munches (Stands : Nat → Nat → Prop) : Nat → List (Nat × Nat) → Prop
  | done {i : Nat} (hnone : ∀ p j, i ≤ p → ¬ Stands p j) : Munches Stands i []
  | taken {i p j : Nat} {places : List (Nat × Nat)} (hle : i ≤ p) (hstands : Stands p j)
      (hleftmost : ∀ q k, i ≤ q → Stands q k → p ≤ q) (hlongest : ∀ k, Stands p k → k ≤ j)
      (rest : Munches Stands j places) : Munches Stands i ((p, j) :: places)

namespace Munches

variable {Stands : Nat → Nat → Prop} {i : Nat} {places places' : List (Nat × Nat)}

/-- The longest word at the leftmost place is the one that is taken first. -/
theorem first_taken (h : Munches Stands i places) {p j : Nat} (hle : i ≤ p) (hstands : Stands p j)
    (hleftmost : ∀ q k, i ≤ q → Stands q k → p ≤ q) (hlongest : ∀ k, Stands p k → k ≤ j) :
    ∃ rest, places = (p, j) :: rest ∧ Munches Stands j rest := by
  cases h with
  | done hnone => exact absurd hstands (hnone p j hle)
  | @taken _ p' j' places' hle' hstands' hleftmost' hlongest' rest =>
    obtain rfl : p' = p :=
      Nat.le_antisymm (hleftmost' p j hle hstands) (hleftmost p' j' hle' hstands')
    obtain rfl : j' = j := Nat.le_antisymm (hlongest j' hstands') (hlongest' j hstands)
    exact ⟨places', rfl, rest⟩

/-- **There is one way to take them.** -/
theorem unique (h : Munches Stands i places) (h' : Munches Stands i places') :
    places' = places := by
  induction h generalizing places' with
  | done hnone =>
    cases h' with
    | done => rfl
    | taken hle hstands => exact absurd hstands (hnone _ _ hle)
  | taken hle hstands hleftmost hlongest rest ih =>
    obtain ⟨rest', rfl, hrest'⟩ := h'.first_taken hle hstands hleftmost hlongest
    rw [ih hrest']

/-- A list of the places of the longest words, one behind the other, is what is taken. -/
theorem of_sorted (hnonempty : ∀ p j, Stands p j → p < j)
    (hsorted : places.Pairwise fun a b => a.2 ≤ b.1) (hfront : ∀ a ∈ places, i ≤ a.1)
    (hstands : ∀ a ∈ places, Stands a.1 a.2)
    (hall : ∀ p j, i ≤ p → Stands p j → ∃ k, (p, k) ∈ places ∧ j ≤ k) :
    Munches Stands i places := by
  induction places generalizing i with
  | nil =>
    refine .done fun p j hle hp => ?_
    obtain ⟨k, hk, -⟩ := hall p j hle hp
    exact absurd hk List.not_mem_nil
  | cons a places ih =>
    obtain ⟨p, j⟩ := a
    obtain ⟨hbehind, hsorted⟩ := List.pairwise_cons.mp hsorted
    obtain ⟨hle, -⟩ := List.forall_mem_cons.mp hfront
    obtain ⟨hp, hstands⟩ := List.forall_mem_cons.mp hstands
    have hpj : p < j := hnonempty p j hp
    -- the first place is leftmost and longest, and what comes behind it is taken as before
    refine .taken hle hp ?_ ?_ (ih hsorted hbehind hstands ?_)
    · intro q k hq hk
      obtain ⟨k', hmem, -⟩ := hall q k hq hk
      rcases List.mem_cons.mp hmem with heq | hmem
      · exact Nat.le_of_eq (Prod.mk.inj heq).1.symm
      · have : j ≤ q := hbehind (q, k') hmem
        omega
    · intro k hk
      obtain ⟨k', hmem, hkk'⟩ := hall p k hle hk
      rcases List.mem_cons.mp hmem with heq | hmem
      · rw [(Prod.mk.inj heq).2] at hkk'
        exact hkk'
      · -- a second place cannot begin before the end of the first one
        have : j ≤ p := hbehind (p, k') hmem
        omega
    · intro q k hq hk
      have hiq : i ≤ q := by
        have : i ≤ p := hle
        omega
      obtain ⟨k', hmem, hkk'⟩ := hall q k hiq hk
      rcases List.mem_cons.mp hmem with heq | hmem
      · have : q = p := (Prod.mk.inj heq).1
        omega
      · exact ⟨k', hmem, hkk'⟩

end Munches

namespace Searcher

/-- Where the matches from a cursor on begin and end. -/
def places (s : Searcher) (budget : Nat) (text : Array Char) (limit : Nat) (c : Cursor) :
    List (Nat × Nat) :=
  (s.matchesFrom budget text limit c).map fun m => (m.start, m.stop)

/-- The searcher looks for words: its expression `e` takes them wherever they stand, longer ones
first, and none of them is empty. -/
structure Seeks (s : Searcher) (e : Expr) (Stands : Array Char → Nat → Nat → Prop) : Prop where
  orderly : e.orderly = true
  zero : 0 ∉ e.groups
  method : Method.ofExpr e = .ok s.method
  ways : ∀ (t : Subject) {i : Nat} {slots : Slots} {w : Way}, i ≤ t.text.size →
    (w ∈ e.ways t i slots ↔ w.2 = slots ∧ Stands t.text i w.1)
  longest : ∀ (t : Subject) {i : Nat} {slots : Slots}, i ≤ t.text.size →
    (e.ways t i slots).Pairwise fun v w => w.1 ≤ v.1
  nonempty : ∀ {text : Array Char} {i j : Nat}, Stands text i j → i < j ∧ j ≤ text.size

variable {s : Searcher} {e : Expr} {Stands : Array Char → Nat → Nat → Prop} {budget : Nat}
  {text : Array Char} {start limit : Nat} {origin : Option Nat} {c : Cursor} {m : Match}
  {words : List (Nat × Nat)}

/-- A text that spells items is compiled to a searcher for their sequence, if this is not too
large. -/
theorem exists_compile {depth : Nat} {written : List Char} {items : List Expr}
    (hspells : Reader.Spells depth written items) (hdepth : depth < Reader.maxDepth)
    (horder : (Expr.cats items).orderly = true)
    (hsize : Automaton.leafCount (Expr.cats items) ≤ maxLeaves) :
    ∃ s, compile written = .ok s ∧ Method.ofExpr (Expr.cats items) = .ok s.method := by
  obtain ⟨method, hmethod⟩ := (method_ok_iff horder).mpr hsize
  refine ⟨⟨written, 0, [], method⟩, ?_, hmethod⟩
  unfold compile
  rw [Reader.parse_of_spells hspells hdepth]
  show (Method.ofExpr (Expr.cats items)).bind _ = _
  rw [hmethod]
  rfl

theorem places_of_not_found (hsize : c.next ≤ text.size)
    (hnone : ∀ m, s.search budget text c.next c.origin ≠ .found m) (limit : Nat) :
    s.places budget text limit c = [] := by
  unfold places
  cases limit with
  | zero => rfl
  | succ limit =>
    rw [matchesFrom, next_of_not_found hsize hnone]
    cases hsearch : s.search budget text c.next c.origin with
    | found m => exact absurd hsearch (hnone m)
    | missing => rfl
    | exhausted => rfl

namespace Seeks

/-! ## One search -/

/-- **What is found** is the longest word at the leftmost place. -/
theorem found (h : s.Seeks e Stands) (hstart : start ≤ text.size)
    (hfound : s.search budget text start origin = .found m) :
    start ≤ m.start ∧ Stands text m.start m.stop ∧
      (∀ q k, start ≤ q → Stands text q k → m.start ≤ q) ∧
      ∀ k, Stands text m.start k → k ≤ m.stop := by
  obtain ⟨hle, hsize, hbefore, slots, ws, hways, -⟩ :=
    search_found h.orderly h.zero h.method hstart hfound
  let t : Subject := ⟨text, origin⟩
  have hfirst : (m.stop, slots) ∈ e.ways t m.start [(0, some m.start)] := by
    rw [hways]
    exact List.mem_cons_self
  refine ⟨hle, ((h.ways t hsize).mp hfirst).2, fun q k hq hk => ?_, fun k hk => ?_⟩
  · by_contra hlt
    have hqsize : q ≤ text.size := by omega
    have hmem : (k, [(0, some q)]) ∈ e.ways t q [(0, some q)] := (h.ways t hqsize).mpr ⟨rfl, hk⟩
    rw [hbefore q hq (by omega)] at hmem
    exact absurd hmem List.not_mem_nil
  · have hmem : (k, [(0, some m.start)]) ∈ e.ways t m.start [(0, some m.start)] :=
      (h.ways t hsize).mpr ⟨rfl, hk⟩
    have hordered : (e.ways t m.start [(0, some m.start)]).Pairwise fun v w => w.1 ≤ v.1 :=
      h.longest t hsize
    rw [hways] at hmem hordered
    rcases List.mem_cons.mp hmem with heq | hmem
    · exact Nat.le_of_eq (Prod.mk.inj heq).1
    · exact (List.pairwise_cons.mp hordered).1 _ hmem

/-- **If nothing is found**, no word stands behind. -/
theorem missing (h : s.Seeks e Stands) (hstart : start ≤ text.size)
    (hmissing : s.search budget text start origin = .missing) (q k : Nat) (hq : start ≤ q) :
    ¬ Stands text q k := by
  intro hk
  have hsize : q ≤ text.size := by
    have := h.nonempty hk
    omega
  have hmem : (k, [(0, some q)]) ∈ e.ways ⟨text, origin⟩ q [(0, some q)] :=
    (h.ways ⟨text, origin⟩ hsize).mpr ⟨rfl, hk⟩
  rw [search_missing h.orderly h.zero h.method hstart hmissing hq hsize] at hmem
  exact absurd hmem List.not_mem_nil

/-! ## The whole scan -/

/-- Words are not empty, so that the next search begins where the word ends. -/
theorem places_of_found (h : s.Seeks e Stands) (hsize : c.next ≤ text.size)
    (hfound : s.search budget text c.next c.origin = .found m) (limit : Nat) :
    s.places budget text (limit + 1) c
      = (m.start, m.stop) :: s.places budget text limit ⟨m.stop, some m.stop⟩ := by
  have hword := h.nonempty (h.found hsize hfound).2.1
  have hne : m.start ≠ m.stop := by omega
  have hnext : s.next budget text c = (.found m, ⟨m.stop, some m.stop⟩) := by
    rw [next_of_found hsize hfound, if_neg fun hempty => hne hempty.1, Cursor.behind, if_neg hne]
  unfold places
  rw [matchesFrom, hnext, List.map_cons]

/-- **A scan takes the words by maximal munch**, if its budget lasts. -/
theorem munches (h : s.Seeks e Stands) (hlasts : s.Lasts budget text) (hsize : c.next ≤ text.size)
    (hlimit : text.size ≤ limit + c.next) :
    Munches (Stands text) c.next (s.places budget text limit c) := by
  induction limit generalizing c with
  | zero =>
    refine .done fun p j hle hp => ?_
    have := h.nonempty hp
    omega
  | succ limit ih =>
    cases hsearch : s.search budget text c.next c.origin with
    | exhausted =>
      refine absurd hsearch (hlasts c.next c.origin hsize ?_)
      unfold Cursor.origin
      split
      · exact Or.inl rfl
      · exact Or.inr rfl
    | missing =>
      rw [places_of_not_found hsize (by rw [hsearch]; exact nofun)]
      exact .done (h.missing hsize hsearch)
    | found m =>
      obtain ⟨hle, hstands, hleftmost, hlongest⟩ := h.found hsize hsearch
      have hword := h.nonempty hstands
      rw [h.places_of_found hsize hsearch]
      refine .taken hle hstands hleftmost hlongest (ih (c := ⟨m.stop, some m.stop⟩) hword.2 ?_)
      show text.size ≤ limit + m.stop
      omega

/-- **A scan whose budget does not last** takes the first of these words. -/
theorem places_prefix (h : s.Seeks e Stands) (hsize : c.next ≤ text.size)
    (hwords : Munches (Stands text) c.next words) : s.places budget text limit c <+: words := by
  induction limit generalizing c words with
  | zero => exact List.nil_prefix
  | succ limit ih =>
    cases hsearch : s.search budget text c.next c.origin with
    | exhausted =>
      rw [places_of_not_found hsize (by rw [hsearch]; exact nofun)]
      exact List.nil_prefix
    | missing =>
      rw [places_of_not_found hsize (by rw [hsearch]; exact nofun)]
      exact List.nil_prefix
    | found m =>
      obtain ⟨hle, hstands, hleftmost, hlongest⟩ := h.found hsize hsearch
      rw [h.places_of_found hsize hsearch]
      obtain ⟨rest, rfl, hrest⟩ := hwords.first_taken hle hstands hleftmost hlongest
      rw [List.prefix_cons_inj]
      exact ih (h.nonempty hstands).2 hrest

end Seeks

end Searcher

end CodeShape.Regex
