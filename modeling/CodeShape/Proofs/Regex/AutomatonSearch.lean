import Mathlib.Data.List.Basic
import CodeShape.Regex.Automaton

/-!
# The automaton search keeps the order of preference

`Automaton.runs` is the backtracking reading of an automaton: from a leaf on it lists the slots of
every run to the end of a match, the preferred run first. The search itself goes through the text
once and keeps one thread for each leaf. This file shows that it loses nothing by that:

* `runs_eq_nil_congr`: whether a leaf leads to a match does not depend on the slots, so the second
  thread to reach a leaf can be dropped;
* `follow_runs` and `advance_runs`: one step of the search keeps the first run of all threads;
* `find_eq_head`: the search answers with the first run of all, those that begin earlier before
  those that begin later.
-/

namespace CodeShape.Regex

namespace Automaton

/-- The slots of all runs that go on from `leaf` at `pos`, the preferred run first. -/
def runs (a : Automaton) (text : Array Char) (leaf pos : Nat) (slots : Slots) : List Slots :=
  if _h : pos < text.size then
    match a.leaves[leaf]? with
    | none => []
    | some l =>
      if l.set.contains text[pos] then
        l.next.flatMap fun e =>
          if e.conditions.all (·.holds text (pos + 1)) then
            match e.leaf with
            | none => [complete (slots.mark e.slots (pos + 1)) (pos + 1)]
            | some next => a.runs text next (pos + 1) (slots.mark e.slots (pos + 1))
          else []
      else []
  else []
termination_by text.size - pos

/-- The slots of all runs that go on along one of the edges at `pos`. -/
def edgeRuns (a : Automaton) (text : Array Char) (edges : List Edge) (pos : Nat) (slots : Slots) :
    List Slots :=
  edges.flatMap fun e =>
    if e.conditions.all (·.holds text pos) then
      match e.leaf with
      | none => [complete (slots.mark e.slots pos) pos]
      | some next => a.runs text next pos (slots.mark e.slots pos)
    else []

variable {a : Automaton} {text : Array Char} {pos : Nat} {slots : Slots}

@[simp] theorem edgeRuns_nil : a.edgeRuns text [] pos slots = [] := rfl

theorem edgeRuns_cons (e : Edge) (edges : List Edge) :
    a.edgeRuns text (e :: edges) pos slots
      = a.edgeRuns text [e] pos slots ++ a.edgeRuns text edges pos slots := by
  simp only [edgeRuns, List.flatMap_cons, List.flatMap_nil, List.append_nil]

theorem edgeRuns_accept {e : Edge} (h : e.conditions.all (·.holds text pos) = true)
    (hleaf : e.leaf = none) :
    a.edgeRuns text [e] pos slots = [complete (slots.mark e.slots pos) pos] := by
  simp only [edgeRuns, List.flatMap_cons, List.flatMap_nil, List.append_nil, h, if_true, hleaf]

theorem edgeRuns_enter {e : Edge} {leaf : Nat} (h : e.conditions.all (·.holds text pos) = true)
    (hleaf : e.leaf = some leaf) :
    a.edgeRuns text [e] pos slots = a.runs text leaf pos (slots.mark e.slots pos) := by
  simp only [edgeRuns, List.flatMap_cons, List.flatMap_nil, List.append_nil, h, if_true, hleaf]

theorem edgeRuns_blocked {e : Edge} (h : ¬ e.conditions.all (·.holds text pos) = true) :
    a.edgeRuns text [e] pos slots = [] := by
  simp only [edgeRuns, List.flatMap_cons, List.flatMap_nil, List.append_nil, if_neg h]

theorem edgeRuns_append (es es' : List Edge) :
    a.edgeRuns text (es ++ es') pos slots
      = a.edgeRuns text es pos slots ++ a.edgeRuns text es' pos slots := by
  simp only [edgeRuns, List.flatMap_append]

theorem runs_of_size_le {leaf : Nat} (h : text.size ≤ pos) :
    a.runs text leaf pos slots = [] := by
  rw [runs, dif_neg (Nat.not_lt.mpr h)]

theorem runs_of_lt {leaf : Nat} (h : pos < text.size) :
    a.runs text leaf pos slots
      = match a.leaves[leaf]? with
        | none => []
        | some l =>
          if l.set.contains text[pos] then a.edgeRuns text l.next (pos + 1) slots else [] := by
  rw [runs, dif_pos h]
  rfl

/-- Whether a leaf leads to a match does not depend on the slots set before. -/
theorem runs_eq_nil_congr (leaf pos : Nat) (s s' : Slots) :
    a.runs text leaf pos s = [] ↔ a.runs text leaf pos s' = [] := by
  rcases Nat.lt_or_ge pos text.size with hlt | hge
  · rw [runs_of_lt hlt, runs_of_lt hlt]
    cases a.leaves[leaf]? with
    | none => exact Iff.rfl
    | some l =>
      dsimp only
      split
      · simp only [edgeRuns, List.flatMap_eq_nil_iff]
        refine forall_congr' fun e => forall_congr' fun _ => ?_
        split
        · cases e.leaf with
          | none => simp only [List.cons_ne_nil]
          | some next => exact runs_eq_nil_congr next (pos + 1) _ _
        · exact Iff.rfl
      · exact Iff.rfl
  · rw [runs_of_size_le hge, runs_of_size_le hge]
termination_by text.size - pos

/-- The runs of a list of threads, in order. -/
def threadRuns (a : Automaton) (text : Array Char) (threads : List Thread) (pos : Nat) :
    List Slots :=
  threads.flatMap fun t => a.runs text t.leaf pos t.slots

theorem threadRuns_append (ts ts' : List Thread) :
    a.threadRuns text (ts ++ ts') pos = a.threadRuns text ts pos ++ a.threadRuns text ts' pos := by
  simp only [threadRuns, List.flatMap_append]

theorem threadRuns_of_size_le {threads : List Thread} (h : text.size ≤ pos) :
    a.threadRuns text threads pos = [] := by
  rw [threadRuns, List.flatMap_eq_nil_iff]
  exact fun t _ => runs_of_size_le h

/-- The runs of a step of the search. The completed match comes behind all threads, for it ended the
step. -/
def frontierRuns (a : Automaton) (text : Array Char) (f : Frontier) (pos : Nat) : List Slots :=
  a.threadRuns text f.threads.reverse pos ++ (f.done.map (complete · pos)).toList

/-! ## One step -/

/-- A list that is not empty hides what comes behind it. -/
theorem head?_append_of_ne_nil {α : Type} {l : List α} (h : l ≠ []) (l' : List α) :
    (l ++ l').head? = l.head? := by
  cases l with
  | nil => exact absurd rfl h
  | cons x xs => rfl

theorem head?_append_congr {α : Type} {l l' r : List α} (h : l.head? = l'.head?) :
    (l ++ r).head? = (l' ++ r).head? := by
  rw [List.head?_append, List.head?_append, h]

theorem frontierRuns_ne_nil {f : Frontier} (h : f.done.isSome) :
    a.frontierRuns text f pos ≠ [] := by
  obtain ⟨d, hd⟩ := Option.isSome_iff_exists.mp h
  simp [frontierRuns, hd]

/-- Following edges keeps the first run. -/
theorem follow_runs (a : Automaton) (text : Array Char) (pos : Nat) (slots : Slots)
    (edges : List Edge) (f : Frontier) :
    (a.frontierRuns text (f.follow text pos slots edges) pos).head?
      = (a.frontierRuns text f pos ++ a.edgeRuns text edges pos slots).head? := by
  induction edges generalizing f with
  | nil => rw [Frontier.follow, edgeRuns_nil, List.append_nil]
  | cons e edges ih =>
    rw [edgeRuns_cons, Frontier.follow]
    split
    -- once a match is complete, the edges that are left cannot come first
    next hdone => rw [head?_append_of_ne_nil (frontierRuns_ne_nil hdone)]
    next hdone =>
      have hnone : f.done = none := Option.not_isSome_iff_eq_none.mp hdone
      split
      next hcond =>
        split
        next hleaf =>
          -- the match is complete, and no later edge counts
          rw [← List.append_assoc]
          rw [edgeRuns_accept hcond hleaf, head?_append_of_ne_nil (by simp)]
          simp [frontierRuns, hnone]
        next leaf hleaf =>
          rw [edgeRuns_enter hcond hleaf]
          split
          next hthere =>
            -- another thread is at this leaf already
            rw [ih, ← List.append_assoc]
            refine head?_append_congr ?_
            by_cases hnil : a.frontierRuns text f pos = []
            · obtain ⟨t, ht, hleaf'⟩ := List.any_eq_true.mp hthere
              rw [frontierRuns, List.append_eq_nil_iff, threadRuns,
                List.flatMap_eq_nil_iff] at hnil
              have htruns := hnil.1 t (List.mem_reverse.mpr ht)
              rw [eq_of_beq hleaf'] at htruns
              rw [(runs_eq_nil_congr leaf pos _ t.slots).mpr htruns, List.append_nil]
            · rw [head?_append_of_ne_nil hnil]
          next =>
            -- a thread of its own, behind the ones that are there
            rw [ih, ← List.append_assoc]
            simp only [frontierRuns, hnone, List.reverse_cons, threadRuns_append, Option.map_none,
              Option.toList_none, List.append_nil]
            simp only [threadRuns, List.flatMap_cons, List.flatMap_nil, List.append_nil]
      next hcond => rw [ih, edgeRuns_blocked hcond, List.nil_append]

/-- Taking a character keeps the first run. -/
theorem advance_runs (a : Automaton) (h : pos < text.size) (threads : List Thread) (f : Frontier) :
    (a.frontierRuns text (a.advance text (pos + 1) text[pos] threads f) (pos + 1)).head?
      = (a.frontierRuns text f (pos + 1) ++ a.threadRuns text threads pos).head? := by
  induction threads generalizing f with
  | nil => rw [advance, threadRuns, List.flatMap_nil, List.append_nil]
  | cons t threads ih =>
    have hcons : a.threadRuns text (t :: threads) pos
        = a.runs text t.leaf pos t.slots ++ a.threadRuns text threads pos := by
      rw [threadRuns, List.flatMap_cons, threadRuns]
    rw [hcons, runs_of_lt h, advance]
    split
    next hdone => rw [head?_append_of_ne_nil (frontierRuns_ne_nil hdone)]
    next =>
      cases a.leaves[t.leaf]? with
      | none => exact ih f
      | some leaf =>
        dsimp only
        split
        next =>
          rw [ih, ← List.append_assoc]
          exact head?_append_congr (follow_runs a text _ _ leaf.next f)
        next => exact ih f

/-! ## A whole search -/

/-- The runs that begin at a position from `first` on, those that begin earlier first. -/
def laterRuns (a : Automaton) (text : Array Char) (first : Nat) : List Slots :=
  (List.range' first (text.size + 1 - first)).flatMap fun p =>
    a.edgeRuns text a.start p [(0, some p)]

theorem laterRuns_of_le (h : pos ≤ text.size) :
    a.laterRuns text pos
      = a.edgeRuns text a.start pos [(0, some pos)] ++ a.laterRuns text (pos + 1) := by
  have hsize : text.size + 1 - pos = text.size + 1 - (pos + 1) + 1 := by omega
  rw [laterRuns, hsize, List.range'_succ, List.flatMap_cons, laterRuns]

theorem laterRuns_of_size_lt (h : text.size < pos) : a.laterRuns text pos = [] := by
  have hsize : text.size + 1 - pos = 0 := by omega
  rw [laterRuns, hsize]
  rfl

/-- The runs that are still possible: those of the threads, the match found before and, if there is
none and the search is not anchored, the runs that begin later. -/
def openRuns (a : Automaton) (text : Array Char) (anchored : Bool) (pos : Nat)
    (threads : List Thread) (best : Option Slots) : List Slots :=
  a.threadRuns text threads pos ++ best.toList
    ++ (if anchored || best.isSome then [] else a.laterRuns text (pos + 1))

theorem openRuns_some (anchored : Bool) (threads : List Thread) (b : Slots) :
    a.openRuns text anchored pos threads (some b) = a.threadRuns text threads pos ++ [b] := by
  simp [openRuns]

theorem openRuns_none (anchored : Bool) (threads : List Thread) :
    a.openRuns text anchored pos threads none
      = a.threadRuns text threads pos
        ++ (if anchored then [] else a.laterRuns text (pos + 1)) := by
  simp [openRuns]

/-- With nothing but a frontier to go on from, the runs that are possible are its own. -/
theorem openRuns_frontier (anchored : Bool) (f : Frontier) (h : f.done.isSome) :
    a.openRuns text anchored pos f.threads.reverse (f.done.map (complete · pos))
      = a.frontierRuns text f pos := by
  obtain ⟨d, hd⟩ := Option.isSome_iff_exists.mp h
  rw [frontierRuns, hd, Option.map_some, openRuns_some]
  rfl

/-- The search answers with the first run that is possible. -/
theorem search_eq_head (anchored : Bool) (pos : Nat) (threads : List Thread) (best : Option Slots) :
    a.search text anchored pos threads best
      = (a.openRuns text anchored pos threads best).head? := by
  rw [search]
  split
  next hstop =>
    rw [Bool.and_eq_true, List.isEmpty_iff] at hstop
    -- no thread is alive and none may begin: the best match so far is the answer
    obtain ⟨rfl, hstop⟩ := hstop
    cases best with
    | some b => rw [openRuns_some]; rfl
    | none =>
      rw [Option.isSome_none, Bool.or_false] at hstop
      rw [openRuns_none, if_pos hstop]
      rfl
  next =>
    split
    next hlt =>
      have hstep := advance_runs a hlt threads ⟨[], none⟩
      rw [show a.frontierRuns text ⟨[], none⟩ (pos + 1) = [] from rfl, List.nil_append] at hstep
      generalize hs : a.advance text (pos + 1) text[pos] threads ⟨[], none⟩ = stepped at hstep
      rw [search_eq_head anchored (pos + 1)]
      cases hdone : stepped.done with
      | some d =>
        -- a match has been completed: what follows it is out of the race
        have hne : a.threadRuns text threads pos ≠ [] := by
          intro hnil
          rw [hnil, List.head?_nil, List.head?_eq_none_iff] at hstep
          exact frontierRuns_ne_nil (by rw [hdone]; rfl) hstep
        simp only [hdone, Option.map_some, Option.orElse_some, Option.isSome_some, Bool.or_true,
          if_true]
        rw [openRuns_some, openRuns, List.append_assoc, head?_append_of_ne_nil hne, ← hstep,
          frontierRuns, hdone]
        rfl
      | none =>
        have hthreads : a.threadRuns text stepped.threads.reverse (pos + 1)
            = a.frontierRuns text stepped (pos + 1) := by
          rw [frontierRuns, hdone, Option.map_none, Option.toList_none, List.append_nil]
        cases best with
        | some b =>
          -- a match has been found before: no new thread begins
          simp only [hdone, Option.map_none, Option.orElse_none, Option.isSome_some, Bool.or_true,
            if_true]
          rw [openRuns_some, openRuns_some, hthreads]
          exact head?_append_congr hstep
        | none =>
          simp only [Option.map_none, Option.orElse_none, Option.isSome_none,
            Bool.or_false]
          cases anchored with
          | true =>
            simp only [if_true, hdone, Option.map_none, Option.orElse_none]
            rw [openRuns_none, openRuns_none, hthreads]
            exact head?_append_congr hstep
          | false =>
            -- a new thread begins here, behind all others
            simp only [Bool.false_eq_true, if_false]
            have hfollow := follow_runs a text (pos + 1) [(0, some (pos + 1))] a.start stepped
            generalize stepped.follow text (pos + 1) [(0, some (pos + 1))] a.start = f at hfollow ⊢
            rw [openRuns_none, if_neg Bool.false_ne_true, laterRuns_of_le hlt,
              ← List.append_assoc, ← head?_append_congr (head?_append_congr hstep),
              ← head?_append_congr hfollow]
            cases hf : f.done with
            | some d =>
              have hsome : f.done.isSome := by rw [hf]; rfl
              rw [head?_append_of_ne_nil (frontierRuns_ne_nil hsome),
                ← openRuns_frontier false f hsome, hf]
              rfl
            | none =>
              rw [frontierRuns, hf, Option.map_none, Option.toList_none, List.append_nil,
                Option.orElse_none, openRuns_none, if_neg Bool.false_ne_true]
    next hge =>
      -- at the end of the text, no run goes on
      have hsize := Nat.not_lt.mp hge
      have hlater : a.laterRuns text (pos + 1) = [] :=
        laterRuns_of_size_lt (Nat.lt_succ_of_le hsize)
      rw [openRuns, threadRuns_of_size_le hsize, hlater, ite_self, List.append_nil,
        List.nil_append]
      cases best <;> rfl
termination_by text.size - pos

/-- An anchored search answers with the first run from its position. -/
theorem find_anchored_eq_head (a : Automaton) (text : Array Char) (pos : Nat) :
    a.find text true pos = (a.edgeRuns text a.start pos [(0, some pos)]).head? := by
  have hfollow := follow_runs a text pos [(0, some pos)] a.start ⟨[], none⟩
  rw [show a.frontierRuns text ⟨[], none⟩ pos = [] from rfl, List.nil_append] at hfollow
  rw [find, search_eq_head, ← hfollow]
  generalize Frontier.follow text pos [(0, some pos)] a.start ⟨[], none⟩ = f
  cases hf : f.done with
  | some d =>
    have hsome : f.done.isSome := by rw [hf]; rfl
    rw [← openRuns_frontier true f hsome, hf]
  | none =>
    rw [Option.map_none, openRuns_none, if_pos rfl, frontierRuns, hf]
    rfl

/-- A search that is not anchored answers with the first of the runs that begin anywhere from its
position on, an earlier beginning before a later one. -/
theorem find_eq_head (a : Automaton) (text : Array Char) {pos : Nat} (hpos : pos ≤ text.size) :
    a.find text false pos = (a.laterRuns text pos).head? := by
  have hfollow := follow_runs a text pos [(0, some pos)] a.start ⟨[], none⟩
  rw [show a.frontierRuns text ⟨[], none⟩ pos = [] from rfl, List.nil_append] at hfollow
  rw [find, search_eq_head, laterRuns_of_le hpos, ← head?_append_congr hfollow]
  generalize Frontier.follow text pos [(0, some pos)] a.start ⟨[], none⟩ = f
  cases hf : f.done with
  | some d =>
    have hsome : f.done.isSome := by rw [hf]; rfl
    rw [head?_append_of_ne_nil (frontierRuns_ne_nil hsome), ← openRuns_frontier false f hsome, hf]
  | none =>
    rw [Option.map_none, openRuns_none, if_neg Bool.false_ne_true, frontierRuns, hf,
      Option.map_none, Option.toList_none, List.append_nil]

end Automaton

end CodeShape.Regex
