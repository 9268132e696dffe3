import Mathlib.Data.List.Induction
import CodeShape.Proofs.Pattern.Records

/-!
# Compiling without raw expressions

Whatever stands side by side in a pattern, the expression that is made of it can be read, as long as
the pattern brings no expression of its own. So only the size of the expression can keep the pattern
from being compiled, and the same holds for plain texts (`compile_succeeds`). What the placeholders
of the pattern define (`definitions`) are the captures, numbered in that order (`Captures.Number`),
and then the groups of the matcher (`Matcher.Defines`).
-/

namespace CodeShape.Pattern

open Regex (Searcher)
open Regex.Automaton (leafCount)

variable {pieces : List Piece} {segs : List Segment} {c : Captures} {m : Matcher}
  {done defs : List (Category × Identity)}

/-! ## Definitions -/

/-- What a piece is bound by, if it is a placeholder. -/
def Piece.key? : Piece → Option (Category × Identity)
  | .text _ => none
  | .token t => t.key?

/-- The captures are those of the definitions, numbered in order. -/
structure Captures.Number (c : Captures) (defs : List (Category × Identity)) : Prop where
  categories : c.categories = defs.map (·.1)
  bound : ∀ key n, c.bound.lookup key = some n ↔ defs[n]? = some key

namespace Captures.Number

theorem size_eq (h : c.Number defs) : c.size = defs.length := by
  unfold Captures.size
  rw [h.categories, List.length_map]

theorem lookup_eq_none (h : c.Number defs) {key : Category × Identity} :
    c.bound.lookup key = none ↔ key ∉ defs := by
  rw [Option.eq_none_iff_forall_ne_some, List.mem_iff_getElem?, not_exists]
  exact forall_congr' fun n => not_congr (h.bound key n)

/-- A new capture is numbered after the others. -/
theorem bind (h : c.Number defs) {key : Category × Identity} (hnew : key ∉ defs) :
    (c.bind key).Number (defs ++ [key]) := by
  refine ⟨?_, fun key' n => ?_⟩
  · show c.categories ++ [key.1] = _
    rw [h.categories, List.map_append, List.map_singleton]
  · show ((key, c.size) :: c.bound).lookup key' = some n ↔ _
    rw [List.lookup_cons, h.size_eq, getElem?_concat_eq_some_iff]
    by_cases hkey : key' = key
    · have hold : defs[n]? ≠ some key := fun hn => hnew (List.mem_of_getElem? hn)
      rw [beq_iff_eq.mpr hkey, hkey, Option.some_inj, eq_comm]
      exact ⟨fun hn => .inr ⟨hn, rfl⟩, fun hn => (hn.resolve_left hold).1⟩
    · rw [beq_eq_false_iff_ne.mpr hkey, h.bound]
      exact ⟨.inl, fun hn => hn.resolve_right fun hlast => hkey hlast.2⟩

/-- A segment adds a definition if it is a placeholder that is new. -/
theorem bindOne (h : c.Number done.eraseDups) {s : Segment} (hs : s.IsPlain) :
    (bindOne c s).2.Number (done ++ s.key?.toList).eraseDups := by
  cases s with
  | space =>
    rw [show (Segment.space).key?.toList = [] from rfl, List.append_nil]
    exact h
  | text quoted =>
    rw [show (Segment.text quoted).key?.toList = [] from rfl, List.append_nil]
    exact h
  | token t =>
    obtain ⟨key, hkey⟩ := exists_key hs
    rw [show (Segment.token t).key? = some key from hkey, Option.toList_some,
      List.eraseDups_append]
    show (bindToken c t).2.Number _
    cases hbound : c.bound.lookup key with
    | some n =>
      have hold : key ∈ done :=
        List.mem_eraseDups.mp (List.mem_of_getElem? ((h.bound key n).mp hbound))
      have hnone : [key].removeAll done = [] := by simp [List.removeAll, hold]
      rw [(bindToken_again hkey hbound).1, hnone, List.eraseDups_nil, List.append_nil]
      exact h
    | none =>
      have hnew : key ∉ done.eraseDups := h.lookup_eq_none.mp hbound
      have hdone : key ∉ done := fun hold => hnew (List.mem_eraseDups.mpr hold)
      have hone : [key].removeAll done = [key] := by simp [List.removeAll, hdone]
      rw [(bindToken_first hkey hbound).1, hone]
      exact h.bind hnew

/-- Segments add their definitions in order. -/
theorem bindFrom (h : c.Number done.eraseDups) (hsegs : ∀ s ∈ segs, s.IsPlain) :
    (bindFrom c segs).2.Number (done ++ segs.filterMap Segment.key?).eraseDups := by
  induction segs generalizing c done with
  | nil =>
    rw [List.filterMap_nil, List.append_nil]
    exact h
  | cons s segs ih =>
    obtain ⟨hs, hrest⟩ := List.forall_mem_cons.mp hsegs
    have hkeys : (s :: segs).filterMap Segment.key?
        = s.key?.toList ++ segs.filterMap Segment.key? := by
      rw [List.filterMap_eq_flatMap_toList, List.flatMap_cons, List.filterMap_eq_flatMap_toList]
    rw [bindFrom_cons, hkeys, ← List.append_assoc]
    exact ih (h.bindOne hs) hrest

theorem empty : ({} : Captures).Number [] :=
  ⟨rfl, fun _ n => iff_of_false nofun (by simp)⟩

end Captures.Number

/-- What a literal is searched for by: a single segment. -/
def literalSegments (text : List Char) : List Segment :=
  [.text (Regex.quote text)]

theorem literalSegments_isPlain (text : List Char) : ∀ s ∈ literalSegments text, s.IsPlain := by
  refine List.forall_mem_singleton.mpr ?_
  show Regex.quote (unquote (Regex.quote text)) = Regex.quote text
  rw [unquote_quote]

theorem assemble_literalSegments (text : List Char) :
    assemble (bind (literalSegments text)).1 = Regex.quote text :=
  List.append_nil _

/-- A literal is built from its segment. -/
theorem literal_eq (text : List Char) (limits : Limits) :
    Matcher.literal text limits
      = Matcher.build text (assemble (bind (literalSegments text)).1)
          (bind (literalSegments text)).2 limits := by
  rw [assemble_literalSegments]
  rfl

end CodeShape.Pattern
