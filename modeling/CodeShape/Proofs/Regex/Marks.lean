import CodeShape.Proofs.Regex.BacktrackWays

/-!
# The slots that a search may set

A search for an expression sets the slots of the groups in it, and those of group 0 where `\K` lets
the match begin elsewhere; all the others it leaves as they were. This holds of the ways of every
expression (`Expr.ways_keeps`) and of every plan (`Plan.ways_keeps`), whatever looks around or is
atomic in it.
-/

namespace CodeShape.Regex

variable {t : Subject} {slot : Nat}

namespace Slots

@[simp] theorem get?_cons (k : Nat) (v : Option Nat) (s : Slots) (slot : Nat) :
    Slots.get? ((k, v) :: s) slot = if slot = k then v else s.get? slot := by
  unfold Slots.get?
  rw [List.lookup_cons]
  by_cases h : slot = k
  · rw [if_pos h, beq_iff_eq.mpr h]
    rfl
  · rw [if_neg h, beq_eq_false_iff_ne.mpr h]

end Slots

/-- An automaton decides about the slots of the given groups and no others. -/
theorem Subject.get?_delegatedSlots (groups : List Nat) (found slots : Slots) (slot : Nat) :
    (delegatedSlots groups found slots).get? slot
      = if slot / 2 ∈ groups then found.get? slot else slots.get? slot := by
  induction groups with
  | nil => rfl
  | cons g groups ih =>
    change Slots.get? ((2 * g, found.get? (2 * g)) :: (2 * g + 1, found.get? (2 * g + 1)) ::
      delegatedSlots groups found slots) slot = _
    rw [Slots.get?_cons, Slots.get?_cons, ih]
    by_cases heven : slot = 2 * g
    · have hmem : slot / 2 ∈ g :: groups := List.mem_cons.mpr (.inl (by omega))
      rw [if_pos heven, if_pos hmem, heven]
    · by_cases hodd : slot = 2 * g + 1
      · have hmem : slot / 2 ∈ g :: groups := List.mem_cons.mpr (.inl (by omega))
        rw [if_neg heven, if_pos hodd, if_pos hmem, hodd]
      · have hiff : slot / 2 ∈ g :: groups ↔ slot / 2 ∈ groups := by
          rw [List.mem_cons]
          exact or_iff_right (by omega)
        rw [if_neg heven, if_neg hodd]
        simp only [hiff]

/-! ## Ways -/

namespace Ways

variable {f g : Ways} {gs hs : List Nat}

/-- The ways change no slots but those of the given groups. -/
def Keeps (gs : List Nat) (f : Ways) : Prop :=
  ∀ pos slots, ∀ w ∈ f pos slots, ∀ slot, slot / 2 ∉ gs → w.2.get? slot = slots.get? slot

theorem Keeps.mono (h : Keeps gs f) (hle : gs ⊆ hs) : Keeps hs f :=
  fun pos slots w hw slot hslot => h pos slots w hw slot fun hmem => hslot (hle hmem)

theorem keeps_pure (gs : List Nat) : Keeps gs fun pos slots => [(pos, slots)] := by
  intro pos slots w hw slot _
  rw [List.mem_singleton.mp hw]

theorem Keeps.andThen (hf : Keeps gs f) (hg : Keeps gs g) : Keeps gs (f.andThen g) := by
  intro pos slots w hw slot hslot
  obtain ⟨v, hv, hw⟩ := mem_andThen.mp hw
  rw [hg v.1 v.2 w hw slot hslot, hf pos slots v hv slot hslot]

theorem Keeps.append (hf : Keeps gs f) (hg : Keeps gs g) :
    Keeps gs fun pos slots => f pos slots ++ g pos slots := by
  intro pos slots w hw
  rcases List.mem_append.mp hw with hw | hw
  · exact hf pos slots w hw
  · exact hg pos slots w hw

theorem Keeps.captured (hf : Keeps gs f) (index : Nat) :
    Keeps (index :: gs) (f.captured index) := by
  intro pos slots w hw slot hslot
  rw [List.mem_cons, not_or] at hslot
  obtain ⟨hindex, hgs⟩ := hslot
  obtain ⟨v, hv, rfl⟩ := mem_captured.mp hw
  dsimp only
  rw [Slots.get?_cons, if_neg (by omega), hf pos _ v hv slot hgs, Slots.get?_cons,
    if_neg (by omega)]

theorem Keeps.rounds (hf : Keeps gs f) (isOpen greedy : Bool) (need more : Nat)
    (since : Option Nat) : Keeps gs (f.rounds isOpen greedy need more since) := by
  intro pos slots w hw slot hslot
  exact invariant_rounds (fun s => s.get? slot) (fun pos slots w hw => hf pos slots w hw slot hslot)
    isOpen greedy need more since pos slots w hw

theorem Keeps.upTo (hf : Keeps gs f) : Keeps gs f.upTo := by
  intro pos slots w hw
  obtain ⟨-, k, -, hw⟩ := mem_upTo.mp hw
  exact hf k slots w hw

theorem Keeps.looked (hf : Keeps gs f) (negated : Bool) : Keeps gs (f.looked negated) := by
  intro pos slots w hw slot hslot
  cases negated with
  | true => rw [slots_of_mem_looked hw]
  | false =>
    obtain ⟨v, hv, rfl⟩ := List.mem_map.mp hw
    exact hf pos slots v hv slot hslot

theorem Keeps.take (hf : Keeps gs f) (n : Nat) :
    Keeps gs fun pos slots => (f pos slots).take n :=
  fun pos slots w hw => hf pos slots w (List.mem_of_mem_take hw)

/-- Ways that are none or lead on with the same slots. -/
theorem keeps_of_same (gs : List Nat) (h : ∀ pos slots, ∀ w ∈ f pos slots, w.2 = slots) :
    Keeps gs f :=
  fun pos slots w hw _ _ => by rw [h pos slots w hw]

end Ways

/-! ## Expressions -/

namespace Expr

/-- The groups whose slots a search for the expression may set: those in it, and group 0 if the match
can be made to begin elsewhere. -/
@[grind =]
def marks : Expr → List Nat
  | cat a b | alt a b => a.marks ++ b.marks
  | parens e | repeated _ _ _ e | look _ _ e | atomic e => e.marks
  | group i e => i :: e.marks
  | keepOut => [0]
  | empty | chars _ | assert _ | backref _ | searchStart => []

theorem groups_subset_marks (e : Expr) : e.groups ⊆ e.marks := by
  induction e with
  | cat a b iha ihb | alt a b iha ihb =>
    exact List.append_subset.mpr
      ⟨List.subset_append_of_subset_left _ iha, List.subset_append_of_subset_right _ ihb⟩
  | parens e ih | repeated _ _ _ e ih | look _ _ e ih | atomic e ih => exact ih
  | group i e ih => exact List.cons_subset_cons i ih
  | keepOut | empty | chars _ | assert _ | backref _ | searchStart => exact List.nil_subset _

theorem marks_of_mem_items {e x : Expr} (hx : x ∈ e.items) : x.marks ⊆ e.marks := by
  induction e with
  | cat a b _ ihb =>
    rcases List.mem_cons.mp hx with rfl | hx
    · exact List.subset_append_left _ _
    · exact List.subset_append_of_subset_right _ (ihb hx)
  | _ =>
    rw [List.mem_singleton.mp hx]
    exact List.Subset.refl _

/-- The ways of an expression change no slots but those that it marks. -/
theorem ways_keeps (t : Subject) (e : Expr) : (e.ways t).Keeps e.marks := by
  induction e with
  | empty => exact Ways.keeps_pure _
  | chars set =>
    refine Ways.keeps_of_same _ fun pos slots w hw => ?_
    obtain ⟨-, -, -, rfl⟩ := mem_ways_chars.mp hw
    rfl
  | assert a =>
    refine Ways.keeps_of_same _ fun pos slots w hw => ?_
    obtain ⟨-, rfl⟩ := mem_ways_assert.mp hw
    rfl
  | cat a b iha ihb =>
    exact (iha.mono (List.subset_append_left _ _)).andThen
      (ihb.mono (List.subset_append_right _ _))
  | alt a b iha ihb =>
    exact (iha.mono (List.subset_append_left _ _)).append
      (ihb.mono (List.subset_append_right _ _))
  | parens e ih => exact ih
  | group i e ih => exact ih.captured i
  | repeated lo hi greedy e ih => exact ih.rounds _ _ _ _ _
  | look side negated e ih =>
    cases side with
    | ahead => exact ih.looked negated
    | behind => exact ih.upTo.looked negated
  | backref g =>
    refine Ways.keeps_of_same _ fun pos slots w hw => ?_
    obtain ⟨-, -, -, rfl⟩ := mem_ways_backref.mp hw
    rfl
  | atomic e ih => exact ih.take 1
  | keepOut =>
    intro pos slots w hw slot hslot
    rw [List.mem_singleton.mp hw, Slots.get?_cons, if_neg]
    rintro rfl
    exact hslot (List.mem_singleton.mpr rfl)
  | searchStart =>
    refine Ways.keeps_of_same _ fun pos slots w hw => ?_
    obtain ⟨-, rfl⟩ := mem_ways_searchStart.mp hw
    rfl

end Expr

/-! ## Plans -/

namespace Plan

/-- The groups whose slots a search by the plan may set. -/
def marks : Plan → List Nat
  | delegate groups _ => groups
  | cat p q | alt p q => p.marks ++ q.marks
  | group i p => i :: p.marks
  | repeated _ _ _ p | peek p | forbid p | atomic p => p.marks
  | keepOut => [0]
  | nothing | chars _ | assert _ | back _ | copyOf _ | searchStart => []

/-- A plan without parts leaves the slots as they are, unless it marks some. -/
theorem slots_of_simple? {p : Plan} {pos : Nat} {slots : Slots} {v : Way}
    (h : t.simple? p pos slots = some v) (hmarks : p.marks = []) : v.2 = slots := by
  unfold Subject.simple? at h
  split at h
  case h_1 => exact congrArg Prod.snd (Option.some.inj h).symm
  case h_2 groups a =>
    obtain rfl : groups = [] := hmarks
    split at h
    · obtain ⟨stop, -, rfl⟩ := Option.map_eq_some_iff.mp h
      rfl
    · cases h
  case h_7 => exact absurd hmarks (List.cons_ne_nil _ _)
  case h_9 => cases h
  -- what is left asks about the text, one thing after another, and if all holds, goes on there
  all_goals
    repeat' split at h
    all_goals cases h
    all_goals rfl

/-- The ways of a plan change no slots but those that it marks. -/
theorem ways_keeps (t : Subject) (p : Plan) : (p.ways t).Keeps p.marks := by
  induction p with
  | nothing => exact Ways.keeps_pure _
  | delegate groups a =>
    intro pos slots w hw slot hslot
    change w ∈ (t.simple? (.delegate groups a) pos slots).toList at hw
    simp only [Subject.simple?] at hw
    split at hw
    next found _ =>
      obtain ⟨stop, -, rfl⟩ := Option.map_eq_some_iff.mp (Option.mem_toList.mp hw)
      exact (Subject.get?_delegatedSlots groups found slots slot).trans (if_neg hslot)
    next => exact absurd hw List.not_mem_nil
  | chars _ | assert _ | back _ | copyOf _ | searchStart =>
    exact Ways.keeps_of_same _ fun pos slots w hw =>
      slots_of_simple? (Option.mem_toList.mp hw) rfl
  | cat p q ihp ihq =>
    exact (ihp.mono (List.subset_append_left _ _)).andThen
      (ihq.mono (List.subset_append_right _ _))
  | alt p q ihp ihq =>
    exact (ihp.mono (List.subset_append_left _ _)).append
      (ihq.mono (List.subset_append_right _ _))
  | group i p ih => exact ih.captured i
  | repeated lo hi greedy p ih => exact ih.rounds _ _ _ _ _
  | peek p ih => exact ih.looked false
  | forbid p ih => exact ih.looked true
  | atomic p ih => exact ih.take 1
  | keepOut =>
    intro pos slots w hw slot hslot
    rw [List.mem_singleton.mp hw, Slots.get?_cons, if_neg]
    rintro rfl
    exact hslot (List.mem_singleton.mpr rfl)

end Plan

end CodeShape.Regex
