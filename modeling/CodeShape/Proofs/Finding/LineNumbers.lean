import Mathlib
import CodeShape.LineIndex

/-!
# Line numbers count newlines

A newline is one byte, and no other character has this byte in it
(`newlineByte_mem_utf8EncodeChar`). So the lines of a text begin at its beginning and behind its
newline bytes (`countP_startsFrom`). Bisection is argued about once for any increasing array: whether
it ends at an entry or between two of them, it tells how many entries are not behind the offset
(`countP_eq_locate`). Both together say that the number of a line is one more than the number of
newlines before it, wherever the offset is (`lineOf_counts`).
-/

namespace CodeShape

/-! ## Newline bytes -/

/-- The byte of a newline. -/
def newlineByte : UInt8 := 0x0A

/-- The number of newlines at the byte positions of a text that are smaller than `offset`. -/
def newlinesBefore (text : String) (offset : Nat) : Nat :=
  (text.toUTF8.data.toList.take offset).count newlineByte

/-- The number of newlines of a text. -/
def newlines (text : String) : Nat :=
  text.toUTF8.data.toList.count newlineByte

theorem newlinesBefore_le_newlines (text : String) (offset : Nat) :
    newlinesBefore text offset ≤ newlines text :=
  (List.take_sublist _ _).count_le _

theorem newlinesBefore_mono (text : String) {offset offset' : Nat} (hle : offset ≤ offset') :
    newlinesBefore text offset ≤ newlinesBefore text offset' :=
  (List.take_sublist_take_left hle).count_le _

theorem toList_data_toUTF8 (text : String) :
    text.toUTF8.data.toList = text.toList.flatMap String.utf8EncodeChar := by
  obtain ⟨cs, rfl⟩ : ∃ cs, text = String.ofList cs := ⟨text.toList, String.ofList_toList.symm⟩
  rw [String.toUTF8_eq_toByteArray, String.toByteArray_ofList, String.toList_ofList]
  exact List.toList_data_toByteArray

theorem newlineByte_eq_ofNat {n : Nat} : newlineByte = UInt8.ofNat n ↔ n % 0x100 = 0x0A := by
  rw [← UInt8.toNat_inj, UInt8.toNat_ofNat']
  exact eq_comm

/-- Only a newline has the byte of a newline in it. -/
theorem newlineByte_mem_utf8EncodeChar {c : Char} :
    newlineByte ∈ String.utf8EncodeChar c ↔ c = '\n' := by
  have hchar : c = '\n' ↔ c.val.toNat = 0x0A := by
    rw [Char.ext_iff, ← UInt32.toNat_inj]
    rfl
  unfold String.utf8EncodeChar
  dsimp only
  rw [hchar]
  -- one byte is the character itself, and of several bytes each is at least 0x80
  split_ifs <;> simp only [List.mem_cons, newlineByte_eq_ofNat, List.not_mem_nil, or_false] <;> omega

theorem count_take_utf8EncodeChar (c : Char) (n : Nat) :
    ((String.utf8EncodeChar c).take n).count newlineByte = if c = '\n' ∧ 0 < n then 1 else 0 := by
  by_cases hc : c = '\n'
  · subst hc
    cases n with
    | zero => rfl
    | succ n =>
      rw [List.take_of_length_le (by rw [String.length_utf8EncodeChar]; exact Nat.succ_pos n),
        if_pos ⟨rfl, Nat.succ_pos n⟩]
      rfl
  · rw [if_neg fun h => hc h.1, List.count_eq_zero]
    exact fun h => hc (newlineByte_mem_utf8EncodeChar.mp (List.mem_of_mem_take h))

namespace LineIndex

/-! ## Where lines begin -/

/-- The lines begin further and further behind. -/
theorem pairwise_startsFrom (pos : Nat) (cs : List Char) :
    (pos :: startsFrom pos cs).Pairwise (· < ·) := by
  induction cs generalizing pos with
  | nil => exact List.pairwise_singleton _ _
  | cons c cs ih =>
    have hsize := c.utf8Size_pos
    obtain ⟨hbehind, hrest⟩ := List.pairwise_cons.mp (ih (pos + c.utf8Size))
    have hbehind' : ∀ start ∈ startsFrom (pos + c.utf8Size) cs, pos < start := fun start hstart =>
      Nat.lt_trans (by omega) (hbehind start hstart)
    rw [startsFrom]
    split
    next =>
      exact List.pairwise_cons.mpr ⟨List.forall_mem_cons.mpr ⟨by omega, hbehind'⟩, ih _⟩
    next => exact List.pairwise_cons.mpr ⟨hbehind', hrest⟩

/-- As many lines begin at an offset or before it, the first one apart, as there are newline bytes
before it. -/
theorem countP_startsFrom (pos : Nat) (cs : List Char) (offset : Nat) :
    (startsFrom pos cs).countP (· ≤ offset)
      = ((cs.flatMap String.utf8EncodeChar).take (offset - pos)).count newlineByte := by
  induction cs generalizing pos with
  | nil =>
    rw [List.flatMap_nil, List.take_nil]
    rfl
  | cons c cs ih =>
    rw [List.flatMap_cons, List.take_append, List.count_append, count_take_utf8EncodeChar,
      String.length_utf8EncodeChar, Nat.sub_sub, ← ih, startsFrom]
    by_cases hc : c = '\n'
    · have hsize : c.utf8Size = 1 := by rw [hc]; rfl
      rw [if_pos hc, List.countP_cons, hsize, Nat.add_comm]
      congr 1
      by_cases hle : pos + 1 ≤ offset
      · rw [if_pos (decide_eq_true hle), if_pos ⟨hc, by omega⟩]
      · rw [if_neg (by rwa [decide_eq_true_eq]), if_neg (by omega)]
    · rw [if_neg hc, if_neg fun h => hc h.1, Nat.zero_add]

/-! ## Bisection -/

section Bisection

variable {starts : Array Nat} {offset : Nat}

theorem getD_eq_getElem_toList {j : Nat} (hj : j < starts.toList.length) :
    starts.getD j 0 = starts.toList[j] := by
  rw [Array.getD_eq_getD_getElem?, Array.getElem?_eq_getElem hj]
  rfl

/-- If the entries before an index are at most the offset, and those from there on are not, then the
index is the number of entries that are at most the offset. -/
theorem countP_eq_of_parted {k : Nat} (hk : k ≤ starts.size)
    (hbefore : ∀ j < k, starts.getD j 0 ≤ offset)
    (hbehind : ∀ j, k ≤ j → j < starts.size → offset < starts.getD j 0) :
    starts.toList.countP (· ≤ offset) = k := by
  have hfront : (starts.toList.take k).countP (· ≤ offset) = (starts.toList.take k).length := by
    refine List.countP_eq_length.mpr fun start hstart => ?_
    obtain ⟨j, hj, rfl⟩ := List.mem_take_iff_getElem.mp hstart
    obtain ⟨hjk, hsize⟩ := Nat.lt_min.mp hj
    rw [← getD_eq_getElem_toList hsize]
    exact decide_eq_true (hbefore j hjk)
  have hback : (starts.toList.drop k).countP (· ≤ offset) = 0 := by
    refine List.countP_eq_zero.mpr fun start hstart => ?_
    obtain ⟨j, hj, rfl⟩ := List.mem_drop_iff_getElem.mp hstart
    rw [Nat.add_comm] at hj
    rw [← getD_eq_getElem_toList hj, decide_eq_true_eq]
    exact Nat.not_le.mpr (hbehind _ (Nat.le_add_right k j) hj)
  rw [← List.take_append_drop k starts.toList, List.countP_append, hfront, hback, List.length_take,
    Array.length_toList, Nat.min_eq_left hk]
  rfl

/-- **Bisection counts the entries that are at most the offset**, in an increasing array. Of the
entries that it has ruled out, those on the left are smaller and those on the right are greater. -/
theorem countP_eq_locate (hsorted : starts.toList.Pairwise (· < ·)) {lo hi : Nat} (hlo : lo ≤ hi)
    (hhi : hi ≤ starts.size) (hbefore : ∀ j < lo, starts.getD j 0 < offset)
    (hbehind : ∀ j, hi ≤ j → j < starts.size → offset < starts.getD j 0) :
    starts.toList.countP (· ≤ offset) = entriesUpTo (locate starts offset lo hi) := by
  have hless (i j : Nat) (hij : i < j) (hj : j < starts.size) :
      starts.getD i 0 < starts.getD j 0 := by
    rw [getD_eq_getElem_toList (Nat.lt_trans hij hj), getD_eq_getElem_toList hj]
    exact List.pairwise_iff_getElem.mp hsorted i j _ _ hij
  fun_induction locate starts offset lo hi with
  | case1 lo hi hlt mid start hstart =>
    rw [entriesUpTo]
    refine countP_eq_of_parted (by omega) (fun j hj => ?_) fun j hj hsize => ?_
    · rcases Nat.lt_or_eq_of_le (Nat.le_of_lt_succ hj) with hj | rfl
      · exact Nat.le_of_lt (hstart ▸ hless j mid hj (by omega))
      · exact Nat.le_of_eq hstart
    · exact hstart ▸ hless mid j (by omega) hsize
  | case2 lo hi hlt mid start hne hstart ih =>
    refine ih (by omega) hhi (fun j hj => ?_) hbehind
    rcases Nat.lt_or_eq_of_le (Nat.le_of_lt_succ hj) with hj | rfl
    · exact Nat.lt_trans (hless j mid hj (by omega)) hstart
    · exact hstart
  | case3 lo hi hlt mid start hne hnot ih =>
    have hstart : offset < start := by omega
    refine ih (by omega) (by omega) hbefore fun j hj hsize => ?_
    rcases Nat.lt_or_eq_of_le hj with hj | rfl
    · exact Nat.lt_trans hstart (hless mid j hj hsize)
    · exact hstart
  | case4 lo hi hlt =>
    obtain rfl : lo = hi := by omega
    exact countP_eq_of_parted hhi (fun j hj => Nat.le_of_lt (hbefore j hj)) hbehind

end Bisection

/-! ## The line of an offset -/

/-- The number of a line counts the newlines before it, as far as 32 bits can tell. -/
theorem lineOf_ofText (text : String) (offset : Nat) :
    (ofText text.toList).lineOf offset = (1 + newlinesBefore text offset) % lineNumbers := by
  have hlocate : (ofText text.toList).starts.toList.countP (· ≤ offset)
      = entriesUpTo (locate (ofText text.toList).starts offset 0 (ofText text.toList).starts.size) :=
    countP_eq_locate (pairwise_startsFrom 0 text.toList) (Nat.zero_le _) (Nat.le_refl _) nofun
      fun j hj hsize => absurd hsize (Nat.not_lt.mpr hj)
  have hcount : (ofText text.toList).starts.toList.countP (· ≤ offset)
      = 1 + newlinesBefore text offset := by
    rw [ofText, List.countP_cons, countP_startsFrom, if_pos (decide_eq_true (Nat.zero_le _)),
      newlinesBefore, toList_data_toUTF8, Nat.sub_zero, Nat.add_comm]
  rw [lineOf, ← hlocate, hcount]

/-- There are enough numbers for the lines of a text if it has few newlines. -/
theorem lineOf_eq {text : String} (hlines : newlines text < 2 ^ 32 - 1) (offset : Nat) :
    (ofText text.toList).lineOf offset = 1 + newlinesBefore text offset := by
  have hle := newlinesBefore_le_newlines text offset
  rw [lineOf_ofText, lineNumbers]
  exact Nat.mod_eq_of_lt (by omega)

/-- **The number of a line is one more than the number of newlines before it.** This holds at every
byte offset, also in the middle of a character and behind the end of the text, if there are enough
numbers for the lines of the text. So no number is greater than the number of lines, and numbers do
not decrease as the offset grows. -/
theorem lineOf_counts (text : String) (hlines : newlines text < 2 ^ 32 - 1) :
    (∀ offset, (ofText text.toList).lineOf offset = 1 + newlinesBefore text offset) ∧
      (∀ offset, (ofText text.toList).lineOf offset ≤ 1 + newlines text) ∧
      ∀ offset offset', offset ≤ offset' →
        (ofText text.toList).lineOf offset ≤ (ofText text.toList).lineOf offset' := by
  refine ⟨lineOf_eq hlines, fun offset => ?_, fun offset offset' hle => ?_⟩
  · rw [lineOf_eq hlines]
    exact Nat.add_le_add_left (newlinesBefore_le_newlines text offset) 1
  · rw [lineOf_eq hlines, lineOf_eq hlines]
    exact Nat.add_le_add_left (newlinesBefore_mono text hle) 1

/-- A text with a character of two bytes and an empty line, in the middle of the character, behind a
newline and behind the end. -/
theorem lineOf_counts_multibyte :
    newlines "é\n\na" < 2 ^ 32 - 1 ∧
      (ofText "é\n\na".toList).lineOf 1 = 1 + newlinesBefore "é\n\na" 1 ∧
      (ofText "é\n\na".toList).lineOf 3 = 1 + newlinesBefore "é\n\na" 3 ∧
      (ofText "é\n\na".toList).lineOf 9 = 1 + newlinesBefore "é\n\na" 9 ∧
      [1, 3, 9].map (newlinesBefore "é\n\na") = [0, 1, 2] ∧
      ∀ offset offset', offset ≤ offset' → (ofText "é\n\na".toList).lineOf offset
        ≤ (ofText "é\n\na".toList).lineOf offset' := by
  have hlines : newlines "é\n\na" < 2 ^ 32 - 1 := by cbv
  obtain ⟨hline, -, hmono⟩ := lineOf_counts "é\n\na" hlines
  exact ⟨hlines, hline 1, hline 3, hline 9, by cbv, hmono⟩

end LineIndex

end CodeShape
