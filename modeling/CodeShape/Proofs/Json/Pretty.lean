import CodeShape.Proofs.Json.Grammar

/-!
# What is written is JSON

The indented form of a value is a JSON text of it (`written_pretty`), whatever characters its strings
hold.
-/

namespace CodeShape.Json

/-! ## Strings and numbers -/

/-- The two digits of a control character are those of its number. -/
theorem codeUnit_hexPair {n : Nat} (h : n < 0x20) : CodeUnit n ('0' :: '0' :: hexPair n) := by
  have hall : ∀ m < 0x20, ('0' :: '0' :: hexPair m).length = 4 ∧
      ('0' :: '0' :: hexPair m).all (Text.isDigitIn 16) = true ∧
      Text.digitsValue 16 ('0' :: '0' :: hexPair m) = m := by decide
  obtain ⟨hlength, hdigits, hvalue⟩ := hall n h
  exact ⟨hlength, hdigits, hvalue⟩

/-- A character of a string is written as JSON wants it, escaped or not. -/
theorem charWritten_stringChar (c : Char) : CharWritten c (stringChar c) := by
  unfold stringChar
  split
  · exact .short rfl
  · exact .short rfl
  · exact .short rfl
  · exact .short rfl
  · exact .short rfl
  · exact .short rfl
  · exact .short rfl
  · next hquote hslash _ _ _ _ _ =>
    split
    · next hcontrol => exact .unit (codeUnit_hexPair hcontrol)
    · next hcontrol => exact .plain hquote hslash (Nat.le_of_not_lt hcontrol)

theorem charsWritten_flatMap (s : List Char) : CharsWritten s (s.flatMap stringChar) := by
  induction s with
  | nil => exact .nil
  | cons c s ih => exact .cons (charWritten_stringChar c) ih

theorem digitsValue_eq_ofDigitChars {ds : List Char} (h : ∀ d ∈ ds, d.isDigit = true) :
    Text.digitsValue 10 ds = Nat.ofDigitChars 10 ds 0 := by
  unfold Text.digitsValue Nat.ofDigitChars
  refine List.foldl_ext _ _ 0 fun n d hd => ?_
  rw [Text.digitValue?, if_pos (h d hd)]
  rfl

/-- A number other than zero does not begin with the digit zero. -/
theorem head_toDigits_ne_zero (n : Nat) (hn : n ≠ 0) : (Nat.toDigits 10 n).head? ≠ some '0' := by
  induction n using Nat.strongRecOn with
  | ind n ih =>
    by_cases hlt : n < 10
    · rw [Nat.toDigits_of_lt_base hlt]
      have hall : ∀ m < 10, m ≠ 0 → [Nat.digitChar m].head? ≠ some '0' := by decide
      exact hall n hlt hn
    · rw [Nat.toDigits_of_base_le (by decide) (Nat.le_of_not_lt hlt),
        List.head?_append_of_ne_nil _ Nat.toDigits_ne_nil]
      exact ih (n / 10) (by omega) (by omega)

theorem numeral_toDigits (n : Nat) : Numeral n (Nat.toDigits 10 n) where
  ne_nil := Nat.toDigits_ne_nil
  digits := fun d hd => Nat.isDigit_of_mem_toDigits (by decide) (by decide) hd
  zero := by
    intro hhead
    by_cases hn : n = 0
    · subst hn
      rfl
    · exact absurd hhead (head_toDigits_ne_zero n hn)
  value := by
    rw [digitsValue_eq_ofDigitChars fun d hd => Nat.isDigit_of_mem_toDigits (by decide) (by decide) hd]
    exact Nat.ofDigitChars_ten_toDigits

/-! ## Values -/

theorem blank_newline (level : Nat) : Blank (newline level) := by
  intro c hc
  rcases List.mem_cons.mp hc with rfl | hc
  · rfl
  · rw [List.eq_of_mem_replicate hc]
    rfl

theorem blank_nil : Blank [] :=
  fun _ hc => nomatch hc

mutual

/-- **The indented form of a value is a JSON text of it.** -/
theorem written_pretty (level : Nat) : ∀ v : Value, Written v (pretty level v)
  | .number n => by
    rw [pretty]
    exact .number (numeral_toDigits n)
  | .string s => by
    rw [pretty]
    exact .string (charsWritten_flatMap s.toList)
  | .array [] => by
    rw [pretty]
    exact .emptyArray blank_nil
  | .array (v :: vs) => by
    have h := elementsWritten_pretty (level + 1) level v vs
    rw [pretty]
    simpa only [List.cons_append, List.append_assoc] using Written.array h
  | .object [] => by
    rw [pretty]
    exact .emptyObject blank_nil
  | .object (m :: ms) => by
    have h := membersWritten_pretty (level + 1) level m ms
    rw [pretty]
    simpa only [List.cons_append, List.append_assoc] using Written.object h
termination_by v => sizeOf v

/-- The elements of an array, up to the new line before the closing bracket. -/
theorem elementsWritten_pretty (level outer : Nat) : ∀ (v : Value) (vs : List Value),
    ElementsWritten (v :: vs)
      (newline level ++ pretty level v ++ prettyElements level vs ++ newline outer)
  | v, [] => by
    rw [prettyElements, List.append_nil]
    exact .one (blank_newline level) (written_pretty level v) (blank_newline outer)
  | v, w :: vs => by
    have h := ElementsWritten.cons (blank_newline level) (written_pretty level v) blank_nil
      (elementsWritten_pretty level outer w vs)
    rw [prettyElements]
    simpa only [List.cons_append, List.append_assoc, List.append_nil, List.nil_append] using h
termination_by v vs => 1 + sizeOf v + sizeOf vs

/-- The members of an object, up to the new line before the closing brace. -/
theorem membersWritten_pretty (level outer : Nat) : ∀ (m : String × Value) (ms : List (String × Value)),
    MembersWritten (m :: ms)
      (newline level ++ prettyMember level m ++ prettyMembers level ms ++ newline outer)
  | (key, v), [] => by
    have hb : Blank [' '] := fun c hc => List.mem_singleton.mp hc ▸ rfl
    have h := MembersWritten.one (blank_newline level) (charsWritten_flatMap key.toList)
      blank_nil hb (written_pretty level v) (blank_newline outer)
    rw [prettyMembers, prettyMember]
    simpa only [string, List.cons_append, List.append_assoc, List.append_nil, List.nil_append] using h
  | (key, v), m :: ms => by
    have hb : Blank [' '] := fun c hc => List.mem_singleton.mp hc ▸ rfl
    have h := MembersWritten.cons (blank_newline level) (charsWritten_flatMap key.toList)
      blank_nil hb (written_pretty level v) blank_nil (membersWritten_pretty level outer m ms)
    rw [prettyMembers, prettyMember]
    simpa only [string, List.cons_append, List.append_assoc, List.append_nil, List.nil_append] using h
termination_by m ms => 1 + sizeOf m + sizeOf ms

end

end CodeShape.Json
