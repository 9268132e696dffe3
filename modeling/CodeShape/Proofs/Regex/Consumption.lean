import Mathlib.Data.List.TakeDrop
import Mathlib.Data.List.TakeWhile
import CodeShape.Proofs.Fallible
import CodeShape.Regex.Parser

/-!
# What the reader takes

Whoever wants to find the end of an expression from outside, without reading it, has to know what
the reader may take for something else than a parenthesis, a bracket or a backslash. Behind a
backslash that is nothing but the character right there: the name, the number or the property that
may follow is free of these characters (`Skims`). In brackets it is what `ClassText` describes, and
in a comment `CommentText`; both end at a place that their own characters determine
(`ClassText.unique`, `CommentText.unique`).
-/

namespace CodeShape.Regex

variable {cs ds rest : List Char}

/-! ## Texts without parentheses, brackets and backslashes -/

/-- The characters that decide where a group or a class ends. -/
def delimiters : List Char := ['\\', '[', ']', '(', ')']

/-- A text without any of the delimiters. -/
def Bare (cs : List Char) : Prop :=
  ∀ c ∈ cs, c ∉ delimiters

instance (cs : List Char) : Decidable (Bare cs) :=
  List.decidableBAll (fun c => c ∉ delimiters) cs

theorem bare_nil : Bare [] := nofun

theorem bare_cons {c : Char} : Bare (c :: cs) ↔ c ∉ delimiters ∧ Bare cs :=
  List.forall_mem_cons

theorem bare_append : Bare (cs ++ ds) ↔ Bare cs ∧ Bare ds :=
  List.forall_mem_append

/-- What is left when a bare text has been read. -/
def Skims (cs rest : List Char) : Prop :=
  ∃ front, cs = front ++ rest ∧ Bare front

theorem Skims.refl (cs : List Char) : Skims cs cs :=
  ⟨[], rfl, bare_nil⟩

theorem Skims.trans (h : Skims cs ds) (h' : Skims ds rest) : Skims cs rest := by
  obtain ⟨front, rfl, hfront⟩ := h
  obtain ⟨back, rfl, hback⟩ := h'
  exact ⟨front ++ back, (List.append_assoc ..).symm, bare_append.mpr ⟨hfront, hback⟩⟩

theorem Skims.cons {c : Char} (hc : c ∉ delimiters) (h : Skims cs rest) : Skims (c :: cs) rest := by
  obtain ⟨front, rfl, hfront⟩ := h
  exact ⟨c :: front, rfl, bare_cons.mpr ⟨hc, hfront⟩⟩

theorem skims_drop {n : Nat} (h : ∀ c ∈ cs.take n, c ∉ delimiters) : Skims cs (cs.drop n) :=
  ⟨cs.take n, (List.take_append_drop n cs).symm, h⟩

theorem skims_dropWhile {p : Char → Bool} (h : ∀ c, p c = true → c ∉ delimiters) :
    Skims cs (cs.dropWhile p) :=
  ⟨cs.takeWhile p, List.takeWhile_append_dropWhile.symm, fun _ hc => h _ (List.mem_takeWhile_imp hc)⟩

/-- Characters of which no delimiter is one. -/
theorem not_delimiter {p : Char → Bool} (h : delimiters.any p = false) {c : Char}
    (hc : p c = true) : c ∉ delimiters := fun hmem => by
  rw [List.any_eq_false] at h
  exact h c hmem hc

/-- Where a span ends: its characters have the property, and the one behind it has not. -/
theorem span_eq_cons_iff {p : Char → Bool} {front : List Char} {c : Char} :
    cs.span p = (front, c :: rest) ↔
      cs = front ++ c :: rest ∧ (∀ d ∈ front, p d = true) ∧ p c = false := by
  rw [List.span_eq_takeWhile_dropWhile]
  constructor
  · intro h
    obtain ⟨rfl, hdrop⟩ := Prod.mk.inj h
    have hstop := List.head?_dropWhile_not p cs
    rw [hdrop] at hstop
    rw [← hdrop]
    exact ⟨List.takeWhile_append_dropWhile.symm, fun d hd => List.mem_takeWhile_imp hd, hstop⟩
  · rintro ⟨rfl, hfront, hc⟩
    rw [List.takeWhile_append_of_pos hfront, List.dropWhile_append_of_pos hfront,
      List.takeWhile_cons_of_neg (by simp [hc]), List.dropWhile_cons_of_neg (by simp [hc]),
      List.append_nil]

/-! ## Names and numbers -/

theorem readDecimal?_skims {n : Nat} (h : readDecimal? cs = some (n, rest)) : Skims cs rest := by
  unfold readDecimal? at h
  dsimp only at h
  split at h
  · cases h
  · cases h
    exact skims_dropWhile fun c => not_delimiter (by decide)

theorem readDecimal?_cons_skims {c : Char} {n : Nat} (hc : c.isDigit = true)
    (h : readDecimal? (c :: cs) = some (n, rest)) : Skims cs rest := by
  unfold readDecimal? at h
  dsimp only at h
  split at h
  · cases h
  · rw [List.dropWhile_cons_of_pos hc] at h
    cases h
    exact skims_dropWhile fun c => not_delimiter (by decide)

/-- The characters of the names of groups. -/
def isNameChar (c : Char) : Bool :=
  c.isAlphanum || c == '_' || (0x80 ≤ c.toNat && Unicode.isWord c)

/-- A name is as long as it can be, and stands before the delimiter that ends it. -/
theorem Reader.readName_ok_iff {stop : Char} {name : List Char} :
    readName stop cs = .ok (name, rest) ↔ cs = name ++ stop :: rest ∧ name ≠ [] ∧
      (∀ d ∈ name, isNameChar d = true) ∧ isNameChar stop = false := by
  constructor
  · intro h
    unfold readName at h
    split at h
    next name' c rest' heq =>
      obtain ⟨rfl, hname, hc⟩ := span_eq_cons_iff.mp heq
      split at h
      next => cases h
      next hends =>
        obtain ⟨hne, hstop⟩ := not_or.mp (Bool.or_eq_true .. ▸ hends)
        cases h
        rw [bne_iff_ne, not_not] at hstop
        exact ⟨by rw [hstop], fun hnil => hne (List.isEmpty_iff.mpr hnil), hname, hstop ▸ hc⟩
    next => cases h
  · rintro ⟨rfl, hne, hname, hstop⟩
    have hspan : (name ++ stop :: rest).span (fun c => c.isAlphanum || c == '_' ||
        (0x80 ≤ c.toNat && Unicode.isWord c)) = (name, stop :: rest) :=
      span_eq_cons_iff.mpr ⟨rfl, hname, hstop⟩
    rw [readName, hspan]
    simp [hne]

theorem Reader.readName_eq {stop : Char} {name : List Char}
    (h : readName stop cs = .ok (name, rest)) : cs = name ++ stop :: rest ∧ Bare name := by
  obtain ⟨hcs, -, hname, -⟩ := readName_ok_iff.mp h
  exact ⟨hcs, fun d hd => not_delimiter (by decide) (hname d hd)⟩

theorem isDigitIn_not_delimiter {c : Char} (h : Text.isDigitIn 16 c = true) : c ∉ delimiters :=
  not_delimiter (by decide) h

theorem characterOf?_bare {digits : List Char} {c : Char}
    (h : Text.characterOf? digits = some c) : Bare (digits ++ ['}']) := by
  unfold Text.characterOf? at h
  dsimp only at h
  split at h
  next hcode =>
    obtain ⟨hall, -⟩ := Bool.and_eq_true .. ▸ hcode
    refine bare_append.mpr ⟨fun d hd => ?_, bare_cons.mpr ⟨by decide, bare_nil⟩⟩
    exact isDigitIn_not_delimiter (List.all_eq_true.mp hall d hd)
  next => cases h

theorem readCharacterCode_skims {width : Nat} {c : Char}
    (h : readCharacterCode width cs = .ok (c, rest)) : Skims cs rest := by
  unfold readCharacterCode at h
  dsimp only at h
  split at h
  next hwidth =>
    obtain ⟨-, hdigits⟩ := Bool.and_eq_true .. ▸ hwidth
    split at h
    · cases h
      exact skims_drop fun d hd => isDigitIn_not_delimiter (List.all_eq_true.mp hdigits d hd)
    · cases h
  next =>
    split at h
    next inside _ =>
      split at h
      next digits rest' heq =>
        obtain ⟨rfl, -, -⟩ := span_eq_cons_iff.mp heq
        split at h
        next => cases h
        next =>
          split at h
          next d hd =>
            cases h
            exact .cons (by decide) ⟨digits ++ ['}'], by simp, characterOf?_bare hd⟩
          next => cases h
      next => cases h
    next => cases h

/-! ## Names of properties

A delimiter in a name is left in the form in which names are compared, and there is no property of
such a name. -/

theorem bare_of_propertyKey {name : List Char} (h : Bare (CharSet.propertyKey name).toList) :
    Bare name := by
  intro c hc hdelim
  have hkept : (delimiters.all fun d =>
      d.toLower = d ∧ d ≠ ' ' ∧ d ≠ '_' ∧ d ≠ '-' ∧ d ≠ 'i' ∧ d ≠ 's') = true := by decide
  obtain ⟨hlower, hblank, hunderscore, hhyphen, hi, hs⟩ :=
    of_decide_eq_true (List.all_eq_true.mp hkept c hdelim)
  have hplain : c ∈ (name.filter fun c => c != ' ' && c != '_' && c != '-').map Char.toLower := by
    refine List.mem_map.mpr ⟨c, List.mem_filter.mpr ⟨hc, ?_⟩, hlower⟩
    simp [hblank, hunderscore, hhyphen]
  refine h c ?_ hdelim
  unfold CharSet.propertyKey
  dsimp only
  split
  next rest heq =>
    split
    · rwa [String.toList_ofList]
    · rw [heq] at hplain
      rw [String.toList_ofList]
      simpa [hi, hs] using hplain
  next => rwa [String.toList_ofList]

/-- Names of letters and digits are bare. -/
theorem bare_of_lookup {α : Type} {tables : List (String × α)} {key : String} {a : α}
    (htables : (tables.all fun e => e.1.toList.all Char.isAlphanum) = true)
    (h : tables.lookup key = some a) : Bare key.toList := by
  have hdelimiters : (delimiters.all fun d => !d.isAlphanum) = true := by decide
  obtain ⟨before, after, rfl, -⟩ := List.lookup_eq_some_iff.mp h
  have hkey : key.toList.all Char.isAlphanum = true :=
    List.all_eq_true.mp htables (key, a) (List.mem_append_right _ List.mem_cons_self)
  intro c hc hdelimiter
  have hplain : c.isAlphanum = true := List.all_eq_true.mp hkey c hc
  have hother : (!c.isAlphanum) = true := List.all_eq_true.mp hdelimiters c hdelimiter
  rw [hplain] at hother
  cases hother

theorem ofCategory?_bare {key : String} {s : CharSet} (h : CharSet.ofCategory? key = some s) :
    Bare key.toList := by
  unfold CharSet.ofCategory? at h
  split at h
  next hlookup =>
    exact bare_of_lookup (by decide +kernel) hlookup
  next =>
    split at h
    next hlookup =>
      exact bare_of_lookup (by decide) hlookup
    next =>
      split at h
      · decide
      · decide
      · decide
      · cases h

theorem ofScript?_bare {key : String} {s : CharSet} (h : CharSet.ofScript? key = some s) :
    Bare key.toList := by
  obtain ⟨bounds, hlookup, -⟩ := Option.map_eq_some_iff.mp h
  exact bare_of_lookup (by decide +kernel) hlookup

theorem ofBinaryProperty?_bare {key : String} {s : CharSet}
    (h : CharSet.ofBinaryProperty? key = some s) : Bare key.toList := by
  obtain ⟨bounds, hlookup, -⟩ := Option.map_eq_some_iff.mp h
  exact bare_of_lookup (by decide +kernel) hlookup

theorem ofName?_bare {name : List Char} {s : CharSet} (h : CharSet.ofName? name = some s) :
    Bare name := by
  refine bare_of_propertyKey ?_
  unfold CharSet.ofName? at h
  dsimp only at h
  rcases hbinary : CharSet.ofBinaryProperty? (CharSet.propertyKey name) with _ | s'
  · rw [hbinary, Option.orElse_none] at h
    rcases hcategory : CharSet.ofCategory? (CharSet.propertyKey name) with _ | s'
    · rw [hcategory, Option.orElse_none] at h
      exact ofScript?_bare h
    · exact ofCategory?_bare hcategory
  · exact ofBinaryProperty?_bare hbinary

theorem ofValue?_bare {property value : List Char} {s : CharSet}
    (h : CharSet.ofValue? property value = some s) : Bare property ∧ Bare value := by
  have hproperty : Bare (CharSet.propertyKey property).toList := by
    unfold CharSet.ofValue? at h
    split at h
    next hkey => rw [hkey]; decide
    next hkey => rw [hkey]; decide
    next hkey => rw [hkey]; decide
    next hkey => rw [hkey]; decide
    next hkey => rw [hkey]; decide
    next hkey => rw [hkey]; decide
    next => cases h
  refine ⟨bare_of_propertyKey hproperty, bare_of_propertyKey ?_⟩
  unfold CharSet.ofValue? at h
  split at h
  next => exact ofCategory?_bare h
  next => exact ofCategory?_bare h
  next => exact ofScript?_bare h
  next => exact ofScript?_bare h
  next => exact ofScript?_bare h
  next => exact ofScript?_bare h
  next => cases h

theorem ofProperty?_bare {name : List Char} {s : CharSet}
    (h : CharSet.ofProperty? name = some s) : Bare name := by
  fun_induction CharSet.ofProperty? name generalizing s with
  | case1 rest ih =>
    obtain ⟨t, ht, -⟩ := Option.map_eq_some_iff.mp h
    exact bare_cons.mpr ⟨by decide, ih ht⟩
  | case2 name property value heq =>
    simp only [heq] at h
    obtain ⟨t, ht, -⟩ := Option.map_eq_some_iff.mp h
    obtain ⟨rfl, -, -⟩ := span_eq_cons_iff.mp heq
    obtain ⟨hproperty, hvalue⟩ := ofValue?_bare ht
    exact bare_append.mpr
      ⟨hproperty, bare_cons.mpr ⟨by decide, bare_cons.mpr ⟨by decide, hvalue⟩⟩⟩
  | case3 name property c value heq =>
    simp only [heq] at h
    obtain ⟨rfl, -, hc⟩ := span_eq_cons_iff.mp heq
    obtain ⟨hproperty, hvalue⟩ := ofValue?_bare h
    refine bare_append.mpr ⟨hproperty, bare_cons.mpr ⟨?_, hvalue⟩⟩
    refine not_delimiter (p := fun c => !(c != '=' && c != ':')) (by decide) ?_
    rw [hc, Bool.not_false]
  | case4 name property heq =>
    simp only [heq] at h
    exact ofName?_bare h

/-- How the name of a property is written: in braces, or as the one character that it has. -/
inductive NamesProperty : List Char → List Char → List Char → Prop
  | braces {name rest : List Char} (hname : ∀ d ∈ name, (d != '}') = true) :
      NamesProperty ('{' :: (name ++ '}' :: rest)) name rest
  | char {c : Char} {rest : List Char} (hc : c ≠ '{') : NamesProperty (c :: rest) [c] rest

/-- A property is read if there is one of the name that is written. -/
theorem readProperty_ok_iff {negated ignoreCase : Bool} {s : CharSet} :
    readProperty negated ignoreCase cs = .ok (s, rest) ↔
      ∃ name t, NamesProperty cs name rest ∧ CharSet.ofProperty? name = some t ∧
        s = if negated then .compl (t.withCase ignoreCase) else t.withCase ignoreCase := by
  constructor
  · intro h
    unfold readProperty at h
    dsimp only at h
    split at h
    next inside =>
      split at h
      next name rest' heq =>
        obtain ⟨rfl, hname, -⟩ := span_eq_cons_iff.mp heq
        split at h
        next t ht =>
          cases h
          exact ⟨name, t, .braces hname, ht, rfl⟩
        next => cases h
      next => cases h
    next c rest' hbrace =>
      split at h
      next t ht =>
        cases h
        exact ⟨[c], t, .char hbrace, ht, rfl⟩
      next => cases h
    next => cases h
  · rintro ⟨name, t, hnames, ht, rfl⟩
    cases hnames with
    | braces hname =>
      have hspan : (name ++ '}' :: rest).span (· != '}') = (name, '}' :: rest) :=
        span_eq_cons_iff.mpr ⟨rfl, hname, rfl⟩
      simp only [readProperty, hspan, ht]
    | @char c _ hc =>
      rw [readProperty]
      · simp only [ht]
      · exact hc

theorem readProperty_skims {negated ignoreCase : Bool} {s : CharSet}
    (h : readProperty negated ignoreCase cs = .ok (s, rest)) : Skims cs rest := by
  obtain ⟨name, t, hnames, ht, -⟩ := readProperty_ok_iff.mp h
  have hbare : Bare name := ofProperty?_bare ht
  cases hnames with
  | braces =>
    refine .cons (by decide) ⟨name ++ ['}'], by simp, ?_⟩
    exact bare_append.mpr ⟨hbare, bare_cons.mpr ⟨by decide, bare_nil⟩⟩
  | char => exact .cons (bare_cons.mp hbare).1 (.refl _)

/-! ## Escapes -/

/-- What stands for characters behind a backslash is bare but for its first character. -/
theorem readEscape_skims {ignoreCase : Bool} {c : Char} {e : Escaped}
    (h : readEscape ignoreCase (c :: cs) = .ok (e, rest)) : Skims cs rest := by
  have number : ∀ width, (readCharacterCode width cs >>= fun p => pure (.char p.1, p.2))
      = .ok (e, rest) → Skims cs rest := by
    intro width h
    obtain ⟨⟨d, rest'⟩, hd, heq⟩ := bind_eq_ok_iff.mp h
    cases heq
    exact readCharacterCode_skims hd
  unfold readEscape at h
  dsimp only at h
  split at h
  next => exact number 2 h
  next => exact number 4 h
  next => exact number 8 h
  next =>
    obtain ⟨⟨s, rest'⟩, hs, heq⟩ := bind_eq_ok_iff.mp h
    cases heq
    exact readProperty_skims hs
  next =>
    obtain ⟨⟨s, rest'⟩, hs, heq⟩ := bind_eq_ok_iff.mp h
    cases heq
    exact readProperty_skims hs
  next =>
    split at h
    next => cases h; exact .refl _
    next => cases h; exact .refl _
    next =>
      split at h
      next => cases h
      next => cases h; exact .refl _

theorem Bracket.readClassEscape_skims {ignoreCase : Bool} {c : Char} {e : Escaped}
    (h : readClassEscape ignoreCase (c :: cs) = .ok (e, rest)) : Skims cs rest := by
  unfold readClassEscape at h
  split at h
  next heq =>
    cases heq
    cases h
    exact .refl _
  next heq =>
    cases heq
    split at h
    next => cases h; exact .refl _
    next => exact readEscape_skims h
  next => cases h

namespace Reader

variable {r s : Reader}

/-- A reference takes its name and the delimiter behind it. -/
theorem readBackref_eq {stop : Char} (h : r.readBackref stop cs = .ok (s, rest)) :
    ∃ name, cs = name ++ stop :: rest ∧ Bare name := by
  unfold readBackref at h
  split at h
  next =>
    obtain ⟨⟨name, rest'⟩, hname, hrefer⟩ := bind_eq_ok_iff.mp h
    obtain ⟨rfl, hbare⟩ := readName_eq hname
    refine ⟨'-' :: name, ?_, bare_cons.mpr ⟨by decide, hbare⟩⟩
    dsimp only at hrefer
    split at hrefer
    next =>
      split at hrefer
      next => cases hrefer
      next =>
        obtain ⟨s', -, heq⟩ := bind_eq_ok_iff.mp hrefer
        cases heq
        rfl
    next => cases hrefer
  next =>
    obtain ⟨⟨name, rest'⟩, hname, hrefer⟩ := bind_eq_ok_iff.mp h
    obtain ⟨rfl, hbare⟩ := readName_eq hname
    obtain ⟨s', -, heq⟩ := bind_eq_ok_iff.mp hrefer
    cases heq
    exact ⟨name, rfl, hbare⟩

theorem readBackref_skims {stop : Char} (hstop : stop ∉ delimiters)
    (h : r.readBackref stop cs = .ok (s, rest)) : Skims cs rest := by
  obtain ⟨name, rfl, hname⟩ := readBackref_eq h
  exact ⟨name ++ [stop], by simp, bare_append.mpr ⟨hname, bare_cons.mpr ⟨hstop, bare_nil⟩⟩⟩

/-- **Behind a backslash** the reader takes the next character, whatever it is, and nothing else but
what is bare. -/
theorem readBackslash_skims {len : Nat} (h : r.readBackslash len cs = .ok (s, rest)) :
    ∃ c more, cs = c :: more ∧ Skims more rest := by
  unfold readBackslash at h
  split at h
  next => cases h
  next => exact ⟨_, _, rfl, .cons (by decide) (readBackref_skims (by decide) h)⟩
  next => exact ⟨_, _, rfl, .cons (by decide) (readBackref_skims (by decide) h)⟩
  next => cases h
  next => cases h; exact ⟨_, _, rfl, .refl _⟩
  next => cases h; exact ⟨_, _, rfl, .refl _⟩
  next => cases h
  next => cases h
  next => cases h; exact ⟨_, _, rfl, .refl _⟩
  next => cases h; exact ⟨_, _, rfl, .refl _⟩
  next => cases h; exact ⟨_, _, rfl, .refl _⟩
  next => cases h; exact ⟨_, _, rfl, .refl _⟩
  next => cases h; exact ⟨_, _, rfl, .refl _⟩
  next => cases h; exact ⟨_, _, rfl, .refl _⟩
  next c more _ _ _ _ _ _ _ _ _ _ _ _ _ =>
    split at h
    next hdigit =>
      split at h
      next g rest' hread =>
        split at h
        next =>
          obtain ⟨s', -, heq⟩ := bind_eq_ok_iff.mp h
          cases heq
          exact ⟨c, more, rfl, readDecimal?_cons_skims hdigit hread⟩
        next => cases h
      next => cases h
    next =>
      obtain ⟨⟨e, rest'⟩, he, heq⟩ := bind_eq_ok_iff.mp h
      cases heq
      exact ⟨c, more, rfl, readEscape_skims he⟩

end Reader

/-! ## Classes in brackets -/

/-- The rest of a class up to the bracket that closes it, `depth` brackets inside the class being
open. -/
inductive Enclosed : Nat → List Char → Prop where
  | close : Enclosed 0 [']']
  | inner {depth : Nat} {cs : List Char} : Enclosed depth cs → Enclosed (depth + 1) (']' :: cs)
  | opened {depth : Nat} {cs : List Char} : Enclosed (depth + 1) cs → Enclosed depth ('[' :: cs)
  | escaped {depth : Nat} (c : Char) {cs : List Char} :
    Enclosed depth cs → Enclosed depth ('\\' :: c :: cs)
  | char {depth : Nat} {c : Char} {cs : List Char} (hplain : c ∉ ['\\', '[', ']']) :
    Enclosed depth cs → Enclosed depth (c :: cs)

/-- A class from behind its opening bracket on. A closing bracket that comes first, perhaps behind
`^`, is a member of the class. -/
inductive ClassText : List Char → Prop where
  | member {cs : List Char} : Enclosed 0 cs → ClassText (']' :: cs)
  | complement {cs : List Char} : Enclosed 0 cs → ClassText ('^' :: ']' :: cs)
  | plain {cs : List Char} (hmember : ¬ [']'] <+: cs) (hcomplement : ¬ ['^', ']'] <+: cs) :
    Enclosed 0 cs → ClassText cs

section Classes

variable {depth : Nat} {text text' rest' : List Char}

theorem Enclosed.prepend {front : List Char} (hfront : Bare front) (h : Enclosed depth cs) :
    Enclosed depth (front ++ cs) := by
  induction front with
  | nil => exact h
  | cons c front ih =>
    obtain ⟨hc, hfront⟩ := bare_cons.mp hfront
    exact .char (fun hmem => hc (by revert hmem; simp [delimiters]; tauto)) (ih hfront)

/-- A class ends in one place only. -/
theorem Enclosed.unique (h : Enclosed depth text) (h' : Enclosed depth text')
    (heq : text ++ rest = text' ++ rest') : text = text' ∧ rest = rest' := by
  -- Both texts begin with the same character, and so by the same rule.
  induction h generalizing text' with
  | close =>
    cases h' with
    | close => exact ⟨rfl, (List.cons.inj heq).2⟩
    | opened | escaped => cases (List.cons.inj heq).1
    | char hplain => exact absurd (List.cons.inj heq).1 (by rintro rfl; simp at hplain)
  | inner _ ih =>
    cases h' with
    | inner h' =>
      obtain ⟨rfl, hrest⟩ := ih h' (List.cons.inj heq).2
      exact ⟨rfl, hrest⟩
    | opened | escaped => cases (List.cons.inj heq).1
    | char hplain => exact absurd (List.cons.inj heq).1 (by rintro rfl; simp at hplain)
  | opened _ ih =>
    cases h' with
    | opened h' =>
      obtain ⟨rfl, hrest⟩ := ih h' (List.cons.inj heq).2
      exact ⟨rfl, hrest⟩
    | close | inner | escaped => cases (List.cons.inj heq).1
    | char hplain => exact absurd (List.cons.inj heq).1 (by rintro rfl; simp at hplain)
  | escaped c _ ih =>
    cases h' with
    | escaped c' h' =>
      obtain ⟨hc, htail⟩ := List.cons.inj (List.cons.inj heq).2
      obtain ⟨rfl, hrest⟩ := ih h' htail
      exact ⟨by rw [hc], hrest⟩
    | close | inner | opened => cases (List.cons.inj heq).1
    | char hplain => exact absurd (List.cons.inj heq).1 (by rintro rfl; simp at hplain)
  | @char _ c _ hplain _ ih =>
    cases h' with
    | char _ h' =>
      obtain ⟨rfl, htail⟩ := List.cons.inj heq
      obtain ⟨rfl, hrest⟩ := ih h' htail
      exact ⟨rfl, hrest⟩
    | close | inner | opened | escaped =>
      exact absurd (List.cons.inj heq).1 (by rintro rfl; simp at hplain)

/-- No class is empty, and `^` is not the end of one: how it begins does not depend on what
follows. -/
theorem Enclosed.prefix_of_append {front : List Char} (hfront : front = [']'] ∨ front = ['^', ']'])
    (h : Enclosed depth text) (hpre : front <+: text ++ rest) : front <+: text := by
  obtain ⟨back, hback⟩ := hpre
  rcases hfront with rfl | rfl
  · cases h with
    | close | inner => exact ⟨_, rfl⟩
    | opened | escaped => cases (List.cons.inj hback).1
    | char hplain => exact absurd (List.cons.inj hback).1 (by rintro rfl; simp at hplain)
  · cases h with
    | close | inner | opened | escaped => cases (List.cons.inj hback).1
    | @char _ c tail _ h =>
      obtain ⟨rfl, htail⟩ := List.cons.inj hback
      cases h with
      | close | inner => exact ⟨_, rfl⟩
      | opened | escaped => cases (List.cons.inj htail).1
      | char hplain => exact absurd (List.cons.inj htail).1 (by rintro rfl; simp at hplain)

theorem ClassText.unique (h : ClassText text) (h' : ClassText text')
    (heq : text ++ rest = text' ++ rest') : text = text' ∧ rest = rest' := by
  cases h with
  | @member cs h =>
    cases h' with
    | member h' =>
      obtain ⟨rfl, hrest⟩ := h.unique h' (List.cons.inj heq).2
      exact ⟨rfl, hrest⟩
    | complement => cases (List.cons.inj heq).1
    | plain hmember _ h' =>
      exact absurd (h'.prefix_of_append (.inl rfl) ⟨cs ++ rest, heq⟩) hmember
  | @complement cs h =>
    cases h' with
    | member => cases (List.cons.inj heq).1
    | complement h' =>
      obtain ⟨rfl, hrest⟩ := h.unique h' (List.cons.inj (List.cons.inj heq).2).2
      exact ⟨rfl, hrest⟩
    | plain _ hcomplement h' =>
      exact absurd (h'.prefix_of_append (.inr rfl) ⟨cs ++ rest, heq⟩) hcomplement
  | plain hmember hcomplement h =>
    cases h' with
    | @member cs h' =>
      exact absurd (h.prefix_of_append (.inl rfl) ⟨cs ++ rest', heq.symm⟩) hmember
    | @complement cs h' =>
      exact absurd (h.prefix_of_append (.inr rfl) ⟨cs ++ rest', heq.symm⟩) hcomplement
    | plain _ _ h' => exact h.unique h' heq

/-- What has been scanned is a class, up to its end. -/
theorem Bracket.scanFrom_enclosed {ignoreCase : Bool} {fuel : Nat} {items items' : List Item}
    (h : scanFrom ignoreCase fuel depth items cs = .ok (items', rest)) :
    ∃ text, cs = text ++ rest ∧ Enclosed depth text := by
  fun_induction scanFrom ignoreCase fuel depth items cs with
  | case1 => cases h
  | case2 => cases h
  | case3 fuel depth items cs ih =>
    obtain ⟨⟨e, rest'⟩, he, hscan⟩ := bind_eq_ok_iff.mp h
    cases cs with
    | nil => cases he
    | cons c cs =>
      obtain ⟨front, rfl, hfront⟩ := readClassEscape_skims he
      obtain ⟨text, rfl, htext⟩ := ih e rest' hscan
      exact ⟨'\\' :: c :: (front ++ text), by simp, .escaped c (htext.prepend hfront)⟩
  | case4 fuel depth items cs ih =>
    obtain ⟨text, rfl, htext⟩ := ih h
    exact ⟨'[' :: text, rfl, .opened htext⟩
  | case5 fuel items cs =>
    cases h
    exact ⟨[']'], rfl, .close⟩
  | case6 fuel depth items cs hdepth ih =>
    obtain ⟨text, rfl, htext⟩ := ih h
    obtain ⟨depth, rfl⟩ := Nat.exists_eq_succ_of_ne_zero hdepth
    exact ⟨']' :: text, rfl, .inner htext⟩
  | case7 fuel depth items c cs hbackslash hopen hclose ih =>
    obtain ⟨text, rfl, htext⟩ := ih h
    refine ⟨c :: text, rfl, .char ?_ htext⟩
    simp only [List.mem_cons, List.not_mem_nil, or_false, not_or]
    exact ⟨hbackslash, hopen, hclose⟩

theorem Bracket.scan_class {ignoreCase : Bool} {items : List Item}
    (h : scan ignoreCase cs = .ok (items, rest)) : ∃ text, cs = text ++ rest ∧ ClassText text := by
  unfold scan at h
  split at h
  next front cs' heq =>
    obtain ⟨text, rfl, htext⟩ := scanFrom_enclosed h
    split at heq
    next =>
      obtain ⟨-, rfl⟩ := Prod.mk.inj heq
      exact ⟨'^' :: ']' :: text, rfl, .complement htext⟩
    next =>
      obtain ⟨-, rfl⟩ := Prod.mk.inj heq
      exact ⟨']' :: text, rfl, .member htext⟩
    next hcomplement hmember =>
      obtain ⟨-, rfl⟩ := Prod.mk.inj heq
      refine ⟨text, rfl, .plain ?_ ?_ htext⟩
      · rintro ⟨back, rfl⟩
        exact hmember _ rfl
      · rintro ⟨back, rfl⟩
        exact hcomplement _ rfl

end Classes

/-! ## Comments -/

/-- A comment from behind `(?#` on. It ends at the first closing parenthesis that no backslash
stands before. -/
inductive CommentText : List Char → Prop where
  | close : CommentText [')']
  | escaped (c : Char) {cs : List Char} : CommentText cs → CommentText ('\\' :: c :: cs)
  | char {c : Char} {cs : List Char} (hplain : c ∉ ['\\', ')']) :
    CommentText cs → CommentText (c :: cs)

/-- A comment ends in one place only. -/
theorem CommentText.unique {text text' rest' : List Char} (h : CommentText text)
    (h' : CommentText text') (heq : text ++ rest = text' ++ rest') : text = text' ∧ rest = rest' := by
  induction h generalizing text' with
  | close =>
    cases h' with
    | close => exact ⟨rfl, (List.cons.inj heq).2⟩
    | escaped => cases (List.cons.inj heq).1
    | char hplain => exact absurd (List.cons.inj heq).1 (by rintro rfl; simp at hplain)
  | escaped c _ ih =>
    cases h' with
    | escaped c' h' =>
      obtain ⟨hc, htail⟩ := List.cons.inj (List.cons.inj heq).2
      obtain ⟨rfl, hrest⟩ := ih h' htail
      exact ⟨by rw [hc], hrest⟩
    | close => cases (List.cons.inj heq).1
    | char hplain => exact absurd (List.cons.inj heq).1 (by rintro rfl; simp at hplain)
  | char hplain _ ih =>
    cases h' with
    | char _ h' =>
      obtain ⟨rfl, htail⟩ := List.cons.inj heq
      obtain ⟨rfl, hrest⟩ := ih h' htail
      exact ⟨rfl, hrest⟩
    | close | escaped => exact absurd (List.cons.inj heq).1 (by rintro rfl; simp at hplain)

/-- A comment is skipped to its end, and what follows it after that. -/
theorem skipBlanks_comment {spaced : Bool} (h : skipBlanks spaced .comment cs = .ok rest) :
    ∃ text back, cs = text ++ back ∧ CommentText text ∧
      skipBlanks spaced .blanks back = .ok rest := by
  generalize hmode : Skipping.comment = mode at h
  fun_induction skipBlanks spaced mode cs with
  | case1 | case2 | case3 | case4 | case5 | case6 => cases hmode
  | case7 back => exact ⟨[')'], back, rfl, .close, h⟩
  | case8 c cs ih =>
    obtain ⟨text, back, rfl, htext, hback⟩ := ih rfl h
    exact ⟨'\\' :: c :: text, back, rfl, .escaped c htext, hback⟩
  | case9 c cs hclose hpair ih =>
    obtain ⟨text, back, rfl, htext, hback⟩ := ih rfl h
    refine ⟨c :: text, back, rfl, .char ?_ htext, hback⟩
    simp only [List.mem_cons, List.not_mem_nil, or_false, not_or]
    refine ⟨fun hbackslash => ?_, hclose⟩
    cases htext with
    | close | escaped | char => exact hpair _ _ hbackslash rfl
  | case10 => cases h
  | case11 _ hnot => exact absurd hmode.symm hnot

/-- Where the reader goes on after skipping, no comment begins. -/
theorem not_comment_of_skipBlanks {spaced : Bool} {mode : Skipping} {back : List Char} :
    skipBlanks spaced mode cs ≠ .ok ('(' :: '?' :: '#' :: back) := by
  intro h
  fun_induction skipBlanks spaced mode cs with
  | case1 _ ih | case2 _ _ ih | case4 _ _ _ _ _ ih | case6 _ _ ih | case7 _ ih | case8 _ _ ih
  | case9 _ _ _ _ ih => exact ih h
  | case3 | case10 | case11 => cases h
  | case5 c cs hcomment =>
    injection h with h
    obtain ⟨hc, hcs⟩ := List.cons.inj h
    exact hcomment back hc hcs

end CodeShape.Regex
