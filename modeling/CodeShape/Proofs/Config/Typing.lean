import CodeShape.Config

/-!
# What a configuration looks like

`IsDocument` says, field by field and without reading anything, what a document has to look like to
be a configuration: which fields it needs, which it may have, and of what kind their values are. The
readers of the fields read exactly the values of these kinds, so a document is read exactly if it
looks like that (`ofTable_eq_none_iff`). What stands under other keys does not matter.
-/

namespace CodeShape.Config

open Toml (Table Value)

/-! ## Kinds of values -/

/-- A text, or a moment, which counts as the text that it is written as. -/
inductive IsText : Value → Prop
  | string (s : String) : IsText (.string s)
  | dateTime (d : Toml.DateTime) : IsText (.dateTime d)

/-- An integer. -/
inductive IsInteger : Value → Prop
  | integer (n : Int) : IsInteger (.integer n)

/-- An integer that is not negative. -/
inductive IsCount : Value → Prop
  | integer (n : Nat) : IsCount (.integer n)

/-- An array whose elements are all of one kind. -/
inductive IsList (P : Value → Prop) : Value → Prop
  | array {vs : List Value} (h : ∀ v ∈ vs, P v) : IsList P (.array vs)

/-- The fields of a record: a table gives them by their keys, an array in their order, where the last
ones may be left out. -/
inductive HasFields (keys : List String) : Value → Table → Prop
  | table (t : Table) : HasFields keys (.table t) t
  | array {vs : List Value} (h : vs.length ≤ keys.length) : HasFields keys (.array vs) (keys.zip vs)

/-- A field that may be missing, and else is of the given kind. -/
def Optional (P : Value → Prop) (t : Table) (key : String) : Prop :=
  ∀ v, t.lookup key = some v → P v

/-- A field of the given kind that has to be there. -/
def Required (P : Value → Prop) (t : Table) (key : String) : Prop :=
  ∃ v, t.lookup key = some v ∧ P v

/-- The fields of limits. -/
structure LimitFields (t : Table) : Prop where
  maxMatches : Optional IsCount t "max_matches"
  backtrackLimit : Optional IsCount t "backtrack_limit"

/-- The fields of a rule. -/
structure RuleFields (t : Table) : Prop where
  name : Required IsText t "name"
  pattern : Required IsText t "pattern"
  message : Optional IsText t "message"
  severity : Optional IsText t "severity"
  extensions : Optional (IsList IsText) t "extensions"

/-- A value that gives limits. -/
def IsLimits (v : Value) : Prop :=
  ∃ t, HasFields limitKeys v t ∧ LimitFields t

/-- A value that gives a rule. -/
def IsRule (v : Value) : Prop :=
  ∃ t, HasFields ruleKeys v t ∧ RuleFields t

/-- A document that gives a configuration, of whatever version. -/
structure IsDocument (t : Table) : Prop where
  version : Optional IsInteger t "version"
  engine : Optional IsLimits t "engine"
  rule : Optional (IsList IsRule) t "rule"

/-! ## Readers -/

/-- The reader reads exactly the values of a kind. -/
def Recognizes {α : Type} (read : Value → Option α) (P : Value → Prop) : Prop :=
  ∀ v, (∃ a, read v = some a) ↔ P v

theorem recognizes_readText : Recognizes readText IsText := by
  intro v
  constructor
  · rintro ⟨s, hs⟩
    cases v with
    | string s => exact .string s
    | dateTime d => exact .dateTime d
    | _ => cases hs
  · intro h
    cases h <;> exact ⟨_, rfl⟩

theorem recognizes_readInteger : Recognizes readInteger IsInteger := by
  intro v
  constructor
  · rintro ⟨n, hn⟩
    cases v with
    | integer n => exact .integer n
    | _ => cases hn
  · rintro ⟨n⟩
    exact ⟨n, rfl⟩

theorem recognizes_readCount : Recognizes readCount IsCount := by
  intro v
  constructor
  · rintro ⟨n, hn⟩
    cases v with
    | integer n =>
      cases n with
      | ofNat n => exact .integer n
      | negSucc n => cases hn
    | _ => cases hn
  · rintro ⟨n⟩
    exact ⟨n, rfl⟩

section

variable {α β : Type} {read : Value → Option α} {P : Value → Prop}

/-- What maps what was read reads the same values. -/
theorem Recognizes.map (h : Recognizes read P) (f : α → β) :
    Recognizes (fun v => (read v).map f) P := by
  intro v
  rw [← h v]
  constructor
  · rintro ⟨b, hb⟩
    obtain ⟨a, ha, -⟩ := Option.map_eq_some_iff.mp hb
    exact ⟨a, ha⟩
  · rintro ⟨a, ha⟩
    exact ⟨f a, congrArg (Option.map f) ha⟩

/-- A list is read if each of its elements is. -/
theorem exists_mapM_eq_some (h : Recognizes read P) (vs : List Value) :
    (∃ as, vs.mapM read = some as) ↔ ∀ v ∈ vs, P v := by
  induction vs with
  | nil => exact ⟨fun _ => nofun, fun _ => ⟨[], rfl⟩⟩
  | cons v vs ih =>
    rw [List.forall_mem_cons, ← h v, ← ih]
    constructor
    · rintro ⟨as, has⟩
      rw [List.mapM_cons] at has
      obtain ⟨a, ha, has⟩ := Option.bind_eq_some_iff.mp has
      obtain ⟨rest, hrest, -⟩ := Option.bind_eq_some_iff.mp has
      exact ⟨⟨a, ha⟩, rest, hrest⟩
    · rintro ⟨⟨a, ha⟩, rest, hrest⟩
      refine ⟨a :: rest, ?_⟩
      rw [List.mapM_cons, ha, hrest]
      rfl

theorem Recognizes.list (h : Recognizes read P) : Recognizes (readList read) (IsList P) := by
  intro v
  constructor
  · rintro ⟨as, has⟩
    cases v with
    | array vs => exact .array ((exists_mapM_eq_some h vs).mp ⟨as, has⟩)
    | _ => cases has
  · rintro ⟨hvs⟩
    exact (exists_mapM_eq_some h _).mpr hvs

theorem Recognizes.exists_readOptional (h : Recognizes read P) (t : Table) (key : String) :
    (∃ a, readOptional read t key = some a) ↔ Optional P t key := by
  unfold readOptional Optional
  cases t.lookup key with
  | none => exact ⟨fun _ => nofun, fun _ => ⟨none, rfl⟩⟩
  | some v =>
    have hv : (∃ a, (read v).map some = some a) ↔ P v := h.map some v
    refine hv.trans ⟨fun hP w hw => ?_, fun hP => hP v rfl⟩
    obtain rfl := Option.some.inj hw
    exact hP

theorem Recognizes.exists_readDefault (h : Recognizes read P) (t : Table) (key : String)
    (default : α) : (∃ a, readDefault read t key default = some a) ↔ Optional P t key := by
  rw [← h.exists_readOptional]
  unfold readDefault
  constructor
  · rintro ⟨a, ha⟩
    obtain ⟨b, hb, -⟩ := Option.map_eq_some_iff.mp ha
    exact ⟨b, hb⟩
  · rintro ⟨b, hb⟩
    exact ⟨_, congrArg (Option.map _) hb⟩

theorem Recognizes.exists_required (h : Recognizes read P) (t : Table) (key : String) :
    (∃ a, (t.lookup key).bind read = some a) ↔ Required P t key := by
  constructor
  · rintro ⟨a, ha⟩
    obtain ⟨v, hv, hread⟩ := Option.bind_eq_some_iff.mp ha
    exact ⟨v, hv, (h v).mp ⟨a, hread⟩⟩
  · rintro ⟨v, hv, hP⟩
    obtain ⟨a, ha⟩ := (h v).mpr hP
    exact ⟨a, Option.bind_eq_some_iff.mpr ⟨v, hv, ha⟩⟩

end

theorem readFields_eq_some_iff {keys : List String} {v : Value} {t : Table} :
    readFields keys v = some t ↔ HasFields keys v t := by
  constructor
  · intro h
    cases v with
    | table u =>
      cases h
      exact .table t
    | array vs =>
      rw [readFields] at h
      split at h
      next hlength =>
        cases h
        exact .array hlength
      next => cases h
    | _ => cases h
  · intro h
    cases h with
    | table => rfl
    | array h => exact if_pos h

/-! ## Records -/

theorem recognizes_readLimits : Recognizes readLimits IsLimits := by
  intro v
  unfold readLimits
  simp only [bind, pure, Option.bind_eq_some_iff]
  constructor
  · rintro ⟨limits, t, ht, m, hm, b, hb, -⟩
    exact ⟨t, readFields_eq_some_iff.mp ht,
      (recognizes_readCount.exists_readDefault ..).mp ⟨m, hm⟩,
      (recognizes_readCount.exists_readDefault ..).mp ⟨b, hb⟩⟩
  · rintro ⟨t, ht, hm, hb⟩
    obtain ⟨m, hm⟩ := (recognizes_readCount.exists_readDefault ..).mpr hm
    obtain ⟨b, hb⟩ := (recognizes_readCount.exists_readDefault ..).mpr hb
    exact ⟨_, t, readFields_eq_some_iff.mpr ht, m, hm, b, hb, rfl⟩

theorem recognizes_readRule : Recognizes readRule IsRule := by
  have hseverity : Recognizes (fun v => (readText v).map Severity.ofName) IsText :=
    recognizes_readText.map Severity.ofName
  have hextensions : Recognizes (readList readText) (IsList IsText) := recognizes_readText.list
  intro v
  unfold readRule
  simp only [bind, pure, Option.bind_eq_some_iff]
  constructor
  · rintro ⟨rule, t, ht, name, hname, pattern, hpattern, message, hmessage, severity, hseverity',
      extensions, hextensions', -⟩
    exact ⟨t, readFields_eq_some_iff.mp ht,
      (recognizes_readText.exists_required ..).mp ⟨name, Option.bind_eq_some_iff.mpr hname⟩,
      (recognizes_readText.exists_required ..).mp ⟨pattern, Option.bind_eq_some_iff.mpr hpattern⟩,
      (recognizes_readText.exists_readOptional ..).mp ⟨message, hmessage⟩,
      (hseverity.exists_readDefault ..).mp ⟨severity, hseverity'⟩,
      (hextensions.exists_readDefault ..).mp ⟨extensions, hextensions'⟩⟩
  · rintro ⟨t, ht, hname, hpattern, hmessage, hseverity', hextensions'⟩
    obtain ⟨name, hname⟩ := (recognizes_readText.exists_required ..).mpr hname
    obtain ⟨pattern, hpattern⟩ := (recognizes_readText.exists_required ..).mpr hpattern
    obtain ⟨message, hmessage⟩ := (recognizes_readText.exists_readOptional ..).mpr hmessage
    obtain ⟨severity, hseverity'⟩ := (hseverity.exists_readDefault ..).mpr hseverity'
    obtain ⟨extensions, hextensions'⟩ := (hextensions.exists_readDefault ..).mpr hextensions'
    exact ⟨_, t, readFields_eq_some_iff.mpr ht, name, Option.bind_eq_some_iff.mp hname, pattern,
      Option.bind_eq_some_iff.mp hpattern, message, hmessage, severity, hseverity', extensions,
      hextensions', rfl⟩

/-- What is read of a document: its version, its limits and its rules, each by its own reader. -/
theorem ofTable_eq_some_iff {t : Table} {c : Config} :
    ofTable t = some c ↔ readOptional readInteger t "version" = some c.version ∧
      readDefault readLimits t "engine" {} = some c.limits ∧
      readDefault (readList readRule) t "rule" [] = some c.rules := by
  unfold ofTable
  simp only [bind, pure, Option.bind_eq_some_iff]
  constructor
  · rintro ⟨version, hversion, limits, hlimits, rules, hrules, heq⟩
    obtain rfl := Option.some.inj heq
    exact ⟨hversion, hlimits, hrules⟩
  · rintro ⟨hversion, hlimits, hrules⟩
    exact ⟨_, hversion, _, hlimits, _, hrules, rfl⟩

/-- **A document is read exactly if it looks like a configuration.** -/
theorem exists_ofTable_iff {t : Table} : (∃ c, ofTable t = some c) ↔ IsDocument t := by
  constructor
  · rintro ⟨c, hc⟩
    obtain ⟨hversion, hlimits, hrules⟩ := ofTable_eq_some_iff.mp hc
    exact ⟨(recognizes_readInteger.exists_readOptional ..).mp ⟨_, hversion⟩,
      (recognizes_readLimits.exists_readDefault ..).mp ⟨_, hlimits⟩,
      (recognizes_readRule.list.exists_readDefault ..).mp ⟨_, hrules⟩⟩
  · rintro ⟨hversion, hlimits, hrules⟩
    obtain ⟨version, hversion⟩ := (recognizes_readInteger.exists_readOptional ..).mpr hversion
    obtain ⟨limits, hlimits⟩ := (recognizes_readLimits.exists_readDefault ..).mpr hlimits
    obtain ⟨rules, hrules⟩ := (recognizes_readRule.list.exists_readDefault ..).mpr hrules
    exact ⟨⟨version, limits, rules⟩, ofTable_eq_some_iff.mpr ⟨hversion, hlimits, hrules⟩⟩

theorem ofTable_eq_none_iff {t : Table} : ofTable t = none ↔ ¬ IsDocument t := by
  rw [← exists_ofTable_iff, Option.eq_none_iff_forall_ne_some]
  exact not_exists.symm

/-- The version of a configuration is the one that stands in the document. -/
theorem version_eq_some_iff {t : Table} {c : Config} (hc : ofTable t = some c) {n : Int} :
    c.version = some n ↔ t.lookup "version" = some (.integer n) := by
  obtain ⟨hversion, -, -⟩ := ofTable_eq_some_iff.mp hc
  unfold readOptional at hversion
  cases hlookup : t.lookup "version" with
  | none =>
    rw [hlookup] at hversion
    rw [← Option.some.inj hversion]
    exact iff_of_false nofun nofun
  | some v =>
    rw [hlookup] at hversion
    obtain ⟨m, hm, hversion⟩ := Option.map_eq_some_iff.mp hversion
    cases v with
    | integer k =>
      obtain rfl := Option.some.inj hm
      rw [← hversion, Option.some.injEq, Option.some.injEq, Value.integer.injEq]
    | _ => cases hm

end CodeShape.Config
