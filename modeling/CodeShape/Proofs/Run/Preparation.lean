import CodeShape.Proofs.Config.Typing
import CodeShape.Proofs.Fallible
import CodeShape.Run

/-!
# Before the first file

Before a run looks at any file it needs a configuration (`Loads`) and has to get all its rules ready
(`Prepares`). `ConfigFault` and `RuleFault` say what may be wrong with them; each excludes those that
come before it, so that there is one fault at most, and there is one exactly if there is no result
(`loadConfig_error_iff`, `gatherRules_error_iff`).
-/

namespace CodeShape

open Pattern (Matcher)

variable {s : Surroundings} {a : Arguments} {c : Config}

namespace Run

/-! ## The configuration -/

/-- The configuration that counts for a run: there is none, or it can be read and is of the version
that is supported. -/
inductive Loads (s : Surroundings) (a : Arguments) : Config → Prop
  | default (hpath : configPath? s a = none) : Loads s a {}
  | file {path : Path} {text : String} {t : Toml.Table} {c : Config}
      (hpath : configPath? s a = some path) (htext : (s.look path).bind Entry.text = .ok text)
      (ht : Toml.parse text.toList = some t) (hc : Config.ofTable t = some c)
      (hversion : ∀ n, t.lookup "version" = some (.integer n) → n = Config.supportedVersion) :
      Loads s a c

/-- What is wrong with the configuration of a run. -/
inductive ConfigFault (s : Surroundings) (a : Arguments) : Config.Error → Prop
  | unreadable {path : Path} {why : ReadError} (hpath : configPath? s a = some path)
      (hread : (s.look path).bind Entry.text = .error why) :
      ConfigFault s a (.unreadable path why)
  | notToml {path : Path} {text : String} (hpath : configPath? s a = some path)
      (htext : (s.look path).bind Entry.text = .ok text)
      (ht : Toml.parse text.toList = none) : ConfigFault s a (.malformed path)
  | illTyped {path : Path} {text : String} {t : Toml.Table} (hpath : configPath? s a = some path)
      (htext : (s.look path).bind Entry.text = .ok text) (ht : Toml.parse text.toList = some t)
      (hdocument : ¬ Config.IsDocument t) : ConfigFault s a (.malformed path)
  | wrongVersion {path : Path} {text : String} {t : Toml.Table} {n : Int}
      (hpath : configPath? s a = some path) (htext : (s.look path).bind Entry.text = .ok text)
      (ht : Toml.parse text.toList = some t) (hdocument : Config.IsDocument t)
      (hversion : t.lookup "version" = some (.integer n)) (hne : n ≠ Config.supportedVersion) :
      ConfigFault s a (.wrongVersion path n)

end Run

namespace Config

variable {path : Path} {t : Toml.Table}

theorem checkVersion_ok_iff (ht : ofTable t = some c) {c' : Config} :
    checkVersion path c = .ok c' ↔
      c = c' ∧ ∀ n, t.lookup "version" = some (.integer n) → n = supportedVersion := by
  have hversion {n : Int} := version_eq_some_iff ht (n := n)
  simp only [← hversion]
  unfold checkVersion
  cases c.version with
  | none => exact ⟨fun h => ⟨Except.ok.inj h, nofun⟩, fun h => congrArg _ h.1⟩
  | some n =>
    dsimp only
    by_cases hn : n = supportedVersion
    · rw [if_pos hn]
      exact ⟨fun h => ⟨Except.ok.inj h, fun m hm => Option.some.inj hm ▸ hn⟩, fun h => congrArg _ h.1⟩
    · rw [if_neg hn]
      exact iff_of_false nofun fun h => hn (h.2 n rfl)

theorem checkVersion_error_iff (ht : ofTable t = some c) {why : Error} :
    checkVersion path c = .error why ↔ ∃ n, why = .wrongVersion path n ∧
      t.lookup "version" = some (.integer n) ∧ n ≠ supportedVersion := by
  have hversion {n : Int} := version_eq_some_iff ht (n := n)
  simp only [← hversion]
  unfold checkVersion
  cases c.version with
  | none => exact iff_of_false nofun (by rintro ⟨n, -, ⟨⟩, -⟩)
  | some n =>
    dsimp only
    by_cases hn : n = supportedVersion
    · rw [if_pos hn]
      refine iff_of_false nofun ?_
      rintro ⟨m, -, hm, hne⟩
      exact hne (Option.some.inj hm ▸ hn)
    · rw [if_neg hn]
      constructor
      · intro h
        exact ⟨n, (Except.error.inj h).symm, rfl, hn⟩
      · rintro ⟨m, rfl, hm, -⟩
        rw [Option.some.inj hm]

end Config

namespace Run

theorem loadConfig_of_text {path : Path} {text : String} (hpath : configPath? s a = some path)
    (htext : (s.look path).bind Entry.text = .ok text) :
    loadConfig s a = Config.parse path text.toList := by
  rw [loadConfig, hpath]
  dsimp only
  rw [htext]

/-- Either there is a configuration, or something is wrong with it. -/
theorem exists_loads_or_fault (s : Surroundings) (a : Arguments) :
    (∃ c, Loads s a c) ∨ ∃ why, ConfigFault s a why := by
  cases hpath : configPath? s a with
  | none => exact .inl ⟨{}, .default hpath⟩
  | some path =>
    cases htext : (s.look path).bind Entry.text with
    | error why => exact .inr ⟨_, .unreadable hpath htext⟩
    | ok text =>
      cases ht : Toml.parse text.toList with
      | none => exact .inr ⟨_, .notToml hpath htext ht⟩
      | some t =>
        cases hc : Config.ofTable t with
        | none => exact .inr ⟨_, .illTyped hpath htext ht (Config.ofTable_eq_none_iff.mp hc)⟩
        | some c =>
          by_cases hversion : ∀ n, t.lookup "version" = some (.integer n) →
              n = Config.supportedVersion
          · exact .inl ⟨c, .file hpath htext ht hc hversion⟩
          · simp only [not_forall] at hversion
            obtain ⟨n, hn, hne⟩ := hversion
            exact .inr ⟨_, .wrongVersion hpath htext ht (Config.exists_ofTable_iff.mp ⟨c, hc⟩) hn
              hne⟩

theorem Loads.loadConfig_eq (h : Loads s a c) : (loadConfig s a).2 = .ok c := by
  cases h with
  | default hpath => rw [loadConfig, hpath]
  | file hpath htext ht hc hversion =>
    rw [loadConfig_of_text hpath htext, Config.parse, ht]
    dsimp only
    rw [hc]
    exact (Config.checkVersion_ok_iff hc).mpr ⟨rfl, hversion⟩

theorem ConfigFault.loadConfig_eq {why : Config.Error} (h : ConfigFault s a why) :
    (loadConfig s a).2 = .error why := by
  cases h with
  | unreadable hpath hread =>
    rw [loadConfig, hpath]
    dsimp only
    rw [hread]
  | notToml hpath htext ht => rw [loadConfig_of_text hpath htext, Config.parse, ht]
  | illTyped hpath htext ht hdocument =>
    rw [loadConfig_of_text hpath htext, Config.parse, ht]
    dsimp only
    rw [Config.ofTable_eq_none_iff.mpr hdocument]
  | wrongVersion hpath htext ht hdocument hversion hne =>
    obtain ⟨c, hc⟩ := Config.exists_ofTable_iff.mpr hdocument
    rw [loadConfig_of_text hpath htext, Config.parse, ht]
    dsimp only
    rw [hc]
    exact (Config.checkVersion_error_iff hc).mpr ⟨_, rfl, hversion, hne⟩

/-- **The configuration that counts is the one that is loaded.** -/
theorem loadConfig_ok_iff : (loadConfig s a).2 = .ok c ↔ Loads s a c := by
  refine ⟨fun h => ?_, Loads.loadConfig_eq⟩
  rcases exists_loads_or_fault s a with ⟨c', hc'⟩ | ⟨why, hwhy⟩
  · rw [hc'.loadConfig_eq] at h
    exact Except.ok.inj h ▸ hc'
  · rw [hwhy.loadConfig_eq] at h
    cases h

/-- **What is wrong with a configuration is why it is not loaded.** -/
theorem loadConfig_error_iff {why : Config.Error} :
    (loadConfig s a).2 = .error why ↔ ConfigFault s a why := by
  refine ⟨fun h => ?_, ConfigFault.loadConfig_eq⟩
  rcases exists_loads_or_fault s a with ⟨c', hc'⟩ | ⟨why', hwhy⟩
  · rw [hc'.loadConfig_eq] at h
    cases h
  · rw [hwhy.loadConfig_eq] at h
    exact Except.error.inj h ▸ hwhy

/-- The patterns of some rules can all be compiled. -/
def Compile (limits : Pattern.Limits) (patterns : List String) : Prop :=
  ∀ p ∈ patterns, ∃ m, Matcher.compile p.toList limits = .ok m

/-- The rules of a run, in order: those of the configuration, then one for each pattern of the command
line. There is one at least. -/
structure Prepares (a : Arguments) (c : Config) (rules : List Rule) : Prop where
  split : ∃ configured given, rules = configured ++ given ∧
    List.Forall₂ (fun e r => Rule.ofEntry e c.limits = .ok r) c.rules configured ∧
    List.Forall₂ (fun p r => Rule.adHoc p a.message a.severity c.limits = .ok r) a.patterns given
  ne_nil : rules ≠ []

/-- What is wrong with the rules of a run: the first pattern of the configuration that cannot be
compiled, or else the first one of the command line, or there is none. -/
inductive RuleFault (a : Arguments) (c : Config) : Failure → Prop
  | badRule {front back : List RuleEntry} {e : RuleEntry} {why : Pattern.Error}
      (hsplit : c.rules = front ++ e :: back)
      (hfront : Compile c.limits (front.map (·.pattern)))
      (he : Matcher.compile e.pattern.toList c.limits = .error why) :
      RuleFault a c (.config (.badRule e.name why))
  | badPattern {front back : List String} {p : String} {why : Pattern.Error}
      (hrules : Compile c.limits (c.rules.map (·.pattern)))
      (hsplit : a.patterns = front ++ p :: back) (hfront : Compile c.limits front)
      (hp : Matcher.compile p.toList c.limits = .error why) : RuleFault a c (.pattern why)
  | noRules (hrules : c.rules = []) (hpatterns : a.patterns = []) : RuleFault a c .noRules

/-- If some pattern cannot be compiled, there is a first one. -/
theorem exists_first_fault {limits : Pattern.Limits} {patterns : List String}
    (h : ¬ Compile limits patterns) : ∃ front p back, patterns = front ++ p :: back ∧
      Compile limits front ∧ ∃ why, Matcher.compile p.toList limits = .error why := by
  induction patterns with
  | nil => exact absurd nofun h
  | cons p ps ih =>
    cases hp : Matcher.compile p.toList limits with
    | error why => exact ⟨[], p, ps, rfl, nofun, why, hp⟩
    | ok m =>
      have hps : ¬ Compile limits ps := fun hps => h (List.forall_mem_cons.mpr ⟨⟨m, hp⟩, hps⟩)
      obtain ⟨front, q, back, rfl, hfront, hq⟩ := ih hps
      exact ⟨p :: front, q, back, rfl, List.forall_mem_cons.mpr ⟨⟨m, hp⟩, hfront⟩, hq⟩

theorem exists_ofEntry_iff {e : RuleEntry} {limits : Pattern.Limits} :
    (∃ r, Rule.ofEntry e limits = .ok r) ↔ ∃ m, Matcher.compile e.pattern.toList limits = .ok m := by
  unfold Rule.ofEntry
  cases Matcher.compile e.pattern.toList limits with
  | error why => exact iff_of_false (by rintro ⟨r, ⟨⟩⟩) (by rintro ⟨m, ⟨⟩⟩)
  | ok m => exact iff_of_true ⟨_, rfl⟩ ⟨m, rfl⟩

theorem ofEntry_error_iff {e : RuleEntry} {limits : Pattern.Limits} {why : Pattern.Error} :
    Rule.ofEntry e limits = .error why ↔ Matcher.compile e.pattern.toList limits = .error why := by
  unfold Rule.ofEntry
  cases Matcher.compile e.pattern.toList limits with
  | error why' => exact ⟨fun h => congrArg _ (Except.error.inj h), fun h => congrArg _ (Except.error.inj h)⟩
  | ok m => exact iff_of_false nofun nofun

theorem exists_adHoc_iff {p : String} {message : Option String} {severity : Severity}
    {limits : Pattern.Limits} : (∃ r, Rule.adHoc p message severity limits = .ok r) ↔
      ∃ m, Matcher.compile p.toList limits = .ok m := by
  unfold Rule.adHoc
  cases Matcher.compile p.toList limits with
  | error why => exact iff_of_false (by rintro ⟨r, ⟨⟩⟩) (by rintro ⟨m, ⟨⟩⟩)
  | ok m => exact iff_of_true ⟨_, rfl⟩ ⟨m, rfl⟩

theorem adHoc_error_iff {p : String} {message : Option String} {severity : Severity}
    {limits : Pattern.Limits} {why : Pattern.Error} :
    Rule.adHoc p message severity limits = .error why ↔
      Matcher.compile p.toList limits = .error why := by
  unfold Rule.adHoc
  cases Matcher.compile p.toList limits with
  | error why' => exact ⟨fun h => congrArg _ (Except.error.inj h), fun h => congrArg _ (Except.error.inj h)⟩
  | ok m => exact iff_of_false nofun nofun

/-- Rules of the configuration that can all be compiled are got ready, and only such ones. -/
theorem exists_configured_iff {limits : Pattern.Limits} {es : List RuleEntry} :
    (∃ rs, List.Forall₂ (fun e r => Rule.ofEntry e limits = .ok r) es rs) ↔
      Compile limits (es.map (·.pattern)) := by
  rw [exists_forall₂_iff]
  simp only [Compile, List.forall_mem_map, exists_ofEntry_iff]

/-- The same for patterns of the command line. -/
theorem exists_given_iff (message : Option String) (severity : Severity) {limits : Pattern.Limits}
    {ps : List String} :
    (∃ rs, List.Forall₂ (fun p r => Rule.adHoc p message severity limits = .ok r) ps rs) ↔
      Compile limits ps := by
  rw [exists_forall₂_iff]
  simp only [Compile, exists_adHoc_iff]

/-- Either all rules are got ready, or something is wrong with them. -/
theorem exists_prepares_or_fault (a : Arguments) (c : Config) :
    (∃ rules, Prepares a c rules) ∨ ∃ why, RuleFault a c why := by
  by_cases hrules : Compile c.limits (c.rules.map (·.pattern))
  · by_cases hpatterns : Compile c.limits a.patterns
    · obtain ⟨configured, hconfigured⟩ := exists_configured_iff.mpr hrules
      obtain ⟨given, hgiven⟩ := (exists_given_iff a.message a.severity).mpr hpatterns
      by_cases hnil : configured ++ given = []
      · obtain ⟨rfl, rfl⟩ := List.append_eq_nil_iff.mp hnil
        exact .inr ⟨_, .noRules (List.forall₂_nil_right_iff.mp hconfigured)
          (List.forall₂_nil_right_iff.mp hgiven)⟩
      · exact .inl ⟨_, ⟨configured, given, rfl, hconfigured, hgiven⟩, hnil⟩
    · obtain ⟨front, p, back, hsplit, hfront, why, hp⟩ := exists_first_fault hpatterns
      exact .inr ⟨_, .badPattern hrules hsplit hfront hp⟩
  · obtain ⟨front, p, back, hsplit, hfront, why, hp⟩ := exists_first_fault hrules
    obtain ⟨es, es', hes, rfl, hback⟩ := List.map_eq_append_iff.mp hsplit
    obtain ⟨e, es'', rfl, rfl, rfl⟩ := List.map_eq_cons_iff.mp hback
    exact .inr ⟨_, .badRule hes hfront hp⟩

theorem compile_ok_iff {rs : List Rule} : c.compile = .ok rs ↔
    List.Forall₂ (fun e r => Rule.ofEntry e c.limits = .ok r) c.rules rs := by
  simp only [Config.compile, mapM_ok_iff, mapError_eq_ok_iff]

theorem compile_error_of_first {front back : List RuleEntry} {e : RuleEntry} {why : Pattern.Error}
    (hsplit : c.rules = front ++ e :: back) (hfront : Compile c.limits (front.map (·.pattern)))
    (he : Matcher.compile e.pattern.toList c.limits = .error why) :
    c.compile = .error (.badRule e.name why) := by
  refine mapM_error_iff.mpr ⟨front, e, back, hsplit, fun e' he' => ?_, ?_⟩
  · obtain ⟨r, hr⟩ := exists_ofEntry_iff.mpr (hfront _ (List.mem_map_of_mem he'))
    exact ⟨r, mapError_eq_ok_iff.mpr hr⟩
  · exact mapError_eq_error_iff.mpr ⟨why, ofEntry_error_iff.mpr he, rfl⟩

theorem Prepares.gatherRules_eq {rules : List Rule} (h : Prepares a c rules) :
    gatherRules a c = .ok rules := by
  obtain ⟨⟨configured, given, rfl, hconfigured, hgiven⟩, hne⟩ := h
  refine bind_eq_ok_iff.mpr ⟨configured, ?_, ?_⟩
  · exact mapError_eq_ok_iff.mpr (compile_ok_iff.mpr hconfigured)
  refine bind_eq_ok_iff.mpr ⟨given, ?_, ?_⟩
  · simpa only [mapM_ok_iff, mapError_eq_ok_iff] using hgiven
  · rw [if_neg (by simpa only [List.isEmpty_iff] using hne)]

theorem RuleFault.gatherRules_eq {why : Failure} (h : RuleFault a c why) :
    gatherRules a c = .error why := by
  cases h with
  | badRule hsplit hfront he =>
    rw [gatherRules, compile_error_of_first hsplit hfront he]
    rfl
  | @badPattern front back p why hrules hsplit hfront hp =>
    obtain ⟨configured, hconfigured⟩ := exists_configured_iff.mpr hrules
    have hgiven : (a.patterns.mapM fun pattern =>
        (Rule.adHoc pattern a.message a.severity c.limits).mapError Failure.pattern) =
          .error (.pattern why) := by
      refine mapM_error_iff.mpr ⟨front, p, back, hsplit, fun q hq => ?_, ?_⟩
      · obtain ⟨r, hr⟩ := exists_adHoc_iff.mpr (hfront q hq)
        exact ⟨r, mapError_eq_ok_iff.mpr hr⟩
      · exact mapError_eq_error_iff.mpr ⟨why, adHoc_error_iff.mpr hp, rfl⟩
    rw [gatherRules, compile_ok_iff.mpr hconfigured, hgiven]
    rfl
  | noRules hrules hpatterns =>
    rw [gatherRules, Config.compile, hrules, hpatterns]
    rfl

/-- **Rules that are prepared are those that are got ready.** -/
theorem gatherRules_ok_iff {rules : List Rule} :
    gatherRules a c = .ok rules ↔ Prepares a c rules := by
  refine ⟨fun h => ?_, Prepares.gatherRules_eq⟩
  rcases exists_prepares_or_fault a c with ⟨rules', hrules⟩ | ⟨why, hwhy⟩
  · rw [hrules.gatherRules_eq] at h
    exact Except.ok.inj h ▸ hrules
  · rw [hwhy.gatherRules_eq] at h
    cases h

/-- **What is wrong with the rules is why they are not got ready.** -/
theorem gatherRules_error_iff {why : Failure} :
    gatherRules a c = .error why ↔ RuleFault a c why := by
  refine ⟨fun h => ?_, RuleFault.gatherRules_eq⟩
  rcases exists_prepares_or_fault a c with ⟨rules, hrules⟩ | ⟨why', hwhy⟩
  · rw [hrules.gatherRules_eq] at h
    cases h
  · rw [hwhy.gatherRules_eq] at h
    exact Except.error.inj h ▸ hwhy

end Run

end CodeShape
