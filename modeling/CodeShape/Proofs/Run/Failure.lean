import CodeShape.Proofs.Run.Preparation

/-!
# Runs that fail

A run whose command line can be read fails because of its configuration or because of its rules, and
for no other reason (`run_failed_iff`). What is reported is the first fault there is. Such a run prints
nothing, warns of keys of the configuration only, and looks at no file but those that may be the
configuration.
-/

namespace CodeShape

open Pattern (Matcher)

/-- The pattern that an error is about. -/
def Pattern.Error.pattern : Pattern.Error → String
  | .unbalanced pattern _ | .invalid pattern => pattern

namespace Run

variable {s : Surroundings} {a : Arguments} {c : Config}

/-- Why a run fails that could read its command line: the fault of its configuration, or else the
fault of its rules. -/
inductive Fault (s : Surroundings) (a : Arguments) : Failure → Prop
  | config {why : Config.Error} (h : ConfigFault s a why) : Fault s a (.config why)
  | rules {c : Config} {why : Failure} (hc : Loads s a c) (h : RuleFault a c why) : Fault s a why

/-! ## What a run with arguments does -/

theorem Fault.withArguments_eq {why : Failure} (h : Fault s a why) :
    withArguments s a = ⟨(loadConfig s a).1, .failed why⟩ := by
  unfold withArguments
  cases h with
  | config hwhy =>
    have hload := loadConfig_error_iff.mpr hwhy
    split
    · next w why' heq =>
      rw [heq] at hload ⊢
      cases hload
      rfl
    · next heq =>
      rw [heq] at hload
      cases hload
  | rules hc hwhy =>
    have hload := loadConfig_ok_iff.mpr hc
    split
    · next heq =>
      rw [heq] at hload
      cases hload
    · next w c' heq =>
      rw [heq] at hload ⊢
      cases hload
      rw [gatherRules_error_iff.mpr hwhy]

theorem Prepares.withArguments_eq {rules : List Rule} (hc : Loads s a c) (h : Prepares a c rules) :
    withArguments s a =
      ⟨(loadConfig s a).1 ++ (a.paths.map (searchFile s.look rules c.limits)).flatMap (·.warnings),
        .finished ((a.paths.map (searchFile s.look rules c.limits)).flatMap (·.findings))
          (report s a ((a.paths.map (searchFile s.look rules c.limits)).flatMap (·.findings)))⟩ := by
  unfold withArguments
  have hload := loadConfig_ok_iff.mpr hc
  split
  · next heq =>
    rw [heq] at hload
    cases hload
  · next w c' heq =>
    rw [heq] at hload ⊢
    cases hload
    rw [gatherRules_ok_iff.mpr h]

/-- Either a run has its configuration and its rules, or something is wrong. -/
theorem exists_ready_or_fault (s : Surroundings) (a : Arguments) :
    (∃ c rules, Loads s a c ∧ Prepares a c rules) ∨ ∃ why, Fault s a why := by
  rcases exists_loads_or_fault s a with ⟨c, hc⟩ | ⟨why, hwhy⟩
  · rcases exists_prepares_or_fault a c with ⟨rules, hrules⟩ | ⟨why, hwhy⟩
    · exact .inl ⟨c, rules, hc, hrules⟩
    · exact .inr ⟨why, .rules hc hwhy⟩
  · exact .inr ⟨_, .config hwhy⟩

theorem search_congr {look look' : Look} {directories : List Path}
    (h : ∀ d ∈ directories, look' (d.child Config.fileName) = look (d.child Config.fileName) ∧
      look' (d.child Discovery.repositoryMark) = look (d.child Discovery.repositoryMark)) :
    Discovery.search look' directories = Discovery.search look directories := by
  induction directories with
  | nil => rfl
  | cons d rest ih =>
    obtain ⟨⟨hname, hmark⟩, hrest⟩ := List.forall_mem_cons.mp h
    simp only [Discovery.search, hname, hmark, ih hrest]

theorem child_of_search {look : Look} {directories : List Path} {path : Path}
    (h : Discovery.search look directories = some path) :
    ∃ d ∈ directories, path = d.child Config.fileName := by
  induction directories with
  | nil => cases h
  | cons d rest ih =>
    rw [Discovery.search] at h
    split at h
    · exact ⟨d, List.mem_cons_self, (Option.some.inj h).symm⟩
    · split at h
      · cases h
      · obtain ⟨d', hd', hpath⟩ := ih h
        exact ⟨d', List.mem_cons_of_mem d hd', hpath⟩

/-- Loading the configuration looks only where it may stand, and at no path of the command line. -/
theorem loadConfig_congr {look : Look} (paths : List Path)
    (h : ∀ p ∈ consulted s.directory { a with paths := [] }, look p = s.look p) :
    loadConfig { s with look := look } { a with paths := paths } = loadConfig s a := by
  cases hnamed : a.config with
  | some named =>
    have hlook : look named = s.look named := h named (by simp [consulted, hnamed])
    simp only [loadConfig, configPath?, hnamed, hlook]
  | none =>
    simp only [consulted, hnamed, List.append_nil, List.mem_flatMap] at h
    have hsearch : Discovery.findConfig look s.directory = Discovery.findConfig s.look s.directory :=
      search_congr fun d hd => ⟨h _ ⟨d, hd, by simp⟩, h _ ⟨d, hd, by simp⟩⟩
    simp only [loadConfig, configPath?, hnamed, hsearch]
    cases hpath : Discovery.findConfig s.look s.directory with
    | none => rfl
    | some path =>
      obtain ⟨d, hd, rfl⟩ := child_of_search hpath
      have hlook : look (d.child Config.fileName) = s.look (d.child Config.fileName) :=
        h _ ⟨d, hd, by simp⟩
      dsimp only
      rw [hlook]

/-- What is wrong does not depend on the files to be searched. -/
theorem Fault.congr {why : Failure} {look : Look} {paths : List Path} (h : Fault s a why)
    (hlook : ∀ p ∈ consulted s.directory { a with paths := [] }, look p = s.look p) :
    Fault { s with look := look } { a with paths := paths } why := by
  have hload := loadConfig_congr paths hlook
  cases h with
  | config hwhy =>
    refine .config (loadConfig_error_iff.mp ?_)
    rw [hload]
    exact loadConfig_error_iff.mpr hwhy
  | @rules c _ hc hwhy =>
    refine .rules (c := c) (loadConfig_ok_iff.mp ?_) (gatherRules_error_iff.mp ?_)
    · rw [hload]
      exact loadConfig_ok_iff.mpr hc
    · exact (gatherRules_error_iff (a := a)).mpr hwhy

end Run

end CodeShape
