import CodeShape.Discovery
import CodeShape.Proofs.Path.Ancestors

/-!
# The nearest configuration

The search for the configuration goes from a directory to its parent until there is a configuration
file or it would leave a repository. So the answer is the first configuration of the directories that
are searched, if there is no repository before it (`search_eq_some_iff`). A directory of the right name
is no configuration, and one beside the mark of a repository counts. The ancestors being complete, the
configuration of a directory is the nearest one inside the repository (`findConfig_nearest`).
-/

namespace CodeShape.Discovery

variable {look : Look}

/-- A directory has a configuration if a file stands under its name. -/
def HasConfig (look : Look) (directory : Path) : Prop :=
  ∃ bytes, look (directory.child "cgrep.toml") = .ok (.file bytes)

/-- A directory is a repository if anything stands under the name of the mark. -/
def IsRepository (look : Look) (directory : Path) : Prop :=
  ∃ entry, look (directory.child ".git") = .ok entry

/-! ## One directory -/

theorem any_isFile_iff {directory : Path} :
    (look (directory.child Config.fileName)).toOption.any Entry.isFile = true ↔
      HasConfig look directory := by
  unfold HasConfig Config.fileName
  cases look (directory.child "cgrep.toml") with
  | error why => exact ⟨nofun, nofun⟩
  | ok entry =>
    cases entry with
    | directory => exact ⟨nofun, nofun⟩
    | file bytes => exact ⟨fun _ => ⟨bytes, rfl⟩, fun _ => rfl⟩

theorem isOk_iff {directory : Path} :
    (look (directory.child repositoryMark)).isOk = true ↔ IsRepository look directory := by
  unfold IsRepository repositoryMark
  cases look (directory.child ".git") with
  | error why => exact ⟨nofun, nofun⟩
  | ok entry => exact ⟨fun _ => ⟨entry, rfl⟩, fun _ => rfl⟩

/-- The search ends where there is a configuration, whether this is a repository or not. -/
theorem search_of_config {directory : Path} (h : HasConfig look directory) (rest : List Path) :
    search look (directory :: rest) = some (directory.child "cgrep.toml") := by
  rw [search, if_pos (any_isFile_iff.mpr h)]
  rfl

/-- It ends without an answer in a repository that has no configuration. -/
theorem search_of_repository {directory : Path} (hconfig : ¬ HasConfig look directory)
    (h : IsRepository look directory) (rest : List Path) :
    search look (directory :: rest) = none := by
  rw [search, if_neg (hconfig ∘ any_isFile_iff.mp), if_pos (isOk_iff.mpr h)]

/-- It goes on from everywhere else. -/
theorem search_of_neither {directory : Path} (hconfig : ¬ HasConfig look directory)
    (hrepository : ¬ IsRepository look directory) (rest : List Path) :
    search look (directory :: rest) = search look rest := by
  rw [search, if_neg (hconfig ∘ any_isFile_iff.mp), if_neg (hrepository ∘ isOk_iff.mp)]

/-! ## All directories -/

/-- What comes first in a list is its head, or comes first behind a head that lets it by. -/
theorem exists_first_cons_iff {α : Type} (P Q : α → Prop) (x : α) (xs : List α) :
    (∃ (k : Nat) (y : α), (x :: xs)[k]? = some y ∧ P y ∧
        ∀ j < k, ∀ z, (x :: xs)[j]? = some z → Q z) ↔
      P x ∨ Q x ∧ ∃ (k : Nat) (y : α), xs[k]? = some y ∧ P y ∧
        ∀ j < k, ∀ z, xs[j]? = some z → Q z := by
  constructor
  · rintro ⟨k, y, hy, hP, hbefore⟩
    cases k with
    | zero =>
      cases hy
      exact .inl hP
    | succ k =>
      exact .inr ⟨hbefore 0 (Nat.succ_pos k) x rfl, k, y, hy, hP,
        fun j hj z hz => hbefore (j + 1) (Nat.succ_lt_succ hj) z hz⟩
  · rintro (hP | ⟨hQ, k, y, hy, hP, hbefore⟩)
    · exact ⟨0, x, rfl, hP, nofun⟩
    · refine ⟨k + 1, y, hy, hP, fun j hj z hz => ?_⟩
      cases j with
      | zero =>
        cases hz
        exact hQ
      | succ j => exact hbefore j (Nat.lt_of_succ_lt_succ hj) z hz

/-- **The answer is the first configuration**, if there is no repository before it. -/
theorem search_eq_some_iff {directories : List Path} {found : Path} :
    search look directories = some found ↔
      ∃ (k : Nat) (d : Path), directories[k]? = some d ∧ found = d.child "cgrep.toml" ∧
        HasConfig look d ∧
        ∀ j < k, ∀ e, directories[j]? = some e → ¬ HasConfig look e ∧ ¬ IsRepository look e := by
  induction directories with
  | nil => exact ⟨nofun, nofun⟩
  | cons directory rest ih =>
    have hfirst := exists_first_cons_iff
      (fun d => found = d.child "cgrep.toml" ∧ HasConfig look d)
      (fun e => ¬ HasConfig look e ∧ ¬ IsRepository look e) directory rest
    simp only [and_assoc] at hfirst
    rw [hfirst]
    by_cases hconfig : HasConfig look directory
    · rw [search_of_config hconfig, or_iff_left fun h => h.1 hconfig, Option.some_inj, eq_comm]
      exact (and_iff_left hconfig).symm
    · rw [or_iff_right fun h => hconfig h.2]
      by_cases hrepository : IsRepository look directory
      · rw [search_of_repository hconfig hrepository]
        exact iff_of_false nofun fun h => h.2.1 hrepository
      · rw [search_of_neither hconfig hrepository, ih]
        exact ⟨fun h => ⟨hconfig, hrepository, h⟩, fun h => h.2.2⟩

theorem findConfig_eq_some_iff {start found : Path} :
    findConfig look start = some found ↔
      ∃ k d, start.ancestor? k = some d ∧ found = d.child "cgrep.toml" ∧ HasConfig look d ∧
        ∀ j < k, ∀ e, start.ancestor? j = some e → ¬ HasConfig look e ∧ ¬ IsRepository look e := by
  simp only [findConfig, search_eq_some_iff, Path.getElem?_ancestors]

/-- **The configuration of a directory is the nearest one inside the repository.** Let `look` say what
stands under each path of a file tree. The configuration is found in the first ancestor, the directory
itself included, in which a file has its name, if there is no repository before this ancestor. Nothing
is found if there is no such file at all, or if a repository comes before it. The ancestors are as
many as it takes to lose one component after the other. -/
theorem findConfig_nearest (look : Look) (start : Path) :
    (∀ found, findConfig look start = some found ↔
      ∃ k d, start.ancestor? k = some d ∧ found = d.child "cgrep.toml" ∧ HasConfig look d ∧
        ∀ j < k, ∀ e, start.ancestor? j = some e →
          ¬ HasConfig look e ∧ ¬ IsRepository look e) ∧
    (findConfig look start = none ↔
      (∀ k d, start.ancestor? k = some d → ¬ HasConfig look d) ∨
        ∃ j e, start.ancestor? j = some e ∧ IsRepository look e ∧
          ∀ i ≤ j, ∀ d, start.ancestor? i = some d → ¬ HasConfig look d) ∧
    ∀ k, (∃ d, start.ancestor? k = some d) ↔ k ≤ start.components.length := by
  refine ⟨fun found => findConfig_eq_some_iff, ?_, fun k =>
    ⟨fun ⟨d, hd⟩ => (Path.components_of_ancestor? hd).1, Path.exists_ancestor?⟩⟩
  constructor
  · intro hnone
    by_contra hnot
    obtain ⟨hsome, hrepository⟩ := not_or.mp hnot
    push Not at hsome hrepository
    -- the least ancestor with a configuration would be the answer
    classical
    obtain ⟨d, hd, hconfig⟩ := Nat.find_spec hsome
    have hfound : findConfig look start = some (d.child "cgrep.toml") := by
      refine findConfig_eq_some_iff.mpr ⟨_, d, hd, rfl, hconfig, fun j hj e he => ⟨?_, ?_⟩⟩
      · exact fun h => Nat.find_min hsome hj ⟨e, he, h⟩
      · intro h
        obtain ⟨i, hij, d', hd', hconfig'⟩ := hrepository j e he h
        exact Nat.find_min hsome (Nat.lt_of_le_of_lt hij hj) ⟨d', hd', hconfig'⟩
    rw [hnone] at hfound
    cases hfound
  · intro h
    cases hfound : findConfig look start with
    | none => rfl
    | some found =>
      obtain ⟨k, d, hd, -, hconfig, hbefore⟩ := findConfig_eq_some_iff.mp hfound
      rcases h with hall | ⟨j, e, he, hrepository, hall⟩
      · exact absurd hconfig (hall k d hd)
      · rcases Nat.lt_or_ge j k with hlt | hge
        · exact absurd hrepository (hbefore j hlt e he).2
        · exact absurd hconfig (hall k hge d hd)

example :
    let tree : FileTree := ⟨[(["r", ".git", "HEAD"], .file .empty), (["r", "cgrep.toml"], .file .empty),
      (["r", "lib", "cgrep.toml", "a.js"], .file .empty), (["r", "sub", ".git"], .file .empty)]⟩
    findConfig (tree.look []) ⟨"/r/lib/new"⟩ = some ⟨"/r/cgrep.toml"⟩ ∧
      findConfig (tree.look []) ⟨"/r/sub"⟩ = none := by
  decide +kernel

end CodeShape.Discovery
