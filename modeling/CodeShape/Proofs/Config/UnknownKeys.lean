import CodeShape.Proofs.Config.Typing

/-!
# Unknown keys

A key stands in the document, in the table of the limits or in the table of a rule (`KeyPath`). Those
that are listed as unknown are the ones that are ignored, and no others: a document means the same
whatever becomes of them, and with a boolean under any other key it is no configuration
(`unknownKeys_ignored`).
-/

namespace CodeShape.Config

open Toml (Table Value)

variable {t : Table} {path : Path} {key : String}

/-! ## Where keys stand -/

/-- The place of a key. -/
inductive KeyPath where
  | document (key : String)
  | engine (key : String)
  /-- In the table that stands at the given place among the rules. -/
  | rule (index : Nat) (key : String)
deriving Repr, DecidableEq

namespace KeyPath

/-- A place as it is written in a warning. -/
def written : KeyPath → String
  | document key => key
  | engine key => "engine." ++ key
  | rule i key => "rule[" ++ toString i ++ "]." ++ key

/-- Does the key mean something at its place? -/
def isKnown : KeyPath → Bool
  | document key => documentKeys.contains key
  | engine key => limitKeys.contains key
  | rule _ key => ruleKeys.contains key

end KeyPath

/-- The places of the keys in tables of rules, from rule number `i` on. -/
def rulePaths (i : Nat) : List Value → List KeyPath
  | [] => []
  | .table t :: rest => t.map (fun e => .rule i e.1) ++ rulePaths (i + 1) rest
  | _ :: rest => rulePaths (i + 1) rest

/-- The places of all keys of a document, of its limits and of its rules. -/
def keyPaths (t : Table) : List KeyPath :=
  t.map (fun e => .document e.1) ++
    (match t.lookup "engine" with
      | some (.table engine) => engine.map (fun e => .engine e.1)
      | _ => []) ++
    (match t.lookup "rule" with
      | some (.array rules) => rulePaths 0 rules
      | _ => [])

/-- The places of the keys that mean nothing. -/
def strayPaths (t : Table) : List KeyPath :=
  (keyPaths t).filter (!·.isKnown)

theorem strayKeys_eq (place : String → KeyPath) {known : List String}
    (h : ∀ key, (place key).isKnown = known.contains key) (t : Table) :
    (strayKeys known t).map (fun key => (place key).written)
      = ((t.map fun e => place e.1).filter (!·.isKnown)).map KeyPath.written := by
  rw [strayKeys, List.filter_map, List.filter_map, List.map_map, List.map_map]
  refine congrArg (List.map _) (List.filter_congr fun e _ => ?_)
  show (!known.contains e.1) = !(place e.1).isKnown
  rw [h]

theorem strayRuleKeys_eq (i : Nat) (rules : List Value) :
    strayRuleKeys i rules = ((rulePaths i rules).filter (!·.isKnown)).map KeyPath.written := by
  fun_induction rulePaths i rules with
  | case1 => rfl
  | case2 i t rest ih =>
    rw [strayRuleKeys, ih, List.filter_append, List.map_append,
      ← strayKeys_eq (.rule i) (fun _ => rfl) t]
    rfl
  | case3 i v rest hv ih =>
    rw [strayRuleKeys]
    · exact ih
    · exact hv

/-- **What is listed are the places of the keys that mean nothing**, as they are written. -/
theorem unknownKeys_eq (t : Table) : unknownKeys t = (strayPaths t).map KeyPath.written := by
  unfold unknownKeys strayPaths keyPaths
  rw [List.filter_append, List.filter_append, List.map_append, List.map_append]
  refine congr (congrArg _ (congr (congrArg _ ?_) ?_)) ?_
  · rw [← strayKeys_eq .document (fun _ => rfl) t]
    exact (List.map_id _).symm
  · rcases t.lookup "engine" with _ | v
    · rfl
    · cases v with
      | table engine => exact strayKeys_eq .engine (fun _ => rfl) engine
      | _ => rfl
  · rcases t.lookup "rule" with _ | v
    · rfl
    · cases v with
      | array rules => exact strayRuleKeys_eq 0 rules
      | _ => rfl

/-! ## Changing a document -/

/-- What becomes of a value under the key at some place; there may be nothing left. -/
abbrev Change := KeyPath → Value → Option Value

/-- Changes the values of a table; a key that is left without a value is deleted. -/
def alterEntries (change : String → Value → Option Value) (t : Table) : Table :=
  t.filterMap fun e => (change e.1 e.2).map (e.1, ·)

/-- Changes the tables of rules, from rule number `i` on. -/
def alterRules (change : Change) (i : Nat) : List Value → List Value
  | [] => []
  | .table t :: rest =>
    .table (alterEntries (fun key => change (.rule i key)) t) :: alterRules change (i + 1) rest
  | v :: rest => v :: alterRules change (i + 1) rest

/-- Changes what stands inside of a value of the document. -/
def alterInside (change : Change) (key : String) (v : Value) : Value :=
  match v with
  | .table t =>
    if key = "engine" then .table (alterEntries (fun key => change (.engine key)) t) else v
  | .array vs => if key = "rule" then .array (alterRules change 0 vs) else v
  | _ => v

/-- Changes the values of a document under the keys at all places. -/
def alter (change : Change) (t : Table) : Table :=
  alterEntries (fun key v => change (.document key) (alterInside change key v)) t

/-- Puts a value under the key at one place. -/
def put (p : KeyPath) (w : Value) : Change := fun q v =>
  some (if q = p then w else v)

/-- What stands under a key of which the value is not deleted. -/
theorem lookup_alterEntries {change : String → Value → Option Value} {f : Value → Value}
    (h : ∀ v, change key v = some (f v)) :
    (alterEntries change t).lookup key = (t.lookup key).map f := by
  induction t with
  | nil => rfl
  | cons e t ih =>
    obtain ⟨k, v⟩ := e
    unfold alterEntries at ih ⊢
    by_cases hk : key = k
    · subst hk
      rw [List.filterMap_cons_some (by rw [h]; rfl), List.lookup_cons_self, List.lookup_cons_self]
      rfl
    · have hne : (key == k) = false := beq_eq_false_iff_ne.mpr hk
      rw [List.lookup_cons, hne, ← ih]
      cases hchange : change k v with
      | none => rw [List.filterMap_cons_none (by rw [hchange]; rfl)]
      | some w =>
        rw [List.filterMap_cons_some (by rw [hchange]; rfl), List.lookup_cons, hne]

/-! ## What a document means -/

/-- What a document means, the path being that of its file. -/
def ofDocument (path : Path) (t : Table) : Except Error Config :=
  match ofTable t with
  | none => .error (.malformed path)
  | some c => checkVersion path c

/-- To read a text is to read the document, and to warn of its unknown keys. -/
theorem parse_eq {text : List Char} (h : Toml.parse text = some t) :
    parse path text = ((unknownKeys t).map (.unknownKey · path), ofDocument path t) := by
  rw [parse, h]
  rfl

theorem ofDocument_of_not_isDocument (h : ¬ IsDocument t) :
    ofDocument path t = .error (.malformed path) := by
  rw [ofDocument, ofTable_eq_none_iff.mpr h]

/-! ## Only known keys are read -/

/-- A field depends on what its value is read as. -/
theorem readOptional_congr {α : Type} {read : Value → Option α} {t' : Table} {f : Value → Value}
    (h : t'.lookup key = (t.lookup key).map f) (hread : ∀ v, read (f v) = read v) :
    readOptional read t' key = readOptional read t key := by
  unfold readOptional
  rw [h]
  cases t.lookup key with
  | none => rfl
  | some v => exact congrArg (Option.map some) (hread v)

/-- Limits depend on their known keys only. -/
theorem readLimits_congr {t' : Table} (h : ∀ key ∈ limitKeys, t'.lookup key = t.lookup key) :
    readLimits (.table t') = readLimits (.table t) := by
  have hmax := h "max_matches" (by decide)
  have hbudget := h "backtrack_limit" (by decide)
  simp only [readLimits, readFields, readDefault, readOptional, hmax, hbudget, Option.bind_eq_bind,
    Option.bind_some]

/-- A rule depends on its known keys only. -/
theorem readRule_congr {t' : Table} (h : ∀ key ∈ ruleKeys, t'.lookup key = t.lookup key) :
    readRule (.table t') = readRule (.table t) := by
  have hname := h "name" (by decide)
  have hpattern := h "pattern" (by decide)
  have hmessage := h "message" (by decide)
  have hseverity := h "severity" (by decide)
  have hextensions := h "extensions" (by decide)
  simp only [readRule, readFields, readDefault, readOptional, hname, hpattern, hmessage, hseverity,
    hextensions, Option.bind_eq_bind, Option.bind_some]

section

variable {change : Change}
  (h : ∀ p : KeyPath, p.isKnown = true → ∀ v, change p v = some v)
include h

theorem readLimits_alterInside (v : Value) :
    readLimits (alterInside change "engine" v) = readLimits v := by
  cases v with
  | table t =>
    rw [alterInside, if_pos rfl]
    refine readLimits_congr fun key hkey => ?_
    rw [lookup_alterEntries (f := id) (h (.engine key) (List.contains_iff_mem.mpr hkey)),
      Option.map_id]
    rfl
  | array vs => rw [alterInside, if_neg (by decide)]
  | _ => rfl

theorem mapM_readRule_alterRules (i : Nat) (vs : List Value) :
    (alterRules change i vs).mapM readRule = vs.mapM readRule := by
  fun_induction alterRules change i vs with
  | case1 => rfl
  | case2 i t rest ih =>
    have hrule : readRule (.table (alterEntries (fun key => change (.rule i key)) t))
        = readRule (.table t) := by
      refine readRule_congr fun key hkey => ?_
      rw [lookup_alterEntries (f := id) (h (.rule i key) (List.contains_iff_mem.mpr hkey)),
        Option.map_id]
      rfl
    rw [List.mapM_cons, List.mapM_cons, hrule, ih]
  | case3 i v rest _ ih => rw [List.mapM_cons, List.mapM_cons, ih]

theorem readList_alterInside (v : Value) :
    readList readRule (alterInside change "rule" v) = readList readRule v := by
  cases v with
  | table t => rw [alterInside, if_neg (by decide)]
  | array vs =>
    rw [alterInside, if_pos rfl]
    exact mapM_readRule_alterRules h 0 vs
  | _ => rfl

/-- **A document means the same whatever becomes of its unknown keys.** -/
theorem ofDocument_alter (path : Path) (t : Table) :
    ofDocument path (alter change t) = ofDocument path t := by
  have hlookup {key : String} (hkey : key ∈ documentKeys) :
      (alter change t).lookup key = (t.lookup key).map (alterInside change key) :=
    lookup_alterEntries fun v => h (.document key) (List.contains_iff_mem.mpr hkey) _
  have hversion : readOptional readInteger (alter change t) "version"
      = readOptional readInteger t "version" :=
    readOptional_congr (hlookup (by decide)) fun v => by cases v <;> rfl
  have hengine : readDefault readLimits (alter change t) "engine" {}
      = readDefault readLimits t "engine" {} :=
    congrArg _ (readOptional_congr (hlookup (by decide)) (readLimits_alterInside h))
  have hrules : readDefault (readList readRule) (alter change t) "rule" []
      = readDefault (readList readRule) t "rule" [] :=
    congrArg _ (readOptional_congr (hlookup (by decide)) (readList_alterInside h))
  have htable : ofTable (alter change t) = ofTable t := by
    unfold ofTable
    rw [hversion, hengine, hrules]
  rw [ofDocument, ofDocument, htable]

end

/-! ## All known keys are read -/

theorem mem_rulePaths {i : Nat} {rules : List Value} {p : KeyPath} (h : p ∈ rulePaths i rules) :
    ∃ n key r, p = .rule (i + n) key ∧ rules[n]? = some (.table r) ∧ key ∈ r.map Prod.fst := by
  fun_induction rulePaths i rules with
  | case1 => cases h
  | case2 i r rest ih =>
    rcases List.mem_append.mp h with h | h
    · obtain ⟨e, he, rfl⟩ := List.mem_map.mp h
      exact ⟨0, e.1, r, rfl, rfl, List.mem_map_of_mem he⟩
    · obtain ⟨n, key, r, rfl, hr, hkey⟩ := ih h
      refine ⟨n + 1, key, r, ?_, hr, hkey⟩
      rw [Nat.add_right_comm]
      rfl
  | case3 i v rest _ ih =>
    obtain ⟨n, key, r, rfl, hr, hkey⟩ := ih h
    refine ⟨n + 1, key, r, ?_, hr, hkey⟩
    rw [Nat.add_right_comm]
    rfl

theorem getElem?_alterRules (change : Change) {n : Nat} {r : Table} (i : Nat) {rules : List Value}
    (h : rules[n]? = some (.table r)) : (alterRules change i rules)[n]?
      = some (.table (alterEntries (fun key => change (.rule (i + n) key)) r)) := by
  fun_induction alterRules change i rules generalizing n with
  | case1 => cases h
  | case2 i t rest ih =>
    cases n with
    | zero =>
      cases h
      rfl
    | succ n =>
      have hnext := ih h
      rw [Nat.add_right_comm i 1 n] at hnext
      exact hnext
  | case3 i v rest hv ih =>
    cases n with
    | zero => exact absurd (Option.some.inj h) (hv r)
    | succ n =>
      have hnext := ih h
      rw [Nat.add_right_comm i 1 n] at hnext
      exact hnext

/-- Where a value is put under a key of a table, it is found there. -/
theorem lookup_alterEntries_put (place : String → KeyPath) {w : Value}
    (hkey : key ∈ t.map Prod.fst) (f : String → Value → Value) :
    (alterEntries (fun k v => put (place key) w (place k) (f k v)) t).lookup key = some w := by
  obtain ⟨v, hv⟩ : ∃ v, t.lookup key = some v := by
    rw [← Option.isSome_iff_exists, List.lookup_isSome_iff]
    obtain ⟨e, he, rfl⟩ := List.mem_map.mp hkey
    exact ⟨e, he, beq_self_eq_true _⟩
  have hput (v : Value) : put (place key) w (place key) (f key v) = some w :=
    congrArg some (if_pos rfl)
  have hlookup : (alterEntries (fun k v => put (place key) w (place k) (f k v)) t).lookup key
      = (t.lookup key).map fun _ => w := lookup_alterEntries hput
  rw [hlookup, hv]
  rfl

/-- What is put into a value of the document is found there. -/
theorem lookup_alter_put {p : KeyPath} {w v : Value} (hp : ∀ key, p ≠ .document key)
    (hv : t.lookup key = some v) :
    (alter (put p w) t).lookup key = some (alterInside (put p w) key v) := by
  have hput (key : String) (v : Value) : put p w (.document key) (alterInside (put p w) key v)
      = some (alterInside (put p w) key v) := congrArg some (if_neg (hp key).symm)
  rw [alter, lookup_alterEntries (hput key), hv]
  rfl

variable (b : Bool)

theorem not_isLimits_of_lookup (hkey : key ∈ limitKeys) (h : t.lookup key = some (.boolean b)) :
    ¬ IsLimits (.table t) := by
  rintro ⟨_, ⟨⟩, hmax, hbudget⟩
  have hnot : ¬ IsCount (.boolean b) := nofun
  simp only [limitKeys, List.mem_cons, List.not_mem_nil, or_false] at hkey
  rcases hkey with rfl | rfl
  · exact hnot (hmax _ h)
  · exact hnot (hbudget _ h)

theorem not_isRule_of_lookup (hkey : key ∈ ruleKeys) (h : t.lookup key = some (.boolean b)) :
    ¬ IsRule (.table t) := by
  rintro ⟨_, ⟨⟩, ⟨v, hv, hname⟩, ⟨w, hw, hpattern⟩, hmessage, hseverity, hextensions⟩
  have hnot : ¬ IsText (.boolean b) := nofun
  simp only [ruleKeys, List.mem_cons, List.not_mem_nil, or_false] at hkey
  rcases hkey with rfl | rfl | rfl | rfl | rfl
  · rw [h] at hv
    exact hnot (Option.some.inj hv ▸ hname)
  · rw [h] at hw
    exact hnot (Option.some.inj hw ▸ hpattern)
  · exact hnot (hmessage _ h)
  · exact hnot (hseverity _ h)
  · exact (nofun : ¬ IsList IsText (.boolean b)) (hextensions _ h)

theorem not_isDocument_of_lookup (hkey : key ∈ documentKeys)
    (h : t.lookup key = some (.boolean b)) : ¬ IsDocument t := by
  rintro ⟨hversion, hengine, hrule⟩
  simp only [documentKeys, List.mem_cons, List.not_mem_nil, or_false] at hkey
  rcases hkey with rfl | rfl | rfl
  · exact (nofun : ¬ IsInteger (.boolean b)) (hversion _ h)
  · obtain ⟨_, ⟨⟩, -⟩ := hengine _ h
  · exact (nofun : ¬ IsList IsRule (.boolean b)) (hrule _ h)

/-- **With a boolean under a known key a document is no configuration.** -/
theorem not_isDocument_put {p : KeyPath} (hp : p ∈ keyPaths t) (hknown : p.isKnown = true) :
    ¬ IsDocument (alter (put p (.boolean b)) t) := by
  unfold keyPaths at hp
  rcases List.mem_append.mp hp with hp | hp
  · rcases List.mem_append.mp hp with hp | hp
    · obtain ⟨e, he, rfl⟩ := List.mem_map.mp hp
      refine not_isDocument_of_lookup b (List.contains_iff_mem.mp hknown) ?_
      exact lookup_alterEntries_put .document (List.mem_map_of_mem he) (alterInside _)
    · split at hp
      next engine hengine =>
        obtain ⟨e, he, rfl⟩ := List.mem_map.mp hp
        intro hdocument
        have hlimits := hdocument.engine _ (lookup_alter_put nofun hengine)
        rw [alterInside, if_pos rfl] at hlimits
        refine not_isLimits_of_lookup b (List.contains_iff_mem.mp hknown) ?_ hlimits
        exact lookup_alterEntries_put .engine (List.mem_map_of_mem he) fun _ => id
      next => cases hp
  · split at hp
    next rules hrules =>
      obtain ⟨n, key, r, rfl, hr, hkey⟩ := mem_rulePaths hp
      intro hdocument
      have hlist := hdocument.rule _ (lookup_alter_put nofun hrules)
      rw [alterInside, if_pos rfl] at hlist
      obtain ⟨hall⟩ := hlist
      have hmem := List.mem_of_getElem? (getElem?_alterRules (put (.rule (0 + n) key) (.boolean b)) 0 hr)
      refine not_isRule_of_lookup b (List.contains_iff_mem.mp hknown) ?_ (hall _ hmem)
      exact lookup_alterEntries_put (.rule (0 + n)) hkey fun _ => id
    next => cases hp

/-- **The unknown keys are exactly the ones that are ignored.** What is listed are the places of keys
that mean nothing. Whatever becomes of the values there, whether they are deleted or replaced, the
document means the same: it gives the same configuration, or is refused for the same reason. The key
at any other place is read: with a boolean under it, the document is no configuration. -/
theorem unknownKeys_ignored (t : Table) (path : Path) :
    unknownKeys t = (strayPaths t).map KeyPath.written ∧
      (∀ text, Toml.parse text = some t → parse path text
        = ((unknownKeys t).map (.unknownKey · path), ofDocument path t)) ∧
      (∀ change : Change, (∀ p ∉ strayPaths t, ∀ v, change p v = some v) →
        ofDocument path (alter change t) = ofDocument path t) ∧
      (∀ p ∈ keyPaths t, p ∉ strayPaths t → ∀ b,
        ofDocument path (alter (put p (.boolean b)) t) = .error (.malformed path)) := by
  have hstray {p : KeyPath} (hp : p ∈ keyPaths t) : p ∉ strayPaths t ↔ p.isKnown = true := by
    rw [strayPaths, List.mem_filter]
    simp [hp]
  refine ⟨unknownKeys_eq t, fun text => parse_eq, fun change hchange => ?_, fun p hp hlisted b => ?_⟩
  · refine ofDocument_alter (fun p hknown => hchange p fun hp => ?_) path t
    exact (hstray (List.mem_filter.mp hp).1).mpr hknown hp
  · exact ofDocument_of_not_isDocument (not_isDocument_put b hp ((hstray hp).mp hlisted))

/-- A document with an unknown key at each of the three places; its first rule is no table. -/
def strayDocument : Table :=
  [("colour", .string "red"),
    ("engine", .table [("depth", .integer 3), ("max_matches", .integer 7)]),
    ("rule", .array [.array [.string "m", .string "q"],
      .table [("name", .string "n"), ("pattern", .string "p"), ("tags", .array [])]])]

theorem unknownKeys_ignored_stray :
    unknownKeys strayDocument = ["colour", "engine.depth", "rule[1].tags"] ∧
      ofDocument ⟨"c.toml"⟩ (alter (fun p v =>
          if p ∈ strayPaths strayDocument then none else some v) strayDocument)
        = .ok ⟨none, { maxMatches := 7 }, [⟨"m", "q", none, .error, []⟩,
          ⟨"n", "p", none, .error, []⟩]⟩ ∧
      ofDocument ⟨"c.toml"⟩ (alter (put (.rule 1 "name") (.boolean true)) strayDocument)
        = .error (.malformed ⟨"c.toml"⟩) := by
  obtain ⟨-, -, hignored, hread⟩ := unknownKeys_ignored strayDocument ⟨"c.toml"⟩
  refine ⟨by decide, (hignored _ fun p hp v => if_neg hp).trans rfl, ?_⟩
  exact hread (.rule 1 "name") (by decide) (by decide) true

end CodeShape.Config
