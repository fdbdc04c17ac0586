import BattleBelief.Library.PythonEquality
import BattleBelief.Oracle.Manifests
import Mathlib.Data.List.Lex

/-!
# Ruleset Snapshots

What a build manifest keeps of the format and its resolved rules: sorted lists of names, the tables
of rules and bans, and the limits for a team. A value of each type is read back from its own
document, whatever document it was read from (`normalizeRulesetSnapshot_toJson`).
-/

namespace BattleBelief.Oracle.Manifests

open Runs
open Python (Json)
open Python.Json (pyEq)

/-! ## §1 Fields -/

def refused {α : Type} (text : String) : Except PyException α := .error (.valueError text)

/-- What `_require_string` returns. -/
abbrev NonEmptyText := {text : String // text ≠ ""}

theorem requireString_eq_ok {value : Json} {field text : String} :
    requireString value field = .ok text ↔ value = .str text ∧ text ≠ "" := by
  cases value with
  | str found =>
    unfold requireString
    dsimp only
    split_ifs with hempty
    · simp [hempty, eq_comm]
    · simp only [Except.ok.injEq, Json.str.injEq]
      constructor
      · rintro rfl
        exact ⟨rfl, hempty⟩
      · exact And.left
  | _ => simp [requireString]

/-- `_require_string`, with what it has checked. -/
def requireName (value : Json) (field : String) : Except PyException NonEmptyText :=
  match h : requireString value field with
  | .ok text => .ok ⟨text, (requireString_eq_ok.mp h).2⟩
  | .error err => .error err

theorem requireName_str (name : NonEmptyText) (field : String) :
    requireName (.str name.val) field = .ok name := by
  have h : requireString (.str name.val) field = .ok name.val :=
    requireString_eq_ok.mpr ⟨rfl, name.property⟩
  unfold requireName
  split
  · rename_i text htext
    have hsame : text = name.val := Except.ok.inj (htext.symm.trans h)
    subst hsame
    rfl
  · rename_i err herr
    rw [h] at herr
    cases herr

section Fields

variable [Python.UnicodeDatabase]

theorem requireExactKeys_of_keys {members : List (String × Json)} {expected : List String}
    (h : Python.Dict.keys members = expected) : requireExactKeys members expected = .ok () := by
  have hsame : Python.Dict.sameSet expected expected = true :=
    Python.Dict.sameSet_iff.mpr fun _ => Iff.rfl
  apply refuseIf_eq_ok.mpr
  rw [h, hsame]
  decide

end Fields

/-! ## §2 Lists of names -/

/-- Texts in order, none of them empty and none twice. -/
structure SortedStrings where
  names : List NonEmptyText
  sorted : names.map Subtype.val = Python.sorted (names.map Subtype.val)
  unique : (names.map Subtype.val).Nodup

def SortedStrings.toJson (strings : SortedStrings) : Json :=
  .arr (strings.names.map fun name => .str name.val)

/-- An item of a list of names. -/
def sortedStringsItem (field : String) : Json → Except PyException NonEmptyText
  | .str text =>
      if hempty : text = "" then refused (field ++ " must be a non-empty-string list")
      else .ok ⟨text, hempty⟩
  | _ => refused (field ++ " must be a non-empty-string list")

/-- `_normalize_sorted_strings`. -/
def normalizeSortedStrings (value : Json) (field : String) : Except PyException SortedStrings :=
  match value with
  | .arr items => do
      let names ← items.mapM (sortedStringsItem field)
      let texts := names.map Subtype.val
      if hsorted : texts = Python.sorted texts ∧ texts.Nodup then
        pure { names, sorted := hsorted.1, unique := hsorted.2 }
      else refused (field ++ " must be sorted and unique")
  | _ => refused (field ++ " must be a non-empty-string list")

theorem normalizeSortedStrings_toJson (strings : SortedStrings) (field : String) :
    normalizeSortedStrings strings.toJson field = .ok strings := by
  have hread : (strings.names.map fun name => Json.str name.val).mapM (sortedStringsItem field) =
      .ok strings.names := by
    apply mapM_map_self
    intro name _
    simp [sortedStringsItem, name.property]
  apply bind_eq_ok.mpr
  exact ⟨strings.names, hread, dif_pos ⟨strings.sorted, strings.unique⟩⟩

/-! ## §3 Tables of rules -/

/-- Rows in the order of their two texts, no row twice. -/
structure PairTable {α : Type} (texts : α → String × String) where
  rows : List α
  sorted : rows.map texts = Python.Dict.sortedItems (rows.map texts)
  unique : (rows.map texts).Nodup

/-- The document of a table, its texts under two names. -/
def PairTable.toJson {α : Type} {texts : α → String × String} (first second : String)
    (table : PairTable texts) : Json :=
  .arr (table.rows.map fun row => .obj [(first, .str (texts row).1), (second, .str (texts row).2)])

/-- A table, from the reader of a row and the texts of the three problems. -/
def normalizeTable {α : Type} (texts : α → String × String) (read : Json → Except PyException α)
    (noList unsorted duplicates : String) (value : Json) : Except PyException (PairTable texts) :=
  match value with
  | .arr items => do
      let rows ← items.mapM read
      if hsorted : rows.map texts = Python.Dict.sortedItems (rows.map texts) then
        if hunique : (rows.map texts).Nodup then
          pure { rows, sorted := hsorted, unique := hunique }
        else refused duplicates
      else refused unsorted
  | _ => refused noList

theorem normalizeTable_toJson {α : Type} {texts : α → String × String}
    {read : Json → Except PyException α} {first second noList unsorted duplicates : String}
    (hread : ∀ row, read (.obj [(first, .str (texts row).1), (second, .str (texts row).2)]) = .ok row)
    (table : PairTable texts) :
    normalizeTable texts read noList unsorted duplicates (table.toJson first second) = .ok table := by
  apply bind_of_ok (mapM_map_self fun row _ => hread row)
  rw [dif_pos table.sorted, dif_pos table.unique]
  rfl

/-- A key with its value, which may be empty. -/
abbrev RulesetEntry := NonEmptyText × String

def RulesetEntry.texts (entry : RulesetEntry) : String × String := (entry.1.val, entry.2)

/-- The prefix of a tag with the tag. -/
abbrev TagRule := NonEmptyText × NonEmptyText

def TagRule.texts (rule : TagRule) : String × String := (rule.1.val, rule.2.val)

/-- A text that may be empty. -/
def requireText (value : Json) (field : String) : Except PyException String :=
  match value with
  | .str text => .ok text
  | value => requireString value field

section Tables

variable [Python.UnicodeDatabase]

/-- One entry of `_normalize_ruleset_entries`. -/
def rulesetEntry (field : String) (entry : Json) : Except PyException RulesetEntry :=
  match entry with
  | .obj members => do
      requireExactKeys members ["key", "value"]
      let key ← requireName (← member members "key") (field ++ ".key")
      let value ← requireText (← member members "value") (field ++ ".value")
      pure (key, value)
  | _ => refused (field ++ " entries must be objects")

/-- `_normalize_ruleset_entries`. -/
def normalizeRulesetEntries (value : Json) (field : String) :
    Except PyException (PairTable RulesetEntry.texts) :=
  normalizeTable RulesetEntry.texts (rulesetEntry field) (field ++ " must be a list")
    (field ++ " must be sorted") (field ++ " must not contain duplicate entries") value

/-- One entry of `_normalize_tag_rules`. -/
def tagRule (entry : Json) : Except PyException TagRule :=
  match entry with
  | .obj members => do
      requireExactKeys members ["prefix", "tag"]
      let tagPrefix ← requireName (← member members "prefix") "ruleset_snapshot tag prefix"
      let tag ← requireName (← member members "tag") "ruleset_snapshot tag"
      pure (tagPrefix, tag)
  | _ => refused "ruleset_snapshot tag_rules entries must be objects"

/-- `_normalize_tag_rules`. -/
def normalizeTagRules (value : Json) : Except PyException (PairTable TagRule.texts) :=
  normalizeTable TagRule.texts tagRule "ruleset_snapshot tag_rules must be a list"
    "ruleset_snapshot tag_rules must be sorted"
    "ruleset_snapshot tag_rules must not contain duplicates" value

theorem rulesetEntry_document (field : String) (entry : RulesetEntry) :
    rulesetEntry field (.obj [("key", .str entry.texts.1), ("value", .str entry.texts.2)]) =
      .ok entry := by
  apply bind_of_ok (requireExactKeys_of_keys rfl)
  apply bind_of_ok rfl
  exact bind_of_ok (requireName_str _ _) rfl

theorem normalizeRulesetEntries_toJson (table : PairTable RulesetEntry.texts) (field : String) :
    normalizeRulesetEntries (table.toJson "key" "value") field = .ok table :=
  normalizeTable_toJson (rulesetEntry_document field) table

theorem tagRule_document (rule : TagRule) :
    tagRule (.obj [("prefix", .str rule.texts.1), ("tag", .str rule.texts.2)]) = .ok rule := by
  apply bind_of_ok (requireExactKeys_of_keys rfl)
  apply bind_of_ok rfl
  apply bind_of_ok (requireName_str _ _)
  apply bind_of_ok rfl
  exact bind_of_ok (requireName_str _ _) rfl

theorem normalizeTagRules_toJson (table : PairTable TagRule.texts) :
    normalizeTagRules (table.toJson "prefix" "tag") = .ok table :=
  normalizeTable_toJson tagRule_document table

end Tables

/-! ## §4 Bans -/

/-- A ban of several names together, up to a limit. -/
structure ComplexBan where
  limit : Int
  positive : 1 ≤ limit
  rules : SortedStrings
  source : NonEmptyText

def ComplexBan.toJson (ban : ComplexBan) : Json :=
  .obj [("limit", .int ban.limit), ("rules", ban.rules.toJson), ("source", .str ban.source.val)]

section Bans

variable [Python.UnicodeDatabase]

/-- One entry of `_normalize_complex_bans`. -/
def complexBan (field : String) (entry : Json) : Except PyException ComplexBan :=
  match entry with
  | .obj members => do
      requireExactKeys members ["limit", "rules", "source"]
      match ← member members "limit" with
      | .int limit =>
          if hpositive : 1 ≤ limit then do
            let rules ← normalizeSortedStrings (← member members "rules") (field ++ ".rules")
            let source ← requireName (← member members "source") (field ++ ".source")
            pure { limit, positive := hpositive, rules, source }
          else refused (field ++ ".limit must be a positive integer")
      | _ => refused (field ++ ".limit must be a positive integer")
  | _ => refused (field ++ " entries must be objects")

theorem complexBan_toJson (field : String) (ban : ComplexBan) :
    complexBan field ban.toJson = .ok ban := by
  apply bind_of_ok (requireExactKeys_of_keys rfl)
  apply bind_of_ok rfl
  dsimp only
  rw [dif_pos ban.positive]
  apply bind_of_ok rfl
  apply bind_of_ok (normalizeSortedStrings_toJson _ _)
  apply bind_of_ok rfl
  exact bind_of_ok (requireName_str _ _) rfl

variable [Rfc8785]

/-- `canonicalize(item)` -/
def banKey (ban : ComplexBan) : Except PyException (List Nat) := Rfc8785.dumps ban.toJson

/-- Bans in the order of their canonical bytes: they are the sorted list exactly when their keys
are sorted. -/
structure ComplexBans where
  bans : List ComplexBan
  ordered : ∃ keys, bans.mapM banKey = .ok keys ∧ keys.Pairwise (· ≤ ·)

def ComplexBans.toJson (table : ComplexBans) : Json := .arr (table.bans.map ComplexBan.toJson)

/-- The check of the order in `_normalize_complex_bans`. -/
def requireCanonicalOrder (bans : List ComplexBan) (field : String) :
    Except PyException ComplexBans :=
  match hkeys : bans.mapM banKey with
  | .error err => .error err
  | .ok keys =>
      if hordered : keys.Pairwise (· ≤ ·) then .ok ⟨bans, keys, hkeys, hordered⟩
      else refused (field ++ " must be sorted")

/-- `_normalize_complex_bans`. -/
def normalizeComplexBans (value : Json) (field : String) : Except PyException ComplexBans :=
  match value with
  | .arr items => do
      let bans ← items.mapM (complexBan field)
      requireCanonicalOrder bans field
  | _ => refused (field ++ " must be a list")

omit [Python.UnicodeDatabase] in
theorem requireCanonicalOrder_bans (table : ComplexBans) (field : String) :
    requireCanonicalOrder table.bans field = .ok table := by
  obtain ⟨keys, hkeys, hordered⟩ := table.ordered
  unfold requireCanonicalOrder
  split
  · rename_i err herr
    rw [hkeys] at herr
    cases herr
  · rename_i found hfound
    cases Except.ok.inj (hkeys.symm.trans hfound)
    rw [dif_pos hordered]

theorem normalizeComplexBans_toJson (table : ComplexBans) (field : String) :
    normalizeComplexBans table.toJson field = .ok table := by
  apply bind_of_ok (mapM_map_self fun ban _ => complexBan_toJson field ban)
  exact requireCanonicalOrder_bans table field

end Bans

/-! ## §5 Limits for a team -/

/-- A number that is not negative. -/
abbrev Size := {value : Int // 0 ≤ value}

structure TeamConstraints where
  evLimit : Size
  maxLevel : Size
  maxMoveCount : Size
  maxTeamSize : Size
  minLevel : Size
  minSourceGen : Size
  minTeamSize : Size

def TeamConstraints.toJson (constraints : TeamConstraints) : Json :=
  .obj [("ev_limit", .int constraints.evLimit.val), ("max_level", .int constraints.maxLevel.val),
    ("max_move_count", .int constraints.maxMoveCount.val),
    ("max_team_size", .int constraints.maxTeamSize.val),
    ("min_level", .int constraints.minLevel.val),
    ("min_source_gen", .int constraints.minSourceGen.val),
    ("min_team_size", .int constraints.minTeamSize.val)]

/-- `constraints[key]`, as a number. -/
def teamConstraint (constraints : List (String × Json)) (key : String) : Except PyException Size :=
  let problem :=
    "ruleset_snapshot team constraint " ++ key ++ " must be a non-negative integer"
  match Json.get? constraints key with
  | some (.int value) => if hsize : 0 ≤ value then .ok ⟨value, hsize⟩ else refused problem
  | some _ => refused problem
  | none => .error (.other "KeyError" none)

section Snapshot

variable [Python.UnicodeDatabase]

/-- The team constraints of `_normalize_ruleset_snapshot`. -/
def normalizeTeamConstraints (value : Json) : Except PyException TeamConstraints :=
  match value with
  | .obj constraints => do
      requireExactKeys constraints ["ev_limit", "max_level", "max_move_count", "max_team_size",
        "min_level", "min_source_gen", "min_team_size"]
      let evLimit ← teamConstraint constraints "ev_limit"
      let maxLevel ← teamConstraint constraints "max_level"
      let maxMoveCount ← teamConstraint constraints "max_move_count"
      let maxTeamSize ← teamConstraint constraints "max_team_size"
      let minLevel ← teamConstraint constraints "min_level"
      let minSourceGen ← teamConstraint constraints "min_source_gen"
      let minTeamSize ← teamConstraint constraints "min_team_size"
      pure { evLimit, maxLevel, maxMoveCount, maxTeamSize, minLevel, minSourceGen, minTeamSize }
  | _ => refused "ruleset_snapshot team_constraints must be an object"

omit [Python.UnicodeDatabase] in
theorem teamConstraint_of_get {constraints : List (String × Json)} {key : String} {size : Size}
    (h : Json.get? constraints key = some (.int size.val)) :
    teamConstraint constraints key = .ok size := by
  unfold teamConstraint
  rw [h]
  exact dif_pos size.property

theorem normalizeTeamConstraints_toJson (constraints : TeamConstraints) :
    normalizeTeamConstraints constraints.toJson = .ok constraints := by
  apply bind_of_ok (requireExactKeys_of_keys rfl)
  apply bind_of_ok (teamConstraint_of_get rfl)
  apply bind_of_ok (teamConstraint_of_get rfl)
  apply bind_of_ok (teamConstraint_of_get rfl)
  apply bind_of_ok (teamConstraint_of_get rfl)
  apply bind_of_ok (teamConstraint_of_get rfl)
  apply bind_of_ok (teamConstraint_of_get rfl)
  exact bind_of_ok (teamConstraint_of_get rfl) rfl

/-! ## §6 Formats -/

/-- The resolved format, but for what is the same in every snapshot. -/
structure RulesetFormat where
  name : NonEmptyText
  rated : Bool
  ruleset : SortedStrings
  baseRuleset : SortedStrings
  banlist : SortedStrings
  restricted : SortedStrings
  unbanlist : SortedStrings

def RulesetFormat.toJson (format : RulesetFormat) : Json :=
  .obj [("id", .str "gen9ou"), ("name", .str format.name.val), ("mod", .str "gen9"),
    ("game_type", .str "singles"), ("gen", .int 9), ("rated", .bool format.rated),
    ("ruleset", format.ruleset.toJson), ("base_ruleset", format.baseRuleset.toJson),
    ("banlist", format.banlist.toJson), ("restricted", format.restricted.toJson),
    ("unbanlist", format.unbanlist.toJson)]

/-- `id`, `mod`, `game_type`, `gen` and `rated`, where they are those of the Gen 9 OU format. -/
def boundFormat (id mod gameType gen rated : Json) : Except PyException Bool :=
  let problem := "ruleset_snapshot must bind the resolved Gen 9 OU Singles format"
  if !pyEq id (.str "gen9ou") || !pyEq mod (.str "gen9") || !pyEq gameType (.str "singles") ||
      !pyEq gen (.int 9) then refused problem
  else
    match rated with
    | .bool rated => .ok rated
    | _ => refused problem

/-- The format of `_normalize_ruleset_snapshot`. -/
def normalizeRulesetFormat (value : Json) : Except PyException RulesetFormat :=
  match value with
  | .obj members => do
      requireExactKeys members ["id", "name", "mod", "game_type", "gen", "rated", "ruleset",
        "base_ruleset", "banlist", "restricted", "unbanlist"]
      let rated ← boundFormat (← member members "id") (← member members "mod")
        (← member members "game_type") (← member members "gen") (← member members "rated")
      let name ← requireName (← member members "name") "ruleset_snapshot format name"
      let ruleset ← normalizeSortedStrings (← member members "ruleset") "ruleset_snapshot ruleset"
      let baseRuleset ← normalizeSortedStrings (← member members "base_ruleset")
        "ruleset_snapshot base_ruleset"
      let banlist ← normalizeSortedStrings (← member members "banlist") "ruleset_snapshot banlist"
      let restricted ← normalizeSortedStrings (← member members "restricted")
        "ruleset_snapshot restricted"
      let unbanlist ← normalizeSortedStrings (← member members "unbanlist")
        "ruleset_snapshot unbanlist"
      pure { name, rated, ruleset, baseRuleset, banlist, restricted, unbanlist }
  | _ => refused "ruleset_snapshot format must be an object"

theorem normalizeRulesetFormat_toJson (format : RulesetFormat) :
    normalizeRulesetFormat format.toJson = .ok format := by
  have hstrings := normalizeSortedStrings_toJson
  have hbound : boundFormat (.str "gen9ou") (.str "gen9") (.str "singles") (.int 9)
      (.bool format.rated) = .ok format.rated := by
    have hgen : pyEq (.int 9) (.int 9) = true := Python.Json.pyEq_int.mpr rfl
    simp [boundFormat, hgen, Python.Json.pyEq_str]
  apply bind_of_ok (requireExactKeys_of_keys rfl)
  apply bind_of_ok rfl
  apply bind_of_ok rfl
  apply bind_of_ok rfl
  apply bind_of_ok rfl
  apply bind_of_ok rfl
  apply bind_of_ok hbound
  apply bind_of_ok rfl
  apply bind_of_ok (requireName_str _ _)
  apply bind_of_ok rfl
  apply bind_of_ok (hstrings _ _)
  apply bind_of_ok rfl
  apply bind_of_ok (hstrings _ _)
  apply bind_of_ok rfl
  apply bind_of_ok (hstrings _ _)
  apply bind_of_ok rfl
  apply bind_of_ok (hstrings _ _)
  apply bind_of_ok rfl
  exact bind_of_ok (hstrings _ _) rfl

/-! ## §7 Snapshots -/

variable [Rfc8785]

/-- The resolved rules: two tables of entries, two of bans, the rules for tags and the limits. -/
structure RuleTable where
  entries : PairTable RulesetEntry.texts
  valueRules : PairTable RulesetEntry.texts
  complexBans : ComplexBans
  complexTeamBans : ComplexBans
  tagRules : PairTable TagRule.texts
  teamConstraints : TeamConstraints

def RuleTable.toJson (table : RuleTable) : Json :=
  .obj [("entries", table.entries.toJson "key" "value"),
    ("value_rules", table.valueRules.toJson "key" "value"),
    ("complex_bans", table.complexBans.toJson),
    ("complex_team_bans", table.complexTeamBans.toJson),
    ("tag_rules", table.tagRules.toJson "prefix" "tag"),
    ("team_constraints", table.teamConstraints.toJson)]

/-- The rule table of `_normalize_ruleset_snapshot`. -/
def normalizeRuleTable (value : Json) : Except PyException RuleTable :=
  match value with
  | .obj members => do
      requireExactKeys members ["entries", "value_rules", "complex_bans", "complex_team_bans",
        "tag_rules", "team_constraints"]
      let teamConstraints ← normalizeTeamConstraints (← member members "team_constraints")
      let entries ← normalizeRulesetEntries (← member members "entries") "ruleset_snapshot entries"
      let valueRules ← normalizeRulesetEntries (← member members "value_rules")
        "ruleset_snapshot value_rules"
      let complexBans ← normalizeComplexBans (← member members "complex_bans")
        "ruleset_snapshot complex_bans"
      let complexTeamBans ← normalizeComplexBans (← member members "complex_team_bans")
        "ruleset_snapshot complex_team_bans"
      let tagRules ← normalizeTagRules (← member members "tag_rules")
      pure { entries, valueRules, complexBans, complexTeamBans, tagRules, teamConstraints }
  | _ => refused "ruleset_snapshot resolved_rule_table must be an object"

theorem normalizeRuleTable_toJson (table : RuleTable) :
    normalizeRuleTable table.toJson = .ok table := by
  apply bind_of_ok (requireExactKeys_of_keys rfl)
  apply bind_of_ok rfl
  apply bind_of_ok (normalizeTeamConstraints_toJson _)
  apply bind_of_ok rfl
  apply bind_of_ok (normalizeRulesetEntries_toJson _ _)
  apply bind_of_ok rfl
  apply bind_of_ok (normalizeRulesetEntries_toJson _ _)
  apply bind_of_ok rfl
  apply bind_of_ok (normalizeComplexBans_toJson _ _)
  apply bind_of_ok rfl
  apply bind_of_ok (normalizeComplexBans_toJson _ _)
  apply bind_of_ok rfl
  exact bind_of_ok (normalizeTagRules_toJson _) rfl

/-- `_RULESET_EXTRACTOR_DIGEST` -/
def rulesetExtractorDigest : String :=
  "sha256:82ae637f73a81aa9bafeab27fc0bc057d1fc281660985898a9c0006159e56f58"

structure RulesetSnapshot where
  format : RulesetFormat
  resolvedRuleTable : RuleTable

def RulesetSnapshot.toJson (snapshot : RulesetSnapshot) : Json :=
  .obj [("schema_version", .int 1),
    ("extractor_id", .str "battlebelief-showdown-ruleset-extractor-v1"),
    ("extractor_digest", .str rulesetExtractorDigest), ("format", snapshot.format.toJson),
    ("resolved_rule_table", snapshot.resolvedRuleTable.toJson)]

/-- The extractor that a snapshot names is the bound one. -/
def requireExtractor (schemaVersion extractorId extractorDigest : Json) :
    Except PyException Unit := do
  refuseIf (!pyEq schemaVersion (.int 1))
    (.valueError "ruleset_snapshot schema version is unsupported")
  refuseIf (!pyEq extractorId (.str "battlebelief-showdown-ruleset-extractor-v1"))
    (.valueError "ruleset_snapshot extractor identity is unsupported")
  let digest ← requireDigest extractorDigest "ruleset_snapshot extractor digest"
  refuseIf (digest ≠ rulesetExtractorDigest)
    (.valueError "ruleset_snapshot extractor digest is not the bound extractor")

/-- `_normalize_ruleset_snapshot`. -/
def normalizeRulesetSnapshot (value : Json) : Except PyException RulesetSnapshot :=
  match value with
  | .obj members => do
      requireExactKeys members
        ["schema_version", "extractor_id", "extractor_digest", "format", "resolved_rule_table"]
      requireExtractor (← member members "schema_version") (← member members "extractor_id")
        (← member members "extractor_digest")
      let format ← normalizeRulesetFormat (← member members "format")
      let resolvedRuleTable ← normalizeRuleTable (← member members "resolved_rule_table")
      pure { format, resolvedRuleTable }
  | _ => refused "ruleset_snapshot must be an object"

omit [Python.UnicodeDatabase] [Rfc8785] in
theorem requireDigest_str {text : String} (h : isDigest text = true) (field : String) :
    requireDigest (.str text) field = .ok text := by
  have hnonempty : text ≠ "" := by
    rintro rfl
    exact absurd h (by decide)
  apply bind_eq_ok.mpr
  refine ⟨text, requireString_eq_ok.mpr ⟨rfl, hnonempty⟩, ?_⟩
  simp [h, refuseIf]

/-- A snapshot is read back from its own document. -/
theorem normalizeRulesetSnapshot_toJson (snapshot : RulesetSnapshot) :
    normalizeRulesetSnapshot snapshot.toJson = .ok snapshot := by
  have hextractor : requireExtractor (.int 1) (.str "battlebelief-showdown-ruleset-extractor-v1")
      (.str rulesetExtractorDigest) = .ok () := by
    have hversion : pyEq (.int 1) (.int 1) = true := Python.Json.pyEq_int.mpr rfl
    apply bind_of_ok (a := ()) (refuseIf_eq_ok.mpr (by simp [hversion]))
    apply bind_of_ok (a := ()) (refuseIf_eq_ok.mpr (by simp [Python.Json.pyEq_str]))
    apply bind_of_ok (requireDigest_str (by decide) _)
    exact refuseIf_eq_ok.mpr (not_not.mpr rfl)
  apply bind_of_ok (requireExactKeys_of_keys rfl)
  apply bind_of_ok rfl
  apply bind_of_ok rfl
  apply bind_of_ok rfl
  apply bind_of_ok hextractor
  apply bind_of_ok rfl
  apply bind_of_ok (normalizeRulesetFormat_toJson _)
  apply bind_of_ok rfl
  exact bind_of_ok (normalizeRuleTable_toJson _) rfl

end Snapshot

end BattleBelief.Oracle.Manifests
