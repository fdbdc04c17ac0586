import BattleBelief.Library.SetDigest
import BattleBelief.Library.Runs
import BattleBelief.Records.PublicProjection
import Mathlib.Data.String.Basic
import Mathlib.Data.List.Perm.Basic
import Mathlib.Data.List.Lex
import Mathlib.Data.Option.Defs

/-!
# Team Clustering

The exact-team projection: six members, every name as its Showdown id, moves and members sorted.

- `toShowdownId_of_restyled`: two spellings of a name have one identifier
- `canonicalMember_toDict`: a canonical member is read as itself
-/

namespace BattleBelief

open Python (Dict.keys Dict.sameSet Json)
open Runs

/-! ## §1 Spellings of a name -/

/-- A character that no lower case of a name's identifier keeps. -/
def Ornament (c : Char) : Prop := c.isAlphanum = false ∧ c.toNat ≠ 0x130 ∧ c.toNat ≠ 0x212a

instance (c : Char) : Decidable (Ornament c) := by unfold Ornament; infer_instance

/-- Two spellings differ in letter case and in characters that are no letters or digits. -/
inductive Restyled : List Char → List Char → Prop where
  | nil : Restyled [] []
  | letter {c d : Char} {cs ds : List Char} (h : Python.lowerChar c = Python.lowerChar d)
      (rest : Restyled cs ds) : Restyled (c :: cs) (d :: ds)
  | removed {c : Char} {cs ds : List Char} (h : Ornament c) (rest : Restyled cs ds) :
      Restyled (c :: cs) ds
  | added {d : Char} {cs ds : List Char} (h : Ornament d) (rest : Restyled cs ds) :
      Restyled cs (d :: ds)

/-- What an identifier keeps. -/
def keepsChar (c : Char) : Bool := Python.isAscii c && c.isAlphanum

/-- The characters of an identifier, from those of the name. -/
def idChars (name : List Char) : List Char := (name.flatMap Python.lowerChar).filter keepsChar

theorem toList_toShowdownId (value : String) :
    (toShowdownId value).toList = idChars value.toList := by
  simp only [toShowdownId, Python.lower, String.toList_ofList]
  rfl

theorem idChars_cons (c : Char) (cs : List Char) :
    idChars (c :: cs) = (Python.lowerChar c).filter keepsChar ++ idChars cs := by
  simp [idChars]

theorem isUpper_iff {c : Char} : c.isUpper = true ↔ 65 ≤ c.toNat ∧ c.toNat ≤ 90 := by
  show decide ('A'.val ≤ c.val ∧ c.val ≤ 'Z'.val) = true ↔ _
  rw [decide_eq_true_eq]
  rfl

theorem isLower_iff {c : Char} : c.isLower = true ↔ 97 ≤ c.toNat ∧ c.toNat ≤ 122 := by
  show (decide ('a'.val ≤ c.val) && decide (c.val ≤ 'z'.val)) = true ↔ _
  rw [Bool.and_eq_true, decide_eq_true_eq, decide_eq_true_eq]
  rfl

/-- Only an upper-case letter has another lower case. -/
theorem toLower_of_not_isUpper {c : Char} (h : c.isUpper = false) : c.toLower = c := by
  have hrange : ¬(c.val ≥ 'A'.val ∧ c.val ≤ 'Z'.val) := of_decide_eq_false h
  exact dif_neg hrange

theorem toNat_toLower {c : Char} (h : c.isUpper = true) :
    c.toLower.toNat = c.toNat + 32 ∧ 65 ≤ c.toNat ∧ c.toNat ≤ 90 := by
  have hrange : c.val ≥ 'A'.val ∧ c.val ≤ 'Z'.val := of_decide_eq_true h
  have hlow : 65 ≤ c.toNat := hrange.1
  have hhigh : c.toNat ≤ 90 := hrange.2
  have hval : c.toLower.val = c.val + ('a'.val - 'A'.val) := congrArg Char.val (dif_pos hrange)
  refine ⟨?_, hlow, hhigh⟩
  show c.toLower.val.toNat = c.toNat + 32
  rw [hval, UInt32.toNat_add]
  show (c.toNat + 32) % 2 ^ 32 = c.toNat + 32
  omega

theorem isUpper_toLower (c : Char) : c.toLower.isUpper = false := by
  by_cases h : c.isUpper = true
  · obtain ⟨hlower, hlow, hhigh⟩ := toNat_toLower h
    by_contra hupper
    have hrange : 65 ≤ c.toLower.toNat ∧ c.toLower.toNat ≤ 90 :=
      isUpper_iff.mp (Bool.eq_true_of_not_eq_false hupper)
    omega
  · have hupper := Bool.eq_false_of_not_eq_true h
    rw [toLower_of_not_isUpper hupper, hupper]

theorem isAlphanum_toLower (c : Char) : c.toLower.isAlphanum = c.isAlphanum := by
  by_cases h : c.isUpper = true
  · obtain ⟨hlower, hlow, hhigh⟩ := toNat_toLower h
    have hletter : c.toLower.isLower = true := isLower_iff.mpr (by omega)
    show (c.toLower.isUpper || c.toLower.isLower || c.toLower.isDigit) =
      (c.isUpper || c.isLower || c.isDigit)
    rw [h, hletter, Bool.or_true, Bool.true_or]
    rfl
  · rw [toLower_of_not_isUpper (Bool.eq_false_of_not_eq_true h)]

theorem lowerChar_of_ornament {c : Char} (h : Ornament c) :
    (Python.lowerChar c).filter keepsChar = [] := by
  obtain ⟨halnum, hdotted, hkelvin⟩ := h
  simp [Python.lowerChar, hdotted, hkelvin, keepsChar, isAlphanum_toLower, halnum]

/-- Two spellings of a name have one identifier. -/
theorem Restyled.idChars_eq {name other : List Char} (h : Restyled name other) :
    idChars name = idChars other := by
  induction h with
  | nil => rfl
  | letter h rest ih => rw [idChars_cons, idChars_cons, h, ih]
  | removed h rest ih => rw [idChars_cons, lowerChar_of_ornament h, List.nil_append, ih]
  | added h rest ih => rw [idChars_cons, lowerChar_of_ornament h, List.nil_append, ih]

theorem toShowdownId_of_restyled {name other : String} (h : Restyled name.toList other.toList) :
    toShowdownId name = toShowdownId other := by
  apply String.toList_injective
  rw [toList_toShowdownId, toList_toShowdownId, h.idChars_eq]

theorem toLower_kept {c : Char} (h : c.isUpper = false) (hkeeps : keepsChar c = true) :
    (Python.lowerChar c).filter keepsChar = [c] := by
  have hascii : c.toNat < 0x80 := by
    simp only [keepsChar, Bool.and_eq_true, Python.isAscii, decide_eq_true_eq] at hkeeps
    exact hkeeps.1
  have hdotted : c.toNat ≠ 0x130 := by omega
  have hkelvin : c.toNat ≠ 0x212a := by omega
  have hsame : c.toLower = c := toLower_of_not_isUpper h
  simp [Python.lowerChar, hdotted, hkelvin, hsame, hkeeps]

theorem isUpper_of_mem_lowerChar {c d : Char} (h : d ∈ Python.lowerChar c) :
    d.isUpper = false := by
  unfold Python.lowerChar at h
  split at h
  · rcases List.mem_pair.mp h with rfl | rfl
    · rfl
    · rfl
  · split at h
    · cases List.mem_singleton.mp h
      rfl
    · cases List.mem_singleton.mp h
      exact isUpper_toLower c

theorem idChars_of_kept {name : List Char}
    (h : ∀ c ∈ name, c.isUpper = false ∧ keepsChar c = true) : idChars name = name := by
  induction name with
  | nil => rfl
  | cons c cs ih =>
    obtain ⟨hupper, hkeeps⟩ := h c List.mem_cons_self
    rw [idChars_cons, toLower_kept hupper hkeeps, ih fun d hd => h d (List.mem_cons_of_mem c hd)]
    rfl

/-- An identifier is its own identifier. -/
theorem toShowdownId_toShowdownId (value : String) :
    toShowdownId (toShowdownId value) = toShowdownId value := by
  apply String.toList_injective
  rw [toList_toShowdownId, toList_toShowdownId]
  apply idChars_of_kept
  intro c hc
  obtain ⟨hmem, hkeeps⟩ := List.mem_filter.mp hc
  obtain ⟨source, -, hsource⟩ := List.mem_flatMap.mp hmem
  exact ⟨isUpper_of_mem_lowerChar hsource, hkeeps⟩

/-! ## §2 Canonical members -/

/-- A name as `_showdown_id` returns it. -/
structure ShowdownId where
  text : String
  nonempty : text ≠ ""
  normal : toShowdownId text = text

theorem ShowdownId.ext_iff {name other : ShowdownId} : name = other ↔ name.text = other.text := by
  cases name
  cases other
  rw [ShowdownId.mk.injEq]

@[ext]
structure Bounded (low high : Int) where
  value : Int
  inRange : low ≤ value ∧ value ≤ high

/-- The four moves of a member, sorted. -/
@[ext]
structure MoveSet where
  moves : List ShowdownId
  four : moves.length = 4
  sorted : moves.Pairwise fun first second => first.text ≤ second.text
  distinct : (moves.map ShowdownId.text).Nodup

structure StatValues (maximum : Int) where
  hp : Bounded 0 maximum
  atk : Bounded 0 maximum
  defense : Bounded 0 maximum
  spa : Bounded 0 maximum
  spd : Bounded 0 maximum
  spe : Bounded 0 maximum

inductive Gender where
  | m
  | f

/-- What `_canonical_member` returns. -/
structure CanonicalMember where
  species : ShowdownId
  form : Option ShowdownId
  item : Option ShowdownId
  ability : Option ShowdownId
  nature : Option ShowdownId
  moves : MoveSet
  evs : StatValues 252
  ivs : StatValues 31
  level : Bounded 1 100
  happiness : Bounded 0 255
  gender : Option Gender
  shiny : Bool
  pokeball : ShowdownId
  hiddenPowerType : Option ShowdownId
  teraType : Option ShowdownId

def ShowdownId.toJson (name : ShowdownId) : Json := .str name.text

/-- An absent name is the empty text. -/
def optionalName (name : Option ShowdownId) : Json := .str ((name.map ShowdownId.text).getD "")

def StatValues.toJson {maximum : Int} (stats : StatValues maximum) : Json :=
  .obj [("hp", .int stats.hp.value), ("atk", .int stats.atk.value),
    ("def", .int stats.defense.value), ("spa", .int stats.spa.value), ("spd", .int stats.spd.value), ("spe", .int stats.spe.value)]

def Gender.toJson : Option Gender → Json
  | none => .null
  | some .m => .str "m"
  | some .f => .str "f"

def CanonicalMember.toDict (member : CanonicalMember) : List (String × Json) :=
  [("species", member.species.toJson), ("form", optionalName member.form),
    ("item", optionalName member.item), ("ability", optionalName member.ability),
    ("nature", optionalName member.nature),
    ("moves", .arr (member.moves.moves.map ShowdownId.toJson)), ("evs", member.evs.toJson),
    ("ivs", member.ivs.toJson), ("level", .int member.level.value),
    ("happiness", .int member.happiness.value), ("gender", Gender.toJson member.gender),
    ("shiny", .bool member.shiny), ("pokeball", member.pokeball.toJson),
    ("hidden_power_type", optionalName member.hiddenPowerType),
    ("tera_type", optionalName member.teraType)]

/-- `sum(stats.values())`. -/
def StatValues.total {maximum : Int} (stats : StatValues maximum) : Int :=
  stats.hp.value + stats.atk.value + stats.defense.value + stats.spa.value + stats.spd.value +
    stats.spe.value

/-! ## §3 Reading a member -/

def refused {α : Type} (text : String) : Except PyException α := .error (.valueError text)

/-- `_showdown_id`. -/
def showdownId (value : Json) (field : String) : Except PyException ShowdownId :=
  match value with
  | .str name =>
      if hempty : toShowdownId name = "" then refused s!"{field} has no Showdown identifier"
      else .ok ⟨toShowdownId name, hempty, toShowdownId_toShowdownId name⟩
  | _ => refused s!"{field} must be a string"

/-- `_optional_showdown_id`. -/
def optionalShowdownId (value : Json) (field : String) : Except PyException (Option ShowdownId) :=
  match value with
  | .null => .ok none
  | .str name => if name = "" then .ok none else (showdownId (.str name) field).map some
  | value => (showdownId value field).map some

/-- An integer value within its bounds. -/
def boundedInt (low high : Int) (value : Json) (problem : String) :
    Except PyException (Bounded low high) :=
  match value with
  | .int number =>
      if hrange : low ≤ number ∧ number ≤ high then .ok ⟨number, hrange⟩ else refused problem
  | _ => refused problem

/-- `_STATS` -/
def battleStats : List String := ["hp", "atk", "def", "spa", "spd", "spe"]

/-- `_stat_values`, with its default. -/
def statValues (maximum : Int) (default : Bounded 0 maximum) (value : Json) (field : String) :
    Except PyException (StatValues maximum) :=
  let readStat := fun entries stat => boundedInt 0 maximum ((Json.get? entries stat).getD .null)
    s!"{field}.{stat} is outside its allowed range"
  match value with
  | .null => .ok ⟨default, default, default, default, default, default⟩
  | .obj entries =>
      if !Dict.sameSet (Dict.keys entries) battleStats then
        refused s!"{field} must define exactly the six battle stats"
      else do
        let hp ← readStat entries "hp"
        let atk ← readStat entries "atk"
        let defense ← readStat entries "def"
        let spa ← readStat entries "spa"
        let spd ← readStat entries "spd"
        let spe ← readStat entries "spe"
        pure { hp, atk, defense, spa, spd, spe }
  | _ => refused s!"{field} must define exactly the six battle stats"

theorem length_listing_names {items : List Json} {names : List ShowdownId} (h : items.length = 4)
    (hnames : (items.mapM fun move => showdownId move "move") = .ok names) :
    (SetDigest.listing ShowdownId.text names).length = 4 := by
  rw [(SetDigest.perm_listing ShowdownId.text names).length_eq]
  exact (mapM_eq_ok.mp hnames).length_eq.symm.trans h

/-- The moves of `_canonical_member`. -/
def canonicalMoves (value : Json) : Except PyException MoveSet :=
  match value with
  | .arr items =>
      if hfour : items.length = 4 then
        match hnames : items.mapM fun move => showdownId move "move" with
        | .error err => .error err
        | .ok names =>
            let moves := SetDigest.listing ShowdownId.text names
            if hdistinct : (moves.map ShowdownId.text).Nodup then
              .ok { moves, four := length_listing_names hfour hnames,
                    sorted := SetDigest.pairwise_listing names, distinct := hdistinct }
            else refused "team member moves must be unique"
      else refused "team member requires exactly four moves"
  | _ => refused "team member requires exactly four moves"

def canonicalGender (value : Json) : Except PyException (Option Gender) :=
  match value with
  | .null => .ok none
  | value => do
      let gender ← showdownId value "gender"
      if gender.text = "m" then pure (some .m)
      else if gender.text = "f" then pure (some .f)
      else refused "gender must be M, F, or null"

def canonicalShiny (value : Json) : Except PyException Bool :=
  match value with
  | .bool shiny => .ok shiny
  | _ => refused "shiny must be a boolean"

/-- `_FIELDS` -/
def teamFields : List String :=
  ["species", "form", "item", "ability", "nature", "moves", "evs", "ivs", "level", "happiness",
    "gender", "shiny", "pokeball", "hidden_power_type", "tera_type"]

/-- `member.get(key, default)`. -/
def getOr (member : List (String × Json)) (key : String) (default : Json) : Json :=
  (Json.get? member key).getD default

/-- `_canonical_member`. -/
def canonicalMember (member : List (String × Json)) : Except PyException CanonicalMember := do
  refuseIf (∃ key ∈ Dict.keys member, key ∉ teamFields)
    (.valueError "team member contains an unowned field")
  refuseIf ("species" ∉ Dict.keys member) (.valueError "team member requires species")
  let moves ← canonicalMoves (getOr member "moves" .null)
  let level ← boundedInt 1 100 (getOr member "level" (.int 100)) "level must be between 1 and 100"
  let happiness ← boundedInt 0 255 (getOr member "happiness" (.int 255))
    "happiness must be between 0 and 255"
  let gender ← canonicalGender (getOr member "gender" .null)
  let shiny ← canonicalShiny (getOr member "shiny" (.bool false))
  let species ← showdownId (getOr member "species" .null) "species"
  let form ← optionalShowdownId (getOr member "form" (.str "")) "form"
  let item ← optionalShowdownId (getOr member "item" (.str "")) "item"
  let ability ← optionalShowdownId (getOr member "ability" (.str "")) "ability"
  let nature ← optionalShowdownId (getOr member "nature" (.str "")) "nature"
  let evs ← statValues 252 ⟨0, by decide⟩ (getOr member "evs" .null) "evs"
  let ivs ← statValues 31 ⟨31, by decide⟩ (getOr member "ivs" .null) "ivs"
  let pokeball ← showdownId (getOr member "pokeball" (.str "poke ball")) "pokeball"
  let hiddenPowerType ← optionalShowdownId (getOr member "hidden_power_type" (.str ""))
    "hidden_power_type"
  let teraType ← optionalShowdownId (getOr member "tera_type" (.str "")) "tera_type"
  pure { species, form, item, ability, nature, moves, evs, ivs, level, happiness, gender, shiny,
         pokeball, hiddenPowerType, teraType }

/-! ## §4 Projections of teams -/

/-- What `canonical_team_projection` returns: its schema version and member count are constants. -/
structure TeamProjection where
  members : List CanonicalMember

def TeamProjection.toJson (projection : TeamProjection) : Json :=
  .obj [("schema_version", .int 1), ("member_count", .int 6),
    ("members", .arr (projection.members.map fun member => .obj member.toDict))]

def requireMapping (value : Json) : Except PyException (List (String × Json)) :=
  match value with
  | .obj member => .ok member
  | _ => refused "team must contain only member mappings"

section Canonicalizer

variable [Rfc8785]

/-- A member next to its canonical bytes. -/
def keyedMember (member : CanonicalMember) : Except PyException (List Nat × CanonicalMember) := do
  let key ← Rfc8785.dumps (.obj member.toDict)
  pure (key, member)

/-- `canonical_team_projection`. -/
def canonicalTeamProjection (team : Json) : Except PyException TeamProjection :=
  match team with
  | .arr items => do
      refuseIf (items.length ≠ 6) (.valueError "an exact team must contain exactly six members")
      let mappings ← items.mapM requireMapping
      let members ← mappings.mapM canonicalMember
      refuseIf (∃ member ∈ members, 510 < member.evs.total)
        (.valueError "EV total must not exceed 510")
      let keyed ← members.mapM keyedMember
      refuseIf (¬(keyed.map Prod.fst).Nodup)
        (.valueError "team contains duplicate canonical members")
      pure ⟨(SetDigest.listing Prod.fst keyed).map Prod.snd⟩
  | _ => refused "team must be a sequence of member mappings"

/-- `team_cluster_id`. -/
def teamClusterId (team : Json) : Except PyException String := do
  let projection ← canonicalTeamProjection team
  manifestDigest projection.toJson

end Canonicalizer

/-! ## §5 What a reader accepts -/

theorem showdownId_eq_ok {text field : String} {name : ShowdownId} :
    showdownId (.str text) field = .ok name ↔ toShowdownId text = name.text := by
  unfold showdownId
  dsimp only
  by_cases hempty : toShowdownId text = ""
  · rw [dif_pos hempty, hempty]
    constructor
    · intro h
      cases h
    · intro h
      exact absurd h.symm name.nonempty
  · rw [dif_neg hempty, Except.ok.injEq, ShowdownId.ext_iff]

theorem showdownId_text (name : ShowdownId) (field : String) :
    showdownId (.str name.text) field = .ok name :=
  showdownId_eq_ok.mpr name.normal

theorem optionalShowdownId_eq_ok {text field : String} {name : Option ShowdownId} :
    optionalShowdownId (.str text) field = .ok name ↔
      (text = "" ∧ name = none) ∨
        (text ≠ "" ∧ ∃ found, name = some found ∧ toShowdownId text = found.text) := by
  unfold optionalShowdownId
  dsimp only
  by_cases hempty : text = ""
  · simp [hempty, eq_comm]
  · rw [if_neg hempty, map_eq_ok]
    simp only [showdownId_eq_ok, hempty, false_and, false_or, ne_eq, not_false_eq_true, true_and]
    constructor
    · rintro ⟨found, hfound, rfl⟩
      exact ⟨found, rfl, hfound⟩
    · rintro ⟨found, rfl, hfound⟩
      exact ⟨found, hfound, rfl⟩

theorem optionalShowdownId_optionalName (name : Option ShowdownId) (field : String) :
    optionalShowdownId (optionalName name) field = .ok name := by
  apply optionalShowdownId_eq_ok.mpr
  cases name with
  | none => exact .inl ⟨rfl, rfl⟩
  | some name => exact .inr ⟨name.nonempty, name, rfl, name.normal⟩

theorem boundedInt_value {low high : Int} (number : Bounded low high) (problem : String) :
    boundedInt low high (.int number.value) problem = .ok number := by
  simp [boundedInt, number.inRange]

theorem statValues_toJson {maximum : Int} (default : Bounded 0 maximum) (stats : StatValues maximum)
    (field : String) : statValues maximum default stats.toJson field = .ok stats := by
  have hkeys : Dict.sameSet ["hp", "atk", "def", "spa", "spd", "spe"] battleStats = true := by
    decide
  simp [statValues, StatValues.toJson, Dict.keys, hkeys, Json.get?, Python.Dict.get?,
    boundedInt_value, bind, Except.bind, pure, Except.pure]

theorem canonicalMoves_eq_ok {value : Json} {moves : MoveSet} :
    canonicalMoves value = .ok moves ↔ ∃ items names, value = .arr items ∧ items.length = 4 ∧
      List.Forall₂ (fun move name => showdownId move "move" = .ok name) items names ∧
      moves.moves = SetDigest.listing ShowdownId.text names := by
  constructor
  · intro h
    unfold canonicalMoves at h
    split at h
    · rename_i items
      split at h
      · rename_i hfour
        split at h
        · cases h
        · rename_i names hnames
          dsimp only at h
          split at h
          · cases h
            exact ⟨items, names, rfl, hfour, mapM_eq_ok.mp hnames, rfl⟩
          · cases h
      · cases h
    · cases h
  · rintro ⟨items, names, rfl, hfour, hall, hmoves⟩
    have hnames := mapM_eq_ok.mpr hall
    have hdistinct := moves.distinct
    rw [hmoves] at hdistinct
    unfold canonicalMoves
    dsimp only
    rw [dif_pos hfour]
    split
    · rename_i err herr
      rw [hnames] at herr
      cases herr
    · rename_i found hfound
      cases Except.ok.inj (hnames.symm.trans hfound)
      rw [dif_pos hdistinct]
      exact congrArg Except.ok (MoveSet.ext hmoves.symm)

theorem canonicalGender_toJson (gender : Option Gender) :
    canonicalGender (Gender.toJson gender) = .ok gender := by
  cases gender with
  | none => rfl
  | some gender =>
    cases gender with
    | m =>
      have hname := showdownId_text ⟨"m", by decide, by decide⟩ "gender"
      simp only at hname
      simp [canonicalGender, Gender.toJson, hname, bind, Except.bind, pure, Except.pure]
    | f =>
      have hname := showdownId_text ⟨"f", by decide, by decide⟩ "gender"
      simp only at hname
      simp [canonicalGender, Gender.toJson, hname, bind, Except.bind, pure, Except.pure]

/-- What a member must hold to be read as a canonical one, field by field. -/
structure MemberReads (member : List (String × Json)) (canonical : CanonicalMember) : Prop where
  owned : ∀ key ∈ Dict.keys member, key ∈ teamFields
  named : "species" ∈ Dict.keys member
  moves : canonicalMoves (getOr member "moves" .null) = .ok canonical.moves
  level : boundedInt 1 100 (getOr member "level" (.int 100)) "level must be between 1 and 100"
    = .ok canonical.level
  happiness : boundedInt 0 255 (getOr member "happiness" (.int 255))
    "happiness must be between 0 and 255" = .ok canonical.happiness
  gender : canonicalGender (getOr member "gender" .null) = .ok canonical.gender
  shiny : canonicalShiny (getOr member "shiny" (.bool false)) = .ok canonical.shiny
  species : showdownId (getOr member "species" .null) "species" = .ok canonical.species
  form : optionalShowdownId (getOr member "form" (.str "")) "form" = .ok canonical.form
  item : optionalShowdownId (getOr member "item" (.str "")) "item" = .ok canonical.item
  ability : optionalShowdownId (getOr member "ability" (.str "")) "ability" = .ok canonical.ability
  nature : optionalShowdownId (getOr member "nature" (.str "")) "nature" = .ok canonical.nature
  evs : statValues 252 ⟨0, by decide⟩ (getOr member "evs" .null) "evs" = .ok canonical.evs
  ivs : statValues 31 ⟨31, by decide⟩ (getOr member "ivs" .null) "ivs" = .ok canonical.ivs
  pokeball : showdownId (getOr member "pokeball" (.str "poke ball")) "pokeball"
    = .ok canonical.pokeball
  hiddenPowerType : optionalShowdownId (getOr member "hidden_power_type" (.str ""))
    "hidden_power_type" = .ok canonical.hiddenPowerType
  teraType : optionalShowdownId (getOr member "tera_type" (.str "")) "tera_type"
    = .ok canonical.teraType

theorem canonicalMember_eq_ok {member : List (String × Json)} {canonical : CanonicalMember} :
    canonicalMember member = .ok canonical ↔ MemberReads member canonical := by
  unfold canonicalMember
  constructor
  · intro h
    obtain ⟨_, howned, h⟩ := bind_eq_ok.mp h
    obtain ⟨_, hnamed, h⟩ := bind_eq_ok.mp h
    obtain ⟨moves, hmoves, h⟩ := bind_eq_ok.mp h
    obtain ⟨level, hlevel, h⟩ := bind_eq_ok.mp h
    obtain ⟨happiness, hhappiness, h⟩ := bind_eq_ok.mp h
    obtain ⟨gender, hgender, h⟩ := bind_eq_ok.mp h
    obtain ⟨shiny, hshiny, h⟩ := bind_eq_ok.mp h
    obtain ⟨species, hspecies, h⟩ := bind_eq_ok.mp h
    obtain ⟨form, hform, h⟩ := bind_eq_ok.mp h
    obtain ⟨item, hitem, h⟩ := bind_eq_ok.mp h
    obtain ⟨ability, hability, h⟩ := bind_eq_ok.mp h
    obtain ⟨nature, hnature, h⟩ := bind_eq_ok.mp h
    obtain ⟨evs, hevs, h⟩ := bind_eq_ok.mp h
    obtain ⟨ivs, hivs, h⟩ := bind_eq_ok.mp h
    obtain ⟨pokeball, hpokeball, h⟩ := bind_eq_ok.mp h
    obtain ⟨hiddenPowerType, hhidden, h⟩ := bind_eq_ok.mp h
    obtain ⟨teraType, htera, h⟩ := bind_eq_ok.mp h
    cases h
    have howned := refuseIf_eq_ok.mp howned
    push Not at howned
    exact { owned := howned, named := not_not.mp (refuseIf_eq_ok.mp hnamed), moves := hmoves,
            level := hlevel, happiness := hhappiness, gender := hgender, shiny := hshiny,
            species := hspecies, form := hform, item := hitem, ability := hability,
            nature := hnature, evs := hevs, ivs := hivs, pokeball := hpokeball,
            hiddenPowerType := hhidden, teraType := htera }
  · intro h
    have howned : refuseIf (∃ key ∈ Dict.keys member, key ∉ teamFields)
        (PyException.valueError "team member contains an unowned field") = .ok () := by
      apply refuseIf_eq_ok.mpr
      rintro ⟨key, hkey, hunowned⟩
      exact hunowned (h.owned key hkey)
    have hnamed : refuseIf ("species" ∉ Dict.keys member)
        (PyException.valueError "team member requires species") = .ok () :=
      refuseIf_eq_ok.mpr (not_not.mpr h.named)
    rw [howned, hnamed, h.moves, h.level, h.happiness, h.gender, h.shiny, h.species, h.form, h.item,
      h.ability, h.nature, h.evs, h.ivs, h.pokeball, h.hiddenPowerType, h.teraType]
    rfl

theorem getOr_toDict {member : CanonicalMember} {key : String} (value default : Json)
    (h : (key, value) ∈ member.toDict) : getOr member.toDict key default = value := by
  have hnodup : (Dict.keys member.toDict).Nodup := show teamFields.Nodup by decide
  rw [getOr, Json.get?, Python.Dict.get?_of_mem hnodup h]
  rfl

/-- A canonical member is read as itself. -/
theorem canonicalMember_toDict (member : CanonicalMember) :
    canonicalMember member.toDict = .ok member := by
  apply canonicalMember_eq_ok.mpr
  have hmoves : canonicalMoves (.arr (member.moves.moves.map ShowdownId.toJson)) =
      .ok member.moves := by
    apply canonicalMoves_eq_ok.mpr
    refine ⟨_, member.moves.moves, rfl, ?_, ?_, ?_⟩
    · rw [List.length_map, member.moves.four]
    · apply List.forall₂_map_left_iff.mpr
      apply List.forall₂_same.mpr
      intro move _
      exact showdownId_text move "move"
    · exact (SetDigest.listing_of_pairwise member.moves.sorted).symm
  have get := @getOr_toDict member
  have hoptional := optionalShowdownId_optionalName
  constructor
  · intro key hkey
    exact hkey
  · exact List.mem_cons_self
  · rw [get (.arr (member.moves.moves.map ShowdownId.toJson)) _ (by simp [CanonicalMember.toDict]),
      hmoves]
  · rw [get (.int member.level.value) _ (by simp [CanonicalMember.toDict]), boundedInt_value]
  · rw [get (.int member.happiness.value) _ (by simp [CanonicalMember.toDict]), boundedInt_value]
  · rw [get (Gender.toJson member.gender) _ (by simp [CanonicalMember.toDict]),
      canonicalGender_toJson]
  · rw [get (.bool member.shiny) _ (by simp [CanonicalMember.toDict])]
    rfl
  · rw [get (.str member.species.text) _ (by simp [CanonicalMember.toDict, ShowdownId.toJson]),
      showdownId_text]
  · rw [get (optionalName member.form) _ (by simp [CanonicalMember.toDict]), hoptional]
  · rw [get (optionalName member.item) _ (by simp [CanonicalMember.toDict]), hoptional]
  · rw [get (optionalName member.ability) _ (by simp [CanonicalMember.toDict]), hoptional]
  · rw [get (optionalName member.nature) _ (by simp [CanonicalMember.toDict]), hoptional]
  · rw [get member.evs.toJson _ (by simp [CanonicalMember.toDict]), statValues_toJson]
  · rw [get member.ivs.toJson _ (by simp [CanonicalMember.toDict]), statValues_toJson]
  · rw [get (.str member.pokeball.text) _ (by simp [CanonicalMember.toDict, ShowdownId.toJson]),
      showdownId_text]
  · rw [get (optionalName member.hiddenPowerType) _ (by simp [CanonicalMember.toDict]), hoptional]
  · rw [get (optionalName member.teraType) _ (by simp [CanonicalMember.toDict]), hoptional]

end BattleBelief
