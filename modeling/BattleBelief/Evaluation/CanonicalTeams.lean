import BattleBelief.Evaluation.TeamClustering

/-!
# Canonical Teams

Two teams that differ only in the order of members and moves and in the spelling of names have one
projection. A projection is its own projection, and teams that differ in anything else have two.

- `MemberReads.change`: a member that is spelled otherwise is read as the same canonical member
- `Projects.of_perm`: the order of canonical members does not show
- `team_projection_canonical`: both, and the converse
-/

namespace BattleBelief

open Python (Dict.keys Json)
open Runs

/-! ## §1 Changes of a team -/

/-- The names of a member, its moves apart. -/
def nameFields : List String :=
  ["species", "form", "item", "ability", "nature", "pokeball", "hidden_power_type", "tera_type"]

section Changes

variable (respelled : String → String → Prop)

/-- A value that is a name may be spelled otherwise. -/
inductive NameChange : Json → Json → Prop where
  | same (value : Json) : NameChange value value
  | respelled {name other : String} (h : respelled name other) : NameChange (.str name) (.str other)

/-- A list of moves may come in another order, each of them spelled otherwise. -/
inductive MovesChange : Json → Json → Prop where
  | same (value : Json) : MovesChange value value
  | reordered {moves ordered others : List Json} (hperm : moves.Perm ordered)
      (hnames : List.Forall₂ (NameChange respelled) ordered others) :
      MovesChange (.arr moves) (.arr others)

/-- Two members differ in the spelling of names and in the order of moves. -/
structure MemberChange (member other : List (String × Json)) : Prop where
  names : ∀ key ∈ nameFields,
    Option.Rel (NameChange respelled) (Json.get? member key) (Json.get? other key)
  moves : Option.Rel (MovesChange respelled) (Json.get? member "moves") (Json.get? other "moves")
  others : ∀ key ∉ nameFields, key ≠ "moves" → Json.get? member key = Json.get? other key

/-- Two teams differ in the order of members, and their members in spelling and order of moves. -/
def TeamChange (team other : Json) : Prop :=
  ∃ members ordered others : List (List (String × Json)), team = .arr (members.map .obj) ∧
    other = .arr (others.map .obj) ∧ members.Perm ordered ∧
    List.Forall₂ (MemberChange respelled) ordered others

end Changes

/-- Another spelling of a name: of an empty name, none. -/
def Respelled (name other : String) : Prop :=
  Restyled name.toList other.toList ∧ (name = "" → other = "")

theorem showdownId_respelled {value other : Json} {field : String} {name : ShowdownId}
    (h : NameChange Respelled value other) (hread : showdownId value field = .ok name) :
    showdownId other field = .ok name := by
  cases h with
  | same => exact hread
  | respelled h =>
    rw [showdownId_eq_ok] at hread ⊢
    rw [← toShowdownId_of_restyled h.1, hread]

theorem optionalShowdownId_respelled {value other : Json} {field : String}
    {name : Option ShowdownId} (h : NameChange Respelled value other)
    (hread : optionalShowdownId value field = .ok name) :
    optionalShowdownId other field = .ok name := by
  cases h with
  | same => exact hread
  | respelled h =>
    obtain ⟨hstyle, hempty⟩ := h
    rw [optionalShowdownId_eq_ok] at hread ⊢
    rcases hread with ⟨hname, hnone⟩ | ⟨hname, found, hfound, hid⟩
    · exact .inl ⟨hempty hname, hnone⟩
    · rw [toShowdownId_of_restyled hstyle] at hid
      refine .inr ⟨?_, found, hfound, hid⟩
      intro hother
      rw [hother] at hid
      exact found.nonempty hid.symm

/-- One spec for both readers: a default that is read as itself. -/
theorem getOr_change {change : Json → Json → Prop} {member other : List (String × Json)}
    {key : String} (default : Json) (hsame : change default default)
    (h : Option.Rel change (Json.get? member key) (Json.get? other key)) :
    change (getOr member key default) (getOr other key default) := by
  unfold getOr
  revert h
  generalize Json.get? member key = value
  generalize Json.get? other key = otherValue
  intro h
  cases h with
  | none => exact hsame
  | some h => exact h

/-- Two lists that correspond to a third correspond to each other. -/
theorem forall₂_through {α β γ : Type*} {r : α → β → Prop} {s : α → γ → Prop} {t : β → γ → Prop}
    {first : List α} {second : List β} {third : List γ} (h : ∀ a b c, r a b → s a c → t b c)
    (hsecond : List.Forall₂ r first second) (hthird : List.Forall₂ s first third) :
    List.Forall₂ t second third := by
  induction hsecond generalizing third with
  | nil =>
    cases hthird
    exact .nil
  | cons hhead htail ih =>
    cases hthird with
    | cons hhead' htail' => exact .cons (h _ _ _ hhead hhead') (ih htail')

theorem canonicalMoves_change {value other : Json} {moves : MoveSet}
    (h : MovesChange Respelled value other) (hread : canonicalMoves value = .ok moves) :
    canonicalMoves other = .ok moves := by
  cases h with
  | same => exact hread
  | @reordered items reordered others hperm hchange =>
    obtain ⟨items', names, hitems, hfour, hnames, hmoves⟩ := canonicalMoves_eq_ok.mp hread
    cases hitems
    obtain ⟨ordered, hordered, hnamesPerm⟩ := List.perm_comp_forall₂ hperm.symm hnames
    have hothers : List.Forall₂ (fun move name => showdownId move "move" = .ok name) others
        ordered := by
      apply forall₂_through _ hchange hordered
      intro move other name hrespelled hname
      exact showdownId_respelled hrespelled hname
    apply canonicalMoves_eq_ok.mpr
    refine ⟨_, ordered, rfl, ?_, hothers, ?_⟩
    · rw [← hchange.length_eq, ← hperm.length_eq, hfour]
    · rw [hmoves]
      apply SetDigest.listing_congr _ hnamesPerm.symm
      intro first _ second _ hsame
      exact ShowdownId.ext_iff.mpr hsame

theorem mem_keys_iff_of_change {change : Json → Json → Prop} {member other : List (String × Json)}
    {key : String} (h : Option.Rel change (Json.get? member key) (Json.get? other key)) :
    key ∈ Dict.keys member ↔ key ∈ Dict.keys other := by
  rw [Python.Dict.mem_keys_iff, Python.Dict.mem_keys_iff]
  change (∃ value, Json.get? member key = some value) ↔ ∃ value, Json.get? other key = some value
  revert h
  generalize Json.get? member key = value
  generalize Json.get? other key = otherValue
  intro h
  cases h with
  | none => simp
  | some h => simp

theorem MemberReads.change {member other : List (String × Json)} {canonical : CanonicalMember}
    (h : MemberChange Respelled member other) (hread : MemberReads member canonical) :
    MemberReads other canonical := by
  have hname : ∀ {key field : String} {default : Json} {name : ShowdownId}, key ∈ nameFields →
      showdownId (getOr member key default) field = .ok name →
      showdownId (getOr other key default) field = .ok name := by
    intro key field default name hkey
    exact showdownId_respelled (getOr_change default (.same default) (h.names key hkey))
  have hoptional : ∀ {key field : String} {default : Json} {name : Option ShowdownId},
      key ∈ nameFields → optionalShowdownId (getOr member key default) field = .ok name →
      optionalShowdownId (getOr other key default) field = .ok name := by
    intro key field default name hkey
    exact optionalShowdownId_respelled (getOr_change default (.same default) (h.names key hkey))
  have hother : ∀ {key : String} {default : Json}, key ∉ nameFields → key ≠ "moves" →
      getOr other key default = getOr member key default := by
    intro key default hkey hmoves
    rw [getOr, getOr, h.others key hkey hmoves]
  have hkeys : ∀ key, key ∈ Dict.keys member ↔ key ∈ Dict.keys other := by
    intro key
    by_cases hkey : key ∈ nameFields
    · exact mem_keys_iff_of_change (h.names key hkey)
    · by_cases hmoves : key = "moves"
      · subst hmoves
        exact mem_keys_iff_of_change h.moves
      · rw [Python.Dict.mem_keys_iff, Python.Dict.mem_keys_iff]
        have heq := h.others key hkey hmoves
        unfold Json.get? at heq
        rw [heq]
  exact { owned := fun key hkey => hread.owned key ((hkeys key).mpr hkey)
          named := (hkeys "species").mp hread.named
          moves := canonicalMoves_change (getOr_change .null (.same .null) h.moves) hread.moves
          level := by rw [hother (by decide) (by decide), hread.level]
          happiness := by rw [hother (by decide) (by decide), hread.happiness]
          gender := by rw [hother (by decide) (by decide), hread.gender]
          shiny := by rw [hother (by decide) (by decide), hread.shiny]
          species := hname (by decide) hread.species
          form := hoptional (by decide) hread.form
          item := hoptional (by decide) hread.item
          ability := hoptional (by decide) hread.ability
          nature := hoptional (by decide) hread.nature
          evs := by rw [hother (by decide) (by decide), hread.evs]
          ivs := by rw [hother (by decide) (by decide), hread.ivs]
          pokeball := hname (by decide) hread.pokeball
          hiddenPowerType := hoptional (by decide) hread.hiddenPowerType
          teraType := hoptional (by decide) hread.teraType }

/-! ## §2 What a projection keeps -/

theorem mapM_requireMapping {items : List Json} {members : List (List (String × Json))} :
    items.mapM requireMapping = .ok members ↔ items = members.map .obj := by
  rw [mapM_eq_ok]
  constructor
  · intro h
    induction h with
    | nil => rfl
    | @cons item member _ _ hhead _ ih =>
      rw [List.map_cons, ← ih]
      cases item with
      | obj fields => cases hhead; rfl
      | _ => cases hhead
  · intro h
    subst h
    apply List.forall₂_map_left_iff.mpr
    apply List.forall₂_same.mpr
    intro member _
    rfl

section Canonicalizer

variable [Rfc8785]

/-- Canonical members are projected: no EV total is too high, their bytes differ and sort them. -/
def Projects (members : List CanonicalMember) (projection : TeamProjection) : Prop :=
  (∀ member ∈ members, member.evs.total ≤ 510) ∧
    ∃ keyed, List.Forall₂ (fun member key => keyedMember member = .ok key) members keyed ∧
      (keyed.map Prod.fst).Nodup ∧
      projection.members = (SetDigest.listing Prod.fst keyed).map Prod.snd

theorem map_snd_keyed {members : List CanonicalMember} {keyed : List (List Nat × CanonicalMember)}
    (h : List.Forall₂ (fun member key => keyedMember member = .ok key) members keyed) :
    keyed.map Prod.snd = members := by
  induction h with
  | nil => rfl
  | cons hhead _ ih =>
    obtain ⟨key, -, hkey⟩ := bind_eq_ok.mp hhead
    cases hkey
    rw [List.map_cons, ih]

theorem Projects.perm {members : List CanonicalMember} {projection : TeamProjection}
    (h : Projects members projection) : projection.members.Perm members := by
  obtain ⟨-, keyed, hkeyed, -, hmembers⟩ := h
  rw [hmembers]
  have hperm := (SetDigest.perm_listing Prod.fst keyed).map Prod.snd
  rwa [map_snd_keyed hkeyed] at hperm

/-- The order of the members does not show in a projection. -/
theorem Projects.of_perm {members others : List CanonicalMember} {projection : TeamProjection}
    (h : Projects members projection) (hperm : members.Perm others) :
    Projects others projection := by
  obtain ⟨htotal, keyed, hkeyed, hnodup, hmembers⟩ := h
  obtain ⟨otherKeyed, hothers, hkeyedPerm⟩ := List.perm_comp_forall₂ hperm.symm hkeyed
  have hfst := hkeyedPerm.symm.map Prod.fst
  refine ⟨fun member hmember => htotal member (hperm.mem_iff.mpr hmember), otherKeyed, hothers,
    hfst.nodup_iff.mp hnodup, ?_⟩
  rw [hmembers]
  congr 1
  apply SetDigest.listing_congr _ hkeyedPerm.symm
  -- no two members share their bytes, so the bytes tell the pairs apart
  intro first hfirst second hsecond hsame
  exact List.inj_on_of_nodup_map hnodup hfirst hsecond hsame

theorem canonicalTeamProjection_eq_ok {team : Json} {projection : TeamProjection} :
    canonicalTeamProjection team = .ok projection ↔
      ∃ members canonical, team = .arr (members.map .obj) ∧ members.length = 6 ∧
        List.Forall₂ MemberReads members canonical ∧ Projects canonical projection := by
  constructor
  · intro h
    unfold canonicalTeamProjection at h
    cases team with
    | arr items =>
      dsimp only at h
      obtain ⟨_, hsix, h⟩ := bind_eq_ok.mp h
      obtain ⟨members, hitems, h⟩ := bind_eq_ok.mp h
      obtain ⟨canonical, hcanonical, h⟩ := bind_eq_ok.mp h
      obtain ⟨_, htotal, h⟩ := bind_eq_ok.mp h
      obtain ⟨keyed, hkeyed, h⟩ := bind_eq_ok.mp h
      obtain ⟨_, hnodup, h⟩ := bind_eq_ok.mp h
      cases h
      have hitems := mapM_requireMapping.mp hitems
      subst hitems
      have hreads := (mapM_eq_ok.mp hcanonical).imp fun _ _ => canonicalMember_eq_ok.mp
      have htotal := refuseIf_eq_ok.mp htotal
      push Not at htotal
      refine ⟨members, canonical, rfl, ?_, hreads, htotal, keyed, mapM_eq_ok.mp hkeyed,
        not_not.mp (refuseIf_eq_ok.mp hnodup), rfl⟩
      simpa using refuseIf_eq_ok.mp hsix
    | _ => cases h
  · rintro ⟨members, canonical, rfl, hsix, hreads, htotal, keyed, hkeyed, hnodup, hmembers⟩
    have hitems := mapM_requireMapping.mpr (Eq.refl (members.map Json.obj))
    have hcanonical := mapM_eq_ok.mpr (hreads.imp fun _ _ => canonicalMember_eq_ok.mpr)
    have hwithin : ¬∃ member ∈ canonical, 510 < member.evs.total := by
      push Not
      exact htotal
    have hlength : ¬(members.map Json.obj).length ≠ 6 := by simp [hsix]
    unfold canonicalTeamProjection
    dsimp only
    refine bind_eq_ok.mpr ⟨(), refuseIf_eq_ok.mpr hlength, ?_⟩
    refine bind_eq_ok.mpr ⟨members, hitems, ?_⟩
    refine bind_eq_ok.mpr ⟨canonical, hcanonical, ?_⟩
    refine bind_eq_ok.mpr ⟨(), refuseIf_eq_ok.mpr hwithin, ?_⟩
    refine bind_eq_ok.mpr ⟨keyed, mapM_eq_ok.mpr hkeyed, ?_⟩
    refine bind_eq_ok.mpr ⟨(), refuseIf_eq_ok.mpr (not_not.mpr hnodup), ?_⟩
    cases projection
    exact congrArg (fun found => Except.ok (TeamProjection.mk found)) hmembers.symm

/-- The members of a projection, as a team. -/
def TeamProjection.team (projection : TeamProjection) : Json :=
  .arr (projection.members.map fun member => .obj member.toDict)

/-- A projection does not change with the order and the spelling of a team, is its own projection,
and tells two teams apart that differ in more. -/
theorem team_projection_canonical :
    (∀ team other projection, canonicalTeamProjection team = .ok projection →
      TeamChange Respelled team other → canonicalTeamProjection other = .ok projection) ∧
    (∀ team projection, canonicalTeamProjection team = .ok projection →
      canonicalTeamProjection projection.team = .ok projection) ∧
    ∀ team other projection, canonicalTeamProjection team = .ok projection →
      canonicalTeamProjection other = .ok projection →
      ∃ members ordered others : List (List (String × Json)), team = .arr (members.map .obj) ∧
        other = .arr (others.map .obj) ∧ members.Perm ordered ∧
        List.Forall₂ (fun member other => ∃ canonical, canonicalMember member = .ok canonical ∧
          canonicalMember other = .ok canonical) ordered others := by
  refine ⟨?_, ?_, ?_⟩
  · intro team other projection h hchange
    obtain ⟨members, canonical, hteam, hsix, hreads, hprojects⟩ :=
      canonicalTeamProjection_eq_ok.mp h
    obtain ⟨members', ordered, others, hteam', hother, hperm, hchanges⟩ := hchange
    have hsame : members = members' := by
      have hitems := Json.arr.inj (hteam.symm.trans hteam')
      exact List.map_injective_iff.mpr (fun _ _ => Json.obj.inj) hitems
    subst hsame
    obtain ⟨orderedCanonical, hordered, hcanonicalPerm⟩ := List.perm_comp_forall₂ hperm.symm hreads
    apply canonicalTeamProjection_eq_ok.mpr
    refine ⟨others, orderedCanonical, hother, ?_, ?_, hprojects.of_perm hcanonicalPerm.symm⟩
    · rw [← hchanges.length_eq, ← hperm.length_eq, hsix]
    · apply forall₂_through _ hchanges hordered
      intro member other canonical hchange hread
      exact hread.change hchange
  · intro team projection h
    obtain ⟨members, canonical, -, hsix, hreads, hprojects⟩ := canonicalTeamProjection_eq_ok.mp h
    apply canonicalTeamProjection_eq_ok.mpr
    refine ⟨projection.members.map CanonicalMember.toDict, projection.members, ?_, ?_, ?_,
      hprojects.of_perm hprojects.perm.symm⟩
    · rw [List.map_map]
      rfl
    · rw [List.length_map, hprojects.perm.length_eq, ← hreads.length_eq, hsix]
    · apply List.forall₂_map_left_iff.mpr
      apply List.forall₂_same.mpr
      intro member _
      exact canonicalMember_eq_ok.mp (canonicalMember_toDict member)
  · intro team other projection h hother
    obtain ⟨members, canonical, hteam, -, hreads, hprojects⟩ := canonicalTeamProjection_eq_ok.mp h
    obtain ⟨others, otherCanonical, hteam', -, hreads', hprojects'⟩ :=
      canonicalTeamProjection_eq_ok.mp hother
    -- both lists of canonical members are the projection's, in another order
    have hperm : otherCanonical.Perm canonical := hprojects'.perm.symm.trans hprojects.perm
    obtain ⟨ordered, hordered, horderedPerm⟩ := List.perm_comp_forall₂ hperm hreads.flip
    refine ⟨members, ordered, others, hteam, hteam', horderedPerm.symm, ?_⟩
    have hpairs := forall₂_through (t := fun member other => ∃ canonical,
      canonicalMember member = .ok canonical ∧ canonicalMember other = .ok canonical)
      (fun canonical _ _ hread hread' => ⟨canonical, canonicalMember_eq_ok.mpr hread,
        canonicalMember_eq_ok.mpr hread'⟩) hordered hreads'.flip
    exact hpairs

end Canonicalizer

/-! ## §3 Plain teams -/

/-- A member with its name, its item and the moves it must have. -/
def plainMember (item species : String) : List (String × Json) :=
  [("species", .str species), ("item", .str item),
    ("moves", .arr [.str "Protect", .str "Tackle", .str "Recover", .str "U-turn"])]

def plainTeam (item : String) (species : List String) : Json :=
  .arr ((species.map (plainMember item)).map .obj)

theorem plainMember_change {respelled : String → String → Prop}
    {item item' species species' : String}
    (hitem : respelled item item') (hspecies : respelled species species') :
    MemberChange respelled (plainMember item species) (plainMember item' species') := by
  constructor
  · intro key hkey
    simp only [nameFields, List.mem_cons, List.not_mem_nil, or_false] at hkey
    rcases hkey with rfl | rfl | rfl | rfl | rfl | rfl | rfl | rfl
    · exact .some (.respelled hspecies)
    · exact .none
    · exact .some (.respelled hitem)
    all_goals exact .none
  · exact .some (.same _)
  · intro key hkey hmoves
    have hspecies : "species" ≠ key := by
      rintro rfl
      exact hkey (by decide)
    have hitem : "item" ≠ key := by
      rintro rfl
      exact hkey (by decide)
    simp [Json.get?, Python.Dict.get?, plainMember, hspecies, hitem, hmoves.symm]

example : letI := compactCanonicalizer
    (canonicalTeamProjection (plainTeam "" ["A"])).isOk = false := by decide +kernel

theorem plainTeam_accepted : letI := compactCanonicalizer
    ∃ projection, canonicalTeamProjection (plainTeam "" ["A", "B", "C", "D", "E", "F"]) =
      .ok projection := by
  let _ := compactCanonicalizer
  have hok : (canonicalTeamProjection (plainTeam "" ["A", "B", "C", "D", "E", "F"])).isOk =
      true := by decide +kernel
  generalize canonicalTeamProjection _ = result at hok
  cases result with
  | ok projection => exact ⟨projection, rfl⟩
  | error err => cases hok

theorem plainTeam_respelled : letI := compactCanonicalizer
    ∃ projection,
      canonicalTeamProjection (plainTeam "" ["A", "B", "C", "D", "E", "F"]) = .ok projection ∧
      canonicalTeamProjection (plainTeam "" ["-b", "a", "C", "D", "E", "F"]) = .ok projection := by
  let _ := compactCanonicalizer
  obtain ⟨projection, hprojection⟩ := plainTeam_accepted
  refine ⟨projection, hprojection, ?_⟩
  have hsame : Respelled "" "" := ⟨.nil, id⟩
  have hletter : ∀ {name other : Char}, Python.lowerChar name = Python.lowerChar other →
      Restyled [name] [other] := fun h => .letter h .nil
  apply team_projection_canonical.1 _ _ projection hprojection
  refine ⟨_, ["B", "A", "C", "D", "E", "F"].map (plainMember ""), _, rfl, rfl, .swap _ _ _, ?_⟩
  refine .cons (plainMember_change hsame ⟨.added (by decide) (hletter (by decide)), by decide⟩) ?_
  refine .cons (plainMember_change hsame ⟨hletter (by decide), by decide⟩) ?_
  refine .cons (plainMember_change hsame ⟨hletter rfl, by decide⟩) ?_
  refine .cons (plainMember_change hsame ⟨hletter rfl, by decide⟩) ?_
  refine .cons (plainMember_change hsame ⟨hletter rfl, by decide⟩) ?_
  exact .cons (plainMember_change hsame ⟨hletter rfl, by decide⟩) .nil

/-- An empty item that is spelled as a dash is no item any more. -/
theorem dashed_item_refused : letI := compactCanonicalizer
    ¬∀ team other projection, canonicalTeamProjection team = .ok projection →
      TeamChange (fun name other => Restyled name.toList other.toList) team other →
      canonicalTeamProjection other = .ok projection := by
  let _ := compactCanonicalizer
  intro h
  obtain ⟨projection, hprojection⟩ := plainTeam_accepted
  have hother : (canonicalTeamProjection (plainTeam "-" ["A", "B", "C", "D", "E", "F"])).isOk =
      false := by decide +kernel
  rw [h _ _ projection hprojection] at hother
  · cases hother
  · refine ⟨_, _, _, rfl, rfl, .refl _, ?_⟩
    have hsame : ∀ name : List Char, Restyled name name := by
      intro name
      induction name with
      | nil => exact .nil
      | cons c cs ih => exact .letter rfl ih
    apply List.forall₂_map_left_iff.mpr
    apply List.forall₂_map_right_iff.mpr
    apply List.forall₂_same.mpr
    intro species _
    exact plainMember_change (.added (by decide) .nil) (hsame _)

end BattleBelief
