import Mathlib.Data.List.ReduceOption
import BattleBelief.Library.JsonText
import BattleBelief.Library.Utf8
import BattleBelief.Oracle.FixtureSession

/-!
# When a Result Can Be Built

The decoder, the transcript, the identities and the validation of a result read the same messages.
A result is built exactly when every payload reads back, a request as an object, so that a request
of `null` leaves the session without a result.

What is said about bytes rests on what the JSON module and the canonicalizer promise about each
other, `CanonicalJson`.
-/

namespace BattleBelief.Oracle

open Python (Json)

section Evidence

variable [JsonModule] [Rfc8785]

/-! ## §1 Canonical JSON -/

/-- The canonical bytes of the value are read as the value. -/
def ReadsBack (value : Json) : Prop :=
  ∃ raw, Rfc8785.dumps value = .ok raw ∧ decodeJson raw = .ok value

/-- What RFC 8785 and the JSON module promise about each other: the canonical form of a text reads
back, so does the form of an array or object of parts that do, and an array's form depends on its
items' only. The keys are those of the code's own documents, in ASCII. -/
structure CanonicalJson : Prop where
  text : ∀ value, ReadsBack (.str value)
  array : ∀ items, (∀ item ∈ items, ReadsBack item) → ReadsBack (.arr items)
  object : ∀ members : List (String × Json),
    (∀ member ∈ members, ∀ c ∈ member.1.toList, Python.isAscii c = true) →
      members.Pairwise (fun first second => first.1 < second.1) →
      (∀ member ∈ members, ReadsBack member.2) → ReadsBack (.obj members)
  array_congr : ∀ items items' : List Json,
    List.Forall₂ (fun item item' => Rfc8785.dumps item = Rfc8785.dumps item') items items' →
      Rfc8785.dumps (.arr items) = Rfc8785.dumps (.arr items')
  object_perm : ∀ members members' : List (String × Json), members.Perm members' →
    (Python.Dict.keys members).Nodup →
      Rfc8785.dumps (.obj members) = Rfc8785.dumps (.obj members')

theorem readsBack_of_canonicalJsonObject {raw : List Nat} {value : Json}
    (h : canonicalJsonObject raw = .ok value) : ReadsBack value := by
  obtain ⟨hread, hcanonical⟩ := canonicalJsonObject_eq_ok.mp h
  exact ⟨raw, hcanonical, hread⟩

theorem CanonicalJson.texts (hjson : CanonicalJson) (values : List String) :
    ReadsBack (.arr (values.map .str)) := by
  apply hjson.array
  intro item hitem
  obtain ⟨value, -, rfl⟩ := List.mem_map.mp hitem
  exact hjson.text value

/-- An object that is written with its keys in order. -/
theorem CanonicalJson.members (hjson : CanonicalJson) {members : List (String × Json)}
    (keys : List String) (hkeys : Python.Dict.keys members = keys)
    (hascii : (keys.all fun key => key.toList.all Python.isAscii) = true)
    (hsorted : keys.Pairwise fun first second => first.toList < second.toList)
    (hvalues : ∀ member ∈ members, ReadsBack member.2) : ReadsBack (.obj members) := by
  subst hkeys
  refine hjson.object members ?_ ?_ hvalues
  · intro member hmember
    have hkey := List.all_eq_true.mp hascii member.1 (List.mem_map_of_mem hmember)
    exact List.all_eq_true.mp hkey
  · exact (List.pairwise_map.mp hsorted).imp String.lt_iff_toList_lt.mpr

/-! ## §2 Entries of the transcript -/

/-- What validation finds in the entry of a message: the side and digest of a request. -/
def recorded : ProtocolMessage → Except PyException (Option (PlayerSide × String))
  | .sideUpdateMessage side _ requestJson => do
      match ← canonicalJsonObject requestJson with
      | .obj members => do
          let digest ← manifestDigest (.obj members)
          pure (some (side, digest))
      | _ => throw (.valueError "canonical transcript side_request is invalid")
  | _ => .ok none

omit [JsonModule] [Rfc8785] in
@[simp] theorem ofValue_value (side : PlayerSide) : PlayerSide.ofValue side.value = some side := by
  cases side <;> rfl

/-- The members of an entry in key order, and what is left of the entry in them. -/
structure Arranges (entry : Json) (message : ProtocolMessage) (arranged : Json) : Prop where
  sameBytes : Rfc8785.dumps entry = Rfc8785.dumps arranged
  readsBack : ReadsBack arranged
  sideRequest : sideRequest arranged = recorded message
  sameKind : ∀ kind, isOfKind arranged kind = isOfKind entry kind

theorem exists_arranges (hjson : CanonicalJson) {message : ProtocolMessage} {entry : Json}
    (h : transcriptEntry message = .ok entry) : ∃ arranged, Arranges entry message arranged := by
  cases message with
  | updateMessage lines =>
    obtain rfl := Except.ok.inj h
    refine ⟨_, rfl, ?_, by simp [sideRequest, isOfKind, isText, Json.get?, Python.Dict.get?, recorded],
      fun _ => rfl⟩
    exact hjson.members ["kind", "lines"] rfl rfl (by decide)
      (by simpa using ⟨hjson.text _, hjson.texts lines⟩)
  | sideUpdateMessage side lines requestJson =>
    obtain ⟨value, hvalue, hentry⟩ := Runs.bind_eq_ok.mp h
    obtain rfl := Except.ok.inj hentry
    refine ⟨.obj [("kind", .str "side_request"), ("request_json", value),
      ("side", .str side.value)], ?_, ?_, ?_, by simp [isOfKind, Json.get?, Python.Dict.get?]⟩
    · exact hjson.object_perm _ _ (.cons _ (.swap _ _ _)) (by simp [Python.Dict.keys])
    · exact hjson.members ["kind", "request_json", "side"] rfl rfl (by decide)
        (by simpa using ⟨hjson.text _, readsBack_of_canonicalJsonObject hvalue, hjson.text _⟩)
    · have hside : entrySide (.obj [("kind", .str "side_request"), ("request_json", value),
          ("side", .str side.value)]) = .ok (some side) := by
        simp [entrySide, entryField, Json.get?, Python.Dict.get?]
      have hkind : isOfKind (.obj [("kind", .str "side_request"), ("request_json", value),
          ("side", .str side.value)]) "side_request" = true := by
        simp [isOfKind, isText, Json.get?, Python.Dict.get?]
      have hrequest : entryField (.obj [("kind", .str "side_request"), ("request_json", value),
          ("side", .str side.value)]) "request_json" = some value := by
        simp [entryField, Json.get?, Python.Dict.get?]
      rw [sideRequest, hkind, hside, hrequest, recorded, hvalue]
      cases value <;> rfl
  | sideErrorMessage side line =>
    obtain rfl := Except.ok.inj h
    refine ⟨.obj [("kind", .str "side_error"), ("line", .str line), ("side", .str side.value)],
      ?_, ?_, ?_, by simp [isOfKind, Json.get?, Python.Dict.get?]⟩
    · exact hjson.object_perm _ _ (.cons _ (.swap _ _ _)) (by simp [Python.Dict.keys])
    · exact hjson.members ["kind", "line", "side"] rfl rfl (by decide)
        (by simpa using ⟨hjson.text _, hjson.text _, hjson.text _⟩)
    · simp [sideRequest, isOfKind, isText, Json.get?, Python.Dict.get?, recorded]
  | endMessage logJson =>
    obtain ⟨value, hvalue, hentry⟩ := Runs.bind_eq_ok.mp h
    obtain rfl := Except.ok.inj hentry
    refine ⟨_, rfl, ?_, by simp [sideRequest, isOfKind, isText, Json.get?, Python.Dict.get?, recorded],
      fun _ => rfl⟩
    exact hjson.members ["kind", "log_json"] rfl rfl (by decide)
      (by simpa using ⟨hjson.text _, readsBack_of_canonicalJsonObject hvalue⟩)

/-- A transcript with its entries in key order, which is what its bytes are read as. -/
theorem exists_arranged (hjson : CanonicalJson) {messages : List ProtocolMessage}
    {transcript : List Json} (h : transcriptDocument messages = .ok transcript) :
    ∃ arranged raw, Rfc8785.dumps (.arr transcript) = .ok raw ∧
      Rfc8785.dumps (.arr arranged) = .ok raw ∧ decodeJson raw = .ok (.arr arranged) ∧
      arranged.mapM sideRequest = messages.mapM recorded ∧
      ∀ kind, (arranged.map fun entry => isOfKind entry kind) =
        transcript.map fun entry => isOfKind entry kind := by
  have hentries := Runs.mapM_eq_ok.mp h
  have harranged : ∃ arranged,
      List.Forall₂ (fun entry entry' => Rfc8785.dumps entry = Rfc8785.dumps entry') transcript
        arranged ∧ (∀ entry ∈ arranged, ReadsBack entry) ∧
      arranged.mapM sideRequest = messages.mapM recorded ∧
      ∀ kind, (arranged.map fun entry => isOfKind entry kind) =
        transcript.map fun entry => isOfKind entry kind := by
    clear h
    induction hentries with
    | nil => exact ⟨[], .nil, nofun, rfl, fun _ => rfl⟩
    | cons hentry hrest ih =>
      obtain ⟨arranged, hbytes, hreads, hrequests, hkinds⟩ := ih
      obtain ⟨entry', hentry'⟩ := exists_arranges hjson hentry
      refine ⟨entry' :: arranged, .cons hentry'.sameBytes hbytes, ?_, ?_, ?_⟩
      · exact List.forall_mem_cons.mpr ⟨hentry'.readsBack, hreads⟩
      · rw [List.mapM_cons, List.mapM_cons, hentry'.sideRequest, hrequests]
      · intro kind
        rw [List.map_cons, List.map_cons, hentry'.sameKind, hkinds]
  obtain ⟨arranged, hbytes, hreads, hrequests, hkinds⟩ := harranged
  obtain ⟨raw, hraw, hdecode⟩ := hjson.array arranged hreads
  exact ⟨arranged, raw, (hjson.array_congr _ _ hbytes).trans hraw, hraw, hdecode, hrequests, hkinds⟩

/-! ## §3 Requests and their identities -/

/-- A request is recorded when its payload is a canonical object. -/
theorem recorded_request {side : PlayerSide} {lines : List String} {requestJson : List Nat}
    {found : Option (PlayerSide × String)} :
    recorded (.sideUpdateMessage side lines requestJson) = .ok found ↔
      (∃ members, canonicalJsonObject requestJson = .ok (.obj members)) ∧
        found = some (side, sha256Digest requestJson) := by
  rw [recorded, Runs.bind_eq_ok]
  constructor
  · rintro ⟨value, hvalue, h⟩
    cases value with
    | obj members =>
      obtain ⟨digest, hdigest, hfound⟩ := Runs.bind_eq_ok.mp h
      rw [manifestDigest_eq (canonicalJsonObject_eq_ok.mp hvalue).2, Except.ok.injEq] at hdigest
      subst hdigest
      exact ⟨⟨members, hvalue⟩, (Except.ok.inj hfound).symm⟩
    | null => cases h
    | bool value => cases h
    | int value => cases h
    | float text => cases h
    | str value => cases h
    | arr items => cases h
  · rintro ⟨⟨members, hvalue⟩, rfl⟩
    refine ⟨_, hvalue, Runs.bind_eq_ok.mpr ⟨_, ?_, rfl⟩⟩
    exact manifestDigest_eq (canonicalJsonObject_eq_ok.mp hvalue).2

/-- A request for a player. -/
def ProtocolMessage.isRequest : ProtocolMessage → Bool
  | .sideUpdateMessage .. => true
  | _ => false

/-- A message is a request, or passed over where requests are collected. -/
theorem request_or_passed (message : ProtocolMessage) :
    (∃ side lines requestJson, message = .sideUpdateMessage side lines requestJson) ∨
      message.isRequest = false ∧ recorded message = .ok none ∧
        ∀ fixtureId sequence rest, requestIdentitiesFrom fixtureId sequence (message :: rest) =
          requestIdentitiesFrom fixtureId sequence rest := by
  cases message with
  | sideUpdateMessage side lines requestJson => exact .inl ⟨side, lines, requestJson, rfl⟩
  | updateMessage lines => exact .inr ⟨rfl, rfl, fun _ _ _ => rfl⟩
  | sideErrorMessage side line => exact .inr ⟨rfl, rfl, fun _ _ _ => rfl⟩
  | endMessage logJson => exact .inr ⟨rfl, rfl, fun _ _ _ => rfl⟩

/-- As many requests are found as there are request messages. -/
theorem length_recorded {messages : List ProtocolMessage}
    {found : List (Option (PlayerSide × String))} (h : messages.mapM recorded = .ok found) :
    found.reduceOption.length = (messages.filter ProtocolMessage.isRequest).length := by
  have hall := Runs.mapM_eq_ok.mp h
  clear h
  induction hall with
  | nil => rfl
  | cons hhead htail ih =>
    rename_i message entry messages found
    rcases request_or_passed message with ⟨side, lines, requestJson, rfl⟩ | ⟨hnot, hnone, -⟩
    · obtain ⟨-, rfl⟩ := recorded_request.mp hhead
      rw [List.reduceOption_cons_of_some, List.length_cons, ih, List.filter_cons_of_pos rfl,
        List.length_cons]
    · rw [hnone, Except.ok.injEq] at hhead
      rw [← hhead, List.reduceOption_cons_of_none, ih, List.filter_cons_of_neg (by simp [hnot])]

omit [JsonModule] [Rfc8785] in
theorem OracleRequestIdentity.create_eq_ok {fixtureId : String} {sequence : Nat}
    {side : PlayerSide} {requestDigest : String} {identity : OracleRequestIdentity} :
    OracleRequestIdentity.create fixtureId sequence side requestDigest = .ok identity ↔
      identity.fixtureId = fixtureId ∧ identity.sequence = sequence ∧ identity.side = side ∧
        identity.requestDigest = requestDigest := by
  rw [OracleRequestIdentity.create]
  split_ifs with hfixture hsafe hdigest
  · rw [Except.ok.injEq]
    constructor
    · rintro rfl
      exact ⟨rfl, rfl, rfl, rfl⟩
    · rintro ⟨rfl, rfl, rfl, rfl⟩
      rfl
  · refine iff_of_false nofun ?_
    rintro ⟨-, -, -, rfl⟩
    exact hdigest identity.digest
  · refine iff_of_false nofun ?_
    rintro ⟨-, rfl, -, -⟩
    exact hsafe identity.safe
  · refine iff_of_false nofun ?_
    rintro ⟨rfl, -, -, -⟩
    exact hfixture identity.fixture

/-- The identities of messages are numbered from `sequence` and belong to the fixture. -/
theorem requestIdentitiesFrom_spec {fixtureId : String} {messages : List ProtocolMessage}
    {sequence : Nat} {identities : List OracleRequestIdentity}
    (h : requestIdentitiesFrom fixtureId sequence messages = .ok identities) :
    identities.map OracleRequestIdentity.sequence = List.range' sequence identities.length ∧
      ∀ identity ∈ identities, identity.fixtureId = fixtureId := by
  induction messages generalizing sequence identities with
  | nil =>
    obtain rfl := Except.ok.inj h
    exact ⟨rfl, nofun⟩
  | cons message rest ih =>
    rcases request_or_passed message with ⟨side, lines, requestJson, rfl⟩ | ⟨-, -, hpassed⟩
    · obtain ⟨value, -, h⟩ := Runs.bind_eq_ok.mp h
      obtain ⟨digest, -, h⟩ := Runs.bind_eq_ok.mp h
      obtain ⟨identity, hidentity, h⟩ := Runs.bind_eq_ok.mp h
      obtain ⟨later, hlater, h⟩ := Runs.bind_eq_ok.mp h
      obtain rfl := Except.ok.inj h
      obtain ⟨hfixture, hsequence, -, -⟩ := OracleRequestIdentity.create_eq_ok.mp hidentity
      obtain ⟨hsequences, hfixtures⟩ := ih hlater
      refine ⟨?_, List.forall_mem_cons.mpr ⟨hfixture, hfixtures⟩⟩
      rw [List.map_cons, hsequence, hsequences, List.length_cons, List.range'_succ]
    · rw [hpassed] at h
      exact ih h

/-- The last identity of all has a safe number. -/
theorem length_le_of_requestIdentities {fixtureId : String} {messages : List ProtocolMessage}
    {identities : List OracleRequestIdentity}
    (h : requestIdentities fixtureId messages = .ok identities) :
    (identities.length : Int) ≤ maxSafeInteger + 1 := by
  obtain ⟨hsequences, -⟩ := requestIdentitiesFrom_spec h
  cases hlength : identities.length with
  | zero => decide
  | succ last =>
    have hmem : last ∈ List.range' 0 (last + 1) := List.mem_range'_1.mpr ⟨Nat.zero_le _, by omega⟩
    rw [← hlength, ← hsequences] at hmem
    obtain ⟨identity, -, rfl⟩ := List.mem_map.mp hmem
    have hsafe := identity.safe
    push_cast
    omega

/-- The identities are those that validation finds in the transcript. -/
theorem requestIdentitiesFrom_recorded {fixtureId : String} {messages : List ProtocolMessage}
    {sequence : Nat} {identities : List OracleRequestIdentity}
    {found : List (Option (PlayerSide × String))}
    (h : requestIdentitiesFrom fixtureId sequence messages = .ok identities)
    (hfound : messages.mapM recorded = .ok found) :
    (identities.map fun identity => (identity.side, identity.requestDigest)) =
      found.reduceOption := by
  have hall := Runs.mapM_eq_ok.mp hfound
  clear hfound
  induction hall generalizing sequence identities with
  | nil =>
    obtain rfl := Except.ok.inj h
    rfl
  | cons hhead htail ih =>
    rename_i message entry messages found
    rcases request_or_passed message with ⟨side, lines, requestJson, rfl⟩ | ⟨-, hnone, hpassed⟩
    · obtain ⟨⟨members, hmembers⟩, rfl⟩ := recorded_request.mp hhead
      obtain ⟨value, hvalue, h⟩ := Runs.bind_eq_ok.mp h
      obtain ⟨digest, hdigest, h⟩ := Runs.bind_eq_ok.mp h
      obtain ⟨identity, hidentity, h⟩ := Runs.bind_eq_ok.mp h
      obtain ⟨later, hlater, h⟩ := Runs.bind_eq_ok.mp h
      obtain rfl := Except.ok.inj h
      rw [manifestDigest_eq (canonicalJsonObject_eq_ok.mp hvalue).2, Except.ok.injEq] at hdigest
      obtain ⟨-, -, hside, hrequest⟩ := OracleRequestIdentity.create_eq_ok.mp hidentity
      rw [List.map_cons, hside, hrequest, ih hlater, List.reduceOption_cons_of_some, hdigest]
    · rw [hnone, Except.ok.injEq] at hhead
      rw [hpassed] at h
      rw [← hhead, List.reduceOption_cons_of_none, ih h]

/-- Requests that are recorded, and not too many of them, have identities. -/
theorem exists_requestIdentitiesFrom {fixtureId : String} (hfixture : isFixtureId fixtureId = true)
    {messages : List ProtocolMessage} {found : List (Option (PlayerSide × String))}
    (hfound : messages.mapM recorded = .ok found) {sequence : Nat}
    (hcount : ((sequence + found.reduceOption.length : Nat) : Int) ≤ maxSafeInteger + 1) :
    ∃ identities, requestIdentitiesFrom fixtureId sequence messages = .ok identities := by
  have hall := Runs.mapM_eq_ok.mp hfound
  clear hfound
  induction hall generalizing sequence with
  | nil => exact ⟨[], rfl⟩
  | cons hhead htail ih =>
    rename_i message entry messages found
    rcases request_or_passed message with ⟨side, lines, requestJson, rfl⟩ | ⟨-, hnone, hpassed⟩
    · obtain ⟨⟨members, hmembers⟩, rfl⟩ := recorded_request.mp hhead
      rw [List.reduceOption_cons_of_some, List.length_cons] at hcount
      have hsafe : (sequence : Int) ≤ maxSafeInteger := by omega
      have hnext : ((sequence + 1 + found.reduceOption.length : Nat) : Int) ≤ maxSafeInteger + 1 := by
        omega
      obtain ⟨later, hlater⟩ := ih hnext
      have hdigest := manifestDigest_eq (canonicalJsonObject_eq_ok.mp hmembers).2
      let identity : OracleRequestIdentity :=
        { fixtureId, sequence, side, requestDigest := sha256Digest requestJson,
          fixture := hfixture, safe := hsafe, digest := isDigest_sha256Digest requestJson }
      have hidentity : OracleRequestIdentity.create fixtureId sequence side
          (sha256Digest requestJson) = .ok identity :=
        OracleRequestIdentity.create_eq_ok.mpr ⟨rfl, rfl, rfl, rfl⟩
      refine ⟨identity :: later, Runs.bind_eq_ok.mpr ⟨_, hmembers, ?_⟩⟩
      refine Runs.bind_eq_ok.mpr ⟨_, hdigest, Runs.bind_eq_ok.mpr ⟨_, hidentity, ?_⟩⟩
      exact Runs.bind_eq_ok.mpr ⟨_, hlater, rfl⟩
    · rw [hnone, Except.ok.injEq] at hhead
      rw [← hhead, List.reduceOption_cons_of_none] at hcount
      rw [hpassed]
      exact ih hcount

/-! ## §4 Building a result -/

/-- What a session has prepared when it calls the simulator. -/
structure Prepared.Sound (prepared : Prepared) : Prop where
  sameFixture : prepared.evidence.fixtureId = prepared.fixture.fixtureId
  fixture : isFixtureId prepared.fixture.fixtureId = true
  source : isDigest prepared.evidence.sourceManifestDigest = true
  build : isDigest prepared.evidence.buildManifestDigest = true
  ruleset : isDigest prepared.evidence.rulesetSnapshotDigest = true
  fixtureDigest : isDigest prepared.evidence.fixtureDigest = true
  seed : isDigest prepared.evidence.seedDigest = true
  input : ∃ texts, Rfc8785.dumps (inputDocument prepared.fixture.fixtureId texts) =
    .ok prepared.canonicalInput
  inputDigest : prepared.evidence.inputDigest = sha256Digest prepared.canonicalInput

omit [JsonModule] [Rfc8785] in
theorem isDigest_of_requireDigest {value : Json} {fieldName digest : String}
    (h : requireDigest value fieldName = .ok digest) : isDigest digest = true := by
  cases value with
  | str text =>
    obtain ⟨hdigest, rfl⟩ := requireDigest_eq_ok.mp h
    exact hdigest
  | null => cases h
  | bool value => cases h
  | int value => cases h
  | float text => cases h
  | arr items => cases h
  | obj members => cases h

omit [JsonModule] [Rfc8785] in
theorem parseFields_spec [Python.UnicodeDatabase] {document : Json} {fields : FixtureFields}
    (h : parseFields document = .ok fields) :
    isFixtureId fields.fixtureId = true ∧ isDigest fields.rulesetSnapshotDigest = true := by
  cases document with
  | obj members =>
    obtain ⟨_, -, h⟩ := Runs.bind_eq_ok.mp h
    obtain ⟨_, -, h⟩ := Runs.bind_eq_ok.mp h
    obtain ⟨fixtureId, -, h⟩ := Runs.bind_eq_ok.mp h
    obtain ⟨_, hid, h⟩ := Runs.bind_eq_ok.mp h
    obtain ⟨_, -, h⟩ := Runs.bind_eq_ok.mp h
    obtain ⟨rulesetSnapshotDigest, hruleset, h⟩ := Runs.bind_eq_ok.mp h
    obtain ⟨seedDomain, -, h⟩ := Runs.bind_eq_ok.mp h
    obtain ⟨_, -, h⟩ := Runs.bind_eq_ok.mp h
    obtain ⟨seed, -, h⟩ := Runs.bind_eq_ok.mp h
    split at h
    · obtain ⟨_, -, h⟩ := Runs.bind_eq_ok.mp h
      obtain ⟨p1, -, h⟩ := Runs.bind_eq_ok.mp h
      obtain ⟨p2, -, h⟩ := Runs.bind_eq_ok.mp h
      obtain ⟨expectedTeraLine, -, h⟩ := Runs.bind_eq_ok.mp h
      obtain ⟨_, -, h⟩ := Runs.bind_eq_ok.mp h
      obtain ⟨_, -, h⟩ := Runs.bind_eq_ok.mp h
      obtain rfl := Except.ok.inj h
      exact ⟨by simpa using refuseIf_eq_ok.mp hid, isDigest_of_requireDigest hruleset⟩
    · cases h
  | null => cases h
  | bool value => cases h
  | int value => cases h
  | float text => cases h
  | str value => cases h
  | arr items => cases h

theorem parseFixture_spec [Python.UnicodeDatabase] {document : Json} {fixture : Fixture}
    (h : parseFixture document = .ok fixture) :
    isFixtureId fixture.fixtureId = true ∧ isDigest fixture.rulesetSnapshotDigest = true ∧
      isDigest fixture.fixtureDigest = true := by
  obtain ⟨fields, hfields, h⟩ := Runs.bind_eq_ok.mp h
  obtain ⟨canonicalDocument, -, h⟩ := Runs.bind_eq_ok.mp h
  obtain ⟨parsed, -, h⟩ := Runs.bind_eq_ok.mp h
  obtain ⟨fixtureDigest, hdigest, h⟩ := Runs.bind_eq_ok.mp h
  obtain rfl := Except.ok.inj h
  obtain ⟨hid, hruleset⟩ := parseFields_spec hfields
  exact ⟨hid, hruleset, isDigest_of_manifestDigest hdigest⟩

theorem sound_of_prepare [Python.UnicodeDatabase] [Python.NormalForms]
    {config : ShowdownOracleConfig} {document : Json} {prepared : Prepared}
    (h : prepare config document = .ok prepared) : prepared.Sound := by
  obtain ⟨fixture, hfixture, h⟩ := Runs.bind_eq_ok.mp h
  obtain ⟨_, hbinds, h⟩ := Runs.bind_eq_ok.mp h
  obtain ⟨steps, -, h⟩ := Runs.bind_eq_ok.mp h
  obtain ⟨texts, -, h⟩ := Runs.bind_eq_ok.mp h
  obtain ⟨canonicalInput, hinput, h⟩ := Runs.bind_eq_ok.mp h
  obtain ⟨inputDigest, hinputDigest, h⟩ := Runs.bind_eq_ok.mp h
  obtain ⟨seedDigest, hseed, h⟩ := Runs.bind_eq_ok.mp h
  obtain rfl := Except.ok.inj h
  obtain ⟨hid, hruleset, hdigest⟩ := parseFixture_spec (mapError_eq_ok.mp hfixture)
  have hcanonical := mapError_eq_ok.mp hinput
  have hinputEq := mapError_eq_ok.mp hinputDigest
  rw [manifestDigest_eq hcanonical, Except.ok.injEq] at hinputEq
  exact
    { sameFixture := rfl
      fixture := hid
      source := config.digests.1
      build := config.digests.2
      ruleset := hruleset
      fixtureDigest := hdigest
      seed := isDigest_of_manifestDigest (mapError_eq_ok.mp hseed)
      input := ⟨texts, hcanonical⟩
      inputDigest := hinputEq.symm }

/-- The canonical input reads back. -/
theorem Prepared.Sound.readsBack {prepared : Prepared} (hsound : prepared.Sound)
    (hjson : CanonicalJson) : ∃ input, decodeJson prepared.canonicalInput = .ok (.obj input) ∧
      Rfc8785.dumps (.obj input) = .ok prepared.canonicalInput ∧
      Json.get? input "fixture_id" = some (.str prepared.fixture.fixtureId) := by
  obtain ⟨texts, hcanonical⟩ := hsound.input
  have hreads : ReadsBack (inputDocument prepared.fixture.fixtureId texts) :=
    hjson.members ["fixture_id", "steps"] rfl rfl (by decide)
      (by simpa using ⟨hjson.text _, hjson.texts texts⟩)
  obtain ⟨raw, hraw, hdecode⟩ := hreads
  obtain rfl := Except.ok.inj (hcanonical.symm.trans hraw)
  exact ⟨_, hdecode, hraw, by simp [Json.get?, Python.Dict.get?]⟩

/-- A result is built exactly when every request of the transcript is an object. -/
theorem exists_buildResult_iff (hjson : CanonicalJson) {prepared : Prepared}
    (hsound : prepared.Sound) {status : OracleStatus} {failureClass : Option OracleFailureClass}
    (hstatus : decide (status = .success) = failureClass.isNone)
    {messages : List ProtocolMessage} {transcript : List Json}
    (htranscript : transcriptDocument messages = .ok transcript)
    {identities : List OracleRequestIdentity}
    (hidentities : requestIdentities prepared.fixture.fixtureId messages = .ok identities) :
    (∃ result, buildResult prepared status failureClass transcript identities = .ok result) ↔
      ∃ found, messages.mapM recorded = .ok found := by
  obtain ⟨arranged, raw, hraw, harranged, hdecode, hrequests, -⟩ := exists_arranged hjson htranscript
  constructor
  · rintro ⟨result, hresult⟩
    obtain ⟨transcriptDigest, -, hresult⟩ := Runs.bind_eq_ok.mp hresult
    obtain ⟨canonicalTranscript, hcanonical, hresult⟩ := Runs.bind_eq_ok.mp hresult
    obtain rfl := Except.ok.inj (hraw.symm.trans hcanonical)
    obtain ⟨-, input, entries, hbinds⟩ := (ResultFields.postInit_eq_ok _).mp result.validated
    obtain ⟨found, hfound, -⟩ := hbinds.identities
    have hentries := hbinds.transcriptRead
    rw [OracleResult.create_eq_ok.mp hresult, hdecode] at hentries
    obtain rfl : arranged = entries := Json.arr.inj (Except.ok.inj hentries)
    exact ⟨found, hrequests ▸ hfound⟩
  · rintro ⟨found, hfound⟩
    obtain ⟨input, hinput, hinputCanonical, hfixture⟩ := hsound.readsBack hjson
    obtain ⟨hsequences, hfixtures⟩ := requestIdentitiesFrom_spec hidentities
    have hvalid : ResultFields.postInit
        { toEvidence := prepared.evidence
          status
          failureClass
          transcriptDigest := sha256Digest raw
          canonicalInput := prepared.canonicalInput
          canonicalTranscript := raw
          requestIdentities := identities } = .ok () := by
      refine (ResultFields.postInit_eq_ok _).mpr ⟨⟨?_, ?_, ?_⟩, input, arranged, ?_⟩
      · exact hsound.sameFixture ▸ hsound.fixture
      · simpa [ResultFields.statusAgrees] using hstatus
      · intro digest hdigest
        simp only [ResultFields.digests, List.mem_cons, List.not_mem_nil, or_false] at hdigest
        rcases hdigest with rfl | rfl | rfl | rfl | rfl | rfl | rfl
        · exact hsound.source
        · exact hsound.build
        · exact hsound.ruleset
        · exact hsound.fixtureDigest
        · exact hsound.seed
        · exact hsound.inputDigest ▸ isDigest_sha256Digest _
        · exact isDigest_sha256Digest _
      · exact
          { inputRead := hinput
            canonicalInput := hinputCanonical
            transcriptRead := hdecode
            canonicalTranscript := harranged
            inputDigest := hsound.inputDigest.symm
            transcriptDigest := rfl
            fixture := ⟨_, hfixture, by simp [isText, hsound.sameFixture]⟩
            sequences := by rw [hsequences, List.range_eq_range']
            fixtures := fun identity hmem => (hfixtures identity hmem).trans hsound.sameFixture.symm
            identities := ⟨found, hrequests.trans hfound,
              requestIdentitiesFrom_recorded hidentities hfound⟩ }
    obtain ⟨result, hresult⟩ := OracleResult.exists_create_iff.mpr hvalid
    exact ⟨result, Runs.bind_eq_ok.mpr ⟨_, manifestDigest_eq hraw,
      Runs.bind_eq_ok.mpr ⟨_, hraw, hresult⟩⟩⟩

/-- The payload of a message reads back: as an object where it is a request. -/
def PayloadReads : ProtocolMessage → Prop
  | .sideUpdateMessage _ _ requestJson =>
      ∃ members, canonicalJsonObject requestJson = .ok (.obj members)
  | .endMessage logJson => ∃ value, canonicalJsonObject logJson = .ok value
  | _ => True

/-- Every payload of the messages reads back, and the requests can be numbered. -/
structure Recordable (messages : List ProtocolMessage) : Prop where
  payloads : ∀ message ∈ messages, PayloadReads message
  requests : ((messages.filter ProtocolMessage.isRequest).length : Int) ≤ maxSafeInteger + 1

/-- Messages whose payloads read back have a transcript and requests that are recorded, and no
others have both. -/
theorem payloads_read_iff {messages : List ProtocolMessage} :
    ((∃ transcript, transcriptDocument messages = .ok transcript) ∧
        ∃ found, messages.mapM recorded = .ok found) ↔
      ∀ message ∈ messages, PayloadReads message := by
  constructor
  · rintro ⟨⟨transcript, htranscript⟩, found, hfound⟩ message hmem
    obtain ⟨entry, -, hentry⟩ := Runs.exists_of_mapM htranscript hmem
    obtain ⟨request, -, hrequest⟩ := Runs.exists_of_mapM hfound hmem
    cases message with
    | updateMessage lines => trivial
    | sideErrorMessage side line => trivial
    | sideUpdateMessage side lines requestJson => exact (recorded_request.mp hrequest).1
    | endMessage logJson =>
      obtain ⟨value, hvalue, -⟩ := Runs.bind_eq_ok.mp hentry
      exact ⟨value, hvalue⟩
  · intro h
    constructor
    · apply Runs.exists_mapM
      intro message hmem
      have hpayload := h message hmem
      cases message with
      | updateMessage lines => exact ⟨_, rfl⟩
      | sideErrorMessage side line => exact ⟨_, rfl⟩
      | sideUpdateMessage side lines requestJson =>
        obtain ⟨members, hmembers⟩ := hpayload
        exact ⟨_, Runs.bind_eq_ok.mpr ⟨_, hmembers, rfl⟩⟩
      | endMessage logJson =>
        obtain ⟨value, hvalue⟩ := hpayload
        exact ⟨_, Runs.bind_eq_ok.mpr ⟨_, hvalue, rfl⟩⟩
    · apply Runs.exists_mapM
      intro message hmem
      have hpayload := h message hmem
      cases message with
      | updateMessage lines => exact ⟨_, rfl⟩
      | sideErrorMessage side line => exact ⟨_, rfl⟩
      | sideUpdateMessage side lines requestJson => exact ⟨_, recorded_request.mpr ⟨hpayload, rfl⟩⟩
      | endMessage logJson => exact ⟨_, rfl⟩

/-- Whatever its verdict, the session has a result for the messages exactly when they are
recordable. -/
theorem exists_concludeFixture_iff (hjson : CanonicalJson) {prepared : Prepared}
    (hsound : prepared.Sound) (processResult : OracleProcessResult) :
    (∃ result, concludeFixture prepared processResult = .ok result) ↔
      Recordable processResult.messages := by
  constructor
  · rintro ⟨result, hresult⟩
    obtain ⟨transcript, htranscript, hresult⟩ := Runs.bind_eq_ok.mp hresult
    obtain ⟨identities, hidentities, hresult⟩ := Runs.bind_eq_ok.mp hresult
    have hfound : ∃ found, processResult.messages.mapM recorded = .ok found := by
      split at hresult
      · exact (exists_buildResult_iff hjson hsound rfl htranscript hidentities).mp ⟨_, hresult⟩
      · exact (exists_buildResult_iff hjson hsound rfl htranscript hidentities).mp ⟨_, hresult⟩
    refine ⟨payloads_read_iff.mp ⟨⟨transcript, htranscript⟩, hfound⟩, ?_⟩
    obtain ⟨found, hfound⟩ := hfound
    have hlength := congrArg List.length (requestIdentitiesFrom_recorded hidentities hfound)
    rw [List.length_map] at hlength
    rw [← length_recorded hfound, ← hlength]
    exact length_le_of_requestIdentities hidentities
  · rintro ⟨hpayloads, hcount⟩
    obtain ⟨⟨transcript, htranscript⟩, found, hfound⟩ := payloads_read_iff.mpr hpayloads
    obtain ⟨identities, hidentities⟩ :
        ∃ identities, requestIdentities prepared.fixture.fixtureId processResult.messages =
          .ok identities := by
      apply exists_requestIdentitiesFrom hsound.fixture hfound
      rwa [Nat.zero_add, length_recorded hfound]
    have hbuild : ∀ status failureClass, decide (status = .success) = failureClass.isNone →
        ∃ result, buildResult prepared status failureClass transcript identities = .ok result :=
      fun status failureClass hstatus =>
        (exists_buildResult_iff hjson hsound hstatus htranscript hidentities).mpr ⟨found, hfound⟩
    cases hfailure : failureOf prepared.fixture processResult with
    | some failureClass =>
      obtain ⟨result, hresult⟩ := hbuild .failure (some failureClass) rfl
      refine ⟨result, Runs.bind_eq_ok.mpr ⟨_, htranscript, Runs.bind_eq_ok.mpr ⟨_, hidentities, ?_⟩⟩⟩
      rw [hfailure]
      exact hresult
    | none =>
      obtain ⟨result, hresult⟩ := hbuild .success none rfl
      refine ⟨result, Runs.bind_eq_ok.mpr ⟨_, htranscript, Runs.bind_eq_ok.mpr ⟨_, hidentities, ?_⟩⟩⟩
      rw [hfailure]
      exact hresult

/-! ## §5 The session -/

/-- The request identities are numbered from zero. -/
def Numbered (result : OracleResult) : Prop :=
  result.requestIdentities.map OracleRequestIdentity.sequence =
    List.range result.requestIdentities.length

/-- The identity is the one of a transcript entry: its side and the digest of its request. -/
def Identifies (identity : OracleRequestIdentity) (entry : Json) : Prop :=
  entryField entry "side" = some (.str identity.side.value) ∧
    ∃ request, entryField entry "request_json" = some (.obj request) ∧
      manifestDigest (.obj request) = .ok identity.requestDigest

/-- The identities correspond one to one, in order, to the side requests of the transcript. -/
def Corresponds (result : OracleResult) : Prop :=
  ∃ entries, decodeJson result.canonicalTranscript = .ok (.arr entries) ∧
    List.Forall₂ Identifies result.requestIdentities
      (entries.filter fun entry => isOfKind entry "side_request")

theorem numbered (result : OracleResult) : Numbered result := by
  obtain ⟨-, input, entries, hbinds⟩ := (ResultFields.postInit_eq_ok _).mp result.validated
  exact hbinds.sequences

omit [JsonModule] [Rfc8785] in
theorem ofValue_eq_some {text : String} {side : PlayerSide}
    (h : PlayerSide.ofValue text = some side) : text = side.value := by
  unfold PlayerSide.ofValue at h
  split_ifs at h with h1 h2
  · obtain rfl := Option.some.inj h
    exact h1
  · obtain rfl := Option.some.inj h
    exact h2

omit [JsonModule] in
/-- An entry in which validation finds a request is identified by it. -/
theorem identifies_of_sideRequest {entry : Json} {side : PlayerSide} {digest : String}
    (h : sideRequest entry = .ok (some (side, digest))) :
    isOfKind entry "side_request" = true ∧ entryField entry "side" = some (.str side.value) ∧
      ∃ request, entryField entry "request_json" = some (.obj request) ∧
        manifestDigest (.obj request) = .ok digest := by
  rw [sideRequest] at h
  cases hkind : isOfKind entry "side_request" with
  | false => simp [hkind] at h
  | true =>
    simp only [hkind, Bool.not_true, Bool.false_eq_true, if_false] at h
    obtain ⟨found, hside, h⟩ := Runs.bind_eq_ok.mp h
    split at h
    · rename_i side' request hrequest
      obtain ⟨digest', hdigest, hpair⟩ := Runs.bind_eq_ok.mp h
      obtain ⟨rfl, rfl⟩ := Prod.mk.inj (Option.some.inj (Except.ok.inj hpair))
      refine ⟨rfl, ?_, request, hrequest, hdigest⟩
      unfold entrySide at hside
      split at hside
      · rename_i text htext
        rw [htext, ofValue_eq_some (Except.ok.inj hside)]
      · cases hside
      · cases hside
      · cases hside
    · cases h

omit [JsonModule] in
/-- An entry in which validation finds no request is of another kind. -/
theorem isOfKind_of_sideRequest {entry : Json} (h : sideRequest entry = .ok none) :
    isOfKind entry "side_request" = false := by
  rw [sideRequest] at h
  cases hkind : isOfKind entry "side_request" with
  | false => rfl
  | true =>
    simp only [hkind, Bool.not_true, Bool.false_eq_true, if_false] at h
    obtain ⟨found, hside, h⟩ := Runs.bind_eq_ok.mp h
    split at h
    · obtain ⟨digest, hdigest, hpair⟩ := Runs.bind_eq_ok.mp h
      cases hpair
    · cases h

omit [JsonModule] in
theorem forall₂_identifies {entries : List Json} {found : List (Option (PlayerSide × String))}
    (h : entries.mapM sideRequest = .ok found) {identities : List OracleRequestIdentity}
    (hidentities : (identities.map fun identity => (identity.side, identity.requestDigest)) =
      found.reduceOption) :
    List.Forall₂ Identifies identities
      (entries.filter fun entry => isOfKind entry "side_request") := by
  have hall := Runs.mapM_eq_ok.mp h
  clear h
  induction hall generalizing identities with
  | nil =>
    obtain rfl := List.map_eq_nil_iff.mp hidentities
    exact .nil
  | cons hhead htail ih =>
    rename_i entry request entries found
    cases request with
    | none =>
      rw [List.filter_cons_of_neg (by simp [isOfKind_of_sideRequest hhead])]
      exact ih (by rwa [List.reduceOption_cons_of_none] at hidentities)
    | some request =>
      obtain ⟨side, digest⟩ := request
      obtain ⟨hkind, hentry⟩ := identifies_of_sideRequest hhead
      rw [List.reduceOption_cons_of_some] at hidentities
      obtain ⟨identity, rest, rfl, hidentity, hrest⟩ := List.map_eq_cons_iff.mp hidentities
      obtain ⟨rfl, rfl⟩ := Prod.mk.inj hidentity
      rw [List.filter_cons_of_pos (by simp [hkind])]
      exact .cons hentry (ih hrest)

theorem corresponds (result : OracleResult) : Corresponds result := by
  obtain ⟨-, input, entries, hbinds⟩ := (ResultFields.postInit_eq_ok _).mp result.validated
  obtain ⟨found, hfound, hidentities⟩ := hbinds.identities
  exact ⟨entries, hbinds.transcriptRead, forall₂_identifies hfound hidentities⟩

end Evidence

/-- Where the process runner returns, the session has a result exactly when the messages are
recordable. -/
theorem exists_runFixture_iff [Python.UnicodeDatabase] [Python.NormalForms] [JsonModule] [Rfc8785]
    (hjson : CanonicalJson) {config : ShowdownOracleConfig} {document : Json} {prepared : Prepared}
    (hprepared : prepare config document = .ok prepared)
    {run : List ProcessInteractionStep → Except OracleFailureClass OracleProcessResult}
    {processResult : OracleProcessResult} (hrun : run prepared.steps = .ok processResult) :
    (∃ result, runFixture config (.ok ()) true run document = .ok result) ↔
      Recordable processResult.messages := by
  have hsession : runFixture config (.ok ()) true run document =
      (concludeFixture prepared processResult).mapError .raised := by
    simp only [runFixture, hprepared, bind, Except.bind, runPrepared, Bool.not_true,
      Bool.false_eq_true, if_false, hrun]
  simp only [hsession, mapError_eq_ok]
  exact exists_concludeFixture_iff hjson (sound_of_prepare hprepared) processResult

/-! ## §6 A codec -/

/-- A JSON module that reads compact text. -/
@[reducible] def compactJson : JsonModule where
  loads hooks text :=
    Python.JsonText.read
      { object := hooks.objectPairs
        constant := hooks.parseConstant
        float := hooks.parseFloat
        malformed := .valueError "malformed JSON" }
      text.toList
  float := id

/-- A canonicalizer whose texts the JSON module reads. -/
@[reducible] def textCanonicalizer : Rfc8785 :=
  ⟨fun value => .ok (Python.encodeUtf8 (Python.JsonText.write value))⟩

section Codec

attribute [local instance] compactJson textCanonicalizer

/-- The hooks of the caller of `json.loads` without hooks. -/
def readerHooks : Python.JsonText.Hooks PyException where
  object := plainHooks.objectPairs
  constant := plainHooks.parseConstant
  float := plainHooks.parseFloat
  malformed := .valueError "malformed JSON"

theorem decodeJson_encodeUtf8 (text : List Char) :
    decodeJson (Python.encodeUtf8 text) = Python.JsonText.read readerHooks text := by
  simp only [decodeJson, Python.decodeUtf8_encodeUtf8]
  exact congrArg (Python.JsonText.read readerHooks) String.toList_ofList

theorem readsBack_iff {value : Json} :
    ReadsBack value ↔ Python.JsonText.Reads readerHooks (Python.JsonText.write value) value := by
  rw [← Python.JsonText.read_eq_ok, ← decodeJson_encodeUtf8]
  constructor
  · rintro ⟨raw, hraw, hread⟩
    obtain rfl := Except.ok.inj hraw
    exact hread
  · intro hread
    exact ⟨_, rfl, hread⟩

theorem encodeUtf8_injective : Function.Injective Python.encodeUtf8 := by
  intro first second h
  have hdecode := congrArg (Python.decodeUtf8From 0) h
  rw [Python.decodeUtf8From_encodeUtf8, Python.decodeUtf8From_encodeUtf8] at hdecode
  exact Option.some.inj hdecode

theorem canonicalJson_compactJson : CanonicalJson where
  text value := readsBack_iff.mpr (Python.JsonText.reads_text value)
  array items h := by
    rw [readsBack_iff, Python.JsonText.write, Python.JsonText.writeItems_eq_map]
    apply Python.JsonText.Reads.array
    rw [List.forall₂_map_left_iff, List.forall₂_same]
    exact fun item hitem => readsBack_iff.mp (h item hitem)
  object members _ hsorted h := by
    rw [readsBack_iff, Python.JsonText.write, Python.JsonText.writeMembers_eq_map]
    have hreads : List.Forall₂ (fun (text : String × List Char) (member : String × Json) =>
        text.1 = member.1 ∧ Python.JsonText.Reads readerHooks text.2 member.2)
        (members.map fun member => (member.1, Python.JsonText.write member.2)) members := by
      rw [List.forall₂_map_left_iff, List.forall₂_same]
      exact fun member hmember => ⟨rfl, readsBack_iff.mp (h member hmember)⟩
    have hnodup : (Python.Dict.keys members).Nodup :=
      List.pairwise_map.mpr (hsorted.imp ne_of_lt)
    have hobject : readerHooks.object members = .ok (.obj members) :=
      congrArg (fun pairs => Except.ok (Json.obj pairs)) (Python.Dict.ofPairs_of_nodup hnodup)
    exact Python.JsonText.Reads.object hreads (List.pairwise_map.mpr hsorted) hobject
  array_congr items items' h := by
    have hitems : items.map Python.JsonText.write = items'.map Python.JsonText.write := by
      induction h with
      | nil => rfl
      | cons hhead htail ih =>
        rw [List.map_cons, List.map_cons, ih, encodeUtf8_injective (Except.ok.inj hhead)]
    change Except.ok (Python.encodeUtf8 (Python.JsonText.write (.arr items))) =
      Except.ok (Python.encodeUtf8 (Python.JsonText.write (.arr items')))
    rw [Python.JsonText.write, Python.JsonText.write, Python.JsonText.writeItems_eq_map,
      Python.JsonText.writeItems_eq_map, hitems]
  object_perm members members' hperm hnodup := by
    have htexts := Python.JsonText.writeObject_perm
      (hperm.map fun member : String × Json => (member.1, Python.JsonText.write member.2))
      (by rwa [List.map_map])
    change Except.ok (Python.encodeUtf8 (Python.JsonText.write (.obj members))) =
      Except.ok (Python.encodeUtf8 (Python.JsonText.write (.obj members')))
    rw [Python.JsonText.write, Python.JsonText.write, Python.JsonText.writeMembers_eq_map,
      Python.JsonText.writeMembers_eq_map, htexts]

end Codec

/-! ## §7 A request of `null` -/

def exampleDigest : String :=
  "sha256:0000000000000000000000000000000000000000000000000000000000000000"

def exampleConfig : ShowdownOracleConfig where
  sourceManifestDigest := exampleDigest
  buildManifestDigest := exampleDigest
  rulesetSnapshotDigest := exampleDigest
  digests := by decide

def examplePlayer (side : PlayerSide) : Json :=
  .obj [("name", .str side.value), ("team", .str "garchomp"), ("team_choice", .str "team 1"),
    ("move_choice", .str "move 1")]

def exampleDocument : Json :=
  .obj [("schema_version", .int 1), ("fixture_id", .str "plain-1"), ("format_id", .str "gen9ou"),
    ("ruleset_snapshot_digest", .str exampleDigest), ("seed_domain", .str "showdown-fixture-v1"),
    ("seed", .arr [.int 1, .int 2, .int 3, .int 4]),
    ("players", .obj [("p1", examplePlayer .p1), ("p2", examplePlayer .p2)]),
    ("expected_tera_line", .null)]


def exampleFields : FixtureFields where
  fixtureId := "plain-1"
  rulesetSnapshotDigest := exampleDigest
  seedDomain := "showdown-fixture-v1"
  seed := [1, 2, 3, 4]
  p1 := { name := "p1", team := "garchomp", teamChoice := "team 1", moveChoice := "move 1" }
  p2 := { name := "p2", team := "garchomp", teamChoice := "team 1", moveChoice := "move 1" }
  expectedTeraLine := none

theorem exists_of_isOk {κ α : Type} {x : Except κ α} (h : x.isOk = true) : ∃ a, x = .ok a := by
  cases x with
  | ok a => exact ⟨a, rfl⟩
  | error err => cases h

/-- The session gets as far as its simulator. -/
theorem exists_prepared :
    letI := Python.asciiDatabase
    letI := Python.plainForms
    letI := compactJson
    letI := textCanonicalizer
    ∃ prepared, prepare exampleConfig exampleDocument = .ok prepared ∧
      prepared.fixture.toFixtureFields = exampleFields := by
  let _ := Python.asciiDatabase
  let _ := Python.plainForms
  let _ := compactJson
  let _ := textCanonicalizer
  have hfields : parseFields exampleDocument = .ok exampleFields := by decide +kernel
  have hread : (Python.JsonText.read readerHooks
      (Python.JsonText.write exampleFields.document)).isOk = true := by decide +kernel
  have hsteps : (do
      let steps ← buildSteps exampleFields
      (steps.mapM stepText).mapError DecoderError.raised).isOk = true := by decide +kernel
  obtain ⟨parsed, hparsed⟩ := exists_of_isOk hread
  rw [← decodeJson_encodeUtf8] at hparsed
  obtain ⟨texts, htexts⟩ := exists_of_isOk hsteps
  obtain ⟨steps, hbuild, htexts⟩ := Runs.bind_eq_ok.mp htexts
  have hfixture : parseFixture exampleDocument = .ok
      { toFixtureFields := exampleFields
        canonicalDocument := Python.encodeUtf8 (Python.JsonText.write exampleFields.document)
        fixtureDigest := sha256Digest (Python.encodeUtf8 (Python.JsonText.write parsed)) } := by
    refine Runs.bind_eq_ok.mpr ⟨_, hfields, Runs.bind_eq_ok.mpr ⟨_, rfl, ?_⟩⟩
    exact Runs.bind_eq_ok.mpr ⟨_, hparsed, rfl⟩
  exact ⟨_, Runs.bind_eq_ok.mpr ⟨_, mapError_eq_ok.mpr hfixture, Runs.bind_eq_ok.mpr ⟨(), rfl,
    Runs.bind_eq_ok.mpr ⟨steps, hbuild, Runs.bind_eq_ok.mpr ⟨texts, htexts, rfl⟩⟩⟩⟩, rfl⟩

/-- A battle that makes one request, with this payload. -/
def requestStream (payload : String) : List Nat :=
  utf8 ("update\n|x\n\nsideupdate\np1\n|request|" ++ payload ++ "\n\nend\n\x7b\x7d\n\n")

def requestMessages (payload : String) : List ProtocolMessage :=
  [.updateMessage ["|x"], .sideUpdateMessage .p1 ["|request|" ++ payload] (utf8 payload),
    .endMessage (utf8 "\x7b\x7d")]

def returned (messages : List ProtocolMessage) : OracleProcessResult where
  messages
  returncode := 0
  forcedShutdown := false
  completedBarriers := true
  terminalSideError := none

theorem canonicalJsonObject_emptyObject :
    letI := compactJson
    letI := textCanonicalizer
    canonicalJsonObject (utf8 "\x7b\x7d") = .ok (.obj []) := by
  let _ := compactJson
  let _ := textCanonicalizer
  have hreads : ReadsBack (.obj []) :=
    canonicalJson_compactJson.object [] nofun List.Pairwise.nil nofun
  obtain ⟨raw, hraw, hread⟩ := hreads
  obtain rfl := Except.ok.inj hraw
  exact canonicalJsonObject_eq_ok.mpr ⟨hread, rfl⟩

theorem canonicalJsonObject_null :
    letI := compactJson
    letI := textCanonicalizer
    canonicalJsonObject (utf8 "null") = .ok .null := by
  let _ := compactJson
  let _ := textCanonicalizer
  have hread : decodeJson (utf8 "null") = .ok .null := decodeJson_encodeUtf8 "null".toList
  exact canonicalJsonObject_eq_ok.mpr ⟨hread, rfl⟩

/-- The decoder accepts a request of `null`, and the session has no result for it. -/
theorem null_request_refused :
    letI := Python.asciiDatabase
    letI := Python.plainForms
    letI := compactJson
    letI := textCanonicalizer
    (decoderWithLimit 100).decodeStream [requestStream "null"] = .ok (requestMessages "null") ∧
      ∃ err, runFixture exampleConfig (.ok ()) true
        (fun _ => .ok (returned (requestMessages "null"))) exampleDocument = .error err := by
  let _ := Python.asciiDatabase
  let _ := Python.plainForms
  let _ := compactJson
  let _ := textCanonicalizer
  refine ⟨by decide +kernel, ?_⟩
  cases hrun : runFixture exampleConfig (.ok ()) true
      (fun _ => .ok (returned (requestMessages "null"))) exampleDocument with
  | error err => exact ⟨err, rfl⟩
  | ok result =>
    obtain ⟨prepared, hprepared, -⟩ := exists_prepared
    have hrecordable : Recordable (returned (requestMessages "null")).messages :=
      (exists_runFixture_iff canonicalJson_compactJson hprepared rfl).mp ⟨result, hrun⟩
    obtain ⟨members, hmembers⟩ := hrecordable.payloads
      (.sideUpdateMessage .p1 ["|request|" ++ "null"] (utf8 "null")) (by simp [returned, requestMessages])
    rw [canonicalJsonObject_null] at hmembers
    cases hmembers

theorem recordable_emptyRequest :
    letI := compactJson
    letI := textCanonicalizer
    Recordable (requestMessages "\x7b\x7d") := by
  let _ := compactJson
  let _ := textCanonicalizer
  refine ⟨?_, by decide⟩
  intro message hmessage
  simp only [requestMessages, List.mem_cons, List.not_mem_nil, or_false] at hmessage
  rcases hmessage with rfl | rfl | rfl
  · trivial
  · exact ⟨[], canonicalJsonObject_emptyObject⟩
  · exact ⟨_, canonicalJsonObject_emptyObject⟩

/-- Where the process runner returns, the session returns a result whose identities are those of
the transcript's requests exactly when the messages are recordable. -/
theorem evidence_total_iff [Python.UnicodeDatabase] [Python.NormalForms] [JsonModule] [Rfc8785]
    (hjson : CanonicalJson) (config : ShowdownOracleConfig) (document : Json) (prepared : Prepared)
    (hprepared : prepare config document = .ok prepared)
    (run : List ProcessInteractionStep → Except OracleFailureClass OracleProcessResult)
    (processResult : OracleProcessResult) (hrun : run prepared.steps = .ok processResult) :
    ((∃ result, runFixture config (.ok ()) true run document = .ok result) ∧
        ∀ result, runFixture config (.ok ()) true run document = .ok result →
          Numbered result ∧ Corresponds result) ↔
      Recordable processResult.messages := by
  have hreturns := exists_runFixture_iff hjson hprepared hrun
  exact ⟨fun h => hreturns.mp h.1,
    fun h => ⟨hreturns.mpr h, fun result _ => ⟨numbered result, corresponds result⟩⟩⟩

/-- A request of the empty object is recorded. -/
theorem emptyRequest_total :
    letI := Python.asciiDatabase
    letI := Python.plainForms
    letI := compactJson
    letI := textCanonicalizer
    ∃ result, runFixture exampleConfig (.ok ()) true
        (fun _ => .ok (returned (requestMessages "\x7b\x7d"))) exampleDocument = .ok result ∧
      Numbered result ∧ Corresponds result := by
  let _ := Python.asciiDatabase
  let _ := Python.plainForms
  let _ := compactJson
  let _ := textCanonicalizer
  obtain ⟨prepared, hprepared, -⟩ := exists_prepared
  obtain ⟨⟨result, hresult⟩, hall⟩ := (evidence_total_iff canonicalJson_compactJson exampleConfig
    exampleDocument prepared hprepared (fun _ => .ok (returned (requestMessages "\x7b\x7d")))
    (returned (requestMessages "\x7b\x7d")) rfl).mpr recordable_emptyRequest
  exact ⟨result, hresult, hall result hresult⟩

end BattleBelief.Oracle
