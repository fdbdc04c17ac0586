import BattleBelief.Library.Runs

/-!
# Hash Chains

A history grows by one entry at a time. It is named by the digest of a document that tells the latest
entry and names the history before it.

- `chain_eq_iff`: where no two documents of two histories collide, the histories have one digest
  exactly when they are the same
-/

namespace HashChain

open Runs (bind_eq_ok)

universe u

variable {ρ π δ : Type*} {κ : Type u} {ε : Type*}

/-- A history: what it starts with, and its entries, the latest one first. -/
structure History (ρ π : Type*) where
  start : ρ
  entries : List π

/-- The documents of histories. From a document everything that it tells can be read off. -/
structure Format (ρ π δ κ : Type*) where
  first : ρ → δ
  next : κ → π → δ
  first_injective : Function.Injective first
  next_injective : ∀ {key key' entry entry'}, next key entry = next key' entry' →
    key = key' ∧ entry = entry'
  first_ne_next : ∀ start key entry, first start ≠ next key entry

/-- No two different documents of `S` have the same digest. -/
def CollisionFree (hash : δ → Except ε κ) (S : δ → Prop) : Prop :=
  ∀ document other key, S document → S other → hash document = .ok key → hash other = .ok key →
    document = other

theorem CollisionFree.mono {hash : δ → Except ε κ} {S S' : δ → Prop} (h : CollisionFree hash S)
    (hsub : ∀ document, S' document → S document) : CollisionFree hash S' :=
  fun document other key hdocument hother => h document other key (hsub _ hdocument) (hsub _ hother)

/-- Lists of documents with the same digests are the same list. -/
theorem CollisionFree.eq_of_digests {hash : δ → Except ε κ} {S : δ → Prop} (h : CollisionFree hash S)
    {documents others : List δ} {keys : List κ}
    (hdocuments : List.Forall₂ (fun document key => hash document = .ok key) documents keys)
    (hothers : List.Forall₂ (fun document key => hash document = .ok key) others keys)
    (hmem : ∀ document ∈ documents, S document) (hmem' : ∀ document ∈ others, S document) :
    documents = others := by
  induction hdocuments generalizing others with
  | nil =>
    cases hothers
    rfl
  | cons hhead _ ih =>
    cases hothers with
    | cons hother hrest =>
      rw [List.forall_mem_cons] at hmem hmem'
      rw [h _ _ _ hmem.1 hmem'.1 hhead hother, ih hrest hmem.2 hmem'.2]

section Chains

variable (format : Format ρ π δ κ) (hash : δ → Except ε κ)

/-- The digest of a history with this start and these entries. -/
def chain (start : ρ) : List π → Except ε κ
  | [] => hash (format.first start)
  | entry :: earlier => do
      let prior ← chain start earlier
      hash (format.next prior entry)

/-- The documents that go into that digest. -/
inductive IsDocument (start : ρ) : List π → δ → Prop
  | first {entries : List π} : IsDocument start entries (format.first start)
  | next {entries : List π} {prior : κ} {entry : π} {earlier : List π}
      (suffix : (entry :: earlier) <:+ entries) (digest : chain format hash start earlier = .ok prior) :
      IsDocument start entries (format.next prior entry)

variable {format hash}

theorem IsDocument.cons {start : ρ} {entries : List π} {document : δ}
    (h : IsDocument format hash start entries document) (entry : π) :
    IsDocument format hash start (entry :: entries) document := by
  cases h with
  | first => exact .first
  | next suffix digest => exact .next (suffix.trans (List.suffix_cons entry entries)) digest

/-- The last document of a history. -/
theorem chain_eq_ok {start : ρ} {entries : List π} {key : κ} (h : chain format hash start entries = .ok key) :
    ∃ document, IsDocument format hash start entries document ∧ hash document = .ok key := by
  cases entries with
  | nil => exact ⟨_, .first, h⟩
  | cons entry earlier =>
    obtain ⟨prior, hprior, hkey⟩ := bind_eq_ok.mp h
    exact ⟨_, .next (List.suffix_refl _) hprior, hkey⟩

variable {start start' : ρ}

/-- Histories are the same when they have one digest. -/
theorem chain_injective {entries entries' : List π} {key : κ}
    (hfree : CollisionFree hash fun document => IsDocument format hash start entries document ∨
      IsDocument format hash start' entries' document)
    (h : chain format hash start entries = .ok key) (h' : chain format hash start' entries' = .ok key) :
    start = start' ∧ entries = entries' := by
  induction entries generalizing entries' key with
  | nil =>
    cases entries' with
    | nil =>
      have hsame := hfree _ _ key (.inl .first) (.inr .first) h h'
      exact ⟨format.first_injective hsame, rfl⟩
    | cons entry' earlier' =>
      obtain ⟨prior', hprior', hkey'⟩ := bind_eq_ok.mp h'
      have hsame := hfree _ _ key (.inl .first) (.inr (.next (List.suffix_refl _) hprior')) h hkey'
      exact absurd hsame (format.first_ne_next _ _ _)
  | cons entry earlier ih =>
    obtain ⟨prior, hprior, hkey⟩ := bind_eq_ok.mp h
    cases entries' with
    | nil =>
      have hsame := hfree _ _ key (.inl (.next (List.suffix_refl _) hprior)) (.inr .first) hkey h'
      exact absurd hsame.symm (format.first_ne_next _ _ _)
    | cons entry' earlier' =>
      obtain ⟨prior', hprior', hkey'⟩ := bind_eq_ok.mp h'
      have hsame := hfree _ _ key (.inl (.next (List.suffix_refl _) hprior))
        (.inr (.next (List.suffix_refl _) hprior')) hkey hkey'
      obtain ⟨rfl, rfl⟩ := format.next_injective hsame
      -- the histories before have one digest as well
      have hearlier : CollisionFree hash fun document => IsDocument format hash start earlier document ∨
          IsDocument format hash start' earlier' document :=
        hfree.mono fun document hdocument => hdocument.imp (·.cons _) (·.cons _)
      obtain ⟨hstart, rfl⟩ := ih hearlier hprior hprior'
      exact ⟨hstart, rfl⟩

/-- Histories have one digest exactly when they are the same. -/
theorem chain_eq_iff {entries entries' : List π} {key key' : κ}
    (hfree : CollisionFree hash fun document => IsDocument format hash start entries document ∨
      IsDocument format hash start' entries' document)
    (h : chain format hash start entries = .ok key)
    (h' : chain format hash start' entries' = .ok key') :
    key = key' ↔ start = start' ∧ entries = entries' := by
  constructor
  · rintro rfl
    exact chain_injective hfree h h'
  · rintro ⟨rfl, rfl⟩
    exact Except.ok.inj (h.symm.trans h')

end Chains

end HashChain
