import Mathlib.Data.List.Lex
import Mathlib.Data.List.Sort

/-!
# The Order of Paths

Paths over an ordered alphabet: lists of names, written with a separator between them. A walk that
visits each directory by name lists its paths in the order of the lists of names; sorting puts them
in the order of their texts.

- `written_lt_iff`: the two orders agree on two paths, neither of them below the other, unless one
  `Straddles` the other
- `pairwise_written_lt_iff`: a list in the first order is in the second one exactly when no path in
  it straddles another
-/

namespace PathOrder

variable {α : Type*} [LinearOrder α]

/-- The text of a path. -/
def written (sep : α) : List (List α) → List α
  | [] => []
  | [name] => name
  | name :: next :: rest => name ++ sep :: written sep (next :: rest)

/-- The first path goes below a name, and the second one has a longer name beside it, which goes on
below the separator. -/
inductive Straddles (sep : α) : List (List α) → List (List α) → Prop where
  | beside {name suffix : List α} {c : α} {below rest : List (List α)} :
      below ≠ [] → c < sep → Straddles sep (name :: below) ((name ++ c :: suffix) :: rest)
  | within (name : List α) {path other : List (List α)} :
      Straddles sep path other → Straddles sep (name :: path) (name :: other)

variable {sep : α}

/-! ## §1 One Step into a Directory -/

omit [LinearOrder α] in
theorem written_cons {name : List α} {below : List (List α)} (h : below ≠ []) :
    written sep (name :: below) = name ++ sep :: written sep below := by
  cases below with
  | nil => exact absurd rfl h
  | cons next rest => rfl

omit [LinearOrder α] in
/-- A name is where a path's text starts. -/
theorem exists_written (sep : α) (name : List α) (below : List (List α)) :
    ∃ tail, written sep (name :: below) = name ++ tail := by
  cases below with
  | nil => exact ⟨[], (List.append_nil name).symm⟩
  | cons next rest => exact ⟨_, rfl⟩

omit [LinearOrder α] in
/-- The first separator of a text splits it in one way. -/
theorem append_sep_inj {name first tail rest : List α} (hname : sep ∉ name) (hfirst : sep ∉ first)
    (h : name ++ sep :: tail = first ++ sep :: rest) : name = first ∧ tail = rest := by
  rcases List.append_eq_append_iff.mp h with ⟨middle, hmiddle, htail⟩ | ⟨middle, hmiddle, htail⟩
  all_goals
    cases middle with
    | nil => simp_all
    | cons c middle =>
      -- the separator would be in the longer of the two names
      simp only [List.cons_append, List.cons.injEq] at htail
      simp_all

omit [LinearOrder α] in
/-- Paths whose names do not hold the separator have different texts. -/
theorem written_injective {path other : List (List α)} (hpath : ∀ name ∈ path, sep ∉ name)
    (hother : ∀ name ∈ other, sep ∉ name) (hne : path ≠ []) (hne' : other ≠ [])
    (h : written sep path = written sep other) : path = other := by
  induction path generalizing other with
  | nil => exact absurd rfl hne
  | cons name below ih =>
    obtain ⟨first, rest, rfl⟩ := List.exists_cons_of_ne_nil hne'
    have hname := hpath name List.mem_cons_self
    have hfirst := hother first List.mem_cons_self
    -- the first name is the text up to the first separator
    by_cases hbelow : below = [] <;> by_cases hrest : rest = []
    · subst hbelow hrest
      exact congrArg (fun text => [text]) h
    · subst hbelow
      rw [written_cons hrest, written] at h
      refine absurd ?_ hname
      rw [h]
      simp
    · subst hrest
      rw [written_cons hbelow, written] at h
      refine absurd ?_ hfirst
      rw [← h]
      simp
    · rw [written_cons hbelow, written_cons hrest] at h
      obtain ⟨rfl, htail⟩ := append_sep_inj hname hfirst h
      rw [ih (fun name hname => hpath name (List.mem_cons_of_mem _ hname))
        (fun name hname => hother name (List.mem_cons_of_mem _ hname)) hbelow hrest htail]

theorem append_lt_append_left (start : List α) {first second : List α} :
    start ++ first < start ++ second ↔ first < second := by
  induction start with
  | nil => exact Iff.rfl
  | cons c start ih => rw [List.cons_append, List.cons_append, List.cons_lt_cons_self, ih]

/-- What straddling comes to, one name at a time. -/
theorem straddles_cons_cons {name other : List α} {below rest : List (List α)} :
    Straddles sep (name :: below) (other :: rest) ↔
      (below ≠ [] ∧ ∃ c suffix, other = name ++ c :: suffix ∧ c < sep) ∨
        (name = other ∧ Straddles sep below rest) := by
  constructor
  · intro h
    cases h with
    | beside hbelow hc => exact .inl ⟨hbelow, _, _, rfl, hc⟩
    | within _ h => exact .inr ⟨rfl, h⟩
  · rintro (⟨hbelow, c, suffix, rfl, hc⟩ | ⟨rfl, h⟩)
    · exact .beside hbelow hc
    · exact .within name h

/-- Below one name, a path straddles another as what is below does. -/
theorem straddles_cons {name : List α} {below rest : List (List α)} :
    Straddles sep (name :: below) (name :: rest) ↔ Straddles sep below rest := by
  rw [straddles_cons_cons]
  simp

/-- Of two names in order, the first one is the start of the second one, or they part at a
character. -/
theorem prefix_or_parts {name other : List α} (h : name < other) :
    (∃ c suffix, other = name ++ c :: suffix) ∨
      ∃ start c d suffix suffix', name = start ++ c :: suffix ∧ other = start ++ d :: suffix' ∧
        c < d := by
  induction (List.lt_iff_lex_lt _ _).mp h with
  | nil => exact .inl ⟨_, _, rfl⟩
  | rel hlt => exact .inr ⟨[], _, _, _, _, rfl, rfl, hlt⟩
  | @cons c first second hlex ih =>
    rcases ih ((List.lt_iff_lex_lt _ _).mpr hlex) with ⟨d, suffix, rfl⟩ | ⟨start, d, e, x, y, rfl, rfl, hlt⟩
    · exact .inl ⟨d, suffix, rfl⟩
    · exact .inr ⟨c :: start, d, e, x, y, rfl, rfl, hlt⟩

/-! ## §2 The Two Orders -/

theorem lt_append_cons (name : List α) (c : α) (suffix : List α) : name < name ++ c :: suffix := by
  have h : name ++ [] < name ++ c :: suffix :=
    (append_lt_append_left name).mpr (List.nil_lt_cons c suffix)
  rwa [List.append_nil] at h

/-- A path in an entry, and one in an entry beside it with a longer name. -/
theorem written_lt_of_longer {name suffix : List α} {c : α} {below rest : List (List α)}
    (hc : c ≠ sep) :
    written sep (name :: below) < written sep ((name ++ c :: suffix) :: rest) ↔
      below = [] ∨ sep < c := by
  obtain ⟨tail, htail⟩ := exists_written sep (name ++ c :: suffix) rest
  rw [htail, List.append_assoc, List.cons_append]
  cases below with
  | nil => exact iff_of_true (lt_append_cons name c (suffix ++ tail)) (.inl rfl)
  | cons next below =>
    rw [written_cons (List.cons_ne_nil _ _), append_lt_append_left, List.cons_lt_cons_iff]
    constructor
    · rintro (hlt | ⟨heq, _⟩)
      · exact .inr hlt
      · exact absurd heq.symm hc
    · rintro (hnil | hlt)
      · exact absurd hnil (List.cons_ne_nil _ _)
      · exact .inl hlt

/-- Two paths in different entries of one directory. -/
theorem written_lt_of_name_lt {name other : List α} {below rest : List (List α)}
    (hsep : sep ∉ other) (h : name < other) :
    written sep (name :: below) < written sep (other :: rest) ↔
      ¬Straddles sep (name :: below) (other :: rest) := by
  have hcases : Straddles sep (name :: below) (other :: rest) ↔ _ := straddles_cons_cons
  simp only [h.ne, false_and, or_false] at hcases
  rw [hcases]
  rcases prefix_or_parts h with ⟨c, suffix, rfl⟩ | ⟨start, c, d, x, y, rfl, rfl, hcd⟩
  · -- a longer name: its next character is above or below the separator
    have hc : c ≠ sep := by
      rintro rfl
      exact hsep (by simp)
    rw [written_lt_of_longer hc]
    constructor
    · rintro hor ⟨hbelow, d, suffix', heq, hlow⟩
      have hcons := List.append_cancel_left heq
      simp only [List.cons.injEq] at hcons
      obtain ⟨rfl, _⟩ := hcons
      exact lt_asymm (hor.resolve_left hbelow) hlow
    · intro hnone
      by_cases hbelow : below = []
      · exact .inl hbelow
      · refine .inr ((lt_or_gt_of_ne hc).resolve_left fun hlow => ?_)
        exact hnone ⟨hbelow, c, suffix, rfl, hlow⟩
  · -- the names part, and so do the texts
    obtain ⟨tail, htail⟩ := exists_written sep (start ++ c :: x) below
    obtain ⟨tail', htail'⟩ := exists_written sep (start ++ d :: y) rest
    rw [htail, htail', List.append_assoc, List.append_assoc, append_lt_append_left]
    refine iff_of_true (List.cons_lt_cons_iff.mpr (.inl hcd)) ?_
    rintro ⟨_, e, suffix, heq, _⟩
    rw [List.append_assoc] at heq
    have hcons := List.append_cancel_left heq
    simp only [List.cons_append, List.cons.injEq] at hcons
    exact hcd.ne hcons.1.symm

/-- Two paths, neither of them below the other. -/
theorem written_lt_iff {path other : List (List α)} (hsep : ∀ name ∈ other, sep ∉ name)
    (hpath : ¬path <+: other) (h : path < other) :
    written sep path < written sep other ↔ ¬Straddles sep path other := by
  induction (List.lt_iff_lex_lt _ _).mp h with
  | nil => exact absurd List.nil_prefix hpath
  | rel hlt => exact written_lt_of_name_lt (hsep _ List.mem_cons_self) hlt
  | @cons name path other hlex ih =>
    have hbelow : ¬path <+: other := fun hextends => hpath ((List.prefix_cons_inj name).mpr hextends)
    have hne : path ≠ [] := by
      rintro rfl
      exact hbelow List.nil_prefix
    have hne' : other ≠ [] := by
      rintro rfl
      cases hlex
    rw [straddles_cons, written_cons hne, written_cons hne', append_lt_append_left,
      List.cons_lt_cons_self]
    exact ih (fun name hname => hsep name (List.mem_cons_of_mem _ hname)) hbelow
      ((List.lt_iff_lex_lt _ _).mpr hlex)

/-- A path that straddles another comes first in the order of names. -/
theorem Straddles.lt {path other : List (List α)} (h : Straddles sep path other) : path < other := by
  induction h with
  | beside _ _ => exact List.cons_lt_cons_iff.mpr (.inl (lt_append_cons _ _ _))
  | within name _ ih => exact List.cons_lt_cons_self.mpr ih

/-- Paths in the order of their names are in the order of their texts exactly when none straddles
another. -/
theorem pairwise_written_lt_iff {paths : List (List (List α))} (hlt : paths.Pairwise (· < ·))
    (hsep : ∀ path ∈ paths, ∀ name ∈ path, sep ∉ name)
    (hapart : ∀ path ∈ paths, ∀ other ∈ paths, path <+: other → path = other) :
    (paths.map (written sep)).Pairwise (· < ·) ↔
      ∀ path ∈ paths, ∀ other ∈ paths, ¬Straddles sep path other := by
  have hiff : ∀ path ∈ paths, ∀ other ∈ paths, path < other →
      (written sep path < written sep other ↔ ¬Straddles sep path other) := by
    intro path hpath other hother hlt
    exact written_lt_iff (hsep other hother)
      (fun hextends => hlt.ne (hapart path hpath other hother hextends)) hlt
  rw [List.pairwise_map]
  constructor
  · intro hwritten path hpath other hother hstraddles
    -- of two members in the order of names, the texts are in order
    have hmono : ∀ ⦃path⦄, path ∈ paths → ∀ ⦃other⦄, other ∈ paths → path < other →
        written sep path < written sep other := by
      apply List.Pairwise.forall_of_forall_of_flip
      · intro path _ hself
        exact absurd hself (lt_irrefl _)
      · refine hwritten.imp ?_
        intro path other hlt _
        exact hlt
      · refine hlt.imp ?_
        intro path other hlt hback
        exact absurd hback (lt_asymm hlt)
    exact (hiff path hpath other hother hstraddles.lt).mp
      (hmono hpath hother hstraddles.lt) hstraddles
  · intro hnone
    refine (List.Pairwise.and_mem.mp hlt).imp ?_
    rintro path other ⟨hpath, hother, hlt⟩
    exact (hiff path hpath other hother hlt).mpr (hnone path hpath other hother)

end PathOrder
