import Mathlib.Data.List.Basic
import Mathlib.Data.List.Infix

/-!
# Delimited Streams

A stream of symbols that is cut at every occurrence of a delimiter, from left to right. What is
left behind the last delimiter may grow into a piece when more of the stream arrives.

- `cut`: the text before and after the first delimiter
- `Cuts`: the pieces of a text and what is left behind them
- `Cuts.append`: cutting as the stream arrives gives the pieces of the whole stream
- `length_residue_lt`: what is left is shorter than the piece that it becomes, with its delimiter
- `cuts_terminated_append`, `cuts_of_prefix`: pieces with a terminator behind each, and what has
  arrived of one
-/

namespace Delimiters

variable {α : Type*} [DecidableEq α]

/-! ## Section 1: The first delimiter -/

/-- The text before and after the first `delimiter`. -/
def cut (delimiter : List α) : List α → Option (List α × List α)
  | [] => none
  | a :: text =>
      if delimiter.isPrefixOf (a :: text) then some ([], (a :: text).drop delimiter.length)
      else (cut delimiter text).map fun (before, after) => (a :: before, after)

variable {delimiter text more before after : List α}

/-- The two parts are what stands around the delimiter. -/
theorem append_of_cut (h : cut delimiter text = some (before, after)) :
    text = before ++ (delimiter ++ after) := by
  induction text generalizing before after with
  | nil => cases h
  | cons a text ih =>
    rw [cut] at h
    split_ifs at h with hprefix
    · cases h
      exact (List.prefix_iff_eq_append.mp (List.isPrefixOf_iff_prefix.mp hprefix)).symm
    · obtain ⟨⟨front, back⟩, hcut, heq⟩ := Option.map_eq_some_iff.mp h
      cases heq
      rw [ih hcut]
      rfl

/-- The first delimiter stays the first one when more arrives. -/
theorem cut_append (h : cut delimiter text = some (before, after)) (more : List α) :
    cut delimiter (text ++ more) = some (before, after ++ more) := by
  induction text generalizing before after with
  | nil => cases h
  | cons a text ih =>
    rw [cut] at h
    rw [List.cons_append, cut]
    split_ifs at h with hprefix
    · cases h
      have hle := (List.isPrefixOf_iff_prefix.mp hprefix).length_le
      have hlonger : delimiter.isPrefixOf (a :: (text ++ more)) = true :=
        List.isPrefixOf_iff_prefix.mpr
          ((List.isPrefixOf_iff_prefix.mp hprefix).trans (List.prefix_append (a :: text) more))
      rw [if_pos hlonger, ← List.cons_append, List.drop_append_of_le_length hle]
    · obtain ⟨⟨front, back⟩, hcut, heq⟩ := Option.map_eq_some_iff.mp h
      cases heq
      -- a delimiter that begins here would have to reach beyond the one that is found later
      have hnot : ¬delimiter.isPrefixOf (a :: (text ++ more)) = true := by
        intro hlonger
        have hfits : delimiter.length ≤ (a :: text).length := by
          have hlength := congrArg List.length (append_of_cut hcut)
          simp only [List.length_append] at hlength
          simp only [List.length_cons]
          omega
        exact hprefix (List.isPrefixOf_iff_prefix.mpr (List.prefix_of_prefix_length_le
          (List.isPrefixOf_iff_prefix.mp hlonger) (List.prefix_append (a :: text) more) hfits))
      rw [if_neg hnot, ih hcut]
      rfl

/-- A text with a delimiter in it is cut. -/
theorem cut_ne_none (hdelimiter : delimiter ≠ []) (before after : List α) :
    cut delimiter (before ++ (delimiter ++ after)) ≠ none := by
  induction before with
  | nil =>
    obtain ⟨a, rest, rfl⟩ := List.exists_cons_of_ne_nil hdelimiter
    have hprefix : (a :: rest).isPrefixOf (a :: (rest ++ after)) = true :=
      List.isPrefixOf_iff_prefix.mpr (List.prefix_append (a :: rest) after)
    rw [List.nil_append, List.cons_append, cut, if_pos hprefix]
    exact nofun
  | cons a before ih =>
    rw [List.cons_append, cut]
    split_ifs
    · exact nofun
    · rw [Ne, Option.map_eq_none_iff]
      exact ih

/-- The first piece does not depend on what comes after it. -/
theorem cut_of_append (hdelimiter : delimiter ≠ [])
    (h : cut delimiter (before ++ (delimiter ++ (text ++ more))) = some (before, text ++ more)) :
    cut delimiter (before ++ (delimiter ++ text)) = some (before, text) := by
  obtain ⟨⟨front, back⟩, hcut⟩ :=
    Option.ne_none_iff_exists'.mp (cut_ne_none hdelimiter before text)
  have hlonger := cut_append hcut more
  simp only [List.append_assoc] at hlonger
  obtain ⟨rfl, hback⟩ := Prod.mk.inj (Option.some.inj (hlonger.symm.trans h))
  rw [hcut, List.append_cancel_right hback]

/-- As long as a text is shorter than its first piece with the delimiter, it has no delimiter. -/
theorem cut_eq_none_of_short (h : cut delimiter (text ++ more) = some (before, after))
    (hshort : text.length < before.length + delimiter.length) : cut delimiter text = none := by
  cases hcut : cut delimiter text with
  | none => rfl
  | some parts =>
    obtain ⟨front, back⟩ := parts
    have hsame := (cut_append hcut more).symm.trans h
    obtain ⟨rfl, -⟩ := Prod.mk.inj (Option.some.inj hsame)
    have hlength := congrArg List.length (append_of_cut hcut)
    simp only [List.length_append] at hlength
    omega

/-- What has no delimiter yet is shorter than the piece that it becomes, with the delimiter. -/
theorem length_residue_lt (hdelimiter : delimiter ≠ []) (hnone : cut delimiter text = none)
    (h : cut delimiter (text ++ more) = some (before, after)) :
    text.length < before.length + delimiter.length := by
  by_contra hlong
  have hle : (before ++ delimiter).length ≤ text.length := by
    rw [List.length_append]
    omega
  have hprefix : before ++ delimiter <+: text := by
    refine List.prefix_of_prefix_length_le ?_ (List.prefix_append text more) hle
    rw [append_of_cut h, ← List.append_assoc]
    exact List.prefix_append _ _
  obtain ⟨rest, rfl⟩ := hprefix
  rw [List.append_assoc] at hnone
  exact cut_ne_none hdelimiter before rest hnone

/-! ## Section 2: All pieces -/

/-- The text is these pieces, each with a delimiter behind it, and a rest without a delimiter. -/
inductive Cuts (delimiter : List α) : List α → List (List α) → List α → Prop where
  | rest {text : List α} (h : cut delimiter text = none) : Cuts delimiter text [] text
  | piece {text before after rest : List α} {pieces : List (List α)}
      (h : cut delimiter text = some (before, after)) (hafter : Cuts delimiter after pieces rest) :
      Cuts delimiter text (before :: pieces) rest

variable {pieces pieces' : List (List α)} {rest rest' : List α}

theorem Cuts.cut_rest (h : Cuts delimiter text pieces rest) : cut delimiter rest = none := by
  induction h with
  | rest h => exact h
  | piece h hafter ih => exact ih

/-- Nothing of the text is lost, and nothing is used twice. -/
theorem Cuts.text_eq (h : Cuts delimiter text pieces rest) :
    text = pieces.flatMap (· ++ delimiter) ++ rest := by
  induction h with
  | rest h => rfl
  | piece h hafter ih =>
    rw [append_of_cut h, ih, List.flatMap_cons]
    simp only [List.append_assoc]

/-- There is one way to cut a text. -/
theorem Cuts.unique (h : Cuts delimiter text pieces rest) (h' : Cuts delimiter text pieces' rest') :
    pieces = pieces' ∧ rest = rest' := by
  induction h generalizing pieces' rest' with
  | rest hnone =>
    cases h' with
    | rest _ => exact ⟨rfl, rfl⟩
    | piece hcut _ =>
      rw [hnone] at hcut
      cases hcut
  | piece hcut hafter ih =>
    cases h' with
    | rest hnone =>
      rw [hnone] at hcut
      cases hcut
    | piece hcut' hafter' =>
      obtain ⟨rfl, rfl⟩ := Prod.mk.inj (Option.some.inj (hcut.symm.trans hcut'))
      obtain ⟨rfl, rfl⟩ := ih hafter'
      exact ⟨rfl, rfl⟩

/-- Every text can be cut. -/
theorem exists_cuts (hdelimiter : delimiter ≠ []) (text : List α) :
    ∃ pieces rest, Cuts delimiter text pieces rest := by
  induction hlength : text.length using Nat.strongRecOn generalizing text with
  | ind n ih =>
    cases hcut : cut delimiter text with
    | none => exact ⟨[], text, .rest hcut⟩
    | some parts =>
      obtain ⟨before, after⟩ := parts
      have hshorter : after.length < n := by
        have hsum := congrArg List.length (append_of_cut hcut)
        have hpos := List.length_pos_of_ne_nil hdelimiter
        simp only [List.length_append] at hsum
        omega
      obtain ⟨pieces, rest, hafter⟩ := ih after.length hshorter after rfl
      exact ⟨before :: pieces, rest, .piece hcut hafter⟩

/-- Cutting goes on from what was left. -/
theorem Cuts.append (h : Cuts delimiter text pieces rest)
    (hmore : Cuts delimiter (rest ++ more) pieces' rest') :
    Cuts delimiter (text ++ more) (pieces ++ pieces') rest' := by
  induction h with
  | rest _ => exact hmore
  | piece hcut hafter ih => exact .piece (cut_append hcut more) (ih hmore)

/-- What is left of a text is shorter than the next piece of a longer one, with its delimiter. -/
theorem Cuts.length_rest_lt (hdelimiter : delimiter ≠ []) (h : Cuts delimiter text pieces rest)
    (hwhole : Cuts delimiter (text ++ more) pieces' []) (hrest : rest ≠ []) :
    ∃ piece ∈ pieces', rest.length < piece.length + delimiter.length := by
  obtain ⟨later, left, hmore⟩ := exists_cuts hdelimiter (rest ++ more)
  obtain ⟨rfl, rfl⟩ := (h.append hmore).unique hwhole
  generalize htext : rest ++ more = whole at hmore
  cases hmore with
  | rest hnone => exact absurd (List.append_eq_nil_iff.mp htext).1 hrest
  | piece hcut hafter =>
    rw [← htext] at hcut
    exact ⟨_, List.mem_append_right _ List.mem_cons_self,
      length_residue_lt hdelimiter h.cut_rest hcut⟩

/-- A text can be cut off right before the end of any of its delimiters. -/
theorem Cuts.exists_prefix {last : α} {delimiter : List α}
    (h : Cuts (delimiter ++ [last]) text pieces rest) {piece : List α} (hpiece : piece ∈ pieces) :
    ∃ front more earlier, text = front ++ more ∧
      Cuts (delimiter ++ [last]) front earlier (piece ++ delimiter) := by
  induction h with
  | rest _ => cases hpiece
  | piece hcut hafter ih =>
    rename_i text before after rest pieces
    rcases List.mem_cons.mp hpiece with rfl | hlater
    · refine ⟨piece ++ delimiter, last :: after, [], ?_, .rest ?_⟩
      · rw [append_of_cut hcut]
        simp
      · have hsplit : text = (piece ++ delimiter) ++ (last :: after) := by
          rw [append_of_cut hcut]
          simp
        rw [hsplit] at hcut
        refine cut_eq_none_of_short hcut ?_
        simp
    · obtain ⟨front, more, earlier, rfl, hfront⟩ := ih hlater
      have hsplit : text = (before ++ (delimiter ++ [last]) ++ front) ++ more := by
        rw [append_of_cut hcut]
        simp
      rw [hsplit] at hcut
      simp only [List.append_assoc before, List.append_assoc (delimiter ++ [last])] at hcut
      have hfirst := cut_of_append (by simp) hcut
      rw [← List.append_assoc] at hfirst
      exact ⟨_, more, before :: earlier, hsplit, .piece hfirst hfront⟩

/-! ## Section 3: Terminated pieces -/

variable {terminator : α} {piece : List α} {arrived : List (List α)}

/-- There is nothing to cut at in a text without the terminator. -/
theorem cut_eq_none_of_notMem (h : terminator ∉ text) : cut [terminator] text = none := by
  induction text with
  | nil => rfl
  | cons a text ih =>
    rw [List.mem_cons, not_or] at h
    simp [cut, h.1, ih h.2]

/-- A text without the terminator goes up to the first one. -/
theorem cut_terminated (h : terminator ∉ before) (after : List α) :
    cut [terminator] (before ++ terminator :: after) = some (before, after) := by
  induction before with
  | nil => simp [cut]
  | cons a before ih =>
    rw [List.mem_cons, not_or] at h
    simp [cut, h.1, ih h.2]

/-- Pieces without the terminator are cut off one by one. -/
theorem cuts_terminated_append (hpieces : ∀ piece ∈ pieces, terminator ∉ piece)
    (h : Cuts [terminator] text arrived rest) :
    Cuts [terminator] (pieces.flatMap (· ++ [terminator]) ++ text) (pieces ++ arrived) rest := by
  induction pieces with
  | nil => exact h
  | cons piece pieces ih =>
    rw [List.forall_mem_cons] at hpieces
    have hcut := cut_terminated hpieces.1 (pieces.flatMap (· ++ [terminator]) ++ text)
    simpa using Cuts.piece hcut (ih hpieces.2)

/-- What has arrived of a piece with its terminator is all of it, or a beginning of the piece. -/
theorem cuts_of_prefix (hpiece : terminator ∉ piece) (h : text <+: piece ++ [terminator]) :
    Cuts [terminator] text [piece] [] ∨ Cuts [terminator] text [] text ∧ text <+: piece := by
  rcases List.prefix_concat_iff.mp h with rfl | hwithin
  · left
    exact .piece (cut_terminated hpiece []) (.rest rfl)
  · right
    have hfree : terminator ∉ text := fun hmem => hpiece (hwithin.subset hmem)
    exact ⟨.rest (cut_eq_none_of_notMem hfree), hwithin⟩

end Delimiters
