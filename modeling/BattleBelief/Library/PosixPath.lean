import BattleBelief.Library.PythonText
import Mathlib.Data.List.Induction

/-!
# POSIX Paths

Paths as the lists of their parts, and where a relative path leads: `.` stays, `..` goes to the
parent, any other part goes into an entry.

- `stays_iff`: a path that starts below a directory never leaves it exactly when it climbs no higher
  than it has come down
-/

namespace Python.Posix

/-- `PurePosixPath(path).parts`, of a relative path. -/
def parts (path : String) : List String :=
  (split path "/").filter fun part => part ≠ "" && part ≠ "."

/-- The place that one part of a path leads to. -/
def step (place : List String) (part : String) : List String :=
  if part = "." then place else if part = ".." then place.dropLast else place ++ [part]

/-- The place that a path leads to. -/
def resolve (start : List String) (path : List String) : List String := path.foldl step start

/-- The path never leaves the directory `root`, however much of it has been followed. -/
def Stays (root start path : List String) : Prop :=
  ∀ followed, followed <+: path → root <+: resolve start followed

/-- How far a path goes up from where it starts, at its highest point. -/
def highestClimb : List String → Nat
  | [] => 0
  | part :: rest =>
      if part = "." then highestClimb rest
      else if part = ".." then highestClimb rest + 1
      else highestClimb rest - 1

variable {root start path : List String} {part : String}

/-- A path stays if its first part does, and what is left of it from there. -/
theorem stays_cons :
    Stays root start (part :: path) ↔ root <+: start ∧ Stays root (step start part) path := by
  constructor
  · intro h
    refine ⟨h [] List.nil_prefix, fun followed hfollowed => ?_⟩
    exact h (part :: followed) ((List.prefix_cons_inj part).mpr hfollowed)
  · rintro ⟨hstart, hrest⟩ followed hfollowed
    rcases List.prefix_cons_iff.mp hfollowed with rfl | ⟨rest, rfl, hextends⟩
    · exact hstart
    · exact hrest rest hextends

theorem stays_nil : Stays root start [] ↔ root <+: start := by
  constructor
  · intro h
    exact h [] List.nil_prefix
  · intro h followed hfollowed
    rw [List.prefix_nil.mp hfollowed]
    exact h

/-- Every path that goes on from there stays. -/
theorem Stays.starts (h : Stays root start path) : root <+: start := h [] List.nil_prefix

/-- A path stays in a directory exactly when it climbs no higher than it starts below it. -/
theorem stays_iff (hroot : root ≠ []) (below : List String) (path : List String) :
    Stays root (root ++ below) path ↔ highestClimb path ≤ below.length := by
  induction path generalizing below with
  | nil => simp [stays_nil, highestClimb]
  | cons part path ih =>
    have hstart : root <+: root ++ below := List.prefix_append root below
    rw [stays_cons, and_iff_right hstart]
    unfold step highestClimb
    by_cases hdot : part = "."
    · rw [if_pos hdot, if_pos hdot]
      exact ih below
    · rw [if_neg hdot, if_neg hdot]
      by_cases hup : part = ".."
      · rw [if_pos hup, if_pos hup]
        cases below using List.reverseRecOn with
        | nil =>
          -- up from the directory itself
          rw [List.append_nil]
          refine iff_of_false (fun h => ?_) (by simp)
          have hshort := h.starts.length_le
          rw [List.length_dropLast] at hshort
          have hpos := List.length_pos_iff.mpr hroot
          omega
        | append_singleton below last =>
          rw [← List.append_assoc, List.dropLast_concat, ih below, List.length_append,
            List.length_singleton]
          omega
      · rw [if_neg hup, if_neg hup, List.append_assoc, ih (below ++ [part]), List.length_append,
          List.length_singleton]
        omega

/-- A path that neither stays nor goes up only goes into entries. -/
theorem resolve_of_names (h : ∀ part ∈ path, part ≠ "..") :
    resolve start path = start ++ path.filter (fun part => part ≠ ".") := by
  induction path generalizing start with
  | nil => simp [resolve]
  | cons part path ih =>
    obtain ⟨hpart, hpath⟩ := List.forall_mem_cons.mp h
    have hrest : resolve start (part :: path) = resolve (step start part) path := rfl
    rw [hrest, ih hpath, step]
    by_cases hdot : part = "."
    · rw [if_pos hdot, List.filter_cons_of_neg (by simpa using hdot)]
    · rw [if_neg hdot, if_neg hpart, List.filter_cons_of_pos (by simpa using hdot), List.append_assoc]
      rfl

/-- A path splits into the names that it was put together from. -/
theorem split_join {names : List String} (hne : names ≠ [])
    (hnames : ∀ name ∈ names, '/' ∉ name.toList) : split (join "/" names) "/" = names := by
  induction names with
  | nil => exact absurd rfl hne
  | cons name rest ih =>
    have hname := hnames name List.mem_cons_self
    have hsep : "/".toList = ['/'] := rfl
    cases rest with
    | nil =>
      have hfree : ¬['/'] <:+: name.toList := by
        intro hwithin
        exact hname (hwithin.mem (List.mem_singleton_self _))
      rw [join, split, hsep, splitChars_of_not_infix hfree, List.map_singleton]
      simp
    | cons next rest =>
      have hrest := ih (List.cons_ne_nil _ _) fun name hname =>
        hnames name (List.mem_cons_of_mem _ hname)
      have htext : (join "/" (name :: next :: rest)).toList =
          name.toList ++ '/' :: (join "/" (next :: rest)).toList := by
        rw [join]
        · simp
        · simp
      rw [split, htext, hsep, splitChars_singleton hname, List.map_cons]
      rw [split, hsep] at hrest
      rw [hrest]
      simp

/-- The parts of a path are the names that it was put together from. -/
theorem parts_join {names : List String} (hne : names ≠ [])
    (hnames : ∀ name ∈ names, name ≠ "" ∧ name ≠ "." ∧ '/' ∉ name.toList) :
    parts (join "/" names) = names := by
  rw [parts, split_join hne fun name hname => (hnames name hname).2.2, List.filter_eq_self]
  intro name hname
  simp [(hnames name hname).1, (hnames name hname).2.1]

/-- A separator of one character always splits. -/
theorem splitChars_append_singleton (sep : Char) (before field after : List Char) :
    splitChars [sep] 0 field (before ++ sep :: after) =
      splitChars [sep] 0 field before ++ splitChars [sep] 0 [] after := by
  induction before generalizing field with
  | nil => simp [splitChars]
  | cons c rest ih =>
    simp only [List.cons_append, splitChars, List.length_singleton, Nat.sub_self, List.isPrefixOf,
      Bool.and_true, beq_iff_eq]
    split_ifs
    · rw [ih, List.cons_append]
    · exact ih (c :: field)

/-- The parts of a path below another are those of the one and of the other. -/
theorem parts_append (first second : String) :
    parts (first ++ "/" ++ second) = parts first ++ parts second := by
  have htext : (first ++ "/" ++ second).toList = first.toList ++ '/' :: second.toList := by simp
  have hsep : "/".toList = ['/'] := rfl
  rw [parts, split, htext, hsep, splitChars_append_singleton, List.map_append, List.filter_append]
  rfl

theorem join_cons_cons (sep first next : String) (rest : List String) :
    join sep (first :: next :: rest) = first ++ sep ++ join sep (next :: rest) := by
  rw [join]
  simp

theorem join_concat {names : List String} (hne : names ≠ []) (name : String) :
    join "/" (names ++ [name]) = join "/" names ++ "/" ++ name := by
  induction names with
  | nil => exact absurd rfl hne
  | cons first rest ih =>
    cases rest with
    | nil => rfl
    | cons next rest =>
      have hrest := ih (List.cons_ne_nil _ _)
      rw [List.cons_append] at hrest
      rw [List.cons_append, List.cons_append, join_cons_cons, hrest, join_cons_cons]
      simp only [String.append_assoc]

end Python.Posix
