import BattleBelief.Library.PythonDict
import BattleBelief.Library.Worklist

/-!
# The Search for Orphans

Where no job holds the simulator's processes, `_windows_has_descendant` takes a snapshot of the
process table and `_has_recursive_descendant` follows the creator links in it. Process identifiers are
used again, so the links may form cycles and may lead back to the parent itself.

- `orphan_search_exact`: the search finds each descendant of the parent once, and answers whether
  there is one
-/

namespace BattleBelief.Oracle.OrphanSearch

open Relation
open Python

abbrev Pid := Int

/-- `parent_by_pid.items()`: each process with its creator. -/
abbrev ParentByPid := List (Pid × Pid)

/-- The processes that the inner loop does not pass over for their creator. -/
def children (parentByPid : ParentByPid) (ancestor : Pid) : List Pid :=
  (parentByPid.filter fun item => item.2 = ancestor).map Prod.fst

theorem mem_children {parentByPid : ParentByPid} {ancestor child : Pid} :
    child ∈ children parentByPid ancestor ↔ (child, ancestor) ∈ parentByPid := by
  simp [children]

/-- The creator links, from the creator on. -/
def creatorLinks (parentByPid : ParentByPid) : Worklist.Graph Pid where
  successors := children parentByPid
  vertices := Dict.keys parentByPid
  closed _ _ h := List.mem_map_of_mem (mem_children.mp h)

/-- `descendants`, when the loop of `_has_recursive_descendant` has ended. -/
def descendants (parentPid : Pid) (parentByPid : ParentByPid) : List Pid :=
  ((creatorLinks parentByPid).run (.start parentPid)).found

/-- `_has_recursive_descendant`. -/
def hasRecursiveDescendant (parentPid : Pid) (parentByPid : ParentByPid) : Bool :=
  descendants parentPid parentByPid ≠ []

/-- `_windows_has_descendant` on the entries of a snapshot, if one could be taken. A process that is
listed twice has the creator of its last entry. -/
def windowsHasDescendant (parentPid : Pid) (snapshot : Option (List (Pid × Pid))) : Bool :=
  match snapshot with
  | none => true
  | some entries => hasRecursiveDescendant parentPid (Dict.ofPairs entries)

/-- `creator` is the creator of `child` by the last entry of `child`. -/
def Created (entries : List (Pid × Pid)) (creator child : Pid) : Prop :=
  Dict.get? entries.reverse child = some creator

/-- `pid` descends from `parentPid`, and is another process. -/
def Descends (entries : List (Pid × Pid)) (parentPid pid : Pid) : Prop :=
  pid ≠ parentPid ∧ TransGen (Created entries) parentPid pid

/-- The links of the table that a snapshot gives. -/
theorem edge_iff {entries : List (Pid × Pid)} {creator child : Pid} :
    (creatorLinks (Dict.ofPairs entries)).Edge creator child ↔ Created entries creator child := by
  rw [Created, ← Dict.get?_ofPairs_eq]
  have hnodup := Dict.nodup_keys_ofPairs entries
  constructor
  · exact fun h => Dict.get?_of_mem hnodup (mem_children.mp h)
  · exact fun h => mem_children.mpr (Dict.mem_of_get? h)

theorem mem_descendants {parentPid pid : Pid} {entries : List (Pid × Pid)} :
    pid ∈ descendants parentPid (Dict.ofPairs entries) ↔ Descends entries parentPid pid := by
  have hedge : (creatorLinks (Dict.ofPairs entries)).Edge = Created entries := by
    funext creator child
    exact propext edge_iff
  rw [descendants, Worklist.Graph.mem_found_iff, hedge, Descends]
  refine and_congr_right fun hne => ?_
  rw [reflTransGen_iff_eq_or_transGen]
  exact or_iff_right hne

theorem windowsHasDescendant_iff {parentPid : Pid} {entries : List (Pid × Pid)} :
    windowsHasDescendant parentPid (some entries) = true ↔
      ∃ pid, Descends entries parentPid pid := by
  simp only [windowsHasDescendant, hasRecursiveDescendant, decide_eq_true_eq, ← mem_descendants]
  constructor
  · exact List.exists_mem_of_ne_nil _
  · intro hmem
    obtain ⟨pid, hpid⟩ := hmem
    exact List.ne_nil_of_mem hpid

/-- What a search for orphans gives. -/
structure SearchExact (parentPid : Pid) (entries : List (Pid × Pid)) : Prop where
  finished : ((creatorLinks (Dict.ofPairs entries)).run (.start parentPid)).frontier = []
  once : (descendants parentPid (Dict.ofPairs entries)).Nodup
  found : ∀ pid, pid ∈ descendants parentPid (Dict.ofPairs entries) ↔
    Descends entries parentPid pid
  answer : windowsHasDescendant parentPid (some entries) = true ↔
    ∃ pid, Descends entries parentPid pid
  /-- Who has a descendant at all has created one itself. -/
  child : windowsHasDescendant parentPid (some entries) = true ↔
    ∃ pid, pid ≠ parentPid ∧ Created entries parentPid pid

/-- On each snapshot the search ends, with every descendant found once, and a snapshot that could
not be taken counts as an orphan. -/
theorem orphan_search_exact (parentPid : Pid) :
    windowsHasDescendant parentPid none = true ∧
      ∀ entries, SearchExact parentPid entries := by
  refine ⟨rfl, fun entries => ?_⟩
  constructor
  · exact (Worklist.Graph.run_spec (.start _ parentPid)).2
  · exact Worklist.Graph.nodup_found _ parentPid
  · exact fun pid => mem_descendants
  · exact windowsHasDescendant_iff
  · rw [windowsHasDescendant_iff]
    constructor
    · intro hdescends
      obtain ⟨pid, hne, hreached⟩ := hdescends
      exact Worklist.exists_step hreached hne
    · intro hchild
      obtain ⟨pid, hne, hcreated⟩ := hchild
      exact ⟨pid, hne, .single hcreated⟩

end BattleBelief.Oracle.OrphanSearch
