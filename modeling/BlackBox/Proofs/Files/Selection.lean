import Mathlib.Data.List.Basic
import BlackBox.Files.Discovery

/-!
# The selection of test files

Paths are ordered by their components, and components by their kind and then by their text. The
order is total and transitive, so test files are found in ascending order, and they stay so when a
filter leaves some of them out. A path survives a filter if the text of the filter occurs in it.

A search fails with a directory that it has come to, or it gives the files among the paths that it
has come to (`find_cases`).
-/

namespace BlackBox

/-! ## The order of paths -/

namespace Path

open Std

/-- The text by which components of one kind are ordered. -/
def Component.label : Component → String
  | .name s => s
  | _ => ""

/-- Components are compared by their kind and then by their text. -/
theorem Component.compare_eq :
    Component.compare = compareLex (compareOn Component.rank) (compareOn Component.label) := by
  funext a b
  cases a <;> cases b <;> rfl

/-- Components are compared by a transitive order. -/
instance : TransCmp Component.compare := by
  rw [Component.compare_eq]
  infer_instance

/-- Lists of components are compared by a transitive order. -/
theorem transCmp_components : TransCmp (List.compareLex Component.compare) := inferInstance

/-- A path is before all that come after one that it is before. -/
theorem le_trans {a b c : String} (hab : le a b = true) (hbc : le b c = true) :
    le a c = true :=
  transCmp_components.isLE_trans hab hbc

/-- Of two paths one is before the other. -/
theorem le_total (a b : String) : (le a b || le b a) = true := by
  have hswap : compare b a = (compare a b).swap := transCmp_components.eq_swap
  rw [le, le, hswap]
  cases compare a b <;> rfl

end Path

/-! ## Filters -/

/-- A text contains another exactly if that is a run of its characters. -/
theorem Text.contains_iff {text part : String} :
    Text.contains text part = true ↔ part.toList <:+: text.toList := by
  rw [contains]
  induction text.toList with
  | nil => simp [occursIn]
  | cons c s ih => simp [occursIn, ih, List.infix_cons_iff]

namespace Discovery

/-- A path survives a filter if the text of the filter occurs in it. -/
def Survives (filter : Option String) (path : String) : Prop :=
  ∀ part, filter = some part → part.toList <:+: path.toList

/-- A filter keeps the paths that survive it. -/
theorem mem_filterPaths {filter : Option String} {paths : List String} {path : String} :
    path ∈ filterPaths filter paths ↔ path ∈ paths ∧ Survives filter path := by
  cases filter with
  | none => simp [filterPaths, Survives]
  | some part => simp [filterPaths, Survives, Text.contains_iff]

/-- Leaving out paths leaves the others in their order. -/
theorem filterPaths_sublist (filter : Option String) (paths : List String) :
    (filterPaths filter paths).Sublist paths := by
  cases filter with
  | none => exact List.Sublist.refl paths
  | some part => exact List.filter_sublist

/-! ## The result of a search -/

variable {d : Disk} {root : String} {visits : List Visit}

/-- The directories that cannot be listed are those that a search comes to. -/
theorem mem_blocked {b : Blocked} : b ∈ blocked visits ↔ .error b ∈ visits := by
  rw [blocked, List.mem_filterMap]
  constructor
  · rintro ⟨v, hv, hb⟩
    cases v with
    | error b' => exact Option.some.inj hb ▸ hv
    | ok p => cases hb
  · exact fun hv => ⟨.error b, hv, rfl⟩

/-- A search fails with a directory that it comes to and that cannot be listed, or there is none and
it gives the files among the paths that it comes to. -/
theorem find_cases (d : Disk) (root : String) :
    (∃ b, .error b ∈ search d root ∧ find d root = .error b) ∨
      (∀ b, .error b ∉ search d root) ∧ ∃ log, find d root = .ok
        (((paths (search d root)).filter fun p => (d.file? p).isSome).mergeSort Path.le, log) := by
  unfold find
  dsimp only
  split
  · next b hb =>
    have hmem : b ∈ blocked (search d root) := List.mem_mergeSort.mp (List.mem_of_head? hb)
    exact .inl ⟨b, mem_blocked.mp hmem, rfl⟩
  · next hnone =>
    refine .inr ⟨fun b hb => ?_, _, rfl⟩
    have hmem : b ∈ (blocked (search d root)).mergeSort fun a b => Path.le a.path b.path :=
      List.mem_mergeSort.mpr (mem_blocked.mpr hb)
    rw [List.head?_eq_none_iff.mp hnone] at hmem
    exact List.not_mem_nil hmem

/-- A search that comes to no directory which cannot be listed gives the files among the paths that
it comes to. -/
theorem find_of_not_blocked {files : List String} (h : blocked (search d root) = [])
    (hfiles : ((paths (search d root)).filter fun p => (d.file? p).isSome).mergeSort Path.le =
      files) : ∃ log, find d root = .ok (files, log) := by
  rcases find_cases d root with ⟨b, hb, -⟩ | ⟨-, log, hfind⟩
  · rw [← mem_blocked, h] at hb
    exact absurd hb List.not_mem_nil
  · exact ⟨log, hfiles ▸ hfind⟩

/-- The test files that are found below a root. There are none if the search fails. -/
def found (d : Disk) (root : String) : List String :=
  match find d root with
  | .ok (files, _) => files
  | .error _ => []

/-- What is found by a search that does not fail. -/
theorem found_of_ok {files : List String} {log : List Log.Record}
    (h : find d root = .ok (files, log)) : found d root = files := by
  rw [found, h]

/-- Nothing is found by a search that fails. -/
theorem found_of_error {b : Blocked} (h : find d root = .error b) : found d root = [] := by
  rw [found, h]

/-- Test files are found in the order of their paths. -/
theorem pairwise_found (d : Disk) (root : String) :
    (found d root).Pairwise (fun p q => Path.le p q = true) := by
  rcases find_cases d root with ⟨b, -, hfind⟩ | ⟨-, log, hfind⟩
  · rw [found_of_error hfind]
    exact List.Pairwise.nil
  · rw [found_of_ok hfind]
    apply List.pairwise_mergeSort
    · intro a b c hab hbc
      exact Path.le_trans hab hbc
    · exact Path.le_total

end Discovery

end BlackBox
