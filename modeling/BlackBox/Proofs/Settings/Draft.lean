import Mathlib.Data.List.Nodup
import BlackBox.CommandLine

/-!
# Settings that are taken one by one

What a command line sets, without the words that say so. A draft takes a setting by getting its
value, unless the same thing has been set before. How often something is set, before and by the
settings to come, does not change when a setting is taken (`times_give`). So it is known in advance
whether all settings can be taken: they can if nothing is set twice, and then their order makes no
difference (`foldlM_take_of_perm`), and otherwise there is a conflict (`foldlM_take_of_twice`).
-/

namespace BlackBox.CommandLine

/-- What there is to be set. -/
inductive Field where
  /-- The program to test. -/
  | executable
  /-- The directory that is searched. -/
  | root
  /-- The format of the report. -/
  | format
  /-- The text that paths have to contain. -/
  | filter
  /-- A quiet report. -/
  | quiet
  /-- More about the run. -/
  | verbose
  deriving DecidableEq

/-- A setting, with its value if it has one. -/
inductive Setting where
  /-- The program to test. -/
  | executable (path : String)
  /-- The directory that is searched. -/
  | root (path : String)
  /-- The format of the report. -/
  | format (f : Report.Format)
  /-- The text that paths have to contain. -/
  | filter (part : String)
  /-- A quiet report. -/
  | quiet
  /-- More about the run. -/
  | verbose
  deriving DecidableEq

/-- What is set by a setting. -/
def Setting.field : Setting → Field
  | executable _ => .executable
  | root _ => .root
  | format _ => .format
  | filter _ => .filter
  | quiet => .quiet
  | verbose => .verbose

variable {d : Draft} {s s' : Setting} {ss : List Setting}

namespace Draft

/-- Whether something has been set. -/
def has (d : Draft) : Field → Bool
  | .executable => d.executable.isSome
  | .root => d.root.isSome
  | .format => d.format.isSome
  | .filter => d.filter.isSome
  | .quiet => d.quiet
  | .verbose => d.verbose

/-- Gets a setting. -/
def give (d : Draft) : Setting → Draft
  | .executable path => { d with executable := some path }
  | .root path => { d with root := some path }
  | .format f => { d with format := some f }
  | .filter part => { d with filter := some part }
  | .quiet => { d with quiet := true }
  | .verbose => { d with verbose := true }

/-- Gets a setting unless there is one already. A second option is a conflict; a second text that
paths have to contain is a word that nothing is known of. -/
def take (d : Draft) (s : Setting) : Except Stop Draft :=
  if d.has s.field then .error (if s.field = .filter then .unknown else .conflict)
  else .ok (d.give s)

/-- A setting does not decide whether further words are options. -/
@[simp] theorem give_plain : (d.give s).plain = d.plain := by cases s <;> rfl

/-- A setting leaves the option whose value is read last as it is. -/
@[simp] theorem give_pending : (d.give s).pending = d.pending := by cases s <;> rfl

/-- What a setting sets is set then. -/
theorem has_give_self : (d.give s).has s.field = true := by cases s <;> rfl

/-- Nothing else is set by a setting. -/
theorem has_give_of_ne {f : Field} (h : s.field ≠ f) : (d.give s).has f = d.has f := by
  cases s <;> cases f <;> first | rfl | exact absurd rfl h

/-- Settings of different things may be given in either order. -/
theorem give_give (h : s.field ≠ s'.field) : (d.give s).give s' = (d.give s').give s := by
  cases s <;> cases s' <;> first | rfl | exact absurd rfl h

/-- How often something is set, in a draft and by the settings that come after it. -/
def times (d : Draft) (ss : List Setting) (f : Field) : ℕ :=
  (ss.map Setting.field).count f + (d.has f).toNat

/-- Nothing is set in the beginning. -/
theorem times_empty (ss : List Setting) (f : Field) :
    times {} ss f = (ss.map Setting.field).count f := by
  cases f <;> rfl

/-- A setting counts as much after it is taken as before. -/
theorem times_give (h : d.has s.field = false) : (d.give s).times ss = d.times (s :: ss) := by
  funext f
  rw [times, times, List.map_cons, List.count_cons]
  by_cases hf : s.field = f
  · subst hf
    simp [has_give_self, h]
  · simp [has_give_of_ne hf, hf]

/-- Settings are all taken if nothing is set twice. -/
theorem foldlM_take_of_once (h : ∀ f, d.times ss f ≤ 1) :
    ss.foldlM take d = .ok (ss.foldl give d) := by
  induction ss generalizing d with
  | nil => rfl
  | cons s ss ih =>
    have hfresh : d.has s.field = false := by
      have honce := h s.field
      rw [times, List.map_cons, List.count_cons_self] at honce
      cases hs : d.has s.field with
      | false => rfl
      | true =>
        rw [hs, Bool.toNat_true] at honce
        omega
    rw [List.foldlM_cons, take, hfresh, if_neg (by decide), List.foldl_cons]
    -- What the setting has counted for among those to come it counts for in the draft now.
    refine ih fun f => ?_
    rw [times_give hfresh]
    exact h f

/-- Settings are in conflict if an option is set twice. -/
theorem foldlM_take_of_twice {f : Field} (h : 2 ≤ d.times ss f) (hfilter : d.times ss .filter ≤ 1) :
    ss.foldlM take d = .error .conflict := by
  induction ss generalizing d with
  | nil =>
    have hle := Bool.toNat_le (d.has f)
    rw [times, List.map_nil, List.count_nil] at h
    omega
  | cons s ss ih =>
    rw [List.foldlM_cons, take]
    cases hs : d.has s.field with
    | true =>
      -- The text that paths have to contain is not what is there twice.
      have hne : s.field ≠ .filter := by
        intro heq
        rw [heq] at hs
        rw [times, hs, List.map_cons, heq, List.count_cons_self, Bool.toNat_true] at hfilter
        omega
      rw [if_pos rfl, if_neg hne]
      rfl
    | false =>
      rw [← times_give hs] at h hfilter
      rw [if_neg (by decide)]
      exact ih h hfilter

end Draft

/-- Settings of different things are taken in any order, and the draft does not depend on it. -/
theorem foldlM_take_of_perm {settings : List Setting} (h : ss.Perm settings)
    (hnodup : (settings.map Setting.field).Nodup) :
    ss.foldlM Draft.take {} = .ok (settings.foldl Draft.give {}) := by
  have hnodup' : (ss.map Setting.field).Nodup := (h.map Setting.field).nodup_iff.mpr hnodup
  have honce : ∀ f, Draft.times {} ss f ≤ 1 := by
    intro f
    rw [Draft.times_empty]
    exact List.nodup_iff_count_le_one.mp hnodup' f
  have hcomm : ∀ s ∈ ss, ∀ s' ∈ ss, ∀ d : Draft, (d.give s).give s' = (d.give s').give s := by
    intro s hs s' hs' d
    -- The same setting is of the same thing, so this case is apart from the others.
    by_cases heq : s = s'
    · rw [heq]
    · exact Draft.give_give fun hf => heq (List.inj_on_of_nodup_map hnodup' hs hs' hf)
  rw [Draft.foldlM_take_of_once honce, h.foldl_eq' hcomm]

end BlackBox.CommandLine
