import Mathlib.Tactic.SplitIfs
import BlackBox.CommandLine

/-!
# Options of the report on a command line

A command line is read word by word into a draft, in which every option of the report has a field of
its own. Each word is read in the same way whether such an option has been given before or not
(`respects_step`), but for the word that gives it a second time, which is refused. So with an option
of the report in front a command line asks for what it asks for without it, and for that option
besides, or is refused because the option is there already (`parse_cons_extends`).
-/

namespace BlackBox

/-- An option of the report, with its value if it has one. -/
inductive Extra where
  /-- The report is quiet. -/
  | quiet
  /-- More is told about the run. -/
  | verbose
  /-- The report has a format. -/
  | format (f : Report.Format)
  deriving Repr, DecidableEq

/-- The words that give an option of the report, each by itself. -/
def Extra.words : Extra → List String
  | quiet => ["-q", "--quiet"]
  | verbose => ["--verbose"]
  | format .summary => ["--output-format=summary"]
  | format .tap => ["--output-format=tap"]

/-- Asks for an option of the report besides. -/
def Arguments.add (args : Arguments) : Extra → Arguments
  | .quiet => { args with quiet := true }
  | .verbose => { args with verbose := true }
  | .format f => { args with format := f }

namespace CommandLine

/-- Adds an option of the report to what has been read. -/
def Draft.add (d : Draft) : Extra → Draft
  | .quiet => { d with quiet := true }
  | .verbose => { d with verbose := true }
  | .format f => { d with format := some f }

/-! ## Reading with an option -/

variable {α β : Type} {x : Extra} {f : α → α} {f' : β → β} {r r' : Except Stop α}

/-- A result without an option, and the result with it, where `f` says what the option adds. -/
inductive Extends (f : α → α) : Except Stop α → Except Stop α → Prop where
  /-- The option is added. -/
  | adds (a : α) : Extends f (.ok a) (.ok (f a))
  /-- Reading fails without the option, and with it in the same way. -/
  | fails (s : Stop) : Extends f (.error s) (.error s)
  /-- The option is given again. -/
  | conflicts (r : Except Stop α) : Extends f r (.error .conflict)

/-- If nothing is refused without the option, it is added or given twice. -/
theorem Extends.of_ok {a : α} (h : Extends f (.ok a) r') :
    r' = .ok (f a) ∨ r' = .error .conflict := by
  cases h with
  | adds => exact .inl rfl
  | conflicts => exact .inr rfl

/-- If nothing is refused with the option, it can be taken away. -/
theorem Extends.ok {a' : α} (h : Extends f r (.ok a')) : ∃ a, r = .ok a ∧ a' = f a := by
  cases h with
  | adds a => exact ⟨a, rfl, rfl⟩

/-- Reading on after a result. -/
theorem Extends.bind {g : α → Except Stop β} (hr : Extends f r r')
    (hg : ∀ a, Extends f' (g a) (g (f a))) : Extends f' (r >>= g) (r' >>= g) := by
  cases hr with
  | adds a => exact hg a
  | fails s => exact .fails s
  | conflicts r => exact .conflicts _

/-- A check that the option makes no difference to. -/
theorem Extends.unless {p p' : Prop} [Decidable p] [Decidable p'] {s : Stop} (hr : Extends f r r')
    (hp : p' ↔ p) : Extends f (if p then .error s else r) (if p' then .error s else r') := by
  by_cases h : p
  · rw [if_pos h, if_pos (hp.mpr h)]
    exact .fails s
  · rw [if_neg h, if_neg (mt hp.mp h)]
    exact hr

/-- Something is read in the same way whether an option has been given before or not. -/
def Respects (x : Extra) (g : Draft → Except Stop Draft) : Prop :=
  ∀ d, Extends (·.add x) (g d) (g (d.add x))

namespace Draft

variable {d : Draft}

/-- An option of the report leaves the program as it is. -/
@[simp] theorem add_executable : (d.add x).executable = d.executable := by cases x <;> rfl

/-- It leaves the root as it is. -/
@[simp] theorem add_root : (d.add x).root = d.root := by cases x <;> rfl

/-- It leaves the filter as it is. -/
@[simp] theorem add_filter : (d.add x).filter = d.filter := by cases x <;> rfl

/-- It leaves the option whose value is read last as it is. -/
@[simp] theorem add_pending : (d.add x).pending = d.pending := by cases x <;> rfl

/-- It does not decide whether further words are options. -/
@[simp] theorem add_plain : (d.add x).plain = d.plain := by cases x <;> rfl

end Draft

/-! ## Words -/

/-- An option is given its value. -/
theorem respects_assign (o : Valued) (value : String) : Respects x (·.assign o value) := by
  intro d
  cases o with
  | executable =>
    refine Extends.unless ?_ (by rw [Draft.add_executable])
    cases Draft.path? value with
    | error s => exact .fails s
    | ok p => cases x <;> exact .adds _
  | root =>
    refine Extends.unless ?_ (by rw [Draft.add_root])
    cases Draft.path? value with
    | error s => exact .fails s
    | ok p => cases x <;> exact .adds _
  | outputFormat =>
    cases x with
    -- With a format there already, no other one is taken.
    | format f => exact .conflicts _
    | quiet | verbose =>
      refine Extends.unless ?_ Iff.rfl
      cases Report.Format.ofName? value with
      | none => exact .fails _
      | some f => exact .adds _

/-- The value of the last option is looked at. -/
theorem respects_settle : Respects x Draft.settle := by
  intro d
  have hclear : { d.add x with pending := none } = { d with pending := none }.add x := by
    cases x <;> rfl
  rw [Draft.settle, Draft.settle, Draft.add_pending, hclear]
  rcases d.pending with _ | ⟨o, _ | value⟩
  · exact .adds d
  · exact .fails _
  · exact respects_assign o value _

/-- An option is read with its value. -/
theorem respects_attach (o : Valued) (value : String) : Respects x (·.attach o value) :=
  fun d => (respects_settle d).bind (respects_assign o value)

/-- An option is read whose value is the next word. -/
theorem respects_await (o : Valued) : Respects x (·.await o) := by
  refine fun d => (respects_settle d).bind fun e => ?_
  cases x <;> exact .adds _

/-- An option without a value is read. -/
theorem respects_mark (f : Flag) : Respects x (·.mark f) := by
  refine fun d => (respects_settle d).bind fun e => ?_
  -- Only the option itself finds that it is there already.
  cases f with
  | help => exact .fails _
  | quiet =>
    cases x with
    | quiet => exact .conflicts _
    | verbose | format f => exact Extends.unless (.adds _) Iff.rfl
  | verbose =>
    cases x with
    | verbose => exact .conflicts _
    | quiet | format f => exact Extends.unless (.adds _) Iff.rfl

/-- A word is read that is no option. -/
theorem respects_positional (word : String) : Respects x (·.positional word) := by
  intro d
  refine Extends.unless ?_ (by rw [Draft.add_filter])
  refine (respects_settle d).bind fun e => ?_
  cases x <;> exact .adds _

/-- An option is read by its long name. -/
theorem respects_long (word : List Char) : Respects x (·.long word) := by
  intro d
  -- What the word is does not depend on what has been read before.
  simp only [Draft.long]
  rcases Draft.longNames.lookup _ with _ | ⟨o | f⟩
  · exact .fails _
  · split_ifs
    · exact respects_attach o _ d
    · exact respects_await o d
  · exact (respects_mark f d).unless Iff.rfl

/-- Options are read by their letters. -/
theorem respects_short (letters : List Char) : Respects x (·.short letters) := by
  induction letters with
  | nil => exact fun d => .adds d
  | cons c rest ih =>
    intro d
    simp only [Draft.short]
    split_ifs
    · exact respects_await _ d
    · exact respects_attach _ _ d
    · exact respects_attach _ _ d
    · -- Only after the letter for a quiet report there may be other options.
      exact (respects_mark _ d).bind ih
    · exact respects_mark _ d
    · exact .fails _

/-- A word is read. -/
theorem respects_step (word : String) : Respects x (·.step word) := by
  intro d
  simp only [Draft.step, Draft.add_plain, Draft.add_pending]
  split_ifs
  · exact respects_positional word d
  · split
    · cases x <;> exact .adds _
    · exact respects_long _ d
    · exact respects_short _ d
    · split
      · cases x <;> exact .adds _
      · exact respects_positional word d

/-- The words are read, one after the other. -/
theorem respects_words (words : List String) : Respects x (words.foldlM Draft.step ·) := by
  induction words with
  | nil => exact fun d => .adds d
  | cons word words ih => exact fun d => (respects_step word d).bind ih

/-- The end of the command line is reached. -/
theorem finish_extends (d : Draft) :
    Extends (Arguments.add · x) d.finish (d.add x).finish := by
  refine (respects_settle d).bind fun e => ?_
  rw [Draft.add_executable]
  cases e.executable with
  | none => exact .fails _
  | some executable => cases x <;> exact .adds _

/-- A word that gives an option of the report is read first. -/
theorem step_words {word : String} (h : word ∈ x.words) :
    Draft.step {} word = .ok (Draft.add {} x) := by
  cases x with
  | quiet =>
    obtain rfl | rfl : word = "-q" ∨ word = "--quiet" := by simpa [Extra.words] using h
    · rfl
    · rfl
  | verbose =>
    obtain rfl := List.mem_singleton.mp h
    rfl
  | format f =>
    cases f with
    | summary =>
      obtain rfl := List.mem_singleton.mp h
      rfl
    | tap =>
      obtain rfl := List.mem_singleton.mp h
      rfl

/-- With an option of the report in front, a command line is understood as it is without it, and the
option is added, unless the option is given a second time. -/
theorem parse_cons_extends {word : String} (h : word ∈ x.words) (words : List String) :
    Extends (Arguments.add · x) (parse words) (parse (word :: words)) := by
  have hword :
      parse (word :: words) = words.foldlM Draft.step (Draft.add {} x) >>= Draft.finish := by
    rw [parse, List.foldlM_cons, step_words h]
    rfl
  rw [hword]
  exact (respects_words words {}).bind finish_extends

end CommandLine

end BlackBox
