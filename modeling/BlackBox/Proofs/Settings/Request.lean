import BlackBox.Proofs.Settings.Words

/-!
# Settings in any order

What a command line asks for depends on its settings only, and not on their order and their
spellings. A program and other settings, each of them once, are understood as exactly these. With a
second option for something that is set already they are in conflict, and without the program it is
missing (`parse_settings`).
-/

namespace BlackBox.CommandLine

variable {s : Setting} {ss : List Setting} {words : List String}

/-! ## Requests -/

/-- What is asked for by settings: a program, and settings that may be absent. -/
structure Request where
  /-- The program to test. -/
  executable : String
  /-- The directory that is searched. -/
  root : Option String := none
  /-- The format of the report. -/
  format : Option Report.Format := none
  /-- The text that paths have to contain. -/
  filter : Option String := none
  /-- Whether the report is quiet. -/
  quiet : Bool := false
  /-- Whether more is told about the run. -/
  verbose : Bool := false

namespace Request

/-- The settings besides the program. -/
def others (r : Request) : List Setting :=
  r.root.toList.map .root ++ r.format.toList.map .format ++ r.filter.toList.map .filter ++
    (if r.quiet then [.quiet] else []) ++ (if r.verbose then [.verbose] else [])

/-- All settings. -/
def settings (r : Request) : List Setting := .executable r.executable :: r.others

/-- What is asked for, with default values for what is absent. -/
def arguments (r : Request) : Arguments where
  executable := r.executable
  root := r.root.getD "tests"
  filter := r.filter
  format := r.format.getD .summary
  quiet := r.quiet
  verbose := r.verbose

/-- Nothing is set twice by a request. -/
theorem nodup_settings (r : Request) : (r.settings.map Setting.field).Nodup := by
  obtain ⟨_, _ | _, _ | _, _ | _, _ | _, _ | _⟩ := r <;> exact of_decide_eq_true rfl

/-- A draft gets the settings of a request besides the program. -/
theorem foldl_give_others (r : Request) (x : Option String) :
    r.others.foldl Draft.give { executable := x } = {
      executable := x, root := r.root, format := r.format, filter := r.filter, quiet := r.quiet,
      verbose := r.verbose } := by
  obtain ⟨_, _ | _, _ | _, _ | _, _ | _, _ | _⟩ := r <;> rfl

end Request

/-! ## Command lines -/

/-- Settings of different things are understood as if they were taken in a fixed order. -/
theorem Gives.parse_eq (h : Gives ss words) (hproper : ∀ s ∈ ss, s.Proper)
    (hnodup : (ss.map Setting.field).Nodup) :
    parse words = (ss.foldl Draft.give {}).finish := by
  obtain ⟨order, hperm, hspells⟩ := h
  have hone : (order.map Setting.field).count .filter ≤ 1 := by
    rw [(hperm.map Setting.field).count_eq]
    exact List.nodup_iff_count_le_one.mp hnodup .filter
  rw [parse_eq_take hspells (fun s hs => hproper s (hperm.subset hs)) hone,
    foldlM_take_of_perm hperm hnodup]
  rfl

/-- One more option for something that is set is a conflict. -/
theorem Gives.parse_eq_conflict (h : Gives (s :: ss) words)
    (hproper : ∀ s' ∈ s :: ss, s'.Proper) (hnodup : (ss.map Setting.field).Nodup)
    (hne : s.field ≠ .filter) (hmem : s.field ∈ ss.map Setting.field) :
    parse words = .error .conflict := by
  obtain ⟨order, hperm, hspells⟩ := h
  -- In whatever order they are read, one thing is set twice and all others at most once.
  have hcount : ∀ f, (order.map Setting.field).count f =
      (ss.map Setting.field).count f + if s.field = f then 1 else 0 := by
    intro f
    rw [(hperm.map Setting.field).count_eq, List.map_cons, List.count_cons]
    simp only [beq_iff_eq]
  have hone : (order.map Setting.field).count .filter ≤ 1 := by
    rw [hcount, if_neg hne]
    exact List.nodup_iff_count_le_one.mp hnodup .filter
  have htwo : 2 ≤ (order.map Setting.field).count s.field := by
    have hthere := List.count_pos_iff.mpr hmem
    rw [hcount, if_pos rfl]
    omega
  rw [parse_eq_take hspells (fun s' hs' => hproper s' (hperm.subset hs')) hone]
  rw [← Draft.times_empty] at hone htwo
  rw [Draft.foldlM_take_of_twice htwo hone]
  rfl

/-- A command line that gives a program and other settings, each in one of its spellings and all in
any order, asks for exactly these, with default values for what is absent. So command lines that
differ only in the order and the spellings of their settings are understood alike. With a second
option for something that is set already there is a conflict, and without the program it is
missing. -/
theorem parse_settings (r : Request) (h : ∀ s ∈ r.settings, s.Proper) :
    (∀ words, Gives r.settings words → parse words = .ok r.arguments) ∧
    (∀ words words', Gives r.settings words → Gives r.settings words' →
      parse words = parse words') ∧
    (∀ s words, s.Proper → s.field ≠ .filter → s.field ∈ r.settings.map Setting.field →
      Gives (s :: r.settings) words → parse words = .error .conflict) ∧
    ∀ words, Gives r.others words → parse words = .error .missing := by
  have hnodup := r.nodup_settings
  have hparse : ∀ words, Gives r.settings words → parse words = .ok r.arguments := by
    intro words hwords
    rw [hwords.parse_eq h hnodup, Request.settings, List.foldl_cons]
    exact congrArg Draft.finish (r.foldl_give_others (some r.executable))
  refine ⟨hparse, fun words words' hwords hwords' => ?_, fun s words hs hne hmem hwords => ?_,
    fun words hwords => ?_⟩
  · rw [hparse words hwords, hparse words' hwords']
  · exact hwords.parse_eq_conflict (List.forall_mem_cons.mpr ⟨hs, h⟩) hnodup hne hmem
  · have hothers : ∀ s ∈ r.others, s.Proper := fun s hs => h s (List.mem_cons_of_mem _ hs)
    rw [hwords.parse_eq hothers (List.nodup_cons.mp hnodup).2]
    exact congrArg Draft.finish (r.foldl_give_others none)

/-- All settings, the program last and with a value that begins with an equals sign; and with the
program once more before all of them. -/
theorem parse_settings_mixed :
    parse ["part", "-q", "--root=a=b", "--output-format", "tap", "--verbose", "-e", "=x"] =
      .ok {
        executable := "=x", root := "a=b", filter := some "part", format := .tap, quiet := true,
        verbose := true } ∧
    parse ["--executable=y", "part", "-q", "--root=a=b", "--output-format", "tap", "--verbose",
      "-e", "=x"] = .error .conflict := by
  obtain ⟨hparse, -, hconflict, -⟩ := parse_settings {
    executable := "=x", root := some "a=b", format := some .tap, filter := some "part",
    quiet := true, verbose := true } (by decide)
  have hspells : Spells
      [.filter "part", .quiet, .root "a=b", .format .tap, .verbose, .executable "=x"]
      (["part"] ++ (["-q"] ++ (["--root=a=b"] ++ (["--output-format", "tap"] ++
        (["--verbose"] ++ (["-e", "=x"] ++ [])))))) :=
    .cons (by decide) (.cons (by decide) (.cons (by decide) (.cons (by decide) (.cons (by decide)
      (.cons (by decide) .nil)))))
  have hagain : Spells
      [.executable "y", .filter "part", .quiet, .root "a=b", .format .tap, .verbose,
        .executable "=x"]
      (["--executable=y"] ++ (["part"] ++ (["-q"] ++ (["--root=a=b"] ++
        (["--output-format", "tap"] ++ (["--verbose"] ++ (["-e", "=x"] ++ []))))))) :=
    .cons (by decide) hspells
  exact ⟨hparse _ ⟨_, by decide, hspells⟩,
    hconflict (.executable "y") _ (by decide) (by decide) (by decide) ⟨_, by decide, hagain⟩⟩

end BlackBox.CommandLine
