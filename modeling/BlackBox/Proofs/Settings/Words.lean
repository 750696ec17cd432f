import BlackBox.Proofs.Settings.Draft

/-!
# The words of settings

A setting is given by one or two words, in one of several spellings. Its words are read into a draft
in which the value of the last option may still have to be looked at. Read setting by setting it
comes to the same as a draft that takes the settings one by one, whatever the spellings are
(`parse_eq_take`): the words of one setting keep a relation between the two (`Reads.reached_unit`),
and so do the words of any settings, one after the other (`Reads.reached_spells`).
-/

namespace BlackBox

/-- The name of a format. -/
def Report.Format.name : Report.Format → String
  | summary => "summary"
  | tap => "tap"

/-- A format is found by its name. -/
theorem Report.Format.ofName?_name (f : Report.Format) : ofName? f.name = some f := by
  cases f <;> rfl

namespace CommandLine

/-! ## Spellings -/

/-- The words that give a setting, in each of its spellings. -/
def Setting.spellings : Setting → List (List String)
  | executable path => [["-e", path], ["--executable", path], ["--executable=" ++ path]]
  | root path => [["--root", path], ["--root=" ++ path]]
  | format f => [["--output-format", f.name], ["--output-format=" ++ f.name]]
  | filter part => [[part]]
  | quiet => [["-q"], ["--quiet"]]
  | verbose => [["--verbose"]]

/-- A text that is a value by itself: it is not empty and does not look like an option. -/
def IsValue (text : String) : Prop := text ≠ "" ∧ text.toList.head? ≠ some '-'

/-- It can be decided whether a text may be a value. -/
instance (text : String) : Decidable (IsValue text) :=
  inferInstanceAs (Decidable (text ≠ "" ∧ text.toList.head? ≠ some '-'))

/-- The text of a setting, if it has one, is a value. -/
def Setting.Proper : Setting → Prop
  | executable text | root text | filter text => IsValue text
  | format _ | quiet | verbose => True

/-- It can be decided whether a setting is proper. -/
instance : DecidablePred Setting.Proper
  | .executable text | .root text | .filter text => inferInstanceAs (Decidable (IsValue text))
  | .format _ | .quiet | .verbose => inferInstanceAs (Decidable True)

/-- Words that give settings in order, each in one of its spellings. -/
inductive Spells : List Setting → List String → Prop where
  /-- No words give no settings. -/
  | nil : Spells [] []
  /-- The words of a setting stand before those of the others. -/
  | cons {s : Setting} {ss : List Setting} {unit words : List String} :
      unit ∈ s.spellings → Spells ss words → Spells (s :: ss) (unit ++ words)

/-- Words that give settings in any order. -/
def Gives (settings : List Setting) (words : List String) : Prop :=
  ∃ order, order.Perm settings ∧ Spells order words

variable {d e : Draft} {s : Setting} {ss done : List Setting} {o : Valued}
  {word value : String} {unit words : List String}

namespace Draft

/-! ## Words one by one -/

/-- A value does not begin like an option. -/
theorem exists_of_isValue (h : IsValue value) : ∃ c cs, value.toList = c :: cs ∧ c ≠ '-' := by
  obtain ⟨c, cs, hcs⟩ := List.exists_cons_of_ne_nil (mt String.toList_eq_nil_iff.mp h.1)
  refine ⟨c, cs, hcs, fun hc => h.2 ?_⟩
  rw [hcs, hc]
  rfl

/-- The word after an option that takes a value is its value. -/
theorem step_value (hvalue : IsValue value) (hplain : d.plain = false)
    (hpending : d.pending = some (o, none)) :
    d.step value = .ok { d with pending := some (o, some value) } := by
  obtain ⟨c, cs, hcs, hc⟩ := exists_of_isValue hvalue
  simp [step, hplain, hcs, hc, hpending]

/-- Any other value is a word that is no option. -/
theorem step_positional (hvalue : IsValue value) (hplain : d.plain = false)
    (hpending : ∀ o, d.pending ≠ some (o, none)) : d.step value = d.positional value := by
  obtain ⟨c, cs, hcs, hc⟩ := exists_of_isValue hvalue
  cases hp : d.pending with
  | none => simp [step, hplain, hcs, hc, hp]
  | some p =>
    obtain ⟨o, _ | given⟩ := p
    · exact absurd hp (hpending o)
    · simp [step, hplain, hcs, hc, hp]

/-- The words after which a value is to come. -/
def awaiting : List (String × Valued) := [
  ("-e", .executable), ("--executable", .executable), ("--root", .root),
  ("--output-format", .outputFormat)]

/-- A word after which a value is to come. -/
theorem step_awaiting (h : (word, o) ∈ awaiting) (hplain : d.plain = false) :
    d.step word = d.await o := by
  simp only [awaiting, List.mem_cons, Prod.mk.injEq, List.not_mem_nil, or_false] at h
  rcases h with ⟨rfl, rfl⟩ | ⟨rfl, rfl⟩ | ⟨rfl, rfl⟩ | ⟨rfl, rfl⟩ <;>
    · rw [step, hplain]
      rfl

/-- A value in the word of an option stands after the equals sign. -/
theorem long_attached (name : List Char) (hname : '=' ∉ name)
    (h : longNames.lookup (String.ofList name) = some (.inl o)) (value : String) :
    d.long (name ++ '=' :: value.toList) = d.attach o value := by
  have hne : ∀ c ∈ name, (c != '=') = true := by
    intro c hc
    rw [bne_iff_ne]
    exact fun heq => hname (heq ▸ hc)
  have htake : (name ++ '=' :: value.toList).takeWhile (· != '=') = name := by
    rw [List.takeWhile_append_of_pos hne, List.takeWhile_cons_of_neg (by decide), List.append_nil]
  have hdrop : (name ++ '=' :: value.toList).dropWhile (· != '=') = '=' :: value.toList := by
    rw [List.dropWhile_append_of_pos hne, List.dropWhile_cons_of_neg (by decide)]
  rw [long, htake, hdrop]
  simp [h]

/-- The beginnings of words with a value. -/
def attaching : List (String × Valued) := [
  ("--executable=", .executable), ("--root=", .root), ("--output-format=", .outputFormat)]

/-- A word with a value in it. -/
theorem step_attaching (h : (word, o) ∈ attaching) (hplain : d.plain = false) (value : String) :
    d.step (word ++ value) = d.attach o value := by
  simp only [attaching, List.mem_cons, Prod.mk.injEq, List.not_mem_nil, or_false] at h
  rcases h with ⟨rfl, rfl⟩ | ⟨rfl, rfl⟩ | ⟨rfl, rfl⟩
  · rw [step, hplain, String.toList_append]
    exact long_attached "executable".toList (by decide) rfl value
  · rw [step, hplain, String.toList_append]
    exact long_attached "root".toList (by decide) rfl value
  · rw [step, hplain, String.toList_append]
    exact long_attached "output-format".toList (by decide) rfl value

/-- The words of options without a value. -/
def marking : List (String × Flag) := [("-q", .quiet), ("--quiet", .quiet), ("--verbose", .verbose)]

/-- A word of an option without a value. -/
theorem step_marking {f : Flag} (h : (word, f) ∈ marking) (hplain : d.plain = false) :
    d.step word = d.mark f := by
  simp only [marking, List.mem_cons, Prod.mk.injEq, List.not_mem_nil, or_false] at h
  rcases h with ⟨rfl, rfl⟩ | ⟨rfl, rfl⟩ | ⟨rfl, rfl⟩
  · -- No other letter stands after this one.
    rw [step, hplain]
    exact bind_pure (d.mark .quiet)
  · rw [step, hplain]
    rfl
  · rw [step, hplain]
    rfl

/-! ## Values -/

/-- An option that gets its value changes nothing else. -/
theorem assign_eq_ok (h : d.assign o value = .ok e) :
    e.pending = d.pending ∧ e.plain = d.plain ∧ e.filter = d.filter := by
  cases o with
  | executable | root =>
    simp only [assign, path?] at h
    split_ifs at h
    · cases h
    · obtain rfl := Except.ok.inj h
      exact ⟨rfl, rfl, rfl⟩
  | outputFormat =>
    simp only [assign] at h
    split_ifs at h
    split at h
    · obtain rfl := Except.ok.inj h
      exact ⟨rfl, rfl, rfl⟩
    · contradiction

/-- What is left of a draft when the value of its last option has been looked at. -/
theorem settle_eq_ok (h : d.settle = .ok e) :
    e.pending = none ∧ e.plain = d.plain ∧ e.filter = d.filter := by
  rw [settle] at h
  split at h
  · next hp =>
    obtain rfl := Except.ok.inj h
    exact ⟨hp, rfl, rfl⟩
  · contradiction
  · exact assign_eq_ok h

/-- A draft in which nothing is left to be looked at is left as it is. -/
theorem settle_of_pending (h : d.pending = none) : d.settle = .ok d := by
  rw [settle, h]

/-- A program is taken as the value of its option. -/
theorem assign_executable (h : IsValue value) :
    d.assign .executable value = d.take (.executable value) := by
  simp [assign, path?, h.1, Except.map, take, has, give, Setting.field]

/-- A directory is taken as the value of its option. -/
theorem assign_root (h : IsValue value) : d.assign .root value = d.take (.root value) := by
  simp [assign, path?, h.1, Except.map, take, has, give, Setting.field]

/-- A format is taken by its name, which is the value of its option. -/
theorem assign_format (f : Report.Format) :
    d.assign .outputFormat f.name = d.take (.format f) := by
  simp [assign, Report.Format.ofName?_name, take, has, give, Setting.field]

/-- An option for a quiet report is taken without a value. -/
theorem mark_quiet (d : Draft) : d.mark .quiet = d.settle >>= (·.take .quiet) := by
  refine bind_congr fun e => ?_
  simp [take, has, give, Setting.field]

/-- An option to tell more is taken without a value. -/
theorem mark_verbose (d : Draft) : d.mark .verbose = d.settle >>= (·.take .verbose) := by
  refine bind_congr fun e => ?_
  simp [take, has, give, Setting.field]

/-- A word that is no option is taken if it is the first one. -/
theorem positional_of_not_has (h : d.has .filter = false) (part : String) :
    d.positional part = d.settle >>= (·.take (.filter part)) := by
  have hfree : d.filter.isSome = false := h
  rw [positional, hfree, if_neg (by decide)]
  cases hs : d.settle with
  | error stop => rfl
  | ok e =>
    obtain ⟨-, -, hfilter⟩ := settle_eq_ok hs
    have htake : e.take (.filter part) = .ok (e.give (.filter part)) := by
      rw [take, Setting.field, has, hfilter, hfree, if_neg (by decide)]
    exact htake.symm

/-! ## Reading -/

/-- What reading has come to after the words of some settings: no word is plain because of two
hyphens, no value is still to come, and when the value of the last option has been looked at all the
settings have been taken. -/
structure Reads (d : Draft) (ss : List Setting) : Prop where
  /-- Words may be options. -/
  plain : d.plain = false
  /-- The next word is no value of an option. -/
  waiting : ∀ o, d.pending ≠ some (o, none)
  /-- There is a text that paths have to contain only if it has been set. -/
  filter : d.has .filter = true → .filter ∈ ss.map Setting.field
  /-- The settings are taken, or one of them is refused. -/
  settle_eq : d.settle = ss.foldlM take {}

/-- Reading has come to a draft that stands for some settings, or it has been stopped for the reason
for which taking them is stopped. -/
def Reached (ss : List Setting) : Except Stop Draft → Prop
  | .ok d => d.Reads ss
  | .error stop => ss.foldlM take {} = .error stop

/-- One more setting is taken when the last value of those before it has been looked at. -/
theorem Reads.foldlM_take (hd : d.Reads ss) (s : Setting) :
    (ss ++ [s]).foldlM take {} = d.settle >>= (·.take s) := by
  rw [List.foldlM_append, ← hd.settle_eq]
  cases d.settle with
  | error stop => rfl
  | ok e => exact bind_pure (e.take s)

/-- A word that just takes a setting reaches what it has to. -/
theorem Reads.reached (hd : d.Reads ss) (s : Setting) :
    Reached (ss ++ [s]) (d.settle >>= (·.take s)) := by
  have hfold := hd.foldlM_take s
  cases hr : d.settle >>= (·.take s) with
  | error stop => exact hfold.trans hr
  | ok e' =>
    obtain ⟨e, hs, htake⟩ : ∃ e, d.settle = .ok e ∧ e.take s = .ok e' := by
      cases hs : d.settle with
      | error stop =>
        rw [hs] at hr
        cases hr
      | ok e =>
        rw [hs] at hr
        exact ⟨e, rfl, hr⟩
    obtain ⟨hpending, hplain, hfilter⟩ := settle_eq_ok hs
    obtain rfl : e.give s = e' := by
      rw [take] at htake
      split_ifs at htake
      exact Except.ok.inj htake
    have hsettled : (e.give s).pending = none := by rw [give_pending, hpending]
    refine ⟨?_, fun o => ?_, fun h => ?_, ?_⟩
    · rw [give_plain, hplain, hd.plain]
    · rw [hsettled]
      exact (Option.some_ne_none _).symm
    · rw [List.map_append, List.mem_append]
      by_cases hf : s.field = .filter
      · exact .inr (by simp [hf])
      · rw [has_give_of_ne hf, has, hfilter] at h
        exact .inl (hd.filter h)
    · -- Nothing is left to be looked at, so the draft is what the settings have come to.
      rw [settle_of_pending hsettled, hfold, hr]

/-- A word before a value and the value reach what they have to. -/
theorem Reads.reached_awaiting (hd : d.Reads ss) (hword : (word, o) ∈ awaiting)
    (hvalue : IsValue value) (htake : ∀ e : Draft, e.assign o value = e.take s) :
    Reached (ss ++ [s]) ([word, value].foldlM step d) := by
  have hfold := hd.foldlM_take s
  have hread : [word, value].foldlM step d = d.await o >>= (·.step value) := by
    simp only [List.foldlM_cons, List.foldlM_nil, bind_pure, step_awaiting hword hd.plain]
  rw [hread, await]
  cases hs : d.settle with
  | error stop =>
    rw [hs] at hfold
    exact hfold
  | ok e =>
    rw [hs] at hfold
    obtain ⟨hpending, hplain, hfilter⟩ := settle_eq_ok hs
    have hplain' : e.plain = false := hplain.trans hd.plain
    have hclear : { e with pending := none } = e := by rw [← hpending]
    have hstep : ({ e with pending := some (o, none) } : Draft).step value =
        .ok { e with pending := some (o, some value) } := step_value hvalue hplain' rfl
    change Reached (ss ++ [s]) (({ e with pending := some (o, none) } : Draft).step value)
    rw [hstep]
    refine ⟨hplain', fun o' => by simp, fun h => ?_, ?_⟩
    · rw [List.map_append]
      refine List.mem_append_left _ (hd.filter ?_)
      rwa [has, ← hfilter]
    · -- The value is looked at when the draft is settled.
      change ({ e with pending := none } : Draft).assign o value = _
      rw [hclear, htake, hfold]
      rfl

/-- A word with a value in it reaches what it has to. -/
theorem Reads.reached_attaching (hd : d.Reads ss) (hword : (word, o) ∈ attaching)
    (htake : ∀ e : Draft, e.assign o value = e.take s) :
    Reached (ss ++ [s]) ([word ++ value].foldlM step d) := by
  have hread : [word ++ value].foldlM step d = d.settle >>= (·.take s) := by
    simp only [List.foldlM_cons, List.foldlM_nil, bind_pure, step_attaching hword hd.plain, attach,
      htake]
  rw [hread]
  exact hd.reached s

/-- A word of an option without a value reaches what it has to. -/
theorem Reads.reached_marking (hd : d.Reads ss) {f : Flag} (hword : (word, f) ∈ marking)
    (hmark : ∀ e : Draft, e.mark f = e.settle >>= (·.take s)) :
    Reached (ss ++ [s]) ([word].foldlM step d) := by
  have hread : [word].foldlM step d = d.settle >>= (·.take s) := by
    simp only [List.foldlM_cons, List.foldlM_nil, bind_pure, step_marking hword hd.plain, hmark]
  rw [hread]
  exact hd.reached s

/-- The words of a setting reach what they have to, whichever of its spellings they are, if there is
not more than one text that paths have to contain. -/
theorem Reads.reached_unit (hd : d.Reads ss) (hs : s.Proper) (hunit : unit ∈ s.spellings)
    (hfilter : s.field = .filter → .filter ∉ ss.map Setting.field) :
    Reached (ss ++ [s]) (unit.foldlM step d) := by
  cases s with
  | executable path =>
    simp only [Setting.spellings, List.mem_cons, List.not_mem_nil, or_false] at hunit
    rcases hunit with rfl | rfl | rfl
    · exact hd.reached_awaiting (o := .executable) (by simp [awaiting]) hs
        fun _ => assign_executable hs
    · exact hd.reached_awaiting (o := .executable) (by simp [awaiting]) hs
        fun _ => assign_executable hs
    · exact hd.reached_attaching (o := .executable) (by simp [attaching])
        fun _ => assign_executable hs
  | root path =>
    simp only [Setting.spellings, List.mem_cons, List.not_mem_nil, or_false] at hunit
    rcases hunit with rfl | rfl
    · exact hd.reached_awaiting (o := .root) (by simp [awaiting]) hs fun _ => assign_root hs
    · exact hd.reached_attaching (o := .root) (by simp [attaching]) fun _ => assign_root hs
  | format f =>
    simp only [Setting.spellings, List.mem_cons, List.not_mem_nil, or_false] at hunit
    have hname : IsValue f.name := by cases f <;> decide
    rcases hunit with rfl | rfl
    · exact hd.reached_awaiting (o := .outputFormat) (by simp [awaiting]) hname
        fun _ => assign_format f
    · exact hd.reached_attaching (o := .outputFormat) (by simp [attaching])
        fun _ => assign_format f
  | filter part =>
    obtain rfl := List.mem_singleton.mp hunit
    have hfree : d.has .filter = false := by
      rw [Bool.eq_false_iff]
      exact fun h => hfilter rfl (hd.filter h)
    have hread : [part].foldlM step d = d.settle >>= (·.take (.filter part)) := by
      simp only [List.foldlM_cons, List.foldlM_nil, bind_pure,
        step_positional hs hd.plain hd.waiting, positional_of_not_has hfree]
    rw [hread]
    exact hd.reached _
  | quiet =>
    simp only [Setting.spellings, List.mem_cons, List.not_mem_nil, or_false] at hunit
    rcases hunit with rfl | rfl
    · exact hd.reached_marking (by simp [marking]) mark_quiet
    · exact hd.reached_marking (by simp [marking]) mark_quiet
  | verbose =>
    obtain rfl := List.mem_singleton.mp hunit
    exact hd.reached_marking (by simp [marking]) mark_verbose

/-- The words of some settings reach what they have to. -/
theorem Reads.reached_spells (h : Spells ss words) (hd : d.Reads done)
    (hproper : ∀ s ∈ ss, s.Proper)
    (hone : ((done ++ ss).map Setting.field).count .filter ≤ 1) :
    Reached (done ++ ss) (words.foldlM step d) := by
  induction h generalizing d done with
  | nil =>
    rw [List.append_nil]
    exact hd
  | @cons s ss unit words hunit _ ih =>
    have hfilter : s.field = .filter → .filter ∉ done.map Setting.field := by
      intro hs hmem
      have hbefore := List.count_pos_iff.mpr hmem
      rw [List.map_append, List.count_append, List.map_cons, hs, List.count_cons_self] at hone
      omega
    have hreached := hd.reached_unit (hproper s List.mem_cons_self) hunit hfilter
    have hmove : done ++ s :: ss = done ++ [s] ++ ss := by simp
    rw [hmove] at hone ⊢
    rw [List.foldlM_append]
    -- The words of the first setting come first; the induction is over any draft they lead to.
    cases hr : unit.foldlM step d with
    | error stop =>
      -- What stops reading stops the taking of the settings.
      rw [hr] at hreached
      have htaken : (done ++ [s]).foldlM take {} = .error stop := hreached
      have hall : (done ++ [s] ++ ss).foldlM take {} = .error stop := by
        rw [List.foldlM_append, htaken]
        rfl
      exact hall
    | ok e =>
      rw [hr] at hreached
      exact ih hreached (fun s' hs' => hproper s' (List.mem_cons_of_mem s hs')) hone

/-- What is asked for at the end is what is asked for when the last value has been looked at. -/
theorem finish_eq (d : Draft) : d.finish = d.settle >>= finish := by
  cases hs : d.settle with
  | error stop =>
    rw [finish, hs]
    rfl
  | ok e =>
    obtain ⟨hpending, -, -⟩ := settle_eq_ok hs
    change d.finish = e.finish
    rw [finish, hs, finish, settle_of_pending hpending]

end Draft

/-- A command line asks for what its settings ask for when they are taken one by one. -/
theorem parse_eq_take (h : Spells ss words) (hproper : ∀ s ∈ ss, s.Proper)
    (hone : (ss.map Setting.field).count .filter ≤ 1) :
    parse words = ss.foldlM Draft.take {} >>= Draft.finish := by
  have hstart : Draft.Reads {} [] := ⟨rfl, fun _ => by simp, fun h => by simp [Draft.has] at h, rfl⟩
  have hreached : Draft.Reached ([] ++ ss) (words.foldlM Draft.step {}) :=
    hstart.reached_spells h hproper hone
  rw [parse]
  cases hr : words.foldlM Draft.step {} with
  | error stop =>
    rw [hr] at hreached
    have htaken : ss.foldlM Draft.take {} = .error stop := hreached
    rw [htaken]
  | ok d =>
    rw [hr] at hreached
    have htaken : d.settle = ss.foldlM Draft.take {} := hreached.settle_eq
    rw [← htaken, ← Draft.finish_eq]
    rfl

end CommandLine

end BlackBox
