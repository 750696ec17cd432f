import BlackBox.Proofs.Running
import BlackBox.Proofs.TestCase

/-!
# The name of a test

The name of a test is computed twice. A test file looks the key `test` up among the entries of a
test case before they are read, so that a test case with an error has a name as well, and reading
the entries gives the test case a name of its own. The two places differ in one respect: reading
passes over the tags of keys, and looking up does not.

Reading accepts one key of the name at most, with or without tags (`foldlM_name`). So the two names
are the same unless that key has a tag, for then nothing is found by looking it up
(`testId_names_entry`).
-/

namespace BlackBox

open Yaml (Value)

/-! ## Looking up a key -/

namespace Yaml.Value

variable {key : String} {k v : Value} {entries : List (Value × Value)}

/-- A text is the same as a key only if the key is that text without a tag. -/
theorem same_string_iff : same (string key) k = true ↔ k = string key := by
  cases k with
  | string s => rw [same, beq_iff_eq, string.injEq, eq_comm]
  | _ => exact ⟨nofun, nofun⟩

/-- The value of a key is that of the first entry with the key. -/
theorem lookup_eq_some_iff : lookup key entries = some v ↔
    ∃ before after, entries = before ++ (string key, v) :: after ∧
      ∀ w, (string key, w) ∉ before := by
  rw [lookup, Option.map_eq_some_iff]
  constructor
  · rintro ⟨e, hfind, rfl⟩
    obtain ⟨hsame, before, after, hentries, hbefore⟩ := List.find?_eq_some_iff_append.mp hfind
    have hkey : e.1 = string key := same_string_iff.mp hsame
    refine ⟨before, after, by rw [hentries, ← hkey], fun w hw => ?_⟩
    have hother := hbefore _ hw
    rw [same_string_iff.mpr rfl] at hother
    contradiction
  · rintro ⟨before, after, hentries, hbefore⟩
    have hother : ∀ e ∈ before, (!same (string key) e.1) = true := by
      intro e he
      rw [Bool.not_eq_true', Bool.eq_false_iff, ne_eq, same_string_iff]
      exact fun hkey => hbefore e.2 (hkey ▸ he)
    exact ⟨_, List.find?_eq_some_iff_append.mpr
      ⟨same_string_iff.mpr rfl, before, after, hentries, hother⟩, rfl⟩

/-- A key is not found if no entry has it. -/
theorem lookup_eq_none_iff : lookup key entries = none ↔ ∀ v, (string key, v) ∉ entries := by
  rw [lookup, Option.map_eq_none_iff, List.find?_eq_none]
  constructor
  · exact fun h v hv => h _ hv (same_string_iff.mpr rfl)
  · exact fun h e he hsame => h e.2 (same_string_iff.mp hsame ▸ he)

end Yaml.Value

namespace TestCase

variable {d d' : Draft} {t : TestCase} {f : Field} {k v : Value} {e : Value × Value}
  {entries : List (Value × Value)}

/-! ## The name that is read -/

/-- A key of the name of a test case, under any tags. -/
def IsNameKey (k : Value) : Prop := Under (.string "test") k

/-- Without its tags a key of the name is the text of it. -/
theorem isNameKey_iff : IsNameKey k ↔ untag k = .string "test" := by
  constructor
  · exact Under.untag_string
  · intro h
    have hunder := under_untag k
    rwa [h] at hunder

/-- A key is that of the name if the name is the field with the key. -/
theorem eq_test_of_ofKey? {key : String} (h : Field.ofKey? key = some .test) : key = "test" := by
  rw [Field.ofKey?] at h
  have hkey := List.find?_some h
  exact (of_decide_eq_true hkey).symm

/-- A result that has been changed comes from one before the change. -/
theorem exists_of_map_eq_ok {α β : Type} {x : Except Malformed α} {g : α → β} {b : β}
    (h : x.map g = .ok b) : ∃ a, g a = b := by
  cases x with
  | error e => contradiction
  | ok a => exact ⟨a, Except.ok.inj h⟩

/-- No field but the name changes the name. -/
theorem Draft.put_name_of_ne (hf : f ≠ .test) (h : d.put f v = .ok d') : d'.name = d.name := by
  cases f with
  | test => contradiction
  | source =>
    obtain ⟨s, rfl⟩ := exists_of_map_eq_ok h
    rfl
  | args =>
    obtain ⟨s, rfl⟩ := exists_of_map_eq_ok h
    rfl
  | out =>
    obtain ⟨e, rfl⟩ := exists_of_map_eq_ok h
    rfl
  | exitCode =>
    obtain ⟨n, rfl⟩ := exists_of_map_eq_ok h
    rfl

/-- The value of the name gives the name. -/
theorem Draft.put_name_of_test (h : d.put .test v = .ok d') :
    ∃ name, Names v name ∧ d'.name = some name := by
  cases hname : nameOf? v with
  | none => simp only [put, hname, reduceCtorEq] at h
  | some name =>
    simp only [put, hname, Except.ok.injEq] at h
    exact ⟨name, nameOf?_eq_some_iff.mp hname, h ▸ rfl⟩

/-- The entry of a key of the name is read if there is no name yet, and gives it. -/
theorem Draft.step_name_of_isNameKey (hk : IsNameKey e.1) (h : d.step e = .ok d') :
    d.name = none ∧ ∃ name, Names e.2 name ∧ d'.name = some name := by
  have hfield : Field.ofKey? "test" = some .test := rfl
  simp only [step, isNameKey_iff.mp hk, hfield] at h
  split_ifs at h with hhas
  have hnone : d.name = none := Option.not_isSome_iff_eq_none.mp hhas
  exact ⟨hnone, put_name_of_test h⟩

/-- The entry of any other key leaves the name as it is. -/
theorem Draft.step_name_of_not_isNameKey (hk : ¬IsNameKey e.1) (h : d.step e = .ok d') :
    d'.name = d.name := by
  rw [isNameKey_iff] at hk
  unfold step at h
  split at h
  · next key hkey =>
    split at h
    · next f hf =>
      have hne : f ≠ .test := by
        rintro rfl
        exact hk (hkey.trans (congrArg _ (eq_test_of_ofKey? hf)))
      split_ifs at h
      exact put_name_of_ne hne h
    · exact congrArg Draft.name (Except.ok.inj h).symm
  · contradiction

/-- Entries of which exactly one has a key of the name, with the given key and value. -/
def OnlyName (entries : List (Value × Value)) (k v : Value) : Prop :=
  ∃ before after, entries = before ++ (k, v) :: after ∧ IsNameKey k ∧
    ∀ e ∈ before ++ after, ¬IsNameKey e.1

/-- What entries that are read do to the name: they leave it as it is if none of them has a key of
the name; otherwise there is one such entry, it gives the name, and there is none before. -/
theorem foldlM_name (h : entries.foldlM Draft.step d = .ok d') :
    ((∀ e ∈ entries, ¬IsNameKey e.1) ∧ d'.name = d.name) ∨
      (d.name = none ∧ ∃ k v name, OnlyName entries k v ∧ Names v name ∧ d'.name = some name) := by
  induction entries generalizing d with
  | nil =>
    obtain rfl : d = d' := Except.ok.inj h
    exact .inl ⟨nofun, rfl⟩
  | cons e entries ih =>
    rw [List.foldlM_cons] at h
    cases hstep : d.step e with
    | error fault =>
      rw [hstep] at h
      contradiction
    | ok mid =>
      rw [hstep] at h
      have hrest := ih h
      by_cases hk : IsNameKey e.1
      · -- The entry gives the name, so that the rest cannot give it again.
        obtain ⟨hnone, name, hnames, hmid⟩ := Draft.step_name_of_isNameKey hk hstep
        have hsome : mid.name ≠ none := by rw [hmid]; exact Option.some_ne_none name
        obtain ⟨hno, hname⟩ := hrest.resolve_right fun hr => hsome hr.1
        exact .inr ⟨hnone, e.1, e.2, name, ⟨[], entries, rfl, hk, hno⟩, hnames, hname.trans hmid⟩
      · -- The entry leaves the name to the rest.
        have hmid : mid.name = d.name := Draft.step_name_of_not_isNameKey hk hstep
        rw [hmid] at hrest
        rcases hrest with ⟨hno, hname⟩ | ⟨hnone, k, v, name, honly, hnames, hname⟩
        · exact .inl ⟨List.forall_mem_cons.mpr ⟨hk, hno⟩, hname⟩
        · obtain ⟨before, after, rfl, hkey, hno⟩ := honly
          have hno' : ∀ a ∈ (e :: before) ++ after, ¬IsNameKey a.1 :=
            List.forall_mem_cons.mpr ⟨hk, hno⟩
          exact .inr ⟨hnone, k, v, name, ⟨e :: before, after, rfl, hkey, hno'⟩, hnames, hname⟩

/-- The name of a test case that is read is given by the only key of the name among its entries, or
it is that of a test case without one. -/
theorem name_of_ofEntries (h : ofEntries entries = .ok t) :
    ((∀ e ∈ entries, ¬IsNameKey e.1) ∧ t.name = "No description") ∨
      ∃ k v, OnlyName entries k v ∧ Names v t.name := by
  cases hd : entries.foldlM Draft.step {} with
  | error e =>
    rw [ofEntries, hd] at h
    contradiction
  | ok d =>
    rw [ofEntries, hd] at h
    obtain rfl : d.finish = t := Except.ok.inj h
    rcases foldlM_name hd with ⟨hno, hname⟩ | ⟨-, k, v, name, honly, hnames, hname⟩
    · exact .inl ⟨hno, by rw [Draft.finish, hname]; rfl⟩
    · refine .inr ⟨k, v, honly, ?_⟩
      rw [Draft.finish, hname]
      exact hnames

end TestCase

namespace TestFile

open TestCase (IsNameKey OnlyName Names Under)

variable {entries : Entries} {k v : Value} {name : String}

/-! ## The name that is looked up -/

/-- The plain key `test` has a value: it is that of the first entry with this key, without a tag. -/
def PlainName (entries : Entries) (v : Value) : Prop :=
  ∃ before after, entries = before ++ (.string "test", v) :: after ∧
    ∀ w, (.string "test", w) ∉ before

/-- The name that is looked up is given by the value of the plain key. -/
theorem nameOf_of_names (hv : PlainName entries v) (hname : Names v name) :
    nameOf entries = name := by
  have hlookup : Value.lookup TestCase.Field.test.key entries = some v :=
    Value.lookup_eq_some_iff.mpr hv
  rw [nameOf, hlookup, Option.bind_some, TestCase.nameOf?_eq_some_iff.mpr hname, Option.getD_some]

/-- A value of the plain key that gives no name is passed over, as the null value is. -/
theorem nameOf_of_not_names (hv : PlainName entries v) (hno : ∀ name, ¬Names v name) :
    nameOf entries = "No description" := by
  have hlookup : Value.lookup TestCase.Field.test.key entries = some v :=
    Value.lookup_eq_some_iff.mpr hv
  have hnone : TestCase.nameOf? v = none := by
    rw [Option.eq_none_iff_forall_ne_some]
    exact fun name hname => hno name (TestCase.nameOf?_eq_some_iff.mp hname)
  rw [nameOf, hlookup, Option.bind_some, hnone]
  rfl

/-- Without the plain key there is no name. -/
theorem nameOf_of_absent (hno : ∀ v, (.string "test", v) ∉ entries) :
    nameOf entries = "No description" := by
  have hlookup : Value.lookup TestCase.Field.test.key entries = none :=
    Value.lookup_eq_none_iff.mpr hno
  rw [nameOf, hlookup]
  rfl

/-- The only key of the name has a value by the plain key if it has no tag. -/
theorem plainName_of_onlyName (h : OnlyName entries (.string "test") v) : PlainName entries v := by
  obtain ⟨before, after, hentries, -, hno⟩ := h
  exact ⟨before, after, hentries, fun w hw => hno _ (List.mem_append_left after hw) .bare⟩

/-- If the only key of the name has a tag there is no plain key. -/
theorem absent_of_onlyName {tag : String} (h : OnlyName entries (.tagged tag k) v) (w : Value) :
    (.string "test", w) ∉ entries := by
  obtain ⟨before, after, rfl, -, hno⟩ := h
  rw [List.mem_append, List.mem_cons]
  rintro (hw | hw | hw)
  · exact hno _ (List.mem_append_left after hw) .bare
  · exact nomatch hw
  · exact hno _ (List.mem_append_right before hw) .bare

/-! ## Both names -/

/-- Whatever becomes of an entry, its verdict has the name that is looked up. -/
theorem testId_runEntry (lib : Libraries) (d : Disk) (env : Environment) (file : String)
    (entries : Entries) :
    (runEntry lib d env file entries).testId = file ++ " -> " ++ nameOf entries := by
  cases ht : TestCase.ofEntries entries with
  | error e => rw [runEntry_of_malformed ht, Verdict.fail]
  | ok t =>
    cases hr : Runner.run lib d env t with
    | error f => rw [runEntry_of_failure ht hr, Verdict.fail]
    | ok o => rw [runEntry_of_outcome ht hr, Verdict.testId_ofOutcome]

/-- A test case has a tagged name if the only key of the name among its entries has a tag. -/
def TaggedName (entries : Entries) : Prop := ∃ tag k v, OnlyName entries (.tagged tag k) v

/-- The name that is read is the one that is looked up, unless the only key of the name has a tag;
then no name is found. -/
theorem nameOf_of_ofEntries {t : TestCase} (h : TestCase.ofEntries entries = .ok t) :
    (¬TaggedName entries → nameOf entries = t.name) ∧
      (TaggedName entries → nameOf entries = "No description") := by
  constructor
  · intro htagged
    rcases TestCase.name_of_ofEntries h with ⟨hno, hname⟩ | ⟨k, v, honly, hnames⟩
    · rw [hname]
      exact nameOf_of_absent fun w hw => hno _ hw .bare
    · -- A key of the name without a tag is the plain key.
      have hkey : IsNameKey k := honly.choose_spec.choose_spec.2.1
      cases hkey with
      | bare => exact nameOf_of_names (plainName_of_onlyName honly) hnames
      | tag tag _ => exact absurd ⟨tag, _, v, honly⟩ htagged
  · rintro ⟨tag, k, v, honly⟩
    exact nameOf_of_absent (absent_of_onlyName honly)

/-- The verdict on an entry is named by the path of the file as it is shown and the name of the
test. For entries that make a test case this is the name of the test case, with one exception: if
the only key of the name has a tag, the test is reported as one without a name. For entries that
make none it is the text of the plain key's value if that is a scalar, and that of a test without a
name otherwise. -/
theorem testId_names_entry (lib : Libraries) (d : Disk) (env : Environment) (path : String)
    (entries : Entries) :
    let file := Path.display d.current path
    let testId := (runEntry lib d env file entries).testId
    (∀ t, TestCase.ofEntries entries = .ok t →
      (¬TaggedName entries → testId = file ++ " -> " ++ t.name) ∧
      (TaggedName entries → testId = file ++ " -> " ++ "No description")) ∧
    ∀ e, TestCase.ofEntries entries = .error e →
      (∀ v name, PlainName entries v → Names v name → testId = file ++ " -> " ++ name) ∧
      ((∀ v, (.string "test", v) ∉ entries) → testId = file ++ " -> " ++ "No description") ∧
      ∀ v, PlainName entries v → (v = .null ∨ (∃ tag w, v = .tagged tag w) ∨
        (∃ items, v = .sequence items) ∨ ∃ es, v = .mapping es) →
        testId = file ++ " -> " ++ "No description" := by
  intro file testId
  have htestId : testId = file ++ " -> " ++ nameOf entries := testId_runEntry lib d env file entries
  rw [htestId]
  refine ⟨fun t ht => ?_, fun e _ =>
    ⟨fun v name hv hname => ?_, fun hno => ?_, fun v hv hkind => ?_⟩⟩
  · obtain ⟨hplain, htagged⟩ := nameOf_of_ofEntries ht
    exact ⟨fun h => by rw [hplain h], fun h => by rw [htagged h]⟩
  · rw [nameOf_of_names hv hname]
  · rw [nameOf_of_absent hno]
  · rcases hkind with rfl | ⟨tag, w, rfl⟩ | ⟨items, rfl⟩ | ⟨es, rfl⟩
    · rw [nameOf_of_names hv .null]
    · rw [nameOf_of_not_names hv nofun]
    · rw [nameOf_of_not_names hv nofun]
    · rw [nameOf_of_not_names hv nofun]

/-- An entry whose only key of the name has a tag. -/
def taggedEntry : Entries := [(.tagged "x" (.string "test"), .string "n")]

/-- An entry with a name and an exit code that is none. -/
def faultyEntry : Entries := [(.string "exit_code", .string "one"), (.string "test", .int 42)]

/-- The name under a tag is that of the test case but not of its verdict, and a name in front of
which there is an error is that of its verdict. -/
theorem testId_names_entry_sample :
    TestCase.ofEntries taggedEntry = .ok { name := "n" } ∧
      (runEntry plainLibraries ⟨.empty, "/w"⟩ ⟨"/p"⟩ "t.yaml" taggedEntry).testId =
        "t.yaml -> No description" ∧
      (runEntry plainLibraries ⟨.empty, "/w"⟩ ⟨"/p"⟩ "t.yaml" faultyEntry).testId =
        "t.yaml -> 42" := by
  have hfile : Path.display "/w" "/w/t.yaml" = "t.yaml" := by decide
  have hok : TestCase.ofEntries taggedEntry = .ok { name := "n" } := rfl
  have htagged : TaggedName taggedEntry :=
    ⟨"x", .string "test", .string "n", [], [], rfl, .tag "x" .bare, nofun⟩
  have hplain : PlainName faultyEntry (.int 42) :=
    ⟨[(.string "exit_code", .string "one")], [], rfl, by simp⟩
  obtain ⟨hread, -⟩ :=
    testId_names_entry plainLibraries ⟨.empty, "/w"⟩ ⟨"/p"⟩ "/w/t.yaml" taggedEntry
  obtain ⟨-, hfault⟩ :=
    testId_names_entry plainLibraries ⟨.empty, "/w"⟩ ⟨"/p"⟩ "/w/t.yaml" faultyEntry
  rw [hfile] at hread hfault
  exact ⟨hok, (hread _ hok).2 htagged, (hfault _ rfl).1 _ _ hplain (.int 42)⟩

end TestFile

end BlackBox
