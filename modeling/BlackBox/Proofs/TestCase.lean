import Mathlib.Data.List.Basic
import BlackBox.TestCase

/-!
# What makes a test case

Each known field of a test case has a shape of its own, `Gives`, which says what a value gives to
the field. A mapping with plain texts as keys is a test case exactly if every known field in it is
well shaped. Its fields are then what their values give, those that are left out have their
defaults, and nothing else in the mapping counts (`Reads`). Otherwise the error is that of the first
field in document order that is not well shaped (`FirstFault`).

The proof reads the entries one by one. A draft takes over the field of an entry as it is in some
test case that the entry gives the field to (`Draft.take`), so all that the fold has to carry is
that no field of the draft is among the entries that are left (`foldlM_step`).
-/

namespace BlackBox.TestCase

open Yaml (Value)

variable {v : Value} {f : Field} {t t' : TestCase} {entries entries' : List (Value × Value)}

/-! ## Tags -/

/-- A value, possibly under local tags. -/
inductive Under (v : Value) : Value → Prop
  /-- The value itself. -/
  | bare : Under v v
  /-- The value under one more tag. -/
  | tag {w : Value} (name : String) : Under v w → Under v (.tagged name w)

/-- There is a local tag on a value or anywhere inside it. -/
inductive TagIn : Value → Prop
  /-- On the value. -/
  | here (name : String) (v : Value) : TagIn (.tagged name v)
  /-- In an item of a sequence. -/
  | item {items : List Value} {v : Value} : v ∈ items → TagIn v → TagIn (.sequence items)
  /-- In a key of a mapping. -/
  | key {entries : List (Value × Value)} {e : Value × Value} :
    e ∈ entries → TagIn e.1 → TagIn (.mapping entries)
  /-- In a value of a mapping. -/
  | value {entries : List (Value × Value)} {e : Value × Value} :
    e ∈ entries → TagIn e.2 → TagIn (.mapping entries)

/-- Without its tags a value is what it is under them. -/
theorem under_untag (v : Value) : Under (untag v) v := by
  fun_induction untag v with
  | case1 name v ih => exact .tag name ih
  | case2 v _ => exact .bare

/-- A text under tags is what is left without them. -/
theorem Under.untag_string {s : String} (h : Under (.string s) v) : untag v = .string s := by
  induction h with
  | bare => rfl
  | tag name _ ih => exact ih

/-- A whole number under tags is what is left without them. -/
theorem Under.untag_int {n : Int} (h : Under (.int n) v) : untag v = .int n := by
  induction h with
  | bare => rfl
  | tag name _ ih => exact ih

mutual

/-- The search for tags in a value finds them. -/
theorem hasTag_iff (v : Value) : hasTag v = true ↔ TagIn v := by
  match v with
  | .tagged name v => exact ⟨fun _ => .here name v, fun _ => rfl⟩
  | .sequence items =>
    rw [hasTag, anyTag_iff items]
    constructor
    · rintro ⟨v, hv, h⟩
      exact .item hv h
    · rintro (_ | ⟨hv, h⟩)
      exact ⟨_, hv, h⟩
  | .mapping entries =>
    rw [hasTag, anyEntryTag_iff entries]
    constructor
    · rintro ⟨e, he, h | h⟩
      · exact .key he h
      · exact .value he h
    · rintro (_ | _ | ⟨he, h⟩ | ⟨he, h⟩)
      · exact ⟨_, he, .inl h⟩
      · exact ⟨_, he, .inr h⟩
  | .null | .bool _ | .int _ | .float _ | .string _ => exact ⟨nofun, nofun⟩

/-- The search for tags in some values finds them. -/
theorem anyTag_iff (vs : List Value) : anyTag vs = true ↔ ∃ v ∈ vs, TagIn v := by
  match vs with
  | [] => simp [anyTag]
  | v :: vs => rw [anyTag, Bool.or_eq_true, hasTag_iff v, anyTag_iff vs, List.exists_mem_cons_iff]

/-- The search for tags in some entries finds them. -/
theorem anyEntryTag_iff (entries : List (Value × Value)) :
    anyEntryTag entries = true ↔ ∃ e ∈ entries, TagIn e.1 ∨ TagIn e.2 := by
  match entries with
  | [] => simp [anyEntryTag]
  | (k, v) :: entries =>
    rw [anyEntryTag, Bool.or_eq_true, Bool.or_eq_true, hasTag_iff k, hasTag_iff v,
      anyEntryTag_iff entries, List.exists_mem_cons_iff]

end

/-! ## Shapes -/

/-- Entries with plain texts as keys, of which no two are the same. -/
structure Plain (entries : List (Value × Value)) : Prop where
  /-- Every key is a text. -/
  texts : ∀ e ∈ entries, ∃ key, e.1 = .string key
  /-- No key comes twice. -/
  distinct : (entries.map Prod.fst).Nodup

/-- Entries of a test case with plain texts as keys, also within an expected output that is a
mapping. -/
structure PlainCase (entries : List (Value × Value)) : Prop extends Plain entries where
  /-- The keys within the expected output. -/
  out : ∀ es, (.string "out", .mapping es) ∈ entries → Plain es

/-- What is left of plain entries after the first is plain. -/
theorem PlainCase.tail {e : Value × Value} (h : PlainCase (e :: entries)) : PlainCase entries where
  texts := fun e he => h.texts e (List.mem_cons_of_mem _ he)
  distinct := (List.nodup_cons.mp h.distinct).2
  out := fun es hes => h.out es (List.mem_cons_of_mem _ hes)

/-- A value of a field has plain keys if it is an expected output that is a mapping. -/
def PlainValue (f : Field) (v : Value) : Prop := f = .out → ∀ es, v = .mapping es → Plain es

/-- The values of the fields of a test case have plain keys. -/
theorem PlainCase.value (h : PlainCase entries) (hv : (.string f.key, v) ∈ entries) :
    PlainValue f v := by
  rintro rfl es rfl
  exact h.out es hv

/-- A scalar without a tag names a test case by its text. The null value gives it the name of a test
case without one. -/
inductive Names : Value → String → Prop
  /-- The null value. -/
  | null : Names .null "No description"
  /-- A truth value. -/
  | bool (b : Bool) : Names (.bool b) (if b then "true" else "false")
  /-- A whole number. -/
  | int (n : Int) : Names (.int n) (toString n)
  /-- A floating-point number. -/
  | float (x : Number.Binary64) : Names (.float x) (Number.Layout.document.write x)
  /-- A text. -/
  | string (s : String) : Names (.string s) s

/-- An output is expected by a text, or by the pattern of a mapping without tags. -/
inductive Expects : Value → Expectation → Prop
  /-- A text. -/
  | exact (s : String) : Expects (.string s) (.exact s)
  /-- A mapping with a pattern. -/
  | regex {entries : List (Value × Value)} {p : String} :
    (.string "regex", .string p) ∈ entries → ¬ TagIn (.mapping entries) →
    Expects (.mapping entries) (.regex p)

/-- What a value gives to a field of a test case. -/
def Gives : Field → Value → TestCase → Prop
  | .test, v, t => Names v t.name
  | .source, v, t => Under (.string t.source) v
  | .args, v, t => Under (.string t.args) v
  | .out, v, t => Expects v t.expected
  | .exitCode, v, t =>
    Under (.int t.exitCode) v ∧ -2147483648 ≤ t.exitCode ∧ t.exitCode < 2147483648

/-- A value is well shaped for a field if it gives something to it. -/
def Shaped (f : Field) (v : Value) : Prop := ∃ t, Gives f v t

/-- The error of a value that is not well shaped for a field. -/
def fault : Field → Value → Malformed
  | .test, _ => .name
  | .source, v => .wrongType v "a string"
  | .args, v => .wrongType v "a string"
  | .out, v => if hasTag v then .taggedExpectation else .expectation
  | .exitCode, v =>
    match untag v with
    | .int n => .outOfRange n
    | _ => .wrongType v "i32"

/-! ## Reading a value -/

/-- The name that a value gives is found. -/
theorem nameOf?_eq_some_iff {name : String} : nameOf? v = some name ↔ Names v name := by
  constructor
  · intro h
    cases v with
    | null =>
      obtain rfl := Option.some.inj h
      exact .null
    | bool b =>
      obtain rfl := Option.some.inj h
      exact .bool b
    | int n =>
      obtain rfl := Option.some.inj h
      exact .int n
    | float x =>
      obtain rfl := Option.some.inj h
      exact .float x
    | string s =>
      obtain rfl := Option.some.inj h
      exact .string s
    | sequence _ => contradiction
    | mapping _ => contradiction
    | tagged _ _ => contradiction
  · rintro (_ | _ | _ | _ | _) <;> rfl

/-- A text is read, under any tags. -/
theorem text?_of_under {s : String} (h : Under (.string s) v) : text? v = .ok s := by
  rw [text?, h.untag_string]

/-- What is no text is of a wrong type. -/
theorem text?_of_not_under (h : ∀ s, ¬ Under (.string s) v) :
    text? v = .error (.wrongType v "a string") := by
  unfold text?
  split
  · next s hs => exact absurd (hs ▸ under_untag v) (h s)
  · rfl

/-- A whole number of 32 bits is read, under any tags. -/
theorem exitCode?_of_under {n : Int} (h : Under (.int n) v) (hlow : -2147483648 ≤ n)
    (hhigh : n < 2147483648) : exitCode? v = .ok n := by
  rw [exitCode?, h.untag_int]
  exact if_pos ⟨hlow, hhigh⟩

/-- What is no whole number of 32 bits is out of range or of a wrong type. -/
theorem exitCode?_of_not_under (h : ∀ n, Under (.int n) v → -2147483648 ≤ n → ¬ n < 2147483648) :
    exitCode? v = .error (fault .exitCode v) := by
  cases hv : untag v with
  | int n =>
    have hno := h n (hv ▸ under_untag v)
    simp only [exitCode?, fault, hv]
    exact if_neg fun hrange => hno hrange.1 hrange.2
  | _ => simp only [exitCode?, fault, hv]

/-- The first of distinct keys does not come again. -/
theorem not_mem_of_distinct {k w : Value} (h : (((k, v) :: entries).map Prod.fst).Nodup) :
    (k, w) ∉ entries := by
  rw [List.map_cons, List.nodup_cons] at h
  exact fun hw => h.1 (List.mem_map.mpr ⟨(k, w), hw, rfl⟩)

/-- Among entries with distinct keys, a test for one of the keys keeps its entry alone. -/
theorem filter_eq_singleton {p : Value → Bool} {k w : Value}
    (hdistinct : (entries.map Prod.fst).Nodup) (hmem : (k, w) ∈ entries)
    (hp : ∀ e ∈ entries, p e.1 = true ↔ e.1 = k) : entries.filter (fun e => p e.1) = [(k, w)] := by
  induction entries with
  | nil => contradiction
  | cons e es ih =>
    obtain ⟨k', v⟩ := e
    rcases List.mem_cons.mp hmem with hhead | htail
    · obtain ⟨rfl, rfl⟩ := Prod.mk.inj hhead
      have hnone : es.filter (fun e => p e.1) = [] := by
        rw [List.filter_eq_nil_iff]
        intro e he hpe
        obtain rfl := (hp e (List.mem_cons_of_mem _ he)).mp hpe
        exact not_mem_of_distinct hdistinct he
      rw [List.filter_cons, if_pos ((hp _ List.mem_cons_self).mpr rfl), hnone]
    · have hne : ¬ p k' = true := by
        rw [hp _ List.mem_cons_self]
        rintro rfl
        exact not_mem_of_distinct hdistinct htail
      rw [List.filter_cons, if_neg hne]
      exact ih (List.nodup_cons.mp hdistinct).2 htail fun e he => hp e (List.mem_cons_of_mem _ he)

/-- Among plain keys, that of a pattern is the text of it. -/
theorem Plain.isRegexKey_iff (h : Plain entries) {e : Value × Value} (he : e ∈ entries) :
    isRegexKey e.1 = true ↔ e.1 = .string "regex" := by
  obtain ⟨key, hkey⟩ := h.texts e he
  rw [hkey, isRegexKey, beq_iff_eq, Value.string.injEq]

/-- The pattern of entries with plain keys is the text of its key. -/
theorem Plain.pattern?_eq_some_iff (h : Plain entries) {p : String} :
    pattern? entries = some p ↔ (.string "regex", .string p) ∈ entries := by
  have hkeys : (entries.all fun e => isPatternKey e.1) = true := by
    rw [List.all_eq_true]
    intro e he
    obtain ⟨key, hkey⟩ := h.texts e he
    rw [hkey, isPatternKey]
  rw [pattern?, if_pos hkeys]
  constructor
  · intro hp
    split at hp
    · next k q hfilter =>
      obtain rfl := Option.some.inj hp
      have hmem : (k, .string q) ∈ entries.filter fun e => isRegexKey e.1 := by
        rw [hfilter]
        exact List.mem_cons_self
      obtain ⟨hmem, hk⟩ := List.mem_filter.mp hmem
      rwa [← (h.isRegexKey_iff hmem).mp hk]
    · contradiction
  · intro hmem
    rw [filter_eq_singleton h.distinct hmem fun e he => h.isRegexKey_iff he]

/-- The expected output that a value describes is read. -/
theorem expectation?_of_expects (hplain : ∀ es, v = .mapping es → Plain es) {e : Expectation}
    (h : Expects v e) : expectation? v = .ok e := by
  cases h with
  | exact s => rfl
  | regex hmem htag =>
    rw [expectation?, if_neg (mt (hasTag_iff _).mp htag)]
    simp only [(hplain _ rfl).pattern?_eq_some_iff.mpr hmem]

/-- What describes no expected output has a tag or is of a wrong shape. -/
theorem expectation?_of_not_expects (hplain : ∀ es, v = .mapping es → Plain es)
    (h : ∀ e, ¬ Expects v e) : expectation? v = .error (fault .out v) := by
  by_cases htag : hasTag v = true
  · simp only [expectation?, fault, htag, if_true]
  · simp only [expectation?, fault, htag, Bool.false_eq_true, if_false]
    split
    · next s => exact absurd (.exact s) (h _)
    · next es =>
      cases hp : pattern? es with
      | none => rfl
      | some p =>
        have hmem := (hplain es rfl).pattern?_eq_some_iff.mp hp
        exact absurd (.regex hmem (mt (hasTag_iff _).mpr htag)) (h _)
    · rfl

/-! ## Reading a field -/

/-- Two test cases are the same in a field. -/
def SameAt (t t' : TestCase) : Field → Prop
  | .test => t.name = t'.name
  | .source => t.source = t'.source
  | .args => t.args = t'.args
  | .out => t.expected = t'.expected
  | .exitCode => t.exitCode = t'.exitCode

/-- Test cases that are the same in every field are the same. -/
theorem eq_of_sameAt (h : ∀ f, SameAt t t' f) : t = t' := by
  rw [TestCase.mk.injEq]
  exact ⟨h .test, h .source, h .args, h .out, h .exitCode⟩

/-- A test case is the same as itself in every field. -/
theorem SameAt.refl (t : TestCase) (f : Field) : SameAt t t f := by
  cases f <;> exact Eq.refl _

/-- To be the same in a field is symmetric. -/
theorem SameAt.symm (h : SameAt t t' f) : SameAt t' t f := by
  cases f <;> exact Eq.symm h

/-- To be the same in a field is transitive. -/
theorem SameAt.trans {t'' : TestCase} (h : SameAt t t' f) (h' : SameAt t' t'' f) :
    SameAt t t'' f := by
  cases f <;> exact Eq.trans h h'

/-- What a value gives to a field depends on no other field. -/
theorem Gives.of_sameAt (hg : Gives f v t) (h : SameAt t' t f) : Gives f v t' := by
  cases f <;> simp only [Gives, SameAt] at hg h ⊢ <;> rwa [h]

namespace Draft

/-- A draft that takes over a field of a test case. -/
def take (d : Draft) (t : TestCase) : Field → Draft
  | .test => { d with name := some t.name }
  | .source => { d with source := some t.source }
  | .args => { d with args := some t.args }
  | .out => { d with expected := some t.expected }
  | .exitCode => { d with exitCode := some t.exitCode }

variable {d : Draft} {g : Field}

/-- The field that is taken over is as in the test case. -/
theorem finish_take_self (d : Draft) (t : TestCase) (f : Field) :
    SameAt (d.take t f).finish t f := by
  cases f <;> exact Eq.refl _

/-- No other field changes when one is taken over. -/
theorem finish_take_of_ne (h : g ≠ f) : SameAt (d.take t f).finish d.finish g := by
  cases f <;> cases g <;> first | exact Eq.refl _ | contradiction

/-- No other field is read when one is taken over. -/
theorem has_take_of_ne (h : g ≠ f) : (d.take t f).has g = d.has g := by
  cases f <;> cases g <;> first | exact Eq.refl _ | contradiction

/-- From a value that is well shaped the draft takes over what it gives to the field. -/
theorem put_of_gives (hplain : PlainValue f v) (h : Gives f v t) :
    d.put f v = .ok (d.take t f) := by
  cases f with
  | test => simp only [put, nameOf?_eq_some_iff.mpr h, take]
  | source => simp only [put, text?_of_under h, Except.map, take]
  | args => simp only [put, text?_of_under h, Except.map, take]
  | out => simp only [put, expectation?_of_expects (hplain rfl) h, Except.map, take]
  | exitCode => simp only [put, exitCode?_of_under h.1 h.2.1 h.2.2, Except.map, take]

/-- A value that is not well shaped is an error. -/
theorem put_of_not_shaped (hplain : PlainValue f v) (h : ¬ Shaped f v) :
    d.put f v = .error (fault f v) := by
  cases f with
  | test =>
    have hname : nameOf? v = none := by
      rw [Option.eq_none_iff_forall_ne_some]
      intro name hn
      exact h ⟨{ name }, nameOf?_eq_some_iff.mp hn⟩
    simp only [put, hname, fault]
  | source =>
    have htext := text?_of_not_under fun s hs => h ⟨{ source := s }, hs⟩
    simp only [put, htext, Except.map, fault]
  | args =>
    have htext := text?_of_not_under fun s hs => h ⟨{ args := s }, hs⟩
    simp only [put, htext, Except.map, fault]
  | out =>
    have hout := expectation?_of_not_expects (hplain rfl) fun e he => h ⟨{ expected := e }, he⟩
    simp only [put, hout, Except.map]
  | exitCode =>
    have hcode := exitCode?_of_not_under fun n hn hlow hhigh =>
      h ⟨{ exitCode := n }, hn, hlow, hhigh⟩
    simp only [put, hcode, Except.map]

end Draft

/-- A value gives one thing only to a field, namely what is read. -/
theorem Gives.sameAt (hplain : PlainValue f v) (h : Gives f v t) (h' : Gives f v t') :
    SameAt t t' f := by
  have htake : ({} : Draft).take t f = ({} : Draft).take t' f :=
    Except.ok.inj ((Draft.put_of_gives hplain h).symm.trans (Draft.put_of_gives hplain h'))
  have hself := Draft.finish_take_self {} t f
  rw [htake] at hself
  exact hself.symm.trans (Draft.finish_take_self {} t' f)

/-! ## Reading the entries -/

/-- Different fields have different keys. -/
theorem key_injective {g : Field} (h : f.key = g.key) : f = g := by
  cases f <;> cases g <;> first | rfl | exact absurd h (by decide)

/-- The field with the key of a field is the field. -/
theorem ofKey?_key (f : Field) : Field.ofKey? f.key = some f := by
  cases f <;> rfl

/-- There is no field with a key that is that of no field. -/
theorem ofKey?_eq_none {key : String} (h : ∀ f : Field, key ≠ f.key) :
    Field.ofKey? key = none := by
  rw [Field.ofKey?, List.find?_eq_none]
  intro f _ hkey
  exact h f (of_decide_eq_true hkey).symm

/-- The entry of a known field is read as the value of the field. -/
theorem Draft.step_field {d : Draft} (h : d.has f = false) :
    d.step (.string f.key, v) = d.put f v := by
  simp only [Draft.step, untag, ofKey?_key, h, Bool.false_eq_true, if_false]

/-- The entry of an unknown key is ignored. -/
theorem Draft.step_unknown {d : Draft} {key : String} (h : ∀ f : Field, key ≠ f.key) :
    d.step (.string key, v) = .ok d := by
  simp only [Draft.step, untag, ofKey?_eq_none h]

/-- What entries say about a test case: the fields that they have are as their values give them, and
the others are as in a base. -/
structure Reads (entries : List (Value × Value)) (base t : TestCase) : Prop where
  /-- The fields that are given. -/
  given : ∀ f v, (.string (Field.key f), v) ∈ entries → Gives f v t
  /-- The fields that are left out. -/
  absent : ∀ f, (∀ v, (.string (Field.key f), v) ∉ entries) → SameAt t base f

/-- An error is that of the first value in the order of the entries that is not well shaped for its
field. -/
def FirstFault (entries : List (Value × Value)) (e : Malformed) : Prop :=
  ∃ before f v after, entries = before ++ (.string (Field.key f), v) :: after ∧
    (∀ g w, (.string (Field.key g), w) ∈ before → Shaped g w) ∧ ¬ Shaped f v ∧ e = fault f v

/-- An unknown key in front says nothing about a test case. -/
theorem Reads.cons_unknown {base : TestCase} {key : String} (h : ∀ f : Field, key ≠ f.key)
    (hr : Reads entries base t) : Reads ((.string key, v) :: entries) base t := by
  constructor
  · intro f w hw
    rcases List.mem_cons.mp hw with hhead | htail
    · rw [Prod.mk.injEq, Value.string.injEq] at hhead
      exact absurd hhead.1.symm (h f)
    · exact hr.given f w htail
  · intro f hno
    exact hr.absent f fun w hw => hno w (List.mem_cons_of_mem _ hw)

/-- A field in front says what its value gives to it. -/
theorem Reads.cons_field {base mid : TestCase}
    (hdistinct : (((.string f.key, v) :: entries).map Prod.fst).Nodup) (hg : Gives f v mid)
    (hmid : ∀ g, g ≠ f → SameAt mid base g) (hr : Reads entries mid t) :
    Reads ((.string f.key, v) :: entries) base t := by
  constructor
  · intro g w hw
    rcases List.mem_cons.mp hw with hhead | htail
    · -- The key does not come again, so the rest leaves the field as it is.
      rw [Prod.mk.injEq, Value.string.injEq] at hhead
      obtain rfl := key_injective hhead.1
      rw [hhead.2]
      exact hg.of_sameAt (hr.absent g fun w => not_mem_of_distinct hdistinct)
    · exact hr.given g w htail
  · intro g hno
    have hne : g ≠ f := by
      rintro rfl
      exact hno v List.mem_cons_self
    exact (hr.absent g fun w hw => hno w (List.mem_cons_of_mem _ hw)).trans (hmid g hne)

/-- The first fault is in front if the value there is not well shaped. -/
theorem FirstFault.here (h : ¬ Shaped f v) :
    FirstFault ((.string f.key, v) :: entries) (fault f v) :=
  ⟨[], f, v, entries, rfl, nofun, h, rfl⟩

/-- The first fault is further on if the value in front is well shaped or that of no field. -/
theorem FirstFault.later {k : Value} {e : Malformed}
    (h : ∀ f, k = .string (Field.key f) → Shaped f v) (hfault : FirstFault entries e) :
    FirstFault ((k, v) :: entries) e := by
  obtain ⟨before, f, w, after, rfl, hbefore, hw, rfl⟩ := hfault
  refine ⟨(k, v) :: before, f, w, after, rfl, fun g u hu => ?_, hw, rfl⟩
  rcases List.mem_cons.mp hu with hhead | htail
  · rw [Prod.mk.injEq] at hhead
    rw [hhead.2]
    exact h g hhead.1.symm
  · exact hbefore g u htail

/-- Entries add no field to a draft that it has. This is the invariant of the fold over entries with
distinct keys. -/
def Fresh (d : Draft) (entries : List (Value × Value)) : Prop :=
  ∀ f v, (.string (Field.key f), v) ∈ entries → d.has f = false

/-- The first of fresh entries adds its field, and the others remain fresh. -/
theorem Fresh.take {d : Draft} (h : Fresh d ((.string f.key, v) :: entries))
    (hdistinct : (((.string f.key, v) :: entries).map Prod.fst).Nodup) (t : TestCase) :
    Fresh (d.take t f) entries := by
  intro g w hw
  have hne : g ≠ f := by
    rintro rfl
    exact not_mem_of_distinct hdistinct hw
  rw [Draft.has_take_of_ne hne]
  exact h g w (List.mem_cons_of_mem _ hw)

/-- A draft that fresh entries are added to reads on until the first fault, and to the end if there
is none. -/
theorem foldlM_step (h : PlainCase entries) (d : Draft) (hfresh : Fresh d entries) :
    (∃ d', entries.foldlM Draft.step d = .ok d' ∧ Reads entries d.finish d'.finish) ∨
      ∃ e, entries.foldlM Draft.step d = .error e ∧ FirstFault entries e := by
  induction entries generalizing d with
  | nil => exact .inl ⟨d, rfl, nofun, fun f _ => .refl _ f⟩
  | cons e es ih =>
    obtain ⟨k, v⟩ := e
    obtain ⟨key, rfl⟩ : ∃ key, k = .string key := h.texts _ List.mem_cons_self
    rw [List.foldlM_cons]
    by_cases hknown : ∃ f : Field, key = f.key
    · -- A known field is read or is the first fault.
      obtain ⟨f, rfl⟩ := hknown
      have hplain : PlainValue f v := h.value List.mem_cons_self
      rw [Draft.step_field (hfresh f v List.mem_cons_self)]
      by_cases hv : Shaped f v
      · obtain ⟨t, ht⟩ := hv
        rw [Draft.put_of_gives hplain ht]
        -- The rest is read on top of what the value gives, which no later entry changes.
        rcases ih h.tail (d.take t f) (hfresh.take h.distinct t) with
          ⟨d', hd', hreads⟩ | ⟨e, he, hfirst⟩
        · refine .inl ⟨d', hd', hreads.cons_field h.distinct ?_ fun g hg => ?_⟩
          · exact ht.of_sameAt (Draft.finish_take_self d t f)
          · exact Draft.finish_take_of_ne hg
        · refine .inr ⟨e, he, hfirst.later fun g hg => ?_⟩
          obtain rfl := key_injective (Value.string.inj hg)
          exact ⟨t, ht⟩
      · rw [Draft.put_of_not_shaped hplain hv]
        exact .inr ⟨_, rfl, .here hv⟩
    · -- An unknown key leaves the draft as it is.
      push Not at hknown
      have hrest : Fresh d es := fun g w hw => hfresh g w (List.mem_cons_of_mem _ hw)
      rw [Draft.step_unknown hknown]
      rcases ih h.tail d hrest with ⟨d', hd', hreads⟩ | ⟨e, he, hfirst⟩
      · exact .inl ⟨d', hd', hreads.cons_unknown hknown⟩
      · exact .inr ⟨e, he, hfirst.later fun g hg => absurd (Value.string.inj hg) (hknown g)⟩

/-- Entries with plain keys either make a test case or have a first fault. -/
theorem ofEntries_cases (h : PlainCase entries) :
    (∃ t, ofEntries entries = .ok t ∧ Reads entries {} t) ∨
      ∃ e, ofEntries entries = .error e ∧ FirstFault entries e := by
  rcases foldlM_step h {} (fun f _ _ => by cases f <;> rfl) with ⟨d, hd, hr⟩ | ⟨e, he, hfirst⟩
  · refine .inl ⟨d.finish, ?_, hr⟩
    rw [ofEntries, hd, Except.map]
  · refine .inr ⟨e, ?_, hfirst⟩
    rw [ofEntries, he, Except.map]

/-- Entries say one thing only about a test case. -/
theorem Reads.unique {base : TestCase} (h : PlainCase entries) (hr : Reads entries base t)
    (hr' : Reads entries base t') : t = t' := by
  refine eq_of_sameAt fun f => ?_
  by_cases hf : ∃ v, (.string f.key, v) ∈ entries
  · obtain ⟨v, hv⟩ := hf
    exact (hr.given f v hv).sameAt (h.value hv) (hr'.given f v hv)
  · push Not at hf
    exact (hr.absent f hf).trans (hr'.absent f hf).symm

/-- What entries say about a test case depends on the known fields among them only. -/
theorem Reads.of_same_fields {base : TestCase}
    (hsame : ∀ f v, (.string (Field.key f), v) ∈ entries' ↔ (.string (Field.key f), v) ∈ entries)
    (hr : Reads entries base t) : Reads entries' base t where
  given := fun f v hv => hr.given f v ((hsame f v).mp hv)
  absent := fun f hno => hr.absent f fun v hv => hno v ((hsame f v).mpr hv)

/-- A test case is read exactly if it is what the entries say. -/
theorem ofEntries_eq_ok_iff (h : PlainCase entries) :
    ofEntries entries = .ok t ↔ Reads entries {} t := by
  rcases ofEntries_cases h with ⟨t', ht', hr⟩ | ⟨e, he, before, f, v, after, rfl, -, hv, -⟩
  · rw [ht', Except.ok.injEq]
    constructor
    · rintro rfl
      exact hr
    · exact hr.unique h
  · rw [he]
    refine ⟨nofun, fun hr => absurd ⟨t, hr.given f v ?_⟩ hv⟩
    exact List.mem_append_right _ List.mem_cons_self

/-- Entries whose keys are plain texts, also within an expected output, make a test case exactly if
every known field among them is well shaped. It is then what these fields say, with defaults for
those that are left out, so that any other entries with the same known fields, in any order and
among any unknown keys, make the same test case. Otherwise the error is that of the first field in
their order that is not well shaped. -/
theorem ofEntries_reads_known_fields (h : PlainCase entries) :
    ((∃ t, ofEntries entries = .ok t) ↔
      ∀ f v, (.string (Field.key f), v) ∈ entries → Shaped f v) ∧
    (∀ t, ofEntries entries = .ok t ↔ Reads entries {} t) ∧
    (∀ entries', Plain entries' →
      (∀ f v, (.string (Field.key f), v) ∈ entries' ↔ (.string (Field.key f), v) ∈ entries) →
      ∀ t, ofEntries entries' = .ok t ↔ ofEntries entries = .ok t) ∧
    ∀ e, ofEntries entries = .error e → FirstFault entries e := by
  refine ⟨⟨?_, fun hshaped => ?_⟩, fun t => ofEntries_eq_ok_iff h, ?_, fun e he => ?_⟩
  · rintro ⟨t, ht⟩ f v hv
    exact ⟨t, ((ofEntries_eq_ok_iff h).mp ht).given f v hv⟩
  · rcases ofEntries_cases h with ⟨t, ht, -⟩ | ⟨e, -, before, f, v, after, rfl, -, hv, -⟩
    · exact ⟨t, ht⟩
    · exact absurd (hshaped f v (List.mem_append_right _ List.mem_cons_self)) hv
  · intro entries' hplain hsame t
    have h' : PlainCase entries' :=
      { hplain with out := fun es hes => h.out es ((hsame .out _).mp hes) }
    rw [ofEntries_eq_ok_iff h, ofEntries_eq_ok_iff h']
    exact ⟨.of_same_fields fun f v => (hsame f v).symm, .of_same_fields hsame⟩
  · rcases ofEntries_cases h with ⟨t, ht, -⟩ | ⟨e', he', hfirst⟩
    · rw [ht] at he
      contradiction
    · rw [he'] at he
      exact Except.error.inj he ▸ hfirst

/-- Entries in which a name, an exit code under a tag, a pattern and two unknown keys are given, one
of them with a tag and one in the mapping of the pattern. -/
def sampleEntries : List (Value × Value) :=
  [(.string "about", .tagged "x" .null), (.string "exit_code", .tagged "x" (.int (-9))),
    (.string "out", .mapping [(.string "why", .sequence [.null]),
      (.string "regex", .string "^a$")]), (.string "test", .int 42)]

/-- The known fields of these entries in another order make the test case that they make. -/
theorem ofEntries_of_sample :
    ofEntries [(.string "test", .int 42), (.string "out", .mapping [
        (.string "why", .sequence [.null]), (.string "regex", .string "^a$")]),
      (.string "exit_code", .tagged "x" (.int (-9)))] =
      .ok { name := "42", expected := .regex "^a$", exitCode := -9 } := by
  have hplain : PlainCase sampleEntries := by
    refine ⟨⟨by simp [sampleEntries], by simp [sampleEntries]⟩, fun es hes => ?_⟩
    obtain rfl : es = [(.string "why", .sequence [.null]), (.string "regex", .string "^a$")] := by
      simpa [sampleEntries] using hes
    exact ⟨by simp, by simp⟩
  obtain ⟨-, -, hsame, -⟩ := ofEntries_reads_known_fields hplain
  refine (hsame _ ⟨by simp, by simp⟩ (fun f v => ?_) _).mpr rfl
  cases f <;> simp [sampleEntries, Field.key]

end BlackBox.TestCase
