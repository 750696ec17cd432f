import Mathlib.Data.Finset.Card
import Mathlib.Data.Finset.Range
import Mathlib.Logic.Relation
import BlackBox.Pattern.Parse

/-!
# The search finds exactly the matches

`ends` computes with lists of positions, and a repetition with a set of positions that grows in
rounds until nothing new is found. `mem_ends` says that it computes what `Matches` defines: a
position is among the ends exactly if a match from one of the starting points ends there.
`isFoundIn_iff` is the same for a whole search.

The rounds of a repetition are limited by the size of the text. That they are enough is the
invariant `Spreading`: whatever is one step away from a position that is no longer on the frontier
has been seen, and there are at least as many rounds left as positions up to the end of the text
that have not been seen.
-/

namespace BlackBox.Pattern

namespace Regex

open Relation (ReflTransGen)

/-! ## Positions of a match -/

/-- A match ends where it begins or within the text. -/
theorem Matches.eq_or_le {text : Array Char} {r : Regex} {i j : Nat} (h : Matches text r i j) :
    j = i ∨ j ≤ text.size := by
  induction h with
  | empty | look | zero | done => exact .inl rfl
  | @set s i c hc _ =>
    obtain ⟨hi, -⟩ := Array.getElem?_eq_some_iff.mp hc
    exact .inr hi
  | cat _ _ iha ihb | succ _ _ iha ihb | more _ _ iha ihb =>
    rcases ihb with rfl | hk
    · exact iha
    · exact .inr hk
  | altLeft _ ih | altRight _ ih => exact ih

/-- A match does not end before it begins. -/
theorem Matches.le {text : Array Char} {r : Regex} {i j : Nat} (h : Matches text r i j) :
    i ≤ j := by
  induction h with
  | empty | look | zero | done => exact Nat.le_refl _
  | set => exact Nat.le_succ _
  | cat _ _ iha ihb | succ _ _ iha ihb | more _ _ iha ihb => exact iha.trans ihb
  | altLeft _ ih | altRight _ ih => exact ih

/-- The matches of a repetition are chains of matches of what is repeated. -/
theorem matches_star_iff {text : Array Char} {r : Regex} {i j : Nat} :
    Matches text (star r) i j ↔ ReflTransGen (Matches text r) i j := by
  constructor
  · intro h
    generalize hs : star r = s at h
    induction h with
    | done => exact .refl
    | more ha _ _ ih =>
      injection hs with hr
      subst hr
      exact .head ha (ih rfl)
    | _ => contradiction
  · intro h
    induction h using ReflTransGen.head_induction_on with
    | refl => exact .done j
    | head ha _ ih => exact .more ha ih

/-- A repetition of no matches matches nothing. -/
theorem matches_times_zero_iff {text : Array Char} {r : Regex} {i j : Nat} :
    Matches text (times 0 r) i j ↔ i = j := by
  constructor
  · intro h
    cases h with
    | zero => rfl
  · rintro rfl
    exact .zero i

/-- A repetition of some matches is one of them and then the others. -/
theorem matches_times_succ_iff {text : Array Char} {r : Regex} {n i j : Nat} :
    Matches text (times (n + 1) r) i j ↔
      ∃ k, Matches text r i k ∧ Matches text (times n r) k j := by
  constructor
  · intro h
    cases h with
    | succ hr hn => exact ⟨_, hr, hn⟩
  · rintro ⟨k, hr, hn⟩
    exact .succ hr hn

/-! ## Lists of positions -/

/-- Dropping repetitions keeps the positions. -/
theorem mem_unrepeated {q : Nat} {ps : List Nat} : q ∈ unrepeated ps ↔ q ∈ ps := by
  induction ps with
  | nil => rfl
  | cons p ps ih =>
    have hcons : unrepeated (p :: ps) =
        if (unrepeated ps).head? = some p then unrepeated ps else p :: unrepeated ps := rfl
    rw [hcons, List.mem_cons, ← ih]
    split_ifs with hp
    · have hmem : p ∈ unrepeated ps := List.mem_of_head? hp
      exact ⟨.inr, fun h => h.elim (fun e => e ▸ hmem) id⟩
    · exact List.mem_cons

/-- The union of two lists of positions has the positions of both. -/
theorem mem_union {q : Nat} {ps qs : List Nat} : q ∈ union ps qs ↔ q ∈ ps ∨ q ∈ qs := by
  rw [union, mem_unrepeated, List.mem_merge]

/-- Adding positions one by one adds each of them, and keeps those among them that are new. The fold
carries the new positions in reverse, after those that it began with. -/
theorem mem_foldl_fresh (q : Nat) (ps new : List Nat) (seen : Std.TreeSet Nat) :
    let r := ps.foldl (fun (seen, new) p =>
      if seen.contains p then (seen, new) else (seen.insert p, p :: new)) (seen, new)
    (q ∈ r.1 ↔ q ∈ seen ∨ q ∈ ps) ∧ (q ∈ r.2 ↔ q ∈ new ∨ q ∈ ps ∧ q ∉ seen) := by
  induction ps generalizing new seen with
  | nil => simp
  | cons p ps ih =>
    simp only [List.foldl_cons, List.mem_cons]
    by_cases hp : p ∈ seen
    · -- A position that has been seen leaves the fold as it is.
      rw [if_pos (Std.TreeSet.contains_iff_mem.mpr hp)]
      obtain ⟨h1, h2⟩ := ih new seen
      rw [h1, h2]
      constructor <;> grind
    · -- A new one joins both sides and is not new from then on.
      rw [if_neg (mt Std.TreeSet.contains_iff_mem.mp hp)]
      obtain ⟨h1, h2⟩ := ih (p :: new) (seen.insert p)
      have hins : q ∈ seen.insert p ↔ p = q ∨ q ∈ seen := by
        rw [Std.TreeSet.mem_insert, Std.LawfulEqCmp.compare_eq_iff_eq]
      rw [h1, h2, hins, List.mem_cons]
      constructor <;> grind

/-- What `fresh` returns: the positions seen so far with the given ones, and those of the given ones
that had not been seen. -/
theorem mem_fresh (seen : Std.TreeSet Nat) (ps : List Nat) (q : Nat) :
    (q ∈ (fresh seen ps).1 ↔ q ∈ seen ∨ q ∈ ps) ∧
      (q ∈ (fresh seen ps).2 ↔ q ∈ ps ∧ q ∉ seen) := by
  obtain ⟨h1, h2⟩ := mem_foldl_fresh q ps [] seen
  refine ⟨h1, ?_⟩
  simpa [fresh] using h2

/-- With no positions seen so far, all of the given ones are seen now, and all of them are new. -/
theorem mem_fresh_empty (ps : List Nat) (q : Nat) :
    (q ∈ (fresh {} ps).1 ↔ q ∈ ps) ∧ (q ∈ (fresh {} ps).2 ↔ q ∈ ps) := by
  obtain ⟨hseen, hnew⟩ := mem_fresh {} ps q
  have hnot : q ∉ ({} : Std.TreeSet Nat) := Std.TreeSet.not_mem_emptyc
  exact ⟨hseen.trans (or_iff_right hnot), hnew.trans (and_iff_left hnot)⟩

/-! ## Repetition -/

/-- The positions up to `n` that have not been seen. -/
def unseen (n : Nat) (seen : Std.TreeSet Nat) : Finset Nat :=
  (Finset.range (n + 1)).filter (· ∉ seen)

/-- The invariant of the rounds of a repetition, for steps `R` of what is repeated: the frontier has
been seen, every other position that has been seen has been expanded, and as long as there is a
frontier the rounds left are enough to see all positions up to `n`. -/
structure Spreading (R : Nat → Nat → Prop) (n rounds : Nat) (seen : Std.TreeSet Nat)
    (frontier : List Nat) : Prop where
  /-- The frontier has been seen. -/
  visited : ∀ p ∈ frontier, p ∈ seen
  /-- Steps from positions behind the frontier lead to positions that have been seen. -/
  expanded : ∀ p ∈ seen, p ∉ frontier → ∀ q, R p q → q ∈ seen
  /-- There is a round left for each position that has not been seen. -/
  room : frontier ≠ [] → (unseen n seen).card ≤ rounds

namespace Spreading

variable {R : Nat → Nat → Prop} {n rounds : Nat} {seen : Std.TreeSet Nat} {frontier : List Nat}
  {step : List Nat → List Nat}

/-- The invariant holds at the beginning, with all starting points on the frontier and a round for
each position. -/
theorem start (R : Nat → Nat → Prop) (n : Nat) (starts : List Nat) :
    Spreading R n (n + 1) (fresh {} starts).1 (fresh {} starts).2 := by
  refine ⟨fun p hp => ?_, fun p hp hpf => ?_, fun _ => ?_⟩
  · exact (mem_fresh_empty starts p).1.mpr ((mem_fresh_empty starts p).2.mp hp)
  · exact absurd ((mem_fresh_empty starts p).2.mpr ((mem_fresh_empty starts p).1.mp hp)) hpf
  · exact (Finset.card_filter_le _ _).trans (Finset.card_range _).le

/-- A set that its steps do not leave contains all that can be reached from it. -/
theorem reach_mem (hclosed : ∀ p ∈ seen, ∀ q, R p q → q ∈ seen) {p q : Nat} (hp : p ∈ seen)
    (h : ReflTransGen R p q) : q ∈ seen := by
  induction h with
  | refl => exact hp
  | tail _ hR ih => exact hclosed _ ih _ hR

/-- With no frontier left, no step leaves what has been seen. -/
theorem closed_of_nil (h : Spreading R n rounds seen []) : ∀ p ∈ seen, ∀ q, R p q → q ∈ seen :=
  fun p hp q => h.expanded p hp List.not_mem_nil q

/-- With no round left, no step leaves what has been seen: all positions up to `n` are in it. -/
theorem closed_of_zero (hR : ∀ p q, R p q → q = p ∨ q ≤ n) (h : Spreading R n 0 seen frontier) :
    ∀ p ∈ seen, ∀ q, R p q → q ∈ seen := by
  intro p hp q hpq
  by_cases hf : frontier = []
  · subst hf
    exact h.closed_of_nil p hp q hpq
  · have hempty : unseen n seen = ∅ := Finset.card_eq_zero.mp (Nat.le_zero.mp (h.room hf))
    rcases hR p q hpq with rfl | hq
    · exact hp
    · by_contra hns
      have hmem : q ∈ unseen n seen :=
        Finset.mem_filter.mpr ⟨Finset.mem_range.mpr (Nat.lt_succ_of_le hq), hns⟩
      rw [hempty] at hmem
      exact Finset.notMem_empty q hmem

/-- A round keeps the invariant. If it finds anything new, that is a position up to `n` that had not
been seen, so one round less is enough. -/
theorem next (hstep : ∀ ps q, q ∈ step ps ↔ ∃ p ∈ ps, R p q)
    (hR : ∀ p q, R p q → q = p ∨ q ≤ n) (h : Spreading R n (rounds + 1) seen frontier) :
    Spreading R n rounds (fresh seen (step frontier)).1 (fresh seen (step frontier)).2 := by
  have hseen := fun q => (mem_fresh seen (step frontier) q).1
  have hnew := fun q => (mem_fresh seen (step frontier) q).2
  refine ⟨fun p hp => (hseen p).mpr (.inr ((hnew p).mp hp).1), fun p hp hpn q hpq => ?_,
    fun hne => ?_⟩
  · -- What is behind the new frontier had been seen, on the old frontier or behind it.
    have hold : p ∈ seen := by
      by_contra hns
      exact hpn ((hnew p).mpr ⟨((hseen p).mp hp).resolve_left hns, hns⟩)
    rw [hseen]
    by_cases hf : p ∈ frontier
    · exact .inr ((hstep frontier q).mpr ⟨p, hf, hpq⟩)
    · exact .inl (h.expanded p hold hf q hpq)
  · -- A step that leads beyond `n` stays where it is, so what is new is up to `n`.
    obtain ⟨q, hq⟩ := List.exists_mem_of_ne_nil _ hne
    obtain ⟨hqs, hqn⟩ := (hnew q).mp hq
    obtain ⟨p, hp, hpq⟩ := (hstep frontier q).mp hqs
    have hle : q ≤ n := by
      rcases hR p q hpq with rfl | hle
      · exact absurd (h.visited q hp) hqn
      · exact hle
    have hlt : (unseen n (fresh seen (step frontier)).1).card < (unseen n seen).card := by
      apply Finset.card_lt_card
      refine Finset.ssubset_iff_of_subset ?_ |>.mpr ⟨q, ?_, ?_⟩
      · intro x hx
        obtain ⟨hxr, hxs⟩ := Finset.mem_filter.mp hx
        exact Finset.mem_filter.mpr ⟨hxr, fun hxo => hxs ((hseen x).mpr (.inl hxo))⟩
      · exact Finset.mem_filter.mpr ⟨Finset.mem_range.mpr (Nat.lt_succ_of_le hle), hqn⟩
      · intro hx
        exact (Finset.mem_filter.mp hx).2 ((hseen q).mpr (.inr hqs))
    have hroom := h.room (List.ne_nil_of_mem hp)
    omega

end Spreading

/-- The rounds of a repetition end with all positions that can be reached from those that have been
seen. -/
theorem mem_spread {R : Nat → Nat → Prop} {n : Nat} {step : List Nat → List Nat}
    (hstep : ∀ ps q, q ∈ step ps ↔ ∃ p ∈ ps, R p q) (hR : ∀ p q, R p q → q = p ∨ q ≤ n)
    {rounds : Nat} {seen : Std.TreeSet Nat} {frontier : List Nat}
    (h : Spreading R n rounds seen frontier) (q : Nat) :
    q ∈ spread step rounds seen frontier ↔ ∃ p ∈ seen, ReflTransGen R p q := by
  induction rounds generalizing seen frontier with
  | zero =>
    have hclosed := h.closed_of_zero hR
    rw [spread]
    exact ⟨fun hq => ⟨q, hq, .refl⟩, fun ⟨p, hp, hpq⟩ => Spreading.reach_mem hclosed hp hpq⟩
  | succ rounds ih =>
    cases frontier with
    | nil =>
      rw [spread]
      · exact ⟨fun hq => ⟨q, hq, .refl⟩,
          fun ⟨p, hp, hpq⟩ => Spreading.reach_mem h.closed_of_nil hp hpq⟩
      · exact Nat.succ_ne_zero rounds
    | cons f fs =>
      have hseen := fun q => (mem_fresh seen (step (f :: fs)) q).1
      rw [spread]
      · rw [ih (h.next hstep hR)]
        -- What a round finds is one step away from what had been seen.
        constructor
        · rintro ⟨p, hp, hpq⟩
          rcases (hseen p).mp hp with hold | hnew
          · exact ⟨p, hold, hpq⟩
          · obtain ⟨o, ho, hop⟩ := (hstep (f :: fs) p).mp hnew
            exact ⟨o, h.visited o ho, .head hop hpq⟩
        · rintro ⟨p, hp, hpq⟩
          exact ⟨p, (hseen p).mpr (.inl hp), hpq⟩
      · exact List.cons_ne_nil f fs

/-! ## Searching -/

/-- Steps that change nothing can be left out. -/
theorem iterate_eq (step : List Nat → List Nat) (n : Nat) (starts : List Nat) :
    iterate step n starts = step^[n] starts := by
  induction n generalizing starts with
  | zero => rfl
  | succ n ih =>
    rw [iterate]
    split_ifs with hfixed
    · exact (Function.iterate_fixed hfixed (n + 1)).symm
    · exact ih (step starts)

/-- `ends` computes what `Matches` defines: the ends of all matches from some starting points. -/
theorem mem_ends (text : Array Char) (r : Regex) (starts : List Nat) (j : Nat) :
    j ∈ ends text r starts ↔ ∃ i ∈ starts, Matches text r i j := by
  induction r generalizing starts j with
  | empty =>
    rw [ends]
    constructor
    · exact fun hj => ⟨j, hj, .empty j⟩
    · rintro ⟨i, hi, ⟨⟩⟩
      exact hi
  | set s =>
    simp only [ends, List.mem_map, List.mem_filter, Option.any_eq_true]
    constructor
    · rintro ⟨i, ⟨hi, c, hc, hs⟩, rfl⟩
      exact ⟨i, hi, .set hc hs⟩
    · rintro ⟨i, hi, hm⟩
      cases hm with
      | set hc hs => exact ⟨i, ⟨hi, _, hc, hs⟩, rfl⟩
  | look l =>
    rw [ends, List.mem_filter]
    constructor
    · rintro ⟨hj, hl⟩
      exact ⟨j, hj, .look hl⟩
    · rintro ⟨i, hi, hm⟩
      cases hm with
      | look hl => exact ⟨hi, hl⟩
  | cat a b iha ihb =>
    -- With no ends of the first part, the second part is not tried; it would have none either.
    have hcat : j ∈ ends text (cat a b) starts ↔ j ∈ ends text b (ends text a starts) := by
      rw [ends]
      split
      next h => simp [h, ihb]
      next => rfl
    rw [hcat, ihb]
    constructor
    · rintro ⟨m, hm, hb⟩
      obtain ⟨i, hi, ha⟩ := (iha starts m).mp hm
      exact ⟨i, hi, .cat ha hb⟩
    · rintro ⟨i, hi, hm⟩
      cases hm with
      | cat ha hb => exact ⟨_, (iha starts _).mpr ⟨i, hi, ha⟩, hb⟩
  | alt a b iha ihb =>
    rw [ends, mem_union, iha, ihb]
    constructor
    · rintro (⟨i, hi, hm⟩ | ⟨i, hi, hm⟩)
      · exact ⟨i, hi, .altLeft hm⟩
      · exact ⟨i, hi, .altRight hm⟩
    · rintro ⟨i, hi, hm⟩
      cases hm with
      | altLeft ha => exact .inl ⟨i, hi, ha⟩
      | altRight hb => exact .inr ⟨i, hi, hb⟩
  | times n a ih =>
    rw [ends, iterate_eq]
    induction n generalizing starts with
    | zero => simp [matches_times_zero_iff]
    | succ n ihn =>
      simp only [Function.iterate_succ_apply, ihn, ih, matches_times_succ_iff]
      constructor
      · rintro ⟨k, ⟨i, hi, ha⟩, hn⟩
        exact ⟨i, hi, k, ha, hn⟩
      · rintro ⟨i, hi, k, ha, hn⟩
        exact ⟨k, ⟨i, hi, ha⟩, hn⟩
  | star a ih =>
    have hstart := Spreading.start (Matches text a) text.size starts
    rw [ends, Std.TreeSet.mem_toList, mem_spread ih (fun _ _ => Matches.eq_or_le) hstart]
    constructor
    · rintro ⟨i, hi, hm⟩
      exact ⟨i, (mem_fresh_empty starts i).1.mp hi, matches_star_iff.mpr hm⟩
    · rintro ⟨i, hi, hm⟩
      exact ⟨i, (mem_fresh_empty starts i).1.mpr hi, matches_star_iff.mp hm⟩

/-- An expression is found in a text exactly if it matches a part of it. -/
theorem isFoundIn_iff (r : Regex) (text : Array Char) :
    r.isFoundIn text = true ↔ ∃ i j, i ≤ j ∧ j ≤ text.size ∧ Matches text r i j := by
  have hfound : r.isFoundIn text = true ↔ ∃ j, j ∈ ends text r (List.range (text.size + 1)) := by
    rw [isFoundIn, Bool.not_eq_true', List.isEmpty_eq_false_iff_exists_mem]
  rw [hfound]
  constructor
  · rintro ⟨j, hj⟩
    obtain ⟨i, hi, hm⟩ := (mem_ends text r _ j).mp hj
    have hi' : i ≤ text.size := Nat.le_of_lt_succ (List.mem_range.mp hi)
    refine ⟨i, j, hm.le, ?_, hm⟩
    rcases hm.eq_or_le with rfl | hj'
    · exact hi'
    · exact hj'
  · rintro ⟨i, j, hij, hj, hm⟩
    have hi : i ∈ List.range (text.size + 1) :=
      List.mem_range.mpr (Nat.lt_succ_of_le (hij.trans hj))
    exact ⟨j, (mem_ends text r _ j).mpr ⟨i, hi, hm⟩⟩

/-- An expression matches some part of a text. -/
def OccursIn (r : Regex) (text : String) : Prop :=
  ∃ i j, i ≤ j ∧ j ≤ text.toList.toArray.size ∧ Matches text.toList.toArray r i j

end Regex

variable {fits : String → Bool} {pattern text : String}

/-- Looking for a pattern fails exactly if it cannot be looked for. -/
theorem isFoundIn?_eq_none_iff :
    isFoundIn? fits pattern text = none ↔ compile? fits pattern = none := by
  rw [isFoundIn?, Option.map_eq_none_iff]

/-- A pattern is found in a text exactly if its expression matches a part of the text. -/
theorem isFoundIn?_eq_true_iff :
    isFoundIn? fits pattern text = some true ↔
      ∃ r, compile? fits pattern = some r ∧ r.OccursIn text := by
  simp only [isFoundIn?, Option.map_eq_some_iff, Regex.isFoundIn_iff, Regex.OccursIn]

end BlackBox.Pattern
