import Std.Data.TreeSet.Basic
import BlackBox.Pattern.Regex

/-!
# Searching for a match

`ends text r starts` are the positions at which matches of `r` end that begin at one of `starts`.
It is computed for all starting points together, so that the work does not grow with their number:
a set of characters moves every position by one, a condition keeps some, and a repetition collects
positions until there are no new ones. A counted repetition takes its steps one after the other, but
no more of them once a step changes nothing. Positions are kept in ascending order without
repetitions.
-/

namespace BlackBox.Pattern.Regex

/-- An ascending list with each element once. -/
def unrepeated (positions : List Nat) : List Nat :=
  positions.foldr (fun p ps => if ps.head? = some p then ps else p :: ps) []

/-- The positions in either of two ascending lists, in ascending order. -/
def union (ps qs : List Nat) : List Nat :=
  unrepeated (ps.merge qs (· ≤ ·))

/-- Adds positions to those that have been seen, and keeps the new ones. -/
def fresh (seen : Std.TreeSet Nat) (positions : List Nat) : Std.TreeSet Nat × List Nat :=
  let (seen, new) := positions.foldl
    (fun (seen, new) p => if seen.contains p then (seen, new) else (seen.insert p, p :: new))
    (seen, [])
  (seen, new.reverse)

/-- Takes steps from the positions of the frontier, which have all been seen, for as long as they
lead to new positions. Every round but the last one finds a new position. -/
def spread (step : List Nat → List Nat) : Nat → Std.TreeSet Nat → List Nat → Std.TreeSet Nat
  | 0, seen, _ => seen
  | _, seen, [] => seen
  | rounds + 1, seen, frontier =>
    let (seen, new) := fresh seen (step frontier)
    spread step rounds seen new

/-- Takes a number of steps, or fewer if the last one changes nothing. -/
def iterate (step : List Nat → List Nat) : Nat → List Nat → List Nat
  | 0, starts => starts
  | n + 1, starts =>
    let next := step starts
    if next = starts then starts else iterate step n next

/-- The positions at which matches end that begin at one of some positions. -/
def ends (text : Array Char) : Regex → List Nat → List Nat
  | empty, starts => starts
  | set s, starts => (starts.filter fun i => text[i]?.any s.contains).map (· + 1)
  | look l, starts => starts.filter (holdsAt text l)
  | cat a b, starts =>
    match ends text a starts with
    | [] => []
    | middles => ends text b middles
  | alt a b, starts => union (ends text a starts) (ends text b starts)
  | times n a, starts => iterate (ends text a) n starts
  | star a, starts =>
    let (seen, frontier) := fresh {} starts
    (spread (ends text a) (text.size + 1) seen frontier).toList

/-- Whether an expression matches some part of a text. -/
def isFoundIn (r : Regex) (text : Array Char) : Bool :=
  !(ends text r (List.range (text.size + 1))).isEmpty

end BlackBox.Pattern.Regex
