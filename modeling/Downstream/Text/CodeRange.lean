/-!
Sorted tables of code points, searched by halving.
-/
namespace Downstream.Text

/-- Looks among the entries numbered `low, …, high - 1` for one that `place` puts at the target;
`place` says on which side of the target an entry lies. The window shrinks with every step, so
`steps` need not exceed its width. -/
def findBetween {α : Type} (table : Array α) (place : α → Ordering) :
    (steps low high : Nat) → Option α
  | 0, _, _ => none
  | steps + 1, low, high =>
    if low < high then
      let middle := (low + high) / 2
      match table[middle]? with
      | none => none
      | some entry =>
        match place entry with
        | .gt => findBetween table place steps low middle
        | .lt => findBetween table place steps (middle + 1) high
        | .eq => some entry
    else none

def findSorted {α : Type} (table : Array α) (place : α → Ordering) : Option α :=
  findBetween table place table.size 0 table.size

abbrev CodeRanges := Array (Nat × Nat)

def CodeRanges.covers (ranges : CodeRanges) (n : Nat) : Bool :=
  (findSorted ranges fun (first, last) =>
    if n < first then .gt else if last < n then .lt else .eq).isSome

end Downstream.Text
