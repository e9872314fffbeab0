import SheetPost.Number.Basic
import SheetPost.Text.Digit

namespace SheetPost

/-- Which of two equally near decimals is written. -/
inductive Tie where
  | up
  | toEven
deriving DecidableEq

namespace Magnitude

/-- Distance, in quarters of the last binary place, to the lower end of the interval of reals that
round to the magnitude. It is halved where the numbers below lie twice as close. -/
def lowerReach (magnitude : Magnitude) : Nat :=
  if magnitude.significand = 2 ^ 52 ∧ -1074 < magnitude.exponent then 1 else 2

/-- The point nearest to the magnitude on the grid of multiples of `10 ^ grid`, if that point
rounds to the magnitude. -/
def nearestOnGrid? (magnitude : Magnitude) (tie : Tie) (grid : Int) : Option Nat :=
  let unit := 10 ^ grid.toNat * 2 ^ (2 - magnitude.exponent).toNat
  let scale := 2 ^ (magnitude.exponent - 2).toNat * 10 ^ (-grid).toNat
  let center := 4 * magnitude.significand
  let low := (center - magnitude.lowerReach) * scale
  let high := (center + 2) * scale
  let value := center * scale
  let roundsBack (point : Nat) : Bool :=
    let place := point * unit
    if magnitude.significand % 2 = 0 then low ≤ place && place ≤ high
    else low < place && place < high
  let down := value / unit
  let twice := 2 * (value % unit)
  match roundsBack down, roundsBack (down + 1) with
  | false, false => none
  | true, false => some down
  | false, true => some (down + 1)
  | true, true =>
      if twice < unit then some down
      else if unit < twice then some (down + 1)
      else match tie with
        | .up => some (down + 1)
        | .toEven => if down % 2 = 0 then some down else some (down + 1)

/-- A grid that is too coarse for the magnitude, or just coarse enough. -/
def coarsestGrid (magnitude : Magnitude) : Int :=
  ((magnitude.significand.log2 : Int) + 1 + magnitude.exponent) * 30103 / 100000 + 1

def firstOnGrids (magnitude : Magnitude) (tie : Tie) : (steps : Nat) → (grid : Int) → Nat × Int
  | 0, grid => (0, grid)
  | steps + 1, grid =>
      match magnitude.nearestOnGrid? tie grid with
      | some point => (point, grid)
      | none => magnitude.firstOnGrids tie steps (grid - 1)

/-- Digits and power of ten of the shortest decimal that reads back. Seventeen digits always
suffice, and the first grid tried is at most three places too coarse. -/
def shortest (magnitude : Magnitude) (tie : Tie) : Nat × Int :=
  if magnitude.isZero then (0, 0)
  else magnitude.firstOnGrids tie 24 magnitude.coarsestGrid

end Magnitude

end SheetPost
