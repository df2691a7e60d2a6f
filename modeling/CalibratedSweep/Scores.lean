/-!
Summary of the scores of one configuration: their mean and their population standard deviation,
in double precision with sums taken from left to right.
-/

namespace CalibratedSweep.Scores

/-- The sum from left to right. It starts at -0, the neutral element of addition. -/
def sum (xs : List Float) : Float := xs.foldl (· + ·) (-0.0)

def mean (xs : List Float) : Float :=
  if xs.isEmpty then 0.0 else sum xs / Float.ofNat xs.length

def squaredDistance (center x : Float) : Float := (x - center) * (x - center)

def deviation (xs : List Float) : Float :=
  if xs.length < 2 then 0.0
  else (sum (xs.map (squaredDistance (mean xs))) / Float.ofNat xs.length).sqrt

end CalibratedSweep.Scores
