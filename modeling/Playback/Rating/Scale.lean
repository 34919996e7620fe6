/-!
# Scales of ratings

A full score is one increment, and half of it is what a name found on one side only costs. Ratings
are added up exactly or in machine words of 64 bits.
-/

namespace Playback.Rating

/-- A full score, and how sums are reduced to the range of ratings. -/
structure Scale where
  increment : Int
  reduce : Int → Int

namespace Scale

/-- Ratings without bounds. -/
def exact (increment : Int) : Scale :=
  ⟨increment, id⟩

/-- The number between `-2 ^ 63` and `2 ^ 63 - 1` that is the same modulo `2 ^ 64`. -/
def toWord (n : Int) : Int :=
  Int.bmod n (2 ^ 64)

/-- Ratings in machine words. -/
def inWords (increment : Int) : Scale :=
  ⟨increment, toWord⟩

def add (s : Scale) (a b : Int) : Int :=
  s.reduce (a + b)

def sub (s : Scale) (a b : Int) : Int :=
  s.reduce (a - b)

/-- Half a score; of an odd increment, the half nearer to zero. -/
def half (s : Scale) : Int :=
  s.increment.tdiv 2

/-- Whether a number can be a full score: it is positive, and half of it is exact. -/
def isIncrement (n : Int) : Bool :=
  0 < n && n % 2 == 0

/-- What is said of a number that can not be a full score. -/
def invalidIncrement (n : Int) : String :=
  "heuristic increment must be a positive even number, got " ++ toString n

end Scale

end Playback.Rating
