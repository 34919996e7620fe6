import Playback.Bytes.Basic

/-!
# Occurrences in byte strings
-/

namespace Playback.Bytes

/-- The places where `needle` begins, from left to right and without overlap. The first byte stands
at `place`, and the next `skip` bytes belong to an occurrence already found. -/
def occurrencesFrom (needle : Bytes) (place skip : Nat) : Bytes → List Nat
  | [] => []
  | b :: rest =>
    match skip with
    | skip + 1 => occurrencesFrom needle (place + 1) skip rest
    | 0 =>
      if needle.isPrefixOf (b :: rest) then
        place :: occurrencesFrom needle (place + 1) (needle.length - 1) rest
      else occurrencesFrom needle (place + 1) 0 rest

/-- The places where `needle` begins, from left to right and without overlap. -/
def occurrences (needle b : Bytes) : List Nat :=
  occurrencesFrom needle 0 0 b

end Playback.Bytes
