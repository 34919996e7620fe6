import Playback.Regex.Node

/-!
# Programs

A pattern becomes a program: a graph of steps, of which some take a character, some test a condition,
and some branch, the better branch first. A step that ends a round of a loop leads back to its start.
-/

namespace Playback.Regex

/-- A step; the numbers are those of the steps that may follow. -/
inductive Step where
  | one (set : CharSet) (next : Nat)
  | look (l : Look) (next : Nat)
  | branch (first second : Nat)
  | done
deriving Repr

/-- Numbered steps and the one to start from. -/
structure Program where
  steps : Array Step
  start : Nat

namespace Program

/-- A branch into a round of a loop and out of it. -/
def loopBranch (greedy : Bool) (inside outside : Nat) : Step :=
  if greedy then .branch inside outside else .branch outside inside

/-- Adds the steps of a pattern that is followed by the step `next`, and gives the first of them. -/
def compile : Node → Nat → Array Step → Nat × Array Step
  | .nothing, next, steps => (next, steps)
  | .one set, next, steps => (steps.size, steps.push (.one set next))
  | .look l, next, steps => (steps.size, steps.push (.look l next))
  | .followedBy first second, next, steps =>
    let (middle, steps) := compile second next steps
    compile first middle steps
  | .either first second, next, steps =>
    let (b, steps) := compile second next steps
    let (a, steps) := compile first next steps
    (steps.size, steps.push (.branch a b))
  | .named _ e, next, steps => compile e next steps
  | .upTo n greedy e, next, steps =>
    (List.range n).foldl
      (fun (entry, steps) _ =>
        let (inside, steps) := compile e entry steps
        (steps.size, steps.push (loopBranch greedy inside next)))
      (next, steps)
  | .atLeast n greedy e, next, steps =>
    let loop := steps.size
    let (inside, steps) := compile e loop (steps.push .done)
    let steps := steps.set! loop (loopBranch greedy inside next)
    if n == 0 then
      if e.canBeEmpty then (steps.size, steps.push (loopBranch greedy inside next))
      else (loop, steps)
    else
      (List.range (n - 1)).foldl (fun (entry, steps) _ => compile e entry steps) (inside, steps)

def ofNode (e : Node) : Program :=
  let (start, steps) := compile e 0 #[.done]
  ⟨steps, start⟩

end Program

end Playback.Regex
