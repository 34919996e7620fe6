/-!
# Punycode

The ASCII form of a label with other characters: the ASCII characters first, then the code points
and places of the others as increments, in variable-length numbers to the base 36 whose digit
thresholds follow an adaptive bias.
-/

namespace Playback.Url.Domain.Punycode

/-- The digit of a value below 36. -/
def digitChar (d : Nat) : Char :=
  if d < 26 then Char.ofNat ('a'.toNat + d) else Char.ofNat ('0'.toNat + (d - 26))

def digitValue? (c : Char) : Option Nat :=
  if 'a' ≤ c ∧ c ≤ 'z' then some (c.toNat - 'a'.toNat)
  else if 'A' ≤ c ∧ c ≤ 'Z' then some (c.toNat - 'A'.toNat)
  else if '0' ≤ c ∧ c ≤ '9' then some (c.toNat - '0'.toNat + 26)
  else none

/-- The threshold of the digit with weight exponent `k`, a multiple of 36. -/
def threshold (bias k : Nat) : Nat :=
  max 1 (min 26 (k - bias))

/-- Divides by 35 until the number is small and counts 36 for every division. -/
def shrink (delta count : Nat) : Nat × Nat :=
  if 455 < delta then shrink (delta / 35) (count + 36) else (delta, count)
termination_by delta
decreasing_by exact Nat.div_lt_self (by omega) (by omega)

/-- The bias after an increment `delta` that leaves `points` code points in place. -/
def adapt (delta points : Nat) (first : Bool) : Nat :=
  let halved := if first then delta / 700 else delta / 2
  let (small, count) := shrink (halved + halved / points) 0
  count + 36 * small / (small + 38)

theorem threshold_pos (bias k : Nat) : 1 ≤ threshold bias k := by
  unfold threshold; omega

theorem threshold_le (bias k : Nat) : threshold bias k ≤ 26 := by
  unfold threshold; omega

def digits (bias k q : Nat) : List Char :=
  let t := threshold bias k
  if q < t then [digitChar q]
  else digitChar (t + (q - t) % (36 - t)) :: digits bias (k + 36) ((q - t) / (36 - t))
termination_by q
decreasing_by
  have := threshold_pos bias k
  have := threshold_le bias k
  exact Nat.lt_of_le_of_lt (Nat.div_le_self _ _) (by omega)

/-- Where encoding stands: the output, the increment so far, the bias, and how many code points have
been placed. -/
structure Progress where
  output : List Char
  delta : Nat
  bias : Nat
  placed : Nat

/-- Goes past one character of the label while the code point `m` is being placed. -/
def pass (basic m : Nat) (p : Progress) (c : Char) : Progress :=
  if c.toNat < m then { p with delta := p.delta + 1 }
  else if c.toNat = m then
    { output := p.output ++ digits p.bias 36 p.delta
      delta := 0
      bias := adapt p.delta (p.placed + 1) (p.placed == basic)
      placed := p.placed + 1 }
  else p

/-- Places the code points in increasing order; `next` is the smallest not yet considered. -/
def place (label : List Char) (basic : Nat) : List Nat → Nat → Progress → Progress
  | [], _, p => p
  | m :: ms, next, p =>
    let p := { p with delta := p.delta + (m - next) * (p.placed + 1) }
    let p := label.foldl (pass basic m) p
    place label basic ms (m + 1) { p with delta := p.delta + 1 }

/-- The ASCII form of a label. -/
def encode (label : List Char) : List Char :=
  let basic := label.filter fun c => c.toNat < 128
  let others := ((label.filter fun c => 128 ≤ c.toNat).map Char.toNat).mergeSort.eraseDups
  let start : Progress := ⟨basic ++ if basic.isEmpty then [] else ['-'], 0, 72, basic.length⟩
  (place label basic.length others 128 start).output

/-- Reads a number, adding it to `i`; `w` is the weight of the next digit. -/
def number? (bias : Nat) : List Char → Nat → Nat → Nat → Option (Nat × List Char)
  | [], _, _, _ => none
  | c :: rest, k, w, i =>
    match digitValue? c with
    | none => none
    | some d =>
      let i := i + d * w
      let t := threshold bias k
      if d < t then some (i, rest) else number? bias rest (k + 36) (w * (36 - t)) i

theorem number?_shorter {bias : Nat} {cs : List Char} {k w i j : Nat} {rest : List Char}
    (h : number? bias cs k w i = some (j, rest)) : rest.length < cs.length := by
  induction cs generalizing k w i with
  | nil => simp [number?] at h
  | cons c cs ih =>
    simp only [number?] at h
    split at h
    · cases h
    · split at h
      · cases h; simp
      · have := ih h
        simp only [List.length_cons]
        omega

/-- Inserts the code points that the rest of the digits describe into `placed`. -/
def insertAll (digits : List Char) (placed : List Char) (n i bias : Nat) :
    Option (List Char) :=
  match digits with
  | [] => some placed
  | c :: cs =>
    match _h : number? bias (c :: cs) 36 1 i with
    | none => none
    | some (j, rest) =>
      let points := placed.length + 1
      let m := n + j / points
      let place := j % points
      if m < 0x110000 ∧ ¬ (0xD800 ≤ m ∧ m < 0xE000) then
        insertAll rest (placed.take place ++ Char.ofNat m :: placed.drop place) m (place + 1)
          (adapt (j - i) points (i == 0))
      else none
termination_by digits.length
decreasing_by exact number?_shorter (by assumption)

/-- The label of an ASCII form. -/
def decode? (cs : List Char) : Option (List Char) :=
  let tail := (cs.reverse.takeWhile (· != '-')).reverse
  let basic := (cs.take (cs.length - tail.length)).dropLast
  if basic.all fun c => c.toNat < 128 then insertAll tail basic 128 0 72 else none

end Playback.Url.Domain.Punycode
