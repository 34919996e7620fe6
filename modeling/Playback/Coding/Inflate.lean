import Playback.Coding.PrefixCode

/-!
# Deflated data

Blocks of stored bytes, or of prefix-coded literals and copies. A copy repeats bytes that were
produced up to 32768 bytes earlier; what lies before the beginning counts as zero.
-/

namespace Playback.Deflate

/-- The size of the window that copies reach back into. -/
def windowSize : Nat := 32768

/-- Base length and number of extra bits of each length symbol from 257 on. -/
def lengthCodes : List (Nat × Nat) := [
  (3, 0), (4, 0), (5, 0), (6, 0), (7, 0), (8, 0), (9, 0), (10, 0), (11, 1), (13, 1), (15, 1),
  (17, 1), (19, 2), (23, 2), (27, 2), (31, 2), (35, 3), (43, 3), (51, 3), (59, 3), (67, 4),
  (83, 4), (99, 4), (115, 4), (131, 5), (163, 5), (195, 5), (227, 5), (258, 0)]

/-- Base distance and number of extra bits of each distance symbol. -/
def distanceCodes : List (Nat × Nat) := [
  (1, 0), (2, 0), (3, 0), (4, 0), (5, 1), (7, 1), (9, 2), (13, 2), (17, 3), (25, 3), (33, 4),
  (49, 4), (65, 5), (97, 5), (129, 6), (193, 6), (257, 7), (385, 7), (513, 8), (769, 8),
  (1025, 9), (1537, 9), (2049, 10), (3073, 10), (4097, 11), (6145, 11), (8193, 12), (12289, 12),
  (16385, 13), (24577, 13)]

/-- The order in which the lengths of the code for code lengths are sent. -/
def lengthOrder : List Nat :=
  [16, 17, 18, 0, 8, 7, 9, 6, 10, 5, 11, 4, 12, 3, 13, 2, 14, 1, 15]

/-- The word lengths of literals and lengths in a block with fixed codes. -/
def fixedLengths : List Nat :=
  List.replicate 144 8 ++ List.replicate 112 9 ++ List.replicate 24 7 ++ List.replicate 8 8

/-- Copies `n` bytes from `distance` bytes back. -/
def copy (distance : Nat) : Nat → Array UInt8 → Array UInt8
  | 0, output => output
  | n + 1, output =>
    let b := if distance ≤ output.size then output.getD (output.size - distance) 0 else 0
    copy distance n (output.push b)

/-- A value with a base and extra bits, chosen by a symbol. -/
def extended (codes : List (Nat × Nat)) (symbol : Nat) : BitReading Nat := do
  match codes[symbol]? with
  | none => BitReading.fail
  | some (base, extra) => pure (base + (← BitReading.number extra))

/-- Reads literals and copies up to the end of the block. Every symbol takes a bit at least, which
bounds their number. -/
def symbols (literals distances : PrefixCode) : Nat → Array UInt8 → BitReading (Array UInt8)
  | 0, _ => BitReading.fail
  | fuel + 1, output => do
    let symbol ← literals.read
    if symbol < 256 then symbols literals distances fuel (output.push (UInt8.ofNat symbol))
    else if symbol = 256 then pure output
    else
      let length ← extended lengthCodes (symbol - 257)
      let distance ← extended distanceCodes (← distances.read)
      symbols literals distances fuel (copy distance length output)

/-- The word lengths that a block sends: repeats refer to the length before. -/
def wordLengths (code : PrefixCode) (wanted : Nat) : Nat → Array Nat → BitReading (Array Nat)
  | 0, _ => BitReading.fail
  | fuel + 1, lengths => do
    if lengths.size = wanted then pure lengths
    else if wanted < lengths.size then BitReading.fail
    else
      let symbol ← code.read
      if symbol < 16 then wordLengths code wanted fuel (lengths.push symbol)
      else if symbol = 16 then
        match lengths.back? with
        | none => BitReading.fail
        | some last =>
          let n := 3 + (← BitReading.number 2)
          wordLengths code wanted fuel (lengths ++ Array.replicate n last)
      else
        let n ← if symbol = 17 then (3 + ·) <$> BitReading.number 3
          else (11 + ·) <$> BitReading.number 7
        wordLengths code wanted fuel (lengths ++ Array.replicate n 0)

/-- The code of word lengths that leave no gap. A code with a single word may leave one. -/
def codeOf (lengths : List Nat) : BitReading PrefixCode := do
  BitReading.check
    (PrefixCode.isComplete lengths || (lengths.filter fun n => n != 0).length ≤ 1)
  pure (PrefixCode.ofLengths lengths)

/-- The codes that a block with dynamic codes sends. -/
def dynamicCodes : BitReading (PrefixCode × PrefixCode) := do
  let literalCount := 257 + (← BitReading.number 5)
  let distanceCount := 1 + (← BitReading.number 5)
  let lengthCount := 4 + (← BitReading.number 4)
  BitReading.check (literalCount ≤ 286 && distanceCount ≤ 30)
  let sent ← (List.range lengthCount).mapM fun _ => BitReading.number 3
  let lengths := (List.range 19).map fun symbol =>
    match lengthOrder.idxOf? symbol with
    | some i => sent.getD i 0
    | none => 0
  let code ← codeOf lengths
  let wanted := literalCount + distanceCount
  let all ← wordLengths code wanted (wanted + 1) #[]
  let literals ← codeOf (all.toList.take literalCount)
  let distances ← codeOf (all.toList.drop literalCount)
  pure (literals, distances)

/-- Reads a block after its header. -/
def block (kind : Nat) (output : Array UInt8) : BitReading (Array UInt8) := do
  match kind with
  | 0 =>
    BitReading.align
    let length ← BitReading.number 16
    let complement ← BitReading.number 16
    BitReading.check (length + complement == 65535)
    pure (output ++ (← BitReading.bytes length).toArray)
  | 1 =>
    let literals := PrefixCode.ofLengths fixedLengths
    let distances := PrefixCode.ofLengths (List.replicate 32 5)
    symbols literals distances ((← BitReading.left) + 1) output
  | 2 =>
    let (literals, distances) ← dynamicCodes
    symbols literals distances ((← BitReading.left) + 1) output
  | _ => BitReading.fail

/-- Reads blocks up to the one marked as the last. -/
def blocks : Nat → Array UInt8 → BitReading (Array UInt8)
  | 0, _ => BitReading.fail
  | fuel + 1, output => do
    let last ← BitReading.bit
    let kind ← BitReading.number 2
    let output ← block kind output
    if last then pure output else blocks fuel output

/-- Inflates the data at the start of a byte string, and gives the bytes after it. -/
def inflate (data : Bytes) : Option (Bytes × Bytes) := do
  let (output, rest) ← (blocks (8 * data.length + 1) #[]).run (BitSource.ofBytes data)
  some (output.toList, rest.bytes)

/-- The number of bytes that one stored block can hold. -/
def storedLimit : Nat := 65535

/-- A number in `n` bytes, the lowest first. -/
def littleEndian : Nat → Nat → Bytes
  | 0, _ => []
  | n + 1, value => UInt8.ofNat (value % 256) :: littleEndian n (value / 256)

def storedBlock (last : Bool) (data : Bytes) : Bytes :=
  (if last then 1 else 0) :: littleEndian 2 data.length ++
    littleEndian 2 (storedLimit - data.length) ++ data

/-- Deflated data that stores the bytes as they are. -/
def store (data : Bytes) : Bytes :=
  if data.length ≤ storedLimit then storedBlock true data
  else storedBlock false (data.take storedLimit) ++ store (data.drop storedLimit)
termination_by data.length
decreasing_by simp_all [storedLimit]; omega

/-- The number that bytes spell, the lowest first. -/
def numberOf (b : Bytes) : Nat :=
  b.foldr (fun x n => x.toNat + 256 * n) 0

end Playback.Deflate
