import Playback.Coding.Brotli.Blocks
import Playback.Coding.Brotli.Dictionary

/-!
# Brotli data

A stream is a sequence of meta-blocks: bytes as they are, data to be skipped, or commands that
insert literals and copy earlier bytes.
-/

namespace Playback.Brotli

open BitReading

/-- Base and number of extra bits of each code for an insert length. -/
def insertLengths : List (Nat × Nat) := [
  (0, 0), (1, 0), (2, 0), (3, 0), (4, 0), (5, 0), (6, 1), (8, 1), (10, 2), (14, 2), (18, 3),
  (26, 3), (34, 4), (50, 4), (66, 5), (98, 5), (130, 6), (194, 7), (322, 8), (578, 9), (1090, 10),
  (2114, 12), (6210, 14), (22594, 24)]

/-- Base and number of extra bits of each code for a copy length. -/
def copyLengths : List (Nat × Nat) := [
  (2, 0), (3, 0), (4, 0), (5, 0), (6, 0), (7, 0), (8, 0), (9, 0), (10, 1), (12, 1), (14, 2),
  (18, 2), (22, 3), (30, 3), (38, 4), (54, 4), (70, 5), (102, 5), (134, 6), (198, 7), (326, 8),
  (582, 9), (1094, 10), (2118, 24)]

/-- The first insert code and the first copy code of each run of 64 commands. -/
def commandRuns : List (Nat × Nat) := [
  (0, 0), (0, 8), (0, 0), (0, 8), (8, 0), (8, 8), (0, 16), (16, 0), (8, 16), (16, 8), (16, 16)]

/-- What is sent at the start of a meta-block with commands. -/
structure Setup where
  postfixBits : Nat
  directCount : Nat
  literalModes : Array Nat
  literalMap : Array Nat
  distanceMap : Array Nat
  literalCodes : Array PrefixCode
  commandCodes : Array PrefixCode
  distanceCodes : Array PrefixCode

/-- What changes while commands are carried out: the output, the blocks of the three kinds, and the
last four distances, the latest first. -/
structure State where
  output : Array UInt8
  literals : Blocks
  commands : Blocks
  distances : Blocks
  recent : List Nat

def readCodes (alphabet count : Nat) : BitReading (Array PrefixCode) := do
  pure (← (List.range count).mapM fun _ => readCode alphabet).toArray

/-- Reads a symbol with the code of the number given. -/
def readWith (codes : Array PrefixCode) (i : Nat) : BitReading Nat :=
  match codes[i]? with
  | some code => code.read
  | none => fail

def insertLiterals (setup : Setup) : Nat → State → BitReading State
  | 0, s => pure s
  | n + 1, s => do
    let blocks ← s.literals.advance
    let last := s.output.getD (s.output.size - 1) 0
    let earlier := if s.output.size < 2 then 0 else s.output.getD (s.output.size - 2) 0
    let mode := setup.literalModes.getD blocks.current 0
    let context := literalContext mode last earlier
    let symbol ← readWith setup.literalCodes
      (setup.literalMap.getD (64 * blocks.current + context) 0)
    insertLiterals setup n
      { s with output := s.output.push (UInt8.ofNat symbol), literals := blocks }

/-- The distance that a short code means: a recent distance or one close to it. -/
def shortDistance? (recent : List Nat) (symbol : Nat) : Option Nat :=
  let near (i offset : Nat) : Option Nat :=
    let base := recent.getD i 0
    let delta := offset / 2 + 1
    if offset % 2 = 0 then if base ≤ delta then none else some (base - delta)
    else some (base + delta)
  if symbol < 4 then recent[symbol]?
  else if symbol < 10 then near 0 (symbol - 4)
  else near 1 (symbol - 10)

/-- The distance of a symbol that is not short. -/
def longDistance (setup : Setup) (symbol : Nat) : BitReading Nat := do
  if symbol < 16 + setup.directCount then pure (symbol - 15)
  else
    let n := symbol - setup.directCount - 16
    let bits := 1 + n / 2 ^ (setup.postfixBits + 1)
    let high := n / 2 ^ setup.postfixBits
    let low := n % 2 ^ setup.postfixBits
    let offset := (2 + high % 2) * 2 ^ bits - 4
    pure ((offset + (← number bits)) * 2 ^ setup.postfixBits + low + setup.directCount + 1)

/-- Copies `n` bytes from `distance` bytes back. -/
def copy (distance : Nat) : Nat → Array UInt8 → Array UInt8
  | 0, output => output
  | n + 1, output => copy distance n (output.push (output.getD (output.size - distance) 0))

/-- Carries out commands until the output has `goal` bytes. `window` bounds the distances that reach
the output. -/
def runCommands (setup : Setup) (window goal : Nat) : Nat → State → BitReading State
  | 0, _ => fail
  | fuel + 1, s => do
    let commands ← s.commands.advance
    let symbol ← readWith setup.commandCodes commands.current
    let (insertBase, copyBase) := commandRuns.getD (symbol / 64) (0, 0)
    let insertLength ← extended insertLengths (insertBase + symbol / 8 % 8)
    let copyLength ← extended copyLengths (copyBase + symbol % 8)
    check (s.output.size + insertLength ≤ goal)
    let s ← insertLiterals setup insertLength { s with commands }
    if s.output.size = goal then pure s
    else
      let (code, s) ←
        if symbol < 128 then pure (0, s)
        else do
          let distances ← s.distances.advance
          let context := 4 * distances.current + distanceContext copyLength
          let code ← readWith setup.distanceCodes (setup.distanceMap.getD context 0)
          pure (code, { s with distances })
      let distance ←
        if code < 16 then
          match shortDistance? s.recent code with
          | some distance => pure distance
          | none => fail
        else longDistance setup code
      let reach := min window s.output.size
      if distance ≤ reach then
        check (s.output.size + copyLength ≤ goal)
        let recent := if code = 0 then s.recent else distance :: s.recent.take 3
        let s := { s with output := copy distance copyLength s.output, recent }
        if s.output.size = goal then pure s else runCommands setup window goal fuel s
      else
        match word? copyLength (distance - reach - 1) with
        | none => fail
        | some bytes =>
          check (s.output.size + bytes.length ≤ goal)
          let s := { s with output := s.output ++ bytes.toArray }
          if s.output.size = goal then pure s else runCommands setup window goal fuel s

/-- A meta-block with commands that yields `length` bytes. -/
def readCompressed (window length : Nat) (output : Array UInt8) (recent : List Nat) :
    BitReading (Array UInt8 × List Nat) := do
  let literals ← Blocks.read
  let commands ← Blocks.read
  let distances ← Blocks.read
  let postfixBits ← number 2
  let directCount := (← number 4) * 2 ^ postfixBits
  let modes ← (List.range literals.types).mapM fun _ => number 2
  let (literalTrees, literalMap) ← readMap (64 * literals.types)
  let (distanceTrees, distanceMap) ← readMap (4 * distances.types)
  let literalCodes ← readCodes 256 literalTrees
  let commandCodes ← readCodes 704 commands.types
  let distanceCodes ← readCodes (16 + directCount + 48 * 2 ^ postfixBits) distanceTrees
  let setup : Setup :=
    { postfixBits, directCount, literalModes := modes.toArray, literalMap, distanceMap,
      literalCodes, commandCodes, distanceCodes }
  let fuel := (← left) + length + 1
  let s ← runCommands setup window (output.size + length) fuel
    { output, literals, commands, distances, recent }
  pure (s.output, s.recent)

/-- Moves on to the next whole byte; the bits passed must be zero. -/
def skipPadding : BitReading Unit := do
  let s ← get
  check (s.bits.all (! ·))
  align

/-- The number of bits that bounds the distances, from the start of the stream. -/
def readWindowBits : BitReading Nat := do
  if ← bit then
    match ← number 3 with
    | 0 =>
      match ← number 3 with
      | 0 => pure 17
      | 1 => fail
      | n => pure (8 + n)
    | n => pure (17 + n)
  else pure 16

/-- The length of a meta-block, sent in a number of nibbles the last of which is needed. -/
def readLength (nibbles : Nat) : BitReading Nat := do
  let n ← number (4 * nibbles)
  check (nibbles ≤ 4 || 16 ^ (nibbles - 1) ≤ n)
  pure (n + 1)

/-- Skips data that yields nothing. -/
def skipMetadata : BitReading Unit := do
  check !(← bit)
  let count ← number 2
  let n ← number (8 * count)
  check (count ≤ 1 || 256 ^ (count - 1) ≤ n)
  skipPadding
  let _ ← bytes (if count = 0 then 0 else n + 1)

/-- Reads meta-blocks up to the last one. -/
def readMetaBlocks (window : Nat) : Nat → Array UInt8 → List Nat → BitReading (Array UInt8)
  | 0, _, _ => fail
  | fuel + 1, output, recent => do
    let last ← bit
    let done ← if last then bit else pure false
    if done then
      skipPadding
      pure output
    else
      let (output, recent) ←
        match ← number 2 with
        | 3 => do
          skipMetadata
          pure (output, recent)
        | n => do
          let length ← readLength (4 + n)
          let stored ← if last then pure false else bit
          if stored then
            skipPadding
            pure (output ++ (← bytes length).toArray, recent)
          else readCompressed window length output recent
      if last then
        skipPadding
        pure output
      else readMetaBlocks window fuel output recent

/-- Unpacks a stream, which must fill all of the data. -/
def decode (data : Bytes) : Option Bytes := do
  let reading : BitReading (Array UInt8) := do
    let window := 2 ^ (← readWindowBits) - 16
    readMetaBlocks window (8 * data.length + 1) #[] [4, 11, 15, 16]
  let (output, rest) ← reading.run (BitSource.ofBytes data)
  if rest.bytes.isEmpty then some output.toList else none

end Playback.Brotli
