import SingleFlight.Random.Generator

namespace SingleFlight.ChaCha

/-- The words that a block is made in. -/
abbrev Words := Vector UInt32 16

def rotateLeft (word count : UInt32) : UInt32 := (word <<< count) ||| (word >>> (32 - count))

/-- Adds one word to another and mixes the sum into a third. -/
def mix (words : Words) (target source mixed : Fin 16) (count : UInt32) : Words :=
  let sum := words[target] + words[source]
  (words.set target sum).set mixed (rotateLeft (words[mixed] ^^^ sum) count)

/-- The quarter round on four words. -/
def quarterRound (words : Words) (a b c d : Fin 16) : Words :=
  let words := mix words a b d 16
  let words := mix words c d b 12
  let words := mix words a b d 8
  mix words c d b 7

/-- A round on the columns and one on the diagonals. -/
def doubleRound (words : Words) : Words :=
  let words := quarterRound words 0 4 8 12
  let words := quarterRound words 1 5 9 13
  let words := quarterRound words 2 6 10 14
  let words := quarterRound words 3 7 11 15
  let words := quarterRound words 0 5 10 15
  let words := quarterRound words 1 6 11 12
  let words := quarterRound words 2 7 8 13
  quarterRound words 3 4 9 14

/-- The words before the rounds: constants, key, block number and zeros. -/
def start (key : Vector UInt32 8) (block : UInt64) : Words :=
  #v[0x61707865, 0x3320646E, 0x79622D32, 0x6B206574,
    key[0], key[1], key[2], key[3], key[4], key[5], key[6], key[7],
    block.toUInt32, (block >>> 32).toUInt32, 0, 0]

/-- Twelve rounds, and the words from before them added. -/
def block (key : Vector UInt32 8) (number : UInt64) : Words :=
  let first := start key number
  let mixed := (List.range 6).foldl (fun words _ => doubleRound words) first
  Vector.ofFn fun place => first[place] + mixed[place]

def rotateRight (word count : UInt32) : UInt32 :=
  (word >>> count) ||| (word <<< ((32 - count) % 32))

/-- One step of the congruence that stretches a seed. -/
def stretch (state : UInt64) : UInt64 := state * 6364136223846793005 + 11634580027462260723

/-- The word that a state of the congruence gives. -/
def stretched (state : UInt64) : UInt32 :=
  rotateRight (((state >>> 18) ^^^ state) >>> 27).toUInt32 (state >>> 59).toUInt32

/-- The state of the congruence after some steps. -/
def stretchSteps (seed : UInt64) : Nat → UInt64
  | 0 => seed
  | count + 1 => stretch (stretchSteps seed count)

/-- The key of a seed. -/
def key (seed : UInt64) : Vector UInt32 8 :=
  Vector.ofFn fun place => stretched (stretchSteps seed (place + 1))

/-- A generator: its key, the block at hand, and how much of it is drawn. -/
structure Source where
  key : Vector UInt32 8
  number : UInt64
  words : Words
  drawn : Nat

/-- The generator of a seed. -/
def Source.ofSeed (seed : UInt64) : Source :=
  ⟨ChaCha.key seed, 0, block (ChaCha.key seed) 0, 0⟩

/-- The draw of a number in a block. -/
def draw (words : Words) (number : Fin 8) : UInt64 :=
  words[2 * number.val].toUInt64 ||| (words[2 * number.val + 1].toUInt64 <<< 32)

/-- Draws a word, from the next block if this one is used up. -/
def Source.next (source : Source) : UInt64 × Source :=
  if left : source.drawn < 8 then
    (draw source.words ⟨source.drawn, left⟩, { source with drawn := source.drawn + 1 })
  else
    let number := source.number + 1
    let words := block source.key number
    (draw words 0, { source with number := number, words := words, drawn := 1 })

instance : Generator Source := ⟨Source.next⟩

end SingleFlight.ChaCha
