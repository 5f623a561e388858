import ChannelAccess.RandomWords

/-!
The ChaCha keystream with twelve rounds as a source of random words, and its key made from a seed
of 64 bits by a permuted linear congruential generator.
-/

namespace ChannelAccess.ChaCha

def rotateLeft (word : UInt32) (amount : UInt32) : UInt32 :=
  (word <<< amount) ||| (word >>> (32 - amount))

def quarterRound (block : Vector UInt32 16) (a b c d : Fin 16) : Vector UInt32 16 :=
  let block := block.set a (block[a] + block[b])
  let block := block.set d (rotateLeft (block[d] ^^^ block[a]) 16)
  let block := block.set c (block[c] + block[d])
  let block := block.set b (rotateLeft (block[b] ^^^ block[c]) 12)
  let block := block.set a (block[a] + block[b])
  let block := block.set d (rotateLeft (block[d] ^^^ block[a]) 8)
  let block := block.set c (block[c] + block[d])
  block.set b (rotateLeft (block[b] ^^^ block[c]) 7)

/-- Four quarter rounds on the columns and four on the diagonals. -/
def doubleRound (block : Vector UInt32 16) : Vector UInt32 16 :=
  let block := quarterRound block 0 4 8 12
  let block := quarterRound block 1 5 9 13
  let block := quarterRound block 2 6 10 14
  let block := quarterRound block 3 7 11 15
  let block := quarterRound block 0 5 10 15
  let block := quarterRound block 1 6 11 12
  let block := quarterRound block 2 7 8 13
  quarterRound block 3 4 9 14

/-- The block before the rounds: constants, key, block counter and two zero words. -/
def initialBlock (key : Vector UInt32 8) (counter : UInt64) : Vector UInt32 16 :=
  #v[0x61707865, 0x3320646e, 0x79622d32, 0x6b206574,
    key[0], key[1], key[2], key[3], key[4], key[5], key[6], key[7],
    counter.toUInt32, (counter >>> 32).toUInt32, 0, 0]

/-- The keystream block at `counter`: twelve rounds, with the initial block added at the end. -/
def keystreamBlock (key : Vector UInt32 8) (counter : UInt64) : Vector UInt32 16 :=
  let initial := initialBlock key counter
  let mixed := Nat.repeat doubleRound 6 initial
  Vector.zipWith (· + ·) mixed initial

/-- One key word from the generator's state. -/
def permuted (state : UInt64) : UInt32 :=
  let mixed := (((state >>> 18) ^^^ state) >>> 27).toUInt32
  let turn := (state >>> 59).toUInt32
  if turn = 0 then mixed else (mixed >>> turn) ||| (mixed <<< (32 - turn))

def advance (state : UInt64) : UInt64 :=
  state * 6364136223846793005 + 11634580027462260723

/-- The generator's state after `count` advances. -/
def stateAfter (seed : UInt64) (count : Nat) : UInt64 := Nat.repeat advance count seed

def keyOfSeed (seed : UInt64) : Vector UInt32 8 :=
  Vector.ofFn fun word => permuted (stateAfter seed (word.val + 1))

end ChaCha

/-- The words of a keystream from position `position` on. -/
structure Keystream where
  key : Vector UInt32 8
  position : Nat
  /-- The block that holds the next word. -/
  block : Vector UInt32 16

namespace Keystream

def ofSeed (seed : UInt64) : Keystream :=
  let key := ChaCha.keyOfSeed seed
  ⟨key, 0, ChaCha.keystreamBlock key 0⟩

instance : WordSource Keystream where
  next stream :=
    let word := stream.block.get (Fin.ofNat 16 stream.position)
    let position := stream.position + 1
    if position % 16 = 0 then
      (word, { stream with
        position, block := ChaCha.keystreamBlock stream.key (UInt64.ofNat (position / 16)) })
    else
      (word, { stream with position })

end Keystream

end ChannelAccess
