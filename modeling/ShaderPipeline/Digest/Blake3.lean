import ShaderPipeline.Bytes.LittleEndian

/-!
# The BLAKE3 digest

The input is cut into chunks of 1024 bytes and each chunk into blocks of 64
bytes.  Blocks are chained inside a chunk, and the chunks are the leaves of a
binary tree whose left side is always complete.  The digest is the output of
the root.
-/

namespace ShaderPipeline.Blake3

/-- The chaining value that every chunk starts from. -/
def initialValue : Vector UInt32 8 :=
  #v[0x6A09E667, 0xBB67AE85, 0x3C6EF372, 0xA54FF53A,
    0x510E527F, 0x9B05688C, 0x1F83D9AB, 0x5BE0CD19]

/-- The place in the old message from which each word of the next one comes. -/
def permutation : Vector (Fin 16) 16 :=
  #v[2, 6, 3, 10, 7, 0, 4, 13, 1, 11, 12, 5, 9, 14, 15, 8]

/-- Marks the first block of a chunk. -/
def chunkStart : UInt32 := 1

/-- Marks the last block of a chunk. -/
def chunkEnd : UInt32 := 2

/-- Marks an inner node of the tree. -/
def parentNode : UInt32 := 4

/-- Marks the root of the tree. -/
def rootNode : UInt32 := 8

/-- Moves the bits of a word to the right, around its end. -/
def rotateRight (word count : UInt32) : UInt32 :=
  (word >>> count) ||| (word <<< (32 - count))

/-- Mixes two message words into four words of the state. -/
def mix (state : Vector UInt32 16) (a b c d : Fin 16) (x y : UInt32) : Vector UInt32 16 :=
  let a1 := state[a] + state[b] + x
  let d1 := rotateRight (state[d] ^^^ a1) 16
  let c1 := state[c] + d1
  let b1 := rotateRight (state[b] ^^^ c1) 12
  let a2 := a1 + b1 + y
  let d2 := rotateRight (d1 ^^^ a2) 8
  let c2 := c1 + d2
  let b2 := rotateRight (b1 ^^^ c2) 7
  (((state.set a a2).set b b2).set c c2).set d d2

/-- Mixes a message into the columns and then the diagonals of the state. -/
def round (state message : Vector UInt32 16) : Vector UInt32 16 :=
  let state := mix state 0 4 8 12 message[0] message[1]
  let state := mix state 1 5 9 13 message[2] message[3]
  let state := mix state 2 6 10 14 message[4] message[5]
  let state := mix state 3 7 11 15 message[6] message[7]
  let state := mix state 0 5 10 15 message[8] message[9]
  let state := mix state 1 6 11 12 message[10] message[11]
  let state := mix state 2 7 8 13 message[12] message[13]
  mix state 3 4 9 14 message[14] message[15]

/-- Reorders a message for the next round. -/
def permute (message : Vector UInt32 16) : Vector UInt32 16 :=
  permutation.map fun place => message[place]

/-- Runs `count` rounds, with the message reordered between them. -/
def rounds : Nat → Vector UInt32 16 → Vector UInt32 16 → Vector UInt32 16
  | 0, state, _ => state
  | count + 1, state, message => rounds count (round state message) (permute message)

/-- A block with all that its compression depends on. -/
structure Block where
  chaining : Vector UInt32 8
  message : Vector UInt32 16
  counter : UInt64
  length : UInt32
  flags : UInt32

namespace Block

/-- Compresses a block, with `extra` flags set. -/
def compress (block : Block) (extra : UInt32) : Vector UInt32 16 :=
  let low : UInt32 := block.counter.toUInt32
  let high : UInt32 := (block.counter >>> 32).toUInt32
  let start : Vector UInt32 16 :=
    #v[block.chaining[0], block.chaining[1], block.chaining[2], block.chaining[3],
      block.chaining[4], block.chaining[5], block.chaining[6], block.chaining[7],
      initialValue[0], initialValue[1], initialValue[2], initialValue[3],
      low, high, block.length, block.flags ||| extra]
  let final := rounds 7 start block.message
  Vector.ofFn fun place : Fin 16 =>
    if inLower : place.val < 8 then final[place] ^^^ final[place.val + 8]
    else final[place] ^^^ block.chaining[place.val - 8]

/-- The chaining value that a block passes on. -/
def output (block : Block) : Vector UInt32 8 :=
  let words := block.compress 0
  Vector.ofFn fun place : Fin 8 => words[place.val]

/-- The digest of the tree whose root is a block. -/
def digest (block : Block) : List UInt8 :=
  ((block.compress rootNode).toList.take 8).flatMap Bytes.ofWord

end Block

/-- The words of at most 64 bytes, filled up with zeros. -/
def messageOf (bytes : List UInt8) : Vector UInt32 16 :=
  let padded := bytes.toArray
  let byte (place : Nat) : UInt8 := padded.getD place 0
  Vector.ofFn fun place : Fin 16 =>
    Bytes.toWord (byte (4 * place.val)) (byte (4 * place.val + 1))
      (byte (4 * place.val + 2)) (byte (4 * place.val + 3))

/-- Cuts a list into parts of `size` elements, of which the last may be shorter.
At most `count` cuts are made. -/
def cut {α : Type} (size : Nat) : Nat → List α → List (List α)
  | 0, rest => [rest]
  | count + 1, rest =>
      if rest.length ≤ size then [rest]
      else rest.take size :: cut size count (rest.drop size)

/-- The last block of a chunk, when `chaining` comes from the blocks before. -/
def lastBlock (counter : UInt64) (chaining : Vector UInt32 8) (flags : UInt32) :
    List (List UInt8) → Block
  | [] => ⟨chaining, messageOf [], counter, 0, flags ||| chunkEnd⟩
  | [bytes] =>
      ⟨chaining, messageOf bytes, counter, bytes.length.toUInt32, flags ||| chunkEnd⟩
  | bytes :: rest =>
      let block : Block := ⟨chaining, messageOf bytes, counter, 64, flags⟩
      lastBlock counter block.output 0 rest

/-- The last block of the chunk with number `counter`. -/
def chunk (counter : Nat) (bytes : List UInt8) : Block :=
  lastBlock counter.toUInt64 initialValue chunkStart (cut 64 16 bytes)

def parent (left right : Block) : Block :=
  let words := left.output ++ right.output
  ⟨initialValue, words, 0, 64, parentNode⟩

/-- Joins neighbours; a node without a right neighbour moves up as it is. -/
def joinPairs : List Block → List Block
  | left :: right :: rest => parent left right :: joinPairs rest
  | nodes => nodes

/-- Joining neighbours shortens a list of two or more. -/
theorem length_joinPairs_le (nodes : List Block) :
    (joinPairs nodes).length ≤ nodes.length := by
  fun_induction joinPairs nodes with
  | case1 left right rest ih => simp only [List.length_cons]; omega
  | case2 nodes => exact Nat.le_refl _

def root (first : Block) (rest : List Block) : Block :=
  match rest with
  | [] => first
  | second :: others => root (parent first second) (joinPairs others)
termination_by rest.length
decreasing_by
  have shorter := length_joinPairs_le others
  simp only [List.length_cons]
  omega

/-- The chunks of a byte string, numbered from `counter`. -/
def chunks (counter : Nat) : List (List UInt8) → List Block
  | [] => []
  | bytes :: rest => chunk counter bytes :: chunks (counter + 1) rest

/-- The digest of a byte string: 32 bytes. -/
def digest (bytes : List UInt8) : List UInt8 :=
  match chunks 0 (cut 1024 bytes.length bytes) with
  | [] => (chunk 0 []).digest
  | first :: rest => (root first rest).digest

end ShaderPipeline.Blake3
