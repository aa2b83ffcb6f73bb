/-!
# BLAKE3

The unkeyed hash with its usual length of 32 bytes. A message is cut into chunks of 1024 bytes and a
chunk into blocks of 64; the chunks are the leaves of a binary tree in which every left subtree is
complete, and the node at its root is compressed once more under a flag of its own.
-/

namespace ArgoQuery.Digest

/-- Words of 32 bits. -/
abbrev Words (count : Nat) := Vector UInt32 count

namespace Blake3

/-- The state that every chunk starts from. -/
def initialValue : Words 8 :=
  #v[0x6a09e667, 0xbb67ae85, 0x3c6ef372, 0xa54ff53a, 0x510e527f, 0x9b05688c, 0x1f83d9ab, 0x5be0cd19]

/-- The flag of the first block of a chunk. -/
def chunkStart : UInt32 := 1
/-- The flag of the last block of a chunk. -/
def chunkEnd : UInt32 := 2
/-- The flag of a node with two children. -/
def parent : UInt32 := 4
/-- The flag of the node that gives the digest. -/
def root : UInt32 := 8

/-- Moves the bits of a word to the right; those that leave come back on the left. -/
def rotateRight (word count : UInt32) : UInt32 := (word >>> count) ||| (word <<< (32 - count))

/-- Mixes two words of the message into four words of the state. -/
def mix (state : Words 16) (a b c d : Fin 16) (first second : UInt32) : Words 16 :=
  let a1 := state[a] + state[b] + first
  let d1 := rotateRight (state[d] ^^^ a1) 16
  let c1 := state[c] + d1
  let b1 := rotateRight (state[b] ^^^ c1) 12
  let a2 := a1 + b1 + second
  let d2 := rotateRight (d1 ^^^ a2) 8
  let c2 := c1 + d2
  let b2 := rotateRight (b1 ^^^ c2) 7
  (((state.set a a2).set b b2).set c c2).set d d2

/-- Mixes the whole message into the columns and then into the diagonals of the state. -/
def mixAll (state message : Words 16) : Words 16 :=
  let state := mix state 0 4 8 12 message[0] message[1]
  let state := mix state 1 5 9 13 message[2] message[3]
  let state := mix state 2 6 10 14 message[4] message[5]
  let state := mix state 3 7 11 15 message[6] message[7]
  let state := mix state 0 5 10 15 message[8] message[9]
  let state := mix state 1 6 11 12 message[10] message[11]
  let state := mix state 2 7 8 13 message[12] message[13]
  mix state 3 4 9 14 message[14] message[15]

/-- The order in which a round takes the words of the message before it. -/
def permutation : Vector (Fin 16) 16 := #v[2, 6, 3, 10, 7, 0, 4, 13, 1, 11, 12, 5, 9, 14, 15, 8]

/-- Several rounds, the message permuted between them. -/
def rounds : (count : Nat) → (state message : Words 16) → Words 16
  | 0, state, _ => state
  | count + 1, state, message =>
    rounds count (mixAll state message) (permutation.map fun place => message[place])

/-- A node of the tree before its compression. -/
structure Node where
  chaining : Words 8
  block : Words 16
  /-- The number of the chunk, zero above the leaves. -/
  counter : UInt64
  /-- How many bytes of the block are used. -/
  length : UInt32
  flags : UInt32

/-- The first eight words of a node's compression. -/
def Node.compress (node : Node) : Words 8 :=
  let start : Words 16 := node.chaining ++
    #v[initialValue[0], initialValue[1], initialValue[2], initialValue[3], node.counter.toUInt32,
      (node.counter >>> 32).toUInt32, node.length, node.flags]
  let state := rounds 7 start node.block
  Vector.ofFn fun (place : Fin 8) => state[place.val] ^^^ state[place.val + 8]

/-- Cuts a list into pieces of the given size, the last one possibly shorter; an empty list has one
empty piece. -/
def pieces {α : Type} (size : Nat) (items : List α) : List (List α) :=
  (List.range (max 1 ((items.length + size - 1) / size))).map fun index =>
    (items.drop (index * size)).take size

/-- The word at a place of a block of bytes, the lowest byte first and missing bytes zero. -/
def wordAt (bytes : Array UInt8) (place : Nat) : UInt32 :=
  let byte (offset : Nat) : UInt32 := ((bytes[4 * place + offset]?).getD 0).toUInt32
  byte 0 ||| byte 1 <<< 8 ||| byte 2 <<< 16 ||| byte 3 <<< 24

/-- The words of a block, lowest byte first. -/
def blockOf (bytes : List UInt8) : Words 16 :=
  let stored := bytes.toArray
  Vector.ofFn fun place => wordAt stored place.val

/-- The last block of a chunk, the blocks before it compressed into its chaining value. -/
def leafFrom (counter : UInt64) (chaining : Words 8) (flags : UInt32) : List (List UInt8) → Node
  | [] => ⟨chaining, blockOf [], counter, 0, flags ||| chunkEnd⟩
  | [last] => ⟨chaining, blockOf last, counter, UInt32.ofNat last.length, flags ||| chunkEnd⟩
  | block :: rest =>
    let node : Node := ⟨chaining, blockOf block, counter, 64, flags⟩
    leafFrom counter node.compress 0 rest

/-- The node of a chunk. -/
def leaf (counter : Nat) (chunk : List UInt8) : Node :=
  leafFrom (UInt64.ofNat counter) initialValue chunkStart (pieces 64 chunk)

/-- The node above two others. -/
def join (left right : Node) : Node :=
  ⟨initialValue, left.compress ++ right.compress, 0, 64, parent⟩

/-- Joins neighbours; the last node of an odd number stays as it is. -/
def joinPairs : List Node → List Node
  | left :: right :: rest => join left right :: joinPairs rest
  | few => few

/-- Joining nodes in pairs leaves half of them, and one more if one is left over. -/
theorem length_joinPairs (nodes : List Node) :
    (joinPairs nodes).length = (nodes.length + 1) / 2 := by
  fun_induction joinPairs nodes with
  | case1 left right rest later => simp only [List.length_cons, later]; omega
  | case2 few short =>
    exact match few, short with
    | [], _ => rfl
    | [_], _ => by simp
    | left :: right :: rest, short => absurd rfl (short left right rest)

/-- The tree over the given nodes. -/
def tree (first : Node) (others : List Node) : Node :=
  match others with
  | [] => first
  | second :: rest => tree (join first second) (joinPairs rest)
termination_by others.length
decreasing_by simp only [length_joinPairs, List.length_cons]; omega

/-- The hash of a message, as eight words. -/
def hash (message : List UInt8) : Words 8 :=
  let leaves := ((pieces 1024 message).zipIdx).map fun (chunk, index) => leaf index chunk
  let top := match leaves with
    | [] => leaf 0 []
    | first :: others => tree first others
  { top with flags := top.flags ||| root }.compress

/-- A byte as two hexadecimal digits. -/
def hexByte (byte : Nat) : List Char := [Nat.digitChar (byte / 16), Nat.digitChar (byte % 16)]

/-- A word as eight hexadecimal digits, the lowest byte first. -/
def hexWord (word : UInt32) : List Char :=
  let value := word.toNat
  [value, value >>> 8, value >>> 16, value >>> 24].flatMap fun part => hexByte (part % 256)

/-- The hash of a text's UTF-8 bytes, in hexadecimal. -/
def hexDigest (text : String) : String :=
  String.ofList ((hash text.toUTF8.toList).toList.flatMap hexWord)

end Blake3

end ArgoQuery.Digest
