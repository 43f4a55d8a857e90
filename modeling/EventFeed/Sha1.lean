import EventFeed.Bytes

/-!
# SHA-1

The digest of twenty bytes with which the opening of a web socket proves that its request was read.
A message is filled up to whole blocks of sixteen words, and each block stirs five words through
eighty rounds. The rounds see the block through a window of sixteen words that moves on by one word
a round.
-/

namespace EventFeed.Sha1

/-- A word turned to the left. -/
def rotate (n word : UInt32) : UInt32 :=
  word <<< n ||| word >>> (32 - n)

/-- A message with the bytes that fill up its last block: a mark, zeros, and its length in bits. -/
def padded (message : List UInt8) : List UInt8 :=
  message ++ 0x80 :: List.replicate ((119 - message.length % 64) % 64) 0 ++
    Bytes.ofNumber 8 (8 * message.length)

/-- Bytes in words of four. -/
def words : List UInt8 → List UInt32
  | a :: b :: c :: d :: rest =>
    (a.toUInt32 <<< 24 ||| b.toUInt32 <<< 16 ||| c.toUInt32 <<< 8 ||| d.toUInt32) :: words rest
  | _ => []

/-- The five words that are stirred. -/
structure Chain where
  a : UInt32 := 0x67452301
  b : UInt32 := 0xEFCDAB89
  c : UInt32 := 0x98BADCFE
  d : UInt32 := 0x10325476
  e : UInt32 := 0xC3D2E1F0
  deriving DecidableEq, Repr

namespace Chain

/-- What a round mixes in beside the block: a mixture of three words and a constant. -/
def mixture (chain : Chain) (round : Nat) : UInt32 :=
  if round < 20 then ((chain.b &&& chain.c) ||| (~~~chain.b &&& chain.d)) + 0x5A827999
  else if round < 40 then (chain.b ^^^ chain.c ^^^ chain.d) + 0x6ED9EBA1
  else if round < 60 then
    ((chain.b &&& chain.c) ||| (chain.b &&& chain.d) ||| (chain.c &&& chain.d)) + 0x8F1BBCDC
  else (chain.b ^^^ chain.c ^^^ chain.d) + 0xCA62C1D6

/-- One round with a word of the block. -/
def turn (chain : Chain) (round : Nat) (word : UInt32) : Chain where
  a := rotate 5 chain.a + chain.mixture round + chain.e + word
  b := chain.a
  c := rotate 30 chain.b
  d := chain.c
  e := chain.d

/-- The sums of the words of two chains. -/
def add (x y : Chain) : Chain :=
  ⟨x.a + y.a, x.b + y.b, x.c + y.c, x.d + y.d, x.e + y.e⟩

/-- The bytes of a chain. -/
def bytes (chain : Chain) : List UInt8 :=
  [chain.a, chain.b, chain.c, chain.d, chain.e].flatMap fun word => Bytes.ofNumber 4 word.toNat

end Chain

/-- The window one word further on. -/
def slide (window : List UInt32) : List UInt32 :=
  let word (i : Nat) : UInt32 := window.getD i 0
  window.drop 1 ++ [rotate 1 (word 13 ^^^ word 8 ^^^ word 2 ^^^ word 0)]

/-- Stir a block of sixteen words into a chain. -/
def stir (chain : Chain) (block : List UInt32) : Chain :=
  let turned := (List.range 80).foldl
    (fun (state : Chain × List UInt32) round =>
      (state.1.turn round (state.2.headD 0), slide state.2))
    (chain, block)
  chain.add turned.1

/-- The digest of a message. -/
def digest (message : List UInt8) : List UInt8 :=
  let stream := words (padded message)
  let blocks := (List.range (stream.length / 16)).map fun i => (stream.drop (16 * i)).take 16
  (blocks.foldl stir {}).bytes

end EventFeed.Sha1
