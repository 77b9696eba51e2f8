/-! # SHA-256

The fingerprint of a schema set is a digest of its documents, so that two sets with
the same documents have the same fingerprint whatever the order of registration.
This is the digest of FIPS 180-4 over lists: the message is padded to blocks of
sixteen words, and each block is mixed into eight chaining words.
-/

set_option autoImplicit false

namespace ReplySchema.Sha256

-- Powers are those of the core library, whatever else is imported.
attribute [local instance (high)] instPowNat

/-- The eight words that the chain starts with. -/
def initial : List UInt32 :=
  [
    0x6a09e667, 0xbb67ae85, 0x3c6ef372, 0xa54ff53a,
    0x510e527f, 0x9b05688c, 0x1f83d9ab, 0x5be0cd19]

def roundConstants : List UInt32 :=
  [
    0x428a2f98, 0x71374491, 0xb5c0fbcf, 0xe9b5dba5,
    0x3956c25b, 0x59f111f1, 0x923f82a4, 0xab1c5ed5,
    0xd807aa98, 0x12835b01, 0x243185be, 0x550c7dc3,
    0x72be5d74, 0x80deb1fe, 0x9bdc06a7, 0xc19bf174,
    0xe49b69c1, 0xefbe4786, 0x0fc19dc6, 0x240ca1cc,
    0x2de92c6f, 0x4a7484aa, 0x5cb0a9dc, 0x76f988da,
    0x983e5152, 0xa831c66d, 0xb00327c8, 0xbf597fc7,
    0xc6e00bf3, 0xd5a79147, 0x06ca6351, 0x14292967,
    0x27b70a85, 0x2e1b2138, 0x4d2c6dfc, 0x53380d13,
    0x650a7354, 0x766a0abb, 0x81c2c92e, 0x92722c85,
    0xa2bfe8a1, 0xa81a664b, 0xc24b8b70, 0xc76c51a3,
    0xd192e819, 0xd6990624, 0xf40e3585, 0x106aa070,
    0x19a4c116, 0x1e376c08, 0x2748774c, 0x34b0bcb5,
    0x391c0cb3, 0x4ed8aa4a, 0x5b9cca4f, 0x682e6ff3,
    0x748f82ee, 0x78a5636f, 0x84c87814, 0x8cc70208,
    0x90befffa, 0xa4506ceb, 0xbef9a3f7, 0xc67178f2]

def rotate (x : UInt32) (n : UInt32) : UInt32 := (x >>> n) ||| (x <<< (32 - n))

/-- The message with a one bit, zeros, and its length in bits as eight octets behind it. -/
def pad (message : List UInt8) : List UInt8 :=
  let length := message.length
  let zeros := (119 - length % 64) % 64
  message ++ 0x80 :: List.replicate zeros 0 ++
    (List.range 8).map fun i => UInt8.ofNat (length * 8 / 256 ^ (7 - i))

/-- The octets as words of four, the first octet highest. -/
def words : List UInt8 → List UInt32
  | a :: b :: c :: d :: rest =>
      ((a.toUInt32 <<< 24) ||| (b.toUInt32 <<< 16) ||| (c.toUInt32 <<< 8) ||| d.toUInt32) ::
        words rest
  | _ => []

/-- The next word of a message schedule, from the last sixteen with the latest first. -/
def nextWord (latest : List UInt32) : UInt32 :=
  let word (i : Nat) : UInt32 := (latest[i]?).getD 0
  let x := word 14
  let y := word 1
  word 15 + (rotate x 7 ^^^ rotate x 18 ^^^ (x >>> 3)) + word 6 +
    (rotate y 17 ^^^ rotate y 19 ^^^ (y >>> 10))

/-- Extends a schedule, which is kept with the latest word first, by some words. -/
def extend : Nat → List UInt32 → List UInt32
  | 0, ws => ws
  | n + 1, ws => extend n (nextWord ws :: ws)

/-- The words of the sixty-four rounds of a block. -/
def schedule (block : List UInt32) : List UInt32 := (extend 48 block.reverse).reverse

/-- One round: mixes a schedule word and its constant into the chaining words. -/
def round (state : List UInt32) (wk : UInt32 × UInt32) : List UInt32 :=
  match state with
  | [a, b, c, d, e, f, g, h] =>
      let t1 := h + (rotate e 6 ^^^ rotate e 11 ^^^ rotate e 25) +
        ((e &&& f) ^^^ ((~~~e) &&& g)) + wk.2 + wk.1
      let t2 := (rotate a 2 ^^^ rotate a 13 ^^^ rotate a 22) +
        ((a &&& b) ^^^ (a &&& c) ^^^ (b &&& c))
      [t1 + t2, a, b, c, d + t1, e, f, g]
  | other => other

def compress (state : List UInt32) (block : List UInt32) : List UInt32 :=
  let mixed := ((schedule block).zip roundConstants).foldl round state
  List.zipWith (· + ·) state mixed

/-- Mixes blocks of sixteen words, at most as many as `fuel` says. -/
def chain : Nat → List UInt32 → List UInt32 → List UInt32
  | 0, state, _ => state
  | _ + 1, state, [] => state
  | fuel + 1, state, ws => chain fuel (compress state (ws.take 16)) (ws.drop 16)

def digest (message : List UInt8) : List UInt32 :=
  let ws := words (pad message)
  chain ws.length initial ws

def wordText (w : UInt32) : String :=
  String.ofList ((List.range 8).map fun i => Nat.digitChar (w.toNat / 16 ^ (7 - i) % 16))

/-- The first eight octets of the digest in hexadecimal. -/
def shortHex (message : List UInt8) : String :=
  String.join (((digest message).take 2).map wordText)

end ReplySchema.Sha256
