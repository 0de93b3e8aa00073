import LintBridge.Bench.Tool.Display

/-!
# Digests

Short numbers that stand for the content of files: words of 32 bits that blocks of the
content are mixed into, and the remainder of a division of polynomials.
-/

set_option autoImplicit false

namespace LintBridge.Digest

def rotate (x : UInt32) (n : UInt32) : UInt32 :=
  (x <<< n) ||| (x >>> (32 - n))

/-- The content filled up to whole blocks: a one, zeros, and the number of bits in eight
bytes, the greatest one first or last. -/
def padded (greatFirst : Bool) (bytes : List UInt8) : List UInt8 :=
  let zeros := (119 - bytes.length % 64) % 64
  let bits := bytes.length * 8
  let size := (List.range 8).map fun n => UInt8.ofNat (bits / Nat.pow 256 n)
  bytes ++ 0x80 :: List.replicate zeros 0 ++ (if greatFirst then size.reverse else size)

def words (greatFirst : Bool) : List UInt8 → List UInt32
  | a :: b :: c :: d :: rest =>
      let word :=
        if greatFirst then
          (a.toUInt32 <<< 24) ||| (b.toUInt32 <<< 16) ||| (c.toUInt32 <<< 8) ||| d.toUInt32
        else (d.toUInt32 <<< 24) ||| (c.toUInt32 <<< 16) ||| (b.toUInt32 <<< 8) ||| a.toUInt32
      word :: words greatFirst rest
  | _ => []

def blocks : Nat → List UInt32 → List (Array UInt32)
  | 0, _ => []
  | fuel + 1, list =>
      if list.isEmpty then [] else (list.take 16).toArray :: blocks fuel (list.drop 16)

def blocksOf (greatFirst : Bool) (bytes : List UInt8) : List (Array UInt32) :=
  let list := words greatFirst (padded greatFirst bytes)
  blocks (list.length + 1) list

def word (a : Array UInt32) (n : Nat) : UInt32 :=
  (a[n]?).getD 0

def hexByte (n : Nat) : Raw :=
  let digits := Nat.toDigits 16 n
  List.replicate (2 - digits.length) '0' ++ digits

def hexWord (greatFirst : Bool) (w : UInt32) : Raw :=
  let bytes := (List.range 4).map fun n => hexByte (w.toNat / Nat.pow 256 n % 256)
  (if greatFirst then bytes.reverse else bytes).flatten

/-- The words that the first digest adds in its rounds: the sines of whole numbers. -/
def sines : Array UInt32 :=
  ((List.range 64).map fun n =>
    (Float.floor (Float.abs (Float.sin (Float.ofNat (n + 1))) * 4294967296.0)).toUInt32).toArray

def shifts : Array UInt32 :=
  #[7, 12, 17, 22, 5, 9, 14, 20, 4, 11, 16, 23, 6, 10, 15, 21]

def mix5 (state : Array UInt32) (block : Array UInt32) : Array UInt32 :=
  let (a, b, c, d) :=
    (List.range 64).foldl
      (fun (a, b, c, d) n =>
        let (f, g) : UInt32 × Nat :=
          if n < 16 then ((b &&& c) ||| (~~~b &&& d), n)
          else if n < 32 then ((d &&& b) ||| (~~~d &&& c), (5 * n + 1) % 16)
          else if n < 48 then (b ^^^ c ^^^ d, (3 * n + 5) % 16)
          else (c ^^^ (b ||| ~~~d), 7 * n % 16)
        let f := f + a + word sines n + word block g
        (d, b + rotate f (word shifts (n / 16 * 4 + n % 4)), b, c))
      (word state 0, word state 1, word state 2, word state 3)
  #[word state 0 + a, word state 1 + b, word state 2 + c, word state 3 + d]

def md5 (bytes : List UInt8) : Raw :=
  let state := (blocksOf false bytes).foldl mix5 #[0x67452301, 0xefcdab89, 0x98badcfe, 0x10325476]
  state.toList.flatMap (hexWord false)

def spread1 (block : Array UInt32) : Array UInt32 :=
  (List.range 64).foldl
    (fun w n =>
      let t := n + 16
      w.push (rotate (word w (t - 3) ^^^ word w (t - 8) ^^^ word w (t - 14) ^^^ word w (t - 16)) 1))
    block

def mix1 (state : Array UInt32) (block : Array UInt32) : Array UInt32 :=
  let w := spread1 block
  let (a, b, c, d, e) :=
    (List.range 80).foldl
      (fun (a, b, c, d, e) n =>
        let (f, k) : UInt32 × UInt32 :=
          if n < 20 then ((b &&& c) ||| (~~~b &&& d), 0x5a827999)
          else if n < 40 then (b ^^^ c ^^^ d, 0x6ed9eba1)
          else if n < 60 then ((b &&& c) ||| (b &&& d) ||| (c &&& d), 0x8f1bbcdc)
          else (b ^^^ c ^^^ d, 0xca62c1d6)
        (rotate a 5 + f + e + k + word w n, a, rotate b 30, c, d))
      (word state 0, word state 1, word state 2, word state 3, word state 4)
  #[word state 0 + a, word state 1 + b, word state 2 + c, word state 3 + d, word state 4 + e]

def sha1 (bytes : List UInt8) : Raw :=
  let state := (blocksOf true bytes).foldl mix1
    #[0x67452301, 0xefcdab89, 0x98badcfe, 0x10325476, 0xc3d2e1f0]
  state.toList.flatMap (hexWord true)

def primes : Nat → Nat → List Nat → List Nat
  | 0, _, found => found
  | fuel + 1, n, found =>
      if found.any fun p => n % p = 0 then primes fuel (n + 1) found
      else primes fuel (n + 1) (found ++ [n])

def root (power n : Nat) : Nat → Nat → Nat
  | 0, low => low
  | bits + 1, low =>
      let next := low + Nat.pow 2 bits
      root power n bits (if Nat.pow next power ≤ n then next else low)

def rootBits (power prime : Nat) : UInt32 :=
  UInt32.ofNat (root power (prime * Nat.pow 2 (32 * power)) 48 0 % Nat.pow 2 32)

def cubeBits : Array UInt32 :=
  (((primes 320 2 []).take 64).map (rootBits 3)).toArray

def squareBits : Array UInt32 :=
  (((primes 20 2 []).take 8).map (rootBits 2)).toArray

def turn (x n : UInt32) : UInt32 :=
  rotate x (32 - n)

def spread256 (block : Array UInt32) : Array UInt32 :=
  (List.range 48).foldl
    (fun w n =>
      let t := n + 16
      let x := word w (t - 15)
      let y := word w (t - 2)
      let s0 := turn x 7 ^^^ turn x 18 ^^^ (x >>> 3)
      let s1 := turn y 17 ^^^ turn y 19 ^^^ (y >>> 10)
      w.push (word w (t - 16) + s0 + word w (t - 7) + s1))
    block

def mix256 (constants : Array UInt32) (state : Array UInt32) (block : Array UInt32) :
    Array UInt32 :=
  let w := spread256 block
  let step (s : Array UInt32) (n : Nat) : Array UInt32 :=
    let a := word s 0
    let e := word s 4
    let s1 := turn e 6 ^^^ turn e 11 ^^^ turn e 25
    let choice := (e &&& word s 5) ^^^ (~~~e &&& word s 6)
    let t1 := word s 7 + s1 + choice + word constants n + word w n
    let s0 := turn a 2 ^^^ turn a 13 ^^^ turn a 22
    let most := (a &&& word s 1) ^^^ (a &&& word s 2) ^^^ (word s 1 &&& word s 2)
    #[t1 + s0 + most, a, word s 1, word s 2, word s 3 + t1, e, word s 5, word s 6]
  let after := (List.range 64).foldl step state
  ((List.range 8).map fun n => word state n + word after n).toArray

def sha256 (bytes : List UInt8) : Raw :=
  let state := (blocksOf true bytes).foldl (mix256 cubeBits) squareBits
  state.toList.flatMap (hexWord true)

def divide (crc : UInt32) (byte : UInt8) : UInt32 :=
  (List.range 8).foldl
    (fun (crc : UInt32) _ =>
      if crc &&& 0x80000000 ≠ 0 then (crc <<< 1) ^^^ 0x04c11db7 else crc <<< 1)
    (crc ^^^ (byte.toUInt32 <<< 24))

def sizeBytes : Nat → Nat → List UInt8
  | 0, _ => []
  | fuel + 1, n => if n = 0 then [] else UInt8.ofNat n :: sizeBytes fuel (n / 256)

def crc (bytes : List UInt8) : Nat :=
  (~~~((bytes ++ sizeBytes 8 bytes.length).foldl divide 0)).toNat

def sums (digest : List UInt8 → Raw) (t : Errand) (c : Tool.Choices) : Product :=
  t.forEach (t.sources c.operands) fun t item =>
    match item.2 with
    | .ok raw => t.saidLines [digest raw.toBytes ++ ' ' :: ' ' :: item.1]
    | .error e => Tool.unread t item.1 e

def cksum (t : Errand) (c : Tool.Choices) : Product :=
  t.forEach (t.sources c.operands) fun t item =>
    match item.2 with
    | .ok raw =>
        let name : Raw := if c.operands.isEmpty then [] else ' ' :: item.1
        t.saidLines [Raw.ofNat (crc raw.toBytes) ++ ' ' :: Raw.ofNat raw.length ++ name]
    | .error e => Tool.unread t item.1 e

end LintBridge.Digest
