set_option autoImplicit false

/-!
The 64-bit XXH3 digest with seed 0. Inputs of up to 240 bytes have formulas of their own for six
ranges of length; longer ones go through eight lanes, stripe by stripe.
-/
namespace ObservableGen.Digest

def byteAt (bytes : ByteArray) (place : Nat) : UInt8 :=
  bytes[place]?.getD 0

-- A word of `count` bytes, the lowest first.
def littleEndian (bytes : ByteArray) (place : Nat) : Nat → UInt64
  | 0 => 0
  | count + 1 =>
    (littleEndian bytes (place + 1) count <<< 8) ||| (byteAt bytes place).toUInt64

def word32 (bytes : ByteArray) (place : Nat) : UInt64 :=
  littleEndian bytes place 4

def word64 (bytes : ByteArray) (place : Nat) : UInt64 :=
  littleEndian bytes place 8

namespace XXH3

def prime32A : UInt64 := 0x9E3779B1
def prime32B : UInt64 := 0x85EBCA77
def prime32C : UInt64 := 0xC2B2AE3D
def prime64A : UInt64 := 0x9E3779B185EBCA87
def prime64B : UInt64 := 0xC2B2AE3D27D4EB4F
def prime64C : UInt64 := 0x165667B19E3779F9
def prime64D : UInt64 := 0x85EBCA77C2B2AE63
def prime64E : UInt64 := 0x27D4EB2F165667C5
def mixPrimeA : UInt64 := 0x165667919E3779F9
def mixPrimeB : UInt64 := 0x9FB21C651E98DF25

def secret : ByteArray :=
  ⟨#[0xb8, 0xfe, 0x6c, 0x39, 0x23, 0xa4, 0x4b, 0xbe, 0x7c, 0x01, 0x81, 0x2c, 0xf7, 0x21, 0xad, 0x1c,
    0xde, 0xd4, 0x6d, 0xe9, 0x83, 0x90, 0x97, 0xdb, 0x72, 0x40, 0xa4, 0xa4, 0xb7, 0xb3, 0x67, 0x1f,
    0xcb, 0x79, 0xe6, 0x4e, 0xcc, 0xc0, 0xe5, 0x78, 0x82, 0x5a, 0xd0, 0x7d, 0xcc, 0xff, 0x72, 0x21,
    0xb8, 0x08, 0x46, 0x74, 0xf7, 0x43, 0x24, 0x8e, 0xe0, 0x35, 0x90, 0xe6, 0x81, 0x3a, 0x26, 0x4c,
    0x3c, 0x28, 0x52, 0xbb, 0x91, 0xc3, 0x00, 0xcb, 0x88, 0xd0, 0x65, 0x8b, 0x1b, 0x53, 0x2e, 0xa3,
    0x71, 0x64, 0x48, 0x97, 0xa2, 0x0d, 0xf9, 0x4e, 0x38, 0x19, 0xef, 0x46, 0xa9, 0xde, 0xac, 0xd8,
    0xa8, 0xfa, 0x76, 0x3f, 0xe3, 0x9c, 0x34, 0x3f, 0xf9, 0xdc, 0xbb, 0xc7, 0xc7, 0x0b, 0x4f, 0x1d,
    0x8a, 0x51, 0xe0, 0x4b, 0xcd, 0xb4, 0x59, 0x31, 0xc8, 0x9f, 0x7e, 0xc9, 0xd9, 0x78, 0x73, 0x64,
    0xea, 0xc5, 0xac, 0x83, 0x34, 0xd3, 0xeb, 0xc3, 0xc5, 0x81, 0xa0, 0xff, 0xfa, 0x13, 0x63, 0xeb,
    0x17, 0x0d, 0xdd, 0x51, 0xb7, 0xf0, 0xda, 0x49, 0xd3, 0x16, 0x55, 0x26, 0x29, 0xd4, 0x68, 0x9e,
    0x2b, 0x16, 0xbe, 0x58, 0x7d, 0x47, 0xa1, 0xfc, 0x8f, 0xf8, 0xb8, 0xd1, 0x7a, 0xd0, 0x31, 0xce,
    0x45, 0xcb, 0x3a, 0x8f, 0x95, 0x16, 0x04, 0x28, 0xaf, 0xd7, 0xfb, 0xca, 0xbb, 0x4b, 0x40, 0x7e]⟩

-- The two halves of the 128-bit product, combined.
def foldedProduct (left right : UInt64) : UInt64 :=
  let product := left.toNat * right.toNat
  UInt64.ofNat product ^^^ UInt64.ofNat (product >>> 64)

def rotateLeft (word count : UInt64) : UInt64 :=
  (word <<< count) ||| (word >>> (64 - count))

def reverseBytes (word : UInt64) : Nat → UInt64
  | 0 => 0
  | count + 1 => ((word &&& 0xFF) <<< (8 * count).toUInt64) ||| reverseBytes (word >>> 8) count

def finishTiny (hash : UInt64) : UInt64 :=
  let hash := (hash ^^^ (hash >>> 33)) * prime64B
  let hash := (hash ^^^ (hash >>> 29)) * prime64C
  hash ^^^ (hash >>> 32)

def finish (hash : UInt64) : UInt64 :=
  let hash := (hash ^^^ (hash >>> 37)) * mixPrimeA
  hash ^^^ (hash >>> 32)

def hashEmpty : UInt64 :=
  finishTiny (word64 secret 56 ^^^ word64 secret 64)

-- One to three bytes.
def hashTiny (bytes : ByteArray) : UInt64 :=
  let size := bytes.size
  let first := (byteAt bytes 0).toUInt64
  let middle := (byteAt bytes (size / 2)).toUInt64
  let last := (byteAt bytes (size - 1)).toUInt64
  let combined := (first <<< 16) ||| (middle <<< 24) ||| last ||| (size.toUInt64 <<< 8)
  finishTiny (combined ^^^ word32 secret 0 ^^^ word32 secret 4)

-- Four to eight bytes.
def hashSmall (bytes : ByteArray) : UInt64 :=
  let size := bytes.size.toUInt64
  let joined := word32 bytes (bytes.size - 4) + (word32 bytes 0 <<< 32)
  let hash := joined ^^^ word64 secret 8 ^^^ word64 secret 16
  let hash := (hash ^^^ rotateLeft hash 49 ^^^ rotateLeft hash 24) * mixPrimeB
  let hash := (hash ^^^ ((hash >>> 35) + size)) * mixPrimeB
  hash ^^^ (hash >>> 28)

-- Nine to sixteen bytes.
def hashMedium (bytes : ByteArray) : UInt64 :=
  let low := word64 bytes 0 ^^^ word64 secret 24 ^^^ word64 secret 32
  let high := word64 bytes (bytes.size - 8) ^^^ word64 secret 40 ^^^ word64 secret 48
  finish (bytes.size.toUInt64 + reverseBytes low 8 + high + foldedProduct low high)

def mix (bytes : ByteArray) (place secretPlace : Nat) : UInt64 :=
  foldedProduct (word64 bytes place ^^^ word64 secret secretPlace)
    (word64 bytes (place + 8) ^^^ word64 secret (secretPlace + 8))

-- Pairs of chunks taken from both ends inwards.
def mixEnds (bytes : ByteArray) : Nat → UInt64
  | 0 => 0
  | count + 1 =>
    mix bytes (16 * count) (32 * count)
      + mix bytes (bytes.size - 16 * (count + 1)) (32 * count + 16) + mixEnds bytes count

-- From 17 to 128 bytes.
def hashLarge (bytes : ByteArray) : UInt64 :=
  finish (bytes.size.toUInt64 * prime64A + mixEnds bytes ((bytes.size - 1) / 32 + 1))

-- From 129 to 240 bytes.
def hashHuge (bytes : ByteArray) : UInt64 :=
  let start := (List.range 8).foldl (fun hash chunk => hash + mix bytes (16 * chunk) (16 * chunk))
    (bytes.size.toUInt64 * prime64A)
  let further := (List.range (bytes.size / 16 - 8)).foldl
    (fun hash chunk => hash + mix bytes (16 * (chunk + 8)) (16 * chunk + 3)) (finish start)
  finish (further + mix bytes (bytes.size - 16) 119)

-- The eight running sums over a long input.
abbrev Lanes := List UInt64

def initialLanes : Lanes :=
  [prime32C, prime64A, prime64B, prime64C, prime64D, prime32B, prime64E, prime32A]

-- Adds a stripe of 64 bytes; each lane takes its own product and its neighbour's word.
def addStripe (bytes : ByteArray) (lanes : Lanes) (place secretPlace : Nat) : Lanes :=
  lanes.mapIdx fun lane (sum : UInt64) =>
    let keyed := word64 bytes (place + 8 * lane) ^^^ word64 secret (secretPlace + 8 * lane)
    let product := (keyed &&& (0xFFFFFFFF : UInt64)) * (keyed >>> 32)
    sum + word64 bytes (place + 8 * (lane ^^^ 1)) + product

def scramble (lanes : Lanes) : Lanes :=
  lanes.mapIdx fun lane (sum : UInt64) =>
    (sum ^^^ (sum >>> 47) ^^^ word64 secret (128 + 8 * lane)) * prime32A

def addStripes (bytes : ByteArray) (lanes : Lanes) (place count : Nat) : Lanes :=
  (List.range count).foldl
    (fun lanes stripe => addStripe bytes lanes (place + 64 * stripe) (8 * stripe)) lanes

def mergeLanes : Nat → Lanes → UInt64
  | secretPlace, left :: right :: rest =>
    foldedProduct (left ^^^ word64 secret secretPlace) (right ^^^ word64 secret (secretPlace + 8))
      + mergeLanes (secretPlace + 16) rest
  | _, _ => 0

-- More than 240 bytes: blocks of sixteen stripes, each followed by a scramble, then the stripes of a
-- last block that begin before the last 64 bytes, then the last 64 bytes.
def hashLong (bytes : ByteArray) : UInt64 :=
  let blocks := (bytes.size - 1) / 1024
  let lanes := (List.range blocks).foldl
    (fun lanes block => scramble (addStripes bytes lanes (1024 * block) 16)) initialLanes
  let lanes := addStripes bytes lanes (1024 * blocks) ((bytes.size - 1 - 1024 * blocks) / 64)
  let lanes := addStripe bytes lanes (bytes.size - 64) 121
  finish (bytes.size.toUInt64 * prime64A + mergeLanes 11 lanes)

def hash (bytes : ByteArray) : UInt64 :=
  if bytes.size = 0 then hashEmpty
  else if bytes.size ≤ 3 then hashTiny bytes
  else if bytes.size ≤ 8 then hashSmall bytes
  else if bytes.size ≤ 16 then hashMedium bytes
  else if bytes.size ≤ 128 then hashLarge bytes
  else if bytes.size ≤ 240 then hashHuge bytes
  else hashLong bytes

end XXH3

end ObservableGen.Digest
