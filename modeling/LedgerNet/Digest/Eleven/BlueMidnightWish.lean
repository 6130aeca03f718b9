import LedgerNet.Digest.Word

/-!
# Blue Midnight Wish, 512 bits

Second stage of the eleven-stage digest. A chaining value of sixteen words is folded with each
block; the last chaining value is then folded once more, as a message, with a fixed value.
-/

namespace LedgerNet.Digest.BlueMidnightWish

/-- Sixteen words: a chaining value or a block. -/
abbrev Words := Vector UInt64 16

/-- The initial chaining value, whose bytes count up from `0x80`. -/
def initial : Words :=
  Vector.ofFn fun i => 0x8081828384858687 + UInt64.ofNat i * 0x0808080808080808

/-- The fixed value of the last fold. -/
def final : Words := Vector.ofFn fun i => 0xaaaaaaaaaaaaaaa0 + UInt64.ofNat i

/-! ## Word maps -/

/-- The five logical maps, by their number. -/
def mix (k : Nat) (x : UInt64) : UInt64 :=
  match k with
  | 0 => (x >>> 1) ^^^ (x <<< 3) ^^^ rotl64 x 4 ^^^ rotl64 x 37
  | 1 => (x >>> 1) ^^^ (x <<< 2) ^^^ rotl64 x 13 ^^^ rotl64 x 43
  | 2 => (x >>> 2) ^^^ (x <<< 1) ^^^ rotl64 x 19 ^^^ rotl64 x 53
  | 3 => (x >>> 2) ^^^ (x <<< 2) ^^^ rotl64 x 28 ^^^ rotl64 x 59
  | 4 => (x >>> 1) ^^^ x
  | _ => (x >>> 2) ^^^ x

/-- The signed sums of five words from which the first sixteen words are made. -/
def sums : Array (List (Bool × Nat)) :=
  #[[(true, 5), (false, 7), (true, 10), (true, 13), (true, 14)],
     [(true, 6), (false, 8), (true, 11), (true, 14), (false, 15)],
     [(true, 0), (true, 7), (true, 9), (false, 12), (true, 15)],
     [(true, 0), (false, 1), (true, 8), (false, 10), (true, 13)],
     [(true, 1), (true, 2), (true, 9), (false, 11), (false, 14)],
     [(true, 3), (false, 2), (true, 10), (false, 12), (true, 15)],
     [(true, 4), (false, 0), (false, 3), (false, 11), (true, 13)],
     [(true, 1), (false, 4), (false, 5), (false, 12), (false, 14)],
     [(true, 2), (false, 5), (false, 6), (true, 13), (false, 15)],
     [(true, 0), (false, 3), (true, 6), (false, 7), (true, 14)],
     [(true, 8), (false, 1), (false, 4), (false, 7), (true, 15)],
     [(true, 8), (false, 0), (false, 2), (false, 5), (true, 9)],
     [(true, 1), (true, 3), (false, 6), (false, 9), (true, 10)],
     [(true, 2), (true, 4), (true, 7), (true, 10), (true, 11)],
     [(true, 3), (false, 5), (true, 8), (false, 11), (false, 12)],
     [(true, 12), (false, 4), (false, 6), (false, 9), (true, 13)]]

/-! ## The fold -/

/-- The part of an expanded word that comes from the message and the chaining value. -/
def element (m h : Words) (j : Nat) : UInt64 :=
  let rolled (k : Nat) : UInt64 := rotl64 m[k % 16] (UInt64.ofNat (k % 16 + 1))
  (rolled j + rolled (j + 3) - rolled (j + 10) + UInt64.ofNat (j + 16) * 0x0555555555555555)
    ^^^ h[(j + 7) % 16]

/-- The first sixteen words of the expansion. -/
def front (m h : Words) : Array UInt64 :=
  Array.ofFn fun (j : Fin 16) =>
    let w := (sums.getD j []).foldl (fun acc (plus, k) =>
      let x := m.getD k 0 ^^^ h.getD k 0
      if plus then acc + x else acc - x) 0
    mix (j % 5) w + h[(j.val + 1) % 16]

/-- The next word of the expansion; `q` holds the words before it. -/
def expand (m h : Words) (q : Array UInt64) (j : Nat) : Array UInt64 :=
  let back (k : Nat) : UInt64 := q.getD (j + 16 - k) 0
  let sum (f : Nat → UInt64) (ks : List Nat) : UInt64 := ks.foldl (fun acc k => acc + f k) 0
  let word :=
    if j < 2 then
      sum (fun k => mix ((17 - k) % 4) (back k))
        [16, 15, 14, 13, 12, 11, 10, 9, 8, 7, 6, 5, 4, 3, 2, 1]
    else
      sum back [16, 14, 12, 10, 8, 6, 4]
        + rotl64 (back 15) 5 + rotl64 (back 13) 11 + rotl64 (back 11) 27 + rotl64 (back 9) 32
        + rotl64 (back 7) 37 + rotl64 (back 5) 43 + rotl64 (back 3) 53
        + mix 4 (back 2) + mix 5 (back 1)
  q.push (word + element m h j)

/-- The new chaining value from a block and the old one. -/
def fold (h m : Words) : Words :=
  let q := (List.range 16).foldl (expand m h) (front m h)
  let word (k : Nat) : UInt64 := q.getD k 0
  let xl := (List.range 8).foldl (fun acc k => acc ^^^ word (16 + k)) 0
  let xh := (List.range 8).foldl (fun acc k => acc ^^^ word (24 + k)) xl
  let low (k : Nat) (shifted : UInt64) : UInt64 :=
    (shifted ^^^ m.getD k 0) + (xl ^^^ word (24 + k) ^^^ word k)
  let h0 := low 0 ((xh <<< 5) ^^^ (word 16 >>> 5))
  let h1 := low 1 ((xh >>> 7) ^^^ (word 17 <<< 8))
  let h2 := low 2 ((xh >>> 5) ^^^ (word 18 <<< 5))
  let h3 := low 3 ((xh >>> 1) ^^^ (word 19 <<< 5))
  let h4 := low 4 ((xh >>> 3) ^^^ word 20)
  let h5 := low 5 ((xh <<< 6) ^^^ (word 21 >>> 6))
  let h6 := low 6 ((xh >>> 4) ^^^ (word 22 <<< 6))
  let h7 := low 7 ((xh >>> 11) ^^^ (word 23 <<< 2))
  let high (k : Nat) (base : UInt64) (shifted : UInt64) (kq : Nat) : UInt64 :=
    rotl64 base (UInt64.ofNat (k + 1)) + (xh ^^^ word (k + 16) ^^^ m.getD k 0)
      + (shifted ^^^ word kq ^^^ word k)
  #v[h0, h1, h2, h3, h4, h5, h6, h7,
     high 8 h4 (xl <<< 8) 23, high 9 h5 (xl >>> 6) 16,
     high 10 h6 (xl <<< 6) 17, high 11 h7 (xl <<< 4) 18,
     high 12 h0 (xl >>> 3) 19, high 13 h1 (xl >>> 4) 20,
     high 14 h2 (xl >>> 7) 21, high 15 h3 (xl >>> 2) 22]

/-- The message, a one bit, zeros, and the length in bits as eight bytes. -/
def padded (b : Octets) : Octets :=
  b ++ [0x80] ++ Octets.zeros (gap 128 8 (b.length + 1)) ++ Octets.littleEndian 8 (8 * b.length)

end BlueMidnightWish

/-- The Blue Midnight Wish digest of 512 bits. -/
def bmw512 (b : Octets) : Octets :=
  let h := (wholeBlocks 128 (BlueMidnightWish.padded b)).foldl
    (fun h block => BlueMidnightWish.fold h (words64LE 16 block)) BlueMidnightWish.initial
  bytes64LE ((BlueMidnightWish.fold BlueMidnightWish.final h).toList.drop 8)

end LedgerNet.Digest
