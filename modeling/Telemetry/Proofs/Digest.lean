import Mathlib.Data.List.Basic
import Mathlib.Data.List.GetD
import Telemetry.Digest

/-!
# Content hashes by numbers

A content hash is evaluated on words of 32 bits, in an array to which each step adds one word. In a
proof, such words are long to unfold, and numbers are not; and the last sixteen words are found
faster in a list that has the last one first. Read like this, a content hash is quickly evaluated.

* **`toNat_schedule`** — the message schedule, from a list that has the last number first.
* **`numbers_compress`** — one more block.
* **`toList_contentHash`** — the content hash by numbers.
-/

namespace Telemetry.Digest

/-- The eight working words, as numbers. -/
structure Numbers where
  a : Nat
  b : Nat
  c : Nat
  d : Nat
  e : Nat
  f : Nat
  g : Nat
  h : Nat

/-- The numbers of the working words. -/
def State.numbers (s : State) : Numbers :=
  ⟨s.a.toNat, s.b.toNat, s.c.toNat, s.d.toNat, s.e.toNat, s.f.toNat, s.g.toNat, s.h.toNat⟩

/-- What 32 bits keep of a number. -/
def low (x : Nat) : Nat :=
  x % 4294967296

theorem toNat_add (x y : UInt32) : (x + y).toNat = low (x.toNat + y.toNat) :=
  UInt32.toNat_add x y

/-- Rotation of a number of 32 bits to the right by `n` bits. -/
def rotateNumber (n x : Nat) : Nat :=
  (x >>> n) ||| low (x <<< (32 - n))

/-! ## The message schedule -/

/-- The number that follows on a schedule with its last number first. -/
def nextNumber (ws : List Nat) : Nat :=
  let x := ws.getD 14 0
  let y := ws.getD 1 0
  let s0 := rotateNumber 7 x ^^^ rotateNumber 18 x ^^^ (x >>> 3)
  let s1 := rotateNumber 17 y ^^^ rotateNumber 19 y ^^^ (y >>> 10)
  low (ws.getD 15 0 + s0 + ws.getD 6 0 + s1)

/-- A schedule with its last number first, and so many more in front of it. -/
def continued : Nat → List Nat → List Nat
  | 0, ws => ws
  | n + 1, ws => continued n (nextNumber ws :: ws)

/-- The numbers of an array of words, the last one first. -/
def lastFirst (w : Array UInt32) : List Nat :=
  (w.toList.map UInt32.toNat).reverse

theorem lastFirst_push (w : Array UInt32) (x : UInt32) :
    lastFirst (w.push x) = x.toNat :: lastFirst w := by
  simp [lastFirst]

theorem getD_lastFirst {w : Array UInt32} {n : Nat} (h : n < w.size) :
    (lastFirst w).getD n 0 = (w.getD (w.size - (n + 1)) 0).toNat := by
  have hlength : n < (w.toList.map UInt32.toNat).length := by simpa using h
  have hplace : w.size - 1 - n = w.size - (n + 1) := by omega
  rw [lastFirst, List.getD_eq_getElem?_getD, List.getElem?_reverse hlength, List.length_map,
    Array.length_toList, hplace, ← List.getD_eq_getElem?_getD, Array.getD_eq_getD_getElem?,
    ← Array.getElem?_toList, ← List.getD_eq_getElem?_getD]
  exact List.getD_map w.toList 0 UInt32.toNat

/-- The word that follows is the number that does. -/
theorem toNat_nextWord {w : Array UInt32} (h : 16 ≤ w.size) :
    (nextWord w).toNat = nextNumber (lastFirst w) := by
  have hback : ∀ n < 16, (lastFirst w).getD n 0 = (w.getD (w.size - (n + 1)) 0).toNat :=
    fun n hn => getD_lastFirst (Nat.lt_of_lt_of_le hn h)
  simp only [nextNumber, hback 14 (by decide), hback 1 (by decide), hback 15 (by decide),
    hback 6 (by decide)]
  simp [nextWord, rotate, rotateNumber, low]

/-- **The message schedule by numbers.** The induction is on the words to come; there have been
sixteen all the time. -/
theorem toNat_schedule {block : Array UInt32} (h : block.size = 16) :
    (schedule block).toList.map UInt32.toNat = (continued 48 (lastFirst block)).reverse := by
  have key : ∀ (steps : List Nat) (w : Array UInt32), 16 ≤ w.size →
      lastFirst (steps.foldl (fun w _ => w.push (nextWord w)) w)
        = continued steps.length (lastFirst w) := by
    intro steps
    induction steps with
    | nil =>
        intro w _
        rfl
    | cons _ steps ih =>
        intro w hw
        rw [List.foldl_cons, ih _ (by rw [Array.size_push]; omega), lastFirst_push,
          toNat_nextWord hw]
        rfl
  have hwords := key (List.range 48) block (Nat.le_of_eq h.symm)
  rw [List.length_range] at hwords
  rw [← hwords, lastFirst, List.reverse_reverse, schedule]

/-! ## The blocks -/

/-- One round with the sum of its schedule word and its constant. -/
def roundNumbers (s : Numbers) (k : Nat) : Numbers :=
  let s1 := rotateNumber 6 s.e ^^^ rotateNumber 11 s.e ^^^ rotateNumber 25 s.e
  let choice := (s.e &&& s.f) ^^^ ((4294967295 - s.e) &&& s.g)
  let t1 := s.h + s1 + choice + k
  let s0 := rotateNumber 2 s.a ^^^ rotateNumber 13 s.a ^^^ rotateNumber 22 s.a
  let majority := (s.a &&& s.b) ^^^ (s.a &&& s.c) ^^^ (s.b &&& s.c)
  ⟨low (t1 + (s0 + majority)), s.a, s.b, s.c, low (s.d + t1), s.e, s.f, s.g⟩

theorem numbers_round (s : State) (k : UInt32) :
    (round s k).numbers = roundNumbers s.numbers k.toNat := by
  simp [round, roundNumbers, State.numbers, rotate, rotateNumber, low]

/-- The numbers after one more block, which has its last number first. -/
def compressNumbers (s : Numbers) (block : List Nat) : Numbers :=
  let t := (List.zipWith (fun k w => low (k + w)) (roundConstants.map UInt32.toNat)
    (continued 48 block).reverse).foldl roundNumbers s
  ⟨low (s.a + t.a), low (s.b + t.b), low (s.c + t.c), low (s.d + t.d), low (s.e + t.e),
    low (s.f + t.f), low (s.g + t.g), low (s.h + t.h)⟩

/-- **One more block, by numbers.** -/
theorem numbers_compress (s : State) {block : Array UInt32} (h : block.size = 16) :
    (compress s block).numbers = compressNumbers s.numbers (lastFirst block) := by
  have hsums : List.zipWith (fun k w => low (k + w)) (roundConstants.map UInt32.toNat)
      ((schedule block).toList.map UInt32.toNat)
        = (List.zipWith (· + ·) roundConstants (schedule block).toList).map UInt32.toNat := by
    rw [List.map_zipWith, List.zipWith_map]
    simp only [toNat_add]
  have hrounds : ∀ ks : List UInt32,
      (ks.map UInt32.toNat).foldl roundNumbers s.numbers = (ks.foldl round s).numbers := by
    intro ks
    rw [List.foldl_map]
    exact List.foldl_hom State.numbers fun s k => (numbers_round s k).symm
  rw [compressNumbers, ← toNat_schedule h, hsums, hrounds]
  simp only [compress, State.numbers, toNat_add]

/-- Blocks have sixteen words, if there are enough. -/
theorem size_of_mem_blocks {n : Nat} {ws : List UInt32} (h : 16 * n ≤ ws.length) :
    ∀ block ∈ blocks n ws, block.size = 16 := by
  induction n generalizing ws with
  | zero =>
      intro block hblock
      exact nomatch hblock
  | succ n ih =>
      intro block hblock
      rcases List.mem_cons.mp hblock with rfl | hblock
      · rw [List.size_toArray, List.length_take]
        omega
      · refine ih ?_ block hblock
        rw [List.length_drop]
        omega

theorem numbers_foldl_compress {bs : List (Array UInt32)} (h : ∀ block ∈ bs, block.size = 16)
    (s : State) : (bs.foldl compress s).numbers
      = (bs.map lastFirst).foldl compressNumbers s.numbers := by
  induction bs generalizing s with
  | nil => rfl
  | cons block bs ih =>
      obtain ⟨hblock, hbs⟩ := List.forall_mem_cons.mp h
      rw [List.foldl_cons, ih hbs, numbers_compress s hblock]
      rfl

/-- The numbers of a message. -/
theorem numbers_sha256 (bytes : List UInt8) : (sha256 bytes).numbers =
    ((blocks ((words (padded bytes)).length / 16) (words (padded bytes))).map lastFirst).foldl
      compressNumbers initial.numbers :=
  numbers_foldl_compress (size_of_mem_blocks (Nat.mul_div_le _ _)) initial

/-- The eight hexadecimal digits of a number of 32 bits. -/
def hexNumber (n : Nat) : List Char :=
  (List.range 8).map fun i => hexDigit (n / Nat.pow 16 (7 - i) % 16)

end Telemetry.Digest

namespace Telemetry

/-- **The content hash by numbers.** -/
theorem toList_contentHash (s : String) : (contentHash s).toList =
    let ws := Digest.words (Digest.padded s.toUTF8.data.toList)
    let t := ((Digest.blocks (ws.length / 16) ws).map Digest.lastFirst).foldl
      Digest.compressNumbers Digest.initial.numbers
    Digest.hexNumber t.a ++ Digest.hexNumber t.b ++ Digest.hexNumber t.c ++ Digest.hexNumber t.d := by
  rw [contentHash, String.toList_ofList]
  simp only [← Digest.numbers_sha256]
  rfl

end Telemetry
