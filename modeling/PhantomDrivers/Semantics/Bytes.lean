import Mathlib

/-!
# Bytes, quadlets and the byte order of the host

A quadlet travels over the bus as four bytes, the most significant one first.
A host that reads them into an integer of its own sees a value that depends on
its byte order; `ntohl` turns that value into the one the sender meant.

* `beQuadlet` — the quadlet with the given bytes, as the sender meant it.
* `beOctlet` — the number that eight such bytes stand for.
* `beBytes` — the bytes of a quadlet, as they are sent.
* `Endian.quadlet` — the integer a host sees when the four bytes lie in its
  memory.
* `Endian.ntohl` — the conversion, defined by the bytes of its argument in
  memory; `ntohl_quadlet` is the law the code relies on.
-/

namespace Semantics

/-- The first `n` bytes of a block. -/
def bytesOf (block : Nat → UInt8) (n : Nat) : List UInt8 := (List.range n).map block

@[simp] theorem length_bytesOf (block : Nat → UInt8) (n : Nat) :
    (bytesOf block n).length = n := by
  simp [bytesOf]

@[simp] theorem bytesOf_zero (block : Nat → UInt8) : bytesOf block 0 = [] := rfl

theorem getElem?_bytesOf (block : Nat → UInt8) {n i : Nat} (inside : i < n) :
    (bytesOf block n)[i]? = some (block i) := by
  simp [bytesOf, inside]

/-- A block is the concatenation of a front and the block behind it. -/
theorem bytesOf_add (block : Nat → UInt8) (n k : Nat) :
    bytesOf block (n + k) = bytesOf block n ++ bytesOf (fun i => block (n + i)) k := by
  simp [bytesOf, List.range_add, Function.comp_def]

/-- The quadlet with the given bytes, most significant first. -/
def beQuadlet (b₀ b₁ b₂ b₃ : UInt8) : UInt32 :=
  UInt32.ofNat (((b₀.toNat * 256 + b₁.toNat) * 256 + b₂.toNat) * 256 + b₃.toNat)

theorem toNat_beQuadlet (b₀ b₁ b₂ b₃ : UInt8) : (beQuadlet b₀ b₁ b₂ b₃).toNat =
    ((b₀.toNat * 256 + b₁.toNat) * 256 + b₂.toNat) * 256 + b₃.toNat := by
  have := b₀.toNat_lt
  have := b₁.toNat_lt
  have := b₂.toNat_lt
  have := b₃.toNat_lt
  rw [beQuadlet, UInt32.toNat_ofNat']
  omega

/-- The byte of weight `256 ^ k`. -/
def byteOf (q : UInt32) (k : Nat) : UInt8 := UInt8.ofNat (q.toNat / 256 ^ k)

theorem toNat_byteOf (q : UInt32) (k : Nat) : (byteOf q k).toNat = q.toNat / 256 ^ k % 256 := by
  rw [byteOf, UInt8.toNat_ofNat']

/-- A quadlet is made of its bytes. -/
@[simp] theorem beQuadlet_byteOf (q : UInt32) :
    beQuadlet (byteOf q 3) (byteOf q 2) (byteOf q 1) (byteOf q 0) = q := by
  have := q.toNat_lt
  apply UInt32.toNat_inj.mp
  simp only [toNat_beQuadlet, toNat_byteOf]
  omega

section

variable (b₀ b₁ b₂ b₃ : UInt8)

@[simp] theorem byteOf_beQuadlet_zero : byteOf (beQuadlet b₀ b₁ b₂ b₃) 0 = b₃ := by
  have := b₃.toNat_lt
  apply UInt8.toNat_inj.mp
  rw [toNat_byteOf, toNat_beQuadlet]
  omega

@[simp] theorem byteOf_beQuadlet_one : byteOf (beQuadlet b₀ b₁ b₂ b₃) 1 = b₂ := by
  have := b₂.toNat_lt
  have := b₃.toNat_lt
  apply UInt8.toNat_inj.mp
  rw [toNat_byteOf, toNat_beQuadlet]
  omega

@[simp] theorem byteOf_beQuadlet_two : byteOf (beQuadlet b₀ b₁ b₂ b₃) 2 = b₁ := by
  have := b₁.toNat_lt
  have := b₂.toNat_lt
  have := b₃.toNat_lt
  apply UInt8.toNat_inj.mp
  rw [toNat_byteOf, toNat_beQuadlet]
  omega

@[simp] theorem byteOf_beQuadlet_three : byteOf (beQuadlet b₀ b₁ b₂ b₃) 3 = b₀ := by
  have := b₀.toNat_lt
  have := b₁.toNat_lt
  have := b₂.toNat_lt
  have := b₃.toNat_lt
  apply UInt8.toNat_inj.mp
  rw [toNat_byteOf, toNat_beQuadlet]
  omega

end

/-- The bits of a quadlet are those of its bytes. -/
theorem testBit_beQuadlet (block : Nat → UInt8) {k : Nat} (inside : k < 32) :
    (beQuadlet (block 0) (block 1) (block 2) (block 3)).toNat.testBit k =
      (block (3 - k / 8)).toNat.testBit (k % 8) := by
  have split (high i k : Nat) : (high * 256 + (block i).toNat).testBit k =
      if k < 8 then (block i).toNat.testBit k else high.testBit (k - 8) := by
    rw [Nat.mul_comm]
    exact Nat.testBit_two_pow_mul_add high (block i).toNat_lt k
  rw [toNat_beQuadlet, split, split, split]
  have byte : k / 8 = 0 ∨ k / 8 = 1 ∨ k / 8 = 2 ∨ k / 8 = 3 := by omega
  rcases byte with here | here | here | here
  · rw [if_pos (by omega), here, show k % 8 = k by omega]
  · rw [if_neg (by omega), if_pos (by omega), here, show k % 8 = k - 8 by omega]
  · rw [if_neg (by omega), if_neg (by omega), if_pos (by omega), here,
      show k % 8 = k - 8 - 8 by omega]
  · rw [if_neg (by omega), if_neg (by omega), if_neg (by omega), here,
      show k % 8 = k - 8 - 8 - 8 by omega]

/-- The number with the given eight bytes, most significant first. -/
def beOctlet (block : Nat → UInt8) : Nat :=
  2 ^ 32 * (beQuadlet (block 0) (block 1) (block 2) (block 3)).toNat +
    (beQuadlet (block 4) (block 5) (block 6) (block 7)).toNat

/-- The bits of an octlet are those of its bytes. -/
theorem testBit_beOctlet (block : Nat → UInt8) {k : Nat} (inside : k < 64) :
    (beOctlet block).testBit k = (block (7 - k / 8)).toNat.testBit (k % 8) := by
  rw [beOctlet, Nat.testBit_two_pow_mul_add _ (UInt32.toNat_lt _)]
  by_cases low : k < 32
  · rw [if_pos low, testBit_beQuadlet (fun i => block (4 + i)) low,
      show 4 + (3 - k / 8) = 7 - k / 8 by omega]
  · rw [if_neg low, testBit_beQuadlet block (by omega), show 3 - (k - 32) / 8 = 7 - k / 8 by omega,
      show (k - 32) % 8 = k % 8 by omega]

/-! ### Fields of a quadlet -/

/-- A shift to the right divides. -/
theorem toNat_shiftRight (q : UInt32) {k : UInt32} (inside : k.toNat < 32) :
    (q >>> k).toNat = q.toNat / 2 ^ k.toNat := by
  rw [UInt32.toNat_shiftRight, Nat.mod_eq_of_lt inside, Nat.shiftRight_eq_div_pow]

/-- A mask of `k` ones is a remainder. -/
theorem toNat_mask (q : UInt32) {mask : UInt32} {k : Nat} (ones : mask.toNat = 2 ^ k - 1) :
    (q &&& mask).toNat = q.toNat % 2 ^ k := by
  rw [UInt32.toNat_and, ones, Nat.and_two_pow_sub_one_eq_mod]

/-- The field at bit `k` that a mask cuts out. -/
theorem shiftRight_mask_eq {q k mask : UInt32} {width value : Nat} (inside : k.toNat < 32)
    (ones : mask.toNat = 2 ^ width - 1) (field : q.toNat / 2 ^ k.toNat % 2 ^ width = value) :
    (q >>> k) &&& mask = UInt32.ofNat value := by
  have := q.toNat_lt
  have below : q.toNat / 2 ^ k.toNat % 2 ^ width < 2 ^ 32 :=
    Nat.lt_of_le_of_lt (Nat.le_trans (Nat.mod_le ..) (Nat.div_le_self ..)) this
  apply UInt32.toNat_inj.mp
  rw [toNat_mask _ ones, toNat_shiftRight _ inside, UInt32.toNat_ofNat', ← field,
    Nat.mod_eq_of_lt below]

/-- A field that is stored in fewer bits. -/
theorem setWidth_ofNat {width : Nat} (value : BitVec width) (narrow : width ≤ 32) :
    (UInt32.ofNat value.toNat).toBitVec.setWidth width = value := by
  have below : value.toNat < 2 ^ 32 :=
    Nat.lt_of_lt_of_le value.isLt (Nat.pow_le_pow_right (by decide) narrow)
  apply BitVec.eq_of_toNat_eq
  rw [BitVec.toNat_setWidth, UInt32.toNat_toBitVec, UInt32.toNat_ofNat', Nat.mod_eq_of_lt below,
    Nat.mod_eq_of_lt value.isLt]

/-! ### Quadlets as they are sent -/

/-- The bytes of a quadlet, most significant first. -/
def beBytes (q : UInt32) : List UInt8 := [byteOf q 3, byteOf q 2, byteOf q 1, byteOf q 0]

@[simp] theorem length_beBytes (q : UInt32) : (beBytes q).length = 4 := rfl

/-- Four bytes are those of a quadlet exactly if they make it up. -/
theorem beBytes_eq_iff {b₀ b₁ b₂ b₃ : UInt8} {q : UInt32} :
    [b₀, b₁, b₂, b₃] = beBytes q ↔ beQuadlet b₀ b₁ b₂ b₃ = q := by
  constructor
  · intro same
    simp only [beBytes, List.cons.injEq, and_true] at same
    obtain ⟨rfl, rfl, rfl, rfl⟩ := same
    exact beQuadlet_byteOf q
  · rintro rfl
    simp [beBytes]

theorem length_flatMap_beBytes (block : List UInt32) :
    (block.flatMap beBytes).length = 4 * block.length := by
  induction block with
  | nil => rfl
  | cons q block ih =>
      rw [List.flatMap_cons, List.length_append, length_beBytes, ih, List.length_cons]
      omega

/-- The byte order of a host. -/
inductive Endian where
  | little
  | big
deriving DecidableEq, Repr

namespace Endian

/-- The integer the host sees when the four bytes lie in its memory in this
order. -/
def quadlet (b₀ b₁ b₂ b₃ : UInt8) : Endian → UInt32
  | little => beQuadlet b₃ b₂ b₁ b₀
  | big => beQuadlet b₀ b₁ b₂ b₃

/-- `ntohl`: the quadlet that the bytes of `q`, as they lie in the memory of
the host, mean on the network. -/
def ntohl (q : UInt32) : Endian → UInt32
  | little => beQuadlet (byteOf q 0) (byteOf q 1) (byteOf q 2) (byteOf q 3)
  | big => beQuadlet (byteOf q 3) (byteOf q 2) (byteOf q 1) (byteOf q 0)

/-- Whatever the byte order of the host, the converted value is the one that
was sent. -/
@[simp] theorem ntohl_quadlet (host : Endian) (b₀ b₁ b₂ b₃ : UInt8) :
    host.ntohl (host.quadlet b₀ b₁ b₂ b₃) = beQuadlet b₀ b₁ b₂ b₃ := by
  cases host <;> simp [quadlet, ntohl]

/-- A little-endian host that does not swap compares with the reversed value. -/
theorem little_quadlet_eq_iff {b₀ b₁ b₂ b₃ : UInt8} {value : UInt32} :
    little.quadlet b₀ b₁ b₂ b₃ = little.ntohl value ↔ beQuadlet b₀ b₁ b₂ b₃ = value := by
  constructor
  · intro equation
    rw [← ntohl_quadlet little, equation]
    simp [ntohl]
  · rintro rfl
    simp [ntohl, quadlet]

/-- The quadlet in the first four bytes of a buffer. -/
def decode (host : Endian) (buffer : List UInt8) : UInt32 :=
  host.quadlet (buffer.getD 0 0) (buffer.getD 1 0) (buffer.getD 2 0) (buffer.getD 3 0)

@[simp] theorem decode_bytesOf (host : Endian) (block : Nat → UInt8) :
    host.decode (bytesOf block 4) = host.quadlet (block 0) (block 1) (block 2) (block 3) := rfl

end Endian

/-! ## Bits of a register -/

/-- Setting bits sets them. -/
theorem or_and_mask (c mask : UInt8) : (c ||| mask) &&& mask = mask := by
  apply UInt8.toBitVec_inj.1
  ext i inside
  simp only [UInt8.toBitVec_and, UInt8.toBitVec_or, BitVec.getElem_and, BitVec.getElem_or]
  cases mask.toBitVec[i] <;> simp

/-- Setting bits leaves the others alone. -/
theorem or_and_not_mask (c mask : UInt8) : (c ||| mask) &&& ~~~mask = c &&& ~~~mask := by
  apply UInt8.toBitVec_inj.1
  ext i inside
  simp only [UInt8.toBitVec_and, UInt8.toBitVec_or, UInt8.toBitVec_not, BitVec.getElem_and,
    BitVec.getElem_or, BitVec.getElem_not]
  cases mask.toBitVec[i] <;> simp

end Semantics
