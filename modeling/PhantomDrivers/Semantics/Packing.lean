import PhantomDrivers.Semantics.Bytes

/-!
# Structures in memory

A structure of C lies in a block of bytes.  Its members lie one behind the
other, an integer lies there in the byte order of the host, and bit-fields share
an integer, from its lowest bit on or from its highest bit on.

A packing is a way to store the values of a type that leaves nothing out: every
value has its bytes, and every block of that size is the bytes of one value.  A
structure with padding has none; `seq` asks for a proof that no padding is
needed.

* `Packing α` — the size, the alignment, and both directions with their laws.
* `Packing.byte`, `double`, `seq`, `map` — packings of integers and structures.
* `Endian.splitBits`, `Endian.flags` — the bit-fields of an integer.
* `Packing.store` — an assignment in a buffer.
-/

namespace Semantics

/-- How the values of a type lie in memory. -/
structure Packing (α : Type) where
  size : Nat
  align : Nat
  encode : α → List UInt8
  decode : (Nat → UInt8) → α
  length_encode : ∀ a, (encode a).length = size
  decode_of_bytes : ∀ a data, bytesOf data size = encode a → decode data = a
  encode_decode : ∀ data, encode (decode data) = bytesOf data size

/-- The block behind an offset. -/
def behind (data : Nat → UInt8) (offset : Nat) : Nat → UInt8 := fun i => data (offset + i)

@[simp] theorem behind_zero (data : Nat → UInt8) : behind data 0 = data := by
  funext i
  exact congrArg data (Nat.zero_add i)

/-- Some bytes are stored at an offset. -/
def overwrite (data : Nat → UInt8) (offset : Nat) (bytes : List UInt8) : Nat → UInt8 :=
  fun i => if offset ≤ i then (bytes[i - offset]?).getD (data i) else data i

section Overwrite

variable {data : Nat → UInt8} {offset : Nat} {bytes more : List UInt8}

theorem overwrite_of_lt {i : Nat} (before : i < offset) : overwrite data offset bytes i = data i :=
  if_neg (Nat.not_le_of_lt before)

theorem overwrite_of_ge {i : Nat} (after : offset + bytes.length ≤ i) :
    overwrite data offset bytes i = data i := by
  have outside : bytes[i - offset]? = none := List.getElem?_eq_none (by omega)
  rw [overwrite, if_pos (by omega), outside]
  rfl

/-- The bytes that are written can be read back. -/
theorem overwrite_add {i : Nat} (inside : i < bytes.length) :
    overwrite data offset bytes (offset + i) = bytes[i] := by
  rw [overwrite, if_pos (Nat.le_add_right _ _), Nat.add_sub_cancel_left,
    List.getElem?_eq_getElem inside]
  rfl

/-- The bytes that were stored. -/
theorem bytesOf_overwrite_self :
    bytesOf (behind (overwrite data offset bytes) offset) bytes.length = bytes := by
  apply List.ext_getElem (length_bytesOf _ _)
  intro i _ inside
  simp only [bytesOf, List.getElem_map, List.getElem_range, behind]
  exact overwrite_add inside

/-- Two stores in a row. -/
theorem overwrite_append : overwrite data offset (bytes ++ more) =
    overwrite (overwrite data offset bytes) (offset + bytes.length) more := by
  funext i
  by_cases before : i < offset
  · rw [overwrite_of_lt before, overwrite_of_lt (by omega), overwrite_of_lt before]
  obtain ⟨k, rfl⟩ := Nat.exists_eq_add_of_le (Nat.le_of_not_lt before)
  by_cases first : k < bytes.length
  · have inside : k < (bytes ++ more).length := by
      rw [List.length_append]
      omega
    rw [overwrite_add inside, overwrite_of_lt (by omega), overwrite_add first,
      List.getElem_append_left first]
  by_cases second : k < bytes.length + more.length
  · obtain ⟨j, rfl⟩ := Nat.exists_eq_add_of_le (Nat.le_of_not_lt first)
    have inside : bytes.length + j < (bytes ++ more).length := by
      rw [List.length_append]
      omega
    have later : j < more.length := by omega
    rw [overwrite_add inside, ← Nat.add_assoc, overwrite_add later,
      List.getElem_append_right (Nat.le_add_right _ _)]
    simp
  · have outside : offset + (bytes ++ more).length ≤ offset + k := by
      rw [List.length_append]
      omega
    rw [overwrite_of_ge outside, overwrite_of_ge (by omega), overwrite_of_ge (by omega)]

end Overwrite

/-! ## Integers -/

/-- Two integers side by side, the high one first. -/
def appendEquiv (m n : Nat) : BitVec m × BitVec n ≃ BitVec (m + n) where
  toFun p := p.1 ++ p.2
  invFun v := (v.extractLsb' n m, v.extractLsb' 0 n)
  left_inv _ := Prod.ext BitVec.extractLsb'_append_eq_left BitVec.extractLsb'_append_eq_right
  right_inv _ := BitVec.extractLsb'_append_extractLsb'

/-- An integer and its bits, from the lowest one on. -/
def bitsEquiv (n : Nat) : (Fin n → Bool) ≃ BitVec n where
  toFun := BitVec.ofFnLE
  invFun v i := v[i]
  left_inv f := by
    funext i
    simp
  right_inv v := by
    ext i inside
    simp

namespace Endian

/-- An integer and its halves, in the order of the addresses. -/
def halves (n : Nat) : Endian → BitVec n × BitVec n ≃ BitVec (n + n)
  | little => (Equiv.prodComm _ _).trans (appendEquiv n n)
  | big => appendEquiv n n

/-- An integer and the two bit-fields it is made of, in the order of their
declaration. -/
def splitBits (first second : Nat) :
    Endian → BitVec first × BitVec second ≃ BitVec (first + second)
  | little =>
      ((Equiv.prodComm _ _).trans (appendEquiv second first)).trans
        { toFun := BitVec.cast (Nat.add_comm _ _)
          invFun := BitVec.cast (Nat.add_comm _ _)
          left_inv := fun _ => rfl
          right_inv := fun _ => rfl }
  | big => appendEquiv first second

/-- An integer and its bits, as bit-fields in the order of their declaration. -/
def flags (n : Nat) : Endian → (Fin n → Bool) ≃ BitVec n
  | little => bitsEquiv n
  | big => (Equiv.arrowCongr Fin.revPerm (Equiv.refl Bool)).trans (bitsEquiv n)

/-- The bit-fields of a byte have numbers. -/
instance neZero_eight : NeZero 8 := ⟨by decide⟩

/-- The bit-fields of a short have numbers. -/
instance neZero_sixteen : NeZero 16 := ⟨by decide⟩

end Endian

/-! ## Packings -/

/-- The first multiple of an alignment from `n` on. -/
def roundUp (n align : Nat) : Nat := (n + align - 1) / align * align

namespace Packing

variable {α β γ : Type}

/-- One byte. -/
def byte : Packing (BitVec 8) where
  size := 1
  align := 1
  encode b := [UInt8.ofBitVec b]
  decode data := (data 0).toBitVec
  length_encode _ := rfl
  decode_of_bytes _ _ same := congrArg UInt8.toBitVec (List.cons.inj same).1
  encode_decode _ := rfl

/-- The same bytes, for another type. -/
def map (packing : Packing α) (e : α ≃ β) : Packing β where
  size := packing.size
  align := packing.align
  encode b := packing.encode (e.symm b)
  decode data := e (packing.decode data)
  length_encode b := packing.length_encode _
  decode_of_bytes b data same := by
    rw [packing.decode_of_bytes _ data same, Equiv.apply_symm_apply]
  encode_decode data := by rw [Equiv.symm_apply_apply, packing.encode_decode]

/-- Two members, the second one at the first offset that is aligned.  No
padding must be needed. -/
def seq (first : Packing α) (second : Packing β)
    (fits : roundUp first.size second.align = first.size) : Packing (α × β) where
  size := roundUp first.size second.align + second.size
  align := max first.align second.align
  encode p := first.encode p.1 ++ second.encode p.2
  decode data :=
    (first.decode data, second.decode (behind data (roundUp first.size second.align)))
  length_encode p := by
    rw [fits, List.length_append, first.length_encode, second.length_encode]
  decode_of_bytes p data same := by
    rw [fits, bytesOf_add] at same
    have length : (bytesOf data first.size).length = (first.encode p.1).length := by
      rw [length_bytesOf, first.length_encode]
    obtain ⟨front, rest⟩ := List.append_inj same length
    rw [fits]
    exact Prod.ext (first.decode_of_bytes _ _ front) (second.decode_of_bytes _ _ rest)
  encode_decode data := by
    rw [fits, first.encode_decode, second.encode_decode, bytesOf_add]
    rfl

/-- An integer of twice as many bytes, in the byte order of the host; it is
aligned to its size. -/
def double {n : Nat} (host : Endian) (half : Packing (BitVec n))
    (fits : roundUp half.size half.align = half.size) : Packing (BitVec (n + n)) :=
  { (half.seq half fits).map (host.halves n) with align := 2 * half.align }

/-- A member that lies at this offset. -/
theorem fits {first : Packing α} {second : Packing β} (offset align : Nat)
    (ends : first.size = offset := by simp) (aligned : second.align = align := by simp)
    (next : roundUp offset align = offset := by rfl) :
    roundUp first.size second.align = first.size := by
  rw [ends, aligned, next]

section Sizes

variable {first : Packing α} {second : Packing β} {n : Nat} {half : Packing (BitVec n)}

@[simp] theorem size_byte : byte.size = 1 := rfl

@[simp] theorem align_byte : byte.align = 1 := rfl

@[simp] theorem size_map (e : α ≃ β) : (first.map e).size = first.size := rfl

@[simp] theorem align_map (e : α ≃ β) : (first.map e).align = first.align := rfl

@[simp] theorem size_seq {fits : roundUp first.size second.align = first.size} :
    (first.seq second fits).size = first.size + second.size :=
  congrArg (· + second.size) fits

@[simp] theorem align_seq {fits : roundUp first.size second.align = first.size} :
    (first.seq second fits).align = max first.align second.align := rfl

@[simp] theorem size_double {host : Endian} {fits : roundUp half.size half.align = half.size} :
    (double host half fits).size = half.size + half.size :=
  congrArg (· + half.size) fits

@[simp] theorem align_double {host : Endian} {fits : roundUp half.size half.align = half.size} :
    (double host half fits).align = 2 * half.align := rfl

end Sizes

/-- `uint16_t` -/
def uint16 (host : Endian) : Packing (BitVec 16) := double host byte (fits 1 1)

@[simp] theorem size_uint16 (host : Endian) : (uint16 host).size = 2 := rfl

@[simp] theorem align_uint16 (host : Endian) : (uint16 host).align = 2 := rfl

/-- Two of them need no padding. -/
theorem adjacent_uint16 (host : Endian) :
    roundUp (uint16 host).size (uint16 host).align = (uint16 host).size :=
  fits 2 2

/-- `uint32_t` -/
def uint32 (host : Endian) : Packing (BitVec 32) :=
  double host (uint16 host) (adjacent_uint16 host)

@[simp] theorem size_uint32 (host : Endian) : (uint32 host).size = 4 := by
  rw [uint32, size_double, size_uint16]

@[simp] theorem align_uint32 (host : Endian) : (uint32 host).align = 4 := by
  rw [uint32, align_double, align_uint16]

/-! ### Access to a buffer -/

/-- A value is stored at an offset. -/
def store (packing : Packing α) (offset : Nat) (a : α) (data : Nat → UInt8) : Nat → UInt8 :=
  overwrite data offset (packing.encode a)

section Laws

variable {packing : Packing α} {other : Packing β} {data : Nat → UInt8} {offset i : Nat} {a : α}

/-- Every block is the bytes of one value. -/
theorem existsUnique_bytes (packing : Packing α) (data : Nat → UInt8) :
    ∃! a, bytesOf data packing.size = packing.encode a := by
  refine ⟨packing.decode data, (packing.encode_decode data).symm, ?_⟩
  intro a bytes
  exact (packing.decode_of_bytes a data bytes).symm

/-- What is stored is the encoding. -/
theorem bytesOf_store :
    bytesOf (behind (packing.store offset a data) offset) packing.size = packing.encode a := by
  rw [← packing.length_encode a]
  exact bytesOf_overwrite_self

/-- Nothing else is touched. -/
theorem store_outside (outside : i < offset ∨ offset + packing.size ≤ i) :
    packing.store offset a data i = data i := by
  rcases outside with before | after
  · exact overwrite_of_lt before
  · refine overwrite_of_ge ?_
    rwa [packing.length_encode]

/-- The members of a structure are stored one by one. -/
theorem store_seq {fits : roundUp packing.size other.align = packing.size} {c : β} :
    (packing.seq other fits).store offset (a, c) data =
      other.store (offset + packing.size) c (packing.store offset a data) := by
  rw [store, store, store, ← packing.length_encode a]
  exact overwrite_append

theorem store_map {e : α ≃ γ} {c : γ} :
    (packing.map e).store offset c data = packing.store offset (e.symm c) data := rfl

end Laws

end Packing

end Semantics
