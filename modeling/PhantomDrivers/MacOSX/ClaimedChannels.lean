import PhantomDrivers.LibPhantom.Communication
import PhantomDrivers.Semantics.LeastSearch
import PhantomDrivers.Semantics.Runs

/-!
# Claimed channels on Mac OS X

`FirewireDeviceMacOSX` notes claims down in one global variable, a `long` of 64
bits, with masks that are shifted as an `int` of 32 bits.  The mask of the
channel 31 is negative, so its sign fills the upper half of the `long`.

* `getFreeChannel`, `claimChannel`, `releaseChannel` — `FirewireDeviceMacOSX.cpp`.
* `Records` — the variable has the status of every channel in the bit of the
  channel, and that of the last one in all bits above, too.
* `Records.step` — an operation changes the status of its own channel.
* `getFreeChannel_unclaimed` — after any operations, the search finds the least
  channel whose last operation was not a claim.
-/

namespace LibPhantom

open Semantics

namespace FirewireDeviceMacOSX

/-! ## The code -/

/-- An `int` that is combined with a `long`. -/
def toLong (i : BitVec 32) : BitVec 64 := i.signExtend 64

/-- `1<<channel` -/
def shifted (channel : Nat) : BitVec 32 := 1#32 <<< channel

/-- The loop of `getFreeChannel`. -/
def firstUnclaimed (claimed : BitVec 64) : Option Nat :=
  (List.range 32).find? fun ch => claimed &&& toLong (shifted ch) == 0

/-- `FirewireDeviceMacOSX::getFreeChannel`.  The state is the variable
`claimed`. -/
def getFreeChannel : Call Exn (BitVec 64) Nat := do
  match firstUnclaimed (← get) with
  | some ch => return ch
  | none => throw (.text "No free isochronous channels available")

/-- `FirewireDeviceMacOSX::claimChannel`.  Shifting an `int` by 32 or more is
undefined. -/
def claimChannel (channel : Nat) : Call Exn (BitVec 64) Unit :=
  if channel < 32 then modify fun claimed => claimed ||| toLong (shifted channel)
  else Call.undefined

/-- `FirewireDeviceMacOSX::releaseChannel` -/
def releaseChannel (channel : Nat) : Call Exn (BitVec 64) Unit :=
  if channel < 32 then modify fun claimed => claimed &&& toLong (~~~shifted channel)
  else Call.undefined

/-! ## Operations -/

/-- An operation on a channel, of any device object. -/
inductive Operation where
  | claim (channel : Nat)
  | release (channel : Nat)
deriving DecidableEq, Repr

/-- The channel of an operation. -/
def Operation.channel : Operation → Nat
  | .claim channel => channel
  | .release channel => channel

/-- Any sequence of operations. -/
def bookkeeping : System (BitVec 64) Operation where
  step claimed operation :=
    match operation with
    | .claim channel => (claimChannel channel claimed).state?
    | .release channel => (releaseChannel channel claimed).state?

/-- The last operation on a channel. -/
def lastOperation (channel : Nat) (operations : List Operation) : Option Operation :=
  operations.reverse.find? fun operation => operation.channel = channel

/-- The test that `getFreeChannel` makes. -/
def IsClaimed (claimed : BitVec 64) (channel : Nat) : Prop :=
  claimed &&& toLong (shifted channel) ≠ 0#64

/-! ## Bits -/

section Bits

variable {c i : Nat} {x : BitVec 32}

/-- The sign fills the upper half. -/
theorem getLsbD_toLong (inside : i < 64) : (toLong x).getLsbD i = x.getLsbD (min i 31) := by
  rw [toLong, BitVec.getLsbD_signExtend, decide_eq_true inside, Bool.true_and]
  by_cases low : i < 32
  · rw [if_pos low, Nat.min_eq_left (by omega)]
  · rw [if_neg low, Nat.min_eq_right (by omega), BitVec.msb_eq_getLsbD_last]

theorem getLsbD_shifted (inside : i < 32) : (shifted c).getLsbD i = decide (i = c) := by
  rw [shifted, BitVec.getLsbD_shiftLeft, BitVec.getLsbD_one, decide_eq_true inside, Bool.true_and,
    Bool.eq_iff_iff]
  simp
  omega

/-- The bits of a mask: the one of the channel, and for the last channel all
that are above it, too. -/
theorem getLsbD_mask (inside : i < 64) :
    (toLong (shifted c)).getLsbD i = decide (min i 31 = c) := by
  rw [getLsbD_toLong inside, getLsbD_shifted (by omega)]

theorem getLsbD_not_mask (inside : i < 64) :
    (toLong (~~~shifted c)).getLsbD i = decide (min i 31 ≠ c) := by
  rw [getLsbD_toLong inside, BitVec.getLsbD_not, getLsbD_shifted (by omega),
    decide_eq_true (show min i 31 < 32 by omega), Bool.true_and, decide_not]

end Bits

/-! ## What the variable records -/

/-- The channels that are claimed after an operation. -/
def Operation.effect (claims : Set Nat) : Operation → Set Nat
  | .claim channel => insert channel claims
  | .release channel => claims \ {channel}

/-- The channels whose last operation is a claim. -/
def claimsOf (operations : List Operation) : Set Nat :=
  {c | lastOperation c operations = some (.claim c)}

/-- The variable has the status of every channel in the bit of the channel, and
the status of the last one in all bits above it, too. -/
def Records (claimed : BitVec 64) (claims : Set Nat) : Prop :=
  ∀ i < 64, claimed.getLsbD i = true ↔ min i 31 ∈ claims

section Records

variable {claimed : BitVec 64} {claims : Set Nat} {c : Nat} {operation : Operation}

theorem records_zero : Records 0 (claimsOf []) := by
  intro i _
  simp [claimsOf, lastOperation]

/-- The test of the code is right. -/
theorem Records.isClaimed_iff (records : Records claimed claims) (small : c < 32) :
    IsClaimed claimed c ↔ c ∈ claims := by
  have lowest : min c 31 = c := by omega
  constructor
  · intro isClaimed
    by_contra unclaimed
    apply isClaimed
    apply BitVec.eq_of_getLsbD_eq
    intro i inside
    rw [BitVec.getLsbD_and, getLsbD_mask inside, BitVec.getLsbD_zero]
    by_cases here : min i 31 = c
    · have clear : claimed.getLsbD i = false := by
        rw [Bool.eq_false_iff, Ne, records i inside, here]
        exact unclaimed
      rw [clear, Bool.false_and]
    · rw [decide_eq_false here, Bool.and_false]
  · intro member zero
    have bit := (records c (by omega)).mpr (lowest.symm ▸ member)
    have both : (claimed &&& toLong (shifted c)).getLsbD c = true := by
      rw [BitVec.getLsbD_and, bit, getLsbD_mask (by omega), decide_eq_true lowest, Bool.and_self]
    rw [zero, BitVec.getLsbD_zero] at both
    cases both

/-- **One operation** changes the status of its channel. -/
theorem Records.step (records : Records claimed claims) (inRange : operation.channel < 32) :
    ∃ claimed', bookkeeping.step claimed operation = some claimed' ∧
      Records claimed' (operation.effect claims) := by
  cases operation with
  | claim channel =>
      refine ⟨claimed ||| toLong (shifted channel), ?_, fun i inside => ?_⟩
      · have here : channel < 32 := inRange
        show (claimChannel channel claimed).state? = _
        rw [claimChannel, if_pos here]
        rfl
      · rw [BitVec.getLsbD_or, getLsbD_mask inside, Bool.or_eq_true, records i inside,
          decide_eq_true_eq, Operation.effect, Set.mem_insert_iff]
        exact or_comm
  | release channel =>
      refine ⟨claimed &&& toLong (~~~shifted channel), ?_, fun i inside => ?_⟩
      · have here : channel < 32 := inRange
        show (releaseChannel channel claimed).state? = _
        rw [releaseChannel, if_pos here]
        rfl
      · rw [BitVec.getLsbD_and, getLsbD_not_mask inside, Bool.and_eq_true, records i inside,
          decide_eq_true_eq, Operation.effect, Set.mem_sdiff, Set.mem_singleton_iff]

/-- A channel that is shifted too far leaves no state behind. -/
theorem inRange_of_step {claimed' : BitVec 64}
    (stepped : bookkeeping.step claimed operation = some claimed') : operation.channel < 32 := by
  by_contra outside
  cases operation with
  | claim channel =>
      have undefined : claimChannel channel = Call.undefined := if_neg outside
      change (claimChannel channel claimed).state? = _ at stepped
      rw [undefined] at stepped
      cases stepped
  | release channel =>
      have undefined : releaseChannel channel = Call.undefined := if_neg outside
      change (releaseChannel channel claimed).state? = _ at stepped
      rw [undefined] at stepped
      cases stepped

theorem Operation.mem_effect_of_ne (different : c ≠ operation.channel) :
    c ∈ operation.effect claims ↔ c ∈ claims := by
  cases operation with
  | claim channel => exact or_iff_right different
  | release channel => exact and_iff_left different

theorem lastOperation_append (operations : List Operation) : lastOperation c (operations ++ [operation]) =
    if operation.channel = c then some operation else lastOperation c operations := by
  rw [lastOperation, List.reverse_append, List.reverse_singleton, List.singleton_append,
    List.find?_cons]
  by_cases here : operation.channel = c
  · rw [decide_eq_true here, if_pos here]
  · rw [decide_eq_false here, if_neg here]
    rfl

theorem claimsOf_append (operations : List Operation) :
    claimsOf (operations ++ [operation]) = operation.effect (claimsOf operations) := by
  ext c
  show lastOperation c (operations ++ [operation]) = _ ↔ _
  rw [lastOperation_append]
  cases operation with
  | claim channel =>
      show (if channel = c then _ else _) = _ ↔ c ∈ insert channel (claimsOf operations)
      rw [Set.mem_insert_iff]
      split
      · next here => simp [here]
      · next elsewhere =>
          rw [or_iff_right (Ne.symm elsewhere)]
          rfl
  | release channel =>
      show (if channel = c then _ else _) = _ ↔ c ∈ claimsOf operations \ {channel}
      rw [Set.mem_sdiff, Set.mem_singleton_iff]
      split
      · next here => simp [here]
      · next elsewhere =>
          rw [and_iff_left (Ne.symm elsewhere)]
          rfl

/-- **All operations.**  The last one on each channel is recorded. -/
theorem records_run {operations : List Operation}
    (inRange : ∀ operation ∈ operations, operation.channel < 32) :
    ∃ claimed, bookkeeping.run 0 operations = some claimed ∧
      Records claimed (claimsOf operations) := by
  induction operations using List.reverseRecOn with
  | nil => exact ⟨0, rfl, records_zero⟩
  | append_singleton operations operation ih =>
      obtain ⟨claimed, reached, records⟩ := ih fun o earlier =>
        inRange o (List.mem_append_left _ earlier)
      obtain ⟨claimed', stepped, records'⟩ :=
        records.step (inRange operation (List.mem_append_right _ (List.mem_singleton_self _)))
      refine ⟨claimed', ?_, ?_⟩
      · rw [System.run_append, reached, Option.bind_some, System.run_cons, stepped]
        rfl
      · rw [claimsOf_append]
        exact records'

end Records

/-! ## The search -/

/-- A search finds the least channel that passes the test. -/
theorem getFreeChannel_findsLeast {claimed : BitVec 64} {free : Nat → Prop}
    (test : ∀ c < 32, ¬IsClaimed claimed c ↔ free c) :
    FindsLeast (getFreeChannel claimed) 32 free := by
  have bits (c : Nat) (small : c < 32) :
      (claimed &&& toLong (shifted c) == 0) = true ↔ free c := by
    rw [← test c small, IsClaimed, not_not, beq_iff_eq]
    rfl
  cases found : firstUnclaimed claimed with
  | some c =>
      refine findsLeast_of_found bits found (s := claimed) ?_
      simp [getFreeChannel, found]
  | none =>
      refine findsLeast_of_none bits found (s := claimed)
        (e := .text "No free isochronous channels available") ?_
      simp [getFreeChannel, found]

/-- **The bookkeeping.**  After any operations on the channels 0 to 31, the
search finds the least channel whose last operation was not a claim, and throws
exactly if there is none.  An operation changes the status of its own channel
only. -/
theorem getFreeChannel_unclaimed (operations : List Operation)
    (inRange : ∀ operation ∈ operations, operation.channel < 32) :
    ∃ claimed, bookkeeping.run 0 operations = some claimed ∧
      FindsLeast (getFreeChannel claimed) 32
        (fun c => lastOperation c operations ≠ some (.claim c)) ∧
      ∀ operation claimed', bookkeeping.step claimed operation = some claimed' →
        ∀ c < 32, c ≠ operation.channel → (IsClaimed claimed' c ↔ IsClaimed claimed c) := by
  obtain ⟨claimed, reached, records⟩ := records_run inRange
  refine ⟨claimed, reached, ?_, fun operation claimed' stepped c small different => ?_⟩
  · exact getFreeChannel_findsLeast fun c small => not_congr (records.isClaimed_iff small)
  · obtain ⟨claimed₁, stepped₁, records₁⟩ := records.step (inRange_of_step stepped)
    obtain rfl : claimed₁ = claimed' := Option.some.inj (stepped₁.symm.trans stepped)
    rw [records.isClaimed_iff small, records₁.isClaimed_iff small]
    exact Operation.mem_effect_of_ne different

/-- The channel with the sign bit is claimed, given back and claimed again. -/
theorem getFreeChannel_unclaimed_last :
    ∃ claimed, bookkeeping.run 0 [.claim 31, .claim 0, .release 31, .claim 1, .claim 31] =
        some claimed ∧
      IsLeast {c | c < 32 ∧
        lastOperation c [.claim 31, .claim 0, .release 31, .claim 1, .claim 31] ≠
          some (.claim c)} 2 := by
  obtain ⟨claimed, reached, finds, -⟩ := getFreeChannel_unclaimed
    [.claim 31, .claim 0, .release 31, .claim 1, .claim 31] (by decide)
  refine ⟨claimed, reached, (finds.returns 2).mp ⟨claimed, ?_⟩⟩
  cases reached
  rfl

end FirewireDeviceMacOSX

end LibPhantom
