import Mathlib.Data.UInt
import Sm7225.Audio.Types

/-!
# The queues of a stream

A client asks for a data queue of so many frames of such a size.  The numbers are
32 bits wide, so the limit on the size of the queue also keeps the product from
wrapping.
-/

namespace Sm7225
namespace Audio

/-- The bytes that the data queue and the buffer of the worker thread hold. -/
structure StreamQueues where
  mDataMQ : Nat
  mBuffer : Nat
  deriving DecidableEq, Repr

/-- What the preparation meets after the checks of the numbers. -/
structure PrepareAnswers where
  -- isValid of the three queues
  commandMQ : Bool
  dataMQ : Bool
  statusMQ : Bool
  createEventFlag : Bool
  -- the buffer of the thread is allocated, and the thread runs
  init : Bool
  run : Bool
  deriving DecidableEq, Repr

/-- {lit}`2 << 30`, an int that becomes a uint32. -/
def MAX_BUFFER_SIZE : UInt32 := ((2 : Int32) <<< (30 : Int32)).toUInt32

def prepareQueues (mQueues : Option StreamQueues) (frameSize framesCount : UInt32)
    (answers : PrepareAnswers) : Except Result StreamQueues :=
  if mQueues.isSome then
    .error .invalidState
  else if frameSize = 0 ∨ framesCount = 0 then
    .error .invalidArguments
  else if frameSize > MAX_BUFFER_SIZE / framesCount then
    .error .invalidArguments
  else if !answers.commandMQ || !answers.dataMQ || !answers.statusMQ then
    .error .invalidArguments
  else if !answers.createEventFlag then
    .error .invalidArguments
  else if !answers.init then
    .error .invalidArguments
  else if !answers.run then
    .error .invalidArguments
  else
    .ok {
      mDataMQ := (frameSize * framesCount).toNat
      mBuffer := (frameSize * framesCount).toNat }

def prepareForWriting : Option StreamQueues -> UInt32 -> UInt32 -> PrepareAnswers ->
    Except Result StreamQueues :=
  prepareQueues

def prepareForReading : Option StreamQueues -> UInt32 -> UInt32 -> PrepareAnswers ->
    Except Result StreamQueues :=
  prepareQueues

/-- The queues, the buffer and the thread can be created. -/
def creatable : PrepareAnswers where
  commandMQ := true
  dataMQ := true
  statusMQ := true
  createEventFlag := true
  init := true
  run := true

/-!
# Sizes
-/

theorem toNat_MAX_BUFFER_SIZE : MAX_BUFFER_SIZE.toNat = 2 ^ 31 := by
  decide

theorem not_too_big_iff {frameSize framesCount : UInt32} (hcount : framesCount ≠ 0) :
    ¬ frameSize > MAX_BUFFER_SIZE / framesCount <->
      frameSize.toNat * framesCount.toNat <= 2 ^ 31 := by
  have hpos : 0 < framesCount.toNat := by
    apply Nat.pos_of_ne_zero
    intro hzero
    exact hcount (UInt32.toNat_inj.mp hzero)
  rw [gt_iff_lt, UInt32.lt_iff_toNat_lt, not_lt, UInt32.toNat_div, toNat_MAX_BUFFER_SIZE,
    Nat.le_div_iff_mul_le hpos]

theorem toNat_mul_of_le {frameSize framesCount : UInt32}
    (h : frameSize.toNat * framesCount.toNat <= 2 ^ 31) :
    (frameSize * framesCount).toNat = frameSize.toNat * framesCount.toNat := by
  rw [UInt32.toNat_mul]
  apply Nat.mod_eq_of_lt
  exact lt_of_le_of_lt h (by decide)

theorem prepareQueues_eq_ok_iff (frameSize framesCount : UInt32) (queues : StreamQueues) :
    prepareQueues none frameSize framesCount creatable = .ok queues <->
      (frameSize ≠ 0 ∧ framesCount ≠ 0 ∧
        frameSize.toNat * framesCount.toNat <= 2 ^ 31) ∧
      queues = {
        mDataMQ := frameSize.toNat * framesCount.toNat
        mBuffer := frameSize.toNat * framesCount.toNat } := by
  unfold prepareQueues
  rw [if_neg (by decide)]
  by_cases hzero : frameSize = 0 ∨ framesCount = 0
  · rw [if_pos hzero]
    constructor
    · intro h
      cases h
    · rintro ⟨⟨hsize, hcount, _⟩, _⟩
      exact absurd hzero (not_or.mpr ⟨hsize, hcount⟩)
  · rw [if_neg hzero]
    rw [not_or] at hzero
    have hlimit := @not_too_big_iff frameSize framesCount hzero.2
    by_cases hbig : frameSize > MAX_BUFFER_SIZE / framesCount
    · rw [if_pos hbig]
      constructor
      · intro h
        cases h
      · rintro ⟨⟨_, _, hle⟩, _⟩
        exact absurd hbig (hlimit.mpr hle)
    · have hle := hlimit.mp hbig
      rw [if_neg hbig, toNat_mul_of_le hle]
      constructor
      · intro h
        cases h
        exact ⟨⟨hzero.1, hzero.2, hle⟩, rfl⟩
      · rintro ⟨_, hqueues⟩
        rw [hqueues]
        rfl

def GiB : Nat := 2 ^ 30

/-- The queue is accepted up to one GiB, and has the size that was asked for. -/
structure SizesExact
    (prepare : Option StreamQueues -> UInt32 -> UInt32 -> PrepareAnswers ->
      Except Result StreamQueues)
    (frameSize framesCount : UInt32) : Prop where
  accepts : (exists queues, prepare none frameSize framesCount creatable = .ok queues) <->
    frameSize ≠ 0 ∧ framesCount ≠ 0 ∧ frameSize.toNat * framesCount.toNat <= GiB
  size : forall queues, prepare none frameSize framesCount creatable = .ok queues ->
    queues.mDataMQ = frameSize.toNat * framesCount.toNat ∧
      queues.mBuffer = queues.mDataMQ

/-- The shift is one too far, so sizes up to two GiB are accepted. -/
def Oversized (frameSize framesCount : UInt32) : Prop :=
  GiB < frameSize.toNat * framesCount.toNat ∧
    frameSize.toNat * framesCount.toNat <= 2 * GiB

theorem toNat_pos_of_mul_pos {frameSize framesCount : UInt32}
    (h : 0 < frameSize.toNat * framesCount.toNat) : frameSize ≠ 0 ∧ framesCount ≠ 0 := by
  constructor
  · intro hzero
    rw [hzero, UInt32.toNat_zero, Nat.zero_mul] at h
    exact absurd h (lt_irrefl 0)
  · intro hzero
    rw [hzero, UInt32.toNat_zero, Nat.mul_zero] at h
    exact absurd h (lt_irrefl 0)

theorem sizesExact_iff (frameSize framesCount : UInt32) :
    SizesExact prepareQueues frameSize framesCount <-> ¬ Oversized frameSize framesCount := by
  have haccepted : (exists queues,
      prepareQueues none frameSize framesCount creatable = .ok queues) <->
        frameSize ≠ 0 ∧ framesCount ≠ 0 ∧
          frameSize.toNat * framesCount.toNat <= 2 * GiB := by
    constructor
    · rintro ⟨queues, hqueues⟩
      exact ((prepareQueues_eq_ok_iff frameSize framesCount queues).mp hqueues).1
    · intro h
      exact ⟨_, (prepareQueues_eq_ok_iff frameSize framesCount _).mpr ⟨h, rfl⟩⟩
  constructor
  · intro h hover
    have hnonzero := toNat_pos_of_mul_pos (lt_of_le_of_lt (Nat.zero_le GiB) hover.1)
    have hle := h.accepts.mp (haccepted.mpr ⟨hnonzero.1, hnonzero.2, hover.2⟩)
    exact absurd hle.2.2 (not_le.mpr hover.1)
  · intro h
    constructor
    · rw [haccepted]
      constructor
      · rintro ⟨hsize, hcount, hle⟩
        refine ⟨hsize, hcount, ?_⟩
        by_contra hlt
        exact h ⟨not_le.mp hlt, hle⟩
      · rintro ⟨hsize, hcount, hle⟩
        exact ⟨hsize, hcount, le_trans hle (Nat.le_mul_of_pos_left GiB (by decide))⟩
    · intro queues hqueues
      rw [((prepareQueues_eq_ok_iff frameSize framesCount queues).mp hqueues).2]
      exact ⟨rfl, rfl⟩

end Audio
end Sm7225
