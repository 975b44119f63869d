import IPStack.Lib.Reach
import IPStack.Tcp.Slices

/-! The congestion window over acknowledgements and losses in any order. -/

namespace IPStack

open Transition

inductive CongestionEvent
  | ack (bytesAcked : BitVec 16)
  | loss
deriving DecidableEq, Repr

namespace SlowStart

variable {mss : BitVec 32} {w : SlowStart}

def step (mss : BitVec 32) (w : SlowStart) : CongestionEvent → SlowStart
  | .ack bytesAcked => w.incrementCwnd mss bytesAcked
  | .loss => w.dropCwnd mss

/-- The bytes by which an acknowledgement opens the window, before the sum is limited. -/
def growth (mss : BitVec 32) (w : SlowStart) (bytesAcked : BitVec 16) : Nat :=
  if w.cwnd ≤ w.sstresh then bytesAcked.toNat else bytesAcked.toNat * mss.toNat / w.cwnd.toNat

/-- An acknowledgement: the divisor is not zero, the product fits into 32 bits, a sum that does
not is replaced by the greatest window, and the window does not shrink. -/
structure Opens (mss : BitVec 32) (w : SlowStart) (bytesAcked : BitVec 16) : Prop where
  divisor : w.cwnd ≠ 0
  product : bytesAcked.toNat * mss.toNat < 2 ^ 32
  saturates : (w.incrementCwnd mss bytesAcked).cwnd.toNat = min (w.cwnd.toNat + w.growth mss bytesAcked) (2 ^ 32 - 1)
  grows : w.cwnd ≤ (w.incrementCwnd mss bytesAcked).cwnd

def Reacts (mss : BitVec 32) (w : SlowStart) : CongestionEvent → Prop
  | .ack bytesAcked => w.Opens mss bytesAcked
  | .loss => 2 * mss.toNat ≤ (w.dropCwnd mss).sstresh.toNat

/-- The window holds a segment, and the threshold two of them. -/
structure Holds (mss : BitVec 32) (w : SlowStart) : Prop where
  cwnd : mss ≤ w.cwnd
  sstresh : 2 * mss.toNat ≤ w.sstresh.toNat

theorem product_lt (small : mss.toNat ≤ 65535) (bytesAcked : BitVec 16) : bytesAcked.toNat * mss.toNat < 2 ^ 32 := by
  have bytes : bytesAcked.toNat ≤ 65535 := Nat.le_of_lt_succ bytesAcked.isLt
  have product := Nat.mul_le_mul bytes small
  omega

/-- A sum that wraps is smaller than its first term. -/
theorem limit_toNat (a b : BitVec 32) :
    (if a + b < a then 0xFFFFFFFF else a + b).toNat = min (a.toNat + b.toNat) (2 ^ 32 - 1) := by
  have first := a.isLt
  have second := b.isLt
  have sum := BitVec.toNat_add a b
  by_cases wraps : 2 ^ 32 ≤ a.toNat + b.toNat
  · have below : a + b < a := by
      rw [BitVec.lt_def]
      omega
    rw [if_pos below]
    exact (Nat.min_eq_right (by omega)).symm
  · have above : ¬a + b < a := by
      rw [BitVec.lt_def]
      omega
    rw [if_neg above]
    omega

/-- The window after an acknowledgement, in natural numbers. -/
theorem incrementCwnd_toNat {bytesAcked : BitVec 16} (product : bytesAcked.toNat * mss.toNat < 2 ^ 32) :
    (w.incrementCwnd mss bytesAcked).cwnd.toNat = min (w.cwnd.toNat + w.growth mss bytesAcked) (2 ^ 32 - 1) := by
  have bytes : (bytesAcked.setWidth 32).toNat = bytesAcked.toNat := by
    have := bytesAcked.isLt
    rw [BitVec.toNat_setWidth]
    omega
  have quotient : (bytesAcked.setWidth 32 * mss / w.cwnd).toNat = bytesAcked.toNat * mss.toNat / w.cwnd.toNat := by
    rw [BitVec.toNat_udiv, BitVec.toNat_mul, bytes, Nat.mod_eq_of_lt product]
  unfold incrementCwnd growth
  dsimp only
  by_cases slow : w.cwnd ≤ w.sstresh
  · rw [if_pos slow, if_pos slow, limit_toNat, bytes]
  · rw [if_neg slow, if_neg slow, limit_toNat, quotient]

theorem opens_of_holds (positive : mss ≠ 0) (small : mss.toNat ≤ 65535) (holds : w.Holds mss) (bytesAcked : BitVec 16) :
    w.Opens mss bytesAcked := by
  have product := product_lt small bytesAcked
  have sum := incrementCwnd_toNat (w := w) product
  refine ⟨fun zero => ?_, product, sum, ?_⟩
  · have segment := holds.cwnd
    rw [zero, BitVec.le_def] at segment
    exact positive (BitVec.eq_of_toNat_eq (Nat.le_zero.mp segment))
  · have := w.cwnd.isLt
    rw [BitVec.le_def, sum]
    omega

theorem dropCwnd_sstresh (small : mss.toNat ≤ 65535) (holds : w.Holds mss) :
    2 * mss.toNat ≤ (w.dropCwnd mss).sstresh.toNat := by
  unfold dropCwnd
  split
  · exact holds.sstresh
  · have double : (2 * mss).toNat = 2 * mss.toNat := by
      rw [BitVec.toNat_mul]
      exact Nat.mod_eq_of_lt (show 2 * mss.toNat < 2 ^ 32 by omega)
    dsimp only
    rw [← double]
    split
    · exact Nat.le_refl _
    · rename_i above
      exact Nat.le_of_not_lt above

theorem dropCwnd_cwnd : (w.dropCwnd mss).cwnd = mss := by
  unfold dropCwnd
  split
  · assumption
  · rfl

theorem step_holds (positive : mss ≠ 0) (small : mss.toNat ≤ 65535) (holds : w.Holds mss) (event : CongestionEvent) :
    w.Reacts mss event ∧ (w.step mss event).Holds mss := by
  cases event with
  | ack bytesAcked =>
    have opens := opens_of_holds positive small holds bytesAcked
    exact ⟨opens, Nat.le_trans holds.cwnd opens.grows, holds.sstresh⟩
  | loss =>
    have threshold := dropCwnd_sstresh small holds
    exact ⟨threshold, Nat.le_of_eq (congrArg BitVec.toNat dropCwnd_cwnd.symm), threshold⟩

theorem initSlowStart_holds (small : mss.toNat ≤ 65535) : (initSlowStart mss).Holds mss where
  cwnd := Nat.le_refl _
  sstresh := by
    change 2 * mss.toNat ≤ 0xFFFFFFFF
    omega

/-- From the initial window on, every acknowledgement and every loss does what it should, and the
window never falls below one segment. -/
theorem reacts_run (positive : mss ≠ 0) (small : mss.toNat ≤ 65535) (events : List CongestionEvent) :
    Follows (step mss) (Reacts mss) (initSlowStart mss) events ∧
      ∀ l, l <+: events → mss ≤ (l.foldl (step mss) (initSlowStart mss)).cwnd := by
  have always : Follows (step mss) (fun _ _ => True) (initSlowStart mss) events := .of_forall (fun _ _ => trivial) _ events
  have preserved : ∀ w event, Holds mss w → True → w.Reacts mss event ∧ (w.step mss event).Holds mss :=
    fun _ event holds _ => step_holds positive small holds event
  have kept := always.forall_prefix_and preserved (initSlowStart_holds small)
  exact ⟨kept.1, fun l shorter => (kept.2 l shorter).cwnd⟩

/-- The greatest segment size, a loss and the acknowledgements around it. -/
theorem reacts_run_greatest :
    Follows (step 65535) (Reacts 65535) (initSlowStart 65535) [.ack 65535, .loss, .ack 1] ∧
      ∀ l, l <+: [.ack 65535, .loss, .ack 1] → 65535#32 ≤ (l.foldl (step 65535) (initSlowStart 65535)).cwnd :=
  reacts_run (by decide) (by decide) _

end SlowStart

end IPStack
