import IPStack.Tcp.Connections
import IPStack.Tcp.Inert

/-! The receive window over the runs of a socket. -/

namespace IPStack

open Serial Transition

namespace TcpSocket

variable {c : Config} {s s' : TcpSocket} {l : List TcpRecvElement}

/-! ### One connection -/

/-- The number behind the receive window. -/
def rightEdge (c : Config) (s : TcpSocket) : SeqNum := s.nextExpected c + (s.getReceiveWindow c).setWidth 32

/-- The buffered bytes stay below the maximum, and the window is what is left of it. -/
structure WindowFits (c : Config) (s : TcpSocket) : Prop where
  bytes : s.receiveBuffer.getRecvBytes c ≤ s.maxReceiveWindowBytes
  window : (s.getReceiveWindow c).toNat = min 65535 (s.maxReceiveWindowBytes.toNat - (s.receiveBuffer.getRecvBytes c).toNat)

theorem windowFits_of_bytes (behind : s.synchronized) (bytes : s.receiveBuffer.getRecvBytes c ≤ s.maxReceiveWindowBytes) :
    WindowFits c s where
  bytes := bytes
  window := by
    have opened : ¬(s.state = .synsent ∨ s.state = .closed) := fun either => either.elim behind.2.2.1 behind.1
    have difference := BitVec.toNat_sub_of_le bytes
    unfold getReceiveWindow
    rw [if_neg opened]
    dsimp only
    split_ifs with large
    · rw [BitVec.lt_def, difference] at large
      change 65535 < _ at large
      change 65535 = _
      omega
    · rw [BitVec.lt_def, difference, not_lt] at large
      change _ ≤ 65535 at large
      rw [BitVec.toNat_setWidth, difference]
      omega

/-- What is stored inside the window does not exceed it. -/
theorem WindowFits.advances (fits : WindowFits c s) (advances : Advances c l s s')
    (inside : TcpReceiveBuffer.total l ≤ (s.getReceiveWindow c).toNat) :
    s'.receiveBuffer.getRecvBytes c ≤ s'.maxReceiveWindowBytes ∧
      (s'.receiveBuffer.getRecvBytes c).toNat ≤ (s.receiveBuffer.getRecvBytes c).toNat + TcpReceiveBuffer.total l := by
  have window := fits.window
  have bytes : (s'.receiveBuffer.getRecvBytes c).toNat ≤
      (s.receiveBuffer.getRecvBytes c).toNat + TcpReceiveBuffer.total l := by
    rcases advances.bytes with stored | ⟨-, read⟩
    · rw [stored, TcpReceiveBuffer.lengths_eq_ofNat, BitVec.toNat_add, BitVec.toNat_ofNat]
      exact (Nat.mod_le _ _).trans (Nat.add_le_add_left (Nat.mod_le _ _) _)
    · rw [BitVec.le_def] at read
      omega
  refine ⟨?_, bytes⟩
  have before := fits.bytes
  rw [BitVec.le_def] at before ⊢
  rw [advances.max]
  omega

/-- The right edge does not move to the left. -/
theorem WindowFits.edgeAdvances (fits : WindowFits c s) (advances : Advances c l s s') (after : WindowFits c s')
    (inside : TcpReceiveBuffer.total l ≤ (s.getReceiveWindow c).toNat) : seqLeq (s.rightEdge c) (s'.rightEdge c) := by
  obtain ⟨-, less⟩ := fits.advances advances inside
  have window := fits.window
  have window' := after.window
  rw [advances.max] at window'
  have bytes := fits.bytes
  rw [BitVec.le_def] at bytes
  -- how far the edge moves, apart from the FIN
  obtain ⟨moved, near, ends⟩ : ∃ moved, moved ≤ 65535 ∧
      TcpReceiveBuffer.total l + (s'.getReceiveWindow c).toNat = (s.getReceiveWindow c).toNat + moved :=
    ⟨TcpReceiveBuffer.total l + (s'.getReceiveWindow c).toNat - (s.getReceiveWindow c).toNat, by omega, by omega⟩
  have edge : s'.receiveBuffer.getAckNum c + (s'.getReceiveWindow c).setWidth 32 =
      s.receiveBuffer.getAckNum c + (s.getReceiveWindow c).setWidth 32 + BitVec.ofNat 32 moved := by
    have lengths := congrArg (BitVec.ofNat 32) ends
    rw [BitVec.ofNat_add, BitVec.ofNat_add, ← TcpReceiveBuffer.lengths_eq_ofNat] at lengths
    have wide : ∀ w : BitVec 16, BitVec.ofNat 32 w.toNat = w.setWidth 32 := fun w => by
      rw [BitVec.ofNat_toNat]
    rw [wide, wide] at lengths
    rw [advances.number, add_assoc, lengths, add_assoc]
  unfold TcpSocket.rightEdge nextExpected
  by_cases complete : s.finComplete c
  · obtain ⟨complete', seqnum, nothing⟩ := advances.finished complete
    rw [if_pos complete, if_pos complete']
    have number : s'.receiveBuffer.getAckNum c = s.receiveBuffer.getAckNum c := by
      rw [advances.number, nothing]
      exact add_zero _
    have same : s'.finSeqnum + 1 + (s'.getReceiveWindow c).setWidth 32 =
        s.finSeqnum + 1 + (s.getReceiveWindow c).setWidth 32 + BitVec.ofNat 32 moved := by
      rw [← complete'.2, ← complete.2, add_right_comm, edge]
      ring
    rw [same]
    exact seqLeq_add _ (by omega)
  · rw [if_neg complete]
    split_ifs with complete'
    · have further : s'.finSeqnum + 1 + (s'.getReceiveWindow c).setWidth 32 =
          s.receiveBuffer.getAckNum c + (s.getReceiveWindow c).setWidth 32 + BitVec.ofNat 32 (moved + 1) := by
        rw [← complete'.2, add_right_comm, edge, BitVec.ofNat_add, add_assoc]
        rfl
      rw [further]
      exact seqLeq_add _ (by omega)
    · rw [edge]
      exact seqLeq_add _ (by omega)

/-- Nothing is buffered when a handshake begins, and behind it no more than the maximum. -/
structure Windowed (c : Config) (s : TcpSocket) : Prop where
  accounted : s.Accounted c
  opening : s.state = .synrcvd → s.trace.aborted = false → s.receiveBuffer.getRecvBytes c = 0
  fits : s.connected → WindowFits c s

end TcpSocket

namespace Machine

open TcpSocket

variable {c : Config} {m : Machine} {a : Env × Event}

/-! ### Steps -/

/-- Every element that becomes readable in the step ends inside the receive window. -/
def joinsInside (c : Config) (m : Machine) (a : Env × Event) : Prop :=
  ∀ element ∈ m.readableBy c a,
    gap (m.sock.receiveBuffer.getAckNum c) element.seqNum + element.len.toNat ≤ (m.sock.getReceiveWindow c).toNat

instance (c : Config) (m : Machine) (a : Env × Event) : Decidable (m.joinsInside c a) :=
  inferInstanceAs (Decidable (∀ _ ∈ _, _))

/-- A step that keeps to the window: the peer's stream begins in an empty buffer, and what becomes
readable of it ends inside the window. -/
def keepsToWindow (c : Config) (m : Machine) (a : Env × Event) : Prop := m.startsEmpty c a ∧ m.joinsInside c a

instance (c : Config) (m : Machine) (a : Env × Event) : Decidable (m.keepsToWindow c a) :=
  inferInstanceAs (Decidable (_ ∧ _))

theorem readableBy_chain (counted : m.sock.receiveBuffer.Counted c) (a : Env × Event) :
    TcpReceiveBuffer.chain (m.sock.receiveBuffer.getAckNum c) (m.readableBy c a) = m.readableBy c a := by
  rcases step_received_or c m a with ⟨s, r, rest, dport, tick, calls, taken, -⟩ | ⟨-, nothing⟩
  · have readable : m.readableBy c a = s.readable c r := by
      unfold readableBy
      rw [tick, calls]
    rw [readable, TcpSocket.readable]
    split_ifs with takes
    · obtain ⟨b, inserted⟩ := Option.isSome_iff_exists.mp takes.2.2.2
      subst taken
      exact TcpReceiveBuffer.joining_chain (b := m.sock.receiveBuffer) counted inserted
    · rfl
  · rw [nothing]
    rfl

theorem joinsInside.total (inside : m.joinsInside c a) (counted : m.sock.receiveBuffer.Counted c) :
    TcpReceiveBuffer.total (m.readableBy c a) ≤ (m.sock.getReceiveWindow c).toNat := by
  have joined := readableBy_chain counted a
  rw [← add_zero (m.sock.receiveBuffer.getAckNum c)] at joined
  have below := TcpReceiveBuffer.total_le_of_inside joined (Nat.zero_le _)
    (lt_trans (m.sock.getReceiveWindow c).isLt (by decide)) inside
  omega

/-- A step of a connection that goes on. -/
theorem step_window (windowed : m.sock.Windowed c) (keeps : m.keepsToWindow c a) (behind : m.sock.synchronized)
    (alive : (m.step c a).sock.trace.aborted = false) :
    WindowFits c (m.step c a).sock ∧ (m.step c a).sock.synchronized ∧
      seqLeq (m.sock.rightEdge c) ((m.step c a).sock.rightEdge c) := by
  obtain ⟨sync, conn, advances⟩ := step_advances windowed.accounted a behind alive
  have inside := keeps.2.total windowed.accounted.counted
  have fits := windowed.fits conn
  have after := windowFits_of_bytes sync (fits.advances advances inside).1
  exact ⟨after, sync, fits.edgeAdvances advances after inside⟩

theorem step_windowed (windowed : m.sock.Windowed c) (keeps : m.keepsToWindow c a) : (m.step c a).sock.Windowed c := by
  have begins : ∀ early : ¬m.sock.synchronized, (m.step c a).sock.trace.aborted = false →
      (m.step c a).sock.synchronized ∨ (m.step c a).sock.state = .synrcvd →
      (m.step c a).sock.receiveBuffer.getRecvBytes c = 0 := by
    intro early alive begun
    rcases step_begins windowed.accounted keeps.1 early alive begun with ⟨none, -⟩ | ⟨state, aborted, -, less⟩
    · exact none
    · rw [windowed.opening state aborted] at less
      exact BitVec.le_zero_iff.mp less
  refine ⟨step_accounted windowed.accounted keeps.1, fun state alive => ?_, fun conn => ?_⟩
  · by_cases behind : m.sock.synchronized
    · exact absurd state (step_window windowed keeps behind alive).2.1.2.2.2
    · exact begins behind alive (.inr state)
  · by_cases behind : m.sock.synchronized
    · exact (step_window windowed keeps behind conn.2).1
    · refine windowFits_of_bytes conn.1 ?_
      rw [begins behind conn.2 (.inl conn.1)]
      exact Nat.zero_le _

theorem construct_windowed (c : Config) (memory : TcpSocket) : (construct c memory).sock.Windowed c := by
  have state : (memory.construct c).state = .closed := by rw [construct_eq]
  exact ⟨construct_accounted c memory, fun other => absurd (state.symm.trans other) nofun, fun conn => absurd state conn.1.1⟩

/-! ### Runs -/

/-- The right edge of a connection that goes on does not move backwards. -/
def keepsEdge (c : Config) (m : Machine) (a : Env × Event) : Prop :=
  m.sock.connected → (m.step c a).sock.connected → seqLeq (m.sock.rightEdge c) ((m.step c a).sock.rightEdge c)

/-- In every state behind the handshake the window is right, and no step moves its edge backwards. -/
def WindowKept (c : Config) (memory : TcpSocket) (inputs : List (Env × Event)) : Prop :=
  (∀ l, l <+: inputs → let s := (l.foldl (step c) (construct c memory)).sock
    s.connected → s.WindowFits c) ∧
  Follows (step c) (keepsEdge c) (construct c memory) inputs

theorem windowKept_run (c : Config) (memory : TcpSocket) (inputs : List (Env × Event))
    (keeps : Follows (step c) (keepsToWindow c) (construct c memory) inputs) : WindowKept c memory inputs := by
  have step_kept : ∀ (m : Machine) (a : Env × Event), m.sock.Windowed c → m.keepsToWindow c a →
      m.keepsEdge c a ∧ (m.step c a).sock.Windowed c := fun m a windowed keeps =>
    ⟨fun conn after => (step_window windowed keeps conn.1 after.2).2.2, step_windowed windowed keeps⟩
  obtain ⟨edges, always⟩ := keeps.forall_prefix_and step_kept (construct_windowed c memory)
  exact ⟨fun l shorter conn => (always l shorter).fits conn, edges⟩

/-- The peer sends data inside the window, or one byte behind a closed window. -/
def peerKeepsToWindow (c : Config) (m : Machine) (a : Env × Event) : Prop :=
  match a.2, m.inputOf a.1 with
  | .tick, some (s, some r) =>
    r.payloadLen = 0 ∨
      gap (s.nextExpected c) r.segment.seqnum + r.payloadLen.toNat ≤ (s.getReceiveWindow c).toNat ∨
      s.getReceiveWindow c = 0 ∧ r.segment.seqnum = s.nextExpected c ∧ r.payloadLen = 1
  | _, _ => True

instance (c : Config) (m : Machine) (a : Env × Event) : Decidable (m.peerKeepsToWindow c a) := by
  delta peerKeepsToWindow
  generalize m.inputOf a.1 = input
  rcases a with ⟨e, event⟩
  rcases event <;> rcases input with _ | ⟨s, _ | r⟩ <;> dsimp only <;> infer_instance

end Machine

/-! ### Examples -/

/-- The peer fills the window and probes it. -/
def Sample.zeroWindowProbe : List (Env × Event) :=
  opening ++ (env, .poll) :: receives (segment 1001 1 1000 (List.replicate 536 0)) ++ receives (segment 1537 1 1000 [7])

namespace Machine

theorem windowKept_readsByte : WindowKept Sample.config Sample.memory Sample.readsByte :=
  windowKept_run Sample.config Sample.memory Sample.readsByte (by decide +kernel)

/-- The byte of the probe is stored behind the maximum, and the window becomes 65535. -/
theorem zeroWindowProbe_wraps : ¬∀ (c : Config) (memory : TcpSocket) (inputs : List (Env × Event)),
    Follows (step c) (peerKeepsToWindow c) (construct c memory) inputs → WindowKept c memory inputs := by
  intro always
  have kept := always Sample.config Sample.memory Sample.zeroWindowProbe (by decide +kernel)
  have fits := kept.1 Sample.zeroWindowProbe (List.prefix_refl _) (by decide +kernel)
  exact absurd fits.bytes (by decide +kernel)

end Machine

end IPStack
