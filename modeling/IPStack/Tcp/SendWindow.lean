import IPStack.Lib.Serial
import IPStack.Tcp.Steps

/-! The right edge of what has been sent, and the window the peer has granted. -/

namespace IPStack

open Serial TcpSocket Transition

/-- The part of a socket the send window is about. -/
structure WindowView where
  state : TcpState
  seqnumNext : SeqNum
  seqnumUnacked : SeqNum
  sendWindow : BitVec 16
  lwack : SeqNum
  lastWindow : BitVec 16
  lastProbe : Option SeqNum

def TcpSocket.windowView (s : TcpSocket) : WindowView where
  state := s.state
  seqnumNext := s.seqnumNext
  seqnumUnacked := s.seqnumUnacked
  sendWindow := s.sendWindow
  lwack := s.lwack
  lastWindow := s.trace.lastWindow
  lastProbe := s.trace.lastProbe

namespace WindowView

def isOpen (v : WindowView) : Prop := v.state = .established ∨ v.state = .closewait

/-- How far behind the last window update's acknowledgement the sent bytes reach. -/
def sent (v : WindowView) : Nat := gap v.lwack v.seqnumNext

/-- The byte of the last zero window probe is not covered by the last window update. -/
def probing (v : WindowView) : Prop := v.lastProbe.any (fun p => gap v.lwack p < v.sent) = true

instance (v : WindowView) : Decidable v.probing := inferInstanceAs (Decidable (_ = true))

/-- The last granted window, and a byte for a zero window probe. -/
def allowance (v : WindowView) : Nat := v.lastWindow.toNat + if v.probing then 1 else 0

/-- A window update would grant bytes a second time that are in flight already and that it
does not acknowledge. The byte of a zero window probe may be in flight. -/
def regrants (v : WindowView) (segment : TcpSegment) : Prop :=
  segment.window ≠ 0 ∧ segment.acknum ≠ v.seqnumNext ∧
    ¬ (v.lastProbe = some segment.acknum ∧ segment.acknum + 1 = v.seqnumNext)

instance (v : WindowView) (segment : TcpSegment) : Decidable (v.regrants segment) := inferInstanceAs (Decidable (_ ∧ _))

variable {v v' : WindowView}

theorem probing_iff : v.probing ↔ ∃ p, v.lastProbe = some p ∧ gap v.lwack p < v.sent := by
  simp [probing, Option.any_eq_true]

theorem allowance_probing (probing : v.probing) : v.allowance = v.lastWindow.toNat + 1 := by
  rw [allowance, if_pos probing]

theorem allowance_le (v : WindowView) : v.allowance ≤ v.lastWindow.toNat + 1 := by
  unfold allowance
  split_ifs <;> omega

/-- A probe that is in flight stays in flight while more is sent. -/
theorem allowance_mono (window : v'.lastWindow = v.lastWindow) (probe : v'.lastProbe = v.lastProbe)
    (acked : v'.lwack = v.lwack) (more : v.sent ≤ v'.sent) : v.allowance ≤ v'.allowance := by
  by_cases probing : v.probing
  · have still : v'.probing := by
      obtain ⟨p, last, inFlight⟩ := probing_iff.mp probing
      exact probing_iff.mpr ⟨p, by rwa [probe], by rw [acked]; omega⟩
    refine Nat.le_of_eq ?_
    rw [allowance_probing probing, allowance_probing still, window]
  · rw [allowance, allowance, if_neg probing, window]
    omega

end WindowView

/-- What is sent and what may still be sent lie within the granted window. -/
structure WindowInv (v : WindowView) : Prop where
  granted : v.isOpen → v.sendWindow = 0 ∨ v.sent + v.sendWindow.toNat ≤ v.allowance
  opening : v.state = .synsent → v.seqnumUnacked ≠ v.seqnumNext

/-- What is preserved while a step runs that started with the next sequence number `next`. -/
structure Granting (next : SeqNum) (v : WindowView) : Prop where
  inv : WindowInv v
  edge : v.isOpen → v.seqnumNext ≠ next → v.sent ≤ v.allowance

/-- What a step must not do: accept a window update that grants bytes in flight again, or
send a zero window probe behind the edge of the window. -/
structure Round.GrantsOnce (c : Config) (d : Round) : Prop where
  update : d.start.isOpen → ∀ r ∈ d.input, r.segment.plain → d.start.acceptsWindow r.segment.seqnum r.segment.acknum →
    ¬ d.start.windowView.regrants r.segment
  probe : d.idle → d.start.probes c d.env → d.start.windowView.sent ≤ d.start.trace.lastWindow.toNat

variable {c : Config} {d : Round} {e : Env} {next : SeqNum} {s s' : TcpSocket} {v v' : WindowView}

/-! ### Views -/

namespace TcpSocket

theorem Unsent.windowView (same : Unsent s s') (unacked : s'.seqnumUnacked = s.seqnumUnacked) :
    s'.windowView = s.windowView := by
  unfold TcpSocket.windowView
  rw [same.state, same.seqnumNext, same.sendWindow, same.lwack, same.lastWindow, same.lastProbe, unacked]

theorem handleAck_windowView (c : Config) (e : Env) (s : TcpSocket) (acknum : SeqNum) :
    (s.handleAck c e acknum).windowView =
      { s.windowView with seqnumUnacked := (s.handleAck c e acknum).seqnumUnacked } := by
  conv_lhs => rw [handleAck_eq]
  rfl

theorem ackedBy_windowView (c : Config) (e : Env) (s : TcpSocket) (segment : TcpSegment) :
    (s.ackedBy c e segment).windowView =
      { s.windowView with seqnumUnacked := (s.ackedBy c e segment).seqnumUnacked } := by
  conv_lhs => rw [ackedBy_eq]
  rfl

theorem handleAck_seqnumUnacked (c : Config) (e : Env) (s : TcpSocket) (acknum : SeqNum) :
    (s.handleAck c e acknum).seqnumUnacked = s.seqnumUnacked ∨ (s.handleAck c e acknum).seqnumUnacked = acknum := by
  unfold handleAck setSeqnumUnacked
  split_ifs
  · exact .inl rfl
  · exact .inl rfl
  all_goals exact .inr rfl

theorem synAcked_windowView (c : Config) (e : Env) (s : TcpSocket) (segment : TcpSegment) :
    (s.synAcked c e segment).windowView = { s.windowView with
      state := .established, seqnumUnacked := (s.handleAck c e segment.acknum).seqnumUnacked
      sendWindow := segment.window, lwack := segment.acknum, lastWindow := segment.window } := by
  unfold synAcked
  conv_lhs => rw [handleAck_eq]
  rfl

theorem synrcvdAck_windowView (c : Config) (e : Env) (s : TcpSocket) (segment : TcpSegment) :
    (s.synrcvdAck c e segment).windowView = if segment.acknum = s.seqnumNext then { s.windowView with
        state := .established, seqnumUnacked := (s.handleAck c e segment.acknum).seqnumUnacked
        sendWindow := segment.window, lwack := segment.acknum, lastWindow := segment.window }
      else { s.windowView with seqnumUnacked := (s.handleAck c e segment.acknum).seqnumUnacked } := by
  unfold TcpSocket.synrcvdAck
  conv_lhs => rw [handleAck_eq]
  dsimp only
  split_ifs <;> rfl

theorem resendFirst_windowView (s : TcpSocket) : s.resendFirst.windowView = s.windowView := by
  rw [resendFirst_eq]
  rfl

theorem updateHistoryBody_windowView {doRetransmit : Bool} (interface : e.interface = true)
    (alive : (s.updateHistoryBody c e doRetransmit).state = s.state) :
    (s.updateHistoryBody c e doRetransmit).windowView = s.windowView := by
  have frame := (updateHistoryBody_updated (c := c) interface s doRetransmit).frame
  rw [alive] at frame
  rw [frame]
  rfl

theorem listenBase_state (c : Config) (e : Env) (closed : s.state = .closed) : (s.listenBase c e).state = .listen := by
  rw [listenBase, if_pos closed]

theorem closewaitReceive_windowView (c : Config) (s : TcpSocket) : (s.closewaitReceive c).windowView = s.windowView := by
  unfold closewaitReceive
  dsimp only
  split_ifs <;> rfl

theorem sendSegmentIn_windowView (c : Config) (e : Env) (s : TcpSocket) (block : Nat) (len : BitVec 32) :
    (s.sendSegmentIn c e block len).windowView = { s.windowView with
      seqnumNext := s.seqnumNext + len
      sendWindow := if s.sendWindow ≠ 0 then s.sendWindow - len.setWidth 16 else s.sendWindow
      lastProbe := if s.sendWindow ≠ 0 then s.trace.lastProbe else some s.seqnumNext } := by
  unfold sendSegmentIn lowerSendWindow transmit historyAdd send
  dsimp only
  split_ifs <;> rfl

theorem updateSendWindow_windowView (s : TcpSocket) (segment : TcpSegment) (seqnum acknum : SeqNum) :
    (s.updateSendWindow segment seqnum acknum).windowView =
      if s.acceptsWindow seqnum acknum then
        { s.windowView with sendWindow := segment.window, lwack := acknum, lastWindow := segment.window }
      else s.windowView := by
  unfold updateSendWindow
  split_ifs <;> rfl

theorem requestSendBuffer_windowView (e : Env) (s : TcpSocket) : (s.requestSendBuffer e).2.windowView = s.windowView := by
  unfold requestSendBuffer
  cases e.alloc s.mempool.requests <;> rfl

theorem setMss_windowView (c : Config) (s : TcpSocket) (mss : BitVec 32) : (s.setMss c mss).windowView = s.windowView := by
  unfold setMss initSlowStart
  dsimp only
  split_ifs <;> rfl

theorem addToReceiveQueue_windowView (c : Config) (e : Env) (s : TcpSocket) (segment : TcpSegment) (size : BitVec 16) :
    (s.addToReceiveQueue c e segment size).windowView = s.windowView := by
  unfold addToReceiveQueue
  split_ifs
  · rfl
  · dsimp only
    split <;> rfl

end TcpSocket

/-! ### Actions -/

theorem WindowInv.elsewhere (state : TcpState) (now : v.state = state)
    (other : state ≠ .established ∧ state ≠ .closewait ∧ state ≠ .synsent) : WindowInv v where
  granted isOpen := by
    rcases isOpen with isOpen | isOpen
    · exact absurd (now ▸ isOpen) other.1
    · exact absurd (now ▸ isOpen) other.2.1
  opening opening := absurd (now ▸ opening) other.2.2

namespace Granting

theorem elsewhere (state : TcpState) (now : v.state = state)
    (other : state ≠ .established ∧ state ≠ .closewait ∧ state ≠ .synsent) : Granting next v where
  inv := .elsewhere state now other
  edge isOpen := by
    rcases isOpen with isOpen | isOpen
    · exact absurd (now ▸ isOpen) other.1
    · exact absurd (now ▸ isOpen) other.2.1

/-- A window update that leaves nothing in flight. -/
theorem afresh {window : BitVec 16} (state : v'.state = .established)
    (granted : v'.sendWindow = window ∧ v'.lastWindow = window ∧ v'.lwack = v'.seqnumNext) : Granting next v' := by
  obtain ⟨window, last, acked⟩ := granted
  have nothing : v'.sent = 0 := by rw [WindowView.sent, acked, gap_self]
  refine ⟨⟨fun _ => .inr ?_, fun now => by simp [state] at now⟩, fun _ _ => by omega⟩
  rw [nothing, window, WindowView.allowance, last]
  omega

/-- A segment that fits into what is left of the window. -/
theorem send (keeps : Granting next v) (isOpen : v.isOpen) {len : BitVec 32} (open' : v.sendWindow ≠ 0)
    (fits : len.toNat ≤ v.sendWindow.toNat) :
    Granting next { v with seqnumNext := v.seqnumNext + len, sendWindow := v.sendWindow - len.setWidth 16 } := by
  have granted := (keeps.inv.granted isOpen).resolve_left open'
  have bound := v.allowance_le
  have window := v.sendWindow.isLt
  have last := v.lastWindow.isLt
  have left : (v.sendWindow - len.setWidth 16).toNat = v.sendWindow.toNat - len.toNat := by
    have small : (len.setWidth 16).toNat = len.toNat := by rw [BitVec.toNat_setWidth, Nat.mod_eq_of_lt (by omega)]
    rw [BitVec.toNat_sub_of_le (BitVec.le_def.mpr (by omega)), small]
  generalize eq : { v with seqnumNext := v.seqnumNext + len, sendWindow := v.sendWindow - len.setWidth 16 } = v'
  have more : v'.sent = v.sent + len.toNat := by
    have step := gap_add_right v.lwack v.seqnumNext (n := len.toNat) (show v.sent + len.toNat < 2 ^ 32 by omega)
    rw [BitVec.ofNat_toNat, BitVec.setWidth_eq] at step
    rw [← eq]
    exact step
  have allowed : v.allowance ≤ v'.allowance := by
    refine WindowView.allowance_mono ?_ ?_ ?_ (by omega) <;> rw [← eq]
  have rest : v'.sendWindow.toNat = v.sendWindow.toNat - len.toNat := by
    rw [← eq]
    exact left
  refine ⟨⟨fun _ => .inr (by omega), fun now => ?_⟩, fun _ _ => by omega⟩
  rw [← eq] at now
  rcases isOpen with state | state <;> simp [state] at now

/-- A zero window probe at the edge of the window. -/
theorem probe (isOpen : v.isOpen) (closed : v.sendWindow = 0) (edge : v.sent ≤ v.lastWindow.toNat) :
    Granting next { v with seqnumNext := v.seqnumNext + 1, lastProbe := some v.seqnumNext } := by
  have last := v.lastWindow.isLt
  generalize eq : { v with seqnumNext := v.seqnumNext + 1, lastProbe := some v.seqnumNext } = v'
  have more : v'.sent = v.sent + 1 := by
    rw [← eq]
    exact gap_add_right v.lwack v.seqnumNext (n := 1) (show v.sent + 1 < 2 ^ 32 by omega)
  have probing : v'.probing := by
    refine WindowView.probing_iff.mpr ⟨v.seqnumNext, by rw [← eq], ?_⟩
    rw [more, ← eq]
    exact Nat.lt_succ_self v.sent
  have allowance : v'.allowance = v.lastWindow.toNat + 1 := by
    rw [WindowView.allowance_probing probing, ← eq]
  refine ⟨⟨fun _ => .inl (by rw [← eq]; exact closed), fun now => ?_⟩, fun _ _ => by omega⟩
  rw [← eq] at now
  rcases isOpen with state | state <;> simp [state] at now

/-- A window update that does not grant what is in flight. -/
theorem update (keeps : Granting next v) (same : v.seqnumNext = next) {segment : TcpSegment}
    (once : ¬ v.regrants segment) :
    Granting next { v with sendWindow := segment.window, lwack := segment.acknum, lastWindow := segment.window } := by
  refine ⟨⟨fun _ => ?_, keeps.inv.opening⟩, fun _ sent => absurd same sent⟩
  by_cases closed : segment.window = 0
  · exact .inl closed
  right
  rcases not_and_or.mp (fun all => once ⟨closed, all⟩) with acked | probed
  · rw [WindowView.sent, WindowView.allowance, ← not_not.mp acked, gap_self]
    dsimp only
    omega
  · obtain ⟨last, byte⟩ := not_not.mp probed
    have one : gap segment.acknum v.seqnumNext = 1 := by
      rw [← byte]
      exact gap_add_ofNat segment.acknum (n := 1) (by decide)
    have probing : WindowView.probing
        { v with sendWindow := segment.window, lwack := segment.acknum, lastWindow := segment.window } := by
      refine WindowView.probing_iff.mpr ⟨segment.acknum, last, ?_⟩
      rw [gap_self, WindowView.sent, one]
      decide
    rw [WindowView.allowance_probing probing, WindowView.sent, one]
    dsimp only
    omega

end Granting

theorem Granting.action (once : d.GrantsOnce c) {x y : Bool × TcpSocket} (action : Action c d x y)
    (keeps : Granting d.start.seqnumNext x.2.windowView) : Granting d.start.seqnumNext y.2.windowView := by
  cases action with
  | abort | kill => exact .elsewhere .closed rfl (by decide)
  | update runs interface alive => exact (updateHistoryBody_windowView interface alive).symm ▸ keeps
  | refuse refused => exact (requestSendBuffer_windowView _ _).symm ▸ keeps
  | @send h s len isOpen waiting sending left amount room granted =>
    have view : (s.allocated.sendSegmentIn c d.env s.mempool.nextBlock len).windowView = { s.windowView with
        seqnumNext := s.seqnumNext + len
        sendWindow := if s.sendWindow ≠ 0 then s.sendWindow - len.setWidth 16 else s.sendWindow
        lastProbe := if s.sendWindow ≠ 0 then s.trace.lastProbe else some s.seqnumNext } :=
      sendSegmentIn_windowView c d.env s.allocated s.mempool.nextBlock len
    dsimp only
    rw [view]
    rcases amount with ⟨min, window⟩ | ⟨rfl, closed, idle, probes, same⟩
    · have fits := (min3_le ((s.getSendWindow c).setWidth 32) s.applicationBuflen s.mss).1
      have opened : s.sendWindow ≠ 0 ∧ s.getSendWindow c ≤ s.sendWindow := by
        unfold getSendWindow at window ⊢
        split_ifs at window ⊢ <;> constructor <;> bv_omega
      rw [if_pos opened.1, if_pos opened.1]
      refine keeps.send isOpen opened.1 (show len.toNat ≤ s.sendWindow.toNat from ?_)
      rw [min]
      have narrower := opened.2
      exact Nat.le_trans (BitVec.le_def.mp fits) (by rw [BitVec.toNat_setWidth]; bv_omega)
    · rw [if_neg (by simpa using closed), if_neg (by simpa using closed)]
      have edge := once.probe idle probes
      refine Granting.probe (v := s.windowView) isOpen closed ?_
      rw [WindowView.sent] at edge ⊢
      dsimp only [windowView] at edge ⊢
      rwa [same.lwack, same.seqnumNext, same.lastWindow]
  | @sendSyn h s closed fresh window rto room granted =>
    have different : s.seqnumUnacked ≠ s.seqnumNext + 1 := by
      rw [fresh]
      bv_omega
    have syn : (s.allocated.connectIn c d.env s.mempool.nextBlock).windowView =
        { s.windowView with state := .synsent, seqnumNext := s.seqnumNext + 1 } := rfl
    dsimp only
    rw [syn]
    exact ⟨⟨fun opened => by simp [WindowView.isOpen] at opened, fun _ => different⟩, fun opened => by simp [WindowView.isOpen] at opened⟩
  | answerSyn listening room granted =>
    exact .elsewhere .synrcvd rfl (by decide)
  | @sendFin h s isOpen room granted =>
    have state : (s.allocated.closeIn c d.env s.mempool.nextBlock).windowView.state = .lastack ∨
        (s.allocated.closeIn c d.env s.mempool.nextBlock).windowView.state = .finwait1 := by
      unfold closeIn
      dsimp only [windowView]
      split_ifs
      · exact .inl rfl
      · exact .inr rfl
    rcases state with state | state <;> exact .elsewhere _ state (by decide)
  | resend state => exact (resendFirst_windowView _).symm ▸ keeps
  | setMss state => exact (setMss_windowView c _ _).symm ▸ keeps
  | @refuseSynAck h s r state input other =>
    dsimp only
    rw [handleAck_windowView]
    refine ⟨⟨fun opened => ?_, fun _ => other⟩, fun opened => ?_⟩ <;> simp [WindowView.isOpen, windowView, state] at opened
  | @synAck h s r state input ack syn waiting acked =>
    have all : r.segment.acknum = s.seqnumNext := by
      rcases handleAck_seqnumUnacked c d.env s r.segment.acknum with same | same
      · exact absurd (same.symm.trans acked) (keeps.inv.opening state)
      · exact same.symm.trans acked
    dsimp only
    rw [synAcked_windowView]
    exact .afresh rfl ⟨rfl, rfl, all⟩
  | @simultaneous h s r state input syn noAck start requests =>
    rcases synsentSimultaneous_cases c d.env s r.segment with ⟨-, eq⟩ | ⟨-, eq⟩ <;> dsimp only <;> rw [eq]
    · exact .elsewhere .synrcvd rfl (by decide)
    · rw [requestSendBuffer_windowView]
      exact keeps
  | @synrcvdAck h s r state input =>
    dsimp only
    rw [synrcvdAck_windowView]
    split_ifs with all
    · exact .afresh rfl ⟨rfl, rfl, all⟩
    · exact .elsewhere .synrcvd state (by decide)
  | fin input state plain =>
    dsimp only
    rw [handleFin_eq]
    exact keeps
  | @window h s r input isOpen plain same =>
    dsimp only
    rw [updateSendWindow_windowView]
    split_ifs with accepted
    · refine keeps.update same.seqnumNext ?_
      have opened : d.start.isOpen := by rwa [TcpSocket.isOpen, same.state] at isOpen
      have accepts : d.start.acceptsWindow r.segment.seqnum r.segment.acknum := by
        rwa [acceptsWindow, same.lwseq, same.lwack] at accepted
      have ours := once.update opened r input plain accepts
      rw [WindowView.regrants] at ours ⊢
      dsimp only [windowView] at ours ⊢
      rwa [same.seqnumNext, same.lastProbe]
    · exact keeps
  | peerClosed state complete =>
    exact ⟨⟨fun _ => keeps.inv.granted (.inl state), by simp [windowView]⟩, fun _ => keeps.edge (.inl state)⟩
  | bothClosed => exact .elsewhere .closing rfl (by decide)
  | lastClosed | closingAcked => exact .elsewhere .timewait rfl (by decide)
  | finAcked => exact .elsewhere .finwait2 rfl (by decide)
  | arrive start arrival => exact (addToReceiveQueue_windowView c _ _ _ _).symm ▸ keeps
  | listen closed => exact .elsewhere _ (listenBase_state c d.env closed) (by decide)
  | @initConnect h s closed => exact .elsewhere _ ((genInitialSeqnum_fresh c d.env s).2.1.trans closed) (by decide)
  | readRest state receiving => exact (closewaitReceive_windowView c _).symm ▸ keeps
  | _ => exact keeps

/-! ### Runs -/

namespace Machine

variable {m : Machine} {memory : TcpSocket}

theorem construct_granting (c : Config) (memory : TcpSocket) : WindowInv (construct c memory).sock.windowView := by
  have state : (memory.construct c).state = .closed := by rw [construct_eq]
  exact .elsewhere _ state (by decide)

/-- The condition of `rightEdge`. -/
def grantsOnce (c : Config) (m : Machine) (a : Env × Event) : Prop :=
  let d := m.round c a.1 a.2
  (d.start.isOpen → ∀ r ∈ d.input, r.segment.plain → d.start.acceptsWindow r.segment.seqnum r.segment.acknum →
    ¬ d.start.windowView.regrants r.segment) ∧
  (d.idle = true → d.start.probes c a.1 → d.start.windowView.sent ≤ d.start.trace.lastWindow.toNat)

instance (c : Config) (m : Machine) (a : Env × Event) : Decidable (grantsOnce c m a) := inferInstanceAs (Decidable (_ ∧ _))

theorem step_granting (inv : WindowInv m.sock.windowView) {a : Env × Event} (once : grantsOnce c m a) :
    Granting m.sock.seqnumNext (m.step c a).sock.windowView := by
  obtain ⟨e, event⟩ := a
  have next : (m.round c e event).start.seqnumNext = m.sock.seqnumNext := by
    rcases round_start c e m event with start | ⟨r, rest, dport, -, -, start⟩
    · rw [start]
    · rw [start, ackedBy_eq]
      rfl
  have round : (m.round c e event).GrantsOnce c := by
    refine ⟨once.1, ?_⟩
    rw [round_env]
    exact once.2
  rw [← next]
  refine step_keeps (P := fun x => Granting (m.round c e event).start.seqnumNext x.2.windowView) ?_ ?_
    (fun x y action => Granting.action round action)
  · intro start
    exact ⟨inv, fun _ different => absurd (by rw [start]; rfl) different⟩
  · intro r rest dport tick queued input start
    have view := ackedBy_windowView c e (taking m.sock rest dport) r.segment
    rw [← start] at view
    refine ⟨?_, fun _ different => absurd rfl different⟩
    rw [view]
    refine ⟨inv.granted, fun opening => ?_⟩
    have ignored : ¬ (taking m.sock rest dport).acceptsAck r.segment := by
      rintro ⟨state, -⟩
      rcases state with (state | state) | state | state | state <;> exact absurd (state.symm.trans opening) (by simp)
    rw [start, ackedBy, if_neg ignored]
    exact inv.opening opening

/-- Data is sent only up to the right edge of the window that was granted last, but for
the byte of a zero window probe in flight; and the rest of the window ends there. -/
theorem rightEdge (reach : Reach (step c) (grantsOnce c) (construct c memory) m) {a : Env × Event} (once : grantsOnce c m a)
    (isOpen : (m.step c a).sock.isOpen) :
    ((m.step c a).sock.seqnumNext ≠ m.sock.seqnumNext →
      (m.step c a).sock.windowView.sent ≤ (m.step c a).sock.windowView.allowance) ∧
    ((m.step c a).sock.sendWindow ≠ 0 → (m.step c a).sock.windowView.sent + (m.step c a).sock.sendWindow.toNat ≤
      (m.step c a).sock.windowView.allowance) := by
  have inv : WindowInv m.sock.windowView :=
    reach.invariant _ (construct_granting c memory) (fun _ _ inv once => (step_granting inv once).inv)
  have granting := step_granting inv once
  exact ⟨granting.edge isOpen, (granting.inv.granted isOpen).resolve_left⟩

/-- The peer grants five bytes and says so once more before the first five reach it. -/
def repeatedWindow : List (Env × Event) :=
  (Sample.env, .connect) :: Sample.receives { Sample.segment 1000 1 5 [] with syn := true } ++
    [(Sample.env, .tick), (Sample.env, .write [1, 2, 3, 4, 5, 6, 7, 8, 9, 10] (by decide)), (Sample.env, .tick)] ++
    Sample.receives (Sample.segment 1001 1 5 [])

theorem repeatedWindow_exceeds : ∃ m a, Reach (step Sample.config) (fun _ _ => True) Sample.machine m ∧
    m.sock.isOpen ∧ (m.step Sample.config a).sock.isOpen ∧
    (m.step Sample.config a).sock.seqnumNext ≠ m.sock.seqnumNext ∧
    (m.step Sample.config a).sock.windowView.sent = 10 ∧ (m.step Sample.config a).sock.windowView.allowance = 5 :=
  ⟨Sample.run repeatedWindow, (Sample.env, .tick), Reach.start.foldl (.of_forall (fun _ _ => trivial) _ _),
    by decide +kernel, by decide +kernel, by decide +kernel, by decide +kernel, by decide +kernel⟩

/-- The peer grants five more bytes with the acknowledgement of the first five. -/
def openedWindow : List (Env × Event) :=
  (Sample.env, .connect) :: Sample.receives { Sample.segment 1000 1 5 [] with syn := true } ++
    [(Sample.env, .tick), (Sample.env, .write [1, 2, 3, 4, 5, 6, 7, 8, 9, 10] (by decide)), (Sample.env, .tick)] ++
    Sample.receives (Sample.segment 1001 6 5 [])

theorem rightEdge_openedWindow :
    ((Sample.run openedWindow).step Sample.config (Sample.env, .tick)).sock.windowView.allowance = 5 ∧
      ((Sample.run openedWindow).step Sample.config (Sample.env, .tick)).sock.windowView.sent ≤
        ((Sample.run openedWindow).step Sample.config (Sample.env, .tick)).sock.windowView.allowance :=
  have reach : Reach (step Sample.config) (grantsOnce Sample.config) Sample.machine (Sample.run openedWindow) :=
    Reach.start.foldl (by decide +kernel)
  ⟨by decide +kernel, (rightEdge reach (a := (Sample.env, .tick)) (by decide +kernel) (by decide +kernel)).1 (by decide +kernel)⟩

end Machine

end IPStack
