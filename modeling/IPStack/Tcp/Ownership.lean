import IPStack.Tcp.ReceiveQueue
import IPStack.Tcp.Steps

/-! The memory blocks of a socket: who owns them, and that each is returned once. -/

namespace IPStack

open TcpSocket Transition

namespace TcpSocket

/-- The blocks in the packet buffer, the receive buffer and the history. -/
def owned (s : TcpSocket) : List Nat :=
  s.packetbuffer.map ReceiveBuffer.block ++
    (s.receiveBuffer.list.map TcpRecvElement.block ++ s.history.map TcpRecord.block)

/-- The next arriving segment finds a place and a block. -/
def canQueue (c : Config) (e : Env) (s : TcpSocket) : Prop :=
  s.packetbuffer.length + 1 < c.packetLimit ∧ s.canAllocate e

instance (c : Config) (e : Env) (s : TcpSocket) : Decidable (s.canQueue c e) := inferInstanceAs (Decidable (_ ∧ _))

end TcpSocket

/-- The block of the segment that the running handler owns. -/
def Round.held (d : Round) (h : Bool) : List Nat := if h then d.input.toList.map ReceiveBuffer.block else []

/-- Every block the pool has given out has one owner or has been returned once. -/
def BlocksOnce (held : List Nat) (s : TcpSocket) : Prop :=
  ∀ block, s.owned.count block + held.count block + s.mempool.freed.count block =
    if block < s.mempool.nextBlock then 1 else 0

/-- The blocks of a socket between two actions; a closed socket owns none. -/
structure OwnInv (held : List Nat) (s : TcpSocket) : Prop where
  once : BlocksOnce held s
  closed : s.state = .closed → s.owned = []
  quiet : s.state = .closed → s.ackTriggered = false

/-- What a step must not do: abort the connection over unread data, fail to prepare a send
buffer it was given, or queue a segment in a closed socket. -/
structure Round.ReturnsAll (c : Config) (d : Round) : Prop where
  emptied : d.aborts → d.start.receiveBuffer.list = []
  prepared : ∀ n, d.env.alloc n ≠ .invalid
  arrives : d.arrival.isSome = true → d.start.state = .closed → ¬ d.start.canQueue c d.env
  quiet : d.start.state = .closed → d.start.ackTriggered = false

variable {c : Config} {d : Round} {e : Env} {s s' : TcpSocket} {held : List Nat}

/-- Blocks go back to the pool. -/
theorem BlocksOnce.returned (once : BlocksOnce held s) (blocks held' : List Nat) (split : ∀ block,
      s.owned.count block + held.count block = s'.owned.count block + held'.count block + blocks.count block)
    (pool : s'.mempool = s.mempool.freeAll blocks) : BlocksOnce held' s' := by
  intro block
  have before := once block
  have parts := split block
  rw [pool, Mempool.freeAll, List.count_append]
  dsimp only
  omega

theorem kept_blocks {doRetransmit : Bool} (updated : HistoryUpdated c e doRetransmit s s') :
    (s.history.filter (¬ ·.released e s.seqnumUnacked)).map TcpRecord.block = s'.history.map TcpRecord.block := by
  have records := updated.kept
  generalize s.history.filter (¬ ·.released e s.seqnumUnacked) = before at records
  generalize s'.history = after at records
  induction records with
  | nil => rfl
  | cons same _ ih => rw [List.map_cons, List.map_cons, ih, same.block]

/-- `updateHistory` returns the blocks of the records it drops. -/
theorem BlocksOnce.update (once : BlocksOnce held s) {doRetransmit : Bool}
    (updated : HistoryUpdated c e doRetransmit s s') : BlocksOnce held s' := by
  refine once.returned ((s.history.filter (fun r : TcpRecord => r.released e s.seqnumUnacked)).map TcpRecord.block).reverse held
    (fun block => ?_) updated.freed
  have parts := (List.filter_append_perm (fun r => decide (r.released e s.seqnumUnacked)) s.history).map TcpRecord.block
  have counts := parts.count_eq block
  simp only [List.map_append, List.count_append] at counts
  have others : s'.packetbuffer = s.packetbuffer ∧ s'.receiveBuffer = s.receiveBuffer := by
    rw [updated.frame]
    exact ⟨rfl, rfl⟩
  rw [owned, owned, others.1, others.2, ← kept_blocks updated, List.count_reverse]
  simp only [List.count_append, decide_not]
  omega

namespace BlocksOnce

theorem same (once : BlocksOnce held s) (owned : s'.owned = s.owned)
    (pool : s'.mempool.freed = s.mempool.freed ∧ s'.mempool.nextBlock = s.mempool.nextBlock) : BlocksOnce held s' := by
  intro block
  rw [owned, pool.1, pool.2]
  exact once block

/-- The next block goes to a new owner. -/
theorem allocate (once : BlocksOnce held s) (held' : List Nat) (split : ∀ block,
      s'.owned.count block + held'.count block = s.owned.count block + held.count block + [s.mempool.nextBlock].count block)
    (pool : s'.mempool.freed = s.mempool.freed ∧ s'.mempool.nextBlock = s.mempool.nextBlock + 1) : BlocksOnce held' s' := by
  intro block
  have before := once block
  have parts := split block
  rw [pool.1, pool.2]
  rw [List.count_singleton] at parts
  split_ifs at before parts ⊢ <;> simp_all <;> omega

/-- A granted send buffer goes to the history. -/
theorem sent (once : BlocksOnce held s) {record : TcpRecord} (block : record.block = s.mempool.nextBlock)
    (frame : s'.packetbuffer = s.packetbuffer ∧ s'.receiveBuffer.list = s.receiveBuffer.list ∧ s'.history = record :: s.history)
    (pool : s'.mempool.freed = s.mempool.freed ∧ s'.mempool.nextBlock = s.mempool.nextBlock + 1) : BlocksOnce held s' := by
  refine once.allocate held (fun b => ?_) pool
  rw [owned, owned, frame.1, frame.2.1, frame.2.2, List.map_cons, block]
  simp only [List.count_append, List.count_cons, List.count_nil]
  omega

theorem clearHistory (once : BlocksOnce held s) : BlocksOnce held s.clearHistory := by
  refine once.returned (s.history.map TcpRecord.block) held (fun block => ?_) rfl
  simp only [owned, TcpSocket.clearHistory, List.map_nil, List.count_append, List.count_nil]
  omega

/-- The receive buffer keeps its blocks. -/
theorem abort (once : BlocksOnce held s) : BlocksOnce held s.abort := by
  refine once.returned (s.packetbuffer.map ReceiveBuffer.block ++ s.history.map TcpRecord.block) held (fun block => ?_) ?_
  · simp only [owned, TcpSocket.abort, resetSocketState, TcpSocket.clearHistory, List.map_nil, List.nil_append,
      List.append_nil, List.count_append]
    omega
  · simp [TcpSocket.abort, resetSocketState, TcpSocket.clearHistory, Mempool.freeAll]

/-- The segment's block goes from the handler to the receive buffer. -/
theorem inserted {r : ReceiveBuffer} {b : TcpReceiveBuffer} {seqnum : SeqNum} {len : BitVec 32} {others : List Nat}
    (once : BlocksOnce (r.block :: others) s) (insert : s.receiveBuffer.insert c r seqnum len = some b) :
    BlocksOnce others { s with receiveBuffer := b, ackTriggered := true } := by
  intro block
  have before := once block
  obtain ⟨slot, permuted⟩ := TcpReceiveBuffer.insert_list insert
  have list := (permuted.map TcpRecvElement.block).count_eq block
  simp only [owned, List.map_cons, List.count_append, List.count_cons, TcpRecvElement.setSegment] at before list ⊢
  omega

/-- Reading returns the blocks that are used up. -/
theorem copied (once : BlocksOnce held s) (len : BitVec 32) : BlocksOnce held (s.copyToApplication c len) := by
  intro block
  have before := once block
  have list := (TcpReceiveBuffer.copyData_blocks c s.receiveBuffer len).count_eq block
  have pool : (s.copyToApplication c len).mempool.nextBlock = s.mempool.nextBlock := rfl
  rw [pool]
  simp only [owned, copyToApplication, Mempool.freeAll, List.count_append] at before list ⊢
  omega

theorem dequeued {r : ReceiveBuffer} {rest : List ReceiveBuffer} (once : BlocksOnce held s)
    (queued : s.packetbuffer = r :: rest) : BlocksOnce (r.block :: held) { s with packetbuffer := rest } := by
  intro block
  have before := once block
  simp only [owned, queued, List.map_cons, List.cons_append, List.count_cons, List.count_append] at before ⊢
  omega

theorem freed {r : ReceiveBuffer} {others : List Nat} (once : BlocksOnce (r.block :: others) s) :
    BlocksOnce others (s.freeReceivedSegment r) :=
  once.returned [r.block] others (fun block => by
    simp only [List.count_cons, List.count_nil, owned, freeReceivedSegment]
    omega) rfl

theorem queued {segment : TcpSegment} {size : BitVec 16} (once : BlocksOnce held s) :
    BlocksOnce held (s.addToReceiveQueue c e segment size) := by
  unfold addToReceiveQueue
  split_ifs with full
  · exact once
  · dsimp only
    split
    · refine once.allocate held (fun block => ?_) ⟨rfl, rfl⟩
      simp only [owned, List.map_append, List.count_append, List.map_cons, List.map_nil]
      omega
    · exact once.same rfl ⟨rfl, rfl⟩

end BlocksOnce

namespace OwnInv

/-- The socket has the same blocks and is not closed, or was closed before. -/
theorem same (inv : OwnInv held s) (owned : s'.owned = s.owned)
    (pool : s'.mempool.freed = s.mempool.freed ∧ s'.mempool.nextBlock = s.mempool.nextBlock)
    (quiet : s'.state = .closed → s.state = .closed ∧ s'.ackTriggered = s.ackTriggered) : OwnInv held s' where
  once := inv.once.same owned pool
  closed now := owned.trans (inv.closed (quiet now).1)
  quiet now := (quiet now).2.trans (inv.quiet (quiet now).1)

theorem of_alive (once : BlocksOnce held s) (alive : s.state ≠ .closed) : OwnInv held s :=
  ⟨once, fun now => absurd now alive, fun now => absurd now alive⟩

theorem abort (once : BlocksOnce held s) (empty : s.receiveBuffer.list = []) : OwnInv held s.abort := by
  have left : s.abort.owned = [] := by
    unfold owned
    rw [show s.abort.receiveBuffer = s.receiveBuffer from rfl, empty]
    rfl
  exact ⟨once.abort, fun _ => left, fun _ => rfl⟩

theorem clearHistory (inv : OwnInv held s) : OwnInv held s.clearHistory := by
  refine ⟨inv.once.clearHistory, fun closed => ?_, inv.quiet⟩
  have none := inv.closed closed
  simp only [owned, List.append_eq_nil_iff] at none
  simp [owned, TcpSocket.clearHistory, none.1, none.2.1]

theorem update (inv : OwnInv held s) {doRetransmit : Bool} (updated : HistoryUpdated c e doRetransmit s s')
    (alive : s'.state = s.state) : OwnInv held s' where
  once := inv.once.update updated
  closed now := by
    have none := inv.closed (alive ▸ now)
    simp only [owned, List.append_eq_nil_iff, List.map_eq_nil_iff] at none
    have empty : s'.history.map TcpRecord.block = [] := by
      rw [← kept_blocks updated, none.2.2]
      rfl
    have others : s'.packetbuffer = s.packetbuffer ∧ s'.receiveBuffer = s.receiveBuffer := by
      rw [updated.frame]
      exact ⟨rfl, rfl⟩
    simp [owned, others.1, others.2, none.1, none.2.1, empty]
  quiet now := by
    have quiet := inv.quiet (alive ▸ now)
    rwa [updated.frame]

theorem sent (inv : OwnInv held s) {record : TcpRecord} (block : record.block = s.mempool.nextBlock)
    (frame : s'.packetbuffer = s.packetbuffer ∧ s'.receiveBuffer.list = s.receiveBuffer.list ∧ s'.history = record :: s.history)
    (pool : s'.mempool.freed = s.mempool.freed ∧ s'.mempool.nextBlock = s.mempool.nextBlock + 1)
    (alive : s'.state ≠ .closed) : OwnInv held s' := .of_alive (inv.once.sent block frame pool) alive

theorem refused (inv : OwnInv held s) (refuses : ¬ s.canAllocate e) (prepared : ∀ n, e.alloc n ≠ .invalid) :
    OwnInv held (s.requestSendBuffer e).2 := by
  unfold requestSendBuffer
  cases answer : e.alloc s.mempool.requests with
  | ok => exact absurd answer refuses
  | noMemory => exact inv.same rfl ⟨rfl, rfl⟩ (fun closed => ⟨closed, rfl⟩)
  | invalid => exact absurd answer (prepared _)

theorem inserted {r : ReceiveBuffer} {b : TcpReceiveBuffer} {seqnum : SeqNum} {len : BitVec 32}
    (inv : OwnInv [r.block] s) (alive : s.state ≠ .closed) (insert : s.receiveBuffer.insert c r seqnum len = some b) :
    OwnInv [] { s with receiveBuffer := b, ackTriggered := true } := .of_alive (inv.once.inserted insert) alive

theorem copied (inv : OwnInv held s) (alive : s.state ≠ .closed) (len : BitVec 32) :
    OwnInv held (s.copyToApplication c len) := .of_alive (inv.once.copied len) alive

end OwnInv

namespace TcpSocket

theorem sendSegmentIn_sent (c : Config) (e : Env) (s : TcpSocket) (block : Nat) (len : BitVec 32) :
    ∃ record : TcpRecord, record.block = block ∧ (s.sendSegmentIn c e block len).history = record :: s.history ∧
      (s.sendSegmentIn c e block len).packetbuffer = s.packetbuffer ∧
      (s.sendSegmentIn c e block len).receiveBuffer = s.receiveBuffer ∧
      (s.sendSegmentIn c e block len).mempool = s.mempool := by
  unfold sendSegmentIn lowerSendWindow
  dsimp only
  split_ifs <;> exact ⟨_, rfl, rfl, rfl, rfl, rfl⟩

theorem closeIn_state (c : Config) (e : Env) (s : TcpSocket) (block : Nat) : (s.closeIn c e block).state ≠ .closed := by
  rcases closeIn_late c e s block with late | late <;> simp [late]

theorem resendFirst_owned (s : TcpSocket) : s.resendFirst.owned = s.owned ∧ s.resendFirst.mempool = s.mempool ∧
    s.resendFirst.state = s.state ∧ s.resendFirst.ackTriggered = s.ackTriggered := by
  have blocks := resendFirst_blocks s
  have frame := resendFirst_eq s
  generalize s.resendFirst = s' at blocks frame ⊢
  rw [owned, blocks, frame]
  exact ⟨rfl, rfl, rfl, rfl⟩

theorem listenBase_owned (c : Config) (e : Env) (closed : s.state = .closed) :
    (s.listenBase c e).owned = s.owned ∧ (s.listenBase c e).mempool = s.mempool ∧ (s.listenBase c e).state = .listen := by
  unfold listenBase genInitialSeqnum
  rw [if_pos closed]
  dsimp only
  split_ifs <;> exact ⟨rfl, rfl, rfl⟩

theorem genInitialSeqnum_owned (c : Config) (e : Env) (s : TcpSocket) :
    (s.genInitialSeqnum c e).owned = s.owned ∧ (s.genInitialSeqnum c e).mempool = s.mempool ∧
      (s.genInitialSeqnum c e).ackTriggered = s.ackTriggered := by
  unfold genInitialSeqnum
  dsimp only
  split_ifs <;> exact ⟨rfl, rfl, rfl⟩

end TcpSocket

namespace OwnInv

theorem dequeued {r : ReceiveBuffer} {rest : List ReceiveBuffer} (inv : OwnInv [] s) (queued : s.packetbuffer = r :: rest) :
    OwnInv [r.block] { s with packetbuffer := rest } where
  once := inv.once.dequeued queued
  closed now := by
    have none := inv.closed now
    simp [owned, queued] at none
  quiet now := inv.quiet now

theorem freed {r : ReceiveBuffer} (inv : OwnInv [r.block] s) : OwnInv [] (s.freeReceivedSegment r) where
  once := inv.once.freed
  closed := inv.closed
  quiet := inv.quiet

theorem queued {segment : TcpSegment} {size : BitVec 16} (inv : OwnInv held s)
    (arrives : s.state = .closed → ¬ s.canQueue c e) : OwnInv held (s.addToReceiveQueue c e segment size) := by
  have once : BlocksOnce held (s.addToReceiveQueue c e segment size) := inv.once.queued
  unfold addToReceiveQueue at once ⊢
  split_ifs at once ⊢ with full
  · exact inv
  · dsimp only at once ⊢
    split at once
    · rename_i granted
      exact .of_alive once (fun closed => arrives closed ⟨by omega, granted⟩)
    · exact inv.same rfl ⟨rfl, rfl⟩ (fun closed => ⟨closed, rfl⟩)

/-- The segments and the state moves a handler ends with. -/
theorem moved (inv : OwnInv held s) {state : TcpState} (alive : state ≠ .closed) : OwnInv held { s with state := state } :=
  inv.same rfl ⟨rfl, rfl⟩ (fun closed => absurd closed alive)

theorem acked (inv : OwnInv held s) (e : Env) (acknum : SeqNum) : OwnInv held (s.handleAck c e acknum) := by
  rw [handleAck_eq]
  exact inv.same rfl ⟨rfl, rfl⟩ (fun closed => ⟨closed, rfl⟩)

theorem readRest (inv : OwnInv held s) (alive : s.state ≠ .closed) : OwnInv held (s.closewaitReceive c) := by
  unfold closewaitReceive
  dsimp only
  split_ifs
  · have shorter : OwnInv held { s with applicationBuflen := s.receiveBuffer.getRecvBytes c } :=
      inv.same rfl ⟨rfl, rfl⟩ (fun closed => ⟨closed, rfl⟩)
    exact (shorter.copied alive _).same rfl ⟨rfl, rfl⟩ (fun closed => ⟨closed, rfl⟩)
  · exact (inv.copied alive _).same rfl ⟨rfl, rfl⟩ (fun closed => ⟨closed, rfl⟩)

/-- The empty receive buffer of a connection that is aborted. -/
theorem unread (inv : OwnInv held s) (returns : d.ReturnsAll c)
    (reason : s.state = .closed ∨ d.aborts ∧ d.start.Unfilled s) : s.receiveBuffer.list = [] := by
  rcases reason with closed | ⟨aborts, same⟩
  · have none := inv.closed closed
    simp only [owned, List.append_eq_nil_iff, List.map_eq_nil_iff] at none
    exact none.2.1
  · rw [same.receiveBuffer]
    exact returns.emptied aborts

end OwnInv

theorem held_of_input {r : ReceiveBuffer} (input : d.input = some r) : d.held true = [r.block] := by
  simp [Round.held, input]

theorem OwnInv.action (returns : d.ReturnsAll c) {x y : Bool × TcpSocket} (action : Action c d x y)
    (inv : OwnInv (d.held x.1) x.2) : OwnInv (d.held y.1) y.2 := by
  cases action with
  | dequeue input queued =>
    rw [held_of_input input]
    exact inv.dequeued queued
  | free input =>
    rw [held_of_input input] at inv
    exact inv.freed
  | abort reason => exact .abort inv.once (inv.unread returns reason)
  | update runs interface alive => exact inv.update (updateHistoryBody_updated interface _ _) alive
  | @kill h s runs interface aborts same overdue =>
    have updated := updateHistoryBody_updated (c := c) interface s true
    have buffer : (s.updateHistoryBody c d.env true).receiveBuffer = s.receiveBuffer := by rw [updated.frame]
    refine .abort (inv.once.update updated) ?_
    rw [buffer]
    exact inv.unread returns (.inr ⟨aborts, same⟩)
  | lose runs interface => exact inv.clearHistory
  | refuse refused => exact inv.refused refused returns.prepared
  | reply room granted bare alive =>
    refine inv.sent rfl ⟨rfl, rfl, rfl⟩ ⟨rfl, rfl⟩ (fun closed => ?_)
    obtain ⟨start, triggered⟩ := alive closed
    simp [returns.quiet start] at triggered
  | @send h s len isOpen waiting sending left amount room granted =>
    obtain ⟨record, block, history, packets, buffer, pool⟩ := sendSegmentIn_sent c d.env s.allocated s.mempool.nextBlock len
    refine inv.sent block ⟨packets, by rw [buffer]; rfl, history⟩ ⟨by rw [pool]; rfl, by rw [pool]; rfl⟩ ?_
    rw [(sendSegmentIn_frame c d.env s.allocated s.mempool.nextBlock len).1]
    rcases isOpen with state | state <;> simp [allocated, state]
  | sendSyn closed fresh window rto room granted => exact inv.sent rfl ⟨rfl, rfl, rfl⟩ ⟨rfl, rfl⟩ (by simp [connectIn, transmit, historyAdd, TcpSocket.send])
  | answerSyn listening room granted => exact inv.sent rfl ⟨rfl, rfl, rfl⟩ ⟨rfl, rfl⟩ (by simp [listenIn, transmit, historyAdd, TcpSocket.send])
  | sendFin isOpen room granted => exact inv.sent rfl ⟨rfl, rfl, rfl⟩ ⟨rfl, rfl⟩ (closeIn_state c _ _ _)
  | @resend h s state =>
    obtain ⟨owned, pool, same, triggered⟩ := resendFirst_owned s
    exact inv.same owned ⟨by rw [pool], by rw [pool]⟩ (fun closed => ⟨same ▸ closed, triggered⟩)
  | setMss state =>
    dsimp only
    rw [setMss_eq]
    exact inv.same rfl ⟨rfl, rfl⟩ (fun closed => ⟨closed, rfl⟩)
  | refuseSynAck state input other => exact inv.acked d.env _
  | @synAck h s r state input syn acked =>
    refine OwnInv.clearHistory ((inv.acked (c := c) d.env r.segment.acknum).same rfl ⟨rfl, rfl⟩ ?_)
    simp [initSendWindow]
  | @simultaneous h s r state input syn noAck start requests =>
    have crossed : OwnInv (d.held h) (s.crossed r.segment) := inv.clearHistory.same rfl ⟨rfl, rfl⟩ (fun closed => ⟨closed, rfl⟩)
    rcases synsentSimultaneous_cases c d.env s r.segment with ⟨-, eq⟩ | ⟨refused, eq⟩ <;> dsimp only <;> rw [eq]
    · exact crossed.sent rfl ⟨rfl, rfl, rfl⟩ ⟨rfl, rfl⟩ (by simp [synsentSimultaneousIn, transmit, historyAdd, TcpSocket.send])
    · exact crossed.refused refused returns.prepared
  | @synrcvdAck h s r state input =>
    dsimp only
    unfold TcpSocket.synrcvdAck
    dsimp only
    split_ifs
    · have established : OwnInv (d.held h) (({ s.handleAck c d.env r.segment.acknum with
          state := .established } : TcpSocket).initSendWindow r.segment.window r.segment.seqnum r.segment.acknum).clearHistory :=
        OwnInv.clearHistory ((inv.acked (c := c) d.env r.segment.acknum).same rfl ⟨rfl, rfl⟩ (by simp [initSendWindow]))
      exact established.same rfl ⟨rfl, rfl⟩ (fun closed => ⟨closed, rfl⟩)
    · exact inv.acked d.env _
  | setAck trigger alive =>
    exact ⟨inv.once, inv.closed, fun closed => Bool.eq_false_iff.mpr (fun on => alive on closed)⟩
  | fin input state plain =>
    dsimp only
    rw [handleFin_eq]
    exact inv.same rfl ⟨rfl, rfl⟩ (fun closed => ⟨closed, rfl⟩)
  | insert input state plain payload inserted =>
    rw [held_of_input input] at inv
    exact inv.inserted (by rcases state with state | state | state <;> simp [state]) inserted
  | window input isOpen plain same =>
    dsimp only
    unfold updateSendWindow
    split_ifs
    · exact inv.same rfl ⟨rfl, rfl⟩ (fun closed => ⟨closed, rfl⟩)
    · exact inv
  | arrive start arrival => exact inv.queued (fun closed => start ▸ returns.arrives (by rw [arrival]; rfl) (start ▸ closed))
  | listen closed =>
    obtain ⟨owned, pool, state⟩ := listenBase_owned c d.env closed
    exact inv.same owned ⟨by rw [pool], by rw [pool]⟩ (fun closed => by simp [state] at closed)
  | @initConnect h s closed =>
    obtain ⟨owned, pool, triggered⟩ := genInitialSeqnum_owned c d.env s
    exact inv.same owned ⟨by rw [pool], by rw [pool]⟩ (fun _ => ⟨closed, triggered⟩)
  | read state receiving held fits =>
    exact (inv.copied (by simp [state]) _).same rfl ⟨rfl, rfl⟩ (fun closed => ⟨closed, rfl⟩)
  | readRest state receiving => exact inv.readRest (by simp [state])
  | peerClosed | bothClosed | lastClosed | finAcked | closingAcked => exact inv.moved (by simp)
  | _ => exact inv.same rfl ⟨rfl, rfl⟩ (fun closed => ⟨closed, rfl⟩)

/-! ### Runs -/

namespace Machine

variable {m : Machine} {memory : TcpSocket}

/-- No connection is aborted over unread data, and no segment is queued in a closed socket. -/
def emptied (c : Config) (m : Machine) (a : Env × Event) : Prop :=
  let d := m.round c a.1 a.2
  (d.aborts = true → d.start.receiveBuffer.list = []) ∧
    (d.arrival.isSome = true → d.start.state = .closed → ¬ d.start.canQueue c a.1)

instance (c : Config) (m : Machine) (a : Env × Event) : Decidable (emptied c m a) := inferInstanceAs (Decidable (_ ∧ _))

theorem construct_owned (c : Config) (memory : TcpSocket) : OwnInv [] (construct c memory).sock := by
  have start : (construct c memory).sock = memory.construct c := rfl
  have none : (memory.construct c).owned = [] := by
    rw [construct_eq]
    rfl
  rw [start]
  refine ⟨fun block => ?_, fun _ => none, fun _ => ?_⟩
  · rw [none, construct_eq]
    simp
  · rw [construct_eq]

/-- Three bytes arrive and a reset behind them, before the application has read them. -/
def unreadReset : List (Env × Event) :=
  Sample.opening ++
    [(Sample.env, .arrive (Sample.segment 1001 1 1000 [1, 2, 3]) 23),
      (Sample.env, .arrive { Sample.segment 1004 1 1000 [] with rst := true } 20),
      (Sample.env, .poll), (Sample.env, .tick), (Sample.env, .tick), (Sample.env, .tick)]

/-- The application reads the three bytes first. -/
def readReset : List (Env × Event) :=
  Sample.opening ++
    [(Sample.env, .arrive (Sample.segment 1001 1 1000 [1, 2, 3]) 23), (Sample.env, .receive [0, 0, 0] (by decide)),
      (Sample.env, .tick), (Sample.env, .tick), (Sample.env, .tick),
      (Sample.env, .arrive { Sample.segment 1004 1 1000 [] with rst := true } 20),
      (Sample.env, .poll), (Sample.env, .tick), (Sample.env, .tick), (Sample.env, .tick)]

end Machine

end IPStack
