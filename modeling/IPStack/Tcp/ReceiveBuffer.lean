import IPStack.Tcp.Config

namespace IPStack

/-- `TCP_RecvElement`: unread payload of one received segment; `slot` is its index in the
array `elements`. -/
structure TcpRecvElement where
  slot : Nat
  len : BitVec 32
  seqNum : SeqNum
  data : List UInt8
  block : Nat
deriving DecidableEq, Repr

def TcpRecvElement.setSegment (slot : Nat) (r : ReceiveBuffer) (len : BitVec 32) (seqNum : SeqNum) : TcpRecvElement :=
  { slot := slot, len := len, seqNum := seqNum, data := r.segment.data, block := r.block }

def TcpRecvElement.getNextSeqNum (e : TcpRecvElement) : SeqNum := e.seqNum + e.len

def TcpRecvElement.increment (e : TcpRecvElement) (inc : BitVec 32) : TcpRecvElement :=
  { e with data := e.data.drop inc.toNat, seqNum := e.seqNum + inc, len := e.len - inc }

@[simp] theorem TcpRecvElement.seqNum_setSegment (slot : Nat) (r : ReceiveBuffer) (len : BitVec 32) (seqNum : SeqNum) :
    (setSegment slot r len seqNum).seqNum = seqNum := rfl

@[simp] theorem TcpRecvElement.len_setSegment (slot : Nat) (r : ReceiveBuffer) (len : BitVec 32) (seqNum : SeqNum) :
    (setSegment slot r len seqNum).len = len := rfl

@[simp] theorem TcpRecvElement.getNextSeqNum_setSegment (slot : Nat) (r : ReceiveBuffer) (len : BitVec 32) (seqNum : SeqNum) :
    (setSegment slot r len seqNum).getNextSeqNum = seqNum + len := rfl

/-- `TCP_ReceiveBuffer`. The list from `head` on is `continuous ++ rest`, where
`continuous` ends with the element `recv_continuous` points to (empty if it is null, as
always in the build with a single segment). `free` is the free list, as indices of the array. -/
structure TcpReceiveBuffer where
  continuous : List TcpRecvElement
  rest : List TcpRecvElement
  free : List Nat
  recvBytes : BitVec 32
  readFirstSeqNum : SeqNum
  pushFlag : Bool
deriving DecidableEq, Repr

namespace TcpReceiveBuffer

def list (b : TcpReceiveBuffer) : List TcpRecvElement := b.continuous ++ b.rest

/-- The constructor with its sliding-window advice; `read_firstSeqNum` is not initialised. -/
def construct (c : Config) (memory : TcpReceiveBuffer) : TcpReceiveBuffer :=
  { memory with
    continuous := [], rest := [], free := List.range c.receivebufferMaxPackets
    recvBytes := 0, pushFlag := false }

def setFirstSeqNum (b : TcpReceiveBuffer) (seqNum : SeqNum) : TcpReceiveBuffer :=
  { b with readFirstSeqNum := seqNum }

def getAckNum (c : Config) (b : TcpReceiveBuffer) : SeqNum :=
  if c.slidingWindowReceive then
    match b.continuous.getLast? with
    | none => b.readFirstSeqNum
    | some element => element.getNextSeqNum
  else
    match b.list.head? with
    | none => b.readFirstSeqNum
    | some element => element.getNextSeqNum

def getRecvBytes (c : Config) (b : TcpReceiveBuffer) : BitVec 32 :=
  if c.slidingWindowReceive then b.recvBytes
  else
    match b.list.head? with
    | none => 0
    | some element => element.len

/-- The loop of `updateContinuous`: `last` is `recv_continuous`, the argument the list
behind it. -/
def joinContinuous (b : TcpReceiveBuffer) (last : TcpRecvElement) : List TcpRecvElement → TcpReceiveBuffer
  | [] => { b with rest := [] }
  | next :: rest =>
    if last.getNextSeqNum = next.seqNum then
      joinContinuous { b with continuous := b.continuous ++ [next], recvBytes := b.recvBytes + next.len } next rest
    else { b with rest := next :: rest }

def updateContinuous (b : TcpReceiveBuffer) : TcpReceiveBuffer :=
  match b.continuous.getLast? with
  | some last => b.joinContinuous last b.rest
  | none =>
    match b.rest with
    | [] => b
    | head :: rest =>
      if b.readFirstSeqNum = head.seqNum then
        joinContinuous { b with continuous := [head], recvBytes := head.len } head rest
      else b

/-- The search for the place of a new element behind `recv_continuous`; `none` is the
duplicate that is not added. -/
def place (element : TcpRecvElement) : List TcpRecvElement → Option (List TcpRecvElement)
  | [] => some [element]
  | current :: rest =>
    if seqGeq element.seqNum current.getNextSeqNum then (place element rest).map (current :: ·)
    else if seqGeq element.seqNum current.seqNum then none
    else some (element :: current :: rest)

/-- With `recv_continuous` set the search starts there, and nothing is inserted before it. -/
def search (b : TcpReceiveBuffer) (element : TcpRecvElement) : Option (List TcpRecvElement) :=
  match b.continuous.getLast? with
  | none => place element b.rest
  | some last => if seqGeq element.seqNum last.getNextSeqNum then place element b.rest else none

/-- `insert_SlidingWindow`; `none` is the result false. -/
def insertSlidingWindow (b : TcpReceiveBuffer) (r : ReceiveBuffer) (seqnum : SeqNum) (len : BitVec 32) :
    Option TcpReceiveBuffer :=
  match b.free with
  | [] => none
  | slot :: free =>
    if seqLt seqnum b.readFirstSeqNum then none
    else
      match b.search (.setSegment slot r len seqnum) with
      | none => none
      | some rest =>
        let b := updateContinuous { b with rest := rest, free := free }
        some (if r.segment.psh then { b with pushFlag := true } else b)

/-- `TCP_ReceiveBuffer::insert` of the build that holds a single segment. -/
def insertSingle (b : TcpReceiveBuffer) (r : ReceiveBuffer) (seqnum : SeqNum) (len : BitVec 32) :
    Option TcpReceiveBuffer :=
  if seqnum = b.readFirstSeqNum then
    match b.list with
    | [] => some { b with rest := [.setSegment 0 r len seqnum], pushFlag := b.pushFlag || r.segment.psh }
    | _ :: _ => none
  else none

def insert (c : Config) (b : TcpReceiveBuffer) (r : ReceiveBuffer) (seqnum : SeqNum) (len : BitVec 32) :
    Option TcpReceiveBuffer :=
  if c.slidingWindowReceive then b.insertSlidingWindow r seqnum len else b.insertSingle r seqnum len

/-- What `copyData` does to a list of elements: the copied bytes, the freed blocks and
array elements, the elements left over and the length still to be copied when the list ran
out. -/
structure Consumed where
  bytes : List UInt8
  freed : List Nat
  slots : List Nat
  left : List TcpRecvElement
  len : BitVec 32

def consume (len : BitVec 32) : List TcpRecvElement → Consumed
  | [] => ⟨[], [], [], [], len⟩
  | head :: rest =>
    if len = 0 then ⟨[], [], [], head :: rest, 0⟩
    else if head.len ≤ len then
      let r := consume (len - head.len) rest
      ⟨head.data.take head.len.toNat ++ r.bytes, head.block :: r.freed, head.slot :: r.slots, r.left, r.len⟩
    else ⟨head.data.take len.toNat, [], [], head.increment len :: rest, 0⟩

/-- `copyData_SlindingWindow`: `recv_continuous` is reset when the element it points to
is consumed, and the push flag when the list becomes empty. -/
def copyDataSlidingWindow (b : TcpReceiveBuffer) (len : BitVec 32) :
    List UInt8 × List Nat × TcpReceiveBuffer :=
  let front := consume len b.continuous
  let back := consume front.len b.rest
  let freed := front.freed ++ back.freed
  (front.bytes ++ back.bytes, freed,
    { b with
      continuous := front.left
      rest := back.left
      free := (front.slots ++ back.slots).reverse ++ b.free
      recvBytes := b.recvBytes - len
      readFirstSeqNum := b.readFirstSeqNum + len
      pushFlag := if freed ≠ [] ∧ front.left ++ back.left = [] then false else b.pushFlag })

/-- `TCP_ReceiveBuffer::copyData` of the build that holds a single segment. The source
dereferences `head` without a check; here nothing is copied then. -/
def copyDataSingle (b : TcpReceiveBuffer) (len : BitVec 32) : List UInt8 × List Nat × TcpReceiveBuffer :=
  let b' := { b with readFirstSeqNum := b.readFirstSeqNum + len }
  match b.list with
  | [] => ([], [], b')
  | head :: rest =>
    if head.len = len then
      (head.data.take head.len.toNat, [head.block],
        { b' with continuous := [], rest := rest, pushFlag := false })
    else (head.data.take len.toNat, [], { b' with continuous := [], rest := head.increment len :: rest })

def copyData (c : Config) (b : TcpReceiveBuffer) (len : BitVec 32) :
    List UInt8 × List Nat × TcpReceiveBuffer :=
  if c.slidingWindowReceive then b.copyDataSlidingWindow len else b.copyDataSingle len

end TcpReceiveBuffer

end IPStack
