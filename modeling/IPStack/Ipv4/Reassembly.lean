import IPStack.Ipv4.Packet
import IPStack.Tcp.Config

/-! The aspect `IPv4_Receive_Fragment_Reassembly` and its caller `IPv4_Receive`. -/

namespace IPStack

/-- A `memcpy` of fragment data into the reassembly buffer. -/
structure Copy where
  packet : Bytes
  start : Nat
  len : Nat
deriving DecidableEq, Repr

/-- What the aspect has done so far: the copies since the buffer was last reset, every range
of `buffer` and every byte of `bitmap` it has accessed, and for each copy the two numbers
whose difference is its length as well as its end and its start. -/
structure ReassemblyTrace where
  copied : List Copy
  bufferAccesses : List (Nat × Nat)
  bitmapAccesses : List Nat
  subtractions : List (BitVec 32 × BitVec 32)
deriving DecidableEq, Repr

/-- The members of the aspect in the order in which they lie in memory. `crashed` stands for
a `memcpy` of almost 2^32 bytes. -/
structure Reassembly where
  expiredTime : BitVec 64
  buffer : Bytes
  bitmap : List (BitVec 8)
  headerLen : BitVec 8
  totalLen : BitVec 16
  crashed : Bool
  trace : ReassemblyTrace
deriving DecidableEq, Repr

namespace Reassembly

open Ipv4Packet

/-- `BUFFERSIZE`. -/
def bufferSize : Nat := 768

/-- The members of an aspect are zero before the first packet. -/
def initial : Reassembly where
  expiredTime := 0
  buffer := List.replicate bufferSize 0
  bitmap := List.replicate (bufferSize / (8 * 8)) 0
  headerLen := 0
  totalLen := 0
  crashed := false
  trace := ⟨[], [], [], []⟩

/-- The values of `i` in `for (i = start; i <= stop; i += 8)`. -/
def offsets (start stop : Nat) : List Nat := List.range' start ((stop + 8 - start) / 8) 8

/-- A byte of the bitmap. `header_len` lies behind the last one. -/
def cell (r : Reassembly) (i : Nat) : BitVec 8 := (r.bitmap ++ [r.headerLen]).getD i 0

/-- `bitmap[index] |= (1 << value)`. -/
def setBlock (r : Reassembly) (i : Nat) : Reassembly :=
  let r := { r with trace := { r.trace with bitmapAccesses := r.trace.bitmapAccesses ++ [i / 64] } }
  if i / 64 < r.bitmap.length then { r with bitmap := mark r.bitmap (i / 8) }
  else { r with headerLen := r.headerLen ||| 1#8 <<< (i % 64 / 8) }

/-- `start & 0xFFFFFFF8` is the multiple of eight below `start`. -/
def updateBitmap (r : Reassembly) (start stop : Nat) : Reassembly := (offsets (start / 8 * 8) stop).foldl setBlock r

/-- The first loop of `full_bitmap` from byte `i` on: its result, and the bytes it reads. -/
def fullFrom (r : Reassembly) (i : Nat) : Nat → Bool × List Nat
  | 0 => (true, [])
  | rounds + 1 =>
    if r.cell i ≠ 0xFF#8 then (false, [i])
    else
      let rest := r.fullFrom (i + 1) rounds
      (rest.1, i :: rest.2)

/-- `(unsigned) ((total_len / (8 * 8)) - 1)`. -/
def fullRounds (totalLen : Nat) : Nat := if totalLen / 64 = 0 then 2 ^ 32 - 1 else totalLen / 64 - 1

/-- The value the last byte of the bitmap must have. The mask leaves out bit 7 as well. -/
def lastValue (totalLen : Nat) : BitVec 8 :=
  (offsets (totalLen &&& 0xFFFFFF40) totalLen).foldl (fun value i => value ||| 1#8 <<< (i % 64 / 8)) 0#8

/-- The result of `full_bitmap` and the bytes of the bitmap it reads. -/
def fullBitmap (r : Reassembly) : Bool × List Nat :=
  let total := r.totalLen.toNat
  let all := r.fullFrom 0 (fullRounds total)
  if all.1 then (r.cell (total / 64) = lastValue total, all.2 ++ [total / 64]) else all

/-- The buffer holds fragments of the same datagram. -/
def sameDatagram (r : Reassembly) (packet : Bytes) : Prop :=
  getSrcIpaddr r.buffer = getSrcIpaddr packet ∧ getDstIpaddr r.buffer = getDstIpaddr packet ∧
    getId r.buffer = getId packet

instance (r : Reassembly) (packet : Bytes) : Decidable (r.sameDatagram packet) := inferInstanceAs (Decidable (_ ∧ _))

/-- `clear_bitmap` and the header of the first fragment, which is kept. -/
def clear (r : Reassembly) (packet : Bytes) : Reassembly :=
  let headerLen := BitVec.ofNat 8 (getIhl packet * 4)
  { r with
    bitmap := List.replicate (bufferSize / (8 * 8)) 0
    totalLen := 0
    headerLen := headerLen
    buffer := r.buffer.memcpy 0 packet headerLen.toNat
    trace := { r.trace with copied := [], bufferAccesses := r.trace.bufferAccesses ++ [(0, headerLen.toNat)] } }

/-- A fragment arrives while the buffer is cold. -/
def reset (r : Reassembly) (packet : Bytes) : Reassembly :=
  (r.clear packet).updateBitmap 0 (BitVec.ofNat 8 (getIhl packet * 4)).toNat

/-- The header of a complete datagram: no flags, no fragment offset, the overall length. -/
def finish (r : Reassembly) : Reassembly :=
  let buffer := r.buffer.memcpy 6 [(r.buffer.getD 6 0 &&& 0xE0) &&& 0x1F, 0] 2
  { r with
    buffer := buffer.memcpy 2 [UInt8.ofBitVec (r.totalLen.extractLsb' 8 8), UInt8.ofBitVec (r.totalLen.setWidth 8)] 2
    expiredTime := 0
    trace := { r.trace with bufferAccesses := r.trace.bufferAccesses ++ [(6, 2), (2, 2)] } }

/-- The offset in the buffer at which the data of a fragment start. -/
def dataStart (r : Reassembly) (fragmentOffset : BitVec 16) : BitVec 32 :=
  r.headerLen.setWidth 32 + fragmentOffset.setWidth 32

/-- The length of a fragment's data, with the header length of the first fragment. -/
def dataLen (r : Reassembly) (packet : Bytes) : BitVec 32 :=
  BitVec.ofNat 32 (getTotalLen packet) - r.headerLen.setWidth 32

def dataEnd (r : Reassembly) (packet : Bytes) (fragmentOffset : BitVec 16) : BitVec 32 :=
  r.dataStart fragmentOffset + r.dataLen packet

/-- The `memcpy` of a fragment's data. -/
def paste (r : Reassembly) (packet : Bytes) (fragmentOffset : BitVec 16) : Reassembly :=
  let start := (r.dataStart fragmentOffset).toNat
  let len := (r.dataLen packet).toNat
  { r with
    buffer := r.buffer.memcpy start (getData packet) len
    trace :=
      { r.trace with
        copied := r.trace.copied ++ [⟨packet, start, len⟩]
        bufferAccesses := r.trace.bufferAccesses ++ [(start, len)] } }

/-- The data of a fragment go into the buffer and the bitmap; the last one gives the length. -/
def store (r : Reassembly) (packet : Bytes) (fragmentOffset : BitVec 16) : Reassembly :=
  let stop := r.dataEnd packet fragmentOffset
  let stored := (r.paste packet fragmentOffset).updateBitmap (r.dataStart fragmentOffset).toNat stop.toNat
  if getFlags packet ≠ mfFlag then { stored with totalLen := stop.setWidth 16 } else stored

/-- The attempt to reassemble once the total length is known. -/
def tryReassemble (clock : Clock) (now : BitVec 64) (r : Reassembly) : Reassembly × Bool :=
  let restarted := { r with expiredTime := now + clock.msToTicks 60000 }
  if r.totalLen ≠ 0 then
    let full := r.fullBitmap
    let read (r : Reassembly) : Reassembly :=
      { r with trace := { r.trace with bitmapAccesses := r.trace.bitmapAccesses ++ full.2 } }
    if full.1 then ((read r).finish, true) else (read restarted, false)
  else (restarted, false)

/-- The length and the two ends of a copy are computed. -/
def measured (r : Reassembly) (packet : Bytes) (fragmentOffset : BitVec 16) : Reassembly :=
  { r with
    trace :=
      { r.trace with
        subtractions :=
          r.trace.subtractions ++
            [(BitVec.ofNat 32 (getTotalLen packet), r.headerLen.setWidth 32),
              (r.dataEnd packet fragmentOffset, r.dataStart fragmentOffset)] } }

/-- A `memcpy` that leaves the buffer. -/
def crash (r : Reassembly) (packet : Bytes) (fragmentOffset : BitVec 16) : Reassembly :=
  { r with
    crashed := true
    trace :=
      { r.trace with
        bufferAccesses := r.trace.bufferAccesses ++ [((r.dataStart fragmentOffset).toNat, (r.dataLen packet).toNat)] } }

/-- The part of the advice behind `if (copy_data == true)`. -/
def copyData (clock : Clock) (now : BitVec 64) (r : Reassembly) (packet : Bytes) (fragmentOffset : BitVec 16) :
    Reassembly × Bool :=
  let r := r.measured packet fragmentOffset
  if bufferSize < (r.dataEnd packet fragmentOffset).toNat then ({ r with expiredTime := 0 }, false)
  else if bufferSize < (r.dataStart fragmentOffset).toNat + (r.dataLen packet).toNat then
    (r.crash packet fragmentOffset, false)
  else (r.store packet fragmentOffset).tryReassemble clock now

/-- The buffer's header is compared with that of a packet. -/
def examined (r : Reassembly) : Reassembly :=
  { r with trace := { r.trace with bufferAccesses := r.trace.bufferAccesses ++ [(0, minHeaderSize)] } }

/-- The advice on `ipv4_reassemble`; the result is true for a complete datagram. -/
def ipv4Reassemble (clock : Clock) (now : BitVec 64) (r : Reassembly) (packet : Bytes) (fragmentOffset : BitVec 16) :
    Reassembly × Bool :=
  if r.crashed then (r, false)
  else if now < r.expiredTime then
    if r.sameDatagram packet then r.examined.copyData clock now packet fragmentOffset else (r.examined, false)
  else (r.reset packet).copyData clock now packet fragmentOffset

end Reassembly

/-- What becomes of a received packet. -/
inductive Received
  | dropped
  | forwarded
  | passed (packet : Bytes) (len : Nat)
deriving DecidableEq, Repr

namespace Reassembly

open Ipv4Packet

def isFragment (packet : Bytes) : Prop := getFlags packet = mfFlag ∨ getFragmentOffset packet ≠ 0

instance (packet : Bytes) : Decidable (isFragment packet) := inferInstanceAs (Decidable (_ ∨ _))

/-- `IPv4_Receive`, the first advice on `ipv4_demux`. -/
def ipv4Receive (clock : Clock) (interface : Interface) (now : BitVec 64) (r : Reassembly) (packet : Bytes) (len : Nat) :
    Reassembly × Received :=
  if ¬ accepted packet interface len then (r, .dropped)
  else if getDstIpaddr packet ≠ interface.ipv4Addr then (r, if getTtl packet ≤ 1 then .dropped else .forwarded)
  else if isFragment packet then
    let result := r.ipv4Reassemble clock now packet (BitVec.ofNat 16 (getFragmentOffset packet * 8))
    (result.1, if result.2 then .passed result.1.buffer result.1.totalLen.toNat else .dropped)
  else (r, .passed packet (validPacketLength packet len))

/-- A packet that arrives at an interface. -/
structure Arrival where
  now : BitVec 64
  interface : Interface
  packet : Bytes
  len : Nat

def step (clock : Clock) (r : Reassembly) (a : Arrival) : Reassembly :=
  (r.ipv4Receive clock a.interface a.now a.packet a.len).1

end Reassembly

end IPStack
