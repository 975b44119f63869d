import IPStack.Lib.DoublyLinked
import IPStack.Tcp.Calls
import IPStack.Tcp.HistoryUpdate
import Mathlib.Data.List.FinRange
import Mathlib.Data.List.Induction

/-! `TCP_History` with the advice of the sliding window: an array of records which the pointers
of the records link into the history, newest first, and into a free list. -/

namespace IPStack

structure RecordArray (c : Config) where
  records : Fin c.historyMaxPackets → TcpRecord
  pointers : Linked.Pool (Fin c.historyMaxPackets)

namespace RecordArray

variable {c : Config}

/-- The constructor over a piece of memory. The pointer of the last record is set behind the
loop over the others. -/
def construct (memory : RecordArray c) : RecordArray c :=
  { memory with
    pointers := { memory.pointers with
      head := none
      freelist := some ⟨0, c.historyMaxPackets_pos⟩
      next := (List.finRange c.historyMaxPackets).foldl
        (fun next i => Function.update next i (if inside : i + 1 < c.historyMaxPackets then some ⟨i + 1, inside⟩ else none))
        memory.pointers.next } }

/-- `add`: none if a null pointer is read. -/
def add (h : RecordArray c) (now : BitVec 64) (b : SendBuffer) (msec : BitVec 32) : Option (RecordArray c) :=
  h.pointers.add.map fun (k, pointers) =>
    { pointers := pointers, records := Function.update h.records k ⟨timeoutAfter c now msec, b, 0⟩ }

def remove (h : RecordArray c) (k : Fin c.historyMaxPackets) : Option (RecordArray c) :=
  (h.pointers.remove k).map fun pointers => { h with pointers := pointers }

def isFull (h : RecordArray c) : Bool := h.pointers.freelist.isNone

/-- The records from `get` on along `getNext`. -/
def listed (h : RecordArray c) : List (Fin c.historyMaxPackets) :=
  Linked.nodes h.pointers.next c.historyMaxPackets h.pointers.head

/-- The history of the socket that the array stands for. -/
def toHistory (h : RecordArray c) : TcpHistory := h.listed.map h.records

/-- Writing to the members of a record that are not its pointers. -/
def store (h : RecordArray c) (k : Fin c.historyMaxPackets) (record : TcpRecord) : RecordArray c :=
  { h with records := Function.update h.records k record }

end RecordArray

/-- A buffer that was given back, with the records of the history at that moment and after the
`remove` that follows. -/
structure Release (c : Config) where
  record : Fin c.historyMaxPackets
  block : Nat
  listed : List (Fin c.historyMaxPackets)
  remaining : List (Fin c.historyMaxPackets)

/-- The records of the history when a loop over it began, and those it has visited. -/
structure Visit (c : Config) where
  listed : List (Fin c.historyMaxPackets)
  visited : List (Fin c.historyMaxPackets)

/-- The array in a run, with the blocks of the buffers that were added, newest first, what was
given back and the loops that have ended. -/
structure HistoryLog (c : Config) where
  history : RecordArray c
  added : List Nat
  released : List (Release c)
  visits : List (Visit c)

namespace HistoryLog

variable {c : Config}

def start (memory : RecordArray c) : HistoryLog c := ⟨memory.construct, [], [], []⟩

def add (log : HistoryLog c) (now : BitVec 64) (b : SendBuffer) (msec : BitVec 32) : Option (HistoryLog c) :=
  (log.history.add now b msec).map fun h => { log with history := h, added := b.block :: log.added }

/-- `mempool->free(record->getSendBuffer())` and `history.remove(record)`. -/
def release (log : HistoryLog c) (k : Fin c.historyMaxPackets) : Option (HistoryLog c) :=
  (log.history.remove k).map fun h =>
    { log with
      history := h
      released := ⟨k, (log.history.records k).block, log.history.listed, h.listed⟩ :: log.released }

def visit (log : HistoryLog c) (listed visited : List (Fin c.historyMaxPackets)) : HistoryLog c :=
  { log with visits := ⟨listed, visited⟩ :: log.visits }

/-- The loop of `clearHistory`, with the records it visits. -/
def clearLoop : Nat → HistoryLog c → Option (List (Fin c.historyMaxPackets) × HistoryLog c)
  | 0, log => if log.history.pointers.head = none then some ([], log) else none
  | fuel + 1, log =>
    match log.history.pointers.head with
    | none => some ([], log)
    | some k => (log.release k).bind fun log => (clearLoop fuel log).map fun (visited, log) => (k :: visited, log)

def clearHistory (log : HistoryLog c) : Option (HistoryLog c) :=
  (clearLoop c.historyMaxPackets log).map fun (visited, log') => log'.visit log.history.listed visited

/-- The loop of `updateHistory`, with the records it visits. The pointer to the next record is
read before its own record is removed. -/
def updateLoop (e : Env) (doRetransmit : Bool) :
    Nat → TcpSocket → HistoryLog c → Option (Fin c.historyMaxPackets) →
      Option (List (Fin c.historyMaxPackets) × TcpSocket × HistoryLog c)
  | _, s, log, none => some ([], s, log)
  | 0, _, _, some _ => none
  | fuel + 1, s, log, some k =>
    let record := log.history.records k
    if record.released e s.seqnumUnacked then
      let next := log.history.pointers.next k
      (log.release k).bind fun log =>
        (updateLoop e doRetransmit fuel { s with mempool := s.mempool.free record.block } log next).map
          fun (visited, s, log) => (k :: visited, s, log)
    else
      let kept := if doRetransmit ∧ record.isTimedOut e.now then s.retransmit c e record else (s, record)
      let log := { log with history := log.history.store k kept.2 }
      (updateLoop e doRetransmit fuel kept.1 log (log.history.pointers.next k)).map
        fun (visited, s, log) => (k :: visited, s, log)

def updateHistoryBody (log : HistoryLog c) (e : Env) (s : TcpSocket) (doRetransmit : Bool) :
    Option (TcpSocket × HistoryLog c) :=
  if e.interface then
    let s := if c.retransmissionTracker ∧ log.history.pointers.head = none then s.clearRetransmitting c else s
    (updateLoop e doRetransmit c.historyMaxPackets s log log.history.pointers.head).map
      fun (visited, s, log') => (s, log'.visit log.history.listed visited)
  else log.clearHistory.map fun log => (s, log)

/-- `updateHistory` of a socket, as far as it concerns the history: the advice that kills the
connection clears it. -/
def updateHistory (log : HistoryLog c) (e : Env) (s : TcpSocket) (doRetransmit : Bool) : Option (HistoryLog c) :=
  (log.updateHistoryBody e s doRetransmit).bind fun (s, log) =>
    if c.retransmissionCounter ∧ s.state = .closed then log.clearHistory else some log

end HistoryLog

/-- What the socket does with its history. The other members of the socket are those of the
moment, and records are removed with their buffer. -/
inductive HistoryCall (c : Config)
  | add (now : BitVec 64) (b : SendBuffer) (msec : BitVec 32)
  | remove (k : Fin c.historyMaxPackets)
  | clearHistory
  | updateHistory (e : Env) (s : TcpSocket) (doRetransmit : Bool)

namespace HistoryLog

variable {c : Config}

/-- The socket adds a buffer only while the history is not full, and removes only records of it. -/
def perform (log : HistoryLog c) : HistoryCall c → Option (HistoryLog c)
  | .add now b msec => if log.history.isFull then some log else log.add now b msec
  | .remove k => if k ∈ log.history.listed then log.release k else some log
  | .clearHistory => log.clearHistory
  | .updateHistory e s doRetransmit => log.updateHistory e s doRetransmit

/-- The blocks of the records of a list. -/
def blocks (log : HistoryLog c) (l : List (Fin c.historyMaxPackets)) : List Nat :=
  l.map fun k => (log.history.records k).block

/-- The lists are intact, the history is in the order of the additions, and every buffer that
was added is either in it or was given back once. A buffer was given back right before its
record left the history, and every loop has visited each record once. -/
structure Intact (log : HistoryLog c) (listed free : List (Fin c.historyMaxPackets)) : Prop where
  lists : log.history.pointers.Holds listed free
  newest : (log.blocks listed).Sublist log.added
  once : (log.released.map Release.block ++ log.blocks listed).Perm log.added
  left : ∀ r ∈ log.released, r.record ∈ r.listed ∧ r.remaining = r.listed.erase r.record ∧ r.listed.Nodup
  visits : ∀ v ∈ log.visits, v.visited = v.listed ∧ v.listed.Nodup

end HistoryLog

/-! ### The array -/

namespace RecordArray

variable {c : Config}

theorem foldl_update {α β : Type*} [DecidableEq α] (g : α → β) (l : List α) (f : α → β) {k : α} (member : k ∈ l) :
    l.foldl (fun f i => Function.update f i (g i)) f k = g k := by
  induction l using List.reverseRecOn generalizing k with
  | nil => exact absurd member List.not_mem_nil
  | append_singleton l i ih =>
    rw [List.foldl_append, List.foldl_cons, List.foldl_nil]
    by_cases same : k = i
    · rw [same, Function.update_self]
    · rw [Function.update_of_ne same]
      exact ih ((List.mem_append.mp member).resolve_right fun last => same (List.mem_singleton.mp last))

/-- Pointers that count up lead through all records from any of them on. -/
theorem chain_finRange {n : Nat} {next : Fin n → Option (Fin n)}
    (counts : ∀ i : Fin n, next i = if inside : i + 1 < n then some ⟨i + 1, inside⟩ else none) (remaining i : Nat)
    (total : i + remaining = n) :
    Linked.Chain next (if inside : i < n then some ⟨i, inside⟩ else none) ((List.finRange n).drop i) := by
  induction remaining generalizing i with
  | zero =>
    rw [dif_neg (by omega), List.drop_of_length_le (by rw [List.length_finRange]; omega)]
    exact .nil
  | succ remaining ih =>
    have inside : i < n := by omega
    rw [dif_pos inside, List.drop_eq_getElem_cons (by rwa [List.length_finRange]), List.getElem_finRange]
    refine .cons ?_
    have rest := ih (i + 1) (by omega)
    rw [← counts ⟨i, inside⟩] at rest
    exact rest

theorem construct_holds (memory : RecordArray c) :
    memory.construct.pointers.Holds [] (List.finRange c.historyMaxPackets) where
  listed := .nil
  back := .nil
  unused := by
    have counts : ∀ i : Fin c.historyMaxPackets, memory.construct.pointers.next i =
        if inside : i + 1 < c.historyMaxPackets then some ⟨i + 1, inside⟩ else none :=
      fun i => foldl_update _ _ _ (List.mem_finRange i)
    have chain := chain_finRange counts c.historyMaxPackets 0 (Nat.zero_add _)
    rw [dif_pos c.historyMaxPackets_pos, List.drop_zero] at chain
    exact chain
  apart := List.disjoint_nil_left _
  all k := Or.inr (List.mem_finRange k)

theorem length_listed {h : RecordArray c} {l free : List (Fin c.historyMaxPackets)} (holds : h.pointers.Holds l free) :
    l.length + free.length = c.historyMaxPackets := by
  have once : (l ++ free).Nodup := List.nodup_append'.mpr ⟨holds.listed.nodup, holds.unused.nodup, holds.apart⟩
  have all : (l ++ free).Perm (List.finRange c.historyMaxPackets) := by
    refine (List.perm_ext_iff_of_nodup once (List.nodup_finRange _)).mpr fun k => ?_
    exact iff_of_true (List.mem_append.mpr (holds.all k)) (List.mem_finRange k)
  rw [← List.length_append, all.length_eq, List.length_finRange]

theorem listed_eq {h : RecordArray c} {l free : List (Fin c.historyMaxPackets)} (holds : h.pointers.Holds l free) :
    h.listed = l :=
  holds.listed.nodes_eq ((Nat.le_add_right _ _).trans_eq (length_listed holds))

/-- The free list is empty when the history has no record left. -/
theorem isFull_eq {h : RecordArray c} {l free : List (Fin c.historyMaxPackets)} (holds : h.pointers.Holds l free) :
    h.isFull = h.toHistory.isFull c := by
  have total := length_listed holds
  rw [isFull, TcpHistory.isFull, toHistory, listed_eq holds, List.length_map, holds.unused.head_eq]
  cases free with
  | nil =>
    rw [List.length_nil] at total
    exact (decide_eq_true (by omega : c.historyMaxPackets ≤ l.length)).symm
  | cons k free =>
    rw [List.length_cons] at total
    exact (decide_eq_false (by omega : ¬c.historyMaxPackets ≤ l.length)).symm

end RecordArray

/-! ### Adding and removing -/

namespace HistoryLog

variable {c : Config} {log : HistoryLog c} {listed free before after rest : List (Fin c.historyMaxPackets)}
  {k : Fin c.historyMaxPackets}

theorem start_intact (memory : RecordArray c) : (start memory).Intact [] (List.finRange c.historyMaxPackets) where
  lists := memory.construct_holds
  newest := List.Sublist.refl _
  once := List.Perm.refl _
  left := by simp [start]
  visits := by simp [start]

theorem blocks_congr {log' : HistoryLog c} (same : ∀ k ∈ listed, (log'.history.records k).block = (log.history.records k).block) :
    log'.blocks listed = log.blocks listed :=
  List.map_congr_left same

theorem blocks_eq (log : HistoryLog c) (l : List (Fin c.historyMaxPackets)) :
    log.blocks l = (l.map log.history.records).map TcpRecord.block := by
  rw [List.map_map]
  rfl

theorem Intact.add (intact : log.Intact listed (k :: free)) (now : BitVec 64) (b : SendBuffer) (msec : BitVec 32) :
    ∃ log', log.add now b msec = some log' ∧ log'.Intact (k :: listed) free ∧
      log'.history.toHistory = ⟨timeoutAfter c now msec, b, 0⟩ :: log.history.toHistory := by
  obtain ⟨pointers, result, holds⟩ := intact.lists.add
  have absent : k ∉ listed := (List.nodup_cons.mp holds.listed.nodup).1
  have other : ∀ i ∈ listed, i ≠ k := fun i member same => absent (same ▸ member)
  let records := Function.update log.history.records k ⟨timeoutAfter c now msec, b, 0⟩
  have newer : (k :: listed).map records = ⟨timeoutAfter c now msec, b, 0⟩ :: listed.map log.history.records := by
    rw [List.map_cons, show records k = _ from Function.update_self ..]
    exact congrArg (_ :: ·) (List.map_congr_left fun i member => Function.update_of_ne (other i member) ..)
  let log' : HistoryLog c := { log with history := ⟨records, pointers⟩, added := b.block :: log.added }
  have blocks : log'.blocks (k :: listed) = b.block :: log.blocks listed := by
    rw [blocks_eq, blocks_eq, newer]
    rfl
  refine ⟨log', ?_, ⟨holds, ?_, ?_, intact.left, intact.visits⟩, ?_⟩
  · rw [HistoryLog.add, RecordArray.add, result]
    rfl
  · rw [blocks]
    exact intact.newest.cons_cons _
  · rw [blocks]
    exact List.perm_middle.trans (intact.once.cons _)
  · rw [RecordArray.toHistory, RecordArray.toHistory, RecordArray.listed_eq holds, RecordArray.listed_eq intact.lists]
    exact newer

theorem Intact.release (intact : log.Intact (before ++ k :: after) free) :
    ∃ log', log.release k = some log' ∧ log'.Intact (before ++ after) (k :: free) ∧
      log'.history.records = log.history.records ∧ log'.visits = log.visits := by
  obtain ⟨pointers, result, holds⟩ := intact.lists.remove
  have once := intact.lists.listed.nodup
  have split : log.blocks (before ++ k :: after) = log.blocks before ++ (log.history.records k).block :: log.blocks after := by
    rw [blocks, List.map_append, List.map_cons]
    rfl
  have joined : log.blocks (before ++ after) = log.blocks before ++ log.blocks after := List.map_append
  let history : RecordArray c := { log.history with pointers := pointers }
  refine ⟨{ log with
      history := history
      released := ⟨k, (log.history.records k).block, log.history.listed, history.listed⟩ :: log.released }, ?_,
    ⟨holds, ?_, ?_, ?_, intact.visits⟩, rfl, rfl⟩
  · rw [HistoryLog.release, RecordArray.remove, result]
    rfl
  · refine List.Sublist.trans ?_ intact.newest
    exact ((List.sublist_cons_self k after).append_left before).map _
  · refine List.Perm.trans ?_ intact.once
    rw [split]
    change ((log.history.records k).block :: log.released.map Release.block ++ log.blocks (before ++ after)).Perm _
    rw [joined, ← List.append_assoc, ← List.append_assoc]
    exact List.perm_middle.symm
  · intro r member
    rcases List.mem_cons.mp member with rfl | member
    · rw [RecordArray.listed_eq intact.lists, RecordArray.listed_eq holds]
      refine ⟨List.mem_append_right _ List.mem_cons_self, ?_, once⟩
      rw [List.nodup_middle] at once
      have absent : k ∉ before := fun earlier => (List.nodup_cons.mp once).1 (List.mem_append_left _ earlier)
      rw [List.erase_append_right _ absent, List.erase_cons_head]
    · exact intact.left r member

theorem Intact.visit (intact : log.Intact listed free) {l : List (Fin c.historyMaxPackets)} (once : l.Nodup) :
    (log.visit l l).Intact listed free where
  lists := intact.lists
  newest := intact.newest
  once := intact.once
  left := intact.left
  visits v member := by
    rcases List.mem_cons.mp member with rfl | member
    · exact ⟨rfl, once⟩
    · exact intact.visits v member

/-- The members of a record that are not its block may change at any time. -/
theorem Intact.store (intact : log.Intact listed free) {record : TcpRecord}
    (same : record.block = (log.history.records k).block) :
    ({ log with history := log.history.store k record } : HistoryLog c).Intact listed free := by
  have blocks : ({ log with history := log.history.store k record } : HistoryLog c).blocks listed = log.blocks listed := by
    refine blocks_congr fun i _ => ?_
    by_cases found : i = k
    · rw [found, ← same]
      exact congrArg TcpRecord.block (Function.update_self ..)
    · exact congrArg TcpRecord.block (Function.update_of_ne found ..)
  exact ⟨intact.lists, blocks ▸ intact.newest, by rw [blocks]; exact intact.once, intact.left, intact.visits⟩

/-! ### The loops -/

theorem Intact.clearLoop {fuel : Nat} (intact : log.Intact listed free) (enough : listed.length ≤ fuel) :
    ∃ log' free', HistoryLog.clearLoop fuel log = some (listed, log') ∧ log'.Intact [] free' := by
  induction listed generalizing log free fuel with
  | nil =>
    have head := intact.lists.listed.head_eq
    refine ⟨log, free, ?_, intact⟩
    cases fuel with
    | zero => exact if_pos head
    | succ fuel => rw [HistoryLog.clearLoop, head]; rfl
  | cons k listed ih =>
    rw [List.length_cons] at enough
    obtain ⟨fuel, rfl⟩ := Nat.exists_eq_add_of_lt enough
    have head := intact.lists.listed.head_eq
    have started : log.Intact ([] ++ k :: listed) free := intact
    obtain ⟨log₁, removed, intact₁, -⟩ := started.release
    obtain ⟨log', free', cleared, intact'⟩ := ih intact₁ (by omega : listed.length ≤ listed.length + fuel)
    refine ⟨log', free', ?_, intact'⟩
    rw [HistoryLog.clearLoop, head, List.head?_cons]
    dsimp only
    rw [removed, Option.bind_some, cleared]
    rfl

theorem Intact.clearHistory (intact : log.Intact listed free) :
    ∃ log' free', log.clearHistory = some log' ∧ log'.Intact [] free' := by
  have total := RecordArray.length_listed intact.lists
  obtain ⟨log', free', cleared, intact'⟩ := intact.clearLoop (by omega : listed.length ≤ c.historyMaxPackets)
  refine ⟨log'.visit listed listed, free', ?_, intact'.visit intact.lists.listed.nodup⟩
  rw [HistoryLog.clearHistory, cleared, RecordArray.listed_eq intact.lists]
  rfl

/-- The records before the current one have been visited and kept. The loop does to the others
what the loop over the list of records does. -/
theorem Intact.updateLoop (e : Env) (doRetransmit : Bool) {fuel : Nat} {s : TcpSocket}
    (intact : log.Intact (before ++ rest) free) (enough : rest.length ≤ fuel) :
    ∃ log' kept free', HistoryLog.updateLoop e doRetransmit fuel s log rest.head? =
        some (rest, (s.updateRecords c e doRetransmit (rest.map log.history.records)).1, log') ∧
      log'.Intact (before ++ kept) free' ∧
      kept.map log'.history.records = (s.updateRecords c e doRetransmit (rest.map log.history.records)).2 ∧
      ∀ i ∈ before, log'.history.records i = log.history.records i := by
  induction rest generalizing log before free fuel s with
  | nil => exact ⟨log, [], free, by cases fuel <;> rfl, intact, rfl, fun _ _ => rfl⟩
  | cons k rest ih =>
    rw [List.length_cons] at enough
    obtain ⟨fuel, rfl⟩ := Nat.exists_eq_add_of_lt enough
    have next : log.history.pointers.next k = rest.head? := intact.lists.listed.next_eq
    have once := intact.lists.listed.nodup
    rw [List.map_cons, TcpSocket.updateRecords, List.head?_cons, HistoryLog.updateLoop, next]
    dsimp only
    by_cases released : (log.history.records k).released e s.seqnumUnacked
    · rw [if_pos released, if_pos released]
      obtain ⟨log₁, removed, intact₁, records, -⟩ := intact.release
      obtain ⟨log', kept, free', result, intact', same, earlier⟩ :=
        ih (s := { s with mempool := s.mempool.free (log.history.records k).block }) intact₁
          (by omega : rest.length ≤ rest.length + fuel)
      rw [records] at result same earlier
      refine ⟨log', kept, free', ?_, intact', same, earlier⟩
      rw [removed, Option.bind_some, result]
      rfl
    · rw [if_neg released, if_neg released]
      have block := (TcpSocket.keepRecord_spec c e doRetransmit s (log.history.records k)).2.1.block
      generalize (if doRetransmit = true ∧ (log.history.records k).isTimedOut e.now = true then
        s.retransmit c e (log.history.records k) else (s, log.history.records k)) = u at *
      have intact₁ := intact.store block
      rw [List.append_cons] at intact₁
      obtain ⟨log', kept, free', result, intact', same, earlier⟩ :=
        ih (s := u.1) intact₁ (by omega : rest.length ≤ rest.length + fuel)
      have other : ∀ i ≠ k, Function.update log.history.records k u.2 i = log.history.records i :=
        fun i different => Function.update_of_ne different ..
      rw [List.nodup_middle] at once
      have absent := (List.nodup_cons.mp once).1
      have behind : rest.map (Function.update log.history.records k u.2) = rest.map log.history.records :=
        List.map_congr_left fun i member => other i fun found => absent (found ▸ List.mem_append_right _ member)
      simp only [RecordArray.store, behind] at result same
      refine ⟨log', k :: kept, free', ?_, ?_, ?_, ?_⟩
      · rw [show (log.history.store k u.2).pointers.next k = rest.head? from next]
        exact congrArg (Option.map _) result
      · rwa [List.append_cons]
      · rw [List.map_cons, same, earlier k (List.mem_append_right _ (List.mem_singleton_self k))]
        exact congrArg (· :: _) (Function.update_self ..)
      · intro i member
        rw [earlier i (List.mem_append_left _ member)]
        exact other i fun found => absent (found ▸ List.mem_append_left _ member)

theorem Intact.toHistory (intact : log.Intact listed free) :
    log.history.toHistory = listed.map log.history.records := by
  rw [RecordArray.toHistory, RecordArray.listed_eq intact.lists]

/-- Without the advice that kills the connection. -/
theorem Intact.updateHistoryBody (intact : log.Intact listed free) (e : Env) (s : TcpSocket) (doRetransmit : Bool) :
    ∃ s' log' listed' free', log.updateHistoryBody e s doRetransmit = some (s', log') ∧ log'.Intact listed' free' ∧
      (s.history = log.history.toHistory →
        s'.state = (s.updateHistoryBody c e doRetransmit).state ∧
          log'.history.toHistory = (s.updateHistoryBody c e doRetransmit).history) := by
  unfold HistoryLog.updateHistoryBody TcpSocket.updateHistoryBody
  split
  · have bound := RecordArray.length_listed intact.lists
    have head := intact.lists.listed.head_eq
    have empty : log.history.toHistory = [] ↔ log.history.pointers.head = none := by
      rw [intact.toHistory, List.map_eq_nil_iff, head, List.head?_eq_none_iff]
    generalize first : (if c.retransmissionTracker = true ∧ log.history.pointers.head = none then
      s.clearRetransmitting c else s) = s₁
    have started : log.Intact ([] ++ listed) free := intact
    obtain ⟨log', kept, free', result, intact', same, -⟩ :=
      started.updateLoop e doRetransmit (s := s₁) (by omega : listed.length ≤ c.historyMaxPackets)
    rw [← head] at result
    have visited := intact'.visit intact.lists.listed.nodup
    refine ⟨(s₁.updateRecords c e doRetransmit (listed.map log.history.records)).1, log'.visit listed listed, kept, free',
      ?_, visited, fun equal => ?_⟩
    · dsimp only
      rw [result, RecordArray.listed_eq intact.lists]
      rfl
    · have history : s₁.history = listed.map log.history.records := by
        rw [← first, ← intact.toHistory, ← equal]
        split
        · unfold TcpSocket.clearRetransmitting
          split <;> rfl
        · rfl
      simp only [equal, empty, first, history]
      exact ⟨trivial, visited.toHistory.trans same⟩
  · obtain ⟨log', free', result, intact'⟩ := intact.clearHistory
    exact ⟨s, log', [], free', by rw [result]; rfl, intact', fun _ => ⟨rfl, intact'.toHistory⟩⟩

/-- The records of the history after `updateHistory` are those of the socket's list. -/
theorem Intact.updateHistory (intact : log.Intact listed free) (e : Env) (s : TcpSocket) (doRetransmit : Bool) :
    ∃ log' listed' free', log.updateHistory e s doRetransmit = some log' ∧ log'.Intact listed' free' ∧
      (s.history = log.history.toHistory →
        log'.history.toHistory = (s.updateHistory c e doRetransmit).history) := by
  obtain ⟨s₁, log₁, listed₁, free₁, body, intact₁, same⟩ := intact.updateHistoryBody e s doRetransmit
  unfold HistoryLog.updateHistory TcpSocket.updateHistory
  rw [body, Option.bind_some]
  dsimp only
  by_cases killed : c.retransmissionCounter = true ∧ s₁.state = .closed
  · obtain ⟨log', free', result, intact'⟩ := intact₁.clearHistory
    refine ⟨log', [], free', by rw [if_pos killed]; exact result, intact', fun equal => ?_⟩
    rw [← (same equal).1, if_pos killed]
    exact intact'.toHistory
  · refine ⟨log₁, listed₁, free₁, if_neg killed, intact₁, fun equal => ?_⟩
    rw [← (same equal).1, if_neg killed]
    exact (same equal).2

/-! ### Runs -/

theorem Intact.perform (intact : log.Intact listed free) (call : HistoryCall c) :
    ∃ log' listed' free', log.perform call = some log' ∧ log'.Intact listed' free' := by
  cases call with
  | add now b msec =>
    change ∃ log' listed' free', (if log.history.isFull then some log else log.add now b msec) = some log' ∧ _
    cases free with
    | nil =>
      have full : log.history.isFull = true := by
        rw [RecordArray.isFull, intact.lists.freelist_eq_none.mpr rfl]
        rfl
      exact ⟨log, listed, [], if_pos full, intact⟩
    | cons k free =>
      have room : ¬log.history.isFull = true := by
        rw [RecordArray.isFull, intact.lists.unused.head_eq]
        exact Bool.false_ne_true
      obtain ⟨log', result, intact', -⟩ := intact.add now b msec
      exact ⟨log', k :: listed, free, by rw [if_neg room]; exact result, intact'⟩
  | remove k =>
    change ∃ log' listed' free', (if k ∈ log.history.listed then log.release k else some log) = some log' ∧ _
    by_cases member : k ∈ log.history.listed
    · have among := member
      rw [RecordArray.listed_eq intact.lists] at among
      obtain ⟨before, after, rfl⟩ := List.append_of_mem among
      obtain ⟨log', result, intact', -⟩ := intact.release
      exact ⟨log', before ++ after, k :: free, by rw [if_pos member]; exact result, intact'⟩
    · exact ⟨log, listed, free, if_neg member, intact⟩
  | clearHistory =>
    obtain ⟨log', free', result, intact'⟩ := intact.clearHistory
    exact ⟨log', [], free', result, intact'⟩
  | updateHistory e s doRetransmit =>
    obtain ⟨log', listed', free', result, intact', -⟩ := intact.updateHistory e s doRetransmit
    exact ⟨log', listed', free', result, intact'⟩

theorem Intact.run (intact : log.Intact listed free) (calls : List (HistoryCall c)) :
    ∃ log' listed' free', calls.foldlM HistoryLog.perform log = some log' ∧ log'.Intact listed' free' := by
  induction calls generalizing log listed free with
  | nil => exact ⟨log, listed, free, rfl, intact⟩
  | cons call calls ih =>
    obtain ⟨log₁, listed₁, free₁, first, intact₁⟩ := intact.perform call
    obtain ⟨log', listed', free', later, intact'⟩ := ih intact₁
    exact ⟨log', listed', free', by rw [List.foldlM_cons, first]; exact later, intact'⟩

/-- No sequence of what the socket does reads a null pointer or loops forever, and all of them
keep the lists intact. -/
theorem intact_run (memory : RecordArray c) (calls : List (HistoryCall c)) :
    ∃ log listed free, calls.foldlM perform (start memory) = some log ∧ log.Intact listed free :=
  (start_intact memory).run calls

end HistoryLog

namespace Sample

/-- Records over a piece of memory in which every pointer is null. -/
def records : RecordArray config where
  records _ := ⟨0, ⟨0, .invalid, segment 0 0 0 []⟩, 0⟩
  pointers := ⟨none, none, fun _ => none, fun _ => none⟩

end Sample

/-- `clearHistory` gives a buffer back before it takes the record out of the history. -/
theorem clearHistory_frees_listed :
    ¬ ∀ (c : Config) (memory : RecordArray c) (calls : List (HistoryCall c)) (log : HistoryLog c),
      calls.foldlM HistoryLog.perform (HistoryLog.start memory) = some log → ∀ r ∈ log.released, r.record ∉ r.listed := by
  intro unlisted
  let calls : List (HistoryCall Sample.config) := [.add 0 ⟨0, .transmitted, Sample.segment 0 0 0 []⟩ 0, .clearHistory]
  have listed : ((calls.foldlM HistoryLog.perform (HistoryLog.start Sample.records)).map fun log =>
      log.released.map fun r => decide (r.record ∈ r.listed)) = some [true] := by decide +kernel
  obtain ⟨log, run, releases⟩ := Option.map_eq_some_iff.mp listed
  obtain ⟨r, rest, released, first, -⟩ := List.map_eq_cons_iff.mp releases
  exact unlisted _ _ calls log run r (released ▸ List.mem_cons_self) (of_decide_eq_true first)

end IPStack
