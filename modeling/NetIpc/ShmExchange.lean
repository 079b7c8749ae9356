/-
This file proves that messages passed through shared memory arrive once, in order and
as they were sent (`ShmContext::send`, `ShmContext::receive`).

The two ends take turns: the client sends and receives, the server receives and sends.
Every step of either end is one access to the region, and a schedule says whose turn it
is, so the steps of the two ends interleave in every way. A receive that times out is
called again and starts where it was.

Each direction is a channel, and both ends keep the same account of both channels: how
many messages were sent and received, and what the area holds. Who may write follows
from these numbers alone. The counters are 64-bit numbers, and the account is right as
long as neither end has received `2 ^ 64` messages.
-/

import NetIpc.ShmLayout

namespace NetIpc.Shm

/-! ### The steps of an end -/

/-- The area `receive` reads. -/
def Context.receiveArea (self : Context) : Area :=
  match self.role with
  | .server => self.requestArea
  | .client => self.responseArea

/-- The counter up to which this end has received. -/
def Context.receivedSeq (self : Context) : UInt64 :=
  match self.role with
  | .server => self.localReqSeq
  | .client => self.localRespSeq

/-- `expected_seq`. -/
def Context.expectedSeq (self : Context) : UInt64 := self.receivedSeq + 1

/-- The context after it received a message. -/
def Context.afterReceive (self : Context) : Context :=
  match self.role with
  | .server => { self with localReqSeq := self.expectedSeq }
  | .client => { self with localRespSeq := self.expectedSeq }

/-- Which access comes next in `send` or in `receive`. -/
inductive Point where
  | copyIn (msg : Bytes)
  | storeLen (msg : Bytes)
  | addSeq (msg : Bytes)
  | addSignal
  | loadSeq
  | loadLen
  | copyOut (mlen : Nat)
  | failed (error : Error)
  deriving Repr, DecidableEq

/-- One end: its context, where it is, and the messages it has sent and received. -/
structure Party where
  context : Context
  point : Point
  sent : List Bytes
  received : List Bytes
  deriving Repr, DecidableEq

/-- The checks of `send` before its first access; what is sent next depends on what was received. -/
def Party.beginSend (next : List Bytes → Bytes) (self : Party) : Party :=
  let msg := next self.received
  { self with
    point :=
      if msg.length = 0 then .failed (.badParam "null context or empty message")
      else if msg.length > self.context.sendArea.capacity then .failed .msgTooLarge
      else .copyIn msg }

/-- The last access of `receive`, into a buffer of `bufLen` bytes. -/
def Party.endReceive (next : List Bytes → Bytes) (bufLen mlen : Nat) (self : Party)
    (region : Bytes) : Party :=
  let maxCopy := min bufLen self.context.receiveArea.capacity
  let self' := { self with context := self.context.afterReceive }
  if mlen = 0 then { self' with point := .failed .badHeader }
  else if mlen > maxCopy then { self' with point := .failed .msgTooLarge }
  else
    { self' with
      received := self.received ++ [slice region self.context.receiveArea.offset mlen] }.beginSend
        next

/-- One step of an end: the end and the region after it. Looking at the counter too early leaves the
end where it is, whether it looks again, waits or times out and is called again. -/
def Party.step (next : List Bytes → Bytes) (bufLen : Nat) (self : Party) (region : Bytes) :
    Party × Bytes :=
  match self.point with
  | .copyIn msg =>
    ({ self with point := .storeLen msg }, Shm.copyIn self.context.sendArea msg region)
  | .storeLen msg =>
    ({ self with point := .addSeq msg }, Shm.storeLen self.context.sendArea msg region)
  | .addSeq msg =>
    ({ self with point := .addSignal, sent := self.sent ++ [msg] },
      Shm.addSeq self.context.sendArea region)
  | .addSignal =>
    ({ self with point := .loadSeq, context := self.context.afterSend },
      Shm.addSignal self.context.sendArea region)
  | .loadSeq =>
    let cur := loadU64 region self.context.receiveArea.seqOff
    ({ self with point := if cur ≥ self.context.expectedSeq then .loadLen else .loadSeq }, region)
  | .loadLen =>
    ({ self with point := .copyOut (loadU32 region self.context.receiveArea.lenOff).toNat }, region)
  | .copyOut mlen => (self.endReceive next bufLen mlen region, region)
  | .failed _ => (self, region)

/-- The two ends of a region. -/
structure Pair where
  region : Bytes
  client : Party
  server : Party
  deriving Repr, DecidableEq

/-- What an end sends, given what it has received, and the size of its receive buffer. -/
structure Behaviour where
  next : List Bytes → Bytes
  bufLen : Nat

/-- One step of the end whose turn it is. -/
def Pair.step (behave : Role → Behaviour) (pair : Pair) (turn : Role) : Pair :=
  match turn with
  | .client =>
    let (client, region) :=
      pair.client.step (behave .client).next (behave .client).bufLen pair.region
    { pair with client, region }
  | .server =>
    let (server, region) :=
      pair.server.step (behave .server).next (behave .server).bufLen pair.region
    { pair with server, region }

/-- All the steps of a schedule. -/
def Pair.run (behave : Role → Behaviour) (pair : Pair) (schedule : List Role) : Pair :=
  schedule.foldl (Pair.step behave) pair

/-- The client is about to send its first message, the server waits for it. -/
def Pair.start (behave : Role → Behaviour) (server client : Context) (region : Bytes) : Pair where
  region := region
  client := Party.beginSend (behave .client).next ⟨client, .loadSeq, [], []⟩
  server := ⟨server, .loadSeq, [], []⟩

/-! ### The cells of a region -/

/-- What an area consists of. -/
inductive Cell where
  | data
  | seq
  | len
  | sig
  deriving DecidableEq

/-- Where a cell starts and how long it is. -/
def Area.cell (area : Area) : Cell → Nat × Nat
  | .data => (area.offset, area.capacity)
  | .seq => (area.seqOff, 8)
  | .len => (area.lenOff, 4)
  | .sig => (area.sigOff, 4)

/-- Two ranges do not overlap. -/
def Apart (first second : Nat × Nat) : Prop :=
  first.1 + first.2 ≤ second.1 ∨ second.1 + second.2 ≤ first.1

theorem Apart.symm {first second : Nat × Nat} (apart : Apart first second) :
    Apart second first := Or.symm apart

/-- The cells of two areas lie in a region of the given size and do not overlap. -/
structure Wired (first second : Area) (size : Nat) : Prop where
  firstInside : ∀ cell, (first.cell cell).1 + (first.cell cell).2 ≤ size
  secondInside : ∀ cell, (second.cell cell).1 + (second.cell cell).2 ≤ size
  firstOwn : ∀ one other, one ≠ other → Apart (first.cell one) (first.cell other)
  secondOwn : ∀ one other, one ≠ other → Apart (second.cell one) (second.cell other)
  cross : ∀ one other, Apart (first.cell one) (second.cell other)

theorem Wired.symm {first second : Area} {size : Nat} (wired : Wired first second size) :
    Wired second first size :=
  ⟨wired.secondInside, wired.firstInside, wired.secondOwn, wired.firstOwn,
    fun one other => (wired.cross other one).symm⟩

/-- The two regions agree on a cell. -/
def Agree (region region' : Bytes) (cell : Nat × Nat) : Prop :=
  ∀ len ≤ cell.2, slice region' cell.1 len = slice region cell.1 len

variable {region : Bytes}

/-- Writing into one cell leaves every cell apart from it. -/
theorem agree_splice {src : Bytes} {written cell : Nat × Nat}
    (inside : written.1 + written.2 ≤ region.length) (short : src.length ≤ written.2)
    (apart : Apart written cell) : Agree region (splice region written.1 src) cell := by
  intro len within
  rcases apart with before | after
  · exact slice_splice_after _ _ _ _ _ (by omega) (by omega)
  · exact slice_splice_before _ _ _ _ _ (by omega) (by omega)

theorem loadU64_eq_of_agree {region' : Bytes} {area : Area}
    (agree : Agree region region' (area.cell .seq)) :
    loadU64 region' area.seqOff = loadU64 region area.seqOff :=
  congrArg (fun bytes => UInt64.ofNat (leNat bytes)) (agree 8 (Nat.le_refl _))

theorem loadU32_eq_of_agree {region' : Bytes} {area : Area}
    (agree : Agree region region' (area.cell .len)) :
    loadU32 region' area.lenOff = loadU32 region area.lenOff :=
  congrArg (fun bytes => UInt32.ofNat (leNat bytes)) (agree 4 (Nat.le_refl _))

/-- A word that was stored is loaded. -/
theorem loadU32_splice (region : Bytes) (off : Nat) (value : UInt32)
    (inside : off + 4 ≤ region.length) :
    loadU32 (splice region off (leBytes 4 value.toNat)) off = value := by
  have read := slice_splice_self region (leBytes 4 value.toNat) off (by omega)
  rw [length_leBytes] at read
  rw [loadU32, read, u32_leBytes]

theorem loadU64_splice (region : Bytes) (off : Nat) (value : UInt64)
    (inside : off + 8 ≤ region.length) :
    loadU64 (splice region off (leBytes 8 value.toNat)) off = value := by
  have read := slice_splice_self region (leBytes 8 value.toNat) off (by omega)
  rw [length_leBytes] at read
  rw [loadU64, read, u64_leBytes]

/-! ### Contexts -/

/-- Sending leaves the areas and the counter of what was received. -/
theorem Context.afterSend_eq (self : Context) : self.afterSend.sendArea = self.sendArea ∧
    self.afterSend.receiveArea = self.receiveArea ∧
    self.afterSend.receivedSeq = self.receivedSeq := by
  cases self with
  | mk role => cases role <;> exact ⟨rfl, rfl, rfl⟩

/-- Receiving moves the counter of what was received to what was expected. -/
theorem Context.afterReceive_eq (self : Context) : self.afterReceive.sendArea = self.sendArea ∧
    self.afterReceive.receiveArea = self.receiveArea ∧
    self.afterReceive.receivedSeq = self.expectedSeq := by
  cases self with
  | mk role => cases role <;> exact ⟨rfl, rfl, rfl⟩

/-! ### The account of a channel -/

theorem append_singleton_ne (received : List Bytes) (msg : Bytes) :
    received ++ [msg] ≠ received := by
  simp

theorem ofNat_length_append (sent : List Bytes) (msg : Bytes) :
    UInt64.ofNat (sent ++ [msg]).length = UInt64.ofNat sent.length + 1 := by
  rw [List.length_append, List.length_singleton, UInt64.ofNat_add]
  rfl

/-- A message the receiver can take. -/
def Sized (limit : Nat) (msg : Bytes) : Prop := 0 < msg.length ∧ msg.length ≤ limit

/-- The area holds a message. -/
def Holds (area : Area) (region msg : Bytes) : Prop :=
  loadU32 region area.lenOff = UInt32.ofNat msg.length ∧
    slice region area.offset msg.length = msg

/-- What is written when the sender is at a point. -/
def Written (limit : Nat) (area : Area) (region : Bytes) : Point → Prop
  | .copyIn msg => Sized limit msg
  | .storeLen msg => Sized limit msg ∧ slice region area.offset msg.length = msg
  | .addSeq msg => Sized limit msg ∧ Holds area region msg
  | .failed _ => False
  | .addSignal | .loadSeq | .loadLen | .copyOut _ => True

/-- What a receiver at a point knows, as long as its counter has not come round. -/
def Known (limit : Nat) (sent received : List Bytes) : Point → Prop
  | .loadLen => received.length + 1 < 2 ^ 64 → sent ≠ received
  | .copyOut mlen => 0 < mlen ∧ mlen ≤ limit ∧
    (received.length + 1 < 2 ^ 64 → ∃ msg, sent = received ++ [msg] ∧ mlen = msg.length)
  | .copyIn _ | .storeLen _ | .addSeq _ | .addSignal | .loadSeq | .failed _ => True

/-- The account both ends keep of a channel: there is at most one message on the way, and it is in
the area. -/
structure Channel (limit : Nat) (area : Area) (region : Bytes) (sender receiver : Party) :
    Prop where
  seq : loadU64 region area.seqOff = UInt64.ofNat sender.sent.length
  position : receiver.context.receivedSeq = UInt64.ofNat receiver.received.length
  pending : sender.sent = receiver.received ∨ ∃ msg, sender.sent = receiver.received ++ [msg] ∧
    Holds area region msg ∧ msg.length ≤ limit
  stored : sender.sent ≠ [] → 0 < (loadU32 region area.lenOff).toNat ∧
    (loadU32 region area.lenOff).toNat ≤ limit
  written : Written limit area region sender.point
  known : Known limit sender.sent receiver.received receiver.point

section Channel

variable {limit : Nat} {area : Area} {region region' : Bytes} {sender receiver : Party}

theorem Holds.of_agree {msg : Bytes} (held : Holds area region msg)
    (short : msg.length ≤ area.capacity) (data : Agree region region' (area.cell .data))
    (len : Agree region region' (area.cell .len)) : Holds area region' msg :=
  ⟨(loadU32_eq_of_agree len).trans held.1, (data _ short).trans held.2⟩

section Channel

variable (channel : Channel limit area region sender receiver)

include channel

/-- Writing elsewhere does not change the account. -/
theorem Channel.of_agree (fits : limit ≤ area.capacity)
    (data : Agree region region' (area.cell .data))
    (seq : Agree region region' (area.cell .seq)) (len : Agree region region' (area.cell .len)) :
    Channel limit area region' sender receiver where
  seq := (loadU64_eq_of_agree seq).trans channel.seq
  position := channel.position
  pending := channel.pending.imp_right fun ⟨msg, sent, held, short⟩ =>
    ⟨msg, sent, held.of_agree (short.trans fits) data len, short⟩
  stored := by
    rw [loadU32_eq_of_agree len]
    exact channel.stored
  written := by
    have written := channel.written
    cases point : sender.point with
    | copyIn msg => rwa [point] at written
    | storeLen msg =>
      rw [point] at written
      exact ⟨written.1, (data _ (written.1.2.trans fits)).trans written.2⟩
    | addSeq msg =>
      rw [point] at written
      exact ⟨written.1, written.2.of_agree (written.1.2.trans fits) data len⟩
    | failed error => rwa [point] at written
    | addSignal => trivial
    | loadSeq => trivial
    | loadLen => trivial
    | copyOut mlen => trivial
  known := channel.known

theorem Channel.length_bounds :
    receiver.received.length ≤ sender.sent.length ∧
      sender.sent.length ≤ receiver.received.length + 1 := by
  rcases channel.pending with same | ⟨msg, sent, -⟩
  · rw [same]
    exact ⟨Nat.le_refl _, Nat.le_succ _⟩
  · rw [sent, List.length_append, List.length_singleton]
    exact ⟨Nat.le_succ _, Nat.le_refl _⟩

theorem Channel.eq_of_length (same : sender.sent.length = receiver.received.length) :
    sender.sent = receiver.received := by
  rcases channel.pending with equal | ⟨msg, sent, -⟩
  · exact equal
  · rw [sent, List.length_append, List.length_singleton] at same
    omega

/-- What was received is the beginning of what was sent. -/
theorem Channel.isPrefixOf :
    receiver.received <+: sender.sent := by
  rcases channel.pending with same | ⟨msg, sent, -⟩
  · rw [same]
  · rw [sent]
    exact List.prefix_append _ _

end Channel

end Channel

/-! ### Turns -/

/-- The end is writing into its area. -/
def Point.Writes : Point → Prop
  | .copyIn _ | .storeLen _ | .addSeq _ => True
  | .addSignal | .loadSeq | .loadLen | .copyOut _ | .failed _ => False

/-- The client (`lead = 0`) sends first, the server (`lead = 1`) receives first; apart from that an
end sends after every receive. -/
structure Turn (lead : Nat) (party : Party) : Prop where
  writes : party.point.Writes → party.sent.length + lead = party.received.length
  waits : ¬ party.point.Writes → party.sent.length + lead = party.received.length + 1

/-- One end of a region and its peer. -/
structure Linked (lead : Nat) (sendLimit receiveLimit : Nat) (out inward : Area) (region : Bytes)
    (party peer : Party) : Prop where
  ownSend : party.context.sendArea = out
  ownReceive : party.context.receiveArea = inward
  peerSend : peer.context.sendArea = inward
  peerReceive : peer.context.receiveArea = out
  wired : Wired out inward region.length
  outSmall : sendLimit ≤ out.capacity ∧ out.capacity < 2 ^ 32
  inwardSmall : receiveLimit ≤ inward.capacity ∧ inward.capacity < 2 ^ 32
  sending : Channel sendLimit out region party peer
  receiving : Channel receiveLimit inward region peer party
  ownTurn : Turn lead party
  peerTurn : Turn (1 - lead) peer
  leads : lead ≤ 1

theorem Linked.symm {lead sendLimit receiveLimit : Nat} {out inward : Area} {party peer : Party}
    (linked : Linked lead sendLimit receiveLimit out inward region party peer) :
    Linked (1 - lead) receiveLimit sendLimit inward out region peer party where
  ownSend := linked.peerSend
  ownReceive := linked.peerReceive
  peerSend := linked.ownSend
  peerReceive := linked.ownReceive
  wired := linked.wired.symm
  outSmall := linked.inwardSmall
  inwardSmall := linked.outSmall
  sending := linked.receiving
  receiving := linked.sending
  ownTurn := linked.peerTurn
  peerTurn := by
    rw [Nat.sub_sub_self linked.leads]
    exact linked.ownTurn
  leads := Nat.sub_le _ _

section Step

variable {lead sendLimit receiveLimit : Nat} {out inward : Area} {region : Bytes}
  {party peer : Party} (linked : Linked lead sendLimit receiveLimit out inward region party peer)

include linked

/-- An end writes only when the other has taken everything. -/
theorem Linked.sent_eq_of_writes (writes : party.point.Writes) : party.sent = peer.received := by
  have mine := linked.ownTurn.writes writes
  have sending := linked.sending.length_bounds
  have receiving := linked.receiving.length_bounds
  have leads := linked.leads
  refine linked.sending.eq_of_length ?_
  by_cases peerWrites : peer.point.Writes
  · have theirs := linked.peerTurn.writes peerWrites
    omega
  · have theirs := linked.peerTurn.waits peerWrites
    omega

/-- Writing a cell of the own area leaves the other channel alone. -/
theorem Linked.receiving_of_splice (cell : Cell) (src : Bytes)
    (short : src.length ≤ (out.cell cell).2) :
    Channel receiveLimit inward (splice region (out.cell cell).1 src) peer party :=
  linked.receiving.of_agree linked.inwardSmall.1
    (agree_splice (linked.wired.firstInside cell) short (linked.wired.cross cell .data))
    (agree_splice (linked.wired.firstInside cell) short (linked.wired.cross cell .seq))
    (agree_splice (linked.wired.firstInside cell) short (linked.wired.cross cell .len))

/-- Writing a cell of the own area leaves its other cells alone. -/
theorem Linked.agree_own {cell other : Cell} (different : cell ≠ other) {src : Bytes}
    (short : src.length ≤ (out.cell cell).2) :
    Agree region (splice region (out.cell cell).1 src) (out.cell other) :=
  agree_splice (linked.wired.firstInside cell) short (linked.wired.firstOwn cell other different)

theorem Linked.wired_splice (cell : Cell) {src : Bytes} (short : src.length ≤ (out.cell cell).2) :
    Wired out inward (splice region (out.cell cell).1 src).length := by
  have inside := linked.wired.firstInside cell
  rw [length_splice _ _ _ (by omega)]
  exact linked.wired

/-- What has to be shown of a step of one end. -/
theorem Linked.after {party' : Party} {region' : Bytes}
    (send : party'.context.sendArea = party.context.sendArea)
    (receive : party'.context.receiveArea = party.context.receiveArea)
    (wired : Wired out inward region'.length) (sending : Channel sendLimit out region' party' peer)
    (receiving : Channel receiveLimit inward region' peer party') (turn : Turn lead party') :
    Linked lead sendLimit receiveLimit out inward region' party' peer where
  ownSend := send.trans linked.ownSend
  ownReceive := receive.trans linked.ownReceive
  peerSend := linked.peerSend
  peerReceive := linked.peerReceive
  wired := wired
  outSmall := linked.outSmall
  inwardSmall := linked.inwardSmall
  sending := sending
  receiving := receiving
  ownTurn := turn
  peerTurn := linked.peerTurn
  leads := linked.leads

variable {msg : Bytes}

theorem Linked.copyIn (here : party.point = .copyIn msg) :
    Linked lead sendLimit receiveLimit out inward (Shm.copyIn out msg region)
      { party with point := .storeLen msg } peer := by
  have sized := linked.sending.written
  rw [here] at sized
  have short : msg.length ≤ (out.cell .data).2 := sized.2.trans linked.outSmall.1
  have inside := linked.wired.firstInside .data
  have writes : party.point.Writes := here ▸ trivial
  have others := linked.receiving_of_splice .data msg short
  have seq := linked.agree_own (show Cell.data ≠ .seq by decide) short
  have len := linked.agree_own (show Cell.data ≠ .len by decide) short
  refine linked.after rfl rfl (linked.wired_splice .data short) ⟨?_, linked.sending.position,
    Or.inl (linked.sent_eq_of_writes writes), ?_, ⟨sized, ?_⟩, linked.sending.known⟩
    { others with known := trivial }
    ⟨fun _ => linked.ownTurn.writes writes, fun waits => absurd trivial waits⟩
  · exact (loadU64_eq_of_agree seq).trans linked.sending.seq
  · rw [show loadU32 (Shm.copyIn out msg region) out.lenOff = _ from loadU32_eq_of_agree len]
    exact linked.sending.stored
  · exact slice_splice_self region msg out.offset (le_trans (Nat.le_add_right _ _) inside)

theorem toNat_length (short : msg.length ≤ sendLimit) :
    (UInt32.ofNat msg.length).toNat = msg.length :=
  UInt32.toNat_ofNat_of_lt' (by
    have small := linked.outSmall
    rw [UInt32.size]
    omega)

theorem Linked.storeLen (here : party.point = .storeLen msg) :
    Linked lead sendLimit receiveLimit out inward (Shm.storeLen out msg region)
      { party with point := .addSeq msg } peer := by
  have written := linked.sending.written
  rw [here] at written
  obtain ⟨sized, data⟩ := written
  have length := toNat_length linked sized.2
  have short : (leBytes 4 (UInt32.ofNat msg.length).toNat).length ≤ (out.cell .len).2 := by
    rw [length_leBytes]
    exact Nat.le_refl 4
  have writes : party.point.Writes := here ▸ trivial
  have others := linked.receiving_of_splice .len _ short
  have seq := linked.agree_own (show Cell.len ≠ .seq by decide) short
  have kept := linked.agree_own (show Cell.len ≠ .data by decide) short
  have stored : loadU32 (Shm.storeLen out msg region) out.lenOff = UInt32.ofNat msg.length :=
    loadU32_splice region out.lenOff _ (linked.wired.firstInside .len)
  refine linked.after rfl rfl (linked.wired_splice .len short) ⟨?_, linked.sending.position,
    Or.inl (linked.sent_eq_of_writes writes), ?_, ⟨sized, stored, ?_⟩, linked.sending.known⟩
    { others with known := trivial }
    ⟨fun _ => linked.ownTurn.writes writes, fun waits => absurd trivial waits⟩
  · exact (loadU64_eq_of_agree seq).trans linked.sending.seq
  · rw [stored, length]
    exact fun _ => sized
  · exact (kept _ (sized.2.trans linked.outSmall.1)).trans data

theorem Linked.addSeq (here : party.point = .addSeq msg) :
    Linked lead sendLimit receiveLimit out inward (Shm.addSeq out region)
      { party with point := .addSignal, sent := party.sent ++ [msg] } peer := by
  have written := linked.sending.written
  rw [here] at written
  obtain ⟨sized, held⟩ := written
  have short : (leBytes 8 (loadU64 region out.seqOff + 1).toNat).length ≤ (out.cell .seq).2 := by
    rw [length_leBytes]
    exact Nat.le_refl 8
  have writes : party.point.Writes := here ▸ trivial
  have taken := linked.sent_eq_of_writes writes
  have others := linked.receiving_of_splice .seq _ short
  have held : Holds out (Shm.addSeq out region) msg :=
    held.of_agree (sized.2.trans linked.outSmall.1)
      (linked.agree_own (show Cell.seq ≠ .data by decide) short)
      (linked.agree_own (show Cell.seq ≠ .len by decide) short)
  have sum := linked.ownTurn.writes writes
  refine linked.after rfl rfl (linked.wired_splice .seq short) ⟨?_, linked.sending.position,
    Or.inr ⟨msg, ?_, held, sized.2⟩, ?_, trivial, ?_⟩
    { others with known := trivial }
    ⟨fun impossible => absurd impossible id, fun _ => ?_⟩
  · rw [ofNat_length_append, ← linked.sending.seq]
    exact loadU64_splice region out.seqOff _ (linked.wired.firstInside .seq)
  · show party.sent ++ [msg] = _
    rw [taken]
  · rw [held.1, toNat_length linked sized.2]
    exact fun _ => sized
  · show Known sendLimit (party.sent ++ [msg]) peer.received peer.point
    have known := linked.sending.known
    rw [taken] at known ⊢
    cases point : peer.point with
    | loadLen => exact fun _ => append_singleton_ne _ _
    | copyOut mlen =>
      rw [point] at known
      refine ⟨known.1, known.2.1, fun below => ?_⟩
      obtain ⟨other, impossible, -⟩ := known.2.2 below
      exact absurd impossible.symm (append_singleton_ne _ _)
    | copyIn _ | storeLen _ | addSeq _ | addSignal | loadSeq | failed _ => trivial
  · show (party.sent ++ [msg]).length + lead = party.received.length + 1
    rw [List.length_append, List.length_singleton]
    omega

theorem Linked.addSignal (here : party.point = .addSignal) :
    Linked lead sendLimit receiveLimit out inward (Shm.addSignal out region)
      { party with point := .loadSeq, context := party.context.afterSend } peer := by
  have short : (leBytes 4 (loadU32 region out.sigOff + 1).toNat).length ≤ (out.cell .sig).2 := by
    rw [length_leBytes]
    exact Nat.le_refl 4
  have waits : ¬ party.point.Writes := here ▸ id
  have others := linked.receiving_of_splice .sig _ short
  have own := linked.sending.of_agree linked.outSmall.1
    (linked.agree_own (show Cell.sig ≠ .data by decide) short)
    (linked.agree_own (show Cell.sig ≠ .seq by decide) short)
    (linked.agree_own (show Cell.sig ≠ .len by decide) short)
  obtain ⟨send, receive, seq⟩ := party.context.afterSend_eq
  exact linked.after send receive (linked.wired_splice .sig short)
    { own with written := trivial }
    { others with position := seq.trans others.position, known := trivial }
    ⟨fun impossible => absurd impossible id, fun _ => linked.ownTurn.waits waits⟩

/-- The counter has passed what was received only if there is a message. -/
theorem Linked.sent_ne_of_le (below : party.received.length + 1 < 2 ^ 64)
    (passed : loadU64 region inward.seqOff ≥ party.context.expectedSeq) :
    peer.sent ≠ party.received := by
  intro same
  rw [linked.receiving.seq, Context.expectedSeq, linked.receiving.position, same,
    ge_iff_le, UInt64.le_iff_toNat_le, UInt64.toNat_add,
    UInt64.toNat_ofNat_of_lt' (by rw [UInt64.size]; omega)] at passed
  have one : (1 : UInt64).toNat = 1 := rfl
  rw [one, Nat.mod_eq_of_lt below] at passed
  omega

theorem Linked.loadSeq (here : party.point = .loadSeq) :
    Linked lead sendLimit receiveLimit out inward region
      { party with
        point := if loadU64 region party.context.receiveArea.seqOff ≥ party.context.expectedSeq
          then .loadLen else .loadSeq } peer := by
  have waits : ¬ party.point.Writes := here ▸ id
  have sending := linked.sending
  have receiving := linked.receiving
  split
  · rename_i passed
    rw [linked.ownReceive] at passed
    exact linked.after rfl rfl linked.wired
      { sending with written := trivial }
      { receiving with known := fun below => linked.sent_ne_of_le below passed }
      ⟨fun impossible => absurd impossible id, fun _ => linked.ownTurn.waits waits⟩
  · exact linked.after rfl rfl linked.wired
      { sending with written := trivial }
      { receiving with known := trivial }
      ⟨fun impossible => absurd impossible id, fun _ => linked.ownTurn.waits waits⟩

/-- An end that reads the length has something to read, even if its counter has come round. -/
theorem Linked.sent_ne_nil (here : party.point = .loadLen) : peer.sent ≠ [] := by
  have known := linked.receiving.known
  rw [here] at known
  have bounds := linked.receiving.length_bounds
  intro none
  rw [none, List.length_nil] at bounds
  have empty : party.received = [] := List.eq_nil_of_length_eq_zero (by omega)
  rw [none, empty] at known
  exact known (by decide) rfl

theorem Linked.loadLen (here : party.point = .loadLen) :
    Linked lead sendLimit receiveLimit out inward region
      { party with
        point := .copyOut (loadU32 region party.context.receiveArea.lenOff).toNat } peer := by
  have waits : ¬ party.point.Writes := here ▸ id
  have sending := linked.sending
  have receiving := linked.receiving
  have known := receiving.known
  rw [here] at known
  rw [linked.ownReceive]
  have bounds := receiving.stored (linked.sent_ne_nil here)
  refine linked.after rfl rfl linked.wired
    { sending with written := trivial }
    { receiving with known := ⟨bounds.1, bounds.2, fun below => ?_⟩ }
    ⟨fun impossible => absurd impossible id, fun _ => linked.ownTurn.waits waits⟩
  rcases receiving.pending with same | ⟨msg, sent, held, short⟩
  · exact absurd same (known below)
  · refine ⟨msg, sent, ?_⟩
    rw [held.1]
    exact toNat_length linked.symm short

/-- The last access takes the message that is on the way. -/
theorem Linked.copyOut {mlen : Nat} (here : party.point = .copyOut mlen) {next : List Bytes → Bytes}
    {bufLen : Nat} (buffer : receiveLimit ≤ bufLen)
    (sized : ∀ history, Sized sendLimit (next history))
    (below : (party.endReceive next bufLen mlen region).received.length < 2 ^ 64) :
    Linked lead sendLimit receiveLimit out inward region
      (party.endReceive next bufLen mlen region) peer := by
  have waits : ¬ party.point.Writes := here ▸ id
  have sending := linked.sending
  have receiving := linked.receiving
  have known := receiving.known
  rw [here] at known
  obtain ⟨some, short, message⟩ := known
  obtain ⟨send, receive, seq⟩ := party.context.afterReceive_eq
  have room : ¬ mlen > min bufLen party.context.receiveArea.capacity := by
    rw [linked.ownReceive]
    have capacity := linked.inwardSmall.1
    omega
  have fits := (sized (party.received ++ [slice region inward.offset mlen])).2.trans
    linked.outSmall.1
  have ended : party.endReceive next bufLen mlen region =
      { party with
        context := party.context.afterReceive
        received := party.received ++ [slice region inward.offset mlen]
        point := .copyIn (next (party.received ++ [slice region inward.offset mlen])) } := by
    simp only [Party.endReceive]
    rw [if_neg (by omega), if_neg room, linked.ownReceive]
    simp only [Party.beginSend]
    rw [send, linked.ownSend, if_neg (Nat.ne_of_gt (sized _).1), if_neg (Nat.not_lt.mpr fits)]
  rw [ended] at below ⊢
  rw [List.length_append, List.length_singleton] at below
  obtain ⟨msg, sent, length⟩ := message below
  have received : party.received ++ [slice region inward.offset mlen] = peer.sent := by
    rcases receiving.pending with same | ⟨other, sent', held, -⟩
    · rw [same] at sent
      exact absurd sent.symm (append_singleton_ne _ _)
    · rw [sent] at sent'
      have equal := List.append_cancel_left sent'
      cases equal
      rw [length, held.2, sent]
  have sum := linked.ownTurn.waits waits
  refine linked.after send receive linked.wired { sending with written := sized _ }
    { receiving with position := ?_, pending := Or.inl received.symm, known := trivial }
    ⟨fun _ => ?_, fun waits => absurd trivial waits⟩
  · show party.context.afterReceive.receivedSeq =
      UInt64.ofNat (party.received ++ [slice region inward.offset mlen]).length
    rw [seq, Context.expectedSeq, receiving.position, ofNat_length_append]
  · show party.sent.length + lead =
      (party.received ++ [slice region inward.offset mlen]).length
    rw [List.length_append, List.length_singleton]
    exact sum

/-- One step of an end keeps the account. -/
theorem Linked.step {next : List Bytes → Bytes} {bufLen : Nat} (buffer : receiveLimit ≤ bufLen)
    (sized : ∀ history, Sized sendLimit (next history))
    (below : (party.step next bufLen region).1.received.length < 2 ^ 64) :
    Linked lead sendLimit receiveLimit out inward (party.step next bufLen region).2
      (party.step next bufLen region).1 peer := by
  have written := linked.sending.written
  cases here : party.point with
  | copyIn msg =>
    simp only [Party.step, here, linked.ownSend]
    exact linked.copyIn here
  | storeLen msg =>
    simp only [Party.step, here, linked.ownSend]
    exact linked.storeLen here
  | addSeq msg =>
    simp only [Party.step, here, linked.ownSend]
    exact linked.addSeq here
  | addSignal =>
    simp only [Party.step, here, linked.ownSend]
    exact linked.addSignal here
  | loadSeq =>
    simp only [Party.step, here]
    exact linked.loadSeq here
  | loadLen =>
    simp only [Party.step, here]
    exact linked.loadLen here
  | copyOut mlen =>
    simp only [Party.step, here] at below ⊢
    exact linked.copyOut here buffer sized below
  | failed error =>
    rw [here] at written
    exact absurd written id

end Step

/-! ### Runs -/

theorem Party.length_received_step (next : List Bytes → Bytes) (bufLen : Nat) (self : Party)
    (region : Bytes) :
    self.received.length ≤ (self.step next bufLen region).1.received.length := by
  cases here : self.point with
  | copyOut mlen =>
    simp only [Party.step, here, Party.endReceive]
    split
    · exact Nat.le_refl _
    split
    · exact Nat.le_refl _
    · show _ ≤ (self.received ++ [_]).length
      rw [List.length_append]
      exact Nat.le_add_right _ _
  | copyIn _ | storeLen _ | addSeq _ | addSignal | loadSeq | loadLen | failed _ =>
    simp only [Party.step, here]
    exact Nat.le_refl _

/-- How long the messages for an end may be. -/
def messageLimit (behave : Role → Behaviour) (receiver : Role) (area : Area) : Nat :=
  min (behave receiver).bufLen area.capacity

/-- The account of both ends. -/
def Accounted (behave : Role → Behaviour) (request response : Area) (pair : Pair) : Prop :=
  Linked 0 (messageLimit behave .server request) (messageLimit behave .client response) request
    response pair.region pair.client pair.server

/-- The messages of both ends fit the areas and the buffers. -/
structure Suitable (behave : Role → Behaviour) (request response : Area) : Prop where
  requests : ∀ history, Sized (messageLimit behave .server request) ((behave .client).next history)
  responses : ∀ history,
    Sized (messageLimit behave .client response) ((behave .server).next history)

/-- Neither end has received so much that its counter has come round. -/
def Pair.Below (pair : Pair) : Prop :=
  pair.client.received.length < 2 ^ 64 ∧ pair.server.received.length < 2 ^ 64

section Runs

variable {behave : Role → Behaviour} {request response : Area} {pair : Pair}

theorem Pair.below_of_step {turn : Role} (below : (pair.step behave turn).Below) : pair.Below := by
  cases turn with
  | client => exact ⟨lt_of_le_of_lt (Party.length_received_step _ _ _ _) below.1, below.2⟩
  | server => exact ⟨below.1, lt_of_le_of_lt (Party.length_received_step _ _ _ _) below.2⟩

theorem Accounted.step (suitable : Suitable behave request response)
    (accounted : Accounted behave request response pair) {turn : Role}
    (below : (pair.step behave turn).Below) :
    Accounted behave request response (pair.step behave turn) := by
  cases turn with
  | client =>
    exact Linked.step accounted (Nat.min_le_left _ _) suitable.requests below.1
  | server =>
    exact (Linked.step accounted.symm (Nat.min_le_left _ _) suitable.responses below.2).symm

/-- Every run keeps the account until a counter comes round. -/
theorem Accounted.run (suitable : Suitable behave request response)
    (accounted : Accounted behave request response pair) (schedule : List Role)
    (below : (pair.run behave schedule).Below) :
    Accounted behave request response (pair.run behave schedule) := by
  induction schedule using List.reverseRecOn with
  | nil => exact accounted
  | append_singleton schedule turn ih =>
    rw [Pair.run, List.foldl_append] at below ⊢
    exact Accounted.step suitable (ih (Pair.below_of_step below)) below

end Runs

/-! ### A fresh region -/

theorem loadU64_zeros (before rest : Bytes) (count off : Nat) (start : before.length ≤ off)
    (stop : off + 8 ≤ before.length + count) :
    loadU64 (before ++ (zeros count ++ rest)) off = 0 := by
  have read : slice (before ++ (zeros count ++ rest)) off 8 = zeros 8 := by
    rw [slice_append_right _ _ _ _ start, slice_append_left _ _ _ _ (by rw [length_zeros]; omega),
      slice, zeros, List.drop_replicate, List.take_replicate, Nat.min_eq_left (by omega)]
    rfl
  rw [loadU64, read]
  decide

/-- The counters of a fresh region are zero. -/
theorem loadU64_image (hdr : RegionHeader) (rest : Bytes) {off : Nat} (start : 32 ≤ off)
    (stop : off + 8 ≤ 64) : loadU64 (hdr.image ++ rest) off = 0 := by
  rw [RegionHeader.image, List.append_assoc]
  refine loadU64_zeros _ _ _ _ ?_ ?_
  · simp
    omega
  · simp
    omega

/-- The contexts of the two ends of a fresh region. -/
structure Fresh (server client : Context) (region : Bytes) : Prop where
  serverRole : server.role = .server
  clientRole : client.role = .client
  same : SameAreas client server
  reqSeq : loadU64 region offReqSeq = 0
  respSeq : loadU64 region offRespSeq = 0
  serverSeq : server.localReqSeq = 0
  clientSeq : client.localRespSeq = 0
  header : 64 ≤ server.requestOffset.toNat
  disjoint : server.requestOffset.toNat + server.requestCapacity.toNat ≤
    server.responseOffset.toNat
  inside : server.responseOffset.toNat + server.responseCapacity.toNat ≤ region.length

variable {client server : Context}

theorem clientAttach_eq_ok (attached : clientAttach region = .ok client) :
    client = attachedContext region (RegionHeader.read region) := by
  iterate 7 obtain ⟨_, -, attached⟩ := bind_eq_ok attached
  exact (Except.ok.inj attached).symm

theorem fresh_of_serverCreate {answers : CreateAnswers} {reqCapacity respCapacity : UInt32}
    (created : serverCreate answers reqCapacity respCapacity = .ok (server, region))
    (attached : clientAttach region = .ok client) : Fresh server client region := by
  obtain ⟨sizes, computed, reqOff, reqCap, respOff, respCap, size, fields⟩ :=
    serverCreate_eq_ok created
  obtain ⟨atReqOff, atReqCap, atRespOff, atRespCap, atEnd⟩ := layout_eq_ok computed
  have client := clientAttach_eq_ok attached
  iterate 3 obtain ⟨_, -, created⟩ := bind_eq_ok created
  cases created
  subst client
  refine ⟨rfl, rfl, ?_, loadU64_image _ _ (by decide) (by decide),
    loadU64_image _ _ (by decide) (by decide), rfl, loadU64_image _ _ (by decide) (by decide),
    ?_, ?_, ?_⟩
  · rw [fields]
    exact ⟨reqOff.symm, reqCap.symm, respOff.symm, respCap.symm⟩
  · rw [reqOff]
    omega
  · rw [reqOff, reqCap, respOff]
    omega
  · rw [respOff, respCap, size]
    omega

/-- The cells of the two areas of a region. -/
theorem wired_of_fresh (fresh : Fresh server client region) :
    Wired server.requestArea server.responseArea region.length := by
  obtain ⟨-, -, -, -, -, -, -, header, disjoint, inside⟩ := fresh
  refine ⟨?_, ?_, ?_, ?_, ?_⟩
  · rintro (_ | _ | _ | _) <;>
      simp only [Area.cell, Context.requestArea, offReqSeq, offReqLen, offReqSignal] <;> omega
  · rintro (_ | _ | _ | _) <;>
      simp only [Area.cell, Context.responseArea, offRespSeq, offRespLen, offRespSignal] <;> omega
  all_goals
    rintro (_ | _ | _ | _) (_ | _ | _ | _)
    all_goals
      simp only [ne_eq, not_true_eq_false, reduceCtorEq, not_false_eq_true, forall_const,
        IsEmpty.forall_iff, Apart, Area.cell, Context.requestArea, Context.responseArea, offReqSeq,
        offReqLen, offReqSignal, offRespSeq, offRespLen, offRespSignal]
    all_goals omega

theorem SameAreas.areas {first second : Context} (same : SameAreas first second) :
    first.requestArea = second.requestArea ∧ first.responseArea = second.responseArea := by
  simp only [Context.requestArea, Context.responseArea, same.requestOffset, same.requestCapacity,
    same.responseOffset, same.responseCapacity, and_self]

theorem beginSend_of_sized {behave : Role → Behaviour} {request response : Area}
    (suitable : Suitable behave request response) {party : Party}
    (area : party.context.sendArea = request) :
    party.beginSend (behave .client).next =
      { party with point := .copyIn ((behave .client).next party.received) } := by
  obtain ⟨some, short⟩ := suitable.requests party.received
  simp only [Party.beginSend]
  rw [if_neg (Nat.ne_of_gt some), if_neg (by
    rw [area]
    exact Nat.not_lt.mpr (short.trans (Nat.min_le_right _ _)))]

/-- The account holds at the start. -/
theorem accounted_start {behave : Role → Behaviour} (fresh : Fresh server client region)
    (suitable : Suitable behave server.requestArea server.responseArea) :
    Accounted behave server.requestArea server.responseArea
      (Pair.start behave server client region) := by
  obtain ⟨request, response⟩ := fresh.same.areas
  have clientSend : client.sendArea = server.requestArea := by
    rw [Context.sendArea, fresh.clientRole]
    exact request
  have clientReceive : client.receiveArea = server.responseArea := by
    rw [Context.receiveArea, fresh.clientRole]
    exact response
  have serverSend : server.sendArea = server.responseArea := by
    rw [Context.sendArea, fresh.serverRole]
  have serverReceive : server.receiveArea = server.requestArea := by
    rw [Context.receiveArea, fresh.serverRole]
  have serverSeq : server.receivedSeq = 0 := by
    rw [Context.receivedSeq, fresh.serverRole]
    exact fresh.serverSeq
  have clientSeq : client.receivedSeq = 0 := by
    rw [Context.receivedSeq, fresh.clientRole]
    exact fresh.clientSeq
  rw [Accounted, Pair.start, beginSend_of_sized suitable clientSend]
  exact {
    ownSend := clientSend
    ownReceive := clientReceive
    peerSend := serverSend
    peerReceive := serverReceive
    wired := wired_of_fresh fresh
    outSmall := ⟨Nat.min_le_right _ _, server.requestCapacity.toNat_lt⟩
    inwardSmall := ⟨Nat.min_le_right _ _, server.responseCapacity.toNat_lt⟩
    sending := ⟨fresh.reqSeq, serverSeq, Or.inl rfl, fun some => absurd rfl some,
      suitable.requests _, trivial⟩
    receiving := ⟨fresh.respSeq, clientSeq, Or.inl rfl, fun some => absurd rfl some, trivial,
      trivial⟩
    ownTurn := ⟨fun _ => rfl, fun waits => absurd trivial waits⟩
    peerTurn := ⟨fun impossible => absurd impossible id, fun _ => rfl⟩
    leads := Nat.zero_le _ }

/-! ### Delivery -/

/-- Both ends have received what the other sent, in order and up to the message that is on its way,
and no call has failed. -/
structure Delivered (pair : Pair) : Prop where
  requests : pair.server.received <+: pair.client.sent
  responses : pair.client.received <+: pair.server.sent
  requestsTaken : pair.client.sent.length ≤ pair.server.received.length + 1
  responsesTaken : pair.server.sent.length ≤ pair.client.received.length + 1
  client : ∀ error, pair.client.point ≠ .failed error
  server : ∀ error, pair.server.point ≠ .failed error

theorem Channel.not_failed {limit : Nat} {area : Area} {sender receiver : Party}
    (channel : Channel limit area region sender receiver) (error : Error) :
    sender.point ≠ .failed error := by
  intro failed
  have written := channel.written
  rwa [failed] at written

/-- In every interleaving of the two ends of a fresh region the messages of each are received by the
other in order, once and unchanged, until one of them has received `2 ^ 64` messages. -/
theorem run_delivered {answers : CreateAnswers} {reqCapacity respCapacity : UInt32}
    {server client : Context} {region : Bytes}
    (created : serverCreate answers reqCapacity respCapacity = .ok (server, region))
    (attached : clientAttach region = .ok client) (behave : Role → Behaviour)
    (suitable : Suitable behave server.requestArea server.responseArea) (schedule : List Role)
    (below : ((Pair.start behave server client region).run behave schedule).Below) :
    Delivered ((Pair.start behave server client region).run behave schedule) := by
  have fresh := fresh_of_serverCreate created attached
  have accounted := Accounted.run suitable (accounted_start fresh suitable) schedule below
  exact ⟨accounted.sending.isPrefixOf, accounted.receiving.isPrefixOf,
    accounted.sending.length_bounds.2, accounted.receiving.length_bounds.2,
    accounted.sending.not_failed, accounted.receiving.not_failed⟩

end NetIpc.Shm
