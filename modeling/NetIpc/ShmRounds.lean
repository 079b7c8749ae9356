/-
This file follows the two ends of a region through whole exchanges, up to the point
where the counters come round.

In one exchange the client sends, the server receives and answers, and the client
receives. After `2 ^ 64 - 1` exchanges the server expects counter zero, which every
counter has passed: it takes the last request a second time before the client has sent
another one.
-/

import NetIpc.ShmExchange

namespace NetIpc.Shm

/-! ### Sending and receiving without interruption -/

/-- Some steps of one end in a row. -/
def Party.steps (behaviour : Behaviour) : Nat → Party × Bytes → Party × Bytes
  | 0, state => state
  | count + 1, state => Party.steps behaviour count
      (state.1.step behaviour.next behaviour.bufLen state.2)

/-- Steps of one end in a row, in a pair whose other end is left alone. -/
theorem run_replicate {behave : Role → Behaviour} {turn : Role} (place : Party × Bytes → Pair)
    (placed : ∀ state, (place state).step behave turn =
      place (state.1.step (behave turn).next (behave turn).bufLen state.2))
    {count : Nat} {state state' : Party × Bytes}
    (stepped : Party.steps (behave turn) count state = state') :
    (place state).run behave (List.replicate count turn) = place state' := by
  induction count generalizing state with
  | zero => exact congrArg place stepped
  | succ count ih =>
    rw [List.replicate_succ, Pair.run, List.foldl_cons, placed]
    exact ih stepped

section Replicate

variable {behave : Role → Behaviour} {count : Nat} {party party' other : Party}
  {region region' : Bytes}

theorem run_replicate_client
    (stepped : Party.steps (behave .client) count (party, region) = (party', region')) :
    (Pair.mk region party other).run behave (List.replicate count .client) =
      ⟨region', party', other⟩ :=
  run_replicate (fun state => ⟨state.2, state.1, other⟩) (fun _ => rfl) stepped

theorem run_replicate_server
    (stepped : Party.steps (behave .server) count (party, region) = (party', region')) :
    (Pair.mk region other party).run behave (List.replicate count .server) =
      ⟨region', other, party'⟩ :=
  run_replicate (fun state => ⟨state.2, other, state.1⟩) (fun _ => rfl) stepped

end Replicate

theorem run_append (behave : Role → Behaviour) (pair : Pair) (first second : List Role) :
    pair.run behave (first ++ second) = (pair.run behave first).run behave second :=
  List.foldl_append

/-- The end of a receive is a failure or the beginning of the next send. -/
theorem endReceive_cases (next : List Bytes → Bytes) (bufLen mlen : Nat) (party : Party)
    (region : Bytes) :
    (∃ error, (party.endReceive next bufLen mlen region).point = .failed error) ∧
        (party.endReceive next bufLen mlen region).received.length ≤ party.received.length + 1 ∨
      (∃ msg, (party.endReceive next bufLen mlen region).point = .copyIn msg) ∧
        (party.endReceive next bufLen mlen region).sent = party.sent ∧
        (party.endReceive next bufLen mlen region).received.length =
          party.received.length + 1 := by
  simp only [Party.endReceive]
  split
  · exact Or.inl ⟨⟨_, rfl⟩, Nat.le_succ _⟩
  split
  · exact Or.inl ⟨⟨_, rfl⟩, Nat.le_succ _⟩
  simp only [Party.beginSend, List.length_append, List.length_singleton]
  split
  · exact Or.inl ⟨⟨_, rfl⟩, Nat.le_refl _⟩
  split
  · exact Or.inl ⟨⟨_, rfl⟩, Nat.le_refl _⟩
  · exact Or.inr ⟨⟨_, rfl⟩, trivial, trivial⟩

/-- The three accesses of `receive` when the counter has been passed. -/
theorem steps_receive (behaviour : Behaviour) (party : Party) (region : Bytes)
    (here : party.point = .loadSeq)
    (passed : loadU64 region party.context.receiveArea.seqOff ≥ party.context.expectedSeq) :
    Party.steps behaviour 3 (party, region) =
      (Party.endReceive behaviour.next behaviour.bufLen
        (loadU32 region party.context.receiveArea.lenOff).toNat
        { party with point := .copyOut (loadU32 region party.context.receiveArea.lenOff).toNat }
        region, region) := by
  simp only [Party.steps, Party.step, here, if_pos passed]

section Steps

variable {lead sendLimit receiveLimit : Nat} {out inward : Area} {region : Bytes}
  {party peer : Party} (linked : Linked lead sendLimit receiveLimit out inward region party peer)
  {behaviour : Behaviour} (buffer : receiveLimit ≤ behaviour.bufLen)
  (sized : ∀ history, Sized sendLimit (behaviour.next history))

theorem Party.length_received_steps (behaviour : Behaviour) (count : Nat) (state : Party × Bytes) :
    state.1.received.length ≤ (Party.steps behaviour count state).1.received.length := by
  induction count generalizing state with
  | zero => exact Nat.le_refl _
  | succ count ih =>
    exact (Party.length_received_step _ _ _ _).trans (ih _)

include linked buffer sized

theorem Linked.steps (count : Nat)
    (below : (Party.steps behaviour count (party, region)).1.received.length < 2 ^ 64) :
    Linked lead sendLimit receiveLimit out inward
      (Party.steps behaviour count (party, region)).2
      (Party.steps behaviour count (party, region)).1 peer := by
  induction count generalizing party region with
  | zero => exact linked
  | succ count ih =>
    exact ih (linked.step buffer sized
      (lt_of_le_of_lt (Party.length_received_steps _ _ _) below)) below

/-- The four accesses of `send`. -/
theorem Linked.sends {msg : Bytes} (here : party.point = .copyIn msg)
    (below : party.received.length < 2 ^ 64) :
    ∃ party' region', Party.steps behaviour 4 (party, region) = (party', region') ∧
      Linked lead sendLimit receiveLimit out inward region' party' peer ∧
      party'.point = .loadSeq ∧ party'.received.length = party.received.length ∧
      party'.sent.length = party.sent.length + 1 := by
  have linked' := linked.steps buffer sized 4
  obtain ⟨context, point, sent, received⟩ := party
  cases here
  refine ⟨_, _, rfl, linked' below, rfl, rfl, ?_⟩
  exact List.length_append

/-- The three accesses of `receive` when there is a message. -/
theorem Linked.receives (here : party.point = .loadSeq)
    (passed : loadU64 region party.context.receiveArea.seqOff ≥ party.context.expectedSeq)
    (below : party.received.length + 1 < 2 ^ 64) :
    ∃ party' region', Party.steps behaviour 3 (party, region) = (party', region') ∧
      Linked lead sendLimit receiveLimit out inward region' party' peer ∧
      (∃ msg, party'.point = .copyIn msg) ∧
      party'.received.length = party.received.length + 1 ∧
      party'.sent.length = party.sent.length := by
  have stepped := steps_receive behaviour party region here passed
  have linked' := linked.steps buffer sized 3
  rw [stepped] at linked'
  rcases endReceive_cases behaviour.next behaviour.bufLen
    (loadU32 region party.context.receiveArea.lenOff).toNat
    { party with point := .copyOut (loadU32 region party.context.receiveArea.lenOff).toNat }
    region with ⟨⟨error, failed⟩, short⟩ | ⟨begun, sent, received⟩
  · exact absurd failed ((linked' (lt_of_le_of_lt short below)).sending.not_failed error)
  · exact ⟨_, _, stepped, linked' (lt_of_le_of_lt (le_of_eq received) below), begun, received,
      congrArg List.length sent⟩

end Steps

/-! ### Exchanges -/

/-- One exchange: the client sends, the server receives and answers, the client receives. -/
def exchange : List Role :=
  List.replicate 4 .client ++ (List.replicate 3 .server ++
    (List.replicate 4 .server ++ List.replicate 3 .client))

def exchanges (count : Nat) : List Role := (List.replicate count exchange).flatten

/-- After `count` exchanges the client is about to send and the server waits. -/
structure Resting (behave : Role → Behaviour) (request response : Area) (count : Nat)
    (pair : Pair) : Prop where
  accounted : Accounted behave request response pair
  client : ∃ msg, pair.client.point = .copyIn msg
  server : pair.server.point = .loadSeq
  received : pair.client.received.length = count

section Exchanges

variable {behave : Role → Behaviour} {request response : Area} {count : Nat} {pair : Pair}

theorem Resting.lengths (resting : Resting behave request response count pair) :
    pair.client.sent.length = count ∧ pair.server.received.length = count ∧
      pair.server.sent.length = count := by
  obtain ⟨accounted, ⟨msg, client⟩, server, received⟩ := resting
  have writes : pair.client.point.Writes := by
    rw [client]
    trivial
  have waits : ¬ pair.server.point.Writes := by
    rw [server]
    exact id
  have own := accounted.ownTurn.writes writes
  have peer := accounted.peerTurn.waits waits
  have taken := congrArg List.length (accounted.sent_eq_of_writes writes)
  omega

/-- The next counter value is the one the other end reached. -/
theorem passed_of_length {lead sendLimit receiveLimit : Nat} {out inward : Area} {region : Bytes}
    {party peer : Party} (linked : Linked lead sendLimit receiveLimit out inward region party peer)
    (more : peer.sent.length = party.received.length + 1) :
    loadU64 region party.context.receiveArea.seqOff ≥ party.context.expectedSeq := by
  have next : UInt64.ofNat (party.received.length + 1) = UInt64.ofNat party.received.length + 1 :=
    UInt64.ofNat_add _ _
  rw [linked.ownReceive, linked.receiving.seq, Context.expectedSeq, linked.receiving.position, more,
    next]
  exact UInt64.le_refl _

theorem Resting.exchange (suitable : Suitable behave request response)
    (resting : Resting behave request response count pair) (below : count + 1 < 2 ^ 64) :
    Resting behave request response (count + 1) (pair.run behave exchange) := by
  obtain ⟨clientSent, serverReceived, serverSent⟩ := resting.lengths
  obtain ⟨accounted, ⟨msg, client⟩, server, received⟩ := resting
  obtain ⟨region, first, second⟩ := pair
  dsimp only at clientSent serverReceived serverSent client server received
  have linked : Linked 0 _ _ request response region first second := accounted
  have requests := suitable.requests
  have responses := suitable.responses
  have ofClient : messageLimit behave .client response ≤ (behave .client).bufLen :=
    Nat.min_le_left _ _
  have ofServer : messageLimit behave .server request ≤ (behave .server).bufLen :=
    Nat.min_le_left _ _
  rw [Shm.exchange, run_append, run_append, run_append]
  obtain ⟨first, region, stepped, linked, client, taken, sent⟩ :=
    Linked.sends linked ofClient requests client (by omega)
  rw [run_replicate_client stepped]
  obtain ⟨second, region, stepped, linked, ⟨answer, server⟩, served, replied⟩ :=
    Linked.receives linked.symm ofServer responses server
      (passed_of_length linked.symm (by omega)) (by omega)
  rw [run_replicate_server stepped]
  obtain ⟨second, region, stepped, linked, server, served, replied⟩ :=
    Linked.sends linked ofServer responses server (by omega)
  rw [run_replicate_server stepped]
  obtain ⟨first, region, stepped, linked, client, taken, sent⟩ :=
    Linked.receives linked.symm ofClient requests client
      (passed_of_length linked.symm (by omega)) (by omega)
  rw [run_replicate_client stepped]
  exact ⟨linked, client, server, by dsimp only; omega⟩

/-- Exchange after exchange, as long as the counters have not come round. -/
theorem Resting.exchanges (suitable : Suitable behave request response)
    (resting : Resting behave request response 0 pair) (below : count < 2 ^ 64) :
    Resting behave request response count (pair.run behave (exchanges count)) := by
  induction count with
  | zero => exact resting
  | succ count ih =>
    rw [Shm.exchanges, List.replicate_succ', List.flatten_append, List.flatten_singleton,
      run_append]
    exact (ih (by omega)).exchange suitable below

/-- After `2 ^ 64 - 1` exchanges the server receives without a message. -/
theorem Resting.not_delivered (resting : Resting behave request response (2 ^ 64 - 1) pair) :
    ¬ Delivered (pair.run behave (List.replicate 3 .server)) := by
  obtain ⟨clientSent, serverReceived, -⟩ := resting.lengths
  obtain ⟨accounted, -, server, -⟩ := resting
  obtain ⟨region, first, second⟩ := pair
  dsimp only at clientSent serverReceived server
  have linked : Linked 0 _ _ request response region first second := accounted
  have passed : loadU64 region second.context.receiveArea.seqOff ≥
      second.context.expectedSeq := by
    have round : second.context.expectedSeq = 0 := by
      rw [Context.expectedSeq, linked.sending.position, serverReceived]
      decide
    rw [round]
    exact UInt64.zero_le
  rw [run_replicate_server (steps_receive _ _ _ server passed)]
  intro delivered
  rcases endReceive_cases (behave .server).next (behave .server).bufLen
    (loadU32 region second.context.receiveArea.lenOff).toNat
    { second with point := .copyOut (loadU32 region second.context.receiveArea.lenOff).toNat }
    region with ⟨⟨error, failed⟩, -⟩ | ⟨-, -, received⟩
  · exact delivered.server error failed
  · have short := delivered.requests.length_le
    dsimp only at short received
    omega

end Exchanges

/-! ### A region with areas of 64 bytes -/

def smallServer : Context where
  role := .server
  regionSize := 192
  requestOffset := 64
  requestCapacity := 64
  responseOffset := 128
  responseCapacity := 64
  localReqSeq := 0
  localRespSeq := 0
  ownerGeneration := 1

def smallRegion : Bytes :=
  (⟨regionMagic, regionVersion, headerLen, 100, 1, 64, 64, 128, 64⟩ : RegionHeader).image ++
    zeros 128

def smallClient : Context := attachedContext smallRegion (RegionHeader.read smallRegion)

/-- Both ends send one byte that counts what they have received. -/
def counting (_ : Role) : Behaviour := ⟨fun history => [UInt8.ofNat history.length], 64⟩

theorem small_created : serverCreate grantingAnswers 64 64 = .ok (smallServer, smallRegion) := by
  decide +kernel

theorem small_attached : clientAttach smallRegion = .ok smallClient := by
  decide +kernel

theorem suitable_counting :
    Suitable counting smallServer.requestArea smallServer.responseArea where
  requests _ := ⟨Nat.one_pos,
    show 1 ≤ messageLimit counting .server smallServer.requestArea by decide⟩
  responses _ := ⟨Nat.one_pos,
    show 1 ≤ messageLimit counting .client smallServer.responseArea by decide⟩

/-- The two ends take turns step by step. -/
def alternating : List Role := (List.replicate 22 [.client, .server]).flatten

theorem run_delivered_alternating :
    let pair := (Pair.start counting smallServer smallClient smallRegion).run counting alternating
    (pair.server.received = [[0], [1]] ∧ pair.client.received = [[1], [2]]) ∧ Delivered pair :=
  ⟨by decide +kernel, run_delivered small_created small_attached counting suitable_counting
    alternating ⟨by decide +kernel, by decide +kernel⟩⟩

theorem resting_start :
    Resting counting smallServer.requestArea smallServer.responseArea 0
      (Pair.start counting smallServer smallClient smallRegion) where
  accounted := accounted_start (fresh_of_serverCreate small_created small_attached)
    suitable_counting
  client := ⟨[0], by decide +kernel⟩
  server := rfl
  received := rfl

/-- With 64-bit counters the messages are not delivered for ever. -/
theorem run_not_delivered :
    serverCreate grantingAnswers 64 64 = .ok (smallServer, smallRegion) ∧
      clientAttach smallRegion = .ok smallClient ∧
      Suitable counting smallServer.requestArea smallServer.responseArea ∧
      ¬ Delivered ((Pair.start counting smallServer smallClient smallRegion).run counting
        (exchanges (2 ^ 64 - 1) ++ List.replicate 3 .server)) := by
  refine ⟨small_created, small_attached, suitable_counting, ?_⟩
  rw [run_append]
  exact (resting_start.exchanges suitable_counting (by decide)).not_delivered

end NetIpc.Shm
