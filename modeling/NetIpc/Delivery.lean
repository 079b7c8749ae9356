/-
This file compares the two ways a message can arrive: as one packet on the socket,
or as one message in shared memory.

The socket checks a message before it hands it over: its length against the header,
the limits of the session and the batch directory. Neither reader of shared memory
checks more than the header itself. So the two transports hand over the same
messages exactly as far as the messages that arrive are proper ones.
-/

import NetIpc.UdsRoundTrip
import NetIpc.ServerSession

namespace NetIpc

namespace Uds

/-! ### What a proper message is -/

/-- What the wire contract asks of a message that is handed over. -/
structure Valid (limits : UInt32 × UInt32) (hdr : Header) (payload : Bytes) : Prop where
  length : hdr.payloadLen.toNat = payload.length
  inLimit : hdr.payloadLen ≤ limits.1
  items : hdr.itemCount ≤ limits.2
  directory : hdr.flags &&& flagBatch ≠ 0 → 1 < hdr.itemCount → DirectoryFits hdr payload

/-- A message that has no readable header, or the length and the items its header declares. -/
def Proper (limits : UInt32 × UInt32) (message : Bytes) : Prop :=
  ∀ hdr, Header.decode message = .ok hdr →
    headerSize + hdr.payloadLen.toNat = message.length ∧ message.length ≤ u32Max ∧
      hdr.itemCount ≤ limits.2 ∧
      (hdr.flags &&& flagBatch ≠ 0 → 1 < hdr.itemCount →
        DirectoryFits hdr (message.drop headerSize))

/-! ### One packet on the socket -/

/-- There is time left before the deadline of a wait, if it has one. -/
def ReceiveWait.Patient (wait : ReceiveWait) : Prop :=
  ∀ deadline, wait.deadline = some deadline → 0 < deadline

section Queue

variable (session : UdsSession) (queue : List Bytes) (trace : List Event)

theorem run_new (timeoutMs : UInt32) (abort : Bool) :
    ∃ wait seen, wait.Patient ∧ (ReceiveWait.new queueOs timeoutMs abort).run
      ⟨session, queue, trace⟩ = (.ok wait, ⟨session, queue, seen⟩) := by
  unfold ReceiveWait.new
  by_cases limited : timeoutMs ≠ 0
  · rw [if_pos limited, Prog.run_bind_ok (run_call _ _ _)]
    refine ⟨_, _, ?_, rfl⟩
    intro deadline same
    have positive : 0 < timeoutMs.toNat :=
      Nat.pos_of_ne_zero fun zero => limited (UInt32.toNat_inj.mp zero)
    rw [← Option.some.inj same, nanosPerMilli]
    omega
  · rw [if_neg limited]
    exact ⟨⟨none, abort⟩, trace, nofun, rfl⟩

variable (wait : ReceiveWait) (patient : wait.Patient)

theorem run_aborted :
    ∃ seen, (wait.aborted queueOs).run ⟨session, queue, trace⟩ =
      (.ok false, ⟨session, queue, seen⟩) := by
  unfold ReceiveWait.aborted
  split <;> exact ⟨_, rfl⟩

include patient

theorem run_remainingMs :
    ∃ left seen, (wait.remainingMs queueOs).run ⟨session, queue, trace⟩ =
      (.ok left, ⟨session, queue, seen⟩) := by
  unfold ReceiveWait.remainingMs
  split
  · exact ⟨_, _, rfl⟩
  · rename_i deadline same
    have left : ¬ (queueOs.now queue).1 ≥ deadline := Nat.not_le.mpr (patient deadline same)
    rw [Prog.run_bind_ok (run_call _ _ _), if_neg left]
    exact ⟨_, _, rfl⟩

theorem run_pollTimeoutMs :
    ∃ timeout seen, (wait.pollTimeoutMs queueOs).run ⟨session, queue, trace⟩ =
      (.ok timeout, ⟨session, queue, seen⟩) := by
  obtain ⟨first, aborted⟩ := run_aborted session queue trace wait
  obtain ⟨left, second, remaining⟩ := run_remainingMs session queue first wait patient
  rw [ReceiveWait.pollTimeoutMs, Prog.run_bind_ok aborted, if_neg Bool.false_ne_true,
    Prog.run_bind_ok remaining]
  exact ⟨_, _, rfl⟩

/-- Nothing has to be awaited on a queue. -/
theorem run_waitFdReadable (fuel : Nat) (enough : 0 < fuel) :
    ∃ seen, (waitFdReadable queueOs fuel wait).run ⟨session, queue, trace⟩ =
      (.ok (), ⟨session, queue, seen⟩) := by
  obtain ⟨fuel, rfl⟩ : ∃ less, fuel = less + 1 := ⟨fuel - 1, by omega⟩
  obtain ⟨timeout, first, polled⟩ := run_pollTimeoutMs session queue trace wait patient
  obtain ⟨second, aborted⟩ := run_aborted session queue (first ++ [.polled timeout .ready]) wait
  have ready : (call (queueOs.poll timeout) (.polled timeout)).run ⟨session, queue, first⟩ =
      (.ok .ready, ⟨session, queue, first ++ [.polled timeout .ready]⟩) := rfl
  rw [waitFdReadable, Prog.loop, Prog.run_bind, Prog.run_bind_ok polled, Prog.run_bind_ok ready]
  dsimp only
  rw [Prog.run_bind_ok aborted]
  exact ⟨_, rfl⟩

/-- The wait before `recv`, which is there only with a deadline or an abort flag. -/
theorem run_rawRecvControl_eq (fuel : Nat) (buf : Bytes) (controlled : Bool)
    (enough : controlled = true → 0 < fuel) :
    ∃ seen, (rawRecvControl queueOs fuel buf controlled wait).run ⟨session, queue, trace⟩ =
      (rawRecv queueOs buf).run ⟨session, queue, seen⟩ := by
  cases controlled with
  | false => exact ⟨trace, rfl⟩
  | true =>
    obtain ⟨seen, waited⟩ := run_waitFdReadable session queue trace wait patient fuel (enough rfl)
    refine ⟨seen, ?_⟩
    rw [rawRecvControl, if_pos rfl, Prog.run_bind_ok waited]

end Queue

/-- A message that is only begun is not handed over when nothing follows. -/
theorem run_receiveChunks_nil (wait : ReceiveWait) (patient : wait.Patient) (fuel : Nat)
    (controlled : Bool) (enough : controlled = true → 0 < fuel) (hdr : Header) (data : Bytes)
    (short : data.length < hdr.payloadLen.toNat) (session : UdsSession) (trace : List Event)
    (handed : Header × Bytes) (after : Endpoint (List Bytes)) :
    (receiveChunks queueOs fuel controlled wait hdr data).run ⟨session, [], trace⟩ ≠
      (.ok handed, after) := by
  intro ran
  obtain ⟨_, grown, grows, ran⟩ := Prog.run_bind_eq_ok ran
  cases grows
  obtain ⟨_, written, writes, ran⟩ := Prog.run_bind_eq_ok ran
  have bound := onRecvBuf_write_eq_ok writes
  rw [run_onRecvBuf_write bound] at writes
  cases writes
  rw [Prog.run_bind_ok (run_getSession _)] at ran
  split at ran
  · cases ran
  rw [Prog.run_bind_ok (run_modifySession _ _)] at ran
  obtain ⟨_, looped, loops, -⟩ := Prog.run_bind_eq_ok ran
  obtain ⟨_, passed, pass, -⟩ := Prog.run_bind_eq_ok loops
  change (receiveChunk _ _ _ _ _ _ data.length 1).run _ = _ at pass
  rw [receiveChunk, if_pos short, Prog.run_bind_ok (run_getSession _)] at pass
  obtain ⟨⟨count, packet⟩, received, receives, -⟩ := Prog.run_bind_eq_ok pass
  have receives := failingInflight_eq_ok receives
  obtain ⟨seen, awaited⟩ := run_rawRecvControl_eq _ [] _ wait patient fuel _ controlled enough
  rw [awaited] at receives
  cases receives

/-- What it takes for one packet on the socket, with nothing after it, to be handed over. -/
theorem receiveWithControl_single_iff (fuel : Nat) (buf : Bytes) (timeoutMs : UInt32) (abort : Bool)
    (session : UdsSession) (message : Bytes) (trace : List Event) (isOpen : 0 ≤ session.fd)
    (room : message.length ≤ buf.length) (enough : timeoutMs ≠ 0 ∨ abort = true → 0 < fuel)
    (outstanding : ∀ hdr, Header.decode message = .ok hdr → session.role = .client →
      hdr.messageId ∈ session.inflightIds) (hdr : Header) (payload : Bytes) :
    ((receiveWithControl queueOs fuel buf timeoutMs abort).run ⟨session, [message], trace⟩).1 =
        .ok (hdr, payload) ↔
      Header.decode message = .ok hdr ∧ payload = message.drop headerSize ∧
        hdr.payloadLen ≤ (receiveLimits session).1 ∧ hdr.itemCount ≤ (receiveLimits session).2 ∧
        headerSize + hdr.payloadLen.toNat = message.length ∧ message.length ≤ u32Max ∧
        validateBatch hdr payload = .ok () := by
  obtain ⟨wait, first, patient, made⟩ := run_new session [message] trace timeoutMs abort
  obtain ⟨seen, awaited⟩ := run_rawRecvControl_eq session [message] first wait patient fuel buf
    (decide (timeoutMs ≠ 0 ∨ abort = true)) fun controlled => enough (of_decide_eq_true controlled)
  have received (some : 0 < message.length) :=
    run_failingInflight_of_ok (awaited.trans (run_rawRecv buf message [] session seen some room))
  rw [receiveWithControl, Prog.run_bind_ok (run_getSession _), if_neg (Int.not_lt.mpr isOpen),
    Prog.run_bind_ok made]
  constructor
  · intro ran
    have ran := Prog.run_of_fst ran
    by_cases some : 0 < message.length
    · rw [receiveMessage, Prog.run_bind_ok (received some)] at ran
      dsimp only at ran
      rw [readSlice_packet, Prog.ofRes_ok_bind] at ran
      obtain ⟨found, checked, ran⟩ := Prog.run_ofRes_bind_eq_ok ran
      obtain ⟨long, decoded, inLimit, items⟩ := checkFirst_eq_ok_iff.mp checked
      rw [Prog.run_bind_ok (run_takeInflight found _ fun role _ => outstanding found decoded role)]
        at ran
      obtain ⟨small, ran⟩ := Prog.run_guard_eq_ok ran
      obtain ⟨inside, ran⟩ := Prog.run_guard_eq_ok ran
      have small := Nat.le_of_not_lt small
      have inside := Nat.le_of_not_lt inside
      rw [readSlice_packet_data long, Prog.ofRes_ok_bind] at ran
      split at ran
      · rename_i whole
        obtain ⟨_, valid, ran⟩ := Prog.run_ofRes_bind_eq_ok ran
        obtain ⟨rfl, rfl⟩ := Prod.mk.inj (Except.ok.inj (Prod.mk.inj ran).1)
        exact ⟨decoded, rfl, inLimit, items, whole.symm, whole ▸ small, valid⟩
      · rename_i partly
        refine absurd ran (run_receiveChunks_nil wait patient fuel _ ?_ found _ ?_ _ _ _ _)
        · exact fun controlled => enough (of_decide_eq_true controlled)
        · rw [List.length_drop]
          omega
    · have empty : message = [] := List.length_eq_zero_iff.mp (by omega)
      obtain ⟨_, _, receives, -⟩ := Prog.run_bind_eq_ok ran
      have receives := failingInflight_eq_ok receives
      rw [awaited, empty, rawRecv, Prog.run_bind_ok (run_call _ _ _)] at receives
      dsimp only [queueOs, Prod.map, Received.cut] at receives
      rw [List.take_nil, if_pos List.length_nil] at receives
      cases receives
  · rintro ⟨decoded, rfl, inLimit, items, whole, small, valid⟩
    have long : headerSize ≤ message.length := by omega
    have checked := checkFirst_eq_ok_iff.mpr ⟨long, decoded, inLimit, items⟩
    have some : 0 < message.length := lt_of_lt_of_le (by decide) long
    rw [receiveMessage, Prog.run_bind_ok (received some)]
    dsimp only
    rw [readSlice_packet, Prog.ofRes_ok_bind, checked, Prog.ofRes_ok_bind,
      Prog.run_bind_ok (run_takeInflight hdr _ fun role _ => outstanding hdr decoded role),
      Prog.guard_bind (by omega), Prog.guard_bind (by omega), readSlice_packet_data long,
      Prog.ofRes_ok_bind, if_pos whole.symm, valid]
    rfl

end Uds

open Uds

/-! ### Both transports -/

/-- The server on a queue of messages: packets on the socket, or messages in the region. -/
def serverQueueOs : ServerOs (List Bytes) where
  toOs := queueOs
  loadRunning queue := (true, queue)
  pollEvents _ _ queue := ((if queue = [] then 0 else 1, 0, Server.pollIn), queue)
  shmReceive size _ queue :=
    match queue with
    | [] => (.error .timeout, [])
    | message :: rest => (if message.length > size then .error .msgTooLarge else .ok message, rest)
  shmSend message queue := (.ok (), queue ++ [message])
  raiseCapacity _ _ queue := queue
  shmDestroy queue := queue
  dropSession queue := queue

/-- The client on a queue of messages. -/
def clientQueueOs : ClientOs (List Bytes) where
  toOs := queueOs
  connect _ queue := (.error (.handshake .authFailed), queue)
  clientAttach _ queue := (.error .other, queue)
  shmSend _ message queue := (.ok (), queue ++ [message])
  shmReceive _ size _ queue :=
    match queue with
    | [] => (.error .timeout, [])
    | message :: rest => (if message.length > size then .error .msgTooLarge else .ok message, rest)
  closeShm _ queue := queue
  dropSession _ queue := queue
  sleep _ queue := queue
  storeAbort _ queue := queue

/-- What a session of the server hands to its dispatcher when one message arrives. -/
def Server.handsOver (session : Session) (shm : Bool) (message : Bytes) : Option (Header × Bytes) :=
  match ((Server.allocate >>= fun _ => Server.receiveRequest serverQueueOs).run
    (Server.accepted session shm [message])).1 with
  | .ok (.message hdr payload) => some (hdr, payload)
  | _ => none

/-- What `transport_receive` returns to the call when one message arrives. -/
def Client.handsOver (client : RawClient) (fuel : Nat) (timeoutMs : UInt32) (message : Bytes) :
    Option (Header × Bytes) :=
  match ((Client.transportReceive clientQueueOs fuel timeoutMs).run
    ⟨client, [message], [], [], []⟩).1 with
  | .ok handed => some handed
  | .error _ => none

/-- The two transports hand over the same, and only valid messages. -/
def Independent (limits : UInt32 × UInt32) (shm uds : Option (Header × Bytes)) : Prop :=
  shm = uds ∧ ∀ hdr payload, shm = some (hdr, payload) ∨ uds = some (hdr, payload) →
    Valid limits hdr payload

/-- A transport that hands over every message with a readable header. -/
def HeaderOnly (message : Bytes) (shm : Option (Header × Bytes)) : Prop :=
  ∀ hdr payload, shm = some (hdr, payload) ↔
    Header.decode message = .ok hdr ∧ payload = message.drop headerSize

/-- A transport that checks what the header declares. -/
def Checking (limits : UInt32 × UInt32) (message : Bytes) (uds : Option (Header × Bytes)) : Prop :=
  ∀ hdr payload, uds = some (hdr, payload) ↔
    Header.decode message = .ok hdr ∧ payload = message.drop headerSize ∧
      hdr.payloadLen ≤ limits.1 ∧ hdr.itemCount ≤ limits.2 ∧
      headerSize + hdr.payloadLen.toNat = message.length ∧ message.length ≤ u32Max ∧
      validateBatch hdr payload = .ok ()

/-- The two kinds of transport agree on proper messages only. -/
theorem independent_iff_proper {limits : UInt32 × UInt32} {message : Bytes}
    {shm uds : Option (Header × Bytes)} (headerOnly : HeaderOnly message shm)
    (checking : Checking limits message uds) (fits : message.length ≤ headerSize + limits.1.toNat) :
    Independent limits shm uds ↔ Proper limits message := by
  constructor
  · rintro ⟨same, -⟩ hdr decoded
    have handed := (headerOnly hdr (message.drop headerSize)).mpr ⟨decoded, rfl⟩
    rw [same] at handed
    obtain ⟨-, -, -, items, whole, small, valid⟩ := (checking _ _).mp handed
    refine ⟨whole, small, items, (validateBatch_eq_ok_iff ?_).mp valid⟩
    rw [List.length_drop]
    omega
  · intro proper
    have checked (hdr : Header) (decoded : Header.decode message = .ok hdr) :
        uds = some (hdr, message.drop headerSize) ∧
          Valid limits hdr (message.drop headerSize) := by
      obtain ⟨whole, small, items, directory⟩ := proper hdr decoded
      have length : (message.drop headerSize).length = hdr.payloadLen.toNat := by
        rw [List.length_drop]
        omega
      have inLimit : hdr.payloadLen ≤ limits.1 := UInt32.le_iff_toNat_le.mpr (by omega)
      have valid := (validateBatch_eq_ok_iff (by omega)).mpr directory
      exact ⟨(checking _ _).mpr ⟨decoded, rfl, inLimit, items, whole, small, valid⟩,
        length.symm, inLimit, items, directory⟩
    refine ⟨Option.ext fun handed => ?_, ?_⟩
    · obtain ⟨hdr, payload⟩ := handed
      rw [headerOnly]
      constructor
      · rintro ⟨decoded, rfl⟩
        exact (checked hdr decoded).1
      · intro handed
        obtain ⟨decoded, carried, -⟩ := (checking _ _).mp handed
        exact ⟨decoded, carried⟩
    · intro hdr payload handed
      obtain ⟨decoded, rfl⟩ : Header.decode message = .ok hdr ∧ payload = message.drop headerSize :=
        handed.elim (headerOnly _ _).mp fun handed =>
          ⟨((checking _ _).mp handed).1, ((checking _ _).mp handed).2.1⟩
      exact (checked hdr decoded).2

theorem decode_long {message : Bytes} {hdr : Header} (decoded : Header.decode message = .ok hdr) :
    headerSize ≤ message.length := by
  obtain ⟨_, long, -⟩ := bind_eq_ok decoded
  exact Nat.le_of_not_lt (rejectIf_eq_ok long)

namespace Server

variable {session : Session} {message : Bytes}

theorem handsOver_eq_some_iff {shm : Bool} {hdr : Header} {payload : Bytes} :
    handsOver session shm message = some (hdr, payload) ↔
      ((allocate >>= fun _ => receiveRequest serverQueueOs).run
        (accepted session shm [message])).1 = .ok (.message hdr payload) := by
  unfold handsOver
  split
  · rename_i found carried ran
    rw [ran, Option.some.injEq, Prod.mk.injEq, Except.ok.injEq, Intake.message.injEq]
  · rename_i other
    exact ⟨nofun, fun ran => absurd ran (other hdr payload)⟩

theorem takeShmMessage_eq_ok_iff {σ : Type} {recvLen : Nat} (fits : message.length ≤ recvLen)
    (world : ServerWorld σ) (hdr : Header) (payload : Bytes) :
    ((takeShmMessage recvLen message).run world).1 = .ok (.message hdr payload) ↔
      Header.decode message = .ok hdr ∧ payload = message.drop headerSize := by
  unfold takeShmMessage
  by_cases long : message.length < headerSize
  · rw [if_pos long]
    exact ⟨nofun, fun ⟨decoded, _⟩ => absurd (decode_long decoded) (Nat.not_le.mpr long)⟩
  · rw [if_neg long, if_neg (Nat.not_lt.mpr fits)]
    match Header.decode message with
    | .ok found =>
      show Except.ok (Intake.message found (message.drop headerSize)) = _ ↔ _
      rw [Except.ok.injEq, Intake.message.injEq, Except.ok.injEq,
        @eq_comm _ (message.drop headerSize)]
    | .error (.err _) | .error .panic | .error .fuel => exact ⟨nofun, nofun⟩

/-- The session before its first pass. -/
def allocated (session : Session) (shm : Bool) (queue : List Bytes) : ServerWorld (List Bytes) :=
  (allocate.run (accepted session shm queue)).2

theorem run_allocate_bind {α : Type} (shm : Bool) (queue : List Bytes)
    (program : ServerProg (List Bytes) α) :
    (allocate >>= fun _ => program).run (accepted session shm queue) =
      program.run (allocated session shm queue) := rfl

/-- The message in the region: only its header is looked at. -/
theorem handsOver_shm (fits : message.length ≤ headerSize + session.maxRequestPayloadBytes.toNat) :
    HeaderOnly message (handsOver session true message) := by
  intro hdr payload
  have received : (outside (serverQueueOs.shmReceive (allocated session true [message]).recvLen
      serverPollTimeoutMs)).run (allocated session true [message]) =
      (.ok (.ok message), allocated session true []) := by
    have room : ¬ message.length > (allocated session true [message]).recvLen := Nat.not_lt.mpr fits
    unfold outside Prog.run serverQueueOs
    dsimp only
    rw [show (allocated session true [message]).os = [message] from rfl]
    dsimp only
    rw [if_neg room]
    rfl
  have region : (allocated session true [message]).shm = true := rfl
  rw [handsOver_eq_some_iff, run_allocate_bind, receiveRequest,
    Prog.run_bind_ok (Prog.run_get _), if_pos region, Prog.run_bind_ok received]
  exact takeShmMessage_eq_ok_iff fits _ hdr payload

/-- The packet on the socket: `receive` checks it. -/
theorem handsOver_uds (role : session.role = .server) (isOpen : 0 ≤ session.fd)
    (fits : message.length ≤ headerSize + session.maxRequestPayloadBytes.toNat) :
    Checking (receiveLimits session.toUdsSession) message (handsOver session false message) := by
  intro hdr payload
  have single := receiveWithControl_single_iff 0 (zeros (allocated session false [message]).recvLen)
    0 false session.toUdsSession message [] isOpen (by rw [length_zeros]; exact fits)
    (fun controlled => by rcases controlled with zero | flag; exact absurd rfl zero; cases flag)
    (fun _ _ client => by rw [role] at client; cases client) hdr payload
  have socket : ¬ (allocated session false [message]).shm = true := Bool.false_ne_true
  have polled : (outside (serverQueueOs.pollEvents (allocated session false [message]).session.fd
      (Int.ofNat serverPollTimeoutMs.toNat))).run (allocated session false [message]) =
      (.ok (1, 0, pollIn), allocated session false [message]) := rfl
  have ready : pollVerdict (1, 0, pollIn) = 1 := by decide
  rw [← single, handsOver_eq_some_iff, run_allocate_bind, receiveRequest,
    Prog.run_bind_ok (Prog.run_get _), if_neg socket, Prog.run_bind_ok polled]
  dsimp only
  rw [ready, if_neg (by decide), if_neg (by decide), Prog.run_bind_ok (run_onSession _ _)]
  change ((attempted (Prog.run (receiveWithControl queueOs 0
    (zeros (allocated session false [message]).recvLen) 0 false)
    ⟨session.toUdsSession, [message], []⟩).1 >>= _).run _).1 = _ ↔ _
  match ((receiveWithControl queueOs 0 (zeros (allocated session false [message]).recvLen)
    0 false).run ⟨session.toUdsSession, [message], []⟩).1 with
  | .ok (found, carried) =>
    show Except.ok (Intake.message found carried) = _ ↔ _
    rw [Except.ok.injEq, Intake.message.injEq, Except.ok.injEq, Prod.mk.injEq]
  | .error (.err _) | .error .panic | .error .fuel => exact ⟨nofun, nofun⟩

end Server

namespace Client

variable {client : RawClient} {session : Session} {fuel : Nat} {timeoutMs : UInt32}
  {message : Bytes}

theorem handsOver_eq_some_iff {handed : Header × Bytes} :
    handsOver client fuel timeoutMs message = some handed ↔
      ((transportReceive clientQueueOs fuel timeoutMs).run
        ⟨client, [message], [], [], []⟩).1 = .ok handed := by
  unfold handsOver
  split
  · rename_i other ran
    rw [ran, Option.some.injEq, Except.ok.injEq]
  · rename_i reason ran
    rw [ran]
    exact ⟨nofun, nofun⟩

theorem run_receiveDeadline (timeoutMs : UInt32) (world : ClientWorld (List Bytes)) :
    ∃ deadline seen, (∀ instant, deadline = some instant → 0 < instant) ∧
      (receiveDeadline clientQueueOs timeoutMs).run world =
        (.ok deadline, { world with trace := seen }) := by
  unfold receiveDeadline
  by_cases limited : timeoutMs ≠ 0
  · rw [if_pos limited]
    refine ⟨some (0 + timeoutMs.toNat * nanosPerMilli), _, ?_, rfl⟩
    intro instant same
    have positive : 0 < timeoutMs.toNat :=
      Nat.pos_of_ne_zero fun zero => limited (UInt32.toNat_inj.mp zero)
    rw [← Option.some.inj same, nanosPerMilli]
    omega
  · rw [if_neg limited]
    exact ⟨none, world.trace, nofun, rfl⟩

theorem run_receiveWaitSliceMs (deadline : Option Nat) (world : ClientWorld (List Bytes))
    (patient : ∀ instant, deadline = some instant → 0 < instant) :
    ∃ waitMs seen, (receiveWaitSliceMs clientQueueOs deadline).run world =
      (.ok waitMs, { world with trace := seen }) := by
  have loaded : (abortRequested clientQueueOs).run world =
      (.ok false, { world with trace := world.trace ++ [.loaded false] }) := rfl
  rw [receiveWaitSliceMs.eq_def, Prog.run_bind_ok loaded, if_neg Bool.false_ne_true]
  cases deadline with
  | none => exact ⟨_, _, rfl⟩
  | some instant =>
    have clock : (observed clientQueueOs.now .clock).run
        { world with trace := world.trace ++ [.loaded false] } =
        (.ok 0, { world with trace := world.trace ++ [.loaded false] ++ [.clock 0] }) := rfl
    dsimp only
    rw [Prog.run_bind_ok clock, if_neg (Nat.not_le.mpr (patient instant rfl))]
    exact ⟨_, _, rfl⟩

/-- The message in the region arrives at once. -/
theorem run_receivePosixShmWithControl (timeoutMs : UInt32) (enough : 0 < fuel)
    (shm : ShmContext) {size : Nat} (fits : message.length ≤ size)
    (world : ClientWorld (List Bytes)) (queued : world.os = [message]) :
    ∃ after, (receivePosixShmWithControl clientQueueOs fuel shm size timeoutMs).run world =
      (.ok message, after) := by
  obtain ⟨fuel, rfl⟩ : ∃ less, fuel = less + 1 := ⟨fuel - 1, by omega⟩
  obtain ⟨deadline, first, patient, made⟩ := run_receiveDeadline timeoutMs world
  obtain ⟨waitMs, second, waited⟩ := run_receiveWaitSliceMs deadline
    { world with trace := first } patient
  have received : (outside (clientQueueOs.shmReceive shm size waitMs)).run
      { world with trace := second } =
        (.ok (.ok message), { world with os := [], trace := second }) := by
    unfold outside Prog.run clientQueueOs
    dsimp only
    rw [queued]
    dsimp only
    rw [if_neg (Nat.not_lt.mpr fits)]
  refine ⟨{ world with os := [], trace := second }, ?_⟩
  rw [receivePosixShmWithControl, Prog.run_bind_ok made, Prog.loop, Prog.run_bind,
    Prog.run_bind_ok waited, Prog.run_bind_ok received]
  rfl

theorem acceptShmMessage_eq_ok_iff {size : Nat} (fits : message.length ≤ size) (hdr : Header)
    (payload : Bytes) :
    acceptShmMessage size message = .ok (hdr, payload) ↔
      Header.decode message = .ok hdr ∧ payload = message.drop headerSize := by
  unfold acceptShmMessage
  rw [if_neg (Nat.not_lt.mpr fits)]
  constructor
  · intro ran
    obtain ⟨_, -, ran⟩ := bind_eq_ok ran
    obtain ⟨found, decoded, ran⟩ := bind_eq_ok ran
    cases ran
    exact ⟨decoded, rfl⟩
  · rintro ⟨decoded, rfl⟩
    rw [guard_bind (Nat.not_lt.mpr (decode_long decoded)), decoded]
    rfl

theorem le_maxReceiveMessageBytes (found : client.session = some session) :
    headerSize + session.maxResponsePayloadBytes.toNat ≤ client.maxReceiveMessageBytes := by
  unfold RawClient.maxReceiveMessageBytes
  rw [found]
  dsimp only
  by_cases positive : session.maxResponsePayloadBytes > 0
  · have some : session.maxResponsePayloadBytes.toNat ≠ 0 :=
      (UInt32.lt_iff_toNat_lt.mp positive).ne'
    rw [if_pos positive, if_neg some]
  · have none : session.maxResponsePayloadBytes.toNat = 0 := by
      have zero := UInt32.le_iff_toNat_le.mp (UInt32.not_lt.mp positive)
      exact Nat.le_zero.mp zero
    rw [none]
    exact Nat.le_add_right _ _

/-- The message in the region: only its header is looked at. -/
theorem handsOver_shm (found : client.session = some session) {shm : ShmContext}
    (region : client.shm = some shm) (enough : 0 < fuel)
    (fits : message.length ≤ headerSize + session.maxResponsePayloadBytes.toNat) :
    HeaderOnly message (handsOver client fuel timeoutMs message) := by
  intro hdr payload
  have fits := fits.trans (le_maxReceiveMessageBytes found)
  obtain ⟨after, received⟩ := run_receivePosixShmWithControl timeoutMs enough shm fits
    ⟨client, [message], [], [], []⟩ rfl
  rw [handsOver_eq_some_iff, transportReceive, Prog.run_bind_ok (run_getClient _), region]
  dsimp only
  rw [Prog.run_bind_ok received]
  exact acceptShmMessage_eq_ok_iff fits hdr payload

theorem mapError_eq_ok_iff {ε δ α : Type} {translate : ε → δ} {result : Res ε α} {value : α} :
    mapError translate result = .ok value ↔ result = .ok value :=
  ⟨mapError_eq_ok, fun same => by rw [same]; rfl⟩

/-- The packet on the socket: `receive_with_control` checks it. -/
theorem handsOver_uds (found : client.session = some session) (socket : client.shm = none)
    (isOpen : 0 ≤ session.fd) (enough : 0 < fuel)
    (outstanding : ∀ hdr, Header.decode message = .ok hdr → hdr.messageId ∈ session.inflightIds)
    (fits : message.length ≤ headerSize + session.maxResponsePayloadBytes.toNat) :
    Checking (receiveLimits session.toUdsSession) message
      (handsOver client fuel timeoutMs message) := by
  intro hdr payload
  have fits := fits.trans (le_maxReceiveMessageBytes found)
  rw [← receiveWithControl_single_iff fuel (zeros client.maxReceiveMessageBytes) timeoutMs true
    session.toUdsSession message [] isOpen (by rw [length_zeros]; exact fits) (fun _ => enough)
    (fun hdr decoded _ => outstanding hdr decoded), handsOver_eq_some_iff, transportReceive,
    Prog.run_bind_ok (run_getClient _), socket]
  dsimp only
  rw [Prog.run_bind_ok (run_onSession found _)]
  exact mapError_eq_ok_iff

end Client

/-- A client with a session, and with a region or without one. -/
def Client.attached (client : RawClient) (session : Session) (shm : Option ShmContext) :
    RawClient :=
  { client with session := some session, shm := shm }

/-- On the server and on the client: shared memory and the socket hand over the same, and only what
the wire contract allows, exactly if the message that arrives is a proper one. -/
theorem delivery_independent_iff (message : Bytes) :
    (∀ session : Session, session.role = .server → 0 ≤ session.fd →
      message.length ≤ headerSize + session.maxRequestPayloadBytes.toNat →
      (Independent (receiveLimits session.toUdsSession) (Server.handsOver session true message)
          (Server.handsOver session false message) ↔
        Proper (receiveLimits session.toUdsSession) message)) ∧
    (∀ (client : RawClient) (session : Session) (shm : ShmContext) (fuel : Nat)
      (timeoutMs : UInt32), session.role = .client → 0 ≤ session.fd → 0 < fuel →
      (∀ hdr, Header.decode message = .ok hdr → hdr.messageId ∈ session.inflightIds) →
      message.length ≤ headerSize + session.maxResponsePayloadBytes.toNat →
      (Independent (receiveLimits session.toUdsSession)
          (Client.handsOver (Client.attached client session (some shm)) fuel timeoutMs message)
          (Client.handsOver (Client.attached client session none) fuel timeoutMs message) ↔
        Proper (receiveLimits session.toUdsSession) message)) := by
  constructor
  · intro session role isOpen fits
    have limit : (receiveLimits session.toUdsSession).1 = session.maxRequestPayloadBytes := by
      rw [receiveLimits, if_pos role]
    exact independent_iff_proper (Server.handsOver_shm fits)
      (Server.handsOver_uds role isOpen fits) (by rw [limit]; exact fits)
  · intro client session shm fuel timeoutMs role isOpen enough outstanding fits
    have limit : (receiveLimits session.toUdsSession).1 = session.maxResponsePayloadBytes := by
      rw [receiveLimits, if_neg (by rw [role]; decide)]
    exact independent_iff_proper (Client.handsOver_shm rfl rfl enough fits)
      (Client.handsOver_uds rfl rfl isOpen enough outstanding fits) (by rw [limit]; exact fits)

/-- One end of a session with room for 16 bytes. -/
def narrowSession (role : Role) : Session :=
  { UdsSession.fresh role 16 64 with inflightIds := {1}, selectedProfile := 2, sessionId := 1 }

/-- A client that has not connected yet. -/
def plainClient : RawClient := RawClient.newBound 1 ⟨3, 2, 16, 1, 16, 1, 0, 64⟩

/-- The header of a message with id 1. -/
def declaring (kind : UInt16) (size : UInt32) : Header where
  magic := magicMsg
  version := NetIpc.version
  headerLen := NetIpc.headerLen
  kind := kind
  flags := 0
  code := 1
  transportStatus := 0
  payloadLen := size
  itemCount := 1
  messageId := 1

/-- A payload of one byte that is declared as one byte. -/
theorem delivery_independent_honest :
    Independent (16, 1)
        (Server.handsOver (narrowSession .server) true ((declaring kindRequest 1).image ++ [7]))
        (Server.handsOver (narrowSession .server) false ((declaring kindRequest 1).image ++ [7])) ∧
      Independent (16, 1)
        (Client.handsOver (Client.attached plainClient (narrowSession .client) (some ⟨0⟩)) 1 0
          ((declaring kindResponse 1).image ++ [7]))
        (Client.handsOver (Client.attached plainClient (narrowSession .client) none) 1 0
          ((declaring kindResponse 1).image ++ [7])) := by
  have proper (kind : UInt16) (isKind : kindRequest ≤ kind ∧ kind ≤ kindControl) :
      Proper (16, 1) ((declaring kind 1).image ++ [7]) := by
    intro hdr decoded
    rw [Header.decode_image (declaring kind 1) [7] ⟨rfl, rfl, rfl, isKind⟩] at decoded
    cases decoded
    rw [List.length_append, Header.length_image]
    have single : (declaring kind 1).flags &&& flagBatch = 0 := by
      show (0 : UInt16) &&& flagBatch = 0
      decide
    exact ⟨rfl, by decide, UInt32.le_refl 1, fun batch => absurd single batch⟩
  have length (kind : UInt16) : ((declaring kind 1).image ++ [7]).length ≤ headerSize + 16 := by
    rw [List.length_append, Header.length_image]
    decide
  constructor
  · exact ((delivery_independent_iff _).1 (narrowSession .server) rfl (by decide)
      (length kindRequest)).mpr (proper kindRequest (by decide))
  · refine ((delivery_independent_iff _).2 plainClient (narrowSession .client) ⟨0⟩ 1 0 rfl
      (by decide) (by decide) (fun hdr decoded => ?_) (length kindResponse)).mpr
      (proper kindResponse (by decide))
    rw [Header.decode_image (declaring kindResponse 1) [7] ⟨rfl, rfl, rfl, by decide⟩] at decoded
    cases decoded
    decide

/-- A payload of one byte that is declared as none: shared memory hands it over. -/
theorem not_independent_undeclared :
    ¬ Independent (16, 1)
        (Server.handsOver (narrowSession .server) true ((declaring kindRequest 0).image ++ [7]))
        (Server.handsOver (narrowSession .server) false ((declaring kindRequest 0).image ++ [7])) ∧
      ¬ Independent (16, 1)
        (Client.handsOver (Client.attached plainClient (narrowSession .client) (some ⟨0⟩)) 1 0
          ((declaring kindResponse 0).image ++ [7]))
        (Client.handsOver (Client.attached plainClient (narrowSession .client) none) 1 0
          ((declaring kindResponse 0).image ++ [7])) := by
  have server : Server.handsOver (narrowSession .server) true
      ((declaring kindRequest 0).image ++ [7]) ≠
        Server.handsOver (narrowSession .server) false
          ((declaring kindRequest 0).image ++ [7]) := by
    decide +kernel
  have client : Client.handsOver (Client.attached plainClient (narrowSession .client) (some ⟨0⟩)) 1
      0 ((declaring kindResponse 0).image ++ [7]) ≠
        Client.handsOver (Client.attached plainClient (narrowSession .client) none) 1 0
          ((declaring kindResponse 0).image ++ [7]) := by
    decide +kernel
  exact ⟨fun independent => server independent.1, fun independent => client independent.1⟩

end NetIpc
