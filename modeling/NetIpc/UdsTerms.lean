/-
This file proves that a session keeps the terms it was made with: no send and no
receive, however it ends, changes the file descriptor, the role, a limit or the
packet size. What they do change are the two buffers and the ids in flight.

The system calls and the loops around them do not even change the ids; that is said
once, for every view of a session that does not show the buffers. The checks on packets
return errors of three kinds and never panic. `Receiving` says what it takes for an
assertion to hold all through a receive, and walks through the code once for all of
them.
-/

import NetIpc.Triple
import NetIpc.Uds

namespace NetIpc.Uds

variable {σ α : Type}

/-- What the handshake fixed. -/
structure Terms where
  fd : Int
  role : Role
  maxRequestPayloadBytes : UInt32
  maxRequestBatchItems : UInt32
  maxResponsePayloadBytes : UInt32
  maxResponseBatchItems : UInt32
  packetSize : UInt32

/-- The terms of a session. -/
def termsOf (self : UdsSession) : Terms where
  fd := self.fd
  role := self.role
  maxRequestPayloadBytes := self.maxRequestPayloadBytes
  maxRequestBatchItems := self.maxRequestBatchItems
  maxResponsePayloadBytes := self.maxResponsePayloadBytes
  maxResponseBatchItems := self.maxResponseBatchItems
  packetSize := self.packetSize

def terms (endpoint : Endpoint σ) : Terms := termsOf endpoint.session

/-! ### The parts that leave a session alone -/

/-- A view that reading the clock and loading the flag do not change. -/
structure Calm (os : Os σ) {τ : Type} (view : Endpoint σ → τ) : Prop where
  now : Keeps view (call os.now .clock)
  load : Keeps view (call os.load .loaded)

section Calm

variable {τ : Type} {view : Endpoint σ → τ} {os : Os σ}

theorem Calm.new (calm : Calm os view) (timeoutMs : UInt32) (abort : Bool) :
    Keeps view (ReceiveWait.new os timeoutMs abort) :=
  Keeps.ite (calm.now.bind fun _ => Keeps.pure _) (Keeps.pure _)

theorem Calm.aborted (calm : Calm os view) (wait : ReceiveWait) : Keeps view (wait.aborted os) :=
  Keeps.ite calm.load (Keeps.pure _)

/-- The time that remains is read off the clock alone. -/
theorem Calm.remainingMs (calm : Calm os view) (wait : ReceiveWait) :
    Keeps view (wait.remainingMs os) := by
  unfold ReceiveWait.remainingMs
  cases wait.deadline with
  | none => exact Keeps.pure _
  | some deadline => exact calm.now.bind fun _ => Keeps.ite (Keeps.fail _) (Keeps.pure _)

theorem Calm.pollTimeoutMs (calm : Calm os view) (wait : ReceiveWait) :
    Keeps view (wait.pollTimeoutMs os) :=
  (calm.aborted wait).bind fun _ => Keeps.ite (Keeps.fail _)
    ((calm.remainingMs wait).bind fun _ => Keeps.pure _)

/-- The wait only polls, reads the clock and loads the flag. -/
theorem Calm.waitFdReadable (calm : Calm os view)
    (poll : ∀ timeout, Keeps view (call (os.poll timeout) (.polled timeout))) (fuel : Nat)
    (wait : ReceiveWait) : Keeps view (waitFdReadable os fuel wait) := by
  refine Keeps.loop (fun _ => (calm.pollTimeoutMs wait).bind fun timeout => ?_) _ _
  refine (poll timeout).bind fun answer => ?_
  cases answer with
  | failed errno => exact Keeps.ite (Keeps.pure _) (Keeps.fail _)
  | expired => exact (calm.aborted wait).bind fun _ => Keeps.ite (Keeps.fail _) (Keeps.fail _)
  | ready => exact (calm.aborted wait).bind fun _ => Keeps.ite (Keeps.fail _) (Keeps.pure _)

end Calm

theorem getSession_keeps {τ : Type} {view : Endpoint σ → τ} :
    Keeps view (getSession : UdsProg σ UdsSession) := fun _ => rfl

/-- A view that no system call changes. -/
structure Calling (os : Os σ) {τ : Type} (view : Endpoint σ → τ) : Prop extends Calm os view where
  poll : ∀ timeout, Keeps view (call (os.poll timeout) (.polled timeout))
  rawSendIov : ∀ hdr payload, Keeps view (rawSendIov os hdr payload)
  rawRecv : ∀ buf, Keeps view (rawRecv os buf)

section Calling

variable {τ : Type} {view : Endpoint σ → τ} {os : Os σ}

/-- By induction on the chunks that remain. -/
theorem Calling.sendChunks (calling : Calling os view) (hdr : Header) (payload : Bytes)
    (budget : Nat) (chunkCount : UInt32) (count : Nat) (ci : UInt32) (offset : Nat) :
    Keeps view (sendChunks os hdr payload budget chunkCount count ci offset) := by
  induction count generalizing ci offset with
  | zero => exact Keeps.pure _
  | succ count ih =>
    exact (calling.rawSendIov _ _).bind fun _ => ih _ _

/-- The packets of one message are system calls and nothing else. -/
theorem Calling.sendInner (calling : Calling os view) (hdr : Header) (payload : Bytes) :
    Keeps view (sendInner os hdr payload) := by
  refine getSession_keeps.bind fun self => Keeps.ite (Keeps.fail _) ?_
  refine Keeps.ite (calling.rawSendIov _ _) (Keeps.ite (Keeps.stop _) (Keeps.ite (Keeps.fail _) ?_))
  exact (calling.rawSendIov _ _).bind fun _ => calling.sendChunks hdr payload _ _ _ _ _

/-- A packet is received with a wait before it or without. -/
theorem Calling.rawRecvControl (calling : Calling os view) (fuel : Nat) (buf : Bytes)
    (controlled : Bool) (wait : ReceiveWait) :
    Keeps view (rawRecvControl os fuel buf controlled wait) := by
  unfold Uds.rawRecvControl
  cases controlled with
  | true =>
    have waits := calling.toCalm.waitFdReadable calling.poll fuel wait
    exact waits.bind fun _ => calling.rawRecv buf
  | false => exact calling.rawRecv buf

/-- The calls keep a view that each of the five system calls keeps. -/
theorem Calling.of_calls (sendmsg : ∀ packet, Keeps view (call (os.sendmsg packet)
      fun _ => .sent packet)) (recv : ∀ size, Keeps view (call (fun state =>
      (os.recv size state).map (Received.cut size) id) .received))
    (poll : ∀ timeout, Keeps view (call (os.poll timeout) (.polled timeout)))
    (now : Keeps view (call os.now .clock)) (load : Keeps view (call os.load .loaded)) :
    Calling os view where
  now := now
  load := load
  poll := poll
  rawSendIov hdr payload :=
    (sendmsg _).bind fun _ => Keeps.ite (Keeps.fail _) (Keeps.pure _)
  rawRecv buf := by
    refine (recv _).bind fun answer => ?_
    cases answer with
    | failed errno => exact Keeps.fail _
    | data packet => exact Keeps.ite (Keeps.fail _) (Keeps.pure _)

end Calling

/-- A view that does not show the environment, the trace or a buffer. -/
def Still {τ : Type} (view : Endpoint σ → τ) : Prop :=
  ∀ endpoint os trace recvBuf pktBuf,
    view ⟨{ endpoint.session with recvBuf, pktBuf }, os, trace⟩ = view endpoint

section Still

variable {τ : Type} {view : Endpoint σ → τ}

theorem Still.call (still : Still view) (step : σ → α × σ) (event : α → Event) :
    Keeps view (call step event) :=
  fun endpoint => still endpoint _ _ endpoint.session.recvBuf endpoint.session.pktBuf

/-- A system call changes the environment and the trace, no more. -/
theorem Still.calling (still : Still view) (os : Os σ) : Calling os view :=
  Calling.of_calls (fun _ => still.call _ _) (fun _ => still.call _ _) (fun _ => still.call _ _)
    (still.call _ _) (still.call _ _)

end Still

/-! ### Sending -/

/-- A view that no system call changes, and no change of the session that keeps its terms. -/
structure Steady (os : Os σ) {τ : Type} (view : Endpoint σ → τ) : Prop extends
    Calling os view where
  modify : ∀ change : UdsSession → UdsSession, (∀ self, termsOf (change self) = termsOf self) →
    Keeps view (modifySession change)

variable (os : Os σ)

/-- The terms are such a view. -/
theorem steady_terms : Steady os (terms (σ := σ)) where
  toCalling := Still.calling (fun _ _ _ _ _ => rfl) os
  modify _ same endpoint := same endpoint.session

section Steady

variable {τ : Type} {view : Endpoint σ → τ} {os : Os σ}

theorem Steady.failAllInflight (steady : Steady os view) :
    Keeps view (failAllInflight : UdsProg σ Unit) := by
  refine steady.modify _ fun self => ?_
  split <;> rfl

/-- Taking back the id of a failed send keeps the view. -/
theorem Steady.rollback (steady : Steady os view) (tracked : Bool) (messageId : UInt64)
    (error : UdsError) : Keeps view (rollback tracked messageId error : UdsProg σ Unit) := by
  refine Keeps.ite ?_ (Keeps.pure _)
  split
  · exact steady.failAllInflight
  · exact steady.modify _ fun self => rfl

/-- A send tracks its id and takes it back; the terms stay. -/
theorem Steady.send (steady : Steady os view) (hdr : Header) (payload : Bytes) :
    Keeps view (send os hdr payload) := by
  refine getSession_keeps.bind fun self => Keeps.ite (Keeps.fail _) ?_
  refine Keeps.ite (Keeps.fail _) (Keeps.ite (Keeps.fail _) (Keeps.ite (Keeps.fail _) ?_))
  refine (steady.modify _ fun self => ?_).bind fun _ => ?_
  · split <;> rfl
  · refine (steady.sendInner _ payload).inspect fun result => ?_
    match result with
    | .ok () => exact Keeps.pure _
    | .error (.err error) => exact (steady.rollback _ _ error).bind fun _ => Keeps.fail _
    | .error .panic | .error .fuel => exact Keeps.stop _

end Steady

variable (hdr : Header) (payload : Bytes)

theorem send_keeps : Keeps terms (send os hdr payload) := (steady_terms os).send hdr payload

/-- Sending the packets only fails with a packet or with a parameter. -/
def IsSendFailure : UdsError → Prop
  | .send _ | .badParam _ => True
  | _ => False

/-- Every failure of the packets is one of a packet or of a parameter. -/
theorem sendInner_blame : Triple (fun _ => True) (sendInner os hdr payload) (fun _ _ => True)
      fun error _ => IsSendFailure error := by
  have one (hdr payload : Bytes) : Triple (fun _ => True) (rawSendIov os hdr payload)
      (fun _ _ => True) fun error _ => IsSendFailure error :=
    Exits.via (fun _ _ => True) (fun _ _ => trivial) fun _ =>
      Exits.ite (fun _ _ _ => trivial) fun _ _ _ => trivial
  have chunks (budget : Nat) (chunkCount : UInt32) (count : Nat) (ci : UInt32) (offset : Nat) :
      Triple (fun _ => True) (sendChunks os hdr payload budget chunkCount count ci offset)
        (fun _ _ => True) fun error _ => IsSendFailure error := by
    induction count generalizing ci offset with
    | zero => exact fun _ _ => trivial
    | succ count ih => exact (one _ _).bind fun _ => ih _ _
  refine Exits.via (fun _ _ => True) (fun _ _ => trivial) fun self => ?_
  refine Exits.ite (fun _ _ _ => trivial) fun _ => Exits.ite (fun _ => one _ _) fun _ => ?_
  refine Exits.ite (fun _ _ _ => trivial) fun _ => Exits.ite (fun _ _ _ => trivial) fun _ => ?_
  exact (one _ _).bind fun _ => chunks _ _ _ _ _

/-- A send is over a limit only if the payload or the number of items is. -/
theorem send_blame (self : UdsSession) :
    Triple (fun endpoint => endpoint.session = self) (send os hdr payload) (fun _ _ => True)
      fun error _ => error = .limitExceeded → payload.length > (sendLimits self).1.toNat ∨
        payload.length > u32Max - headerSize ∨ hdr.itemCount > (sendLimits self).2 := by
  refine Exits.via (fun found _ => found = self ∧ True) (fun _ start => ⟨start, trivial⟩)
    fun found => Exits.of_and ?_
  rintro rfl
  refine Exits.ite (fun _ _ _ => nofun) fun _ => Exits.ite (fun long _ _ _ => ?_) fun _ => ?_
  · exact long.imp_right .inl
  · refine Exits.ite (fun many _ _ _ => .inr (.inr many)) fun _ => Exits.ite (fun _ _ _ => nofun)
      fun _ => Exits.via (fun _ _ => True) (fun _ _ => trivial) fun _ => ?_
    refine Triple.inspect (sendInner_blame os _ payload) (fun _ _ _ => trivial) (fun error => ?_)
      (fun _ _ => trivial) fun _ _ => trivial
    refine Exits.via (fun _ _ => IsSendFailure error) (Exits.ite (fun _ => ?_) fun _ _ other =>
      other) fun _ => Triple.fail _ fun _ other same => by rw [same] at other; exact other.elim
    split
    · exact fun _ other => other
    · exact fun _ other => other

/-! ### The checks on packets -/

/-- An error that is about what a packet says. -/
def IsCheck : UdsError → Prop
  | .protocol _ | .chunk _ | .limitExceeded => True
  | _ => False

/-- A check whose errors are given a text. -/
theorem ordinary_mapErr {allowed : UdsError → Prop} {text : NipcError → UdsError}
    {result : Res NipcError α} (ordinary : Ordinary (fun _ => True) result)
    (fine : ∀ error, allowed (text error)) : Ordinary allowed (mapErr text result) := by
  match result with
  | .ok _ => trivial
  | .error (.err error) => exact fine error

/-- The check of a batch directory stays within the directory. -/
theorem ordinary_validateBatch : Ordinary IsCheck (validateBatch hdr payload) := by
  unfold validateBatch
  split
  · dsimp only
    refine .guard trivial fun room => ?_
    have room := Nat.le_of_not_lt room
    have aligned := le_align8 (hdr.itemCount.toNat * 8)
    have length : (payload.take (hdr.itemCount.toNat * 8)).length = hdr.itemCount.toNat * 8 :=
      List.length_take_of_le (by omega)
    refine ordinary_mapErr ?_ fun _ => trivial
    refine (ordinary_okOr trivial).bind fun dirSize _ => ?_
    refine .guard trivial fun _ =>
      ordinary_forFrom (fun index _ low high => ?_) _
    refine Ordinary.bind ?_ fun _ _ => trivial
    refine (ordinary_u32At (by omega)).bind fun offset _ => ?_
    refine (ordinary_u32At (by omega)).bind fun length _ => ?_
    refine .guard trivial fun _ => ?_
    exact .guard trivial fun _ => trivial
  · trivial

/-- A header is only read from 32 bytes or more. -/
theorem ordinary_decodeHeader (packet : Bytes) :
    Ordinary (fun _ => True) (Header.decode packet) := by
  refine .guard trivial fun long => ?_
  have long : 32 ≤ packet.length := Nat.le_of_not_lt long
  refine (ordinary_u32At (by omega)).bind fun _ _ => ?_
  iterate 6 refine (ordinary_u16At (by omega)).bind fun _ _ => ?_
  iterate 2 refine (ordinary_u32At (by omega)).bind fun _ _ => ?_
  refine (ordinary_u64At (by omega)).bind fun _ _ => ?_
  iterate 4 refine .guard trivial fun _ => ?_
  trivial

theorem ordinary_decodeChunkHeader (packet : Bytes) :
    Ordinary (fun _ => True) (ChunkHeader.decode packet) := by
  refine .guard trivial fun long => ?_
  have long : 32 ≤ packet.length := Nat.le_of_not_lt long
  refine (ordinary_u32At (by omega)).bind fun _ _ => ?_
  iterate 2 refine (ordinary_u16At (by omega)).bind fun _ _ => ?_
  refine (ordinary_u64At (by omega)).bind fun _ _ => ?_
  iterate 4 refine (ordinary_u32At (by omega)).bind fun _ _ => ?_
  iterate 4 refine .guard trivial fun _ => ?_
  trivial

theorem ordinary_checkFirst (self : UdsSession) (packet : Bytes) :
    Ordinary IsCheck (checkFirst self packet) := by
  refine .guard trivial fun _ => ?_
  refine (ordinary_mapErr (ordinary_decodeHeader packet) fun _ => trivial).bind fun _ _ => ?_
  refine .guard trivial fun _ => ?_
  exact .guard trivial fun _ => trivial

/-- The check of a chunk does not panic. -/
theorem ordinary_checkChunk (chunkCount ci : UInt32) (assembled : Nat) (packet : Bytes) :
    Ordinary IsCheck (checkChunk hdr chunkCount ci assembled packet) := by
  refine .guard trivial fun long => ?_
  have long := Nat.le_of_not_lt long
  refine (ordinary_mapErr (ordinary_decodeChunkHeader packet) fun _ => trivial).bind fun _ _ => ?_
  iterate 6 refine .guard trivial fun _ => ?_
  exact ordinary_readSlice (by omega) (by omega)

/-! ### Receiving -/

section Steady

variable {τ : Type} {view : Endpoint σ → τ} {os : Os σ}

theorem Steady.failingInflight (steady : Steady os view) {program : UdsProg σ α}
    (keeps : Keeps view program) : Keeps view (failingInflight program) := by
  refine keeps.inspect fun result => ?_
  match result with
  | .error (.err error) => exact steady.failAllInflight.bind fun _ => Keeps.fail _
  | .ok _ | .error .panic | .error .fuel => exact Keeps.ofRes _

/-- Taking an id out of those in flight keeps the view. -/
theorem Steady.takeInflight (steady : Steady os view) (hdr : Header) :
    Keeps view (takeInflight hdr : UdsProg σ Unit) := by
  refine getSession_keeps.bind fun self => Keeps.ite (Keeps.ite ?_ (Keeps.fail _)) (Keeps.pure _)
  exact steady.modify _ fun self => rfl

end Steady

/-- Only an error about a packet is returned; a panic is possible. -/
def Checks (result : Res UdsError α) : Prop :=
  ∀ error, result = .error (.err error) → IsCheck error

theorem checks_of_ordinary {result : Res UdsError α} (ordinary : Ordinary IsCheck result) :
    Checks result := fun _ failed => ordinary.allowed_of_error failed

theorem checks_readSlice (buf : Bytes) (start stop : Nat) : Checks (readSlice buf start stop) := by
  intro error failed
  unfold readSlice at failed
  split at failed <;> cases failed

/-- What it takes for an assertion to hold all through a receive: a packet may arrive and the
buffers may change. A check may fail or the code may panic, and then `stopped` has to hold. -/
structure Receiving (os : Os σ) (fuel : Nat) (controlled : Bool) (wait : ReceiveWait)
    (held : Endpoint σ → Prop) (stopped : Stop UdsError → Endpoint σ → Prop) : Prop where
  packet : ∀ buf, Exits held (failingInflight (rawRecvControl os fuel buf controlled wait))
    (fun _ => held) stopped
  buffers : ∀ endpoint recvBuf pktBuf, held endpoint →
    held { endpoint with session := { endpoint.session with recvBuf, pktBuf } }
  halted : ∀ reason endpoint, (∀ error, reason = .err error → IsCheck error) → held endpoint →
    stopped reason endpoint

section Receiving

variable {os : Os σ} {fuel : Nat} {controlled : Bool} {wait : ReceiveWait}
  {held : Endpoint σ → Prop} {stopped : Stop UdsError → Endpoint σ → Prop}

variable {β : Type} {post : β → Endpoint σ → Prop}

/-- A whole receive. -/
theorem receiveWithControl_exits {start : Endpoint σ → Prop} {timeoutMs : UInt32} {abort : Bool}
    {waits : ReceiveWait → Endpoint σ → Prop} {post : Header × Bytes → Endpoint σ → Prop}
    {buf : Bytes}
    (closed : ∀ endpoint, start endpoint → stopped (.err (.badParam "session closed")) endpoint)
    (made : Exits start (ReceiveWait.new os timeoutMs abort) waits stopped)
    (rest : ∀ controlled wait self, Exits (waits wait)
      (receiveMessage os fuel buf controlled wait self) post stopped) :
    Exits start (receiveWithControl os fuel buf timeoutMs abort) post stopped :=
  Exits.via (fun _ => start) (fun _ held => held) fun self =>
    Exits.ite (fun _ => Exits.stop _ closed) fun _ =>
      Exits.via _ made fun wait => rest _ wait self

variable (receiving : Receiving os fuel controlled wait held stopped)

include receiving

/-- A check in the middle of a receive: what follows knows that it passed. -/
theorem Receiving.check {result : Res UdsError α} (checks : Checks result) {next : α → UdsProg σ β}
    (rest : ∀ value, result = .ok value → Exits held (next value) post stopped) :
    Exits held (Prog.ofRes result >>= next) post stopped := by
  refine Exits.via _ (Exits.ofRes _ (fun _ _ start same => ⟨same, start⟩) ?_) fun value =>
    Exits.of_and (rest value)
  intro endpoint reason start same
  refine receiving.halted reason endpoint (fun error failed => checks error ?_) start
  rw [same, failed]

/-- Storing bytes in the receive buffer, or panicking. -/
theorem Receiving.write (off : Nat) (src : Bytes) :
    Exits held (onRecvBuf (write off src)) (fun _ => held) stopped := by
  intro endpoint start
  rw [onRecvBuf, Prog.run_zoom]
  by_cases bound : off + src.length ≤ endpoint.session.recvBuf.length
  · rw [run_write_of_le bound]
    exact receiving.buffers endpoint _ _ start
  · rw [show (NetIpc.write off src : Prog UdsError Bytes Unit).run endpoint.session.recvBuf =
      (.error .panic, endpoint.session.recvBuf) from if_neg bound]
    exact receiving.halted .panic _ (fun _ same => by cases same) start

/-- One turn of the chunk loop. -/
theorem Receiving.receiveChunk (hdr : Header) (expected : UInt32) (assembled : Nat) (ci : UInt32) :
    Exits held (receiveChunk os fuel controlled wait hdr expected assembled ci) (fun _ => held)
      stopped := by
  refine Exits.ite (fun _ => ?_) fun _ => Exits.pure _ fun _ start => start
  refine Exits.via (fun _ => held) (fun _ start => start) fun self => ?_
  refine Exits.via _ (receiving.packet _) fun read => ?_
  refine Exits.via (fun _ => held) (fun endpoint start => receiving.buffers endpoint _ _ start)
    fun _ => ?_
  refine receiving.check (checks_readSlice _ _ _) fun packet _ => ?_
  refine receiving.check (checks_of_ordinary (ordinary_checkChunk _ _ _ _ packet)) fun data _ => ?_
  exact Exits.via _ (receiving.write _ _) fun _ => Exits.pure _ fun _ start => start

theorem Receiving.validated (hdr : Header) (payload : Bytes) : Exits held
      (do
        Prog.ofRes (validateBatch hdr payload)
        return (hdr, payload))
      (fun message endpoint => message.1 = hdr ∧ held endpoint) stopped :=
  receiving.check (checks_of_ordinary (ordinary_validateBatch hdr payload)) fun _ _ =>
    Exits.pure _ fun _ start => ⟨rfl, start⟩

/-- The chunk loop, and the directory check at its end. -/
theorem Receiving.receiveChunks (hdr : Header) (data : Bytes) :
    Exits held (receiveChunks os fuel controlled wait hdr data)
      (fun message endpoint => message.1 = hdr ∧ held endpoint) stopped := by
  have changes (recvBuf pktBuf : UdsSession → Bytes) : Exits held (modifySession fun self =>
      { self with recvBuf := recvBuf self, pktBuf := pktBuf self }) (fun _ => held) stopped :=
    fun endpoint start => receiving.buffers endpoint _ _ start
  have got : Exits held (getSession : UdsProg σ UdsSession) (fun _ => held) stopped :=
    fun _ start => start
  refine Exits.via _ (changes _ _) fun _ => Exits.via _ (receiving.write _ _) fun _ => ?_
  refine Exits.via _ got fun self => Exits.ite (fun _ => ?_) fun _ => ?_
  · exact Exits.stop _ fun endpoint => receiving.halted .panic endpoint nofun
  refine Exits.via _ (changes _ _) fun _ => Exits.via (fun _ => held) ?_ fun _ => ?_
  · refine Exits.loop_or_fuel (fun _ => held) (fun loop => ?_)
      (fun _ endpoint => receiving.halted .fuel endpoint nofun) _ _
    refine (receiving.receiveChunk hdr _ loop.1 loop.2).mono (fun _ start => start) ?_
      fun _ _ ended => ended
    rintro (_ | _) _ start
    · exact start
    · exact start
  · exact Exits.via _ got fun self => receiving.check (checks_readSlice _ _ _) fun payload _ =>
      receiving.validated hdr payload

/-- A receive from the first packet on; `after` holds once the message id has been looked at. -/
theorem Receiving.receiveMessage {after : Header → Endpoint σ → Prop}
    (taken : ∀ hdr, Exits held (takeInflight hdr) (fun _ => after hdr) stopped)
    (rest : ∀ hdr, Receiving os fuel controlled wait (after hdr) stopped) (buf : Bytes)
    (self : UdsSession) : Exits held (receiveMessage os fuel buf controlled wait self)
      (fun message => after message.1) stopped := by
  have reject (condition : Prop) [Decidable condition] (text : String) :
      Checks (rejectIf condition (.protocol text)) :=
    checks_of_ordinary (ordinary_rejectIf (by trivial))
  refine Exits.via _ (receiving.packet _) fun read => ?_
  refine receiving.check (checks_readSlice _ _ _) fun packet _ => ?_
  refine receiving.check (checks_of_ordinary (ordinary_checkFirst self packet)) fun hdr _ => ?_
  refine Exits.via _ (taken hdr) fun _ => ?_
  refine (rest hdr).check (reject _ _) fun _ _ => (rest hdr).check (reject _ _) fun _ _ => ?_
  refine (rest hdr).check (checks_readSlice _ _ _) fun data _ => ?_
  suffices ended : Exits (after hdr) _ (fun (message : Header × Bytes) endpoint =>
      message.1 = hdr ∧ after hdr endpoint) stopped by
    refine ended.mono (fun _ start => start) ?_ fun _ _ ended => ended
    rintro message endpoint ⟨rfl, held⟩
    exact held
  exact Exits.ite (fun _ => (rest hdr).validated hdr data) fun _ =>
    (rest hdr).receiveChunks hdr data

end Receiving

section Steady

variable {τ : Type} {view : Endpoint σ → τ} {os : Os σ}

theorem Steady.receiving (steady : Steady os view) (fuel : Nat) (controlled : Bool)
    (wait : ReceiveWait) (seen : τ) :
    Receiving os fuel controlled wait (view · = seen) fun _ endpoint => view endpoint = seen where
  packet buf := Exits.of_keeps
    (steady.failingInflight (steady.rawRecvControl fuel buf controlled wait)) (· = seen)
  buffers endpoint recvBuf pktBuf held :=
    (steady.modify (fun self => { self with recvBuf, pktBuf }) (fun _ => rfl) endpoint).trans held
  halted _ _ _ held := held

theorem Steady.receiveWithControl (steady : Steady os view) (fuel : Nat) (buf : Bytes)
    (timeoutMs : UInt32) (abort : Bool) :
    Keeps view (receiveWithControl os fuel buf timeoutMs abort) := by
  refine Keeps.of_exits fun seen => receiveWithControl_exits (fun _ held => held)
    (Exits.of_keeps (steady.toCalm.new timeoutMs abort) (· = seen)) fun controlled wait self => ?_
  exact (steady.receiving fuel controlled wait seen).receiveMessage
    (fun hdr => Exits.of_keeps (steady.takeInflight hdr) (· = seen))
    (fun _ => steady.receiving fuel controlled wait seen) buf self

end Steady

theorem receiveWithControl_keeps (fuel : Nat) (buf : Bytes) (timeoutMs : UInt32) (abort : Bool) :
    Keeps terms (receiveWithControl os fuel buf timeoutMs abort) :=
  (steady_terms os).receiveWithControl fuel buf timeoutMs abort

end NetIpc.Uds
