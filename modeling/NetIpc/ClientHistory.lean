/-
This file follows the connections of a client through everything its owner can do with
it, against any environment.

The environment is watched: it keeps a record of every connect, every attach and every
session that was dropped (`ClientOs.watch`), which no answer depends on. An exchange with the
server changes neither that record nor the counters of connections, so an invariant of the two
only has to be proved for dropping a connection and for making one (`Steadfast`). A lookup is a
sequence of the operations of the owner with readings of the clock and of the abort flag between
them, so it does not leave the histories of a client.

The client sends in an attempt only. That every attempt is made in the state READY is said by
putting a guard in front of it: nothing changes.
-/

import NetIpc.ClientCall
import NetIpc.ClientLookup
import NetIpc.UdsTerms

namespace NetIpc

variable {σ α β : Type}

/-! ### A watched environment -/

/-- What happens to the connections of a client; `packets` are what a handshake sent. -/
inductive LinkEvent where
  | connected (packets : List Bytes) (result : Except ConnectError Session)
  | attached (result : Except ShmError ShmContext)
  | dropped (session : Session)

/-- After this event the client stores the new session: a handshake that chose no shared memory, or
an attach to the region of one that did. -/
def LinkEvent.stores : LinkEvent → Bool
  | .connected _ (.ok session) => !Client.isShmProfile session.selectedProfile
  | .attached (.ok _) => true
  | .connected _ (.error _) | .attached (.error _) | .dropped _ => false

/-- How many sessions the client stored. -/
def stored (links : List LinkEvent) : Nat := links.countP LinkEvent.stores

theorem stored_concat (links : List LinkEvent) (event : LinkEvent) :
    stored (links ++ [event]) = stored links + event.stores.toNat := by
  rw [stored, stored, List.countP_append, List.countP_singleton]
  cases event.stores <;> rfl

/-- An environment with the record of the connections. -/
structure Watched (σ : Type) where
  inner : σ
  links : List LinkEvent

/-- An operation that leaves nothing in the record. -/
def Watched.lift (step : σ → α × σ) (state : Watched σ) : α × Watched σ :=
  ((step state.inner).1, { state with inner := (step state.inner).2 })

/-- `UdsSession::connect`, with the packets it sent. -/
abbrev Dial (σ : Type) :=
  TransportClientConfig → σ → (List Bytes × Except ConnectError Session) × σ

/-- The environment `os` with the record; connecting is done by `dial`. -/
def ClientOs.watch (os : ClientOs σ) (dial : Dial σ) : ClientOs (Watched σ) where
  sendmsg packet := Watched.lift (os.sendmsg packet)
  recv size := Watched.lift (os.recv size)
  poll timeout := Watched.lift (os.poll timeout)
  now := Watched.lift os.now
  load := Watched.lift os.load
  connect config state :=
    let answer := dial config state.inner
    (answer.1.2, ⟨answer.2, state.links ++ [.connected answer.1.1 answer.1.2]⟩)
  clientAttach sessionId state :=
    let answer := os.clientAttach sessionId state.inner
    (answer.1, ⟨answer.2, state.links ++ [.attached answer.1]⟩)
  shmSend shm message := Watched.lift (os.shmSend shm message)
  shmReceive shm size waitMs := Watched.lift (os.shmReceive shm size waitMs)
  closeShm shm state := { state with inner := os.closeShm shm state.inner }
  dropSession session state :=
    ⟨os.dropSession session state.inner, state.links ++ [.dropped session]⟩
  sleep ms state := { state with inner := os.sleep ms state.inner }
  storeAbort requested state := { state with inner := os.storeAbort requested state.inner }

namespace Client

/-- What the record says about a client: the profile of its session, the counters of connections,
the profiles it supports, and what happened to its connections. -/
structure Footing where
  profile : Option UInt32
  connectCount : UInt32
  reconnectCount : UInt32
  supportedProfiles : UInt32
  links : List LinkEvent

def footing (world : ClientWorld (Watched σ)) : Footing where
  profile := sessionProfile world.client
  connectCount := world.client.connectCount
  reconnectCount := world.client.reconnectCount
  supportedProfiles := world.client.transportConfig.supportedProfiles
  links := world.os.links

/-! ### What an exchange leaves alone -/

section Watch

variable (os : ClientOs σ) (dial : Dial σ)

theorem steady_links : Uds.Steady (os.watch dial).toOs
    fun endpoint : Endpoint (Watched σ) => endpoint.os.links where
  toCalling := Uds.Calling.of_calls (fun _ _ => rfl) (fun _ _ => rfl) (fun _ _ => rfl)
    (fun _ => rfl) fun _ => rfl
  modify _ _ _ := rfl

theorem onSession_footing {program : UdsProg (Watched σ) α}
    (keeps : Keeps (fun endpoint => endpoint.os.links) program) :
    Keeps footing (onSession program) := by
  intro world
  cases found : world.client.session with
  | none => simp [onSession, Prog.run, found]
  | some session =>
    have same := keeps ⟨session.toUdsSession, world.os, world.trace⟩
    rw [run_onSession found]
    simp [withEndpoint, footing, sessionProfile, found, same]

theorem exchanges_footing : Exchanges (os.watch dial) footing where
  load _ := rfl
  now _ := rfl
  shmReceive _ _ _ _ := rfl
  receive fuel buf timeoutMs :=
    onSession_footing ((steady_links os dial).receiveWithControl fuel buf timeoutMs true)
  shmSend _ _ _ := rfl
  send hdr payload := onSession_footing ((steady_links os dial).send hdr payload)
  limits change relimits world := by
    obtain ⟨request, response, same⟩ := relimits world.client
    show footing { world with client := change world.client } = _
    rw [same]
    rfl

theorem attempt_footing (fuel : Nat) (methodCode : UInt16) (reqLen : Nat) (call : RawCallKind)
    (timeoutMs : UInt32) :
    Keeps footing (attempt (os.watch dial) fuel methodCode reqLen call timeoutMs) := by
  refine Keeps.bind (fun _ => rfl) fun self => Keeps.inspect ?_ fun result => ?_
  · exact (exchanges_footing os dial).doRawCall fuel _ reqLen call timeoutMs
  · exact Keeps.bind (fun _ => rfl) fun _ => Keeps.ofRes _

/-- Dropping the connection leaves an entry for the session, if there was one. -/
theorem footing_disconnect (world : ClientWorld (Watched σ)) :
    footing ((disconnect (os.watch dial)).run world).2 = { footing world with
      profile := none
      links := world.os.links ++ (world.client.session.map LinkEvent.dropped).toList } := by
  have closed : (world.client.shm.elim id (os.watch dial).closeShm world.os).links =
      world.os.links := by
    cases world.client.shm <;> rfl
  cases found : world.client.session with
  | none => simp [disconnect, Prog.run, Prog.modify, footing, sessionProfile, found, closed]
  | some session =>
    simp [disconnect, Prog.run, Prog.modify, footing, sessionProfile, found, ClientOs.watch,
      ← closed]

/-! ### Invariants of the record -/

/-- An invariant of the record: dropping a connection keeps it, and so does making one, where
`pending` holds between a new session and its being counted. -/
structure Steadfast (held pending : Footing → Prop) : Prop where
  disconnects : ∀ world, held (footing world) →
    held (footing ((disconnect (os.watch dial)).run world).2)
  connects : ∀ fuel, Triple (fun world => world.client.session = none ∧ held (footing world))
    (tryConnect (os.watch dial) fuel) (fun state world =>
      (state = .ready → pending (footing world)) ∧ (state ≠ .ready → held (footing world)))
    fun _ world => held (footing world)
  connected : ∀ found, pending found →
    held { found with connectCount := found.connectCount + 1 }
  reconnected : ∀ found, pending found →
    held { found with reconnectCount := found.reconnectCount + 1 }

end Watch

section Steadfast

variable {os : ClientOs σ} {dial : Dial σ} {held pending : Footing → Prop}

/-- The worlds in which an invariant of the record holds. -/
def Holding (held : Footing → Prop) (world : ClientWorld (Watched σ)) : Prop :=
  held (footing world)

theorem Steadfast.survives (steadfast : Steadfast os dial held pending) :
    Survives (os.watch dial) (Holding held) (Holding pending) where
  loads _ start := start
  tallied _ _ _ _ start := start
  pended _ _ start := start
  disconnects := steadfast.disconnects
  connects := steadfast.connects
  connected _ start := steadfast.connected _ start
  reconnected _ start := steadfast.reconnected _ start
  attempts fuel methodCode reqLen call timeoutMs :=
    (attempt_footing os dial fuel methodCode reqLen call timeoutMs).triple held

end Steadfast

/-! ### Lookups -/

/-- Not a call. -/
def Operation.isFree : Operation → Bool
  | .call .. => false
  | _ => true

/-- A condition on operations that lets the lookups of a method through: it is about calls only, and
a request for as many keys as the session has room for meets it. -/
structure Lenient (os : ClientOs σ) (allowed : RawClient → Operation → Prop)
    (start : ClientWorld σ) {κ : Type} (method : LookupMethod κ α) : Prop where
  free : ∀ client operation, operation.isFree → allowed client operation
  asked : ∀ world, History os allowed start world → ∀ keys reqCount reqSize reqKeys buf reqLen after
    timeoutMs,
    method.nextRequestCount keys world.client.sessionMaxRequestPayloadBytes =
      .ok (reqCount, reqSize) → buf.length = reqSize →
    (method.encodeRequest reqKeys).run buf = (.ok reqLen, after) →
      allowed world.client (.call method.code reqLen .single timeoutMs)

section Lookups

variable {os : ClientOs σ} {allowed : RawClient → Operation → Prop} {start : ClientWorld σ}

theorem history_operation (fuel : Nat) (operation : Operation) :
    Triple (fun world => History os allowed start world ∧ allowed world.client operation)
      (operation.perform os fuel) (fun _ => History os allowed start)
      fun _ => History os allowed start := by
  rintro world ⟨before, allow⟩
  match ran : (operation.perform os fuel).run world with
  | (.ok (), _) | (.error (.err _), _) => exact before.next allow ran trivial
  | (.error .panic, _) | (.error .fuel, _) => trivial

theorem history_note (event : LookupEvent) :
    Triple (History os allowed start) (note event) (fun _ => History os allowed start)
      fun _ => History os allowed start :=
  Triple.of_after fun _ before => History.noted event before

theorem history_getClient {blame : NipcError → ClientWorld σ → Prop} :
    Triple (History os allowed start) getClient
      (fun self world => History os allowed start world ∧ world.client = self) blame :=
  fun _ before => ⟨before, rfl⟩

theorem history_ofRes (result : Res NipcError α) :
    Triple (History os allowed start) (Prog.ofRes result) (fun _ => History os allowed start)
      fun _ => History os allowed start :=
  Triple.of_after fun _ before => before

theorem history_subcall (fuel : Nat) (methodCode : UInt16) (first count reqLen : Nat)
    (timeoutMs : UInt32) :
    Triple (fun world => History os allowed start world ∧
        allowed world.client (.call methodCode reqLen .single timeoutMs))
      (subcall os fuel methodCode first count reqLen timeoutMs)
      (fun _ => History os allowed start) fun _ => History os allowed start := by
  refine getClient_triple.bind fun self => ?_
  have called : Triple (fun world => History os allowed start world ∧
        allowed world.client (.call methodCode reqLen .single timeoutMs))
      (rawCallWithRetryTimeout os fuel methodCode reqLen .single timeoutMs)
      (fun _ => History os allowed start) fun _ => History os allowed start :=
    Triple.of_discard (history_operation fuel (.call methodCode reqLen .single timeoutMs))
  refine Triple.inspect called (fun payload => ?_) (fun error => ?_) (fun _ _ => trivial)
    fun _ _ => trivial
  · exact (history_note _).bind fun _ => history_ofRes _
  · exact (history_note _).bind fun _ => history_ofRes _

/-- Reading the flag and the clock does not change the client. -/
theorem history_lookupRemainingTimeout (deadline : Nat) (fits : RawClient → Prop) :
    Triple (fun world => History os allowed start world ∧ fits world.client)
      (lookupRemainingTimeout os deadline)
      (fun _ world => History os allowed start world ∧ fits world.client)
      fun _ => History os allowed start := by
  refine Exits.via (fun _ world => History os allowed start world ∧ fits world.client)
    (fun world start => ⟨.loaded start.1, start.2⟩) fun aborted =>
    Exits.ite (fun _ => Triple.fail _ fun _ start => start.1) fun _ => ?_
  refine Exits.via (fun _ world => History os allowed start world ∧ fits world.client)
    (fun world start => ⟨.clocked start.1, start.2⟩) fun now =>
    Exits.ite (fun _ => Triple.fail _ fun _ start => start.1) fun _ => ?_
  exact Exits.pure _ fun _ start => start

section Passes

variable {κ : Type} {method : LookupMethod κ α} (lenient : Lenient os allowed start method)

include lenient

/-- The number of keys was chosen for the session the client has. -/
def Sized (method : LookupMethod κ α) (reqCount reqSize : Nat) (client : RawClient) : Prop :=
  ∃ keys, method.nextRequestCount keys client.sessionMaxRequestPayloadBytes =
    .ok (reqCount, reqSize)

/-- Writing a request is one of the operations, with the bytes that are in the buffer then. -/
theorem history_writeRequest (reqCount reqSize : Nat) (reqKeys : List κ) :
    Triple (fun world => History os allowed start world ∧
        Sized method reqCount reqSize world.client)
      (writeRequest reqSize (method.encodeRequest reqKeys))
      (fun reqLen world => History os allowed start world ∧ ∀ timeoutMs,
        allowed world.client (.call method.code reqLen .single timeoutMs))
      fun _ => History os allowed start := by
  rintro world ⟨before, keys, sized⟩
  have grown := History.operation 0
    (.writeRequest (Uds.grow world.client.requestBuf reqSize)) before (lenient.free _ _ rfl) trivial
  have wrote (written : Bytes) := History.operation 0 (.writeRequest written) grown
    (lenient.free _ _ rfl) trivial
  have length : ((Uds.grow world.client.requestBuf reqSize).take reqSize).length = reqSize := by
    rw [List.length_take, Nat.min_eq_left (Uds.le_length_grow _ _)]
  rw [show (writeRequest reqSize (method.encodeRequest reqKeys)).run world =
    (((method.encodeRequest reqKeys).run _).1, _) from rfl]
  match ran : (method.encodeRequest reqKeys).run
    ((Uds.grow world.client.requestBuf reqSize).take reqSize) with
  | (.ok reqLen, after) =>
    exact ⟨wrote _, fun timeoutMs => lenient.asked _ (wrote _) keys reqCount reqSize reqKeys _
      reqLen after timeoutMs sized length ran⟩
  | (.error _, _) => exact .of_forall fun _ _ => wrote _

variable [DecidableEq κ] (fuel : Nat) (keys : List κ) (deadline : Nat) (progress : Progress)

theorem history_askKeys (reqCount reqSize : Nat) :
    Triple (fun world => History os allowed start world ∧
        Sized method reqCount reqSize world.client)
      (askKeys method os fuel keys deadline progress reqCount reqSize)
      (fun _ => History os allowed start) fun _ => History os allowed start := by
  refine Exits.ite (fun _ => Triple.panic) fun _ => ?_
  refine (history_writeRequest lenient reqCount reqSize _).bind fun reqLen => ?_
  refine (history_lookupRemainingTimeout deadline fun client => ∀ timeoutMs,
    allowed client (.call method.code reqLen .single timeoutMs)).bind fun remaining => ?_
  refine getClient_triple.bind fun client =>
    Exits.ite (fun _ => Triple.fail _ fun _ start => start.1) fun _ => ?_
  refine Exits.via _ ((history_subcall fuel _ _ _ reqLen remaining).under fun _ start =>
    ⟨start.1, start.2 remaining⟩) fun response => ?_
  refine (history_ofRes _).bind fun accepted => Exits.ite (fun _ => ?_) fun _ => ?_
  · exact Exits.pure _ fun _ before => before
  · refine Exits.ite (fun _ => Exits.pure _ fun _ before => before) fun _ => ?_
    exact (history_ofRes _).bind fun view => Exits.pure _ fun _ before => before

theorem history_oversizedKey (key : κ) :
    Triple (History os allowed start) (oversizedKey method os fuel keys deadline progress key)
      (fun _ => History os allowed start) fun _ => History os allowed start := by
  refine (history_ofRes _).bind fun oneItemSize => getClient_triple.bind fun client => ?_
  refine Exits.via _ (Triple.of_discard ((history_operation fuel
    (.ensureLookupRequestCapacity oneItemSize)).under fun _ before =>
      ⟨before, lenient.free _ _ rfl⟩)) fun enough => ?_
  refine Exits.ite (fun _ => Exits.pure _ fun _ before => before) fun _ => ?_
  refine (history_note _).bind fun _ => (history_ofRes _).bind fun item => ?_
  refine Exits.ite (fun _ => Exits.pure _ fun _ before => before) fun _ => ?_
  refine history_getClient.bind fun client => Triple.ofRes_bind (fun _ _ start _ => start.1)
    fun next sized => (history_askKeys lenient fuel keys deadline _ _ _).under ?_
  rintro world ⟨before, rfl⟩
  exact ⟨before, _, sized⟩

theorem history_lookupPass :
    Triple (History os allowed start) (lookupPass method os fuel keys deadline progress)
      (fun _ => History os allowed start) fun _ => History os allowed start := by
  refine history_getClient.bind fun client => ?_
  split
  · rename_i sized
    refine (history_askKeys lenient fuel keys deadline progress _ _).under ?_
    rintro world ⟨before, rfl⟩
    exact ⟨before, _, sized⟩
  · exact (history_oversizedKey lenient fuel keys deadline progress _).under fun _ held => held.1
  · exact Triple.of_after fun _ held => held.1

theorem history_callLookup (timeoutMs : UInt32) :
    Triple (History os allowed start) (callLookupWithTimeout method os fuel keys timeoutMs)
      (fun _ => History os allowed start) fun _ => History os allowed start := by
  refine getClient_triple.bind fun client => (history_ofRes _).bind fun _ => ?_
  refine (history_ofRes _).bind fun _ => ?_
  refine Exits.via _ ((history_operation fuel .ensureReadyForLogicalLookup).under fun _ before =>
    ⟨before, lenient.free _ _ rfl⟩) fun _ => ?_
  refine Exits.via (fun _ => History os allowed start) (getClient_triple.bind fun self =>
    Exits.via (fun _ => History os allowed start) (fun _ before => .clocked before) fun now =>
      Exits.pure _ fun _ before => before) fun deadline => ?_
  refine Triple.loop (fun _ => History os allowed start) (fun progress => ?_) fuel _
  refine (history_lookupPass lenient fuel keys deadline progress).mono (fun _ before => before)
    (fun result _ kept => ?_) fun _ _ kept => kept
  cases result with
  | inl progress => exact kept
  | inr view => exact kept

/-- A lookup does not leave the histories of its client. -/
theorem Completed.history_lookup {fuel : Nat} {keys : List κ} {timeoutMs : UInt32}
    {result : Res NipcError LookupResponseView} {world after : ClientWorld σ}
    (ended : Completed result) (history : History os allowed start world)
    (ran : (callLookupWithTimeout method os fuel keys timeoutMs).run world = (result, after)) :
    History os allowed start after := by
  have looked := history_callLookup lenient fuel keys timeoutMs world history
  rw [ran] at looked
  match result with
  | .ok _ | .error (.err _) => exact looked
  | .error .panic | .error .fuel => exact ended.elim

end Passes

end Lookups

/-- An invariant of the record that a new client has is one of all its histories. -/
theorem Steadfast.history {os : ClientOs σ} {dial : Dial σ} {held pending : Footing → Prop}
    {allowed : RawClient → Operation → Prop} {start world : ClientWorld (Watched σ)}
    (steadfast : Steadfast os dial held pending) (sound : Sound start.client)
    (holding : Holding held start) (history : History (os.watch dial) allowed start world) :
    Holding held world := by
  induction history with
  | refl => exact holding
  | @operation world fuel operation before _ ended ih =>
    have rule := steadfast.survives
    have kept := rule.perform ⟨fun _ _ start => start, fun _ _ _ _ _ _ start => start⟩ fuel
      operation (fun _ start => start) fun methodCode reqLen kind timeoutMs _ =>
        (rule.rawCallWithRetryTimeout fuel methodCode reqLen kind timeoutMs).under (fun _ start =>
          start.2)
    exact ended.held kept ⟨before.sound sound, ih⟩
  | loaded before ih => exact ih
  | clocked before ih => exact ih
  | noted event before ih => exact ih

/-! ### Sessions stored and counted -/

/-- The two counters count the stored sessions, all but `uncounted`. Each of them wraps. -/
def Counted (uncounted : Nat) (found : Footing) : Prop :=
  ∃ connects reconnects : Nat, found.connectCount = UInt32.ofNat connects ∧
    found.reconnectCount = UInt32.ofNat reconnects ∧
    connects + reconnects + uncounted = stored found.links

section Counted

variable (os : ClientOs σ) (dial : Dial σ)

/-- An event that stores a session leaves one more to count. -/
theorem Counted.concat {found : Footing} (counted : Counted 0 found) (event : LinkEvent)
    {uncounted : Nat} (stores : event.stores.toNat = uncounted) :
    Counted uncounted { found with links := found.links ++ [event] } := by
  obtain ⟨connects, reconnects, connect, reconnect, total⟩ := counted
  refine ⟨connects, reconnects, connect, reconnect, ?_⟩
  show _ = stored (found.links ++ [event])
  rw [stored_concat, ← total, stores, Nat.add_zero]

/-- An attempt to connect stores a session when it says that the client is ready, and only then. -/
theorem dials_counted : Dials (os.watch dial) (Holding (Counted 0))
    (fun session => Holding (Counted (!isShmProfile session.selectedProfile).toNat))
    fun state => Holding (Counted (if state = .ready then 1 else 0)) where
  connects world answer state start connected := by
    cases connected
    cases (dial world.client.transportConfig world.os.inner).1.2 with
    | ok session => exact start.concat (.connected _ (.ok session)) rfl
    | error error =>
      rw [Answered, if_neg (stateOfConnectError_ne_ready error)]
      exact start.concat (.connected _ (.error error)) rfl
  clock _ _ start := start
  sleep _ _ _ start := start
  attaches session world answer state shared start attached := by
    rw [shared] at start
    cases attached
    cases (os.clientAttach session.sessionId world.os.inner).1 with
    | ok shm => exact start.concat (.attached (.ok shm)) rfl
    | error error =>
      rw [Answered, shared]
      exact start.concat (.attached (.error error)) rfl
  drops session world shared start := by
    rw [shared] at start
    exact start.concat (.dropped session) rfl
  ends _ start := start
  plain session _ plain start := by
    rw [plain] at start
    exact start

/-- Between two operations every stored session is counted. -/
theorem steadfast_counted : Steadfast os dial (Counted 0) (Counted 1) where
  disconnects world start := by
    rw [footing_disconnect]
    cases world.client.session with
    | none =>
      rw [Option.map_none, Option.toList_none, List.append_nil]
      exact start
    | some session => exact start.concat (.dropped session) rfl
  connects fuel := by
    refine Triple.mono ((dials_counted os dial).tryConnect fuel) (fun _ start => start.2)
      (fun state world made => ⟨fun ready => ?_, fun other => ?_⟩)
      fun _ _ kept => kept
    · rwa [if_pos ready] at made
    · rwa [if_neg other] at made
  connected found := by
    rintro ⟨connects, reconnects, connect, reconnect, total⟩
    refine ⟨connects + 1, reconnects, ?_, reconnect, by dsimp only; omega⟩
    show found.connectCount + 1 = _
    rw [connect, UInt32.ofNat_add]
    rfl
  reconnected found := by
    rintro ⟨connects, reconnects, connect, reconnect, total⟩
    refine ⟨connects, reconnects + 1, connect, ?_, by dsimp only; omega⟩
    show found.reconnectCount + 1 = _
    rw [reconnect, UInt32.ofNat_add]
    rfl

end Counted

/-! ### Sending in the state READY only -/

section Guard

theorem agrees_getClient {held : ClientWorld σ → Prop} {next other : RawClient → ClientProg σ α}
    (rest : ∀ self, Agrees held (next self) (other self)) :
    Agrees held (getClient >>= next) (getClient >>= other) :=
  fun world start => rest world.client world start

/-- A program behind a guard that stops everything when the client is not ready. -/
def whenReady (program : ClientProg σ α) : ClientProg σ α := do
  if (← getClient).state = .ready then program else Prog.stop .panic

variable (os : ClientOs σ) (fuel : Nat) (methodCode : UInt16) (reqLen : Nat) (call : RawCallKind)
  (timeoutMs : UInt32)

/-- The client's own way to send, behind the guard. -/
def sendWhenReady (hdr : Header) (reqLen : Nat) : ClientProg σ Unit :=
  whenReady (transportSendRequestBuf os hdr reqLen)

theorem attemptWith_agrees (kept : Ledger) :
    Agrees (Ready kept) (attemptWith (sendWhenReady os) os fuel methodCode reqLen call timeoutMs)
      (attempt os fuel methodCode reqLen call timeoutMs) := by
  intro world ready
  -- Only the abort flag is read before the request is sent.
  have guarded (hdr : Header) : Agrees (fun world => world.client.state = .ready)
      (doRawCallWith (sendWhenReady os) os fuel hdr reqLen call timeoutMs)
      (doRawCall os fuel hdr reqLen call timeoutMs) := by
    have reads : Triple (fun world => world.client.state = .ready) (abortRequested os)
        (fun _ world => world.client.state = .ready) fun _ _ => True := fun _ start => start
    refine Agrees.bind (Agrees.refl _) reads fun aborted =>
      Agrees.ite (fun _ => Agrees.refl _) fun _ world start => ?_
    have sent : (sendWhenReady os hdr reqLen).run world =
        (transportSendRequestBuf os hdr reqLen).run world := by
      rw [sendWhenReady, whenReady, Prog.run_bind_ok (run_getClient world), if_pos start]
    rw [Prog.run_bind, Prog.run_bind, sent]
  rw [attempt, attemptWith, attemptWith, Prog.run_bind_ok (run_getClient world),
    Prog.run_bind_ok (run_getClient world), Prog.run_inspect, Prog.run_inspect,
    guarded _ world ready.1]
  rfl

/-- From a ready client on, a pass never meets the guard closed. -/
theorem callPassWith_agrees (retries : UInt32) (kept : Ledger) :
    Agrees (Retrying kept retries)
      (callPassWith (sendWhenReady os) os fuel methodCode reqLen call timeoutMs retries)
      (callPass os fuel methodCode reqLen call timeoutMs retries) := by
  rintro world ⟨made, -, ready⟩
  have tries (kept : Ledger) := attemptWith_agrees os fuel methodCode reqLen call timeoutMs kept
  refine agrees_getClient (fun prev => ?_) world ready
  refine (tries _).inspect (attempt_triple os fuel methodCode reqLen call timeoutMs _)
    (fun _ => Agrees.refl _) (fun firstErr => ?_) (Agrees.refl _) (Agrees.refl _)
  refine Agrees.ite (fun _ => Agrees.refl _) fun _ => Agrees.ite (fun _ => ?_) fun _ =>
    Agrees.refl _
  rintro world ⟨first, -, ready⟩
  refine Agrees.bind (Agrees.refl _) (reconnect_triple os fuel firstErr _) (fun _ => ?_) world
    ready.2.2
  exact (tries _).inspect (attempt_triple os fuel methodCode reqLen call timeoutMs _)
    (fun _ => Agrees.refl _) (fun _ => Agrees.refl _) (Agrees.refl _) (Agrees.refl _)

/-- No operation of a sound client meets the guard closed. -/
theorem Operation.performWith_agrees (operation : Operation) :
    Agrees (fun world => Sound world.client) (operation.performWith (sendWhenReady os) os fuel)
      (operation.perform os fuel) := by
  cases operation with
  | call methodCode reqLen kind timeoutMs =>
    intro world sound
    have opened : Agrees (fun after => Sound after.client ∧ ledger after = ledger world)
        (rawCallWith (sendWhenReady os) os fuel methodCode reqLen kind timeoutMs)
        (rawCallWithRetryTimeout os fuel methodCode reqLen kind timeoutMs) := by
      refine Agrees.bind (Agrees.refl _) (ensureReadyForLogicalLookup_triple os _) fun _ => ?_
      refine agrees_getClient fun self after ready => ?_
      refine Agrees.loop (Retrying (ledger world))
        (fun retries => callPassWith_agrees os fuel methodCode reqLen kind _ retries _)
        (fun retries => callPass_triple os fuel methodCode reqLen kind _ retries _) fuel 0 after
        ⟨[], ⟨rfl, by decide, nofun⟩, ?_⟩
      rw [Ledger.logged_nil]
      exact ready
    show (rawCallWith (sendWhenReady os) os fuel methodCode reqLen kind timeoutMs >>= _).run world =
      (rawCallWithRetryTimeout os fuel methodCode reqLen kind timeoutMs >>= _).run world
    rw [Prog.run_bind, Prog.run_bind, opened world ⟨sound, rfl⟩]
  | _ => exact Agrees.refl _

end Guard

/-! ### The connection state machine -/

theorem Sound.ready_iff {client : RawClient} (sound : Sound client) :
    client.state = .ready ↔ client.session.isSome := by
  rcases sound with ⟨ready, profile, found, -⟩ | ⟨other, gone, -⟩
  · rw [sessionProfile, Option.map_eq_some_iff] at found
    obtain ⟨session, held, -⟩ := found
    simp [ready, held]
  · simp [other, gone]

theorem Sound.shm_iff {client : RawClient} (sound : Sound client) :
    client.shm.isSome ↔
      ∃ session, client.session = some session ∧ isShmProfile session.selectedProfile := by
  rcases sound with ⟨-, profile, found, attached⟩ | ⟨-, session, shm⟩
  · rw [sessionProfile, Option.map_eq_some_iff] at found
    obtain ⟨session, held, rfl⟩ := found
    simp [held, attached]
  · simp [session, shm]

theorem Counted.total {found : Footing} (counted : Counted 0 found)
    (few : stored found.links < 2 ^ 32) :
    found.connectCount.toNat + found.reconnectCount.toNat = stored found.links := by
  obtain ⟨connects, reconnects, connect, reconnect, total⟩ := counted
  rw [connect, reconnect, UInt32.toNat_ofNat', UInt32.toNat_ofNat', Nat.mod_eq_of_lt (by omega),
    Nat.mod_eq_of_lt (by omega)]
  exact total

/-- The invariant of the connection, in every history of a client and against every environment: a
session is held in the state READY only and always there; a region goes with a session that wants
one; a guard in front of every request changes nothing; every stored session is counted once. The
lookups stay in the histories. -/
theorem connection_invariant {os : ClientOs σ} {dial : Dial σ} {methodCode : UInt16}
    {config : TransportClientConfig} {state : σ} {world : ClientWorld (Watched σ)}
    (history : History (os.watch dial) (fun _ _ => True) (newWorld methodCode config ⟨state, []⟩)
      world) :
    (world.client.state = .ready ↔ world.client.session.isSome) ∧
    (world.client.shm.isSome ↔
      ∃ session, world.client.session = some session ∧ isShmProfile session.selectedProfile) ∧
    (∀ fuel operation,
      (Operation.performWith (sendWhenReady (os.watch dial)) (os.watch dial) fuel operation).run
        world = (operation.perform (os.watch dial) fuel).run world) ∧
    (stored world.os.links < 2 ^ 32 →
      world.client.connectCount.toNat + world.client.reconnectCount.toNat =
        stored world.os.links) ∧
    ∀ (κ β : Type) [DecidableEq κ] (method : LookupMethod κ β) (fuel : Nat) (keys : List κ)
      (timeoutMs : UInt32) (result : Res NipcError LookupResponseView)
      (after : ClientWorld (Watched σ)),
      (callLookupWithTimeout method (os.watch dial) fuel keys timeoutMs).run world =
        (result, after) → Completed result →
      History (os.watch dial) (fun _ _ => True) (newWorld methodCode config ⟨state, []⟩) after := by
  have new : Holding (Counted 0) (newWorld methodCode config (⟨state, []⟩ : Watched σ)) :=
    ⟨0, 0, rfl, rfl, rfl⟩
  have sound := history.sound (sound_newWorld methodCode config _)
  have counted := (steadfast_counted os dial).history (sound_newWorld _ _ _) new history
  refine ⟨sound.ready_iff, sound.shm_iff, fun fuel operation =>
    operation.performWith_agrees (os.watch dial) fuel world sound, counted.total, ?_⟩
  intro κ β _ method fuel keys timeoutMs result after ran ended
  have lenient : Lenient (os.watch dial) (fun _ _ => True) (newWorld methodCode config ⟨state, []⟩)
    method := ⟨fun _ _ _ => trivial, fun _ _ _ _ _ _ _ _ _ _ _ _ _ => trivial⟩
  exact ended.history_lookup lenient history ran

/-- A client that connected once. -/
theorem connection_invariant_connected :
    let session := Handshake.sessionOf 3 .client ⟨1, 0, 1, 1, 1, 1024, 1, 1024, 1, 4096, 7⟩
    let os := (scriptedOs session).watch fun _ script => (([], .ok session), script)
    let start := newWorld 1 ⟨1, 0, 1024, 1, 1024, 1, 0, 4096⟩ (⟨[], []⟩ : Watched (List Bytes))
    let after := ((Operation.perform os 9 .refresh).run start).2
    stored after.os.links = 1 ∧ after.client.state = .ready ∧ after.client.session.isSome ∧
      after.client.connectCount.toNat + after.client.reconnectCount.toNat = 1 := by
  intro session os start after
  have once : stored after.os.links = 1 := by decide +kernel
  have connected : after.client.state = .ready := by decide +kernel
  have returned : ((Operation.perform os 9 .refresh).run start).1 = .ok () := by decide +kernel
  have history : History os (fun _ _ => True) start after :=
    .operation 9 .refresh .refl trivial (completed_of_ok returned)
  obtain ⟨held, -, -, counted, -⟩ := connection_invariant history
  refine ⟨once, connected, held.mp connected, ?_⟩
  rw [counted (by rw [once]; decide), once]

end Client

end NetIpc
