/-
This file proves the contract of a raw call, for a client in any state it can reach
and against any environment.

An exchange with the server touches neither the state of the client nor its
counters nor whether it holds a connection, so everything a call does to them is
done by five small programs: succeeding, giving up, dropping the connection,
connecting and reconnecting. The retry loop carries one invariant: before pass `k`
there were `k` attempts, all of them failed with an overflow, and the client is
ready.
-/

import NetIpc.RawClient

namespace NetIpc

namespace Client

variable {σ α : Type}

/-! ### What an exchange leaves alone -/

/-- What only the owner of a client changes, and the log of lookups. -/
structure Settings where
  expectedMethodCode : UInt16
  callTimeoutMs : UInt32
  maxLogicalLookupItems : UInt32
  maxLogicalLookupSubcalls : UInt32
  maxLogicalLookupResponseBytes : UInt32
  requestBuf : Bytes
  calls : List LookupEvent

def settings (world : ClientWorld σ) : Settings where
  expectedMethodCode := world.client.expectedMethodCode
  callTimeoutMs := world.client.callTimeoutMs
  maxLogicalLookupItems := world.client.maxLogicalLookupItems
  maxLogicalLookupSubcalls := world.client.maxLogicalLookupSubcalls
  maxLogicalLookupResponseBytes := world.client.maxLogicalLookupResponseBytes
  requestBuf := world.client.requestBuf
  calls := world.calls

/-- What connecting leaves alone: the counters of calls, the attempts made and the settings. -/
structure Ledger where
  callCount : UInt32
  errorCount : UInt32
  attempts : List Attempt
  settings : Settings

def ledger (world : ClientWorld σ) : Ledger where
  callCount := world.client.callCount
  errorCount := world.client.errorCount
  attempts := world.attempts
  settings := settings world

/-- The profile of the session a client holds. -/
def sessionProfile (client : RawClient) : Option UInt32 :=
  client.session.map fun session => session.selectedProfile

/-- What one exchange with the server leaves alone. -/
structure Standing where
  state : ClientState
  profile : Option UInt32
  shm : Option ShmContext
  ledger : Ledger

def standing (world : ClientWorld σ) : Standing where
  state := world.client.state
  profile := sessionProfile world.client
  shm := world.client.shm
  ledger := ledger world

section View

variable {τ : Type} {view : ClientWorld σ → τ}

/-- A view that does not show the environment or the trace. -/
def BlindView (view : ClientWorld σ → τ) : Prop :=
  ∀ world os trace, view { world with os, trace } = view world

theorem BlindView.outside (blind : BlindView view) (step : σ → α × σ) :
    Keeps view (outside step) := fun world => blind world _ world.trace

theorem BlindView.observed (blind : BlindView view) (step : σ → α × σ) (event : α → Event) :
    Keeps view (observed step event) := fun world => blind world _ _

end View

/-- A view that waiting for a response keeps. -/
structure Waits (os : ClientOs σ) {τ : Type} (view : ClientWorld σ → τ) : Prop where
  load : Keeps view (observed os.load .loaded)
  now : Keeps view (observed os.now .clock)
  shmReceive : ∀ shm size waitMs, Keeps view (outside (os.shmReceive shm size waitMs))
  receive : ∀ fuel buf timeoutMs,
    Keeps view (onSession (Uds.receiveWithControl os.toOs fuel buf timeoutMs true))

section Waits

variable {τ : Type} {view : ClientWorld σ → τ} {os : ClientOs σ}

theorem BlindView.waits (blind : BlindView view) (os : ClientOs σ) (receive : ∀ fuel buf timeoutMs,
      Keeps view (onSession (Uds.receiveWithControl os.toOs fuel buf timeoutMs true))) :
    Waits os view :=
  ⟨blind.observed _ _, blind.observed _ _, fun _ _ _ => blind.outside _, receive⟩

theorem Waits.receiveWaitSliceMs (waits : Waits os view) (deadline : Option Nat) :
    Keeps view (receiveWaitSliceMs os deadline) := by
  refine waits.load.bind fun aborted => Keeps.ite (Keeps.fail _) ?_
  cases deadline with
  | none => exact Keeps.pure _
  | some deadline => exact waits.now.bind fun now => Keeps.ite (Keeps.fail _) (Keeps.pure _)

theorem Waits.receivePosixShmWithControl (waits : Waits os view) (fuel : Nat) (shm : ShmContext)
    (size : Nat) (timeoutMs : UInt32) :
    Keeps view (receivePosixShmWithControl os fuel shm size timeoutMs) := by
  have deadline_keeps : Keeps view (receiveDeadline os timeoutMs) :=
    Keeps.ite (waits.now.bind fun _ => Keeps.pure _) (Keeps.pure _)
  refine deadline_keeps.bind fun deadline => Keeps.loop (fun _ => ?_) _ _
  refine (waits.receiveWaitSliceMs deadline).bind fun waitMs => ?_
  refine (waits.shmReceive shm size waitMs).bind fun answer => ?_
  match answer with
  | .ok _ | .error .timeout => exact Keeps.pure _
  | .error .msgTooLarge | .error .other => exact Keeps.fail _

theorem Waits.transportReceive (waits : Waits os view) (fuel : Nat) (timeoutMs : UInt32) :
    Keeps view (transportReceive os fuel timeoutMs) := by
  refine Keeps.bind (fun _ => rfl) fun self => ?_
  cases self.shm with
  | some shm =>
    exact (waits.receivePosixShmWithControl fuel shm _ timeoutMs).bind fun _ => Keeps.ofRes _
  | none => exact (waits.receive _ _ _).bind fun _ => Keeps.ofRes _

end Waits

/-- A change of the two limits a client learns. -/
def Relimits (change : RawClient → RawClient) : Prop :=
  ∀ self, ∃ request response, change self = { self with
    transportConfig := { self.transportConfig with
      maxRequestPayloadBytes := request
      maxResponsePayloadBytes := response } }

theorem clientNoteRequestCapacity_relimits (payloadLen : UInt32) :
    Relimits fun self => self.clientNoteRequestCapacity payloadLen := by
  intro self
  dsimp only [RawClient.clientNoteRequestCapacity]
  split
  · exact ⟨_, self.transportConfig.maxResponsePayloadBytes, rfl⟩
  · exact ⟨self.transportConfig.maxRequestPayloadBytes,
      self.transportConfig.maxResponsePayloadBytes, rfl⟩

theorem clientNoteResponseCapacity_relimits (payloadLen : RawClient → UInt32) :
    Relimits fun self => self.clientNoteResponseCapacity (payloadLen self) := by
  intro self
  dsimp only [RawClient.clientNoteResponseCapacity]
  split
  · exact ⟨self.transportConfig.maxRequestPayloadBytes, _, rfl⟩
  · exact ⟨self.transportConfig.maxRequestPayloadBytes,
      self.transportConfig.maxResponsePayloadBytes, rfl⟩

/-- A view that an exchange with the server keeps. -/
structure Exchanges (os : ClientOs σ) {τ : Type} (view : ClientWorld σ → τ) : Prop extends
    Waits os view where
  shmSend : ∀ shm message, Keeps view (outside (os.shmSend shm message))
  send : ∀ hdr payload, Keeps view (onSession (Uds.send os.toOs hdr payload))
  limits : ∀ change, Relimits change → Keeps view (modifyClient change)

section Exchanges

variable {τ : Type} {view : ClientWorld σ → τ} {os : ClientOs σ}

section Exchanges

variable (exchanges : Exchanges os view)

include exchanges

theorem Exchanges.requestOverflow (reqLen : Nat) :
    Keeps view (requestOverflow reqLen) :=
  (exchanges.limits _ (clientNoteRequestCapacity_relimits _)).bind fun _ => Keeps.fail _

theorem Exchanges.transportSendRequestBuf (hdr : Header) (reqLen : Nat) :
    Keeps view (transportSendRequestBuf os hdr reqLen) := by
  refine Keeps.bind (fun _ => rfl) fun self => ?_
  cases self.shm with
  | some shm =>
    refine Keeps.ite (exchanges.requestOverflow reqLen)
      (Keeps.bind (Keeps.ofRes _) fun payload => ?_)
    refine (exchanges.shmSend shm _).bind fun answer => ?_
    match answer with
    | .ok () => exact Keeps.pure _
    | .error .msgTooLarge => exact exchanges.requestOverflow reqLen
    | .error .timeout | .error .other => exact Keeps.fail _
  | none =>
    refine Keeps.bind (Keeps.ofRes _) fun _ => Keeps.bind (Keeps.ofRes _) fun payload => ?_
    refine (exchanges.send hdr payload).bind fun answer => ?_
    split
    · exact Keeps.pure _
    · exact exchanges.requestOverflow reqLen
    · exact Keeps.fail _
    · exact Keeps.stop _
    · exact Keeps.stop _

theorem Exchanges.responseOverflow :
    Keeps view (responseOverflow : ClientProg σ α) := by
  refine Keeps.bind (exchanges.limits _ fun self => ?_) fun _ => Keeps.fail _
  dsimp only
  split
  · exact clientNoteResponseCapacity_relimits
      (fun self => saturatingDouble self.sessionMaxResponsePayloadBytes) self
  · exact ⟨self.transportConfig.maxRequestPayloadBytes,
      self.transportConfig.maxResponsePayloadBytes, rfl⟩

theorem Exchanges.doRawCall (fuel : Nat) (hdr : Header) (reqLen : Nat) (call : RawCallKind)
    (timeoutMs : UInt32) :
    Keeps view (doRawCall os fuel hdr reqLen call timeoutMs) := by
  refine exchanges.load.bind fun aborted => Keeps.ite (Keeps.fail _) ?_
  refine (exchanges.transportSendRequestBuf hdr reqLen).bind fun _ => ?_
  refine (exchanges.transportReceive fuel timeoutMs).bind fun response => ?_
  refine Keeps.bind (Keeps.ofRes _) fun _ => Keeps.ite ?_ (Keeps.ite ?_ (Keeps.fail _))
  · exact Keeps.bind (Keeps.ofRes _) fun _ => Keeps.pure _
  · exact exchanges.responseOverflow

end Exchanges

end Exchanges

theorem blindView_standing : BlindView (standing (σ := σ)) := fun _ _ _ => rfl

theorem onSession_keeps (program : UdsProg σ α) : Keeps standing (onSession program) := by
  intro world
  cases found : world.client.session with
  | none => simp [onSession, Prog.run, found]
  | some session =>
    rw [run_onSession found]
    simp [withEndpoint, standing, sessionProfile, found, ledger, settings]

/-- The two limits are none of what an exchange leaves alone. -/
theorem modifyClient_keeps {change : RawClient → RawClient} (relimits : Relimits change) :
    Keeps (standing (σ := σ)) (modifyClient change) := by
  intro world
  obtain ⟨request, response, same⟩ := relimits world.client
  show standing { world with client := change world.client } = _
  rw [same]
  rfl

theorem doRawCall_keeps (os : ClientOs σ) (fuel : Nat) (hdr : Header) (reqLen : Nat)
    (call : RawCallKind) (timeoutMs : UInt32) :
    Keeps standing (doRawCall os fuel hdr reqLen call timeoutMs) := by
  have exchanges : Exchanges os (standing (σ := σ)) :=
    { blindView_standing.waits os fun _ _ _ => onSession_keeps _ with
      shmSend := fun _ _ => blindView_standing.outside _
      send := fun _ _ => onSession_keeps _
      limits := fun _ relimits => modifyClient_keeps relimits }
  exact exchanges.doRawCall fuel hdr reqLen call timeoutMs

/-! ### One attempt -/

/-- A response that answers a request. -/
structure Answers (request response : Header) : Prop where
  kind : response.kind = kindResponse
  code : response.code = request.code
  messageId : response.messageId = request.messageId
  transportStatus : response.transportStatus = statusOk

theorem doRawCall_answers {os : ClientOs σ} {fuel reqLen : Nat} {hdr respHdr : Header}
    {call : RawCallKind} {timeoutMs : UInt32} {payload : Bytes} {before after : ClientWorld σ}
    (ran : (doRawCall os fuel hdr reqLen call timeoutMs).run before =
      (.ok (respHdr, payload), after)) : Answers hdr respHdr := by
  obtain ⟨aborted, _, -, ran⟩ := Prog.run_bind_eq_ok ran
  cases aborted with
  | true => cases ran
  | false =>
    obtain ⟨_, _, -, ran⟩ := Prog.run_bind_eq_ok ran
    obtain ⟨⟨received, _⟩, _, -, ran⟩ := Prog.run_bind_eq_ok ran
    obtain ⟨_, matched, ran⟩ := Prog.run_ofRes_bind_eq_ok ran
    obtain ⟨kind, matched⟩ := guard_eq_ok matched
    obtain ⟨_, code, messageId⟩ := bind_eq_ok matched
    split at ran
    · rename_i status
      obtain ⟨_, -, ran⟩ := Prog.run_ofRes_bind_eq_ok ran
      cases ran
      exact ⟨not_not.mp kind, not_not.mp (rejectIf_eq_ok code),
        not_not.mp (rejectIf_eq_ok messageId), status⟩
    · split at ran
      · obtain ⟨_, _, -, ran⟩ := Prog.run_bind_eq_ok ran
        cases ran
      · cases ran

/-- An attempt adds its entry to the log and leaves the rest alone; what it returns answers its
request. -/
theorem attempt_run {os : ClientOs σ} {fuel reqLen : Nat} {methodCode : UInt16} {call : RawCallKind}
    {timeoutMs : UInt32} {before after : ClientWorld σ} {result : Res NipcError (Header × Bytes)}
    (ran : (attempt os fuel methodCode reqLen call timeoutMs).run before = (result, after)) :
    (∃ made : Attempt, made.request = requestHeader before.client methodCode call ∧
      made.result = result ∧
      standing after = { standing before with
        ledger := { (standing before).ledger with attempts := before.attempts ++ [made] } }) ∧
    ∀ respHdr payload, result = .ok (respHdr, payload) →
      Answers (requestHeader before.client methodCode call) respHdr := by
  have exchange := doRawCall_keeps os fuel (requestHeader before.client methodCode call) reqLen call
    timeoutMs
  cases called : (doRawCall os fuel (requestHeader before.client methodCode call) reqLen call
    timeoutMs).run before with
  | mk outcome between =>
    have same := exchange.of_run called
    rw [attempt, attemptWith, Prog.run_bind_ok (run_getClient before), Prog.run_inspect,
      ← doRawCall, called] at ran
    cases ran
    refine ⟨⟨⟨requestHeader before.client methodCode call, outcome⟩, rfl, rfl, ?_⟩,
      fun respHdr payload returned => ?_⟩
    · rw [← same]
      have attempts : between.attempts = before.attempts := congrArg (·.ledger.attempts) same
      rw [← attempts]
      rfl
    · subst returned
      exact doRawCall_answers called

/-! ### Connecting -/

/-- A state goes with what the client holds: a ready client has a session, and a region when the
profile of the session wants one; any other client has nothing. -/
def Linked (state : ClientState) (client : RawClient) : Prop :=
  (state = .ready ∧ ∃ profile, sessionProfile client = some profile ∧
      client.shm.isSome = isShmProfile profile) ∨
    (state ≠ .ready ∧ client.session = none ∧ client.shm = none)

/-- A ready client is one by its session's profile and its region. -/
theorem Linked.congr {before after : RawClient} (linked : Linked .ready before)
    (profile : sessionProfile after = sessionProfile before) (shm : after.shm = before.shm) :
    Linked .ready after := by
  rcases linked with ⟨-, chosen, found, held⟩ | ⟨other, -⟩
  · exact .inl ⟨rfl, chosen, profile.trans found, by rw [shm, held]⟩
  · exact absurd rfl other

/-- A client without a connection, with a given ledger. -/
def Unlinked (kept : Ledger) (world : ClientWorld σ) : Prop :=
  world.client.session = none ∧ world.client.shm = none ∧ ledger world = kept

theorem getClient_triple {held : ClientWorld σ → Prop} {blame : NipcError → ClientWorld σ → Prop} :
    Triple held getClient (fun _ => held) blame := fun _ start => start

/-- What holds after an answer of the environment. -/
def Answered {ε : Type} (granted : α → ClientWorld σ → Prop) (failed : ε → ClientWorld σ → Prop) :
    Except ε α → ClientWorld σ → Prop
  | .ok value => granted value
  | .error error => failed error

/-- The client with a session and its region. -/
def joined (session : Session) (shm : ShmContext) (world : ClientWorld σ) : ClientWorld σ :=
  { world with client := { world.client with shm := some shm, session := some session } }

/-- What making a connection takes, from `held` to `made`; `offered` holds while the client has a
session the server agreed to and is waiting for its region. -/
structure Dials (os : ClientOs σ) (held : ClientWorld σ → Prop)
    (offered : Session → ClientWorld σ → Prop) (made : ClientState → ClientWorld σ → Prop) :
    Prop where
  connects : ∀ world answer state, held world →
    os.connect world.client.transportConfig world.os = (answer, state) →
    Answered offered (fun error => made (stateOfConnectError error)) answer
      { world with os := state }
  clock : ∀ session world, offered session world →
    offered session ((observed os.now .clock).run world).2
  sleep : ∀ session world ms, offered session world →
    offered session { world with os := os.sleep ms world.os }
  attaches : ∀ session world answer state, isShmProfile session.selectedProfile = true →
    offered session world → os.clientAttach session.sessionId world.os = (answer, state) →
    Answered (fun shm world => made .ready (joined session shm world)) (fun _ => offered session)
      answer { world with os := state }
  drops : ∀ session world, isShmProfile session.selectedProfile = true → offered session world →
    held { world with
      os := os.dropSession session world.os, client := world.client.withoutShmProfiles }
  ends : ∀ world, held world → made .disconnected world
  plain : ∀ session world, isShmProfile session.selectedProfile = false → offered session world →
    made .ready { world with client := { world.client with session := some session } }

section Dials

variable {os : ClientOs σ} {held : ClientWorld σ → Prop}
  {offered : Session → ClientWorld σ → Prop} {made : ClientState → ClientWorld σ → Prop}
  {blame : NipcError → ClientWorld σ → Prop} (dials : Dials os held offered made)

include dials

theorem Dials.attachShm {session : Session}
    (shared : isShmProfile session.selectedProfile = true) (fuel : Nat) :
    Triple (offered session) (attachShm os fuel session.sessionId)
      (fun result world => result.elim (offered session world) fun shm =>
        made .ready (joined session shm world)) blame := by
  refine Exits.via (fun _ => offered session) (dials.clock session) fun now =>
    Triple.loop (fun _ => offered session) (fun _ => ?_) fuel ()
  refine Exits.via
    (Answered (fun shm world => made .ready (joined session shm world)) fun _ => offered session)
    (fun world start => dials.attaches session world _ _ shared start rfl) fun answer => ?_
  cases answer with
  | ok shm => exact Exits.pure _ fun world start => start
  | error reason =>
    refine Exits.via (fun _ => offered session) (dials.clock session) fun now =>
      Exits.ite (fun _ => Exits.pure _ fun _ start => start) fun _ => ?_
    exact Exits.via (fun _ => offered session) (fun world => dials.sleep session world _)
      fun _ => Exits.pure _ fun _ start => start

/-- The rule for `try_connect`. -/
theorem Dials.tryConnect (fuel : Nat) : Triple held (tryConnect os fuel) made blame := by
  refine Triple.loop (fun _ => held) (fun _ => ?_) fuel ()
  refine Exits.via (fun self world => world.client = self ∧ held world)
    (fun world start => ⟨rfl, start⟩) fun self => ?_
  refine Exits.via (Answered offered fun error => made (stateOfConnectError error))
    ?_ fun answer => ?_
  · rintro world ⟨rfl, start⟩
    exact dials.connects world _ _ start rfl
  cases answer with
  | error error => exact Exits.pure _ fun world start => start
  | ok session =>
    refine Exits.ite (fun shared => ?_) fun plain => fun world start =>
      dials.plain session world (Bool.eq_false_iff.mpr plain) start
    refine (dials.attachShm shared fuel).bind fun result => ?_
    cases result with
    | some shm => exact fun world start => start
    | none =>
      refine Exits.via (fun _ (world : ClientWorld σ) => held { world with
        client := world.client.withoutShmProfiles })
        (fun world start => dials.drops session world shared start) fun _ =>
          Exits.via (fun _ => held) (Exits.modify _ fun _ start => start) fun _ => ?_
      exact getClient_triple.bind fun _ => Exits.ite (fun _ => Exits.pure _ dials.ends)
        fun _ => Exits.pure _ fun _ start => start

end Dials

theorem stateOfConnectError_ne_ready (error : ConnectError) :
    stateOfConnectError error ≠ .ready := by
  cases error with
  | handshake error => cases error <;> simp [stateOfConnectError]
  | _ => simp [stateOfConnectError]

/-- Connecting from a client that holds nothing. -/
theorem dials_unlinked (os : ClientOs σ) (kept : Ledger) :
    Dials os (Unlinked kept) (fun _ => Unlinked kept)
      fun state after => Linked state after.client ∧ ledger after = kept where
  connects _ answer _ start _ := by
    cases answer with
    | error error =>
      exact ⟨.inr ⟨stateOfConnectError_ne_ready error, start.1, start.2.1⟩, start.2.2⟩
    | ok => exact start
  clock _ _ start := start
  sleep _ _ _ start := start
  attaches _ _ answer _ shared start _ := by
    cases answer with
    | error => exact start
    | ok => exact ⟨.inl ⟨rfl, _, rfl, shared.symm⟩, start.2.2⟩
  drops _ _ _ start := start
  ends _ start := ⟨.inr ⟨nofun, start.1, start.2.1⟩, start.2.2⟩
  plain _ world plain start := by
    refine ⟨.inl ⟨rfl, _, rfl, ?_⟩, start.2.2⟩
    show world.client.shm.isSome = _
    rw [start.2.1, plain]
    rfl

/-- How a call gives up, and how it ends when it cannot reconnect. -/
def Dropped (kept : Ledger) (world : ClientWorld σ) : Prop :=
  world.client.state ≠ .ready ∧ world.client.session = none ∧ world.client.shm = none ∧
    ledger world = { kept with errorCount := kept.errorCount + 1 }

/-- A client that can make an attempt. -/
def Ready (kept : Ledger) (world : ClientWorld σ) : Prop :=
  world.client.state = .ready ∧ Linked .ready world.client ∧ ledger world = kept

theorem giveUp_triple (os : ClientOs σ) (error : NipcError) (kept : Ledger)
    (post : α → ClientWorld σ → Prop) :
    Triple (fun world => ledger world = kept) (giveUp os error : ClientProg σ α) post
      fun returned after => returned = error ∧ Dropped kept after := by
  intro world same
  subst same
  exact ⟨rfl, nofun, rfl, rfl, rfl⟩

theorem reconnect_triple (os : ClientOs σ) (fuel : Nat) (error : NipcError) (kept : Ledger) :
    Triple (fun world => ledger world = kept) (reconnect os fuel error)
      (fun _ => Ready kept) fun returned after => returned = error ∧ Dropped kept after := by
  refine Exits.via (fun _ => Unlinked kept)
    (Exits.modify _ fun world same => ⟨rfl, rfl, same⟩) fun _ => ?_
  refine Exits.via (fun _ => Unlinked kept) (Exits.modify _ fun world start => start) fun _ => ?_
  refine ((dials_unlinked os kept).tryConnect fuel).bind fun state => ?_
  refine Exits.via
    (fun _ after => after.client.state = state ∧ Linked state after.client ∧ ledger after = kept)
    (Exits.modify _ fun world start => ⟨rfl, start⟩) fun _ =>
      Exits.ite (fun lost => ?_) fun made => ?_
  · rintro world ⟨rfl, linked, same⟩
    rcases linked with ⟨ready, -⟩ | ⟨-, session, shm⟩
    · exact absurd ready lost
    · subst same
      exact ⟨rfl, lost, session, shm, rfl⟩
  · rintro world ⟨rfl, linked, same⟩
    have ready := not_not.mp made
    exact ⟨ready, ready ▸ linked, same⟩

/-! ### The retry loop -/

/-- A ledger with more attempts. -/
def Ledger.logged (kept : Ledger) (made : List Attempt) : Ledger :=
  { kept with attempts := kept.attempts ++ made }

theorem Ledger.logged_logged (kept : Ledger) (first second : List Attempt) :
    (kept.logged first).logged second = kept.logged (first ++ second) := by
  simp only [Ledger.logged, List.append_assoc]

/-- The error an attempt failed with. -/
def Attempt.FailedWith (attempt : Attempt) (error : NipcError) : Prop :=
  attempt.result = .error (.err error)

/-- An attempt that returned a payload for a method. -/
def Attempt.Delivered (attempt : Attempt) (methodCode : UInt16) (payload : Bytes) : Prop :=
  attempt.request.code = methodCode ∧
    ∃ response, attempt.result = .ok (response, payload) ∧ Answers attempt.request response

theorem Attempt.FailedWith.unique {attempt : Attempt} {first second : NipcError}
    (failed : Attempt.FailedWith attempt first) (same : Attempt.FailedWith attempt second) :
    first = second := by
  rw [Attempt.FailedWith, failed] at same
  cases same
  rfl

theorem attempt_triple (os : ClientOs σ) (fuel : Nat) (methodCode : UInt16) (reqLen : Nat)
    (call : RawCallKind) (timeoutMs : UInt32) (kept : Ledger) :
    Triple (Ready kept) (attempt os fuel methodCode reqLen call timeoutMs)
      (fun value after => ∃ made : Attempt, Attempt.Delivered made methodCode value.2 ∧
        Ready (kept.logged [made]) after)
      fun error after => ∃ made : Attempt, Attempt.FailedWith made error ∧
        Ready (kept.logged [made]) after := by
  rintro world ⟨ready, linked, rfl⟩
  match ran : (attempt os fuel methodCode reqLen call timeoutMs).run world with
  | (result, after) =>
    obtain ⟨⟨made, request, same, stands⟩, answers⟩ := attempt_run ran
    have after_ready : Ready ((ledger world).logged [made]) after := by
      refine ⟨(congrArg (·.state) stands).trans ready, ?_, congrArg (·.ledger) stands⟩
      exact linked.congr (congrArg (·.profile) stands) (congrArg (·.shm) stands)
    match result with
    | .ok (response, payload) =>
      refine ⟨made, ⟨by rw [request]; rfl, response, same, ?_⟩, after_ready⟩
      rw [request]
      exact answers response payload rfl
    | .error (.err error) => exact ⟨made, same, after_ready⟩
    | .error .panic => trivial
    | .error .fuel => trivial

/-- The attempts of one call: at most nine, at most two when none of them overflows, and none after
a timeout or an abort. -/
structure Patient (made : List Attempt) : Prop where
  few : made.length ≤ 9
  plain : (∀ attempt ∈ made, ¬ Attempt.FailedWith attempt .overflow) → made.length ≤ 2
  final : ∀ attempt ∈ made.dropLast,
    ¬ Attempt.FailedWith attempt .timeout ∧ ¬ Attempt.FailedWith attempt .aborted

/-- The attempts before a pass of the loop: as many as there were passes, all of them overflows. -/
structure Overflowed (retries : UInt32) (made : List Attempt) : Prop where
  length : made.length = retries.toNat
  few : retries.toNat < 8
  overflow : ∀ attempt ∈ made, Attempt.FailedWith attempt .overflow

variable {retries : UInt32} {made : List Attempt}

section Overflowed

variable (overflowed : Overflowed retries made)

include overflowed

theorem Overflowed.not_final (attempt : Attempt) (member : attempt ∈ made) :
    ¬ Attempt.FailedWith attempt .timeout ∧ ¬ Attempt.FailedWith attempt .aborted := by
  have failed := overflowed.overflow attempt member
  exact ⟨fun timeout => absurd (failed.unique timeout) (by decide),
    fun aborted => absurd (failed.unique aborted) (by decide)⟩

/-- Without an overflow there was no pass before. -/
theorem Overflowed.eq_nil {later : List Attempt}
    (none : ∀ attempt ∈ made ++ later, ¬ Attempt.FailedWith attempt .overflow) : made = [] :=
  List.eq_nil_iff_forall_not_mem.mpr fun attempt member =>
    none attempt (List.mem_append_left _ member) (overflowed.overflow attempt member)

theorem Overflowed.patient_once (last : Attempt) :
    Patient (made ++ [last]) := by
  have length := overflowed.length
  have few := overflowed.few
  refine ⟨?_, fun none => ?_, ?_⟩
  · rw [List.length_append, List.length_singleton]
    omega
  · rw [overflowed.eq_nil none]
    exact Nat.le_succ 1
  · rw [List.dropLast_concat]
    exact overflowed.not_final

theorem Overflowed.patient_twice (first last : Attempt)
    (again : ¬ Attempt.FailedWith first .timeout ∧ ¬ Attempt.FailedWith first .aborted) :
    Patient (made ++ [first] ++ [last]) := by
  have length := overflowed.length
  have few := overflowed.few
  refine ⟨?_, fun none => ?_, ?_⟩
  · simp only [List.length_append, List.length_singleton]
    omega
  · rw [List.append_assoc] at none
    rw [overflowed.eq_nil none]
    exact le_refl 2
  · rw [List.dropLast_concat]
    intro attempt member
    rcases List.mem_append.mp member with earlier | same
    · exact overflowed.not_final attempt earlier
    · rw [List.mem_singleton.mp same]
      exact again

theorem Overflowed.next {last : Attempt} (failed : Attempt.FailedWith last .overflow)
    (more : retries + 1 < 8) :
    Overflowed (retries + 1) (made ++ [last]) := by
  have few := overflowed.few
  have count : (retries + 1).toNat = retries.toNat + 1 := by
    rw [UInt32.toNat_add]
    exact Nat.mod_eq_of_lt (by change retries.toNat + 1 < 2 ^ 32; omega)
  refine ⟨?_, UInt32.lt_iff_toNat_lt.mp more, fun attempt member => ?_⟩
  · rw [List.length_append, List.length_singleton, overflowed.length, count]
  · rcases List.mem_append.mp member with earlier | same
    · exact overflowed.overflow attempt earlier
    · rw [List.mem_singleton.mp same]
      exact failed

end Overflowed

/-- The loop can go on. -/
def Retrying (kept : Ledger) (retries : UInt32) (world : ClientWorld σ) : Prop :=
  ∃ made, Overflowed retries made ∧ Ready (kept.logged made) world

/-- The call succeeded. -/
def Succeeded (kept : Ledger) (methodCode : UInt16) (payload : Bytes) (world : ClientWorld σ) :
    Prop :=
  ∃ made last, Patient (made ++ [last]) ∧ Attempt.Delivered last methodCode payload ∧
    Ready { kept.logged (made ++ [last]) with callCount := kept.callCount + 1 } world

/-- The call failed. -/
def Failed (kept : Ledger) (world : ClientWorld σ) : Prop :=
  ∃ made, Patient made ∧ Dropped (kept.logged made) world

theorem succeed_triple {β : Type} (kept : Ledger) (value : β) :
    Triple (Ready kept) (succeed value : ClientProg σ β)
      (fun returned after => returned = value ∧
        Ready { kept with callCount := kept.callCount + 1 } after) fun _ _ => False := by
  rintro world ⟨ready, linked, rfl⟩
  exact ⟨rfl, ready, linked, rfl⟩

/-- Every way out of a pass counts the call once and leaves the log as it should be. -/
theorem callPass_triple (os : ClientOs σ) (fuel : Nat) (methodCode : UInt16) (reqLen : Nat)
    (call : RawCallKind) (timeoutMs retries : UInt32) (kept : Ledger) :
    Triple (Retrying kept retries) (callPass os fuel methodCode reqLen call timeoutMs retries)
      (fun result after => result.elim (fun retries => Retrying kept retries after)
        fun payload => Succeeded kept methodCode payload after) fun _ => Failed kept := by
  refine Exits.of_exists fun made => Exits.of_and fun overflowed => ?_
  -- The two programs a pass ends with, after any list of attempts.
  have delivers (earlier : List Attempt) (payload : Bytes) (last : Attempt)
      (patient : Patient (earlier ++ [last]))
      (delivered : Attempt.Delivered last methodCode payload) :
      Triple (Ready ((kept.logged earlier).logged [last]))
        (succeed (.inr payload) : ClientProg σ (UInt32 ⊕ Bytes))
        (fun result after => result.elim (fun retries => Retrying kept retries after)
          fun payload => Succeeded kept methodCode payload after) fun _ => Failed kept := by
    rw [Ledger.logged_logged]
    refine (succeed_triple _ _).mono (fun _ start => start) ?_ fun _ _ impossible => impossible.elim
    rintro _ after ⟨rfl, ready⟩
    exact ⟨earlier, last, patient, delivered, ready⟩
  have fails (earlier : List Attempt) (error : NipcError) (patient : Patient earlier) :
      Triple (fun world => ledger world = kept.logged earlier)
        (giveUp os error : ClientProg σ (UInt32 ⊕ Bytes))
        (fun result after => result.elim (fun retries => Retrying kept retries after)
          fun payload => Succeeded kept methodCode payload after) fun _ => Failed kept :=
    (giveUp_triple os error _ _).blaming fun _ _ dropped => ⟨earlier, patient, dropped.2⟩
  have reconnects (earlier : List Attempt) (error : NipcError) (patient : Patient earlier) :
      Triple (Ready (kept.logged earlier)) (reconnect os fuel error)
        (fun _ => Ready (kept.logged earlier)) fun _ => Failed kept :=
    (reconnect_triple os fuel error _).mono (fun _ start => start.2.2) (fun _ _ held => held)
      fun _ _ dropped => ⟨earlier, patient, dropped.2⟩
  refine getClient_triple.bind fun prev => ?_
  refine Triple.inspect
    (attempt_triple os fuel methodCode reqLen call timeoutMs (kept.logged made)) ?_ ?_
    (fun _ _ => trivial) fun _ _ => trivial
  · rintro ⟨response, payload⟩
    exact Exits.of_exists fun last => Exits.of_and fun delivered =>
      delivers made payload last (overflowed.patient_once last) delivered
  · intro firstErr
    refine Exits.of_exists fun first => Exits.of_and fun failed => ?_
    rw [Ledger.logged_logged]
    have once := overflowed.patient_once first
    refine Exits.ite (fun _ => ?_) fun again => Exits.ite (fun other => ?_) fun overflow => ?_
    · exact (fails _ firstErr once).under (fun _ start => start.2.2)
    · have twice (last : Attempt) := overflowed.patient_twice first last
        ⟨fun timeout => again (.inl (failed.unique timeout)),
          fun aborted => again (.inr (failed.unique aborted))⟩
      refine (reconnects _ firstErr once).bind fun _ => Triple.inspect
        (attempt_triple os fuel methodCode reqLen call timeoutMs (kept.logged (made ++ [first])))
        ?_ ?_ (fun _ _ => trivial) fun _ _ => trivial
      · rintro ⟨response, payload⟩
        exact Exits.of_exists fun last => Exits.of_and fun delivered =>
          delivers _ payload last (twice last) delivered
      · intro retryErr
        refine Exits.of_exists fun last => Exits.of_and fun _ => ?_
        rw [Ledger.logged_logged]
        exact (fails _ retryErr (twice last)).under (fun _ start => start.2.2)
    · refine (reconnects _ firstErr once).bind fun _ => getClient_triple.bind fun next => ?_
      have stuck := (fails _ firstErr once).under (fun _ (start : Ready _ _) => start.2.2)
      refine Exits.ite (fun _ => stuck) fun _ => Exits.ite (fun _ => stuck) fun more => ?_
      rw [not_not.mp overflow] at failed
      exact Exits.pure _ fun world ready =>
        ⟨made ++ [first], overflowed.next failed (UInt32.not_le.mp more), ready⟩

/-! ### The call -/

/-- A client between operations. -/
def Sound (client : RawClient) : Prop := Linked client.state client

variable {world : ClientWorld σ} {retries : UInt32} {made : List Attempt} (os : ClientOs σ)
  (fuel : Nat) (error : NipcError) (kept : Ledger) (methodCode : UInt16) (reqLen : Nat)
  (call : RawCallKind) (timeoutMs : UInt32)

theorem Ready.sound {kept : Ledger} (ready : Ready kept world) : Sound world.client := by
  rw [Sound, ready.1]
  exact ready.2.1

theorem Dropped.sound {kept : Ledger} (dropped : Dropped kept world) :
    Sound world.client := .inr ⟨dropped.1, dropped.2.1, dropped.2.2.1⟩

theorem Sound.gone {client : RawClient} (sound : Sound client) (other : client.state ≠ .ready) :
    client.session = none ∧ client.shm = none := by
  rcases sound with ⟨ready, -⟩ | ⟨-, gone⟩
  · exact absurd ready other
  · exact gone

theorem patient_nil : Patient [] := ⟨Nat.zero_le _, fun _ => Nat.zero_le _, nofun⟩

theorem Ledger.logged_nil : kept.logged [] = kept := by
  rw [Ledger.logged, List.append_nil]

/-- The opening of a call lets only a ready client through. -/
theorem ensureReadyForLogicalLookup_triple :
    Triple (fun world => Sound world.client ∧ ledger world = kept) (ensureReadyForLogicalLookup os)
      (fun _ => Ready kept) fun _ => Dropped kept := by
  refine Exits.via (fun self world => Sound world.client ∧ ledger world = kept ∧
    world.client = self) (fun world start => ⟨start.1, start.2, rfl⟩) fun self => ?_
  refine Exits.ite (fun other => ?_) fun ready => ?_
  · rintro world ⟨sound, rfl, rfl⟩
    exact ⟨other, (sound.gone other).1, (sound.gone other).2, rfl⟩
  · have ready := not_not.mp ready
    refine Exits.via (fun _ => Ready kept) ?_ fun aborted => Exits.ite (fun _ => ?_) fun _ =>
      Exits.pure _ fun _ start => start
    · rintro world ⟨sound, rfl, rfl⟩
      exact ⟨ready, ready ▸ sound, rfl⟩
    · exact (giveUp_triple os _ kept _).mono (fun _ start => start.2.2) (fun _ _ held => held)
        fun _ _ dropped => dropped.2

theorem rawCallWithRetryTimeout_triple (kept : Ledger) :
    Triple (fun world => Sound world.client ∧ ledger world = kept)
      (rawCallWithRetryTimeout os fuel methodCode reqLen call timeoutMs)
      (Succeeded kept methodCode) fun _ => Failed kept := by
  refine Exits.via _ ((ensureReadyForLogicalLookup_triple os kept).blaming fun _ _ dropped =>
    ⟨[], patient_nil, ?_⟩) fun _ => ?_
  · rw [Ledger.logged_nil]
    exact dropped
  · refine getClient_triple.bind fun self => Triple.mono
      (Triple.loop (Retrying kept)
        (fun retries => callPass_triple os fuel methodCode reqLen call _ retries kept) fuel 0)
      (fun world ready => ⟨[], ⟨rfl, by decide, nofun⟩, ?_⟩) (fun _ _ held => held)
      fun _ _ held => held
    rw [Ledger.logged_nil]
    exact ready

/-- A client that is not ready sends nothing. -/
theorem run_rawCallWithRetryTimeout_of_not_ready (world : ClientWorld σ)
    (other : world.client.state ≠ .ready) :
    (rawCallWithRetryTimeout os fuel methodCode reqLen call timeoutMs).run world =
      (.error (.err .badLayout), { world with
        client := { world.client with errorCount := world.client.errorCount + 1 } }) := by
  have refused : (ensureReadyForLogicalLookup os).run world =
    (.error (.err .badLayout), { world with
      client := { world.client with errorCount := world.client.errorCount + 1 } }) := by
    rw [ensureReadyForLogicalLookup, Prog.run_bind_ok (run_getClient world), if_pos other]
    rfl
  rw [rawCallWithRetryTimeout, rawCallWith, Prog.run_bind_error refused]

/-! ### What a call leaves alone -/

theorem blindView_settings : BlindView (settings (σ := σ)) := fun _ _ _ => rfl

theorem attempt_settings : Keeps settings (attempt os fuel methodCode reqLen call timeoutMs) := by
  refine Keeps.bind (fun _ => rfl) fun self => Keeps.inspect ?_ fun result => ?_
  · exact (doRawCall_keeps os fuel _ reqLen call timeoutMs).map (·.ledger.settings)
  · exact Keeps.bind (fun _ => rfl) fun _ => Keeps.ofRes _

theorem dials_settings (kept : Settings) : Dials os (fun world => settings world = kept)
    (fun _ world => settings world = kept) fun _ world => settings world = kept where
  connects _ answer _ same _ := by cases answer <;> exact same
  clock _ _ same := same
  sleep _ _ _ same := same
  attaches _ _ answer _ _ same _ := by cases answer <;> exact same
  drops _ _ _ same := same
  ends _ same := same
  plain _ _ _ same := same

/-- A property of a world that connecting keeps; `pending` holds between a new session and its being
counted. -/
structure Connects (os : ClientOs σ) (held pending : ClientWorld σ → Prop) : Prop where
  loads : ∀ world, held world → held ((abortRequested os).run world).2
  tallied : ∀ (world : ClientWorld σ) state callCount errorCount, held world →
    held { world with client := { world.client with state, callCount, errorCount } }
  pended : ∀ (world : ClientWorld σ) state, pending world →
    pending { world with client := { world.client with state } }
  disconnects : ∀ world, held world → held ((disconnect os).run world).2
  connects : ∀ fuel, Triple (fun world => world.client.session = none ∧ held world)
    (tryConnect os fuel) (fun state world => (state = .ready → pending world) ∧
      (state ≠ .ready → held world)) fun _ => held
  connected : ∀ world : ClientWorld σ, pending world → held { world with
    client := { world.client with connectCount := world.client.connectCount + 1 } }
  reconnected : ∀ world : ClientWorld σ, pending world → held { world with
    client := { world.client with reconnectCount := world.client.reconnectCount + 1 } }

/-- A property that an attempt keeps as well survives every call. -/
structure Survives (os : ClientOs σ) (held pending : ClientWorld σ → Prop) : Prop extends
    Connects os held pending where
  attempts : ∀ fuel methodCode reqLen call timeoutMs, Triple held
    (attempt os fuel methodCode reqLen call timeoutMs) (fun _ => held) fun _ => held

section Survives

variable {os : ClientOs σ} {held pending : ClientWorld σ → Prop}

section Connects

variable (rule : Connects os held pending)

include rule

theorem Connects.giveUp (error : NipcError) {post : α → ClientWorld σ → Prop} :
    Triple held (giveUp os error : ClientProg σ α) post fun _ => held :=
  fun world start => rule.tallied _ .broken _ _ (rule.disconnects world start)

/-- Connecting from a client without a session, and setting the state that comes of it. -/
theorem Connects.tryConnect (fuel : Nat) (before : ClientState)
    {next : ClientState → ClientProg σ α} {post : α → ClientWorld σ → Prop}
    (rest : ∀ state, Triple (fun world => (state = .ready → pending world) ∧
      (state ≠ .ready → held world)) (next state) post fun _ => held) :
    Triple (fun world => world.client.session = none ∧ held world)
      (do
        setState before
        let state ← Client.tryConnect os fuel
        setState state
        next state) post fun _ => held := by
  refine Exits.via (fun _ world => world.client.session = none ∧ held world)
    (Exits.modify _ fun world start => ⟨start.1, rule.tallied world before _ _ start.2⟩)
    fun _ => (rule.connects fuel).bind fun state => ?_
  refine Exits.via _ (Exits.modify _ fun world start => ?_) fun _ => rest state
  exact ⟨fun ready => rule.pended world state (start.1 ready),
    fun other => rule.tallied world state _ _ (start.2 other)⟩

theorem Connects.connecting (fuel : Nat) {counted : RawClient → RawClient}
    (counts : ∀ world, pending world → held { world with client := counted world.client }) :
    Triple (fun world => world.client.session = none ∧ held world)
      (connecting os fuel counted) (fun _ => held) fun _ => held :=
  rule.tryConnect fuel _ fun _ =>
    Exits.ite (fun ready => Exits.modify _ fun world start => counts world (start.1 ready))
      fun other => Exits.pure _ fun _ start => start.2 other

theorem Connects.reconnect (fuel : Nat) (error : NipcError) :
    Triple held (reconnect os fuel error) (fun _ => held) fun _ => held := by
  refine Exits.via (fun _ world => world.client.session = none ∧ held world)
    (fun world start => ⟨rfl, rule.disconnects world start⟩) fun _ => rule.tryConnect fuel _ ?_
  refine fun state => Exits.ite (fun other => ?_) fun ready => Exits.modify _ fun world start =>
    rule.reconnected world (start.1 (not_not.mp ready))
  exact fun world start => rule.tallied world _ _ _ (start.2 other)

theorem Connects.ensureReadyForLogicalLookup :
    Triple held (ensureReadyForLogicalLookup os) (fun _ => held) fun _ => held := by
  refine getClient_triple.bind fun self =>
    Exits.ite (fun _ world start => rule.tallied world _ _ _ start) fun _ => ?_
  exact Exits.via (fun _ => held) rule.loads fun aborted =>
    Exits.ite (fun _ => rule.giveUp _) fun _ => Exits.pure _ fun _ start => start

theorem Connects.ensureLookupRequestCapacity (fuel required : Nat) :
    Triple held (ensureLookupRequestCapacity os fuel required) (fun _ => held) fun _ => held := by
  refine Exits.via (fun _ => held) rule.loads fun aborted =>
    Exits.ite (fun _ => rule.giveUp _) fun _ => ?_
  refine Triple.ofRes_bind (fun _ _ start _ => start) fun _ _ => ?_
  refine getClient_triple.bind fun self => Exits.ite (fun _ => Exits.pure _ fun _ start => start)
    fun _ => Exits.ite (fun _ => Exits.pure _ fun _ start => start) fun _ => ?_
  refine (rule.reconnect fuel .overflow).bind fun _ => getClient_triple.bind fun self => ?_
  exact Exits.ite (fun _ => rule.giveUp _) fun _ => Exits.pure _ fun _ start => start

theorem Connects.refresh (fuel : Nat) :
    Triple (fun world => Sound world.client ∧ held world) (refresh os fuel) (fun _ => held)
      fun _ => held := by
  refine Exits.via (fun self world => world.client.state = self.state ∧ Sound world.client ∧
    held world) (fun world start => ⟨rfl, start⟩) fun self => ?_
  have fresh {state : ClientState} (other : state ≠ .ready) (world : ClientWorld σ)
      (start : world.client.state = state ∧ Sound world.client ∧ held world) :
      world.client.session = none ∧ held world :=
    ⟨(start.2.1.gone (start.1 ▸ other)).1, start.2.2⟩
  refine Exits.via (fun _ => held) ?_ fun _ => getClient_triple.bind fun _ =>
    Exits.pure _ fun _ start => start
  cases self.state with
  | disconnected | notFound =>
    exact (rule.connecting fuel rule.connected).under (fresh nofun)
  | broken =>
    refine Exits.via (fun _ world => world.client.session = none ∧ held world)
      (fun world start => ⟨rfl, rule.disconnects world start.2.2⟩) fun _ => ?_
    exact rule.connecting fuel rule.reconnected
  | ready | connecting | authFailed | incompatible =>
    exact Exits.pure _ fun _ start => start.2.2

end Connects

theorem Survives.callPass (rule : Survives os held pending) (fuel : Nat) (methodCode : UInt16)
    (reqLen : Nat) (call : RawCallKind) (timeoutMs retries : UInt32) :
    Triple held (callPass os fuel methodCode reqLen call timeoutMs retries) (fun _ => held)
      fun _ => held := by
  have tries := rule.attempts fuel methodCode reqLen call timeoutMs
  have succeeds {β : Type} (value : β) : Triple held (succeed value) (fun _ => held)
    fun _ => held := fun world start => rule.tallied world _ _ _ start
  refine getClient_triple.bind fun prev => Triple.inspect tries (fun _ => succeeds _)
    (fun firstErr => ?_) (fun _ _ => trivial) fun _ _ => trivial
  refine Exits.ite (fun _ => rule.giveUp _) fun _ => Exits.ite (fun _ => ?_) fun _ => ?_
  · exact (rule.reconnect fuel firstErr).bind fun _ => Triple.inspect tries (fun _ => succeeds _)
      (fun _ => rule.giveUp _) (fun _ _ => trivial) fun _ _ => trivial
  · refine (rule.reconnect fuel firstErr).bind fun _ => getClient_triple.bind fun next => ?_
    exact Exits.ite (fun _ => rule.giveUp _) fun _ =>
      Exits.ite (fun _ => rule.giveUp _) fun _ => Exits.pure _ fun _ start => start

theorem Survives.rawCallWithRetryTimeout (rule : Survives os held pending) (fuel : Nat)
    (methodCode : UInt16) (reqLen : Nat) (call : RawCallKind) (timeoutMs : UInt32) :
    Triple held (rawCallWithRetryTimeout os fuel methodCode reqLen call timeoutMs)
      (fun _ => held) fun _ => held := by
  refine rule.ensureReadyForLogicalLookup.bind fun _ => getClient_triple.bind fun self => ?_
  refine Triple.loop (fun _ => held) (fun retries => ?_) fuel 0
  refine (rule.callPass fuel methodCode reqLen call _ retries).mono (fun _ start => start)
    (fun result _ kept => ?_) fun _ _ kept => kept
  cases result with
  | inl _ | inr _ => exact kept

end Survives

/-- A call changes neither the settings of the client nor the log of lookups. -/
theorem survives_settings (os : ClientOs σ) (kept : Settings) :
    Survives os (fun world => settings world = kept) fun world => settings world = kept where
  loads _ same := same
  tallied _ _ _ _ same := same
  pended _ _ same := same
  disconnects _ same := same
  connects fuel := ((dials_settings os kept).tryConnect fuel).mono (fun _ start => start.2)
    (fun _ _ same => ⟨fun _ => same, fun _ => same⟩) fun _ _ same => same
  connected _ same := same
  reconnected _ same := same
  attempts fuel methodCode reqLen call timeoutMs :=
    (attempt_settings os fuel methodCode reqLen call timeoutMs).triple (· = kept)

/-! ### Every reachable client -/

/-- What the owner of a client does with it. A typed call writes its request into the buffer and
makes raw calls, between which a lookup may ask for more request capacity. -/
inductive Operation where
  | refresh
  | close
  | abort (requested : Bool)
  | setCallTimeout (timeoutMs : UInt32)
  | setLookupLogicalConfig (config : LookupLogicalConfig)
  | writeRequest (requestBuf : Bytes)
  | ensureReadyForLogicalLookup
  | ensureLookupRequestCapacity (required : Nat)
  | call (methodCode : UInt16) (reqLen : Nat) (kind : RawCallKind) (timeoutMs : UInt32)

/-- An operation, when requests are sent by `send`. -/
def Operation.performWith (send : Header → Nat → ClientProg σ Unit) (os : ClientOs σ) (fuel : Nat) :
    Operation → ClientProg σ Unit
  | .refresh => do
    let _ ← Client.refresh os fuel
  | .close => Client.close os
  | .abort requested => outside fun state => ((), os.storeAbort requested state)
  | .setCallTimeout timeoutMs => modifyClient fun self => self.setCallTimeout timeoutMs
  | .setLookupLogicalConfig config => modifyClient fun self => self.setLookupLogicalConfig config
  | .writeRequest requestBuf => modifyClient fun self => { self with requestBuf }
  | .ensureReadyForLogicalLookup => Client.ensureReadyForLogicalLookup os
  | .ensureLookupRequestCapacity required => do
    let _ ← Client.ensureLookupRequestCapacity os fuel required
  | .call methodCode reqLen kind timeoutMs => do
    let _ ← rawCallWith send os fuel methodCode reqLen kind timeoutMs

def Operation.perform (os : ClientOs σ) (fuel : Nat) : Operation → ClientProg σ Unit :=
  Operation.performWith (transportSendRequestBuf os) os fuel

/-- The program returned, with a value or with an error. -/
def Completed {ε : Type} : Res ε α → Prop
  | .ok _ => True
  | .error (.err _) => True
  | .error .panic => False
  | .error .fuel => False

theorem completed_of_ok {ε : Type} {result : Res ε α} {value : α} (returned : result = .ok value) :
    Completed result := by
  rw [returned]
  trivial

theorem completed_of_err {ε : Type} {result : Res ε α} {error : ε}
    (returned : result = .error (.err error)) : Completed result := by
  rw [returned]
  trivial

/-- What a program has at both of its endings. -/
theorem Completed.held {ε τ : Type} {program : Prog ε τ α} {pre held : τ → Prop} {state : τ}
    (ended : Completed (program.run state).1)
    (triple : Triple pre program (fun _ => held) fun _ => held) (start : pre state) :
    held (program.run state).2 := by
  have ends := triple state start
  match ran : program.run state with
  | (.ok _, _) | (.error (.err _), _) =>
    rw [ran] at ends
    exact ends
  | (.error .panic, _) | (.error .fuel, _) =>
    rw [ran] at ended
    exact ended.elim

/-- The worlds a client can get into from a start, by operations that are allowed where they are
performed. What a lookup does between two operations counts too: it reads the abort flag and the
clock and writes to its log. -/
inductive History (os : ClientOs σ) (allowed : RawClient → Operation → Prop)
    (start : ClientWorld σ) : ClientWorld σ → Prop where
  | refl : History os allowed start start
  | operation {world : ClientWorld σ} (fuel : Nat) (operation : Operation)
    (before : History os allowed start world) (allow : allowed world.client operation)
    (ended : Completed ((operation.perform os fuel).run world).1) :
    History os allowed start ((operation.perform os fuel).run world).2
  | loaded {world : ClientWorld σ} (before : History os allowed start world) :
    History os allowed start ((abortRequested os).run world).2
  | clocked {world : ClientWorld σ} (before : History os allowed start world) :
    History os allowed start ((observed os.now .clock).run world).2
  | noted {world : ClientWorld σ} (event : LookupEvent) (before : History os allowed start world) :
    History os allowed start ((note event).run world).2

theorem History.next {os : ClientOs σ} {allowed : RawClient → Operation → Prop}
    {start world after : ClientWorld σ} {fuel : Nat} {operation : Operation}
    {result : Res NipcError Unit} (before : History os allowed start world)
    (allow : allowed world.client operation)
    (ran : (operation.perform os fuel).run world = (result, after)) (ended : Completed result) :
    History os allowed start after := by
  have next := History.operation fuel operation before allow
  rw [ran] at next
  exact next ended

/-- The world a new client starts in. -/
def newWorld (methodCode : UInt16) (config : TransportClientConfig) (state : σ) : ClientWorld σ :=
  ⟨.newBound methodCode config, state, [], [], []⟩

/-- A client that is not connected tries to connect. -/
theorem connecting_triple {counted : RawClient → RawClient}
    (links : ∀ self, Sound self → Sound (counted self)) (kept : Ledger) :
    Triple (Unlinked kept) (connecting os fuel counted) (fun _ after => Sound after.client)
      fun _ _ => False := by
  refine Exits.via (fun _ => Unlinked kept) (Exits.modify _ fun world start => start) fun _ => ?_
  refine ((dials_unlinked os kept).tryConnect fuel).bind fun state => ?_
  refine Exits.via (fun _ (after : ClientWorld σ) => Sound after.client)
    (Exits.modify _ fun world start => start.1) fun _ => ?_
  exact Exits.ite (fun _ => Exits.modify _ fun world start => links _ start) fun _ =>
    Exits.pure _ fun _ start => start

theorem refreshFrom_triple (state : ClientState) (kept : Ledger) :
    Triple (fun world => Sound world.client ∧ world.client.state = state ∧ ledger world = kept)
      (refreshFrom os fuel state) (fun _ after => Sound after.client) fun _ _ => False := by
  have fresh (other : state ≠ .ready) (world : ClientWorld σ) (start : Sound world.client ∧
      world.client.state = state ∧ ledger world = kept) : Unlinked kept world :=
    have gone := start.1.gone (start.2.1 ▸ other)
    ⟨gone.1, gone.2, start.2.2⟩
  cases state with
  | disconnected | notFound =>
    refine Triple.mono (connecting_triple os fuel ?_ kept) (fresh nofun) (fun _ _ held => held)
      fun _ _ held => held
    exact fun _ sound => sound
  | broken =>
    refine Exits.via (fun _ => Unlinked kept)
      (Exits.modify _ fun world start => ⟨rfl, rfl, start.2.2⟩) fun _ =>
        connecting_triple os fuel ?_ kept
    exact fun _ sound => sound
  | ready | connecting | authFailed | incompatible =>
    exact Exits.pure _ fun world start => start.1

theorem refresh_triple :
    Triple (fun world => Sound world.client ∧ ledger world = kept) (refresh os fuel)
      (fun _ after => Sound after.client) fun _ _ => False := by
  refine Exits.via (fun self world => Sound world.client ∧ world.client.state = self.state ∧
    ledger world = kept) (fun world start => ⟨start.1, rfl, start.2⟩) fun self => ?_
  refine (refreshFrom_triple os fuel self.state kept).bind fun _ => ?_
  exact getClient_triple.bind fun _ => Exits.pure _ fun _ start => start

/-- A sound client that made no attempt since, with the settings it had. -/
def Afloat (kept : Ledger) (world : ClientWorld σ) : Prop :=
  Sound world.client ∧ world.attempts = kept.attempts ∧ settings world = kept.settings

theorem Dropped.afloat {kept : Ledger} (dropped : Dropped kept world) : Afloat kept world :=
  ⟨dropped.sound, congrArg (·.attempts) dropped.2.2.2, congrArg (·.settings) dropped.2.2.2⟩

theorem ensureLookupRequestCapacity_triple (required : Nat) (kept : Ledger) :
    Triple (fun world => Sound world.client ∧ ledger world = kept)
      (ensureLookupRequestCapacity os fuel required) (fun _ => Afloat kept)
      fun _ => Afloat kept := by
  have gives {β : Type} (error : NipcError) :
      Triple (fun world => ledger world = kept) (giveUp os error : ClientProg σ β)
        (fun _ => Afloat kept) fun _ => Afloat kept :=
    (giveUp_triple os error kept _).blaming fun _ _ dropped => dropped.2.afloat
  have stays (world : ClientWorld σ) (start : Sound world.client ∧ ledger world = kept) :
      Afloat kept world :=
    ⟨start.1, congrArg (·.attempts) start.2, congrArg (·.settings) start.2⟩
  refine Exits.via (fun _ (world : ClientWorld σ) => Sound world.client ∧ ledger world = kept)
    (fun world start => start) fun aborted => Exits.ite (fun _ => ?_) fun _ => ?_
  · exact (gives _).under (fun _ start => start.2)
  · refine Triple.ofRes_bind (fun _ _ start _ => stays _ start) fun _ _ => ?_
    refine getClient_triple.bind fun self => Exits.ite (fun _ => Exits.pure _ stays) fun _ =>
      Exits.ite (fun _ => Exits.pure _ stays) fun _ => ?_
    refine Exits.via _ ((reconnect_triple os fuel .overflow kept).mono (fun _ start => start.2)
      (fun _ _ held => held) fun _ _ dropped => dropped.2.afloat) fun _ => ?_
    refine getClient_triple.bind fun self => Exits.ite (fun _ => ?_) fun _ =>
      Exits.pure _ fun world ready => stays world ⟨ready.sound, ready.2.2⟩
    exact (gives _).under (fun _ ready => ready.2.2)

/-- Every operation keeps a client sound. -/
theorem Operation.perform_triple (operation : Operation) (kept : Ledger) :
    Triple (fun world => Sound world.client ∧ ledger world = kept) (operation.perform os fuel)
      (fun _ after => Sound after.client) fun _ after => Sound after.client := by
  cases operation with
  | refresh =>
    refine Exits.via _ ((refresh_triple os fuel kept).blaming fun _ _ impossible => impossible.elim)
      fun _ => ?_
    exact Exits.pure _ fun _ start => start
  | close => exact fun world start => .inr ⟨nofun, rfl, rfl⟩
  | abort requested => exact fun world start => start.1
  | setCallTimeout timeoutMs => exact fun world start => start.1
  | setLookupLogicalConfig config => exact fun world start => start.1
  | writeRequest requestBuf => exact fun world start => start.1
  | ensureReadyForLogicalLookup =>
    exact (ensureReadyForLogicalLookup_triple os kept).mono (fun _ start => start)
      (fun _ _ ready => ready.sound) fun _ _ dropped => dropped.sound
  | ensureLookupRequestCapacity required =>
    exact ((ensureLookupRequestCapacity_triple os fuel required kept).blaming fun _ _ afloat =>
      afloat.1).bind fun _ => Exits.pure _ fun _ afloat => afloat.1
  | call methodCode reqLen kind timeoutMs =>
    refine Exits.via _ ((rawCallWithRetryTimeout_triple os fuel methodCode reqLen kind timeoutMs
      kept).blaming ?_) fun _ =>
        Exits.pure _ fun world => ?_
    · rintro _ _ ⟨_, -, dropped⟩
      exact dropped.sound
    · rintro ⟨_, _, -, -, ready⟩
      exact ready.sound

theorem sound_newWorld (methodCode : UInt16) (config : TransportClientConfig) (state : σ) :
    Sound (newWorld methodCode config state).client := .inr ⟨nofun, rfl, rfl⟩

theorem History.sound {os : ClientOs σ} {allowed : RawClient → Operation → Prop}
    {start : ClientWorld σ} (history : History os allowed start world)
    (sound : Sound start.client) : Sound world.client := by
  induction history with
  | refl => exact sound
  | @operation world fuel operation before _ ended ih =>
    exact ended.held (operation.perform_triple os fuel (ledger world)) ⟨ih, rfl⟩
  | loaded _ ih => exact ih
  | clocked _ ih => exact ih
  | noted _ _ ih => exact ih

/-- A property that the settings and the abort flag do not matter to. -/
structure Owned (os : ClientOs σ) (held : ClientWorld σ → Prop) : Prop where
  aborts : ∀ world requested, held world →
    held { world with os := os.storeAbort requested world.os }
  sets : ∀ (world : ClientWorld σ) callTimeoutMs maxLogicalLookupItems maxLogicalLookupSubcalls
    maxLogicalLookupResponseBytes requestBuf, held world → held { world with
      client := { world.client with
        callTimeoutMs, maxLogicalLookupItems, maxLogicalLookupSubcalls
        maxLogicalLookupResponseBytes, requestBuf } }

/-- What connecting and calling keep, every operation keeps. -/
theorem Connects.perform {os : ClientOs σ} {pre held pending : ClientWorld σ → Prop}
    (rule : Connects os held pending) (owned : Owned os held) (fuel : Nat) (operation : Operation)
    (starts : ∀ world, pre world → Sound world.client ∧ held world)
    (calls : ∀ methodCode reqLen kind timeoutMs,
      operation = .call methodCode reqLen kind timeoutMs →
      Triple pre (rawCallWithRetryTimeout os fuel methodCode reqLen kind timeoutMs)
        (fun _ => held) fun _ => held) :
    Triple pre (operation.perform os fuel) (fun _ => held) fun _ => held := by
  have ends {β : Type} {program : ClientProg σ β}
      (triple : Triple (fun world => Sound world.client ∧ held world) program (fun _ => held)
        fun _ => held) : Triple pre program (fun _ => held) fun _ => held :=
    triple.mono starts (fun _ _ kept => kept) fun _ _ kept => kept
  cases operation with
  | refresh => exact (ends (rule.refresh fuel)).bind fun _ => Exits.pure _ fun _ kept => kept
  | close =>
    exact fun world start => owned.aborts _ _ (rule.tallied _ .disconnected _ _
      (rule.disconnects world (starts world start).2))
  | abort requested => exact fun world start => owned.aborts _ _ (starts world start).2
  | setCallTimeout timeoutMs =>
    exact fun world start => owned.sets _ _ _ _ _ _ (starts world start).2
  | setLookupLogicalConfig config =>
    exact fun world start => owned.sets _ _ _ _ _ _ (starts world start).2
  | writeRequest requestBuf =>
    exact fun world start => owned.sets _ _ _ _ _ _ (starts world start).2
  | ensureReadyForLogicalLookup =>
    exact rule.ensureReadyForLogicalLookup.under (fun world start => (starts world start).2)
  | ensureLookupRequestCapacity required =>
    exact ((rule.ensureLookupRequestCapacity fuel required).under (fun world start => (starts world
      start).2)).bind fun _ => Exits.pure _ fun _ kept => kept
  | call methodCode reqLen kind timeoutMs =>
    exact (calls methodCode reqLen kind timeoutMs rfl).bind fun _ =>
      Exits.pure _ fun _ kept => kept

/-! ### A call comes to an end -/

section Finishing

variable {os : ClientOs σ} {fuel reqLen : Nat} {methodCode : UInt16} {call : RawCallKind}

theorem giveUp_finishes (error : NipcError) : Finishes (giveUp os error : ClientProg σ α) :=
  (Finishes.modify _).bind fun _ => (Finishes.modify _).bind fun _ => Finishes.fail _

theorem reconnect_finishes (connects : Finishes (tryConnect os fuel)) (error : NipcError) :
    Finishes (reconnect os fuel error) := by
  refine (Finishes.modify _).bind fun _ => (Finishes.modify _).bind fun _ => ?_
  refine connects.bind fun state => (Finishes.modify _).bind fun _ => Finishes.ite ?_ ?_
  · exact (Finishes.modify _).bind fun _ => Finishes.fail _
  · exact Finishes.modify _

theorem attempt_finishes {timeoutMs : UInt32}
    (exchanges : ∀ hdr, Finishes (doRawCall os fuel hdr reqLen call timeoutMs)) :
    Finishes (attempt os fuel methodCode reqLen call timeoutMs) := by
  refine Finishes.bind (fun _ => nofun) fun self => (exchanges _).inspect fun result ended => ?_
  exact (Finishes.modify _).bind fun _ => Finishes.ofRes ended

theorem callPass_finishes {timeoutMs : UInt32}
    (exchanges : ∀ hdr, Finishes (doRawCall os fuel hdr reqLen call timeoutMs))
    (connects : Finishes (tryConnect os fuel)) (retries : UInt32) :
    Finishes (callPass os fuel methodCode reqLen call timeoutMs retries) := by
  have succeeds (payload : Bytes) :
      Finishes (succeed (.inr payload) : ClientProg σ (UInt32 ⊕ Bytes)) :=
    (Finishes.modify _).bind fun _ => Finishes.pure _
  refine Finishes.bind (fun _ => nofun) fun prev => ?_
  refine (attempt_finishes exchanges).inspect fun result ended => ?_
  match result with
  | .ok (_, payload) => exact succeeds payload
  | .error .panic => exact Finishes.panic
  | .error .fuel => exact absurd rfl ended
  | .error (.err firstErr) =>
    refine Finishes.ite (giveUp_finishes _) (Finishes.ite ?_ ?_)
    · refine (reconnect_finishes connects _).bind fun _ => ?_
      refine (attempt_finishes exchanges).inspect fun retried ended => ?_
      match retried with
      | .ok (_, payload) => exact succeeds payload
      | .error (.err retryErr) => exact giveUp_finishes _
      | .error .panic => exact Finishes.panic
      | .error .fuel => exact absurd rfl ended
    · refine (reconnect_finishes connects _).bind fun _ =>
        Finishes.bind (fun _ => nofun) fun _ => ?_
      exact Finishes.ite (giveUp_finishes _) (Finishes.ite (giveUp_finishes _) (Finishes.pure _))

/-- A pass that goes on counts one retry more, up to eight. -/
theorem callPass_next (timeoutMs retries : UInt32) :
    Triple (fun _ => True) (callPass os fuel methodCode reqLen call timeoutMs retries)
      (fun result _ => ∀ next, result = .inl next → next = retries + 1 ∧ next < 8)
      fun _ _ => True := by
  refine (Triple.any _ _).bind fun prev => ?_
  refine Triple.inspect (Triple.any _ _) (fun _ _ _ => nofun) (fun firstErr => ?_)
    (fun _ _ => trivial) fun _ _ => trivial
  refine Exits.ite (fun _ _ _ => trivial) fun _ => Exits.ite (fun _ => ?_) fun _ => ?_
  · refine (Triple.any _ _).bind fun _ => ?_
    exact Triple.inspect (Triple.any _ _) (fun _ _ _ => nofun) (fun _ _ _ => trivial)
      (fun _ _ => trivial) fun _ _ => trivial
  · refine (Triple.any _ _).bind fun _ => (Triple.any _ _).bind fun _ => ?_
    refine Exits.ite (fun _ _ _ => trivial) fun _ =>
      Exits.ite (fun _ _ _ => trivial) fun more => ?_
    refine Exits.pure _ fun _ _ next same => ?_
    cases same
    exact ⟨rfl, UInt32.not_le.mp more⟩

/-- A call comes to its end when each exchange and each attempt to connect does: there are at most
eight passes. -/
theorem rawCallWithRetryTimeout_finishes
    (exchanges : ∀ hdr timeoutMs, Finishes (doRawCall os fuel hdr reqLen call timeoutMs))
    (connects : Finishes (tryConnect os fuel)) (enough : 8 < fuel) (timeoutMs : UInt32) :
    Finishes (rawCallWithRetryTimeout os fuel methodCode reqLen call timeoutMs) := by
  have opens : Finishes (ensureReadyForLogicalLookup os) := by
    refine Finishes.bind (fun _ => nofun) fun self => Finishes.ite ?_ ?_
    · exact (Finishes.modify _).bind fun _ => Finishes.fail _
    · refine Finishes.bind (fun _ => nofun) fun aborted => ?_
      exact Finishes.ite (giveUp_finishes _) (Finishes.pure _)
  refine opens.bind fun _ => Finishes.bind (fun _ => nofun) fun self => ?_
  refine fun world => Prog.loop_ends (fun _ _ => True)
    (fun (retries : UInt32) _ => if retries.toNat < 8 then 8 - retries.toNat else 9) ?_
    (fun retries => callPass_finishes (fun hdr => exchanges hdr _) connects retries) enough trivial
  intro retries next world after _ ran
  refine ⟨trivial, ?_⟩
  obtain ⟨same, few⟩ := (callPass_next _ retries).post_of_run trivial ran next rfl
  have few := UInt32.lt_iff_toNat_lt.mp few
  have count : next.toNat = (retries.toNat + 1) % 2 ^ 32 := by
    rw [same, UInt32.toNat_add]
    rfl
  have small := retries.toNat_lt
  change next.toNat < 8 at few
  rw [if_pos few]
  split <;> omega

end Finishing

/-! ### The contract of a call -/

/-- What a call that returned `result` did: it counted itself once, a success left the client ready
with a response that answers its last request, and a failure left it without a connection. -/
def Concluded (methodCode : UInt16) (made : List Attempt) (start after : ClientWorld σ) :
    Res NipcError Bytes → Prop
  | .ok payload =>
    after.client.callCount = start.client.callCount + 1 ∧
      after.client.errorCount = start.client.errorCount ∧
      after.client.state = .ready ∧ after.client.session.isSome ∧
      ∃ last, made.getLast? = some last ∧ Attempt.Delivered last methodCode payload
  | .error (.err _) =>
    after.client.callCount = start.client.callCount ∧
      after.client.errorCount = start.client.errorCount + 1 ∧
      after.client.state ≠ .ready ∧ after.client.session = none ∧ after.client.shm = none
  | .error .panic => False
  | .error .fuel => False

theorem concluded_of_triple {os : ClientOs σ} {start after : ClientWorld σ} {fuel reqLen : Nat}
    {methodCode : UInt16} {call : RawCallKind} {timeoutMs : UInt32} {result : Res NipcError Bytes}
    (sound : Sound start.client) (ended : Completed result)
    (ran : (rawCallWithRetryTimeout os fuel methodCode reqLen call timeoutMs).run start =
      (result, after)) :
    ∃ made, after.attempts = start.attempts ++ made ∧ Patient made ∧
      Concluded methodCode made start after result := by
  have contract := rawCallWithRetryTimeout_triple os fuel methodCode reqLen call timeoutMs
    (ledger start)
  match result with
  | .ok payload =>
    obtain ⟨made, last, patient, delivered, ready, linked, same⟩ :=
      contract.post_of_run ⟨sound, rfl⟩ ran
    refine ⟨made ++ [last], congrArg (·.attempts) same, patient, congrArg (·.callCount) same,
      congrArg (·.errorCount) same, ready, ?_, last, List.getLast?_concat .., delivered⟩
    rcases linked with ⟨-, profile, found, -⟩ | ⟨other, -⟩
    · exact (Option.isSome_map ..).symm.trans (Option.isSome_of_eq_some found)
    · exact absurd rfl other
  | .error (.err error) =>
    obtain ⟨made, patient, other, session, shm, same⟩ := contract.blame_of_run ⟨sound, rfl⟩ ran
    exact ⟨made, congrArg (·.attempts) same, patient, congrArg (·.callCount) same,
      congrArg (·.errorCount) same, other, session, shm⟩
  | .error .panic | .error .fuel => exact ended.elim

/-- The contract of `raw_call_with_retry_timeout`, in every history of a client, between the
subcalls of a lookup too, and against every environment. -/
theorem rawCall_contract {os : ClientOs σ} {boundCode : UInt16} {config : TransportClientConfig}
    {state : σ} {start : ClientWorld σ}
    (history : History os (fun _ _ => True) (newWorld boundCode config state) start)
    (fuel : Nat) (methodCode : UInt16) (reqLen : Nat) (call : RawCallKind) (timeoutMs : UInt32) :
    (∀ result after,
      (rawCallWithRetryTimeout os fuel methodCode reqLen call timeoutMs).run start =
        (result, after) → Completed result →
      ∃ made, after.attempts = start.attempts ++ made ∧ Patient made ∧
        (start.client.state ≠ .ready →
          made = [] ∧ after.os = start.os ∧ after.trace = start.trace) ∧
        Concluded methodCode made start after result) ∧
    ((∀ hdr timeoutMs, Finishes (doRawCall os fuel hdr reqLen call timeoutMs)) →
      Finishes (tryConnect os fuel) → 8 < fuel →
      Finishes (rawCallWithRetryTimeout os fuel methodCode reqLen call timeoutMs)) := by
  refine ⟨fun result after ran ended => ?_, fun exchanges connects enough =>
    rawCallWithRetryTimeout_finishes exchanges connects enough timeoutMs⟩
  obtain ⟨made, attempts, patient, concluded⟩ :=
    concluded_of_triple (history.sound (sound_newWorld _ _ _)) ended ran
  refine ⟨made, attempts, patient, fun other => ?_, concluded⟩
  rw [run_rawCallWithRetryTimeout_of_not_ready os fuel methodCode reqLen call timeoutMs start other]
    at ran
  cases ran
  exact ⟨List.append_cancel_left (attempts.symm.trans (List.append_nil _).symm), rfl, rfl⟩

/-- A server that accepts every client and sends the packets of a script. -/
def scriptedOs (session : Session) : ClientOs (List Bytes) where
  toOs := { queueOs with sendmsg := fun data script => ((data.length, 0), script) }
  connect _ script := (.ok session, script)
  clientAttach _ script := (.error .other, script)
  shmSend _ _ script := (.ok (), script)
  shmReceive _ _ _ script := (.error .timeout, script)
  closeShm _ script := script
  dropSession _ script := script
  sleep _ script := script
  storeAbort _ script := script

/-- The packet of an answer. -/
def answerPacket (code : UInt16) (messageId : UInt64) (payload : Bytes) : Bytes :=
  Header.image
    { magic := magicMsg, version := version, headerLen := headerLen, kind := kindResponse,
      code := code, itemCount := 1, messageId := messageId,
      payloadLen := UInt32.ofNat payload.length } ++ payload

/-- A client that connected makes a call that is answered. -/
theorem rawCall_contract_answered :
    let session := Handshake.sessionOf 3 .client ⟨1, 0, 1, 1, 1, 1024, 1, 1024, 1, 4096, 7⟩
    let os := scriptedOs session
    let new := newWorld 1 ⟨1, 0, 1024, 1, 1024, 1, 0, 4096⟩ [answerPacket 1 1 []]
    let start := ((Operation.perform os 9 .refresh).run new).2
    let call := (rawCallWithRetryTimeout os 9 1 0 .single 0).run start
    call.1 = .ok [] ∧ ∃ made, call.2.attempts = start.attempts ++ made ∧ Patient made ∧
      Concluded 1 made start call.2 (.ok []) := by
  intro session os new start call
  have returned : call.1 = .ok [] := by decide +kernel
  have connected : ((Operation.perform os 9 .refresh).run new).1 = .ok () := by decide +kernel
  have history : History os (fun _ _ => True) new start :=
    .operation 9 .refresh .refl trivial (completed_of_ok connected)
  obtain ⟨made, attempts, patient, -, concluded⟩ :=
    (rawCall_contract history 9 1 0 .single 0).1 (.ok []) call.2 (Prog.run_of_fst returned)
    trivial
  exact ⟨returned, made, attempts, patient, concluded⟩

end Client

end NetIpc
