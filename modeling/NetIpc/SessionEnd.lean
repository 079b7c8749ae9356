/-
This file proves what a session of the managed server responds with, and when it is
over after an error response.

The log of a session is a sequence of rounds, one for each pass: a message, calls of
the handler and at most one response, which comes from that message and those calls.
So every response answers the request received last, and no request is answered
twice.

The code leaves its loop after a LIMIT_EXCEEDED response, but not after BAD_ENVELOPE
or INTERNAL_ERROR. Those two are sent when an item of a batch cannot be read, or when
the handler fails or reports a bad envelope. So an error response is the last thing
in the log of a session as long as nothing of that kind happens before the last
request: a pass that goes on has an error response only if one of its other events
explains it.
-/

import NetIpc.ServerSession

namespace NetIpc

/-! ### The log of a session -/

namespace ServerEvent

def isRequest : ServerEvent → Bool
  | received hdr _ => hdr.kind = kindRequest
  | invoked .. | responded .. => false

/-- A response that says the session is of no further use. -/
def isTerminal : ServerEvent → Bool
  | responded hdr _ => hdr.transportStatus = statusLimitExceeded ∨
      hdr.transportStatus = statusBadEnvelope ∨ hdr.transportStatus = statusInternalError
  | received .. | invoked .. => false

/-- Neither a response nor a call of the handler. -/
def isQuiet : ServerEvent → Bool
  | received .. => true
  | invoked .. | responded .. => false

def isCall : ServerEvent → Bool
  | invoked .. => true
  | received .. | responded .. => false

/-- A message whose items, if it is a batch, can all be read; a call on which the handler neither
fails nor reports a bad envelope. -/
def isSound : ServerEvent → Bool
  | received hdr payload => !Server.isBatch hdr || (List.range hdr.itemCount.toNat).all fun i =>
      (batchItemGet payload hdr.itemCount (UInt32.ofNat i)).isOk
  | invoked _ (.error (.err .badEnvelope)) => false
  | invoked _ (.error (.err .handlerFailed)) => false
  | invoked .. | responded .. => true

end ServerEvent

namespace Server

open ServerEvent

variable {σ α : Type}

/-- Everything before a request was sound. -/
def SoundBefore (log : List ServerEvent) : Prop :=
  log.Pairwise fun event later => later.isRequest → event.isSound

/-- No response and no call of the handler comes after a terminal response. -/
def OverAtTerminal (log : List ServerEvent) : Prop :=
  log.Pairwise fun event later => event.isTerminal → later.isQuiet

instance (log : List ServerEvent) : Decidable (SoundBefore log) :=
  inferInstanceAs (Decidable (log.Pairwise _))

instance (log : List ServerEvent) : Decidable (OverAtTerminal log) :=
  inferInstanceAs (Decidable (log.Pairwise _))

/-- A terminal response among the events is explained by one that is not sound. -/
def Calm (events : List ServerEvent) : Prop :=
  (∀ event ∈ events, event.isSound) → ∀ event ∈ events, ¬ event.isTerminal

/-- One call of the handler: the request, the length of the buffer it was given, what it returned
and what it left in the buffer. -/
structure Invocation where
  request : Bytes
  size : Nat
  result : Res DispatchError Nat
  buffer : Bytes

def Invocation.event (invocation : Invocation) : ServerEvent :=
  .invoked invocation.request invocation.result

/-- From a buffer and a state the handler makes these calls, one after the other. -/
def Invokes (dispatch : SessionHandler σ) : Bytes × σ → List Invocation → Prop
  | _, [] => True
  | state, invocation :: rest =>
    invocation.size = state.1.length ∧
      ∃ next, (dispatch invocation.request).run state = (invocation.result, next) ∧
        invocation.buffer = next.1 ∧ Invokes dispatch next rest

/-- What a session makes of a call: a length the buffer does not have is an overflow. -/
inductive Invocation.Settles (invocation : Invocation) : Except DispatchError Nat → Prop
  | answered {n : Nat} (returned : invocation.result = .ok n) (fits : n ≤ invocation.size) :
      invocation.Settles (.ok n)
  | overlong {n : Nat} (returned : invocation.result = .ok n) (past : invocation.size < n) :
      invocation.Settles (.error .overflow)
  | refused {error : DispatchError} (returned : invocation.result = .error (.err error)) :
      invocation.Settles (.error error)

/-- How a response comes from a request and the calls of the handler made for it. Of a batch this
only says whose response it is. -/
inductive Replied (config : SessionConfig σ) (hdr : Header) (request : Bytes) :
    List ServerEvent → Header → Bytes → Prop
  | unsupported (other : ¬ methodSupportedInternal config hdr.code) :
      Replied config hdr request [] (unsupportedHeader hdr) []
  | single {dispatch : SessionHandler σ} {state : Bytes × σ} {invocation : Invocation}
      {result : Except DispatchError Nat} (supported : methodSupportedInternal config hdr.code)
      (found : config.handler = some dispatch) (alone : isBatch hdr = false)
      (asked : invocation.request = request)
      (invokes : Invokes dispatch state [invocation]) (settles : invocation.Settles result) :
      Replied config hdr request [invocation.event] (responseHeader hdr result)
        (invocation.buffer.take (responseLen result))
  | batch {calls : List ServerEvent} {result : Except DispatchError Nat} (buf : Bytes)
      (supported : methodSupportedInternal config hdr.code) (batch : isBatch hdr = true) :
      Replied config hdr request calls (responseHeader hdr result) (buf.take (responseLen result))

/-- The events of one pass of the loop. -/
inductive Round (config : SessionConfig σ) : List ServerEvent → Prop
  | idle : Round config []
  | refused (hdr : Header) (payload : Bytes) (other : hdr.kind ≠ kindRequest) :
      Round config [received hdr payload]
  | cut (hdr : Header) (payload : Bytes) (calls : List ServerEvent)
      (request : hdr.kind = kindRequest) (each : ∀ call ∈ calls, call.isCall) :
      Round config (received hdr payload :: calls)
  | answered (hdr : Header) (payload : Bytes) (calls : List ServerEvent) (respHdr : Header)
      (response : Bytes) (request : hdr.kind = kindRequest) (each : ∀ call ∈ calls, call.isCall)
      (replied : Replied config hdr payload calls respHdr response) :
      Round config (received hdr payload :: calls ++ [responded respHdr response])

/-- Every response of a log answers the request received last: only calls of the handler, made for
this request, are between the two. -/
def InTurn (config : SessionConfig σ) (log : List ServerEvent) : Prop :=
  ∀ earlier respHdr response later, log = earlier ++ responded respHdr response :: later →
    ∃ before hdr request calls, earlier = before ++ received hdr request :: calls ∧
      hdr.kind = kindRequest ∧ (∀ call ∈ calls, call.isCall) ∧
      Replied config hdr request calls respHdr response

/-- What holds of the log however the session ends. -/
structure Conducted (config : SessionConfig σ) (log : List ServerEvent) : Prop where
  inTurn : InTurn config log
  ended : SoundBefore log → OverAtTerminal log

/-- What holds of the log before every pass. -/
structure Steady (config : SessionConfig σ) (log : List ServerEvent) : Prop extends
    Conducted config log where
  calm : Calm log

theorem Calm.nil : Calm [] := fun _ _ member => nomatch member

variable {events : List ServerEvent}

theorem Calm.append {log : List ServerEvent} (first : Calm log) (second : Calm events) :
    Calm (log ++ events) := by
  intro sound event member
  rcases List.mem_append.mp member with early | late
  · exact first (fun other found => sound other (List.mem_append_left _ found)) event early
  · exact second (fun other found => sound other (List.mem_append_right _ found)) event late

/-- Nothing terminal but, perhaps, the last event. -/
theorem overAtTerminal_append {log last : List ServerEvent}
    (calm : ∀ event ∈ log, ¬ event.isTerminal) (short : OverAtTerminal last) :
    OverAtTerminal (log ++ last) := by
  have still : OverAtTerminal log :=
    List.Pairwise.imp_of_mem (fun member _ _ terminal => absurd terminal (calm _ member))
      (List.pairwise_of_forall (R := fun _ _ => True) fun _ _ => trivial)
  exact List.pairwise_append.mpr ⟨still, short,
    fun event member _ _ terminal => absurd terminal (calm event member)⟩

/-- A message and the calls made for it are not terminal. -/
theorem not_isTerminal_of_served {hdr : Header} {payload : Bytes} {calls : List ServerEvent}
    (each : ∀ call ∈ calls, call.isCall) :
    ∀ event ∈ received hdr payload :: calls, ¬ event.isTerminal := by
  intro event member
  rcases List.mem_cons.mp member with rfl | call
  · exact Bool.false_ne_true
  · cases event with
    | invoked request result => exact Bool.false_ne_true
    | received hdr payload => exact absurd (each _ call) Bool.false_ne_true
    | responded hdr payload => exact absurd (each _ call) Bool.false_ne_true

/-- A request finds nothing terminal before it, if everything before it was sound. -/
theorem calm_before_request {log calls rest : List ServerEvent} {hdr : Header} {payload : Bytes}
    (calm : Calm log) (request : hdr.kind = kindRequest) (each : ∀ call ∈ calls, call.isCall)
    (sound : SoundBefore (log ++ received hdr payload :: rest)) :
    ∀ event ∈ log ++ received hdr payload :: calls, ¬ event.isTerminal := by
  have before := (List.pairwise_append.mp sound).2.2
  intro event member
  rcases List.mem_append.mp member with early | late
  · exact calm (fun other found => before other found (received hdr payload)
      List.mem_cons_self (decide_eq_true request)) event early
  · exact not_isTerminal_of_served each event late

section Conducted

variable {config : SessionConfig σ}

theorem not_mem_of_isCall {hdr respHdr : Header} {payload response : Bytes}
    {calls : List ServerEvent} (each : ∀ call ∈ calls, call.isCall) :
    responded respHdr response ∉ received hdr payload :: calls := by
  intro member
  rcases List.mem_cons.mp member with other | call
  · cases other
  · exact Bool.false_ne_true (each _ call)

/-- A response among the events of a pass is their last one. -/
theorem Round.inTurn (round : Round config events) : InTurn config events := by
  intro earlier respHdr response later same
  have member : responded respHdr response ∈ events := same ▸ List.mem_append_cons_self
  cases round with
  | idle => cases member
  | refused => cases List.mem_singleton.mp member
  | cut hdr payload calls _ each => exact absurd member (not_mem_of_isCall each)
  | answered hdr payload calls _ _ request each replied =>
    rcases List.eq_nil_or_concat later with rfl | ⟨rest, last, rfl⟩
    · obtain ⟨rfl, last⟩ := List.append_inj' same rfl
      cases last
      exact ⟨[], hdr, payload, calls, rfl, request, each, replied⟩
    · rw [List.concat_eq_append, ← List.cons_append, ← List.append_assoc] at same
      have early : responded respHdr response ∈ received hdr payload :: calls := by
        rw [(List.append_inj' same rfl).1]
        exact List.mem_append_cons_self
      exact absurd early (not_mem_of_isCall each)

theorem InTurn.append {log : List ServerEvent} (first : InTurn config log)
    (second : InTurn config events) : InTurn config (log ++ events) := by
  intro earlier respHdr response later same
  rcases List.append_eq_append_iff.mp same with ⟨mid, rfl, rest⟩ | ⟨mid, rfl, rest⟩
  · obtain ⟨before, hdr, request, calls, rfl, asked⟩ := second mid respHdr response later rest
    exact ⟨log ++ before, hdr, request, calls, (List.append_assoc ..).symm, asked⟩
  · cases mid with
    | nil =>
      obtain ⟨before, hdr, request, calls, empty, -⟩ := second [] respHdr response later rest.symm
      exact absurd empty.symm (List.append_ne_nil_of_right_ne_nil _ (List.cons_ne_nil _ _))
    | cons event mid =>
      obtain ⟨rfl, -⟩ := List.cons.inj rest
      exact first earlier respHdr response mid rfl

/-- However a pass ends, nothing but silence follows a terminal response. -/
theorem Steady.over_append {log : List ServerEvent} (steady : Steady config log)
    (round : Round config events) (sound : SoundBefore (log ++ events)) :
    OverAtTerminal (log ++ events) := by
  cases round with
  | idle =>
    rw [List.append_nil] at sound ⊢
    exact steady.ended sound
  | refused hdr payload other =>
    have ended := steady.ended (List.pairwise_append.mp sound).1
    refine List.pairwise_append.mpr ⟨ended, List.pairwise_singleton _ _, ?_⟩
    intro event _ later found _
    rw [List.mem_singleton.mp found]
    rfl
  | cut hdr payload calls request each =>
    have calm := calm_before_request steady.calm request each sound
    have ended := overAtTerminal_append calm List.Pairwise.nil
    rwa [List.append_nil] at ended
  | answered hdr payload calls respHdr response request each =>
    have calm := calm_before_request steady.calm request each sound
    have ended := overAtTerminal_append calm
      (List.pairwise_singleton _ (responded respHdr response))
    rwa [List.append_assoc] at ended

/-- However a pass ends, the log is as it should be. -/
theorem Steady.append {log : List ServerEvent} (steady : Steady config log)
    (round : Round config events) : Conducted config (log ++ events) :=
  ⟨steady.inTurn.append round.inTurn, steady.over_append round⟩

end Conducted

/-! ### Programs that leave the log and the response buffers alone -/

/-- A view that does not show the session, the environment or the packets. -/
def Aside {τ : Type} (view : ServerWorld σ → τ) : Prop :=
  ∀ world session os trace, view { world with session, os, trace } = view world

section Aside

variable {τ : Type} {view : ServerWorld σ → τ}

theorem Aside.outside (aside : Aside view) (step : σ → α × σ) :
    Keeps view (outside step : ServerProg σ α) :=
  fun world => aside world world.session _ world.trace

theorem Aside.onSession (aside : Aside view) (program : UdsProg σ α) :
    Keeps view (onSession program : ServerProg σ (Res UdsError α)) :=
  fun world => aside world _ _ _

theorem attempted_keeps {ε : Type} (result : Res ε α) :
    Keeps view (attempted result : ServerProg σ (Except ε α)) := by
  match result with
  | .ok _ | .error (.err _) | .error .panic | .error .fuel => exact fun _ => rfl

theorem takeShmMessage_keeps (recvLen : Nat) (message : Bytes) :
    Keeps view (takeShmMessage recvLen message : ServerProg σ Intake) := by
  refine Keeps.ite (Keeps.pure _) (Keeps.ite (Keeps.stop _) ?_)
  refine Keeps.bind (attempted_keeps _) fun decoded => ?_
  cases decoded with
  | ok hdr => exact Keeps.pure _
  | error error => exact Keeps.pure _

theorem Aside.receiveRequest (aside : Aside view) (os : ServerOs σ) :
    Keeps view (receiveRequest os) := by
  refine Keeps.bind Keeps.get fun world => Keeps.ite ?_ ?_
  · refine Keeps.bind (aside.outside _) fun received => ?_
    match received with
    | .ok message => exact takeShmMessage_keeps _ message
    | .error .timeout | .error .msgTooLarge | .error .other => exact Keeps.pure _
  · refine Keeps.bind (aside.outside _) fun polled => ?_
    refine Keeps.ite (Keeps.pure _) (Keeps.ite (Keeps.pure _) ?_)
    refine Keeps.bind (aside.onSession _) fun received => ?_
    refine Keeps.bind (attempted_keeps _) fun outcome => ?_
    match outcome with
    | .ok (hdr, payload) => exact Keeps.pure _
    | .error _ => exact Keeps.pure _

theorem Aside.noteRequest (aside : Aside view) (os : ServerOs σ) (config : SessionConfig σ)
    (payload : Bytes) : Keeps view (noteRequest os config payload) :=
  Keeps.ite (aside.outside _) (Keeps.pure _)

theorem Aside.noteOutcome (aside : Aside view) (os : ServerOs σ) (config : SessionConfig σ)
    (result : Except DispatchError Nat) : Keeps view (noteOutcome os config result) := by
  match result with
  | .ok n => exact Keeps.ite (aside.outside _) (Keeps.pure _)
  | .error .overflow => exact Keeps.bind Keeps.get fun _ => aside.outside _
  | .error .badEnvelope | .error .handlerFailed => exact Keeps.pure _

end Aside

theorem aside_log : Aside (ServerWorld.log (σ := σ)) := fun _ _ _ _ => rfl

/-! ### What the programs add to the log -/

/-- The log has grown by calls of the handler. -/
def Called (log calls : List ServerEvent) (world : ServerWorld σ) : Prop :=
  (∀ call ∈ calls, call.isCall) ∧ world.log = log ++ calls

/-- The log has grown by some calls of the handler. -/
def Stopped (log : List ServerEvent) (world : ServerWorld σ) : Prop :=
  ∃ calls, Called log calls world

variable {world : ServerWorld σ} {calls : List ServerEvent}

theorem Called.none {log : List ServerEvent} (same : world.log = log) : Called log [] world :=
  ⟨nofun, by rw [same, List.append_nil]⟩

theorem Called.append {log first second : List ServerEvent}
    (called : Called (log ++ first) second world) (each : ∀ call ∈ first, call.isCall) :
    Called log (first ++ second) world := by
  refine ⟨fun call member => ?_, by rw [called.2, List.append_assoc]⟩
  rcases List.mem_append.mp member with early | late
  · exact each call early
  · exact called.1 call late

theorem Stopped.append {log first : List ServerEvent} (stopped : Stopped (log ++ first) world)
    (each : ∀ call ∈ first, call.isCall) : Stopped log world :=
  stopped.elim fun _ called => ⟨_, called.append each⟩

/-- A result that is no error but an overflow, unless one of the events explains the error. -/
def Excused (events : List ServerEvent) : Except DispatchError α → Prop
  | .ok _ | .error .overflow => True
  | .error .badEnvelope | .error .handlerFailed => ∃ event ∈ events, ¬ event.isSound

theorem excused_of_mem {event : ServerEvent} (member : event ∈ events) (unsound : ¬ event.isSound)
    (result : Except DispatchError α) : Excused events result := by
  match result with
  | .ok _ | .error .overflow => trivial
  | .error .badEnvelope | .error .handlerFailed => exact ⟨event, member, unsound⟩

theorem Excused.mono {others : List ServerEvent} {result : Except DispatchError α}
    (excused : Excused events result) (more : ∀ event ∈ events, event ∈ others) :
    Excused others result := by
  match result with
  | .ok _ | .error .overflow => trivial
  | .error .badEnvelope | .error .handlerFailed =>
    obtain ⟨event, member, unsound⟩ := excused
    exact ⟨event, more event member, unsound⟩

/-- An error is excused whatever the value would have been. -/
theorem Excused.cast {β : Type} {error : DispatchError}
    (excused : Excused events (.error error : Except DispatchError α)) :
    Excused events (.error error : Except DispatchError β) := by
  cases error with
  | overflow => trivial
  | badEnvelope | handlerFailed => exact excused

theorem attempted_always {ε : Type} (result : Res ε α) {pre stopped : ServerWorld σ → Prop}
    (halted : ∀ world, pre world → stopped world) :
    Always pre (attempted result)
      (fun value world => result = value.mapError Stop.err ∧ pre world) stopped := by
  intro world start
  match result with
  | .ok _ | .error (.err _) => exact ⟨rfl, start⟩
  | .error .panic | .error .fuel => exact halted world start

theorem run_invoke (dispatch : SessionHandler σ) (request : Bytes) (buffer : Buffer)
    (world : ServerWorld σ) :
    (invoke dispatch request buffer).run world =
      let outcome := (dispatch request).run (buffer.get world, world.os)
      (attempted outcome.1).run { buffer.put outcome.2.1 world with
        os := outcome.2.2, log := world.log ++ [invoked request outcome.1] } := rfl

/-- One call of the handler in a session, on one of the two buffers. -/
structure Step (dispatch : SessionHandler σ) (request : Bytes) (buffer : Buffer)
    (world : ServerWorld σ) (invocation : Invocation) (after : ServerWorld σ) : Prop where
  asked : invocation.request = request
  size : invocation.size = (buffer.get world).length
  ran : (dispatch request).run (buffer.get world, world.os) =
    (invocation.result, buffer.get after, after.os)
  left : invocation.buffer = buffer.get after
  log : after.log = world.log ++ [invocation.event]

theorem Step.invokes {dispatch : SessionHandler σ} {request : Bytes} {buffer : Buffer}
    {after : ServerWorld σ} {invocation : Invocation}
    (step : Step dispatch request buffer world invocation after) :
    Invokes dispatch (buffer.get world, world.os) [invocation] :=
  ⟨step.size, _, step.asked ▸ step.ran, step.left, trivial⟩

theorem Step.called {dispatch : SessionHandler σ} {request : Bytes} {buffer : Buffer}
    {after : ServerWorld σ} {invocation : Invocation}
    (step : Step dispatch request buffer world invocation after) :
    Called world.log [invocation.event] after :=
  ⟨fun _ member => List.mem_singleton.mp member ▸ rfl, step.log⟩

/-- The dispatch of a request is one call of the handler. -/
theorem dispatchSingleInternal_step {config : SessionConfig σ} {dispatch : SessionHandler σ}
    (found : config.handler = some dispatch) (request : Bytes) (buffer : Buffer) :
    Always (· = world) (dispatchSingleInternal config config.expectedMethodCode request buffer)
      (fun result after => ∃ invocation, Step dispatch request buffer world invocation after ∧
        invocation.Settles result)
      (fun after => ∃ invocation, Step dispatch request buffer world invocation after) := by
  rintro world rfl
  unfold dispatchSingleInternal
  rw [if_neg (not_not_intro rfl), found]
  dsimp only
  rw [Prog.run_bind_ok (Prog.run_get world), Prog.run_bind, run_invoke]
  have step {contents : Bytes} {state : σ} {result : Res DispatchError Nat}
      (ran : (dispatch request).run (buffer.get world, world.os) = (result, contents, state)) :
      Step dispatch request buffer world ⟨request, (buffer.get world).length, result, contents⟩
        { buffer.put contents world with
          os := state, log := world.log ++ [invoked request result] } := by
    cases buffer with
    | resp | item => exact ⟨rfl, rfl, ran, rfl, rfl⟩
  match ran : (dispatch request).run (buffer.get world, world.os) with
  | (.ok n, contents, state) =>
    refine ⟨_, step ran, ?_⟩
    by_cases fits : n ≤ (buffer.get world).length
    · rw [if_pos fits]
      exact .answered rfl fits
    · rw [if_neg fits]
      exact .overlong rfl (Nat.lt_of_not_le fits)
  | (.error (.err error), contents, state) => exact ⟨_, step ran, .refused rfl⟩
  | (.error .panic, contents, state) | (.error .fuel, contents, state) => exact ⟨_, step ran⟩

/-- A call of the handler explains its own error. -/
theorem Invocation.Settles.excused {invocation : Invocation} {result : Except DispatchError Nat}
    (settles : invocation.Settles result) : Excused [invocation.event] result := by
  cases settles with
  | answered | overlong => trivial
  | @refused error returned =>
    rw [Invocation.event, returned]
    cases error with
    | overflow => trivial
    | badEnvelope | handlerFailed => exact ⟨_, List.mem_singleton_self _, Bool.false_ne_true⟩

/-- One dispatch, for a method the session supports. -/
theorem dispatchSingleInternal_always (config : SessionConfig σ) (methodCode : UInt16)
    (supported : methodSupportedInternal config methodCode) (request : Bytes) (buffer : Buffer)
    (log : List ServerEvent) :
    Always (fun world => world.log = log)
      (dispatchSingleInternal config methodCode request buffer)
      (fun result world => ∃ calls, Excused calls result ∧
        (∀ hdr, methodSupportedInternal config hdr.code → isBatch hdr = false →
          Replied config hdr request calls (responseHeader hdr result)
            ((buffer.get world).take (responseLen result))) ∧ Called log calls world)
      (Stopped log) := by
  obtain ⟨present, rfl⟩ := of_decide_eq_true supported
  obtain ⟨dispatch, found⟩ := Option.isSome_iff_exists.mp present
  rintro world rfl
  refine ((dispatchSingleInternal_step found request buffer).mono (fun _ same => same)
    ?_ ?_) world rfl
  · rintro result after ⟨invocation, step, settles⟩
    refine ⟨_, settles.excused, fun hdr supported alone => ?_, step.called⟩
    rw [← step.left]
    exact .single supported found alone step.asked step.invokes settles
  · rintro _ after ⟨invocation, step⟩
    exact ⟨_, step.called⟩

/-- An item that cannot be read makes the whole message unsound. -/
theorem not_isSound_of_item {hdr : Header} {payload : Bytes} {i : UInt32} {error : Stop NipcError}
    (batch : isBatch hdr) (low : i.toNat < hdr.itemCount.toNat)
    (unreadable : batchItemGet payload hdr.itemCount i = .error error) :
    ¬ (received hdr payload).isSound := by
  intro sound
  unfold isSound at sound
  dsimp only at sound
  rw [batch, Bool.not_true, Bool.false_or, List.all_eq_true] at sound
  have readable := sound i.toNat (List.mem_range.mpr low)
  rw [UInt32.ofNat_toNat, unreadable] at readable
  cases readable

/-- The loop over the items, by induction on how many are left. -/
theorem batchItems_always (config : SessionConfig σ) (hdr : Header) (payload : Bytes)
    (supported : methodSupportedInternal config hdr.code) (batch : isBatch hdr)
    (count : Nat) (i : UInt32) (builder : BatchBuilder)
    (left : i.toNat + count = hdr.itemCount.toNat) (log : List ServerEvent) :
    Always (fun world => world.log = log) (batchItems config hdr payload count i builder)
      (fun result world => ∃ calls, Excused (received hdr payload :: calls) result.1 ∧
        Called log calls world)
      (Stopped log) := by
  induction count generalizing i builder log with
  | zero => exact Exits.pure _ fun world start => ⟨[], trivial, Called.none start⟩
  | succ count ih =>
    refine Exits.via _ (attempted_always _ fun _ start => ⟨[], Called.none start⟩) fun item => ?_
    refine Exits.of_and fun read => ?_
    match item with
    | .error error =>
      have unsound := not_isSound_of_item batch (by omega) read
      exact Exits.pure _ fun world start =>
        ⟨[], excused_of_mem List.mem_cons_self unsound _, Called.none start⟩
    | .ok (itemData, itemLen) =>
      refine Exits.via (fun result world => ∃ calls, Excused calls result ∧ Called log calls world)
        ((dispatchSingleInternal_always config hdr.code supported itemData .item log).mono
          (fun _ same => same) ?_ fun _ _ stopped => stopped) fun result => ?_
      · rintro result world ⟨calls, excused, -, called⟩
        exact ⟨calls, excused, called⟩
      refine Exits.of_exists fun calls => Exits.of_and fun excused => ?_
      have excused := excused.mono fun event => List.mem_cons_of_mem (received hdr payload)
      match result with
      | .error error =>
        exact Exits.pure _ fun world called => ⟨calls, excused.cast, called⟩
      | .ok itemLen =>
        refine Exits.of_and fun each => ?_
        have halted (world : ServerWorld σ) (same : world.log = log ++ calls) :
            Stopped log world := ⟨calls, each, same⟩
        refine Exits.via (fun _ world => world.log = log ++ calls)
          (Always.get fun _ start => start) fun world => ?_
        refine Exits.via (fun _ world => world.log = log ++ calls)
          (Exits.ofRes _ (fun _ _ start _ => start) fun world _ start _ => halted world start)
          fun bytes => ?_
        refine Exits.via _ (attempted_always _ halted) fun added => ?_
        refine Exits.of_and fun _ => ?_
        match added with
        | .error error =>
          exact Exits.pure _ fun world same => ⟨calls, trivial, each, same⟩
        | .ok () =>
          refine (ih (i + 1) _ ?_ (log ++ calls)).mono (fun _ same => same)
            ?_ fun _ _ stopped => stopped.append each
          · have bound := hdr.itemCount.toNat_lt
            rw [UInt32.toNat_add, UInt32.toNat_one, Nat.mod_eq_of_lt (by omega)]
            omega
          · rintro result after ⟨more, excused, called⟩
            refine ⟨calls ++ more, excused.mono ?_, called.append each⟩
            exact fun event member =>
              List.cons_subset_cons _ (List.subset_append_right calls more) member

theorem dispatchBatch_always (config : SessionConfig σ) (hdr : Header) (payload : Bytes)
    (supported : methodSupportedInternal config hdr.code) (batch : isBatch hdr)
    (log : List ServerEvent) :
    Always (fun world => world.log = log) (dispatchBatch config hdr payload)
      (fun result world => ∃ calls, Excused (received hdr payload :: calls) result ∧
        Called log calls world)
      (Stopped log) := by
  refine Exits.via (fun _ world => world.log = log) (Always.get fun _ start => start)
    fun world => ?_
  refine Exits.via _ (batchItems_always config hdr payload supported batch _ 0 _
    (Nat.zero_add _) log) fun result => ?_
  refine Exits.of_exists fun calls => Exits.of_and fun excused => ?_
  match result with
  | (.error error, builder) =>
    refine Exits.via (fun _ => Called log calls) (Exits.modify _ fun _ called => called) fun _ => ?_
    exact Exits.pure _ fun world called => ⟨calls, excused.cast, called⟩
  | (.ok (), builder) =>
    refine Exits.via (fun _ => Called log calls) (Exits.modify _ fun _ called => called) fun _ => ?_
    refine Exits.via _ (attempted_always _ fun _ called => ⟨calls, called⟩) fun finished => ?_
    refine Exits.of_and fun _ => ?_
    match finished with
    | .ok (n, _) => exact Exits.pure _ fun world called => ⟨calls, trivial, called⟩
    | .error _ => exact Exits.stop _ fun world called => ⟨calls, called⟩

/-- What a dispatch leaves in the log, which began with `log`, and in the response buffer. -/
def Dispatched (config : SessionConfig σ) (hdr : Header) (payload : Bytes) (log : List ServerEvent)
    (result : Except DispatchError Nat) (left : List ServerEvent × Bytes) : Prop :=
  ∃ calls, Excused (received hdr payload :: calls) result ∧ (∀ call ∈ calls, call.isCall) ∧
    Replied config hdr payload calls (responseHeader hdr result)
      (left.2.take (responseLen result)) ∧
    left.1 = log ++ calls

theorem dispatchRequest_always (config : SessionConfig σ) (hdr : Header) (payload : Bytes)
    (supported : methodSupportedInternal config hdr.code) (log : List ServerEvent) :
    Always (fun world => world.log = log) (dispatchRequest config hdr payload)
      (fun result world => Dispatched config hdr payload log result (world.log, world.respBuf))
      (Stopped log) := by
  refine Exits.ite (fun batch => ?_) fun single => ?_
  · refine (dispatchBatch_always config hdr payload supported batch log).mono
      (fun _ same => same) ?_ fun _ _ stopped => stopped
    rintro result world ⟨calls, excused, each, grown⟩
    exact ⟨calls, excused, each, .batch world.respBuf supported batch, grown⟩
  · refine (dispatchSingleInternal_always config hdr.code supported payload .resp log).mono
      (fun _ same => same) ?_ fun _ _ stopped => stopped
    rintro result world ⟨calls, excused, replied, each, grown⟩
    exact ⟨calls, excused.mono fun event => List.mem_cons_of_mem _, each,
      replied hdr supported (Bool.eq_false_of_not_eq_true single), grown⟩

variable (os : ServerOs σ) (config : SessionConfig σ) (hdr : Header) (payload : Bytes)
  (log : List ServerEvent)

/-- A response is one event, whatever becomes of it. -/
theorem respond_always : Always (fun world => world.log = log) (respond os hdr payload)
      (fun _ world => world.log = log ++ [responded hdr payload])
      (fun world => world.log = log ++ [responded hdr payload]) := by
  refine Exits.via (fun _ world => world.log = log ++ [responded hdr payload])
    (Exits.modify _ fun world same => congrArg (· ++ [responded hdr payload]) same) fun _ => ?_
  refine Always.of_keeps ?_ (· = log ++ [responded hdr payload]) fun _ same => same
  refine Keeps.bind Keeps.get fun world => Keeps.ite ?_ ?_
  · refine Keeps.bind (aside_log.outside _) fun sent => ?_
    cases sent with
    | ok | error => exact Keeps.pure _
  · refine Keeps.bind (aside_log.onSession _) fun sent => ?_
    refine Keeps.bind (attempted_keeps _) fun outcome => ?_
    cases outcome with
    | ok | error => exact Keeps.pure _

/-- The answer to a supported request, from what its dispatch leaves in the log and in the response
buffer. -/
theorem serve_always {pre : ServerWorld σ → Prop} (stopped : List ServerEvent → Prop)
    (dispatched : Except DispatchError Nat → List ServerEvent × Bytes → Prop)
    (finished : Except DispatchError Nat → List ServerEvent → Prop)
    (dispatches : Always pre (dispatchRequest config hdr payload)
      (fun result world => dispatched result (world.log, world.respBuf))
      fun world => stopped world.log)
    (cut : ∀ result left, dispatched result left → stopped left.1)
    (answered : ∀ result left, dispatched result left → responseLen result ≤ left.2.length →
      finished result (left.1 ++
        [responded (responseHeader hdr result) (left.2.take (responseLen result))]))
    (halted : ∀ result log, finished result log → stopped log) :
    Always pre (serve os config hdr payload)
      (fun next world => ∃ result, finished result world.log ∧ (next = .inl () →
        (responseHeader hdr result).transportStatus ≠ statusLimitExceeded))
      fun world => stopped world.log := by
  refine Exits.via _ dispatches fun result => ?_
  have notes : Keeps (fun world : ServerWorld σ => (world.log, world.respBuf))
    (noteOutcome os config result) := Aside.noteOutcome (fun _ _ _ _ => rfl) os config result
  refine Exits.via _ (Always.of_keeps notes (dispatched result) fun _ => cut result _)
    fun _ noted held => ?_
  rw [Prog.run_bind_ok (Prog.run_get noted)]
  refine Exits.via (fun response world => finished result (noted.log ++
      [responded (responseHeader hdr result) response]) ∧ world.log = noted.log)
    (Exits.ofRes _ (fun world response same read => ⟨?_, same ▸ rfl⟩) fun _ _ same _ => ?_)
    (fun response => Exits.of_and fun done => ?_) noted rfl
  · obtain ⟨-, inside, rfl⟩ := readSlice_eq_ok read
    exact answered result _ held inside
  · exact same ▸ cut result _ held
  refine Exits.via (fun _ world => finished result world.log)
    ((respond_always os _ response noted.log).mono (fun _ same => same) (fun _ _ grown => ?_)
      fun _ _ grown => ?_) fun sent => ?_
  · rwa [grown]
  · rw [grown]
    exact halted result _ done
  cases sent with
  | false => exact Exits.pure _ fun world passed => ⟨result, passed, nofun⟩
  | true =>
    refine Exits.pure _ fun world passed => ⟨result, passed, fun onward limit => ?_⟩
    rw [if_pos limit] at onward
    cases onward

/-! ### One pass and the whole session -/

/-- The log has grown by the events of one pass. -/
def Passed (log events now : List ServerEvent) : Prop :=
  Round config events ∧ now = log ++ events

/-- A pass with a mild response is calm. -/
theorem calm_of_mild {hdr respHdr : Header} {payload response : Bytes}
    (each : ∀ call ∈ calls, call.isCall) (mild : ¬ (responded respHdr response).isTerminal) :
    Calm (received hdr payload :: calls ++ [responded respHdr response]) := by
  intro _ event member
  rcases List.mem_append.mp member with early | late
  · exact not_isTerminal_of_served each event early
  · rw [List.mem_singleton.mp late]
    exact mild

/-- A response after which the loop goes on is terminal only after something unsound. -/
theorem calm_of_excused {hdr : Header} {payload response : Bytes}
    {result : Except DispatchError Nat} (each : ∀ call ∈ calls, call.isCall)
    (excused : Excused (received hdr payload :: calls) result)
    (within : (responseHeader hdr result).transportStatus ≠ statusLimitExceeded) :
    Calm (received hdr payload :: calls ++ [responded (responseHeader hdr result) response]) := by
  match result with
  | .ok n => exact calm_of_mild each Bool.false_ne_true
  | .error .overflow => exact absurd rfl within
  | .error .badEnvelope | .error .handlerFailed =>
    obtain ⟨cause, found, unsound⟩ := excused
    exact fun sound => absurd (sound cause (List.mem_append_left _ found)) unsound

/-- From the log `now`, the program completes the events of a pass that began with `log`; they are
calm if the loop goes on. -/
def Passes (log now : List ServerEvent) (program : ServerProg σ (Unit ⊕ Unit)) : Prop :=
  Always (fun world => world.log = now) program
    (fun result world => ∃ events, (result = .inl () → Calm events) ∧
      Passed config log events world.log)
    (fun world => ∃ events, Passed config log events world.log)

theorem serve_passes (request : hdr.kind = kindRequest)
    (supported : methodSupportedInternal config hdr.code) (log : List ServerEvent) :
    Passes config log (log ++ [received hdr payload]) (serve os config hdr payload) := by
  have cut (calls : List ServerEvent) (each : ∀ call ∈ calls, call.isCall) :
      ∃ events, Passed config log events (log ++ [received hdr payload] ++ calls) :=
    ⟨_, .cut hdr payload calls request each, List.append_assoc ..⟩
  have served := serve_always os config hdr payload
    (fun now => ∃ events, Passed config log events now)
    (Dispatched config hdr payload (log ++ [received hdr payload]))
    (fun result now => ∃ events,
      ((responseHeader hdr result).transportStatus ≠ statusLimitExceeded → Calm events) ∧
        Passed config log events now)
    ((dispatchRequest_always config hdr payload supported (log ++ [received hdr payload])).mono
      (fun _ same => same) (fun _ _ held => held) ?_) ?_ ?_ ?_
  · refine served.mono (fun _ same => same) ?_ fun _ _ held => held
    rintro next world ⟨result, ⟨events, calm, passed⟩, within⟩
    exact ⟨events, fun onward => calm (within onward), passed⟩
  · rintro _ world ⟨calls, each, grown⟩
    exact grown ▸ cut calls each
  · rintro result ⟨now, buf⟩ ⟨calls, -, each, -, grown⟩
    exact (show now = _ from grown) ▸ cut calls each
  · rintro result ⟨now, buf⟩ ⟨calls, excused, each, replied, grown⟩ -
    refine ⟨_, calm_of_excused each excused,
      .answered hdr payload calls _ _ request each replied, ?_⟩
    rw [show now = _ from grown, List.append_assoc, List.append_assoc]
    rfl
  · rintro result now ⟨events, -, passed⟩
    exact ⟨events, passed⟩

theorem answer_passes (request : hdr.kind = kindRequest) (log : List ServerEvent) :
    Passes config log (log ++ [received hdr payload]) (answer os config hdr payload) := by
  refine Exits.ite (fun supported => serve_passes os config hdr payload request supported log)
    fun other => ?_
  have answered (world : ServerWorld σ) (grown : world.log = log ++ [received hdr payload] ++
      [responded (unsupportedHeader hdr) []]) : Passed config log
        (received hdr payload :: [] ++ [responded (unsupportedHeader hdr) []]) world.log :=
    ⟨.answered hdr payload [] _ [] request nofun (.unsupported other), by
      rw [grown, List.append_assoc]⟩
  have calm : Calm (received hdr payload :: [] ++ [responded (unsupportedHeader hdr) []]) :=
    calm_of_mild nofun Bool.false_ne_true
  refine Exits.via _ ((respond_always os _ [] _).mono (fun _ same => same)
    (fun _ world grown => answered world grown) fun _ world grown => ⟨_, answered world grown⟩)
    fun sent => ?_
  cases sent with
  | false => exact Exits.pure _ fun world passed => ⟨_, nofun, passed⟩
  | true =>
    exact Exits.pure _ fun world passed => ⟨_, fun _ => calm, passed⟩

theorem handleMessage_passes : Passes config log log (handleMessage os config hdr payload) := by
  refine Exits.via (fun _ world => world.log = log ++ [received hdr payload])
    (Exits.modify _ fun world same => congrArg (· ++ [received hdr payload]) same) fun _ => ?_
  refine Exits.ite (fun other => ?_) fun request => ?_
  · exact Exits.pure _ fun world grown => ⟨_, nofun, .refused hdr payload other, grown⟩
  · have request := not_not.mp request
    refine Exits.via _ (Always.of_keeps (aside_log.noteRequest os config payload)
      (· = log ++ [received hdr payload]) fun world grown => ?_) fun _ => ?_
    · exact ⟨_, .cut hdr payload [] request nofun, grown⟩
    · exact answer_passes os config hdr payload request log

/-- What one pass of the loop does to the log. -/
theorem sessionPass_passes : Passes config log log (sessionPass os config) := by
  have idle (world : ServerWorld σ) (same : world.log = log) : Passed config log [] world.log :=
    ⟨.idle, by rw [same, List.append_nil]⟩
  refine Exits.via _ (Always.of_keeps (aside_log.outside _) (· = log) fun world same =>
    ⟨_, idle world same⟩) fun running => ?_
  cases running with
  | false => exact Exits.pure _ fun world same => ⟨_, nofun, idle world same⟩
  | true =>
    refine Exits.via _ (Always.of_keeps (aside_log.receiveRequest os) (· = log) fun world same =>
      ⟨_, idle world same⟩) fun intake => ?_
    cases intake with
    | leave => exact Exits.pure _ fun world same => ⟨_, nofun, idle world same⟩
    | again => exact Exits.pure _ fun world same => ⟨_, fun _ => Calm.nil, idle world same⟩
    | message hdr payload => exact handleMessage_passes os config hdr payload log

/-- The log is steady before every pass, and as it should be however the session ends. -/
theorem handleSessionThreaded_always (fuel : Nat) :
    Always (fun world => world.log = []) (handleSessionThreaded os config fuel)
      (fun _ world => Conducted config world.log) fun world => Conducted config world.log := by
  refine Exits.via (fun _ world => Steady config world.log) (Exits.modify _ fun world empty => ?_)
    fun _ => ?_
  · show Steady config world.log
    rw [empty]
    exact ⟨⟨Round.idle.inTurn, fun _ => List.Pairwise.nil⟩, Calm.nil⟩
  refine Exits.via (fun _ world => Conducted config world.log)
    (Exits.loop_or_fuel (fun _ (world : ServerWorld σ) => Steady config world.log)
      (fun _ world steady => ?_) (fun _ world steady => steady.toConducted) fuel ()) fun _ => ?_
  · have ends := sessionPass_passes os config world.log world rfl
    match ran : (sessionPass os config).run world with
    | (.ok (.inl ()), after) =>
      rw [ran] at ends
      obtain ⟨events, calm, round, grown⟩ := ends
      show Steady config after.log
      rw [grown]
      exact ⟨steady.append round, steady.calm.append (calm rfl)⟩
    | (.ok (.inr ()), after) =>
      rw [ran] at ends
      obtain ⟨events, -, round, grown⟩ := ends
      show Conducted config after.log
      exact grown ▸ steady.append round
    | (.error _, after) =>
      rw [ran] at ends
      obtain ⟨events, round, grown⟩ := ends
      show Conducted config after.log
      exact grown ▸ steady.append round
  · refine Always.of_keeps ?_ (Conducted config) fun _ held => held
    exact Keeps.bind Keeps.get fun _ => aside_log.outside _

/-- In every session, if everything before each request is sound, then nothing but silence follows
a terminal response. -/
theorem overAtTerminal_of_soundBefore (os : ServerOs σ) (config : SessionConfig σ) (fuel : Nat)
    (session : Session) (shm : Bool) (state : σ) (sound : SoundBefore
      ((handleSessionThreaded os config fuel).run (accepted session shm state)).2.log) :
    OverAtTerminal
      ((handleSessionThreaded os config fuel).run (accepted session shm state)).2.log :=
  ((handleSessionThreaded_always os config fuel).of_run (accepted session shm state)
    rfl).ended sound

/-- A region as two queues of messages: those the client left, and those the server sent. -/
def regionOs : ServerOs (List Bytes × List Bytes) where
  sendmsg packet queues := ((packet.length, 0), queues)
  recv _ queues := (.failed 11, queues)
  poll _ queues := (.ready, queues)
  now queues := (0, queues)
  load queues := (false, queues)
  loadRunning queues := (true, queues)
  pollEvents _ _ queues := ((0, 0, 0), queues)
  shmReceive _ _ queues :=
    match queues with
    | ([], sent) => (.error .other, [], sent)
    | (message :: rest, sent) => (.ok message, rest, sent)
  shmSend message queues := (.ok (), queues.1, queues.2 ++ [message])
  raiseCapacity _ _ queues := queues
  shmDestroy queues := queues
  dropSession queues := queues

/-- A session with a region. -/
def regionSession : Session :=
  { UdsSession.fresh .server 16 64 with selectedProfile := 2, sessionId := 1 }

/-- A handler that answers one request with nothing and fails on every other. -/
def pickyConfig (σ : Type) : SessionConfig σ where
  expectedMethodCode := 1
  handler := some fun request => if request = [1] then pure 0 else Prog.fail .handlerFailed
  requestPayloadGrowthCeiling := 64
  responsePayloadGrowthCeiling := 64

/-- A request of one byte. -/
def ask (messageId : UInt64) (byte : UInt8) : Bytes :=
  Uds.encodeHeader (Uds.fillEnvelope
    { kind := kindRequest, code := 1, itemCount := 1, messageId := messageId } [byte]) ++ [byte]

/-- The session after the client left these messages. -/
def regionRun (messages : List Bytes) : ServerWorld (List Bytes × List Bytes) :=
  ((handleSessionThreaded regionOs (pickyConfig _) 4).run
    (accepted regionSession true (messages, []))).2

/-- The handler fails on the last of two requests. -/
theorem overAtTerminal_last :
    (∃ event ∈ (regionRun [ask 1 1, ask 2 2]).log, event.isTerminal) ∧
      OverAtTerminal (regionRun [ask 1 1, ask 2 2]).log := by
  refine ⟨by decide +kernel, ?_⟩
  have sound : SoundBefore (regionRun [ask 1 1, ask 2 2]).log := by decide +kernel
  unfold regionRun at sound ⊢
  exact overAtTerminal_of_soundBefore _ _ _ _ _ _ sound

/-- The handler fails on the first of two requests, and the second one is answered too. -/
theorem not_overAtTerminal_first :
    (regionRun [ask 1 2, ask 2 1]).os.2.length = 2 ∧
      ¬ OverAtTerminal (regionRun [ask 1 2, ask 2 1]).log := by
  decide +kernel

end Server

end NetIpc
