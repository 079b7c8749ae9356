/-
This file proves that the managed server answers a batch item by item: an OK response
to a batch carries, for every index, what the handler produced for that item.

`Invocation` is one call of the handler with what it left in its buffer. The handler
is arbitrary and may keep state, so what it produces is read off the sequence of its
own runs (`Invokes`), not off the loop of the session. The loop goes on only after an
item that was produced and could be added (`Delivered`); its invariant is the one of
the builder, which holds exactly what was produced so far.
-/

import NetIpc.SessionEnd

namespace NetIpc.Server

open BatchBuilder ServerEvent

variable {σ α : Type}

/-! ### Calls of the handler -/

/-- The bytes a call produced, if it returned a length its buffer has. -/
def Invocation.produced (invocation : Invocation) : Option Bytes :=
  match invocation.result with
  | .ok n => if n ≤ invocation.size then some (invocation.buffer.take n) else none
  | .error _ => none

theorem Invocation.Settles.produced {invocation : Invocation} {result : Except DispatchError Nat}
    (settles : invocation.Settles result) :
    invocation.produced = result.toOption.map (invocation.buffer.take ·) := by
  rw [Invocation.produced]
  cases settles with
  | answered returned fits =>
    rw [returned]
    exact if_pos fits
  | overlong returned past =>
    rw [returned]
    exact if_neg (Nat.not_le_of_lt past)
  | refused returned =>
    rw [returned]
    rfl

/-- The calls are for the items of a batch from `start` on, one for each. -/
def Asks (payload : Bytes) (count : UInt32) (start : Nat) (invocations : List Invocation) : Prop :=
  ∀ index invocation, invocations[index]? = some invocation →
    ∃ length, batchItemGet payload count (UInt32.ofNat (start + index)) =
      .ok (invocation.request, length)

/-- Every call produced an item for which there was room after the items before it. -/
def Delivered (size maxItems : Nat) : List Bytes → List Invocation → Prop
  | _, [] => True
  | before, invocation :: rest =>
    ∃ item, invocation.produced = some item ∧ Fits size maxItems before item ∧
      Delivered size maxItems (before ++ [item]) rest

/-- What the calls produced. -/
def outputs (invocations : List Invocation) : List Bytes :=
  invocations.filterMap Invocation.produced

theorem Delivered.length_outputs {size maxItems : Nat} {before : List Bytes}
    {invocations : List Invocation} (delivered : Delivered size maxItems before invocations) :
    (outputs invocations).length = invocations.length := by
  induction invocations generalizing before with
  | nil => rfl
  | cons invocation rest ih =>
    obtain ⟨item, produced, -, delivered⟩ := delivered
    rw [outputs, List.filterMap_cons_some produced, List.length_cons, List.length_cons]
    exact congrArg Nat.succ (ih delivered)

/-- The item at an index is the one its call produced. -/
theorem Delivered.produced {size maxItems : Nat} {before : List Bytes}
    {invocations : List Invocation} (delivered : Delivered size maxItems before invocations)
    {index : Nat} {invocation : Invocation} (found : invocations[index]? = some invocation) :
    invocation.produced = (outputs invocations)[index]? := by
  induction invocations generalizing before index with
  | nil => cases found
  | cons first rest ih =>
    obtain ⟨item, produced, -, delivered⟩ := delivered
    rw [outputs, List.filterMap_cons_some produced]
    cases index with
    | zero =>
      obtain rfl := Option.some.inj found
      exact produced
    | succ index => exact ih delivered found

/-! ### The loop over the items -/

section Loop

variable {dispatch : SessionHandler σ} {payload : Bytes} {maxItems : UInt32} {size : Nat}
  {before : List Bytes} {world mid after : ServerWorld σ}

/-- What the session has done for a batch when `before` is already produced. -/
structure Handling (dispatch : SessionHandler σ) (payload : Bytes) (maxItems : UInt32)
    (size : Nat) (before : List Bytes) (world : ServerWorld σ) (invocations : List Invocation)
    (log : List ServerEvent) : Prop where
  invokes : Invokes dispatch (world.itemRespBuf, world.os) invocations
  asks : Asks payload maxItems before.length invocations
  smooth : Delivered size maxItems.toNat before invocations.dropLast
  log : log = world.log ++ invocations.map Invocation.event

theorem Handling.none : Handling dispatch payload maxItems size before world [] world.log where
  invokes := trivial
  asks := nofun
  smooth := trivial
  log := (List.append_nil _).symm

/-- A call after which nothing more is handling. -/
theorem Handling.last {request : Bytes} {length : UInt32} {invocation : Invocation}
    (read : batchItemGet payload maxItems (UInt32.ofNat before.length) = .ok (request, length))
    (step : Step dispatch request .item world invocation after) :
    Handling dispatch payload maxItems size before world [invocation] after.log where
  invokes := step.invokes
  asks index other found := by
    cases index with
    | zero =>
      obtain rfl := Option.some.inj found
      exact ⟨length, step.asked ▸ read⟩
    | succ index => cases found
  smooth := trivial
  log := step.log

/-- A call whose item was added, and the calls after it. -/
theorem Handling.cons {request item : Bytes} {length : UInt32} {invocation : Invocation}
    {rest : List Invocation} {log : List ServerEvent}
    (read : batchItemGet payload maxItems (UInt32.ofNat before.length) = .ok (request, length))
    (step : Step dispatch request .item world invocation mid)
    (produced : invocation.produced = some item) (fits : Fits size maxItems.toNat before item)
    (handling : Handling dispatch payload maxItems size (before ++ [item]) mid rest log) :
    Handling dispatch payload maxItems size before world (invocation :: rest) log where
  invokes := ⟨step.size, (mid.itemRespBuf, mid.os), step.asked ▸ step.ran, step.left,
    handling.invokes⟩
  asks index other found := by
    cases index with
    | zero =>
      obtain rfl := Option.some.inj found
      exact ⟨length, step.asked ▸ read⟩
    | succ index =>
      have later := handling.asks index other found
      rw [List.length_append, List.length_singleton, Nat.add_assoc, Nat.add_comm 1] at later
      exact later
  smooth := by
    have smooth := handling.smooth
    cases rest with
    | nil => trivial
    | cons next rest => exact ⟨item, produced, fits, smooth⟩
  log := by
    rw [handling.log, step.log, List.map_cons, List.append_assoc, List.singleton_append]

variable {config : SessionConfig σ}

/-- What the loop over the items returns: the items are all delivered and in the builder, or the
batch has failed; either way the buffer is as long as before. -/
structure Collected (initial : Bytes) (maxItems : UInt32) (before : List Bytes)
    (invocations : List Invocation) (result : Except DispatchError Unit × BatchBuilder)
    (count : Nat) : Prop where
  size : result.2.buf.length = initial.length
  delivered : result.1 = .ok () → Delivered initial.length maxItems.toNat before invocations
  complete : result.1 = .ok () → invocations.length = count
  holds : result.1 = .ok () → Holds initial maxItems (before ++ outputs invocations) result.2

/-- A program that starts in `mid` handles the items that are left, and what was done in `world`
before it belongs to the same batch. -/
abbrev Collects (dispatch : SessionHandler σ) (payload initial : Bytes) (maxItems : UInt32)
    (before : List Bytes) (world mid : ServerWorld σ) (count : Nat)
    (program : ServerProg σ (Except DispatchError Unit × BatchBuilder)) : Prop :=
  Always (· = mid) program
    (fun result after => ∃ invocations,
      Handling dispatch payload maxItems initial.length before world invocations after.log ∧
        Collected initial maxItems before invocations result count)
    fun after => ∃ invocations,
      Handling dispatch payload maxItems initial.length before world invocations after.log

theorem Collects.failed {initial : Bytes} {builder : BatchBuilder} {invocations : List Invocation}
    (holds : Holds initial maxItems before builder) (handling :
      Handling dispatch payload maxItems initial.length before world invocations mid.log)
    (count : Nat) (error : DispatchError) :
    Collects dispatch payload initial maxItems before world mid count
      (pure (.error error, builder)) := by
  refine Exits.pure _ ?_
  rintro after rfl
  exact ⟨invocations, handling, holds.size, nofun, nofun, nofun⟩

/-- A call whose item was added, and a program that handles the items after it. -/
theorem Collects.cons {request item initial : Bytes} {length : UInt32} {invocation : Invocation}
    {count : Nat} {program : ServerProg σ (Except DispatchError Unit × BatchBuilder)}
    (read : batchItemGet payload maxItems (UInt32.ofNat before.length) = .ok (request, length))
    (step : Step dispatch request .item world invocation mid)
    (produced : invocation.produced = some item)
    (fits : Fits initial.length maxItems.toNat before item)
    (later : Collects dispatch payload initial maxItems (before ++ [item]) mid mid count program) :
    Collects dispatch payload initial maxItems before world mid (count + 1) program := by
  refine later.mono (fun _ same => same) ?_ ?_
  · rintro result after ⟨rest, handling, collected⟩
    refine ⟨invocation :: rest, handling.cons read step produced fits, collected.size,
      fun done => ⟨item, produced, fits, collected.delivered done⟩,
      fun done => congrArg Nat.succ (collected.complete done), fun done => ?_⟩
    have held := collected.holds done
    rw [List.append_assoc, List.singleton_append] at held
    rwa [outputs, List.filterMap_cons_some produced]
  · rintro _ after ⟨rest, handling⟩
    exact ⟨invocation :: rest, handling.cons read step produced fits⟩

variable (found : config.handler = some dispatch) (hdr : Header)
  (supported : hdr.code = config.expectedMethodCode)

include found supported

/-- The loop over the items, by induction on how many are left. -/
theorem batchItems_handling {initial : Bytes} (small : initial.length < 2 ^ 32) (count : Nat)
    (i : UInt32) (builder : BatchBuilder) (before : List Bytes)
    (holds : Holds initial hdr.itemCount before builder) (next : i.toNat = before.length)
    (left : i.toNat + count = hdr.itemCount.toNat) (world : ServerWorld σ) :
    Collects dispatch payload initial hdr.itemCount before world world count
      (batchItems config hdr payload count i builder) := by
  induction count generalizing i builder before world with
  | zero =>
    refine Exits.pure _ ?_
    rintro after rfl
    refine ⟨[], Handling.none, holds.size, fun _ => trivial, fun _ => rfl, fun _ => ?_⟩
    rwa [outputs, List.filterMap_nil, List.append_nil]
  | succ count ih =>
    refine Exits.via _ (attempted_always _ ?_) fun item => Exits.of_and fun read => ?_
    · rintro after rfl
      exact ⟨[], Handling.none⟩
    have here : i = UInt32.ofNat before.length := by rw [← next, UInt32.ofNat_toNat]
    rw [here] at read
    match item with
    | .error error => exact Collects.failed holds Handling.none _ _
    | .ok (itemData, itemLen) =>
      rw [supported]
      refine Exits.via _ ((dispatchSingleInternal_step found itemData .item).mono
        (fun _ same => same) (fun _ _ held => held) ?_) fun result =>
        Exits.of_exists fun invocation => ?_
      · rintro _ after ⟨invocation, step⟩
        exact ⟨[invocation], Handling.last read step⟩
      rintro mid ⟨step, settles⟩
      match result with
      | .error error => exact Collects.failed holds (Handling.last read step) _ _ mid rfl
      | .ok n =>
        rw [Prog.run_bind_ok (Prog.run_get mid)]
        refine Exits.via (fun item after => item = mid.itemRespBuf.take n ∧ after = mid)
          (Exits.ofRes _ ?_ ?_) (fun item => Exits.of_and fun same => ?_) mid rfl
        · rintro after item rfl read
          obtain ⟨-, -, same⟩ := readSlice_eq_ok read
          exact ⟨same, rfl⟩
        · rintro after _ rfl -
          exact ⟨[invocation], Handling.last read step⟩
        have produced : invocation.produced = some item := by
          rw [settles.produced, same, step.left]
          rfl
        by_cases fits : Fits initial.length hdr.itemCount.toNat before item
        · obtain ⟨grown, added, holds⟩ := add_fits initial hdr.itemCount small before builder holds
            item fits
          have bound := hdr.itemCount.toNat_lt
          have later : (i + 1).toNat = i.toNat + 1 := by
            rw [UInt32.toNat_add, UInt32.toNat_one, Nat.mod_eq_of_lt (by omega)]
          rw [added]
          refine Collects.cons read step produced fits
            (ih (i + 1) grown (before ++ [item]) holds ?_ (by omega) mid)
          rw [later, next, List.length_append, List.length_singleton]
        · rw [add_refused initial hdr.itemCount before builder holds item fits]
          exact Collects.failed holds (Handling.last read step) _ _

/-- What the batch branch has done when it returns a length: every item is produced, and the
response buffer starts with all of them. -/
structure Packed (maxItems : UInt32) (respBuf : Bytes) (invocations : List Invocation) (n : Nat)
    (size : Nat) : Prop where
  delivered : Delivered size maxItems.toNat [] invocations
  complete : invocations.length = maxItems.toNat
  total : n = 8 * (outputs invocations).length + align8 (endFrom 0 (outputs invocations))
  image : ∃ rest, respBuf = dirImage (entriesFrom 0 (outputs invocations)) ++
    packFrom 0 (outputs invocations) ++ rest

theorem dispatchBatch_handling (world : ServerWorld σ) (small : world.respBuf.length < 2 ^ 32) :
    Always (· = world) (dispatchBatch config hdr payload)
      (fun result after => after.respBuf.length = world.respBuf.length ∧ ∃ invocations,
        Handling dispatch payload hdr.itemCount world.respBuf.length [] world invocations
          after.log ∧ ∀ n, result = .ok n →
            Packed hdr.itemCount after.respBuf invocations n world.respBuf.length)
      (fun after => ∃ invocations,
        Handling dispatch payload hdr.itemCount world.respBuf.length [] world invocations
          after.log) := by
  rintro world rfl
  unfold dispatchBatch
  rw [Prog.run_bind_ok (Prog.run_get world)]
  refine Exits.via _ ((batchItems_handling found hdr supported small _ 0 _ [] (new_holds _ _) rfl
    (Nat.zero_add _) world).mono (fun _ same => same) (fun _ _ held => held) fun _ _ held => held)
    (fun result => Exits.of_exists fun invocations => ?_) world rfl
  rintro mid ⟨handling, collected⟩
  match result with
  | (.error error, builder) =>
    exact ⟨collected.size, invocations, handling, nofun⟩
  | (.ok (), builder) =>
    obtain ⟨final, rest, finished, image, size, -⟩ := finish_run world.respBuf hdr.itemCount
      (outputs invocations) builder (collected.holds rfl)
    dsimp only
    rw [finished]
    refine ⟨size, invocations, handling, ?_⟩
    rintro n ⟨⟩
    exact ⟨collected.delivered rfl, collected.complete rfl, rfl, rest, image⟩

end Loop

/-! ### The response -/

section Response

variable {dispatch : SessionHandler σ} {hdr : Header} {payload : Bytes}

variable {invocations : List Invocation}

/-- Every item of an OK response is the one its call produced. -/
theorem Packed.batchItemGet {maxItems : UInt32} {respBuf : Bytes} {n size : Nat}
    (packed : Packed maxItems respBuf invocations n size) (small : respBuf.length < 2 ^ 32)
    (inside : n ≤ respBuf.length) {index : Nat} {invocation : Invocation}
    (found : invocations[index]? = some invocation) :
    ∃ item, invocation.produced = some item ∧
      NetIpc.batchItemGet (respBuf.take n) maxItems (UInt32.ofNat index) =
        .ok (item, UInt32.ofNat item.length) := by
  obtain ⟨rest, image⟩ := packed.image
  have length := packed.delivered.length_outputs
  have counted : maxItems.toNat = (outputs invocations).length := by
    rw [length, packed.complete]
  have produced := packed.delivered.produced found
  obtain ⟨low, -⟩ := List.getElem?_eq_some_iff.mp found
  have there : index < (outputs invocations).length := length ▸ low
  have at' := List.getElem?_eq_getElem there
  refine ⟨(outputs invocations)[index], produced.trans at', ?_⟩
  have up := le_align8 (endFrom 0 (outputs invocations))
  have total := packed.total
  rw [image, total, take_packed]
  exact batchItemGet_packed _ maxItems counted _ index _ at' (by omega)

/-- What the session says about the batch in its response. -/
structure Answers (hdr : Header) (size : Nat) (invocations : List Invocation) (respHdr : Header)
    (response : Bytes) : Prop where
  messageId : respHdr.messageId = hdr.messageId
  ok : respHdr.transportStatus = statusOk →
    respHdr.flags = flagBatch ∧ respHdr.itemCount = hdr.itemCount ∧
      Delivered size hdr.itemCount.toNat [] invocations ∧
      invocations.length = hdr.itemCount.toNat ∧
      ∀ index invocation, invocations[index]? = some invocation →
        ∃ item, invocation.produced = some item ∧
          NetIpc.batchItemGet response hdr.itemCount (UInt32.ofNat index) =
            .ok (item, UInt32.ofNat item.length)
  error : respHdr.transportStatus ≠ statusOk →
    respHdr.itemCount = 1 ∧ respHdr.flags = 0 ∧ response = []

/-- What a session does for a batch once it is received: the calls of the handler, from a buffer and
a state, for the items in order, each after one that was delivered; and then at most one response,
which answers for these calls. -/
def Exchanged (dispatch : SessionHandler σ) (hdr : Header) (payload : Bytes) (size : Nat)
    (start : Bytes × σ) (log after : List ServerEvent) : Prop :=
  ∃ invocations tail, after = log ++ invocations.map Invocation.event ++ tail ∧
    Invokes dispatch start invocations ∧ Asks payload hdr.itemCount 0 invocations ∧
    Delivered size hdr.itemCount.toNat [] invocations.dropLast ∧
    (tail = [] ∨ ∃ respHdr response, tail = [.responded respHdr response] ∧
      Answers hdr size invocations respHdr response)

/-- A program that does this for a batch, however it ends. -/
abbrev Exchanges (dispatch : SessionHandler σ) (hdr : Header) (payload : Bytes)
    (world : ServerWorld σ) (program : ServerProg σ α) : Prop :=
  Always (· = world) program
    (fun _ after => Exchanged dispatch hdr payload world.respBuf.length
      (world.itemRespBuf, world.os) world.log after.log)
    fun after => Exchanged dispatch hdr payload world.respBuf.length
      (world.itemRespBuf, world.os) world.log after.log

theorem Handling.exchanged {size : Nat} {world : ServerWorld σ} {log : List ServerEvent}
    (handling : Handling dispatch payload hdr.itemCount size [] world invocations log) :
    Exchanged dispatch hdr payload size (world.itemRespBuf, world.os) world.log log :=
  ⟨invocations, [], by rw [handling.log, List.append_nil], handling.invokes, handling.asks,
    handling.smooth, .inl rfl⟩

theorem answers_of_packed {result : Except DispatchError Nat} {respBuf : Bytes}
    {size : Nat} (batch : isBatch hdr = true) (small : respBuf.length < 2 ^ 32)
    (packed : ∀ n, result = .ok n → Packed hdr.itemCount respBuf invocations n size)
    (inside : responseLen result ≤ respBuf.length) :
    Answers hdr size invocations (responseHeader hdr result)
      (respBuf.take (responseLen result)) := by
  match result with
  | .ok n =>
    exact ⟨rfl, fun _ => ⟨if_pos batch, if_pos batch, (packed n rfl).delivered,
      (packed n rfl).complete, fun index invocation found =>
        (packed n rfl).batchItemGet small inside found⟩, fun other => absurd rfl other⟩
  | .error error =>
    refine ⟨rfl, fun ok => ?_, fun _ => ⟨rfl, rfl, rfl⟩⟩
    cases error <;> cases ok

variable {config : SessionConfig σ} (os : ServerOs σ) {invocations : List Invocation}

theorem serve_exchanged (found : config.handler = some dispatch)
    (supported : hdr.code = config.expectedMethodCode) (batch : isBatch hdr = true)
    (world : ServerWorld σ) (small : world.respBuf.length < 2 ^ 32) :
    Exchanges dispatch hdr payload world (serve os config hdr payload) := by
  refine (serve_always os config hdr payload
    (Exchanged dispatch hdr payload world.respBuf.length (world.itemRespBuf, world.os) world.log)
    (fun result left => left.2.length = world.respBuf.length ∧ ∃ invocations,
      Handling dispatch payload hdr.itemCount world.respBuf.length [] world invocations left.1 ∧
        ∀ n, result = .ok n → Packed hdr.itemCount left.2 invocations n world.respBuf.length)
    (fun _ => Exchanged dispatch hdr payload world.respBuf.length (world.itemRespBuf, world.os)
      world.log) (Exits.ite (fun _ => (dispatchBatch_handling found hdr supported world small).mono
        (fun _ same => same) (fun _ _ held => held) ?_) fun single => absurd batch single)
    ?_ ?_ fun _ _ exchanged => exchanged).mono (fun _ same => same) ?_ fun _ _ held => held
  · rintro _ after ⟨invocations, handling⟩
    exact handling.exchanged
  · rintro result left ⟨-, invocations, handling, -⟩
    exact handling.exchanged
  · rintro result left ⟨size, invocations, handling, packed⟩ inside
    have answers := answers_of_packed batch (size ▸ small) packed inside
    exact ⟨invocations, _, by rw [handling.log], handling.invokes, handling.asks, handling.smooth,
      .inr ⟨_, _, rfl, answers⟩⟩
  · rintro next after ⟨-, exchanged, -⟩
    exact exchanged

theorem answer_exchanged (found : config.handler = some dispatch) (batch : isBatch hdr = true)
    (world : ServerWorld σ) (small : world.respBuf.length < 2 ^ 32) :
    Exchanges dispatch hdr payload world (answer os config hdr payload) := by
  refine Exits.ite (fun supported => ?_) fun _ => ?_
  · exact serve_exchanged os found (of_decide_eq_true supported).2 batch world small
  have refused : Answers hdr world.respBuf.length [] (unsupportedHeader hdr) [] :=
    ⟨rfl, nofun, fun _ => ⟨rfl, rfl, rfl⟩⟩
  have finished {after : ServerWorld σ} (grown : after.log = world.log ++
      [.responded (unsupportedHeader hdr) []]) :
      Exchanged dispatch hdr payload world.respBuf.length (world.itemRespBuf, world.os) world.log
        after.log :=
    ⟨[], _, by rw [grown, List.map_nil, List.append_nil], trivial, nofun, trivial,
      .inr ⟨_, _, rfl, refused⟩⟩
  refine Exits.via _ ((respond_always os _ [] world.log).mono (fun _ same => same ▸ rfl)
    (fun _ _ grown => finished grown) fun _ _ grown => finished grown) fun sent => ?_
  exact Exits.ite (fun _ => Exits.pure _ fun _ held => held) fun _ =>
    Exits.pure _ fun _ held => held

/-- The environment once the length of a request is noted. -/
def noted (os : ServerOs σ) (config : SessionConfig σ) (payload : Bytes) (state : σ) : σ :=
  if payload.length ≤ Uds.u32Max then
    os.raiseCapacity .request
      (min (nextPowerOf2U32 (UInt32.ofNat payload.length)) config.requestPayloadGrowthCeiling) state
  else state

theorem run_noteRequest (config : SessionConfig σ) (payload : Bytes) (world : ServerWorld σ) :
    (noteRequest os config payload).run world =
      (.ok (), { world with os := noted os config payload world.os }) := by
  unfold noteRequest noted
  split <;> rfl

theorem handleMessage_exchanged (found : config.handler = some dispatch)
    (request : hdr.kind = kindRequest) (batch : isBatch hdr = true) (world : ServerWorld σ)
    (small : world.respBuf.length < 2 ^ 32) : Exchanged dispatch hdr payload world.respBuf.length
      (world.itemRespBuf, noted os config payload world.os)
      (world.log ++ [.received hdr payload])
      ((handleMessage os config hdr payload).run world).2.log := by
  have recorded : (record (.received hdr payload) : ServerProg σ Unit).run world =
    (.ok (), { world with log := world.log ++ [.received hdr payload] }) := rfl
  rw [handleMessage, Prog.run_bind_ok recorded, if_neg (not_not_intro request),
    Prog.run_bind_ok (run_noteRequest _ _ _ _)]
  exact (answer_exchanged os found batch { world with
    os := noted os config payload world.os
    log := world.log ++ [.received hdr payload] } small).of_run _ rfl

end Response

/-! ### The session -/

/-- A handler that works on the buffer it is given: a slice cannot be made longer or shorter. -/
def InPlace (dispatch : SessionHandler σ) : Prop :=
  ∀ request, Keeps (fun state => state.1.length) (dispatch request)

/-- The states of a session before a pass of its loop. -/
inductive Reached (os : ServerOs σ) (config : SessionConfig σ) (start : ServerWorld σ) :
    ServerWorld σ → Prop
  | start : Reached os config start (allocate.run start).2
  | pass {world after : ServerWorld σ} (reached : Reached os config start world)
      (passed : (sessionPass os config).run world = (.ok (.inl ()), after)) :
      Reached os config start after

/-- A program that leaves the response buffer as long as it was, when it returns. -/
def Sizes (program : ServerProg σ α) : Prop :=
  ∀ size : Nat, size < 2 ^ 32 →
    Always (fun world => world.respBuf.length = size) program
      (fun _ world => world.respBuf.length = size) fun _ => True

theorem sizes_of_keeps {program : ServerProg σ α}
    (keeps : Keeps (fun world : ServerWorld σ => world.respBuf.length) program) : Sizes program :=
  fun size _ => Always.of_keeps keeps (· = size) fun _ _ => trivial

theorem Sizes.bind {β : Type} {program : ServerProg σ α} {next : α → ServerProg σ β}
    (first : Sizes program) (rest : ∀ value, Sizes (next value)) : Sizes (program >>= next) :=
  fun size small => Exits.via _ (first size small) fun value => rest value size small

theorem Sizes.ite {condition : Prop} [Decidable condition] {program other : ServerProg σ α}
    (taken : condition → Sizes program) (skipped : ¬ condition → Sizes other) :
    Sizes (if condition then program else other) :=
  fun size small => Exits.ite (fun held => taken held size small) fun held =>
    skipped held size small

/-- The length of the response buffer is not in the session or the environment. -/
theorem aside_size : Aside (fun world : ServerWorld σ => world.respBuf.length) :=
  fun _ _ _ _ => rfl

variable {config : SessionConfig σ} {dispatch : SessionHandler σ}

theorem sizes_respond (os : ServerOs σ) (hdr : Header) (payload : Bytes) :
    Sizes (respond os hdr payload) := by
  refine Sizes.bind (sizes_of_keeps fun _ => rfl) fun _ => ?_
  refine sizes_of_keeps (Keeps.bind Keeps.get fun world => Keeps.ite ?_ ?_)
  · refine Keeps.bind (aside_size.outside _) fun sent => ?_
    cases sent with
    | ok | error => exact Keeps.pure _
  · refine Keeps.bind (aside_size.onSession _) fun sent => ?_
    refine Keeps.bind (attempted_keeps _) fun outcome => ?_
    cases outcome with
    | ok | error => exact Keeps.pure _

theorem sizes_pure (value : α) : Sizes (pure value : ServerProg σ α) :=
  sizes_of_keeps (Keeps.pure value)

theorem sizes_record (event : ServerEvent) : Sizes (record event : ServerProg σ Unit) :=
  sizes_of_keeps fun _ => rfl

section InPlace

variable (found : config.handler = some dispatch) (inPlace : InPlace dispatch)

include found inPlace

theorem sizes_dispatchSingleInternal (methodCode : UInt16) (request : Bytes) :
    Sizes (dispatchSingleInternal config methodCode request .resp) := by
  refine Sizes.ite (fun _ => sizes_of_keeps (Keeps.pure _)) fun _ => ?_
  rw [found]
  refine sizes_of_keeps (Keeps.bind Keeps.get fun world => Keeps.bind ?_ fun result => ?_)
  · intro world
    have kept : Keeps (fun world : ServerWorld σ => world.respBuf.length)
      (attempted ((dispatch request).run (world.respBuf, world.os)).1) := attempted_keeps _
    rw [run_invoke]
    exact (kept _).trans (inPlace request (world.respBuf, world.os))
  · cases result with
    | ok n => exact Keeps.pure _
    | error error => exact Keeps.pure _

theorem sizes_dispatchRequest (hdr : Header) (payload : Bytes)
    (supported : hdr.code = config.expectedMethodCode) :
    Sizes (dispatchRequest config hdr payload) := by
  refine Sizes.ite (fun _ size small => ?_) fun _ =>
    sizes_dispatchSingleInternal found inPlace hdr.code payload
  rintro world rfl
  exact ((dispatchBatch_handling found hdr supported world small).mono (fun _ same => same)
    (fun _ _ held => held.1) fun _ _ _ => trivial) world rfl

theorem sizes_answer (os : ServerOs σ) (hdr : Header) (payload : Bytes) :
    Sizes (answer os config hdr payload) := by
  refine Sizes.ite (fun supported => ?_) fun _ => ?_
  · refine (sizes_dispatchRequest found inPlace hdr payload (of_decide_eq_true supported).2).bind
      fun result => ?_
    refine (sizes_of_keeps (aside_size.noteOutcome os config result)).bind fun _ => ?_
    refine (sizes_of_keeps Keeps.get).bind fun world => ?_
    refine (sizes_of_keeps (Keeps.ofRes _)).bind fun response => ?_
    exact (sizes_respond os _ _).bind fun sent =>
      Sizes.ite (fun _ => sizes_pure _) fun _ => sizes_pure _
  · exact (sizes_respond os _ _).bind fun sent =>
      Sizes.ite (fun _ => sizes_pure _) fun _ => sizes_pure _

theorem sizes_sessionPass (os : ServerOs σ) : Sizes (sessionPass os config) := by
  refine (sizes_of_keeps (aside_size.outside _)).bind fun running =>
    Sizes.ite (fun _ => ?_) fun _ => sizes_pure _
  refine (sizes_of_keeps (aside_size.receiveRequest os)).bind fun intake => ?_
  cases intake with
  | leave => exact sizes_pure _
  | again => exact sizes_pure _
  | message hdr payload =>
    show Sizes (handleMessage os config hdr payload)
    refine (sizes_record _).bind fun _ => Sizes.ite (fun _ => sizes_pure _) fun _ => ?_
    exact (sizes_of_keeps (aside_size.noteRequest os config payload)).bind fun _ =>
      sizes_answer found inPlace os hdr payload

/-- The response buffer keeps the length the limits ask for. -/
theorem Reached.size {os : ServerOs σ} {start world : ServerWorld σ}
    (reached : Reached os config start world) :
    world.respBuf.length = start.session.maxResponsePayloadBytes.toNat := by
  induction reached with
  | start => exact length_zeros _
  | pass reached passed ih =>
    have ends := sizes_sessionPass found inPlace os _ start.session.maxResponsePayloadBytes.toNat_lt
      _ ih
    rw [passed] at ends
    exact ends

end InPlace

/-- A batch is answered item by item. In every state of a session, whatever its handler does: when
a batch request is received, the handler is called on its items in order, each after one that was
delivered, and a response that is sent answers for these calls. -/
theorem batch_answered_pointwise {dispatch : SessionHandler σ} (os : ServerOs σ)
    (config : SessionConfig σ) (found : config.handler = some dispatch)
    (inPlace : InPlace dispatch) (start world taken : ServerWorld σ)
    (reached : Reached os config start world) (hdr : Header) (payload : Bytes)
    (received : (receiveRequest os).run world = (.ok (.message hdr payload), taken))
    (request : hdr.kind = kindRequest) (batch : isBatch hdr = true) :
    Exchanged dispatch hdr payload taken.respBuf.length
      (taken.itemRespBuf, noted os config payload taken.os)
      (taken.log ++ [.received hdr payload])
      ((handleMessage os config hdr payload).run taken).2.log := by
  have kept : taken.respBuf.length = world.respBuf.length :=
    (aside_size.receiveRequest os).of_run received
  refine handleMessage_exchanged os found request batch taken ?_
  rw [kept, Reached.size found inPlace reached]
  exact start.session.maxResponsePayloadBytes.toNat_lt

/-- A handler that answers every request with the request. -/
def echo : SessionHandler (List Bytes × List Bytes) :=
  DispatchHandler.stateless fun request => do
    write 0 request
    return request.length

theorem echo_inPlace : InPlace echo := fun request state =>
  ((touches_write_any 0 request).bind fun _ => touches_pure request.length).length state.1

def echoConfig : SessionConfig (List Bytes × List Bytes) where
  expectedMethodCode := 1
  handler := some echo
  requestPayloadGrowthCeiling := 64
  responsePayloadGrowthCeiling := 64

/-- A batch of two items of one byte. -/
def pairPayload : Bytes :=
  [0, 0, 0, 0, 1, 0, 0, 0, 8, 0, 0, 0, 1, 0, 0, 0, 7, 0, 0, 0, 0, 0, 0, 0, 9]

def pairHeader : Header := Uds.fillEnvelope
  { kind := kindRequest, code := 1, flags := flagBatch, itemCount := 2, messageId := 5 } pairPayload

/-- A session with room for the batch, which the client has left in its region. -/
def pairWorld : ServerWorld (List Bytes × List Bytes) :=
  (allocate.run (accepted
    { regionSession with maxRequestPayloadBytes := 64, maxResponsePayloadBytes := 64 } true
    ([Uds.encodeHeader pairHeader ++ pairPayload], []))).2

theorem batch_answered_pointwise_pair :
    ((receiveRequest regionOs).run pairWorld).1 = .ok (.message pairHeader pairPayload) ∧
    Exchanged echo pairHeader pairPayload 64 (zeros 64, ([], []))
      ([] ++ [.received pairHeader pairPayload])
      ((handleMessage regionOs echoConfig pairHeader pairPayload).run
        ((receiveRequest regionOs).run pairWorld).2).2.log := by
  have received : (receiveRequest regionOs).run pairWorld =
    (.ok (.message pairHeader pairPayload), _) := Prog.run_of_fst (by decide +kernel)
  exact ⟨by rw [received],
    batch_answered_pointwise regionOs echoConfig rfl echo_inPlace _ pairWorld _
    .start pairHeader pairPayload received rfl rfl⟩

end NetIpc.Server
