/-
This file follows the request limit a client proposes in its HELLO through its life.

A server rejects a HELLO that proposes more than its own maximum, and a client learns
a larger limit from every request that does not fit: the next power of two of the
request's length, up to one mebibyte. A request whose next power of two is above the
server's maximum therefore makes the client propose what the server rejects, for
good. As long as each request either has a next power of two within the maximum, or
fits what the client already proposes, the proposal stays within the maximum. A lookup
sizes its requests by the session it has, so it makes no others.
-/

import NetIpc.ClientHistory

namespace NetIpc.Client

variable {σ α : Type}

/-! ### The proposal -/

/-- The two limits on requests that a HELLO proposes. -/
structure Offer where
  maxRequestPayloadBytes : UInt32
  maxRequestBatchItems : UInt32

/-- What the next HELLO of a client with this configuration proposes. -/
def offer (config : TransportClientConfig) : Offer :=
  let hello := Handshake.clientHello config config.packetSize
  ⟨hello.maxRequestPayloadBytes, hello.maxRequestBatchItems⟩

/-- A server with this maximum does not reject the next HELLO over its limit. -/
def Welcome (maximum : UInt32) (client : RawClient) : Prop :=
  (offer client.transportConfig).maxRequestPayloadBytes ≤ maximum ∧
    ∀ serverConfig clientPkt serverPkt sessionId status,
      Handshake.applyDefault serverConfig.maxRequestPayloadBytes maxPayloadDefault = maximum →
      Handshake.negotiate serverConfig serverPkt sessionId
        (Handshake.clientHello client.transportConfig clientPkt) ≠ .error (status, .limitExceeded)

variable {maximum : UInt32}

theorem welcome_of_le {client : RawClient}
    (modest : (offer client.transportConfig).maxRequestPayloadBytes ≤ maximum) :
    Welcome maximum client := by
  refine ⟨modest, ?_⟩
  rintro serverConfig clientPkt serverPkt sessionId status rfl rejected
  unfold Handshake.negotiate at rejected
  dsimp only at rejected
  split_ifs at rejected with _ _ past
  · cases rejected
  · cases rejected
  · exact absurd modest (UInt32.not_le.mpr past)
  · cases rejected

/-- An environment in which a session has the limits its HELLO proposed, and a region takes every
message that is within the limit of its session (a longer one is never handed to it). -/
structure Honest (os : ClientOs σ) : Prop where
  connect : ∀ config state session, (os.connect config state).1 = .ok session →
    session.role = .client ∧
      session.maxRequestPayloadBytes = (offer config).maxRequestPayloadBytes ∧
      session.maxRequestBatchItems = (offer config).maxRequestBatchItems
  region : ∀ shm message state, (os.shmSend shm message state).1 ≠ .error .msgTooLarge

/-- A request that does not teach the client a limit above the maximum: its next power of two is
within the maximum, or it fits what the client proposes anyway. -/
def Mild (os : ClientOs σ) (maximum : UInt32) (reqLen : Nat) (itemCount : UInt32) (terms : Offer) :
    Prop :=
  RawClient.grownCapacity (UInt32.ofNat reqLen) ≤ maximum ∨
    (Honest os ∧ reqLen ≤ terms.maxRequestPayloadBytes.toNat ∧
      itemCount ≤ terms.maxRequestBatchItems)

/-! ### Connecting -/

/-- Terms a HELLO proposed, if the environment is honest. -/
def Promised (os : ClientOs σ) (terms : Offer) (link : Uds.Terms) : Prop :=
  Honest os → link.role = .client ∧ link.maxRequestPayloadBytes = terms.maxRequestPayloadBytes ∧
    link.maxRequestBatchItems = terms.maxRequestBatchItems

/-- What a client proposes, and the terms of the session it holds. -/
def linkTerms (world : ClientWorld σ) : Offer × Option Uds.Terms :=
  (offer world.client.transportConfig,
    world.client.session.map fun session => Uds.termsOf session.toUdsSession)

/-- A client without a session. -/
def Parted (terms : Offer) (world : ClientWorld σ) : Prop :=
  world.client.session = none ∧ offer world.client.transportConfig = terms

/-- A client with a session that has the limits it proposes. -/
def Joined (os : ClientOs σ) (terms : Offer) (world : ClientWorld σ) : Prop :=
  ∃ link, linkTerms world = (terms, some link) ∧ Promised os terms link

theorem dials_parted (os : ClientOs σ) (terms : Offer) : Dials os (Parted terms)
    (fun session world => Promised os terms (Uds.termsOf session.toUdsSession) ∧ Parted terms world)
    fun state after => (state = .ready → Joined os terms after) ∧
      (state ≠ .ready → Parted terms after) where
  connects world answer _ start connected := by
    cases answer with
    | error error =>
      exact ⟨fun ready => absurd ready (stateOfConnectError_ne_ready error), fun _ => start⟩
    | ok session =>
      refine ⟨fun honest => ?_, start⟩
      rw [← start.2]
      exact honest.connect _ world.os session (congrArg Prod.fst connected)
  clock _ _ start := start
  sleep _ _ _ start := start
  attaches _ _ answer _ _ start _ := by
    cases answer with
    | error => exact start
    | ok => exact ⟨fun _ => ⟨_, Prod.ext start.2.2 rfl, start.1⟩, nofun⟩
  drops _ _ _ start := start.2
  ends _ start := ⟨nofun, fun _ => start⟩
  plain _ _ _ start := ⟨fun _ => ⟨_, Prod.ext start.2.2 rfl, start.1⟩, nofun⟩

theorem reconnect_parted (os : ClientOs σ) (fuel : Nat) (error : NipcError) (terms : Offer) :
    Triple (fun world => offer world.client.transportConfig = terms) (reconnect os fuel error)
      (fun _ => Joined os terms) fun _ => Parted terms := by
  refine Exits.via (fun _ => Parted terms)
    (Exits.modify _ fun world same => ⟨rfl, same⟩) fun _ => ?_
  refine Exits.via (fun _ => Parted terms) (Exits.modify _ fun world start => start) fun _ => ?_
  refine ((dials_parted os terms).tryConnect fuel).bind fun state => ?_
  refine Exits.via (fun _ after => (state = .ready → Joined os terms after) ∧
    (state ≠ .ready → Parted terms after)) (Exits.modify _ fun world start => start) fun _ => ?_
  exact Exits.ite (fun lost world start => start.2 lost) fun made world start =>
    start.1 (not_not.mp made)

/-! ### One attempt -/

theorem blindView_linkTerms : BlindView (linkTerms (σ := σ)) := fun _ _ _ => rfl

theorem onSession_linkTerms {program : UdsProg σ α} (keeps : Keeps Uds.terms program) :
    Keeps linkTerms (onSession program) := by
  intro world
  cases found : world.client.session with
  | none => simp [onSession, Prog.run, found]
  | some session =>
    have same := keeps ⟨session.toUdsSession, world.os, world.trace⟩
    rw [Uds.terms, Uds.terms] at same
    rw [run_onSession found]
    simp [withEndpoint, linkTerms, found, same]

theorem transportReceive_linkTerms (os : ClientOs σ) (fuel : Nat) (timeoutMs : UInt32) :
    Keeps linkTerms (transportReceive os fuel timeoutMs) :=
  (blindView_linkTerms.waits os fun _ _ _ =>
    onSession_linkTerms (Uds.receiveWithControl_keeps _ _ _ _ _)).transportReceive fuel timeoutMs

/-- Learning a response capacity changes no proposal about requests. -/
theorem responseOverflow_linkTerms : Keeps linkTerms (responseOverflow : ClientProg σ α) := by
  refine Keeps.bind (Keeps.modify fun world => ?_) fun _ => Keeps.fail _
  dsimp only
  split
  · unfold RawClient.clientNoteResponseCapacity
    dsimp only
    split <;> rfl
  · rfl

theorem grownCapacity_le (payloadLen : UInt32) :
    RawClient.grownCapacity payloadLen ≤ maxPayloadCap := by
  rw [RawClient.grownCapacity, UInt32.le_iff_toNat_le, UInt32.toNat_min]
  exact Nat.min_le_right _ _

/-- What a client proposes after it learned a request capacity. -/
theorem offer_clientNoteRequestCapacity (self : RawClient) (payloadLen : UInt32) :
    offer (self.clientNoteRequestCapacity payloadLen).transportConfig =
        offer self.transportConfig ∨
      (self.transportConfig.maxRequestPayloadBytes < RawClient.grownCapacity payloadLen ∧
        offer (self.clientNoteRequestCapacity payloadLen).transportConfig =
          { offer self.transportConfig with
            maxRequestPayloadBytes := RawClient.grownCapacity payloadLen }) := by
  unfold RawClient.clientNoteRequestCapacity
  dsimp only
  split
  · rename_i grown
    refine .inr ⟨grown, ?_⟩
    have positive : RawClient.grownCapacity payloadLen ≠ 0 := by
      intro zero
      rw [zero] at grown
      exact absurd (UInt32.lt_iff_toNat_lt.mp grown) (Nat.not_lt_zero _)
    simp [offer, Handshake.clientHello, Handshake.applyDefault, positive]
  · exact .inl rfl

section Request

variable (os : ClientOs σ) (maximum : UInt32) (reqLen : Nat) (itemCount : UInt32)

/-- The client proposes no more than the maximum, and the request will not change that. -/
def Modest (world : ClientWorld σ) : Prop :=
  (offer world.client.transportConfig).maxRequestPayloadBytes ≤ maximum ∧
    Mild os maximum reqLen itemCount (offer world.client.transportConfig)

/-- A modest client with a session on the terms it proposes. -/
def Settled (world : ClientWorld σ) : Prop :=
  Modest os maximum reqLen itemCount world ∧ ∃ terms, Joined os terms world

variable {os maximum reqLen itemCount}

variable {world : ClientWorld σ}

theorem Joined.offer_eq {terms : Offer} (joined : Joined os terms world) :
    offer world.client.transportConfig = terms := by
  obtain ⟨link, same, -⟩ := joined
  exact congrArg Prod.fst same

/-- The session of a client that is joined, with its terms. -/
theorem Joined.session {terms : Offer} (joined : Joined os terms world) :
    ∃ session, world.client.session = some session ∧
      Promised os terms (Uds.termsOf session.toUdsSession) := by
  obtain ⟨link, same, promised⟩ := joined
  have found : world.client.session.map (fun session => Uds.termsOf session.toUdsSession) =
    some link := congrArg Prod.snd same
  obtain ⟨session, held, rfl⟩ := Option.map_eq_some_iff.mp found
  exact ⟨session, held, promised⟩

theorem Settled.of_linkTerms {before after : ClientWorld σ}
    (settled : Settled os maximum reqLen itemCount before)
    (same : linkTerms after = linkTerms before) : Settled os maximum reqLen itemCount after := by
  obtain ⟨⟨modest, mild⟩, terms, link, found, promised⟩ := settled
  have kept : offer after.client.transportConfig = offer before.client.transportConfig :=
    congrArg Prod.fst same
  refine ⟨⟨?_, ?_⟩, terms, link, same.trans found, promised⟩
  · rw [kept]
    exact modest
  · rw [kept]
    exact mild

/-- What an operation of the environment or of the session keeps stays settled. -/
theorem Settled.keeps {program : ClientProg σ α} (keeps : Keeps linkTerms program) :
    Triple (Settled os maximum reqLen itemCount) program
      (fun _ => Settled os maximum reqLen itemCount)
      fun _ => Modest os maximum reqLen itemCount := by
  intro world settled
  match ran : program.run world with
  | (.ok _, after) => exact settled.of_linkTerms (keeps.of_run ran)
  | (.error (.err _), after) => exact (settled.of_linkTerms (keeps.of_run ran)).1
  | (.error .panic, _) | (.error .fuel, _) => trivial

/-- An overflow that may be reported: the request is one whose next power of two is within the
maximum, or the client proposes so much already that it learns nothing. -/
def Overdue (maximum : UInt32) (reqLen : Nat) (world : ClientWorld σ) : Prop :=
  RawClient.grownCapacity (UInt32.ofNat reqLen) ≤ maximum ∨
    maxPayloadCap ≤ world.client.transportConfig.maxRequestPayloadBytes

theorem requestOverflow_modest (post : Unit → ClientWorld σ → Prop) :
    Triple (fun world => Modest os maximum reqLen itemCount world ∧ Overdue maximum reqLen world)
      (requestOverflow reqLen) post fun _ => Modest os maximum reqLen itemCount := by
  rintro world ⟨⟨modest, mild⟩, overdue⟩
  show (offer (world.client.clientNoteRequestCapacity _).transportConfig).maxRequestPayloadBytes ≤
    maximum ∧ Mild os maximum reqLen itemCount
      (offer (world.client.clientNoteRequestCapacity _).transportConfig)
  rcases offer_clientNoteRequestCapacity world.client (UInt32.ofNat reqLen) with
    same | ⟨grown, learned⟩
  · rw [same]
    exact ⟨modest, mild⟩
  · have small : RawClient.grownCapacity (UInt32.ofNat reqLen) ≤ maximum := by
      rcases overdue with small | large
      · exact small
      · have cap := grownCapacity_le (UInt32.ofNat reqLen)
        exact absurd (UInt32.le_trans cap large) (UInt32.not_le.mpr grown)
    rw [learned]
    exact ⟨small, .inl small⟩

/-- A client that proposes nearly everything has configured it. -/
theorem overdue_of_huge
    (fits : reqLen ≤ (offer world.client.transportConfig).maxRequestPayloadBytes.toNat)
    (huge : reqLen > Uds.u32Max - headerSize) : Overdue maximum reqLen world := by
  refine .inr (UInt32.le_iff_toNat_le.mpr ?_)
  change reqLen ≤ (Handshake.applyDefault world.client.transportConfig.maxRequestPayloadBytes
    maxPayloadDefault).toNat at fits
  unfold Handshake.applyDefault at fits
  rw [Uds.u32Max, headerSize] at huge
  split at fits
  · change reqLen ≤ 1024 at fits
    omega
  · change 1048576 ≤ _
    omega

/-- A request that overflows a session may do so. -/
theorem Settled.overdue (settled : Settled os maximum reqLen itemCount world) {session : Session}
    (found : world.client.session = some session)
    (past : session.role = .client → session.maxRequestPayloadBytes.toNat < reqLen ∨ reqLen >
      Uds.u32Max - headerSize ∨ session.maxRequestBatchItems < itemCount) :
    Overdue maximum reqLen world := by
  obtain ⟨⟨modest, mild⟩, terms, joined⟩ := settled
  rcases mild with small | ⟨honest, fits, few⟩
  · exact .inl small
  · obtain ⟨same, held, promised⟩ := joined.session
    rw [found] at held
    cases held
    obtain ⟨role, payload, items⟩ := promised honest
    rw [joined.offer_eq] at few
    rcases past role with long | huge | many
    · rw [joined.offer_eq, ← payload] at fits
      exact absurd fits (Nat.not_le.mpr long)
    · exact overdue_of_huge fits huge
    · rw [← items] at few
      exact absurd few (UInt32.not_le.mpr many)

theorem onSession_send_settled {hdr : Header} {payload : Bytes} (length : payload.length = reqLen)
    (items : hdr.itemCount = itemCount) :
    Triple (Settled os maximum reqLen itemCount) (onSession (Uds.send os.toOs hdr payload))
      (fun answer after => Settled os maximum reqLen itemCount after ∧
        (answer = .error (.err .limitExceeded) → Overdue maximum reqLen after))
      fun _ => Modest os maximum reqLen itemCount := by
  intro world settled
  have kept := Settled.keeps (onSession_linkTerms (Uds.send_keeps os.toOs hdr payload)) world
    settled
  obtain ⟨session, found, -⟩ := settled.2.choose_spec.session
  have blame := Uds.send_blame os.toOs hdr payload session.toUdsSession
    ⟨session.toUdsSession, world.os, world.trace⟩ rfl
  rw [run_onSession found] at kept ⊢
  refine ⟨kept, fun refused => ?_⟩
  have past : Overdue maximum reqLen world := by
    refine settled.overdue found fun role => ?_
    rw [Prog.run_of_fst refused] at blame
    rcases blame rfl with long | huge | many
    · rw [Uds.sendLimits, if_pos role, length] at long
      exact .inl long
    · rw [length] at huge
      exact .inr (.inl huge)
    · rw [Uds.sendLimits, if_pos role, items] at many
      exact .inr (.inr many)
  exact past

theorem transportSendRequestBuf_settled (hdr : Header) (items : hdr.itemCount = itemCount) :
    Triple (Settled os maximum reqLen itemCount) (transportSendRequestBuf os hdr reqLen)
      (fun _ => Settled os maximum reqLen itemCount)
      fun _ => Modest os maximum reqLen itemCount := by
  refine Exits.via (fun self world => Settled os maximum reqLen itemCount world ∧
    world.client = self) (fun world start => ⟨start, rfl⟩) fun self => ?_
  cases self.shm with
  | some shm =>
    refine Exits.ite (fun long => ?_) fun _ => ?_
    · refine (requestOverflow_modest _).mono ?_ (fun _ _ held => held) fun _ _ held => held
      rintro world ⟨settled, rfl⟩
      obtain ⟨session, found, -⟩ := settled.2.choose_spec.session
      rw [RawClient.sessionMaxRequestPayloadBytes, found] at long
      exact ⟨settled.1, settled.overdue found fun _ => .inl long⟩
    · refine Triple.ofRes_bind (fun _ _ start _ => start.1.1) fun payload _ =>
        Triple.under ?_ fun _ start => start.1
      refine Exits.via (fun answer world => (Honest os → answer ≠ .error .msgTooLarge) ∧
        Settled os maximum reqLen itemCount world)
        (fun world settled => ⟨fun honest => honest.region shm _ world.os, settled⟩) fun answer =>
          Exits.of_and fun takes => ?_
      match answer with
      | .ok () => exact fun _ settled => settled
      | .error .timeout | .error .other => exact fun _ settled => settled.1
      | .error .msgTooLarge =>
        refine (requestOverflow_modest _).under (fun world settled => ⟨settled.1, ?_⟩)
        rcases settled.1.2 with small | ⟨honest, -⟩
        · exact .inl small
        · exact absurd rfl (takes honest)
  | none =>
    refine Triple.ofRes_bind (fun _ _ start _ => start.1.1) fun _ _ =>
      Triple.ofRes_bind (fun _ _ start _ => start.1.1) fun payload read =>
        Triple.under ?_ fun _ start => start.1
    have length : payload.length = reqLen := by
      obtain ⟨-, inside, rfl⟩ := readSlice_eq_ok read
      rw [Nat.sub_zero, length_slice _ _ _ (by omega)]
    refine (onSession_send_settled length items).bind fun answer => ?_
    split
    · exact fun _ sent => sent.1
    · refine (requestOverflow_modest _).under (fun world sent => ⟨sent.1.1, sent.2 rfl⟩)
    · exact fun _ sent => sent.1.1
    · exact fun _ _ => trivial
    · exact fun _ _ => trivial

theorem doRawCall_settled (fuel : Nat) (hdr : Header) (items : hdr.itemCount = itemCount)
    (call : RawCallKind) (timeoutMs : UInt32) :
    Triple (Settled os maximum reqLen itemCount) (doRawCall os fuel hdr reqLen call timeoutMs)
      (fun _ => Settled os maximum reqLen itemCount)
      fun _ => Modest os maximum reqLen itemCount := by
  refine (Settled.keeps (blindView_linkTerms.observed _ _)).bind fun aborted =>
    Exits.ite (fun _ => Triple.fail _ fun _ settled => settled.1) fun _ => ?_
  refine (transportSendRequestBuf_settled hdr items).bind fun _ => ?_
  refine (Settled.keeps (transportReceive_linkTerms os fuel timeoutMs)).bind fun response => ?_
  refine (Settled.keeps (Keeps.ofRes _)).bind fun _ => Exits.ite (fun _ => ?_) fun _ => Exits.ite
    (fun _ => Settled.keeps responseOverflow_linkTerms) fun _ => Triple.fail _ fun _ settled =>
      settled.1
  exact (Settled.keeps (Keeps.ofRes _)).bind fun _ => Exits.pure _ fun _ settled => settled

theorem attempt_settled (fuel : Nat) (methodCode : UInt16) (call : RawCallKind)
    (items : call.itemCount = itemCount) (timeoutMs : UInt32) :
    Triple (Settled os maximum reqLen itemCount)
      (attempt os fuel methodCode reqLen call timeoutMs)
      (fun _ => Settled os maximum reqLen itemCount)
      fun _ => Modest os maximum reqLen itemCount := by
  refine getClient_triple.bind fun self => Triple.inspect
    (doRawCall_settled fuel (requestHeader self methodCode call) items call timeoutMs) ?_ ?_
    (fun _ _ => trivial) fun _ _ => trivial
  · exact fun _ _ settled => settled
  · exact fun _ _ modest => modest

/-! ### A call -/

/-- A modest client without a session. -/
def Withdrawn (os : ClientOs σ) (maximum : UInt32) (reqLen : Nat) (itemCount : UInt32)
    (world : ClientWorld σ) : Prop :=
  Modest os maximum reqLen itemCount world ∧ world.client.session = none

theorem giveUp_withdrawn (error : NipcError) (post : α → ClientWorld σ → Prop) :
    Triple (Modest os maximum reqLen itemCount) (giveUp os error : ClientProg σ α) post
      fun _ => Withdrawn os maximum reqLen itemCount := fun _ modest => ⟨modest, rfl⟩

theorem reconnect_settled (fuel : Nat) (error : NipcError) :
    Triple (Modest os maximum reqLen itemCount) (reconnect os fuel error)
      (fun _ => Settled os maximum reqLen itemCount)
      fun _ => Withdrawn os maximum reqLen itemCount := by
  intro world modest
  refine (reconnect_parted os fuel error _).mono (fun _ start => start)
    (fun _ after joined => ?_) (fun _ after parted => ?_) world rfl
  · refine ⟨?_, _, joined⟩
    rw [Modest, joined.offer_eq]
    exact modest
  · refine ⟨?_, parted.1⟩
    rw [Modest, parted.2]
    exact modest

theorem callPass_settled (fuel : Nat) (methodCode : UInt16) (call : RawCallKind)
    (items : call.itemCount = itemCount) (timeoutMs retries : UInt32) :
    Triple (Settled os maximum reqLen itemCount)
      (callPass os fuel methodCode reqLen call timeoutMs retries)
      (fun result after => result.elim (fun _ => Settled os maximum reqLen itemCount after)
        fun _ => Settled os maximum reqLen itemCount after)
      fun _ => Withdrawn os maximum reqLen itemCount := by
  refine getClient_triple.bind fun prev => Triple.inspect
    (attempt_settled fuel methodCode call items timeoutMs) (fun _ _ settled => settled) ?_
    (fun _ _ => trivial) fun _ _ => trivial
  intro firstErr
  refine Exits.ite (fun _ => giveUp_withdrawn _ _) fun _ => Exits.ite (fun _ => ?_) fun _ => ?_
  · refine (reconnect_settled fuel firstErr).bind fun _ => Triple.inspect
      (attempt_settled fuel methodCode call items timeoutMs) (fun _ _ settled => settled)
      (fun _ => giveUp_withdrawn _ _) (fun _ _ => trivial) fun _ _ => trivial
  · refine (reconnect_settled fuel firstErr).bind fun _ => getClient_triple.bind fun _ => ?_
    have stops : Triple (Settled os maximum reqLen itemCount) (giveUp os firstErr)
        (fun (result : UInt32 ⊕ Bytes) after => result.elim
          (fun _ => Settled os maximum reqLen itemCount after)
          fun _ => Settled os maximum reqLen itemCount after)
        fun _ => Withdrawn os maximum reqLen itemCount :=
      (giveUp_withdrawn firstErr _).under (fun _ settled => settled.1)
    exact Exits.ite (fun _ => stops) fun _ => Exits.ite (fun _ => stops) fun _ =>
      Exits.pure _ fun _ settled => settled

end Request

/-! ### Operations -/

/-- A client between operations: it proposes no more than the maximum, and holds no session or one
on the terms it proposes. -/
def Calm (os : ClientOs σ) (maximum : UInt32) (world : ClientWorld σ) : Prop :=
  (offer world.client.transportConfig).maxRequestPayloadBytes ≤ maximum ∧
    (world.client.session = none ∨ ∃ terms, Joined os terms world)

variable {os : ClientOs σ} {world : ClientWorld σ}

theorem Settled.calm {reqLen : Nat} {itemCount : UInt32}
    (settled : Settled os maximum reqLen itemCount world) :
    Calm os maximum world := ⟨settled.1.1, .inr settled.2⟩

theorem Withdrawn.calm {reqLen : Nat} {itemCount : UInt32}
    (withdrawn : Withdrawn os maximum reqLen itemCount world) :
    Calm os maximum world := ⟨withdrawn.1.1, .inl withdrawn.2⟩

theorem Parted.calm {terms : Offer} (parted : Parted terms world)
    (modest : terms.maxRequestPayloadBytes ≤ maximum) :
    Calm os maximum world := ⟨by rw [parted.2]; exact modest, .inl parted.1⟩

theorem Joined.calm {terms : Offer} (joined : Joined os terms world)
    (modest : terms.maxRequestPayloadBytes ≤ maximum) :
    Calm os maximum world := ⟨by rw [joined.offer_eq]; exact modest, .inr ⟨terms, joined⟩⟩

section Operations

variable {os : ClientOs σ} {maximum : UInt32}

theorem ensureReadyForLogicalLookup_calm {reqLen : Nat} {itemCount : UInt32} :
    Triple (fun world => Sound world.client ∧ Calm os maximum world ∧
        Mild os maximum reqLen itemCount (offer world.client.transportConfig))
      (ensureReadyForLogicalLookup os) (fun _ => Settled os maximum reqLen itemCount)
      fun _ => Calm os maximum := by
  refine Exits.via (fun self world => Sound world.client ∧ (Calm os maximum world ∧
    Mild os maximum reqLen itemCount (offer world.client.transportConfig)) ∧ world.client = self)
    (fun world start => ⟨start.1, start.2, rfl⟩) fun self =>
    Exits.ite (fun _ => ?_) fun ready => ?_
  · rintro world ⟨-, ⟨calm, -⟩, -⟩
    exact calm
  · refine Exits.via (fun _ => Settled os maximum reqLen itemCount) ?_ fun aborted => Exits.ite
      (fun _ => ?_) fun _ => Exits.pure _ fun _ settled => settled
    · rintro world ⟨sound, ⟨calm, mild⟩, rfl⟩
      refine ⟨⟨calm.1, mild⟩, ?_⟩
      refine calm.2.resolve_left fun none => ?_
      have held := sound.ready_iff.mp (not_not.mp ready)
      rw [none] at held
      cases held
    · exact (giveUp_withdrawn _ _).mono (fun _ settled => settled.1) (fun _ _ held => held)
        fun _ _ dropped => dropped.calm

variable (fuel : Nat)

theorem rawCallWithRetryTimeout_calm (methodCode : UInt16) (reqLen : Nat) (call : RawCallKind)
    (timeoutMs : UInt32) : Triple (fun world => Sound world.client ∧ Calm os maximum world ∧
        Mild os maximum reqLen call.itemCount (offer world.client.transportConfig))
      (rawCallWithRetryTimeout os fuel methodCode reqLen call timeoutMs)
      (fun _ => Calm os maximum) fun _ => Calm os maximum := by
  refine ensureReadyForLogicalLookup_calm.bind fun _ => getClient_triple.bind fun self => ?_
  refine Triple.mono (Triple.loop (fun _ => Settled os maximum reqLen call.itemCount)
    (fun retries => callPass_settled fuel methodCode call rfl _ retries) fuel 0)
    (fun _ settled => settled) (fun _ _ settled => settled.calm) fun _ _ withdrawn => withdrawn.calm

theorem connects_calm : Connects os (Calm os maximum) (Calm os maximum) where
  loads _ calm := calm
  tallied _ _ _ _ calm := calm
  pended _ _ calm := calm
  disconnects _ calm := ⟨calm.1, .inl rfl⟩
  connects fuel world start := by
    refine ((dials_parted os _).tryConnect fuel).mono (fun _ start => start)
      (fun state after tried => ?_) (fun _ _ kept => kept) world ⟨start.1, rfl⟩
    exact ⟨fun ready => (tried.1 ready).calm start.2.1, fun other => (tried.2 other).calm start.2.1⟩
  connected _ calm := calm
  reconnected _ calm := calm

/-- The condition on an operation: a call makes a mild request. -/
def Operation.IsMild (os : ClientOs σ) (maximum : UInt32) (client : RawClient) : Operation → Prop
  | .call _ reqLen kind _ =>
    Mild os maximum reqLen kind.itemCount (offer client.transportConfig)
  | _ => True

theorem Operation.perform_calm (operation : Operation) :
    Triple (fun world => Sound world.client ∧ Calm os maximum world ∧
        operation.IsMild os maximum world.client) (operation.perform os fuel)
      (fun _ => Calm os maximum) fun _ => Calm os maximum := by
  refine connects_calm.perform ⟨fun _ _ calm => calm, fun _ _ _ _ _ _ calm => calm⟩ fuel operation
    (fun world start => ⟨start.1, start.2.1⟩) ?_
  rintro methodCode reqLen kind timeoutMs rfl
  exact rawCallWithRetryTimeout_calm fuel methodCode reqLen kind timeoutMs

end Operations

/-! ### The requests of a lookup -/

/-- A request for as many keys as a session has room for is no longer than that, unless it has no
keys; encoding it does not make it longer. -/
structure Frugal {κ β : Type} (method : LookupMethod κ β) : Prop where
  sized : ∀ keys limit reqCount reqSize,
    method.nextRequestCount keys limit = .ok (reqCount, reqSize) → reqSize ≤ lookupReqHdrSize ∨
      reqSize ≤ (Handshake.applyDefault limit maxPayloadDefault).toNat
  encoded : ∀ keys buf reqLen after,
    (method.encodeRequest keys).run buf = (.ok reqLen, after) → reqLen ≤ buf.length

theorem frugal_apps : Frugal appsLookupMethod where
  sized pids limit reqCount reqSize sized := by
    change appsLookupNextRequestCount pids.length limit = _ at sized
    unfold appsLookupNextRequestCount at sized
    split at sized
    · cases sized
      exact .inl (Nat.le_refl 16)
    · obtain ⟨-, sized⟩ := add_eq_ok sized
      obtain ⟨room, sized⟩ := guard_eq_ok sized
      obtain ⟨-, sized⟩ := guard_eq_ok sized
      obtain ⟨size, computed, same⟩ := bind_eq_ok sized
      cases same
      obtain ⟨-, computed⟩ := mul_eq_ok computed
      obtain ⟨-, computed⟩ := mul_eq_ok computed
      obtain ⟨start, first, second⟩ := Option.bind_eq_some_iff.mp (okOr_eq_ok computed)
      obtain ⟨rfl, -⟩ := checkedAdd_eq_some first
      obtain ⟨rfl, -⟩ := checkedAdd_eq_some second
      right
      unfold lookupReqHdrSize lookupDirEntrySize appsLookupKeySize at room ⊢
      omega
  encoded _ _ _ _ ran := (encodeAppsLookupRequest_eq_ok ran).2.2.2

theorem searchRequestCount_le {paths : List Bytes} {cap fuel lo hi : Nat} {best result : Nat × Nat}
    (small : best.2 ≤ cap) (ran : searchRequestCount paths cap fuel lo hi best = .ok result) :
    result.2 ≤ cap := by
  induction fuel generalizing lo hi best with
  | zero => cases ran
  | succ fuel ih =>
    rw [searchRequestCount] at ran
    split at ran
    · obtain ⟨size, -, ran⟩ := bind_eq_ok ran
      split at ran
      · exact ih ‹_› ran
      · exact ih small ran
    · cases ran
      exact small

theorem frugal_cgroups : Frugal cgroupsLookupMethod where
  sized paths limit reqCount reqSize sized := by
    change cgroupsLookupNextRequestCount paths limit = _ at sized
    unfold cgroupsLookupNextRequestCount at sized
    split at sized
    · cases sized
      exact .inl (Nat.le_refl 16)
    · obtain ⟨best, found, sized⟩ := bind_eq_ok sized
      obtain ⟨-, sized⟩ := guard_eq_ok sized
      cases sized
      exact .inr (searchRequestCount_le (Nat.zero_le _) found)
  encoded _ _ _ _ ran := (encodeCgroupsLookupRequest_eq_ok ran).2.2.2.2

theorem applyDefault_ne_zero (value : UInt32) {default : UInt32} (given : default ≠ 0) :
    Handshake.applyDefault value default ≠ 0 := by
  unfold Handshake.applyDefault
  split
  · exact given
  · assumption

/-- The room a client sees is what it proposes, if the environment is honest. -/
theorem Calm.room (calm : Calm os maximum world) (honest : Honest os) :
    Handshake.applyDefault world.client.sessionMaxRequestPayloadBytes maxPayloadDefault =
      (offer world.client.transportConfig).maxRequestPayloadBytes := by
  unfold RawClient.sessionMaxRequestPayloadBytes
  rcases calm.2 with none | ⟨terms, joined⟩
  · rw [none]
    rfl
  · obtain ⟨session, found, promised⟩ := joined.session
    have same : session.maxRequestPayloadBytes = terms.maxRequestPayloadBytes :=
      (promised honest).2.1
    rw [found, joined.offer_eq]
    dsimp only
    rw [same, ← joined.offer_eq]
    exact if_neg (applyDefault_ne_zero _ (by decide))

/-- A request without keys is mild for every maximum it fits itself. -/
theorem grownCapacity_small {reqLen : Nat} (small : reqLen ≤ lookupReqHdrSize) :
    (RawClient.grownCapacity (UInt32.ofNat reqLen)).toNat ≤ lookupReqHdrSize := by
  have all : ∀ length ≤ 16, (RawClient.grownCapacity (UInt32.ofNat length)).toNat ≤ 16 := by decide
  exact all reqLen small

/-! ### Every history -/

section Histories

variable {methodCode : UInt16} {config : TransportClientConfig} {state : σ}
  (accepted : (offer config).maxRequestPayloadBytes ≤ maximum)

include accepted

theorem History.calm (history : History os (Operation.IsMild os maximum)
    (newWorld methodCode config state) world) : Calm os maximum world := by
  induction history with
  | refl => exact ⟨accepted, .inl rfl⟩
  | operation fuel operation before allow ended ih =>
    exact ended.held (operation.perform_calm fuel) ⟨before.sound (sound_newWorld _ _ _), ih, allow⟩
  | loaded _ ih => exact ih
  | clocked _ ih => exact ih
  | noted _ _ ih => exact ih

theorem lenient_mild {κ β : Type} {method : LookupMethod κ β} (honest : Honest os)
    (room : lookupReqHdrSize ≤ maximum.toNat) (frugal : Frugal method) :
    Lenient os (Operation.IsMild os maximum) (newWorld methodCode config state) method where
  free client operation free := by
    cases operation with
    | call => cases free
    | _ => trivial
  asked world history keys reqCount reqSize reqKeys buf reqLen after _ sized length ran := by
    have short := frugal.encoded reqKeys buf reqLen after ran
    rcases frugal.sized keys _ reqCount reqSize sized with empty | fits
    · exact .inl (UInt32.le_iff_toNat_le.mpr ((grownCapacity_small (by omega)).trans room))
    · rw [(history.calm accepted).room honest] at fits
      refine .inr ⟨honest, by omega, UInt32.le_iff_toNat_le.mpr (Nat.pos_of_ne_zero fun zero => ?_)⟩
      exact applyDefault_ne_zero _ (by decide) (UInt32.toNat_inj.mp zero)

/-- A client whose first proposal is accepted stays welcome while it makes mild requests, in every
history. The lookups make such requests of their own accord, if the server has room for a request
without keys. -/
theorem welcome_of_mild_history (os : ClientOs σ) (methodCode : UInt16) (state : σ) :
    (∀ world, History os (Operation.IsMild os maximum) (newWorld methodCode config state) world →
      Welcome maximum world.client) ∧
    (Honest os → lookupReqHdrSize ≤ maximum.toNat → ∀ world,
      History os (Operation.IsMild os maximum) (newWorld methodCode config state) world →
      ∀ fuel timeoutMs result after, Completed result →
        ((∃ pids, (callAppsLookupWithTimeout os fuel pids timeoutMs).run world = (result, after)) ∨
          ∃ paths, (callCgroupsLookupWithTimeout os fuel paths timeoutMs).run world =
            (result, after)) →
        History os (Operation.IsMild os maximum) (newWorld methodCode config state) after) := by
  refine ⟨fun world history => welcome_of_le (history.calm accepted).1, ?_⟩
  rintro honest room world history fuel timeoutMs result after ended (⟨pids, ran⟩ | ⟨paths, ran⟩)
  · exact ended.history_lookup (lenient_mild accepted honest room frugal_apps) history ran
  · exact ended.history_lookup (lenient_mild accepted honest room frugal_cgroups) history ran

end Histories

/-- A server with a maximum, as a client sees it: it accepts a HELLO within the maximum and sends
the packets of a script. -/
def strictOs (maximum : UInt32) : ClientOs (List Bytes) :=
  let session (config : TransportClientConfig) := Handshake.sessionOf 3 .client
    ⟨1, 0, 1, 1, 1, (offer config).maxRequestPayloadBytes, (offer config).maxRequestBatchItems,
      1024, 1, 4096, 7⟩
  { scriptedOs (session ⟨1, 0, 100, 1, 1024, 1, 0, 4096⟩) with
    connect := fun config script =>
      if (offer config).maxRequestPayloadBytes ≤ maximum then (.ok (session config), script)
      else (.error (.handshake .limitExceeded), script) }

theorem honest_strictOs (maximum : UInt32) : Honest (strictOs maximum) where
  connect config state session connected := by
    simp only [strictOs] at connected
    split at connected
    · cases connected
      exact ⟨rfl, rfl, rfl⟩
    · cases connected
  region _ _ _ := nofun

/-- A request of 101 bytes to a server whose maximum is 128: the client learns to propose 128,
connects again and gets its answer, and then makes a lookup. -/
theorem welcome_of_mild_history_grown :
    let os := strictOs 128
    let config := ⟨1, 0, 100, 1, 1024, 1, 0, 4096⟩
    let answer := responseImage 5 [(AppsItem.placeholder pidLookupUnknown 7).image]
    let start := newWorld methodAppsLookup config
      [answerPacket methodAppsLookup 1 [], answerPacket methodAppsLookup 2 answer]
    let connected := ((Operation.perform os 9 .refresh).run start).2
    let filled := ((Operation.perform os 9 (.writeRequest (zeros 101))).run connected).2
    let called := ((Operation.perform os 9 (.call methodAppsLookup 101 .single 0)).run filled).2
    (offer config).maxRequestPayloadBytes = 100 ∧
      (offer called.client.transportConfig).maxRequestPayloadBytes = 128 ∧
      Welcome 128 called.client ∧ ∃ after, (callAppsLookupWithTimeout os 9 [7] 0).run called =
        (.ok ⟨1, 0, 1, 5, answer⟩, after) ∧ Welcome 128 after.client := by
  intro os config answer start connected filled called
  have connects : ((Operation.perform os 9 .refresh).run start).1 = .ok () := by decide +kernel
  have calls : ((Operation.perform os 9 (.call methodAppsLookup 101 .single 0)).run filled).1 =
    .ok () := by decide +kernel
  have looks : ((callAppsLookupWithTimeout os 9 [7] 0).run called).1 =
    .ok ⟨1, 0, 1, 5, answer⟩ := by decide +kernel
  have mild : Operation.IsMild os 128 filled.client (.call methodAppsLookup 101 .single 0) := by
    left
    decide +kernel
  have first : History os (Operation.IsMild os 128) start connected :=
    .operation 9 .refresh .refl trivial (completed_of_ok connects)
  have second : History os (Operation.IsMild os 128) start filled :=
    .operation 9 (.writeRequest (zeros 101)) first trivial trivial
  have third : History os (Operation.IsMild os 128) start called :=
    second.next mild (Prog.run_of_fst calls) trivial
  obtain ⟨welcome, lookups⟩ := welcome_of_mild_history
    (show (offer config).maxRequestPayloadBytes ≤ 128 by decide) os methodAppsLookup start.os
  refine ⟨by decide, by decide +kernel, welcome _ third, _, Prog.run_of_fst looks, welcome _ ?_⟩
  exact lookups (honest_strictOs 128) (by decide) _ third 9 0 (.ok _) _ trivial
    (.inl ⟨[7], Prog.run_of_fst looks⟩)

/-- A request of 101 bytes to a server whose maximum is 100: the client then proposes 128, and the
server rejects it from then on. -/
theorem not_welcome_oversized :
    let os := strictOs 100
    let start := newWorld 1 ⟨1, 0, 100, 1, 1024, 1, 0, 4096⟩ []
    (offer start.client.transportConfig).maxRequestPayloadBytes ≤ 100 ∧
      ¬ ∀ world, History os (fun _ _ => True) start world → Welcome 100 world.client := by
  intro os start
  refine ⟨by decide +kernel, fun always => ?_⟩
  let connected := ((Operation.perform os 9 .refresh).run start).2
  let filled := ((Operation.perform os 9 (.writeRequest (zeros 101))).run connected).2
  let called := ((Operation.perform os 9 (.call 1 101 .single 0)).run filled).2
  have connects : ((Operation.perform os 9 .refresh).run start).1 = .ok () := by decide +kernel
  have calls : ((Operation.perform os 9 (.call 1 101 .single 0)).run filled).1 =
    .error (.err .overflow) := by decide +kernel
  have first : History os (fun _ _ => True) start connected :=
    .operation 9 .refresh .refl trivial (completed_of_ok connects)
  have second : History os (fun _ _ => True) start filled :=
    .operation 9 (.writeRequest (zeros 101)) first trivial trivial
  have third : History os (fun _ _ => True) start called :=
    .operation 9 (.call 1 101 .single 0) second trivial (completed_of_err calls)
  have proposes : (offer called.client.transportConfig).maxRequestPayloadBytes = 128 := by
    decide +kernel
  have welcome := (always called third).1
  rw [proposes] at welcome
  exact absurd welcome (by decide)

end NetIpc.Client
