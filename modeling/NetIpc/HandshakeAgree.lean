/-
This file puts the two sides of a handshake together: the client's
`connect_and_handshake`, and the decisions of the C and Go servers beside the
Rust one.

The client builds its HELLO from its configuration and makes its session of the
acknowledgement alone; the server makes its session of the acknowledgement it
sends. So when the packets arrive as they were sent, the two sessions carry the
same values, and what these values are follows from `negotiate`. The three
servers find the highest profile bit in three ways (by counting leading zeros, by
shifting a bit down, by shifting the mask down), and all give the bit that
`IsHighestBit` describes.
-/

import NetIpc.Handshake

namespace NetIpc.Handshake

variable {σ τ α : Type}

/-! ### The client -/

/-- The HELLO of `connect_and_handshake`. -/
def clientHello (config : TransportClientConfig) (pktSize : UInt32) : Hello where
  layoutVersion := 1
  flags := 0
  supportedProfiles := profilesOf config.supportedProfiles
  preferredProfiles := config.preferredProfiles
  maxRequestPayloadBytes := applyDefault config.maxRequestPayloadBytes maxPayloadDefault
  maxRequestBatchItems := applyDefault config.maxRequestBatchItems defaultBatchItems
  maxResponsePayloadBytes := applyDefault config.maxResponsePayloadBytes maxPayloadDefault
  maxResponseBatchItems := applyDefault config.maxResponseBatchItems defaultBatchItems
  authToken := config.authToken
  packetSize := pktSize

/-- The header of the acknowledgement, as the client decodes it. -/
def clientDecodeHeader (packet : Bytes) : Res HandshakeError Header :=
  mapError (fun error => match error with
    | .badVersion => .incompatible "ack header version mismatch"
    | error => .protocol ("ack header: " ++ error.display)) (Header.decode packet)

/-- What the client makes of the status of an acknowledgement. -/
def checkAckStatus (status : UInt16) : Res HandshakeError Unit := do
  rejectIf (status = statusAuthFailed) .authFailed
  rejectIf (status = statusUnsupported) .noProfile
  rejectIf (status = statusIncompatible) (.incompatible "ack transport_status incompatible")
  rejectIf (status = statusLimitExceeded) .limitExceeded
  rejectIf (status ≠ statusOk) (.handshake s!"transport_status={status}")

/-- The payload of the acknowledgement, as the client decodes it. -/
def clientDecodeAck (payload : Bytes) : Res HandshakeError HelloAck :=
  mapError (fun error =>
    if error = .badLayout ∧ (layoutIncompatible payload).toOption = some true then
      .incompatible "ack payload layout version mismatch"
    else .protocol ("ack payload: " ++ error.display)) (HelloAck.decode payload)

/-- The part of `connect_and_handshake` that reads the acknowledgement. -/
def acceptAck (fd : Int) (packet : Bytes) : Res HandshakeError Session := do
  let ackHdr ← clientDecodeHeader packet
  rejectIf (ackHdr.kind ≠ kindControl ∨ ackHdr.code ≠ codeHelloAck) (.protocol "expected HELLO_ACK")
  checkAckStatus ackHdr.transportStatus
  rejectIf (packet.length < headerSize + helloAckSize) (.protocol "ack payload truncated")
  let payload ← readSlice packet headerSize packet.length
  let ack ← clientDecodeAck payload
  rejectIf (ack.agreedPacketSize ≤ UInt32.ofNat headerSize)
    (.protocol "agreed packet_size too small")
  return sessionOf fd .client ack

/-- `connect_and_handshake`. -/
def connectAndHandshake (socket : Socket σ) (fd : Int) (config : TransportClientConfig) :
    HandshakeProg σ Session := do
  let errno ← silent socket.connect
  Prog.ofRes (rejectIf (errno ≠ 0) (.connect errno))
  let pktSize ← offeredPacketSize socket config.packetSize
  rawSend socket (helloPacket (clientHello config pktSize))
  let packet ← rawRecv socket 128
  Prog.ofRes (acceptAck fd packet)

/-- The packets a side received. -/
def receivedPackets (trace : List Event) : List Bytes := trace.filterMap Event.packet?

/-! ### The highest bit, three times -/

/-- `bit` is the highest bit set in `mask`. -/
def IsHighestBit (mask bit : UInt32) : Prop :=
  ∃ position < 32, bit.toNat = 2 ^ position ∧ mask.toNat.testBit position = true ∧
    ∀ higher > position, mask.toNat.testBit higher = false

theorem isHighestBit_of_bounds {mask bit : UInt32} (position : Nat)
    (one : bit.toNat = 2 ^ position) (low : 2 ^ position ≤ mask.toNat)
    (high : mask.toNat < 2 ^ (position + 1)) : IsHighestBit mask bit := by
  refine ⟨position, ?_, one, Nat.testBit_of_two_pow_le_and_two_pow_add_one_gt low high, ?_⟩
  · exact (Nat.pow_lt_pow_iff_right (by omega)).mp (lt_of_le_of_lt low mask.toNat_lt)
  · intro higher above
    refine Nat.testBit_lt_two_pow (lt_of_lt_of_le high ?_)
    exact Nat.pow_le_pow_right (by omega) above

theorem IsHighestBit.unique {mask first second : UInt32} (one : IsHighestBit mask first)
    (other : IsHighestBit mask second) : first = second := by
  obtain ⟨position, -, value, set, clear⟩ := one
  obtain ⟨position', -, value', set', clear'⟩ := other
  have same : position = position' := by
    by_contra different
    rcases Nat.lt_or_gt_of_ne different with below | above
    · exact absurd set' (by rw [clear position' below]; exact Bool.false_ne_true)
    · exact absurd set (by rw [clear' position above]; exact Bool.false_ne_true)
  exact UInt32.toNat_inj.mp (by rw [value, value', same])

variable (mask : UInt32)

/-- The Rust function. -/
theorem highestBit_spec (some : mask ≠ 0) : IsHighestBit mask (highestBit mask) := by
  have positive : mask.toNat ≠ 0 := fun zero => some (UInt32.toNat_inj.mp zero)
  have small : Nat.log2 mask.toNat < 32 := (Nat.log2_lt positive).mpr mask.toNat_lt
  have log : (UInt32.ofNat (Nat.log2 mask.toNat)).toNat = Nat.log2 mask.toNat :=
    toNat_ofNat32 (by omega)
  have shift : (31 - (31 - UInt32.ofNat (Nat.log2 mask.toNat))).toNat = Nat.log2 mask.toNat := by
    have inner : (31 - UInt32.ofNat (Nat.log2 mask.toNat)).toNat = 31 - Nat.log2 mask.toNat := by
      rw [UInt32.toNat_sub_of_le _ _
        (by rw [UInt32.le_iff_toNat_le, log]; exact Nat.le_of_lt_succ small),
        log]
      rfl
    rw [UInt32.toNat_sub_of_le _ _ (by rw [UInt32.le_iff_toNat_le, inner]; exact Nat.sub_le _ _),
      inner]
    exact Nat.sub_sub_self (Nat.le_of_lt_succ small)
  refine isHighestBit_of_bounds (Nat.log2 mask.toNat) ?_ (Nat.log2_self_le positive)
    Nat.lt_log2_self
  rw [highestBit, if_neg some, leadingZeros, if_neg some, UInt32.toNat_shiftLeft, shift,
    Nat.mod_eq_of_lt small, show (1 : UInt32).toNat = 1 from rfl, Nat.one_shiftLeft,
    Nat.mod_eq_of_lt (Nat.pow_lt_pow_right (by omega) small)]

/-- The loop of the C `highest_bit`; it is never run out of. -/
def shiftBitDown (mask : UInt32) : Nat → UInt32 → UInt32
  | 0, bit => bit
  | passes + 1, bit => if mask &&& bit = 0 then shiftBitDown mask passes (bit >>> 1) else bit

/-- The C `highest_bit`. -/
def highestBitC (mask : UInt32) : UInt32 :=
  if mask = 0 then 0 else shiftBitDown mask 31 ((1 : UInt32) <<< 31)

theorem toNat_shiftRight_one (value : UInt32) : (value >>> 1).toNat = value.toNat / 2 := by
  rw [UInt32.toNat_shiftRight]
  exact Nat.shiftRight_eq_div_pow _ 1

theorem shiftBitDown_spec (some : mask ≠ 0) (position : Nat) (bit : UInt32)
    (one : bit.toNat = 2 ^ position) (below : mask.toNat < 2 ^ (position + 1)) :
    IsHighestBit mask (shiftBitDown mask position bit) := by
  induction position generalizing bit with
  | zero =>
    have positive : mask.toNat ≠ 0 := fun zero => some (UInt32.toNat_inj.mp zero)
    exact isHighestBit_of_bounds 0 one (Nat.one_le_iff_ne_zero.mpr positive) below
  | succ position ih =>
    rw [shiftBitDown]
    by_cases clear : mask &&& bit = 0
    · rw [if_pos clear]
      refine ih (bit >>> 1) ?_ ?_
      · rw [toNat_shiftRight_one, one, Nat.pow_succ, Nat.mul_div_cancel _ (by omega)]
      · -- The bit is not set and none above it is.
        by_contra large
        have set := Nat.testBit_of_two_pow_le_and_two_pow_add_one_gt (not_lt.mp large) below
        have none : (mask.toNat &&& 2 ^ (position + 1)).testBit (position + 1) = false := by
          rw [← one, ← UInt32.toNat_and, clear]
          exact Nat.zero_testBit _
        rw [Nat.testBit_and, set, Nat.testBit_two_pow_self] at none
        cases none
    · rw [if_neg clear]
      refine isHighestBit_of_bounds (position + 1) one ?_ below
      by_contra small
      refine clear (UInt32.toNat_inj.mp ?_)
      rw [UInt32.toNat_and, one]
      refine Nat.eq_of_testBit_eq fun index => ?_
      rw [Nat.testBit_and, Nat.testBit_two_pow, UInt32.toNat_zero, Nat.zero_testBit]
      by_cases same : position + 1 = index
      · rw [← same, Nat.testBit_lt_two_pow (not_le.mp small), Bool.false_and]
      · rw [decide_eq_false same, Bool.and_false]

theorem highestBitC_eq : highestBitC mask = highestBit mask := by
  unfold highestBitC
  split
  · rename_i zero
    rw [zero]
    rfl
  · rename_i some
    exact (shiftBitDown_spec mask some 31 _ (by decide) mask.toNat_lt).unique
      (highestBit_spec mask some)

/-- The loop of the Go `highestBit`; it is never run out of. -/
def shiftMaskDown : Nat → UInt32 → UInt32 → UInt32
  | 0, _, b => b
  | passes + 1, mask, b => if mask >>> 1 ≠ 0 then shiftMaskDown passes (mask >>> 1) (b <<< 1) else b

/-- The Go `highestBit`. -/
def highestBitGo (mask : UInt32) : UInt32 :=
  if mask = 0 then 0 else shiftMaskDown 32 mask 1

theorem shiftMaskDown_spec (passes : Nat) (mask b : UInt32) (position : Nat)
    (one : b.toNat = 2 ^ position) (fits : position + Nat.log2 mask.toNat < 32)
    (enough : Nat.log2 mask.toNat ≤ passes) :
    (shiftMaskDown passes mask b).toNat = 2 ^ (position + Nat.log2 mask.toNat) := by
  induction passes generalizing mask b position with
  | zero => rw [shiftMaskDown, one, Nat.le_zero.mp enough, Nat.add_zero]
  | succ passes ih =>
    have halved := toNat_shiftRight_one mask
    rw [shiftMaskDown]
    by_cases more : mask >>> 1 ≠ 0
    · have two : 2 ≤ mask.toNat := by
        by_contra small
        refine more (UInt32.toNat_inj.mp ?_)
        rw [halved, UInt32.toNat_zero]
        omega
      have log : Nat.log2 mask.toNat = Nat.log2 (mask >>> 1).toNat + 1 := by
        rw [Nat.log2_def, if_pos two, halved]
      have doubled : (b <<< 1).toNat = 2 ^ (position + 1) := by
        rw [UInt32.toNat_shiftLeft, one, show (1 : UInt32).toNat % 32 = 1 from rfl,
          Nat.shiftLeft_eq, ← Nat.pow_succ]
        exact Nat.mod_eq_of_lt (Nat.pow_lt_pow_right (by omega) (by omega))
      rw [if_pos more, ih _ _ (position + 1) doubled (by omega) (by omega), log]
      congr 1
      omega
    · have small : ¬ 2 ≤ mask.toNat := by
        intro two
        have zero := congrArg UInt32.toNat (not_not.mp more)
        rw [halved, UInt32.toNat_zero] at zero
        omega
      rw [if_neg more, one, Nat.log2_def, if_neg small, Nat.add_zero]

theorem highestBitGo_eq : highestBitGo mask = highestBit mask := by
  unfold highestBitGo
  split
  · rename_i zero
    rw [zero]
    rfl
  · rename_i some
    have positive : mask.toNat ≠ 0 := fun zero => some (UInt32.toNat_inj.mp zero)
    have small : Nat.log2 mask.toNat < 32 := (Nat.log2_lt positive).mpr mask.toNat_lt
    have shifted := shiftMaskDown_spec 32 mask 1 0 rfl (by omega) (by omega)
    rw [Nat.zero_add] at shifted
    exact (isHighestBit_of_bounds _ shifted (Nat.log2_self_le positive) Nat.lt_log2_self).unique
      (highestBit_spec mask some)

/-! ### The decisions of the C and Go servers -/

/-- What `nipc_uds_server_handshake` decides about a decoded HELLO. -/
def negotiateC (cfg : TransportServerConfig) (serverPktSize : UInt32) (sessionId : UInt64)
    (hello : Hello) : Except UInt16 HelloAck :=
  let sRespPay := applyDefault cfg.maxResponsePayloadBytes maxPayloadDefault
  let sReqPay := applyDefault cfg.maxRequestPayloadBytes maxPayloadDefault
  let sProfiles := if cfg.supportedProfiles ≠ 0 then cfg.supportedProfiles else profileBaseline
  let intersection := hello.supportedProfiles &&& sProfiles
  if intersection = 0 then .error statusUnsupported
  else if hello.authToken ≠ cfg.authToken then .error statusAuthFailed
  else
    let preferredIntersection := intersection &&& hello.preferredProfiles &&& cfg.preferredProfiles
    let selected :=
      if preferredIntersection ≠ 0 then highestBitC preferredIntersection
      else highestBitC intersection
    if hello.maxRequestPayloadBytes > sReqPay then .error statusLimitExceeded
    else
      let agreedPkt :=
        if hello.packetSize < serverPktSize then hello.packetSize else serverPktSize
      if agreedPkt ≤ UInt32.ofNat headerSize then .error statusIncompatible
      else .ok {
        layoutVersion := 1
        serverSupportedProfiles := sProfiles
        intersectionProfiles := intersection
        selectedProfile := selected
        agreedMaxRequestPayloadBytes := hello.maxRequestPayloadBytes
        agreedMaxRequestBatchItems := hello.maxRequestBatchItems
        agreedMaxResponsePayloadBytes := sRespPay
        agreedMaxResponseBatchItems := hello.maxRequestBatchItems
        agreedPacketSize := agreedPkt
        sessionId := sessionId }

/-- `ServerHelloConfig` of the Go transport. -/
structure ServerHelloConfig where
  packetSize : UInt32
  maxRequestPayloadBytes : UInt32
  maxResponsePayloadBytes : UInt32
  supportedProfiles : UInt32
  preferredProfiles : UInt32
  authToken : UInt64
  deriving Repr, DecidableEq

/-- The Go `NegotiateHello`: the acknowledgement, the status and whether it is a success. -/
def negotiateHello (hello : Hello) (config : ServerHelloConfig) : HelloAck × UInt16 × Bool :=
  let supported :=
    if config.supportedProfiles = 0 then profileBaseline else config.supportedProfiles
  let intersection := hello.supportedProfiles &&& supported
  if intersection = 0 then ({}, statusUnsupported, false)
  else if hello.authToken ≠ config.authToken then ({}, statusAuthFailed, false)
  else if hello.maxRequestPayloadBytes > config.maxRequestPayloadBytes then
    ({}, statusLimitExceeded, false)
  else
    let preferredIntersection :=
      intersection &&& hello.preferredProfiles &&& config.preferredProfiles
    let selected :=
      if preferredIntersection ≠ 0 then highestBitGo preferredIntersection
      else highestBitGo intersection
    let agreedPkt :=
      if hello.packetSize < config.packetSize then hello.packetSize else config.packetSize
    if agreedPkt ≤ UInt32.ofNat headerSize then ({}, statusIncompatible, false)
    else ({
      layoutVersion := 1
      flags := 0
      serverSupportedProfiles := supported
      intersectionProfiles := intersection
      selectedProfile := selected
      agreedMaxRequestPayloadBytes := hello.maxRequestPayloadBytes
      agreedMaxRequestBatchItems := hello.maxRequestBatchItems
      agreedMaxResponsePayloadBytes := config.maxResponsePayloadBytes
      agreedMaxResponseBatchItems := hello.maxRequestBatchItems
      agreedPacketSize := agreedPkt }, statusOk, true)

/-- What the Go `serverHandshake` decides: it fills in the defaults before and the session id
after `NegotiateHello`. -/
def negotiateGo (config : TransportServerConfig) (serverPktSize : UInt32) (sessionId : UInt64)
    (hello : Hello) : Except UInt16 HelloAck :=
  let (ack, status, ok) := negotiateHello hello {
    packetSize := serverPktSize
    maxRequestPayloadBytes := applyDefault config.maxRequestPayloadBytes maxPayloadDefault
    maxResponsePayloadBytes := applyDefault config.maxResponsePayloadBytes maxPayloadDefault
    supportedProfiles := config.supportedProfiles
    preferredProfiles := config.preferredProfiles
    authToken := config.authToken }
  if ok then .ok { ack with sessionId } else .error status

/-- A decision as the client sees it: the acknowledgement or the status of the rejection. -/
def ackFields : Except (UInt16 × HandshakeError) HelloAck → Except UInt16 HelloAck
  | .error (status, _) => .error status
  | .ok ack => .ok ack

theorem min_eq_ite (first second : UInt32) :
    min first second = if first < second then first else second := by
  show (if first ≤ second then first else second) = _
  by_cases less : first < second
  · rw [if_pos (UInt32.le_of_lt less), if_pos less]
  · rw [if_neg less]
    split
    · rename_i le
      exact UInt32.le_antisymm le (UInt32.not_lt.mp less)
    · rfl

theorem negotiateC_eq (config : TransportServerConfig) (pktSize : UInt32) (sessionId : UInt64)
    (hello : Hello) :
    negotiateC config pktSize sessionId hello =
      ackFields (negotiate config pktSize sessionId hello) := by
  have profiles : (if config.supportedProfiles ≠ 0 then config.supportedProfiles
      else profileBaseline) = profilesOf config.supportedProfiles := ite_not ..
  unfold negotiateC negotiate selectProfile
  simp only [profiles, highestBitC_eq, ← min_eq_ite]
  split_ifs <;> rfl

theorem negotiateGo_eq (config : TransportServerConfig) (pktSize : UInt32) (sessionId : UInt64)
    (hello : Hello) :
    negotiateGo config pktSize sessionId hello =
      ackFields (negotiate config pktSize sessionId hello) := by
  have profiles : (if config.supportedProfiles = 0 then profileBaseline
      else config.supportedProfiles) = profilesOf config.supportedProfiles := rfl
  unfold negotiateGo negotiateHello negotiate selectProfile
  simp only [profiles, highestBitGo_eq, ← min_eq_ite]
  iterate 4
    split
    · rfl
  rfl

/-! ### What a successful side saw -/

variable {socket : Socket σ}

variable {before after : Wire σ}

theorem rawSend_trace {data : Bytes} {result : Unit}
    (ran : (rawSend socket data).run before = (.ok result, after)) :
    after.trace = before.trace ++ [.sent data] := by
  unfold rawSend at ran
  rw [Prog.run_bind_ok (run_traced _ _ before)] at ran
  dsimp only at ran
  split at ran
  · cases ran
  · cases ran
    rfl

theorem rawRecv_trace {size : Nat} {packet : Bytes}
    (ran : (rawRecv socket size).run before = (.ok packet, after)) :
    after.trace = before.trace ++ [.received (.data packet)] := by
  unfold rawRecv at ran
  rw [Prog.run_bind_ok (run_traced _ _ before)] at ran
  dsimp only [Prod.map] at ran
  cases arrived : Received.cut size (socket.recv size before.os).1 with
  | failed errno =>
    rw [arrived] at ran
    cases ran
  | data bytes =>
    rw [arrived] at ran
    dsimp only at ran
    split at ran
    · cases ran
    · cases ran
      rfl

/-- A rejection is not a success. -/
theorem reject_run_ne_ok {status : UInt16} {error : HandshakeError} {value : α} :
    (reject socket status error : HandshakeProg σ α).run before ≠ (.ok value, after) := by
  intro ran
  obtain ⟨_, _, -, failed⟩ := Prog.run_bind_eq_ok ran
  cases failed

variable {sessionId : UInt64}

/-- A server that returned a session received a HELLO, decided on an acknowledgement and sent it. -/
theorem serverHandshake_eq_ok {fd : Int} {config : TransportServerConfig} {state : σ}
    {final : Wire σ} {session : Session}
    (ran : (serverHandshake socket fd config sessionId).run ⟨state, []⟩ = (.ok session, final)) :
    ∃ packet hello ack,
      final.trace = [.received (.data packet), .sent (helloAckPacket statusOk ack)] ∧
      Hello.decode (slice packet 32 (packet.length - 32)) = .ok hello ∧
      negotiate config (serverPktSize socket config state) sessionId hello = .ok ack ∧
      session = sessionOf fd .server ack := by
  unfold serverHandshake at ran
  obtain ⟨asked, offered⟩ := run_offeredPacketSize socket config.packetSize ⟨state, []⟩
  rw [Prog.run_bind_ok offered] at ran
  obtain ⟨packet, received, arrived, decoding⟩ := Prog.run_bind_eq_ok ran
  have heard := rawRecv_trace arrived
  obtain ⟨hdr, between, header, checking⟩ := Prog.run_bind_eq_ok decoding
  have same : between = received := by
    unfold serverDecodeHeader at header
    split at header
    · cases header
      rfl
    · split at header
      · exact absurd header reject_run_ne_ok
      · cases header
    · cases header
    · cases header
  rw [same] at checking
  obtain ⟨_, -, slicing⟩ := Prog.run_ofRes_bind_eq_ok checking
  obtain ⟨payload, rest, greeting⟩ := Prog.run_ofRes_bind_eq_ok slicing
  obtain ⟨-, -, rfl⟩ := readSlice_eq_ok rest
  obtain ⟨hello, after, decodes, answering⟩ := Prog.run_bind_eq_ok greeting
  have payloadDecoded : Hello.decode (slice packet 32 (packet.length - 32)) = .ok hello ∧
      after = received := by
    unfold serverDecodeHello at decodes
    split at decodes
    · rename_i decoded found
      cases decodes
      exact ⟨found, rfl⟩
    · split at decodes
      · exact absurd decodes reject_run_ne_ok
      · cases decodes
    · cases decodes
    · cases decodes
  obtain ⟨decoded, unchanged⟩ := payloadDecoded
  rw [unchanged, show (if config.packetSize = 0 then _ else _) =
    serverPktSize socket config state from rfl] at answering
  cases decision : negotiate config (serverPktSize socket config state) sessionId hello with
  | error rejection =>
    rw [decision] at answering
    exact absurd answering reject_run_ne_ok
  | ok ack =>
    rw [decision] at answering
    obtain ⟨_, _, sent, ended⟩ := Prog.run_bind_eq_ok answering
    cases ended
    refine ⟨packet, hello, ack, ?_, decoded, decision, rfl⟩
    rw [rawSend_trace sent, heard]
    rfl

/-- The packet size the client offers. -/
def clientPktSize (socket : Socket σ) (config : TransportClientConfig) (state : σ) : UInt32 :=
  if config.packetSize = 0 then detectedSize (socket.getsockopt (socket.connect state).2).1
  else config.packetSize

/-- A client that returned a session sent its HELLO and accepted what it received. -/
theorem connectAndHandshake_eq_ok {fd : Int} {config : TransportClientConfig} {state : σ}
    {final : Wire σ} {session : Session}
    (ran : (connectAndHandshake socket fd config).run ⟨state, []⟩ = (.ok session, final)) :
    ∃ packet,
      final.trace = [.sent (helloPacket (clientHello config (clientPktSize socket config state))),
        .received (.data packet)] ∧
      acceptAck fd packet = .ok session := by
  unfold connectAndHandshake at ran
  rw [Prog.run_bind_ok (run_silent _ _)] at ran
  obtain ⟨_, -, ran⟩ := Prog.run_ofRes_bind_eq_ok ran
  obtain ⟨asked, offered⟩ := run_offeredPacketSize socket config.packetSize
    ⟨(socket.connect state).2, []⟩
  rw [Prog.run_bind_ok offered] at ran
  obtain ⟨_, hailed, sent, ran⟩ := Prog.run_bind_eq_ok ran
  obtain ⟨packet, received, arrived, ended⟩ := Prog.run_bind_eq_ok ran
  obtain ⟨accepted, rfl⟩ := Prod.mk.inj ended
  refine ⟨packet, ?_, accepted⟩
  rw [rawRecv_trace arrived, rawSend_trace sent]
  rfl

/-! ### Agreement -/

/-- What a positive decision says. -/
theorem negotiate_eq_ok {config : TransportServerConfig} {pktSize : UInt32} {hello : Hello}
    {ack : HelloAck} (decided : negotiate config pktSize sessionId hello = .ok ack) :
    hello.supportedProfiles &&& profilesOf config.supportedProfiles ≠ 0 ∧
      hello.maxRequestPayloadBytes ≤ applyDefault config.maxRequestPayloadBytes maxPayloadDefault ∧
      ¬ min hello.packetSize pktSize ≤ 32 ∧
      ack = {
        layoutVersion := 1
        serverSupportedProfiles := profilesOf config.supportedProfiles
        intersectionProfiles := hello.supportedProfiles &&& profilesOf config.supportedProfiles
        selectedProfile := selectProfile
          (hello.supportedProfiles &&& profilesOf config.supportedProfiles)
          hello.preferredProfiles config.preferredProfiles
        agreedMaxRequestPayloadBytes := hello.maxRequestPayloadBytes
        agreedMaxRequestBatchItems := hello.maxRequestBatchItems
        agreedMaxResponsePayloadBytes :=
          applyDefault config.maxResponsePayloadBytes maxPayloadDefault
        agreedMaxResponseBatchItems := hello.maxRequestBatchItems
        agreedPacketSize := min hello.packetSize pktSize
        sessionId := sessionId } := by
  unfold negotiate at decided
  dsimp only at decided
  split_ifs at decided with common _ limit room
  exact ⟨common, UInt32.not_lt.mp limit, room, (Except.ok.inj decided).symm⟩

/-- The client makes its session of the acknowledgement the server sent. -/
theorem acceptAck_helloAckPacket (fd : Int) (ack : HelloAck) (layout : ack.layoutVersion = 1)
    (flags : ack.flags = 0) (room : ¬ ack.agreedPacketSize ≤ 32) :
    acceptAck fd (helloAckPacket statusOk ack) = .ok (sessionOf fd .client ack) := by
  have length : (helloAckPacket statusOk ack).length = 80 := by
    rw [helloAckPacket_eq, List.length_append, Header.length_image, HelloAck.length_image]
  have payload : (readSlice (helloAckPacket statusOk ack) headerSize
      (helloAckPacket statusOk ack).length : Res HandshakeError Bytes) = .ok ack.image := by
    rw [readSlice_of_le (by rw [length, headerSize]; omega) (le_refl _), length, helloAckPacket_eq]
    exact congrArg _ (slice_last _ _ _ _ (Header.length_image _).symm ack.length_image.symm)
  rw [acceptAck, clientDecodeHeader, decode_helloAckPacket, mapError, ok_bind,
    guard_bind (by simp [controlHeader]),
    show checkAckStatus (controlHeader codeHelloAck statusOk helloAckSize).transportStatus =
      .ok () from rfl, ok_bind, guard_bind (by rw [length]; decide), payload, ok_bind,
    clientDecodeAck, HelloAck.decode_image ack layout flags, mapError, ok_bind,
    show (UInt32.ofNat headerSize) = 32 from rfl, rejectIf_of_not room]
  rfl

theorem selectProfile_spec (intersection clientPreferred serverPreferred : UInt32)
    (common : intersection ≠ 0) :
    IsHighestBit
      (if intersection &&& clientPreferred &&& serverPreferred ≠ 0 then
        intersection &&& clientPreferred &&& serverPreferred else intersection)
      (selectProfile intersection clientPreferred serverPreferred) := by
  unfold selectProfile
  dsimp only
  split
  · rename_i some
    exact highestBit_spec _ some
  · exact highestBit_spec _ common

/-- The highest bit of a subset of `set` lies in `set`. -/
theorem IsHighestBit.and_eq {mask bit set : UInt32} (highest : IsHighestBit mask bit)
    (inside : ∀ position, mask.toNat.testBit position = true →
      set.toNat.testBit position = true) : bit &&& set = bit := by
  obtain ⟨position, -, one, marked, -⟩ := highest
  refine UInt32.toNat_inj.mp ?_
  rw [UInt32.toNat_and, one]
  refine Nat.eq_of_testBit_eq fun index => ?_
  rw [Nat.testBit_and, Nat.testBit_two_pow]
  by_cases same : position = index
  · rw [← same, inside position marked, Bool.and_true]
  · rw [decide_eq_false same, Bool.false_and]

/-- The two sessions carry the same terms. -/
structure SameTerms (client server : Session) : Prop where
  maxRequestPayloadBytes : client.maxRequestPayloadBytes = server.maxRequestPayloadBytes
  maxResponsePayloadBytes : client.maxResponsePayloadBytes = server.maxResponsePayloadBytes
  maxRequestBatchItems : client.maxRequestBatchItems = server.maxRequestBatchItems
  maxResponseBatchItems : client.maxResponseBatchItems = server.maxResponseBatchItems
  packetSize : client.packetSize = server.packetSize
  selectedProfile : client.selectedProfile = server.selectedProfile
  sessionId : client.sessionId = server.sessionId

/-- The terms of a session are those the two configurations allow. -/
structure FairTerms (clientConfig : TransportClientConfig) (serverConfig : TransportServerConfig)
    (clientPkt serverPkt : UInt32) (session : Session) : Prop where
  packetSize : 32 < session.packetSize
  packetSizeClient : session.packetSize ≤ clientPkt
  packetSizeServer : session.packetSize ≤ serverPkt
  requestProposed : session.maxRequestPayloadBytes =
    applyDefault clientConfig.maxRequestPayloadBytes maxPayloadDefault
  requestAllowed : session.maxRequestPayloadBytes ≤
    applyDefault serverConfig.maxRequestPayloadBytes maxPayloadDefault
  batchItems : session.maxResponseBatchItems = session.maxRequestBatchItems
  clientSupports : session.selectedProfile &&& profilesOf clientConfig.supportedProfiles =
    session.selectedProfile
  serverSupports : session.selectedProfile &&& profilesOf serverConfig.supportedProfiles =
    session.selectedProfile
  highest :
    let intersection :=
      profilesOf clientConfig.supportedProfiles &&& profilesOf serverConfig.supportedProfiles
    let preferred := intersection &&& clientConfig.preferredProfiles &&&
      serverConfig.preferredProfiles
    IsHighestBit (if preferred ≠ 0 then preferred else intersection) session.selectedProfile

/-- The terms of the acknowledgement to a client's HELLO. -/
theorem fairTerms_of_negotiate {clientConfig : TransportClientConfig}
    {serverConfig : TransportServerConfig} {clientPkt serverPkt : UInt32} {ack : HelloAck}
    (fd : Int) (role : Role)
    (decided : negotiate serverConfig serverPkt sessionId (clientHello clientConfig clientPkt) = .ok
      ack) :
    FairTerms clientConfig serverConfig clientPkt serverPkt (sessionOf fd role ack) := by
  obtain ⟨common, allowed, room, rfl⟩ := negotiate_eq_ok decided
  have highest := selectProfile_spec _ clientConfig.preferredProfiles
    serverConfig.preferredProfiles common
  have inside (position : Nat) (marked : (if (profilesOf clientConfig.supportedProfiles &&&
      profilesOf serverConfig.supportedProfiles) &&& clientConfig.preferredProfiles &&&
        serverConfig.preferredProfiles ≠ 0 then
      (profilesOf clientConfig.supportedProfiles &&& profilesOf serverConfig.supportedProfiles) &&&
        clientConfig.preferredProfiles &&& serverConfig.preferredProfiles
      else profilesOf clientConfig.supportedProfiles &&&
        profilesOf serverConfig.supportedProfiles).toNat.testBit position = true) :
      (profilesOf clientConfig.supportedProfiles).toNat.testBit position = true ∧
        (profilesOf serverConfig.supportedProfiles).toNat.testBit position = true := by
    split at marked
    · simp only [UInt32.toNat_and, Nat.testBit_and, Bool.and_eq_true] at marked
      exact marked.1.1
    · simpa only [UInt32.toNat_and, Nat.testBit_and, Bool.and_eq_true] using marked
  refine ⟨UInt32.not_le.mp room, ?_, ?_, rfl, allowed, rfl,
    highest.and_eq fun position marked => (inside position marked).1,
    highest.and_eq fun position marked => (inside position marked).2, highest⟩
  · show min clientPkt serverPkt ≤ clientPkt
    rw [UInt32.le_iff_toNat_le, UInt32.toNat_min]
    exact Nat.min_le_left _ _
  · show min clientPkt serverPkt ≤ serverPkt
    rw [UInt32.le_iff_toNat_le, UInt32.toNat_min]
    exact Nat.min_le_right _ _

/-- The C and Go servers decide as the Rust server does; and when both sides succeed on one
connection, their sessions agree and are fair to both configurations. -/
theorem handshake_agrees (client : Socket σ) (server : Socket τ) (clientFd serverFd : Int)
    (clientConfig : TransportClientConfig) (serverConfig : TransportServerConfig)
    (sessionId : UInt64) (clientState : σ) (serverState : τ) :
    (∀ config pktSize id hello,
      negotiateC config pktSize id hello = ackFields (negotiate config pktSize id hello) ∧
      negotiateGo config pktSize id hello = ackFields (negotiate config pktSize id hello)) ∧
    ∀ clientEnd serverEnd clientSession serverSession,
      (connectAndHandshake client clientFd clientConfig).run ⟨clientState, []⟩ =
        (.ok clientSession, clientEnd) →
      (serverHandshake server serverFd serverConfig sessionId).run ⟨serverState, []⟩ =
        (.ok serverSession, serverEnd) →
      receivedPackets serverEnd.trace = sentPackets clientEnd.trace →
      receivedPackets clientEnd.trace = sentPackets serverEnd.trace →
      SameTerms clientSession serverSession ∧
        FairTerms clientConfig serverConfig (clientPktSize client clientConfig clientState)
          (serverPktSize server serverConfig serverState) clientSession ∧
        clientSession.sessionId = sessionId := by
  refine ⟨fun config pktSize id hello => ⟨negotiateC_eq config pktSize id hello,
    negotiateGo_eq config pktSize id hello⟩, ?_⟩
  intro clientEnd serverEnd clientSession serverSession clientRan serverRan helloDelivered
    ackDelivered
  obtain ⟨heard, hello, ack, serverTrace, decoded, decided, rfl⟩ := serverHandshake_eq_ok serverRan
  obtain ⟨answered, clientTrace, accepted⟩ := connectAndHandshake_eq_ok clientRan
  rw [serverTrace, clientTrace] at helloDelivered ackDelivered
  obtain rfl : heard = helloPacket (clientHello clientConfig
    (clientPktSize client clientConfig clientState)) := (List.cons.inj helloDelivered).1
  obtain rfl : answered = helloAckPacket statusOk ack := (List.cons.inj ackDelivered).1
  -- The HELLO the server decoded is the client's.
  have payload : slice (helloPacket (clientHello clientConfig
      (clientPktSize client clientConfig clientState))) 32
      ((helloPacket (clientHello clientConfig
        (clientPktSize client clientConfig clientState))).length - 32) =
      (clientHello clientConfig (clientPktSize client clientConfig clientState)).image := by
    rw [helloPacket_eq]
    refine slice_last _ _ _ _ (Header.length_image _).symm ?_
    rw [List.length_append, Header.length_image, Nat.add_sub_cancel_left]
  rw [payload, Hello.decode_image _ rfl] at decoded
  obtain rfl := Except.ok.inj decoded
  obtain ⟨-, -, room, terms⟩ := negotiate_eq_ok decided
  rw [acceptAck_helloAckPacket clientFd ack (by rw [terms]) (by rw [terms])
    (by rw [terms]; exact room)] at accepted
  obtain rfl := Except.ok.inj accepted
  refine ⟨⟨rfl, rfl, rfl, rfl, rfl, rfl, rfl⟩, fairTerms_of_negotiate clientFd .client decided, ?_⟩
  rw [terms]
  rfl

/-- A client and a server of the baseline profile whose packets reach each other. -/
theorem handshake_agrees_baseline :
    let clientConfig : TransportClientConfig := ⟨1, 0, 1024, 1, 1024, 1, 0, 4096⟩
    let serverConfig : TransportServerConfig := ⟨1, 0, 4096, 2048, 0, 8192⟩
    let ack : HelloAck := ⟨1, 0, 1, 1, 1, 1024, 1, 2048, 1, 4096, 7⟩
    let client := waitingSocket (helloAckPacket statusOk ack)
    let server := waitingSocket (helloPacket (clientHello clientConfig 4096))
    SameTerms (sessionOf 3 .client ack) (sessionOf 4 .server ack) ∧
      FairTerms clientConfig serverConfig (clientPktSize client clientConfig ())
        (serverPktSize server serverConfig ()) (sessionOf 3 .client ack) := by
  intro clientConfig serverConfig ack client server
  have agreed := (handshake_agrees client server 3 4 clientConfig serverConfig 7 () ()).2 _ _ _ _
    (Prog.run_of_fst (show ((connectAndHandshake client 3 clientConfig).run ⟨(), []⟩).1 =
      .ok (sessionOf 3 .client ack) by decide +kernel))
    (Prog.run_of_fst (show ((serverHandshake server 4 serverConfig 7).run ⟨(), []⟩).1 =
      .ok (sessionOf 4 .server ack) by decide +kernel))
    (by decide +kernel) (by decide +kernel)
  exact ⟨agreed.1, agreed.2.1⟩

end NetIpc.Handshake
