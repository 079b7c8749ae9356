/-
This file models the handshake of a Unix socket connection (`protocol/mod.rs` for
the HELLO and HELLO_ACK payloads, `transport/posix.rs` for the two sides).

Each side talks to the outside through a socket: it can ask for the send buffer
size, send one packet and receive one packet, and every answer is the
environment's. The server's decision about a decoded HELLO is `negotiate`; around
it stand the decoders, which turn some malformed packets into a rejection and
others into silence. `matrixStatus` is the negotiation matrix of the wire
document, and the server follows it exactly for the packets that `FollowedFor`
describes.
-/

import NetIpc.Uds

namespace NetIpc

/-! ### Payloads -/

def codeHello : UInt16 := 1
def codeHelloAck : UInt16 := 2

def profileBaseline : UInt32 := 0x01
def profileShmHybrid : UInt32 := 0x02
def profileShmFutex : UInt32 := 0x04

def helloSize : Nat := 44
def helloAckSize : Nat := 48

/-- `Hello`. -/
structure Hello where
  layoutVersion : UInt16 := 0
  flags : UInt16 := 0
  supportedProfiles : UInt32 := 0
  preferredProfiles : UInt32 := 0
  maxRequestPayloadBytes : UInt32 := 0
  maxRequestBatchItems : UInt32 := 0
  maxResponsePayloadBytes : UInt32 := 0
  maxResponseBatchItems : UInt32 := 0
  authToken : UInt64 := 0
  packetSize : UInt32 := 0
  deriving Repr, DecidableEq

namespace Hello

/-- `Hello::encode`. -/
def encode (hello : Hello) : Prog NipcError Bytes Nat := do
  let buf ← Prog.get
  if buf.length < helloSize then
    return 0
  else
    putU16 0 hello.layoutVersion
    putU16 2 hello.flags
    putU32 4 hello.supportedProfiles
    putU32 8 hello.preferredProfiles
    putU32 12 hello.maxRequestPayloadBytes
    putU32 16 hello.maxRequestBatchItems
    putU32 20 hello.maxResponsePayloadBytes
    putU32 24 hello.maxResponseBatchItems
    putU32 28 0
    putU64 32 hello.authToken
    putU32 40 hello.packetSize
    return helloSize

/-- `Hello::decode`. -/
def decode (buf : Bytes) : Res NipcError Hello := do
  rejectIf (buf.length < helloSize) .truncated
  let hello : Hello := {
    layoutVersion := ← u16At buf 0
    flags := ← u16At buf 2
    supportedProfiles := ← u32At buf 4
    preferredProfiles := ← u32At buf 8
    maxRequestPayloadBytes := ← u32At buf 12
    maxRequestBatchItems := ← u32At buf 16
    maxResponsePayloadBytes := ← u32At buf 20
    maxResponseBatchItems := ← u32At buf 24
    authToken := ← u64At buf 32
    packetSize := ← u32At buf 40 }
  rejectIf (hello.layoutVersion ≠ 1) .badLayout
  let padding ← u32At buf 28
  rejectIf (padding ≠ 0) .badLayout
  return hello

/-- The bytes of a HELLO payload. -/
def image (hello : Hello) : Bytes :=
  leBytes 2 hello.layoutVersion.toNat ++ leBytes 2 hello.flags.toNat ++
    leBytes 4 hello.supportedProfiles.toNat ++ leBytes 4 hello.preferredProfiles.toNat ++
    leBytes 4 hello.maxRequestPayloadBytes.toNat ++ leBytes 4 hello.maxRequestBatchItems.toNat ++
    leBytes 4 hello.maxResponsePayloadBytes.toNat ++ leBytes 4 hello.maxResponseBatchItems.toNat ++
    leBytes 4 0 ++ leBytes 8 hello.authToken.toNat ++ leBytes 4 hello.packetSize.toNat

variable (hello : Hello)

@[simp] theorem length_image : hello.image.length = 44 := by
  simp [image]

theorem run_encode (buf : Bytes) (room : 44 ≤ buf.length) :
    hello.encode.run buf = (.ok helloSize, hello.image ++ buf.drop 44) := by
  unfold encode
  rw [Prog.run_bind_ok (Prog.run_get buf), if_neg (by rw [helloSize]; omega)]
  rw [show buf = [] ++ buf from rfl]
  simp (disch := simp <;> omega) only [putU16, putU32, putU64, run_bind_write]
  simp [image, List.drop_drop]

/-- The fields a payload of 44 bytes carries, whatever they are. -/
def fields (payload : Bytes) : Hello where
  layoutVersion := UInt16.ofNat (leNat (slice payload 0 2))
  flags := UInt16.ofNat (leNat (slice payload 2 2))
  supportedProfiles := UInt32.ofNat (leNat (slice payload 4 4))
  preferredProfiles := UInt32.ofNat (leNat (slice payload 8 4))
  maxRequestPayloadBytes := UInt32.ofNat (leNat (slice payload 12 4))
  maxRequestBatchItems := UInt32.ofNat (leNat (slice payload 16 4))
  maxResponsePayloadBytes := UInt32.ofNat (leNat (slice payload 20 4))
  maxResponseBatchItems := UInt32.ofNat (leNat (slice payload 24 4))
  authToken := UInt64.ofNat (leNat (slice payload 32 8))
  packetSize := UInt32.ofNat (leNat (slice payload 40 4))

/-- The padding word of a payload. -/
def padding (payload : Bytes) : UInt32 := UInt32.ofNat (leNat (slice payload 28 4))

/-- What decoding a payload of the right size comes to. -/
theorem decode_eq (payload : Bytes) (size : 44 ≤ payload.length) :
    decode payload =
      if (fields payload).layoutVersion ≠ 1 then .error (.err .badLayout)
      else if padding payload ≠ 0 then .error (.err .badLayout)
      else .ok (fields payload) := by
  unfold decode
  rw [rejectIf_of_not (by rw [helloSize]; omega), u16At_of_le (by omega), u16At_of_le (by omega),
    u32At_of_le (by omega), u32At_of_le (by omega), u32At_of_le (by omega),
    u32At_of_le (by omega), u32At_of_le (by omega), u32At_of_le (by omega),
    u64At_of_le (by omega), u32At_of_le (by omega), u32At_of_le (by omega)]
  simp only [ok_bind]
  show (do
    rejectIf ((fields payload).layoutVersion ≠ 1) .badLayout
    rejectIf (padding payload ≠ 0) .badLayout
    return fields payload : Res NipcError Hello) = _
  by_cases layout : (fields payload).layoutVersion ≠ 1
  · rw [if_pos layout, rejectIf_of layout]
    rfl
  rw [if_neg layout, guard_bind layout]
  by_cases clean : padding payload ≠ 0
  · rw [if_pos clean, rejectIf_of clean]
    rfl
  rw [if_neg clean, rejectIf_of_not clean]
  rfl

theorem fields_image : fields hello.image = hello := by
  simp (disch := omega) only [fields, image, List.append_assoc, slice_leBytes_skip,
    slice_leBytes_take, slice_leBytes, Nat.sub_self, Nat.reduceSub, u16_leBytes, u32_leBytes,
    u64_leBytes]

/-- Decoding gets a HELLO of the right layout back. -/
theorem decode_image (layout : hello.layoutVersion = 1) : decode hello.image = .ok hello := by
  have clean : padding hello.image = 0 := by
    simp (disch := omega) only [padding, image, List.append_assoc, slice_leBytes_skip,
      slice_leBytes_take, Nat.reduceSub, u32_ofNat_leBytes]
    rfl
  rw [decode_eq _ (by rw [length_image]), fields_image, if_neg (not_not_intro layout),
    if_neg (not_not_intro clean)]

end Hello

/-- `HelloAck`. -/
structure HelloAck where
  layoutVersion : UInt16 := 0
  flags : UInt16 := 0
  serverSupportedProfiles : UInt32 := 0
  intersectionProfiles : UInt32 := 0
  selectedProfile : UInt32 := 0
  agreedMaxRequestPayloadBytes : UInt32 := 0
  agreedMaxRequestBatchItems : UInt32 := 0
  agreedMaxResponsePayloadBytes : UInt32 := 0
  agreedMaxResponseBatchItems : UInt32 := 0
  agreedPacketSize : UInt32 := 0
  sessionId : UInt64 := 0
  deriving Repr, DecidableEq

namespace HelloAck

/-- `HelloAck::encode`. -/
def encode (ack : HelloAck) : Prog NipcError Bytes Nat := do
  let buf ← Prog.get
  if buf.length < helloAckSize then
    return 0
  else
    putU16 0 ack.layoutVersion
    putU16 2 ack.flags
    putU32 4 ack.serverSupportedProfiles
    putU32 8 ack.intersectionProfiles
    putU32 12 ack.selectedProfile
    putU32 16 ack.agreedMaxRequestPayloadBytes
    putU32 20 ack.agreedMaxRequestBatchItems
    putU32 24 ack.agreedMaxResponsePayloadBytes
    putU32 28 ack.agreedMaxResponseBatchItems
    putU32 32 ack.agreedPacketSize
    putU32 36 0
    putU64 40 ack.sessionId
    return helloAckSize

/-- `HelloAck::decode`. -/
def decode (buf : Bytes) : Res NipcError HelloAck := do
  rejectIf (buf.length < helloAckSize) .truncated
  let ack : HelloAck := {
    layoutVersion := ← u16At buf 0
    flags := ← u16At buf 2
    serverSupportedProfiles := ← u32At buf 4
    intersectionProfiles := ← u32At buf 8
    selectedProfile := ← u32At buf 12
    agreedMaxRequestPayloadBytes := ← u32At buf 16
    agreedMaxRequestBatchItems := ← u32At buf 20
    agreedMaxResponsePayloadBytes := ← u32At buf 24
    agreedMaxResponseBatchItems := ← u32At buf 28
    agreedPacketSize := ← u32At buf 32
    sessionId := ← u64At buf 40 }
  rejectIf (ack.layoutVersion ≠ 1) .badLayout
  rejectIf (ack.flags ≠ 0) .badLayout
  return ack

/-- The bytes of a HELLO_ACK payload. -/
def image (ack : HelloAck) : Bytes :=
  leBytes 2 ack.layoutVersion.toNat ++ leBytes 2 ack.flags.toNat ++
    leBytes 4 ack.serverSupportedProfiles.toNat ++ leBytes 4 ack.intersectionProfiles.toNat ++
    leBytes 4 ack.selectedProfile.toNat ++ leBytes 4 ack.agreedMaxRequestPayloadBytes.toNat ++
    leBytes 4 ack.agreedMaxRequestBatchItems.toNat ++
    leBytes 4 ack.agreedMaxResponsePayloadBytes.toNat ++
    leBytes 4 ack.agreedMaxResponseBatchItems.toNat ++ leBytes 4 ack.agreedPacketSize.toNat ++
    leBytes 4 0 ++ leBytes 8 ack.sessionId.toNat

@[simp] theorem length_image (ack : HelloAck) : ack.image.length = 48 := by
  simp [image]

theorem run_encode (ack : HelloAck) (buf : Bytes) (room : 48 ≤ buf.length) :
    ack.encode.run buf = (.ok helloAckSize, ack.image ++ buf.drop 48) := by
  unfold encode
  rw [Prog.run_bind_ok (Prog.run_get buf), if_neg (by rw [helloAckSize]; omega)]
  rw [show buf = [] ++ buf from rfl]
  simp (disch := simp <;> omega) only [putU16, putU32, putU64, run_bind_write]
  simp [image, List.drop_drop]

/-- Decoding gets an acknowledgement of the right layout back. -/
theorem decode_image (ack : HelloAck) (layout : ack.layoutVersion = 1) (flags : ack.flags = 0) :
    decode ack.image = .ok ack := by
  have size := ack.length_image
  unfold decode
  rw [rejectIf_of_not (by rw [helloAckSize]; omega), u16At_of_le (by omega), u16At_of_le (by omega),
    u32At_of_le (by omega), u32At_of_le (by omega), u32At_of_le (by omega), u32At_of_le (by omega),
    u32At_of_le (by omega), u32At_of_le (by omega), u32At_of_le (by omega), u32At_of_le (by omega),
    u64At_of_le (by omega)]
  simp (disch := omega) only [image, List.append_assoc, slice_leBytes_skip, slice_leBytes_take,
    slice_leBytes, Nat.sub_self, Nat.reduceSub, u16_leBytes, u32_leBytes, u64_leBytes, ok_bind]
  rw [rejectIf_of_not (not_not_intro layout), rejectIf_of_not (not_not_intro flags)]
  rfl

end HelloAck

/-! ### The environment of a handshake -/

/-- The system calls of a handshake: `connect` answers with zero or an error number, `getsockopt`
with its result and the size of the send buffer, `send` with its result and the error number, and
`recv` gets the size of the buffer. -/
structure Socket (σ : Type) where
  connect : σ → Int × σ
  getsockopt : σ → (Int × Int) × σ
  send : Bytes → σ → (Int × Int) × σ
  recv : Nat → σ → Received × σ

/-- The members of `UdsError` that a handshake returns. -/
inductive HandshakeError where
  | connect (errno : Int)
  | send (errno : Int)
  | recv (errno : Int)
  | handshake (text : String)
  | authFailed
  | noProfile
  | incompatible (text : String)
  | protocol (text : String)
  | limitExceeded
  deriving Repr, DecidableEq

/-- The state of the environment, and what the side saw. -/
structure Wire (σ : Type) where
  os : σ
  trace : List Event

/-- A program of one side. -/
abbrev HandshakeProg (σ α : Type) := Prog HandshakeError (Wire σ) α

/-- `UdsSession` as the handshake makes it, with the two fields sending and receiving do not
read. -/
structure Session extends UdsSession where
  selectedProfile : UInt32
  sessionId : UInt64
  deriving DecidableEq

/-- `ClientConfig` of the transport. -/
structure TransportClientConfig where
  supportedProfiles : UInt32
  preferredProfiles : UInt32
  maxRequestPayloadBytes : UInt32
  maxRequestBatchItems : UInt32
  maxResponsePayloadBytes : UInt32
  maxResponseBatchItems : UInt32
  authToken : UInt64
  packetSize : UInt32
  deriving Repr, DecidableEq

/-- `ServerConfig` of the transport, without the listen backlog and without the two batch limits,
which the handshake does not read. -/
structure TransportServerConfig where
  supportedProfiles : UInt32
  preferredProfiles : UInt32
  maxRequestPayloadBytes : UInt32
  maxResponsePayloadBytes : UInt32
  authToken : UInt64
  packetSize : UInt32
  deriving Repr, DecidableEq

namespace Handshake

variable {σ α : Type}

/-- One system call that leaves an event in the trace. -/
def traced (step : σ → α × σ) (event : α → Event) : HandshakeProg σ α := fun wire =>
  let (answer, os) := step wire.os
  (.ok answer, { os, trace := wire.trace ++ [event answer] })

/-- One system call that leaves no event. -/
def silent (step : σ → α × σ) : HandshakeProg σ α := fun wire =>
  let (answer, os) := step wire.os
  (.ok answer, { wire with os })

/-- `raw_send`. -/
def rawSend (socket : Socket σ) (data : Bytes) : HandshakeProg σ Unit := do
  let (n, errno) ← traced (socket.send data) fun _ => .sent data
  if n < 0 ∨ n.toNat ≠ data.length then Prog.fail (.send errno) else pure ()

/-- `raw_recv` into a buffer of `size` bytes; the value is the part of the buffer received. -/
def rawRecv (socket : Socket σ) (size : Nat) : HandshakeProg σ Bytes := do
  match ← traced (fun state => (socket.recv size state).map (Received.cut size) id) .received with
  | .failed errno => Prog.fail (.recv errno)
  | .data packet => if packet.length = 0 then Prog.fail (.recv 0) else return packet

def defaultPacketSizeFallback : UInt32 := 65536
def defaultBatchItems : UInt32 := 1

/-- The packet size that an answer of `getsockopt` stands for. -/
def detectedSize (answer : Int × Int) : UInt32 :=
  if answer.1 < 0 ∨ answer.2 ≤ 0 then defaultPacketSizeFallback else UInt32.ofNat answer.2.toNat

/-- `detect_packet_size`. -/
def detectPacketSize (socket : Socket σ) : HandshakeProg σ UInt32 := do
  return detectedSize (← silent socket.getsockopt)

/-- The packet size a side offers: the configured one, or the detected one. -/
def offeredPacketSize (socket : Socket σ) (configured : UInt32) : HandshakeProg σ UInt32 :=
  if configured = 0 then detectPacketSize socket else pure configured

/-- `apply_default`. -/
def applyDefault (val default : UInt32) : UInt32 := if val = 0 then default else val

/-- `u32::leading_zeros`. -/
def leadingZeros (mask : UInt32) : UInt32 :=
  if mask = 0 then 32 else 31 - UInt32.ofNat (Nat.log2 mask.toNat)

/-- `highest_bit`. -/
def highestBit (mask : UInt32) : UInt32 :=
  if mask = 0 then 0 else 1 <<< (31 - leadingZeros mask)

/-- `header_version_incompatible`. -/
def headerVersionIncompatible (buf : Bytes) (expectedCode : UInt16) : Res NipcError Bool := do
  if buf.length < headerSize then return false
  else
    let magic ← u32At buf 0
    let version ← u16At buf 4
    let headerLen ← u16At buf 6
    let kind ← u16At buf 8
    let code ← u16At buf 12
    return magic = magicMsg ∧ version ≠ NetIpc.version ∧ headerLen = NetIpc.headerLen ∧
      kind = kindControl ∧ code = expectedCode

/-- `hello_layout_incompatible` and `hello_ack_layout_incompatible`. -/
def layoutIncompatible (buf : Bytes) : Res NipcError Bool := do
  if buf.length ≥ 2 then
    let layout ← u16At buf 0
    return layout ≠ 1
  else return false

/-- The header of a CONTROL message of the handshake. -/
def controlHeader (code status : UInt16) (payloadLen : Nat) : Header where
  magic := magicMsg
  version := NetIpc.version
  headerLen := NetIpc.headerLen
  kind := kindControl
  flags := 0
  code := code
  transportStatus := status
  payloadLen := UInt32.ofNat payloadLen
  itemCount := 1
  messageId := 0

/-- A HELLO packet: the header and the payload, each encoded into a zeroed buffer. -/
def helloPacket (hello : Hello) : Bytes :=
  Uds.encodeHeader (controlHeader codeHello statusOk helloSize) ++
    (hello.encode.run (zeros helloSize)).2

/-- A HELLO_ACK packet. -/
def helloAckPacket (status : UInt16) (ack : HelloAck) : Bytes :=
  Uds.encodeHeader (controlHeader codeHelloAck status helloAckSize) ++
    (ack.encode.run (zeros helloAckSize)).2

/-! ### The server -/

/-- `send_rejection`; whether the packet could be sent makes no difference. -/
def sendRejection (socket : Socket σ) (status : UInt16) : HandshakeProg σ Unit :=
  Prog.inspect (rawSend socket (helloAckPacket status { layoutVersion := 1 })) fun _ => pure ()

/-- Reject the client with a status, then return the error. -/
def reject (socket : Socket σ) (status : UInt16) (error : HandshakeError) : HandshakeProg σ α := do
  sendRejection socket status
  Prog.fail error

/-- The profiles a configuration stands for: zero means the baseline. -/
def profilesOf (configured : UInt32) : UInt32 :=
  if configured = 0 then profileBaseline else configured

/-- The selection of `server_handshake`. -/
def selectProfile (intersection clientPreferred serverPreferred : UInt32) : UInt32 :=
  let preferredIntersection := intersection &&& clientPreferred &&& serverPreferred
  if preferredIntersection ≠ 0 then highestBit preferredIntersection else highestBit intersection

/-- What `server_handshake` decides about a decoded HELLO: an acknowledgement, or the status of a
rejection and the error it returns. -/
def negotiate (config : TransportServerConfig) (serverPktSize : UInt32) (sessionId : UInt64)
    (hello : Hello) : Except (UInt16 × HandshakeError) HelloAck :=
  let sReqPay := applyDefault config.maxRequestPayloadBytes maxPayloadDefault
  let sRespPay := applyDefault config.maxResponsePayloadBytes maxPayloadDefault
  let sProfiles := profilesOf config.supportedProfiles
  let intersection := hello.supportedProfiles &&& sProfiles
  if intersection = 0 then .error (statusUnsupported, .noProfile)
  else if hello.authToken ≠ config.authToken then .error (statusAuthFailed, .authFailed)
  else
    let selected := selectProfile intersection hello.preferredProfiles config.preferredProfiles
    if hello.maxRequestPayloadBytes > sReqPay then .error (statusLimitExceeded, .limitExceeded)
    else
      let agreedPkt := min hello.packetSize serverPktSize
      if agreedPkt ≤ UInt32.ofNat headerSize then
        .error (statusIncompatible, .incompatible "packet size too small for negotiated session")
      else .ok {
        layoutVersion := 1
        flags := 0
        serverSupportedProfiles := sProfiles
        intersectionProfiles := intersection
        selectedProfile := selected
        agreedMaxRequestPayloadBytes := hello.maxRequestPayloadBytes
        agreedMaxRequestBatchItems := hello.maxRequestBatchItems
        agreedMaxResponsePayloadBytes := sRespPay
        agreedMaxResponseBatchItems := hello.maxRequestBatchItems
        agreedPacketSize := agreedPkt
        sessionId := sessionId }

/-- The session a side makes of an acknowledgement. -/
def sessionOf (fd : Int) (role : Role) (ack : HelloAck) : Session where
  fd := fd
  role := role
  maxRequestPayloadBytes := ack.agreedMaxRequestPayloadBytes
  maxRequestBatchItems := ack.agreedMaxRequestBatchItems
  maxResponsePayloadBytes := ack.agreedMaxResponsePayloadBytes
  maxResponseBatchItems := ack.agreedMaxResponseBatchItems
  packetSize := ack.agreedPacketSize
  recvBuf := []
  pktBuf := []
  inflightIds := ∅
  selectedProfile := ack.selectedProfile
  sessionId := ack.sessionId

/-- The end of `server_handshake`: carry out what was decided about the HELLO. -/
def answer (socket : Socket σ) (fd : Int) :
    Except (UInt16 × HandshakeError) HelloAck → HandshakeProg σ Session
  | .error (status, error) => reject socket status error
  | .ok ack => do
    rawSend socket (helloAckPacket statusOk ack)
    return sessionOf fd .server ack

/-- The decoder of the HELLO payload in `server_handshake`. -/
def serverDecodeHello (socket : Socket σ) (payload : Bytes) : HandshakeProg σ Hello :=
  match Hello.decode payload with
  | .ok hello => pure hello
  | .error (.err error) => do
    if error = .badLayout ∧ (layoutIncompatible payload).toOption = some true then
      reject socket statusIncompatible (.incompatible "hello payload layout version mismatch")
    else Prog.fail (.protocol ("hello payload: " ++ error.display))
  | .error .panic => Prog.stop .panic
  | .error .fuel => Prog.stop .fuel

/-- The decoder of the header in `server_handshake`. -/
def serverDecodeHeader (socket : Socket σ) (packet : Bytes) : HandshakeProg σ Header :=
  match Header.decode packet with
  | .ok hdr => pure hdr
  | .error (.err error) => do
    if error = .badVersion ∧ (headerVersionIncompatible packet codeHello).toOption = some true then
      reject socket statusIncompatible (.incompatible "hello header version mismatch")
    else Prog.fail (.protocol ("hello header: " ++ error.display))
  | .error .panic => Prog.stop .panic
  | .error .fuel => Prog.stop .fuel

/-- `server_handshake`. -/
def serverHandshake (socket : Socket σ) (fd : Int) (config : TransportServerConfig)
    (sessionId : UInt64) : HandshakeProg σ Session := do
  let serverPktSize ← offeredPacketSize socket config.packetSize
  let packet ← rawRecv socket 128
  let hdr ← serverDecodeHeader socket packet
  Prog.ofRes (rejectIf (hdr.kind ≠ kindControl ∨ hdr.code ≠ codeHello)
    (.protocol "expected HELLO"))
  let payload ← Prog.ofRes (readSlice packet headerSize packet.length)
  let hello ← serverDecodeHello socket payload
  answer socket fd (negotiate config serverPktSize sessionId hello)

/-! ### What the server does with a HELLO packet -/

/-- The packets a side sent. -/
def sentPackets (trace : List Event) : List Bytes :=
  trace.filterMap fun
    | .sent packet => some packet
    | _ => none

/-- The socket delivers `packet` and takes every packet whole. -/
structure Carries (socket : Socket σ) (packet : Bytes) : Prop where
  recv : ∀ size state, (socket.recv size state).1 = .data packet
  send : ∀ data state, (socket.send data state).1.1 = data.length

/-- A CONTROL/HELLO envelope with a payload of 44 bytes. -/
structure IsHelloPacket (hdr : Header) (payload : Bytes) : Prop where
  wellFormed : hdr.WellFormed
  kind : hdr.kind = kindControl
  code : hdr.code = codeHello
  payloadLen : hdr.payloadLen = 44
  length : payload.length = 44

theorem helloAckPacket_eq (status : UInt16) (ack : HelloAck) :
    helloAckPacket status ack = (controlHeader codeHelloAck status helloAckSize).image ++
      ack.image := by
  rw [helloAckPacket, Uds.encodeHeader_eq,
    HelloAck.run_encode _ _ (by rw [length_zeros, helloAckSize])]
  simp [helloAckSize, zeros]

theorem helloPacket_eq (hello : Hello) :
    helloPacket hello = (controlHeader codeHello statusOk helloSize).image ++ hello.image := by
  rw [helloPacket, Uds.encodeHeader_eq, Hello.run_encode _ _ (by rw [length_zeros, helloSize])]
  simp [helloSize, zeros]

theorem controlHeader_wellFormed (code status : UInt16) (payloadLen : Nat) :
    (controlHeader code status payloadLen).WellFormed :=
  ⟨rfl, rfl, rfl, (by decide : kindRequest ≤ kindControl), UInt16.le_refl kindControl⟩

theorem run_traced (step : σ → α × σ) (event : α → Event) (wire : Wire σ) :
    (traced step event).run wire = (.ok (step wire.os).1,
      ⟨(step wire.os).2, wire.trace ++ [event (step wire.os).1]⟩) := rfl

theorem run_silent (step : σ → α × σ) (wire : Wire σ) :
    (silent step).run wire = (.ok (step wire.os).1, ⟨(step wire.os).2, wire.trace⟩) := rfl

/-- The packet size a server offers, asking the socket only when none is configured. -/
theorem run_offeredPacketSize (socket : Socket σ) (configured : UInt32) (wire : Wire σ) :
    ∃ os, (offeredPacketSize socket configured).run wire =
      (.ok (if configured = 0 then detectedSize (socket.getsockopt wire.os).1 else configured),
        ⟨os, wire.trace⟩) := by
  unfold offeredPacketSize
  split
  · exact ⟨_, rfl⟩
  · exact ⟨_, rfl⟩

section Carried

variable {socket : Socket σ} {packet : Bytes} (carries : Carries socket packet)

include carries

theorem run_rawRecv (size : Nat) (wire : Wire σ) (whole : packet.length ≤ size)
    (some : packet.length ≠ 0) :
    ∃ os, (rawRecv socket size).run wire =
      (.ok packet, ⟨os, wire.trace ++ [.received (.data packet)]⟩) := by
  have arrived : Received.cut size (socket.recv size wire.os).1 = .data packet := by
    rw [carries.recv, Received.cut, List.take_of_length_le whole]
  refine ⟨(socket.recv size wire.os).2, ?_⟩
  unfold rawRecv
  rw [Prog.run_bind_ok (run_traced _ _ wire)]
  simp only [Prod.map, arrived, if_neg some]
  rfl

theorem run_rawSend (data : Bytes) (wire : Wire σ) :
    ∃ os, (rawSend socket data).run wire = (.ok (), ⟨os, wire.trace ++ [.sent data]⟩) := by
  have whole := carries.send data wire.os
  refine ⟨(socket.send data wire.os).2, ?_⟩
  unfold rawSend
  rw [Prog.run_bind_ok (run_traced _ _ wire)]
  simp only [whole]
  rw [if_neg (by omega)]
  rfl

theorem run_reject (status : UInt16) (error : HandshakeError) (wire : Wire σ) :
    ∃ os, (reject socket status error : HandshakeProg σ α).run wire =
      (.error (.err error),
        ⟨os, wire.trace ++ [.sent (helloAckPacket status { layoutVersion := 1 })]⟩) := by
  obtain ⟨os, sent⟩ := run_rawSend carries (helloAckPacket status { layoutVersion := 1 }) wire
  refine ⟨os, ?_⟩
  have ignored : (sendRejection socket status).run wire = (.ok (),
      ⟨os, wire.trace ++ [.sent (helloAckPacket status { layoutVersion := 1 })]⟩) := by
    rw [sendRejection, Prog.run_inspect, sent]
    rfl
  rw [reject, Prog.run_bind_ok ignored]
  rfl

/-- The end of the handshake: one HELLO_ACK in any case, and a session when it is positive. -/
theorem run_answer (fd : Int) (decision : Except (UInt16 × HandshakeError) HelloAck)
    (wire : Wire σ) :
    ∃ os, (answer socket fd decision).run wire =
      match decision with
      | .error (status, error) => (.error (.err error),
          ⟨os, wire.trace ++ [.sent (helloAckPacket status { layoutVersion := 1 })]⟩)
      | .ok ack => (.ok (sessionOf fd .server ack),
          ⟨os, wire.trace ++ [.sent (helloAckPacket statusOk ack)]⟩) := by
  match decision with
  | .error (status, error) => exact run_reject carries status error wire
  | .ok ack =>
    obtain ⟨os, sent⟩ := run_rawSend carries (helloAckPacket statusOk ack) wire
    exact ⟨os, Prog.run_bind_ok sent⟩

end Carried

section HelloPacket

variable {socket : Socket σ} {hdr : Header} {payload : Bytes}
  (carries : Carries socket (hdr.image ++ payload)) (isHello : IsHelloPacket hdr payload)

/-- The packet size the server offers in a state of the socket. -/
def serverPktSize (socket : Socket σ) (config : TransportServerConfig) (state : σ) : UInt32 :=
  if config.packetSize = 0 then detectedSize (socket.getsockopt state).1 else config.packetSize

include carries isHello

/-- A HELLO packet gets to the decoder of its payload. -/
theorem run_serverHandshake (fd : Int) (config : TransportServerConfig) (sessionId : UInt64)
    (state : σ) :
    ∃ os, (serverHandshake socket fd config sessionId).run ⟨state, []⟩ =
      (do
        let hello ← serverDecodeHello socket payload
        answer socket fd (negotiate config (serverPktSize socket config state) sessionId hello) :
        HandshakeProg σ Session).run ⟨os, [.received (.data (hdr.image ++ payload))]⟩ := by
  have length : (hdr.image ++ payload).length = 76 := by
    rw [List.length_append, Header.length_image, isHello.length]
  obtain ⟨asked, offered⟩ := run_offeredPacketSize socket config.packetSize ⟨state, []⟩
  obtain ⟨os, received⟩ := run_rawRecv carries 128 ⟨asked, []⟩ (by omega) (by omega)
  have decoded : (serverDecodeHeader socket (hdr.image ++ payload)) = pure hdr := by
    rw [serverDecodeHeader, Header.decode_image hdr payload isHello.wellFormed]
  have rest : (readSlice (hdr.image ++ payload) headerSize (hdr.image ++ payload).length :
      Res HandshakeError Bytes) = .ok payload := by
    rw [readSlice_of_le (by rw [headerSize]; omega) (le_refl _), headerSize, length]
    exact congrArg _ (slice_last _ _ _ _ (Header.length_image hdr).symm isHello.length.symm)
  refine ⟨os, ?_⟩
  unfold serverHandshake
  rw [Prog.run_bind_ok offered, Prog.run_bind_ok received, decoded, pure_bind,
    Prog.guard_bind (by simp [isHello.kind, isHello.code]), rest, Prog.ofRes_ok_bind]
  rfl

end HelloPacket

/-! ### The negotiation matrix -/

/-- The status the wire document asks for: the first check that fails, in its order. -/
def matrixStatus (config : TransportServerConfig) (serverPktSize : UInt32) (payload : Bytes) :
    UInt16 :=
  let hello := Hello.fields payload
  if hello.layoutVersion ≠ 1 then statusIncompatible
  else if hello.flags ≠ 0 ∨ Hello.padding payload ≠ 0 then statusBadEnvelope
  else if hello.authToken ≠ config.authToken then statusAuthFailed
  else if hello.supportedProfiles &&& profilesOf config.supportedProfiles = 0 then statusUnsupported
  else if hello.maxRequestPayloadBytes >
      applyDefault config.maxRequestPayloadBytes maxPayloadDefault
    then statusLimitExceeded
  else if min hello.packetSize serverPktSize ≤ 32 then statusIncompatible
  else statusOk

/-- The server sends exactly one HELLO_ACK, with the status of the matrix, and creates a session
exactly when that status is `OK`. -/
def FollowsMatrix (socket : Socket σ) (fd : Int) (config : TransportServerConfig)
    (sessionId : UInt64) (payload : Bytes) (state : σ) : Prop :=
  let ran := (serverHandshake socket fd config sessionId).run ⟨state, []⟩
  let status := matrixStatus config (serverPktSize socket config state) payload
  (∃ packet hdr, sentPackets ran.2.trace = [packet] ∧ Header.decode packet = .ok hdr ∧
    hdr.kind = kindControl ∧ hdr.code = codeHelloAck ∧ hdr.transportStatus = status) ∧
    ((∃ session, ran.1 = .ok session) ↔ status = statusOk)

/-- The payloads for which the server keeps to the matrix: another layout, or clean reserved
fields and not both a wrong token and no common profile. -/
def FollowedFor (config : TransportServerConfig) (payload : Bytes) : Prop :=
  (Hello.fields payload).layoutVersion ≠ 1 ∨
    ((Hello.fields payload).flags = 0 ∧ Hello.padding payload = 0 ∧
      ((Hello.fields payload).authToken = config.authToken ∨
        (Hello.fields payload).supportedProfiles &&& profilesOf config.supportedProfiles ≠ 0))

/-- The status of a decision. -/
def decisionStatus : Except (UInt16 × HandshakeError) HelloAck → UInt16
  | .error (status, _) => status
  | .ok _ => statusOk

variable (config : TransportServerConfig)

/-- The status the server decides on for a decoded HELLO, in the order of its own checks. -/
theorem decisionStatus_negotiate (pktSize : UInt32) (sessionId : UInt64) (hello : Hello) :
    decisionStatus (negotiate config pktSize sessionId hello) =
      if hello.supportedProfiles &&& profilesOf config.supportedProfiles = 0 then statusUnsupported
      else if hello.authToken ≠ config.authToken then statusAuthFailed
      else if hello.maxRequestPayloadBytes >
        applyDefault config.maxRequestPayloadBytes maxPayloadDefault then statusLimitExceeded
      else if min hello.packetSize pktSize ≤ 32 then statusIncompatible
      else statusOk := by
  unfold negotiate
  dsimp only
  rw [show UInt32.ofNat headerSize = 32 from rfl]
  split_ifs <;> rfl

/-- An `OK` decision is an acknowledgement. -/
theorem isOk_negotiate (pktSize : UInt32) (sessionId : UInt64) (hello : Hello) :
    (∃ ack, negotiate config pktSize sessionId hello = .ok ack) ↔
      decisionStatus (negotiate config pktSize sessionId hello) = statusOk := by
  unfold negotiate
  dsimp only
  repeat' split
  all_goals simp [decisionStatus, statusUnsupported, statusAuthFailed, statusLimitExceeded,
    statusIncompatible, statusOk]

/-- The header of a HELLO_ACK packet. -/
theorem decode_helloAckPacket (status : UInt16) (ack : HelloAck) :
    Header.decode (helloAckPacket status ack) =
      .ok (controlHeader codeHelloAck status helloAckSize) := by
  rw [helloAckPacket_eq]
  exact Header.decode_image _ _ (controlHeader_wellFormed _ _ _)

/-- A server that answered with one HELLO_ACK follows the matrix if the status is the right one. -/
theorem followsMatrix_of_sent {socket : Socket σ} {fd : Int} {config : TransportServerConfig}
    {sessionId : UInt64} {payload : Bytes} {state os : σ} {result : Res HandshakeError Session}
    {arrived : Received} {status : UInt16} {ack : HelloAck}
    (ran : (serverHandshake socket fd config sessionId).run ⟨state, []⟩ =
      (result, ⟨os, [.received arrived] ++ [.sent (helloAckPacket status ack)]⟩))
    (created : (∃ session, result = .ok session) ↔ status = statusOk) :
    FollowsMatrix socket fd config sessionId payload state ↔
      status = matrixStatus config (serverPktSize socket config state) payload := by
  unfold FollowsMatrix
  rw [ran]
  constructor
  · rintro ⟨⟨packet, hdr, sent, decoded, -, -, same⟩, -⟩
    obtain rfl : helloAckPacket status ack = packet := (List.cons.inj sent).1
    rw [decode_helloAckPacket] at decoded
    obtain rfl := Except.ok.inj decoded
    exact same
  · intro same
    exact ⟨⟨_, _, rfl, decode_helloAckPacket status ack, rfl, rfl, same⟩, same ▸ created⟩

/-- The server's own order of checks differs from the matrix in one case only. -/
theorem decisionStatus_eq_matrixStatus_iff (pktSize : UInt32) (sessionId : UInt64) (payload : Bytes)
    (layout : (Hello.fields payload).layoutVersion = 1) (clean : Hello.padding payload = 0) :
    decisionStatus (negotiate config pktSize sessionId (Hello.fields payload)) =
      matrixStatus config pktSize payload ↔ FollowedFor config payload := by
  rw [decisionStatus_negotiate]
  simp only [matrixStatus, FollowedFor, layout, clean, ne_eq, not_true_eq_false, if_false,
    or_false, false_or, true_and]
  by_cases flags : (Hello.fields payload).flags = 0
  swap
  · -- The server never answers `BAD_ENVELOPE`.
    rw [if_pos flags]
    refine iff_of_false ?_ fun followed => flags followed.1
    repeat' split
    all_goals decide
  rw [if_neg (not_not_intro flags)]
  by_cases token : (Hello.fields payload).authToken = config.authToken
  · rw [if_neg (not_not_intro token), if_neg (not_not_intro token)]
    exact iff_of_true rfl ⟨flags, .inl token⟩
  rw [if_pos token, if_pos token]
  by_cases common : (Hello.fields payload).supportedProfiles &&&
      profilesOf config.supportedProfiles = 0
  · rw [if_pos common]
    exact iff_of_false (by decide) fun followed => followed.2.elim token fun some => some common
  · rw [if_neg common]
    exact iff_of_true rfl ⟨flags, .inr common⟩

/-- The server follows the negotiation matrix for exactly these HELLO packets. -/
theorem followsMatrix_iff {socket : Socket σ} {hdr : Header} {payload : Bytes}
    (carries : Carries socket (hdr.image ++ payload)) (isHello : IsHelloPacket hdr payload)
    (fd : Int) (config : TransportServerConfig) (sessionId : UInt64) (state : σ) :
    FollowsMatrix socket fd config sessionId payload state ↔ FollowedFor config payload := by
  obtain ⟨os, ran⟩ := run_serverHandshake carries isHello fd config sessionId state
  have size := isHello.length
  have sniffed : layoutIncompatible payload =
      .ok (decide ((Hello.fields payload).layoutVersion ≠ 1)) := by
    rw [layoutIncompatible, if_pos (by omega), u16At_of_le (by omega)]
    rfl
  have decoded := Hello.decode_eq payload (by omega)
  by_cases layout : (Hello.fields payload).layoutVersion ≠ 1
  · -- Another layout is rejected as incompatible.
    obtain ⟨after, rejected⟩ := run_reject (α := Hello) carries statusIncompatible
      (.incompatible "hello payload layout version mismatch")
      ⟨os, [.received (.data (hdr.image ++ payload))]⟩
    rw [if_pos layout] at decoded
    have turned : serverDecodeHello socket payload = reject socket statusIncompatible
        (.incompatible "hello payload layout version mismatch") := by
      rw [serverDecodeHello, decoded]
      exact if_pos ⟨rfl, by rw [sniffed, decide_eq_true layout]; rfl⟩
    rw [turned, Prog.run_bind_error rejected] at ran
    rw [followsMatrix_of_sent ran (by simp [statusIncompatible, statusOk])]
    refine iff_of_true ?_ (.inl layout)
    rw [matrixStatus, if_pos layout]
  rw [if_neg layout] at decoded
  rw [not_not] at layout
  by_cases clean : Hello.padding payload ≠ 0
  · -- Non-zero padding ends the handshake without an answer.
    rw [if_pos clean] at decoded
    have failed : serverDecodeHello socket payload =
        Prog.fail (.protocol ("hello payload: " ++ NipcError.badLayout.display)) := by
      rw [serverDecodeHello, decoded]
      exact if_neg fun both => by
        rw [sniffed, decide_eq_false (not_not_intro layout)] at both
        exact Bool.false_ne_true (Option.some.inj both.2)
    rw [failed] at ran
    refine iff_of_false ?_ ?_
    · rintro ⟨⟨packet, answered, sent, -⟩, -⟩
      rw [ran] at sent
      cases sent
    · rintro (other | ⟨-, zero, -⟩)
      · exact other layout
      · exact clean zero
  rw [if_neg clean] at decoded
  rw [not_not] at clean
  have passed : serverDecodeHello socket payload = pure (Hello.fields payload) := by
    rw [serverDecodeHello, decoded]
  obtain ⟨after, answered⟩ := run_answer carries fd
    (negotiate config (serverPktSize socket config state) sessionId (Hello.fields payload))
    ⟨os, [.received (.data (hdr.image ++ payload))]⟩
  have isOk := isOk_negotiate config (serverPktSize socket config state) sessionId
    (Hello.fields payload)
  rw [passed, pure_bind, answered] at ran
  rw [← decisionStatus_eq_matrixStatus_iff config (serverPktSize socket config state) sessionId
    payload layout clean]
  cases decision : negotiate config (serverPktSize socket config state) sessionId
      (Hello.fields payload) with
  | error rejection =>
    rw [decision] at ran isOk
    refine followsMatrix_of_sent ran (iff_of_false ?_ ?_)
    · rintro ⟨session, same⟩
      cases same
    · intro fine
      obtain ⟨ack, same⟩ := isOk.mpr fine
      cases same
  | ok ack =>
    rw [decision] at ran
    exact followsMatrix_of_sent ran (iff_of_true ⟨_, rfl⟩ rfl)

/-- A socket with one packet waiting that takes every packet whole. -/
def waitingSocket (packet : Bytes) : Socket Unit where
  connect _ := (0, ())
  getsockopt _ := ((0, 212992), ())
  send data _ := ((data.length, 0), ())
  recv _ _ := (.data packet, ())

/-- A HELLO whose payload is `payload`. -/
def helloOf (payload : Bytes) : Bytes :=
  (controlHeader codeHello statusOk helloSize).image ++ payload

/-- A HELLO for the baseline profile with a token and packets of 4096 bytes. -/
def tokenHello : Bytes := Hello.image
  { layoutVersion := 1, supportedProfiles := 1, authToken := 9, packetSize := 4096 }

/-- A server with that token and profile follows the matrix and creates a session. -/
theorem followsMatrix_accepted :
    FollowedFor ⟨1, 0, 1024, 1024, 9, 4096⟩ tokenHello ∧
    FollowsMatrix (waitingSocket (helloOf tokenHello)) 3 ⟨1, 0, 1024, 1024, 9, 4096⟩ 1
      tokenHello () ∧
    ∃ session, ((serverHandshake (waitingSocket (helloOf tokenHello)) 3
      ⟨1, 0, 1024, 1024, 9, 4096⟩ 1).run ⟨(), []⟩).1 = .ok session := by
  have carries : Carries (waitingSocket (helloOf tokenHello)) (helloOf tokenHello) :=
    ⟨fun _ _ => rfl, fun _ _ => rfl⟩
  have followed : FollowedFor ⟨1, 0, 1024, 1024, 9, 4096⟩ tokenHello :=
    .inr ⟨by decide +kernel, by decide +kernel, .inl (by decide +kernel)⟩
  have follows := (followsMatrix_iff carries
    ⟨controlHeader_wellFormed _ _ _, rfl, rfl, rfl, by decide⟩ 3 _ 1 ()).mpr followed
  exact ⟨followed, follows, follows.2.mpr (by decide +kernel)⟩

/-- Three HELLO packets the server does not treat by the matrix: flags that are not zero are let
through, padding that is not zero gets no answer, and a wrong token together with an unknown
profile is reported as `UNSUPPORTED`. -/
theorem not_followsMatrix :
    ¬ FollowsMatrix (waitingSocket (helloOf (Hello.image
        { layoutVersion := 1, flags := 1, supportedProfiles := 1, packetSize := 4096 }))) 3
      ⟨1, 0, 1024, 1024, 0, 4096⟩ 1
      (Hello.image { layoutVersion := 1, flags := 1, supportedProfiles := 1, packetSize := 4096 })
      () ∧
    ¬ FollowsMatrix (waitingSocket (helloOf (splice (Hello.image
        { layoutVersion := 1, supportedProfiles := 1, packetSize := 4096 }) 28 [1]))) 3
      ⟨1, 0, 1024, 1024, 0, 4096⟩ 1
      (splice (Hello.image { layoutVersion := 1, supportedProfiles := 1, packetSize := 4096 }) 28
        [1]) () ∧
    ¬ FollowsMatrix (waitingSocket (helloOf (Hello.image
        { layoutVersion := 1, supportedProfiles := 2, authToken := 7, packetSize := 4096 }))) 3
      ⟨1, 0, 1024, 1024, 0, 4096⟩ 1
      (Hello.image
        { layoutVersion := 1, supportedProfiles := 2, authToken := 7, packetSize := 4096 }) () := by
  refine ⟨?_, ?_, ?_⟩
  · rintro ⟨⟨packet, hdr, sent, decoded, -, -, status⟩, -⟩
    rw [show sentPackets _ = [helloAckPacket statusOk ⟨1, 0, 1, 1, 1, 0, 0, 1024, 0, 4096, 1⟩] by
      decide +kernel] at sent
    cases sent
    rw [decode_helloAckPacket] at decoded
    cases decoded
    exact absurd status (by decide +kernel)
  · rintro ⟨⟨packet, hdr, sent, -⟩, -⟩
    rw [show sentPackets _ = [] by decide +kernel] at sent
    cases sent
  · rintro ⟨⟨packet, hdr, sent, decoded, -, -, status⟩, -⟩
    rw [show sentPackets _ = [helloAckPacket statusUnsupported { layoutVersion := 1 }] by
      decide +kernel] at sent
    cases sent
    rw [decode_helloAckPacket] at decoded
    cases decoded
    exact absurd status (by decide +kernel)

end Handshake

end NetIpc
