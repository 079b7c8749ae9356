/-
This file proves when a session can carry every message within its limits over shared
memory (`ManagedServer::prepare_unix_accept`).

The server adds the header size to both payload limits without a check, in 32 bits.
If neither sum wraps, the areas have room for the largest message, and whatever does
not fit into 32 bits after that is an error of `server_create`. If a sum wraps, the
area is 64 bytes or less, and only a second limit close to `2 ^ 32` keeps the region
from being created.
-/

import NetIpc.Shm
import NetIpc.HandshakeAgree

namespace NetIpc.Shm

open NetIpc.Uds (u32Max)
open NetIpc.Handshake

/-! ### Rounding -/

/-- The next multiple of 64. -/
def roundUp (n : Nat) : Nat := (n + 63) / 64 * 64

theorem toNat_and_not_63 (x : UInt32) : (x &&& ~~~63).toNat = x.toNat / 64 * 64 := by
  have mask : (~~~63 : UInt32).toNat = (2 ^ 26 - 1) * 2 ^ 6 := by decide
  have small : x.toNat < 2 ^ 32 := x.toNat_lt
  rw [UInt32.toNat_and, mask, show 64 = 2 ^ 6 from rfl]
  refine Nat.eq_of_testBit_eq fun bit => ?_
  rw [Nat.testBit_and, Nat.testBit_mul_two_pow, Nat.testBit_mul_two_pow,
    Nat.testBit_two_pow_sub_one, Nat.testBit_div_two_pow]
  by_cases low : 6 ≤ bit
  · by_cases high : bit < 32
    · rw [decide_eq_true low, decide_eq_true (show bit - 6 < 26 by omega), Nat.sub_add_cancel low,
        Bool.true_and, Bool.true_and, Bool.and_true]
    · rw [Nat.sub_add_cancel low, Nat.testBit_lt_two_pow (lt_of_lt_of_le small
        (Nat.pow_le_pow_right (by decide) (Nat.le_of_not_lt high))), Bool.false_and,
        Bool.and_false]
  · rw [decide_eq_false low, Bool.false_and, Bool.false_and, Bool.and_false]

theorem toNat_checkedAddU32 {first second sum : UInt32}
    (added : checkedAddU32 first second = some sum) : sum.toNat = first.toNat + second.toNat := by
  unfold checkedAddU32 at added
  split at added
  · rename_i small
    rw [u32Max] at small
    cases added
    rw [UInt32.toNat_add]
    exact Nat.mod_eq_of_lt (by omega)
  · cases added

theorem checkedAddU32_of_le {first second : UInt32} (small : first.toNat + second.toNat ≤ u32Max) :
    checkedAddU32 first second = some (first + second) := if_pos small

theorem checkedAddU32_of_lt {first second : UInt32} (large : u32Max < first.toNat + second.toNat) :
    checkedAddU32 first second = none := if_neg (Nat.not_le.mpr large)

/-- `align64` rounds up or reports that the result is too large. -/
theorem align64_eq_some_iff {v rounded : UInt32} :
    align64 v = some rounded ↔ v.toNat + 63 ≤ u32Max ∧ rounded.toNat = roundUp v.toNat := by
  have unfolded : align64 v = (checkedAddU32 v 63).map fun x => x &&& ~~~63 := rfl
  rw [unfolded]
  by_cases small : v.toNat + 63 ≤ u32Max
  · have added : checkedAddU32 v 63 = some (v + 63) := checkedAddU32_of_le small
    rw [added, Option.map_some, Option.some_inj, ← UInt32.toNat_inj, toNat_and_not_63,
      toNat_checkedAddU32 added]
    exact ⟨fun same => ⟨small, same.symm⟩, fun same => same.2.symm⟩
  · rw [checkedAddU32_of_lt (Nat.lt_of_not_le small)]
    exact ⟨nofun, fun fits => absurd fits.1 small⟩

theorem align64_of_le (v : UInt32) (small : v.toNat + 63 ≤ u32Max) :
    ∃ rounded, align64 v = some rounded ∧ rounded.toNat = roundUp v.toNat := by
  have added : checkedAddU32 v 63 = some (v + 63) := checkedAddU32_of_le small
  have rounded : align64 v = some ((v + 63) &&& ~~~63) := congrArg (Option.map _) added
  exact ⟨_, rounded, (align64_eq_some_iff.mp rounded).2⟩

/-! ### The areas -/

/-- The areas for messages of the given sizes. -/
structure Layout.Holds (sizes : Layout) (reqCapacity respCapacity : Nat) : Prop where
  reqOff : sizes.reqOff.toNat = 64
  reqCap : sizes.reqCap.toNat = roundUp reqCapacity
  respOff : sizes.respOff.toNat = 64 + roundUp reqCapacity
  respCap : sizes.respCap.toNat = roundUp respCapacity
  regionSize : sizes.regionSize.toNat = 64 + roundUp reqCapacity + roundUp respCapacity

theorem align64_headerLen : align64 headerLen.toUInt32 = some 64 := by decide

/-- A layout that was computed. -/
theorem layout_eq_ok {reqCapacity respCapacity : UInt32} {sizes : Layout}
    (computed : layout reqCapacity respCapacity = .ok sizes) :
    sizes.Holds reqCapacity.toNat respCapacity.toNat := by
  rw [layout, align64_headerLen] at computed
  obtain ⟨reqCap, request, computed⟩ := bind_eq_ok computed
  obtain ⟨respCap, response, computed⟩ := bind_eq_ok computed
  rw [okOr_some, ok_bind] at computed
  obtain ⟨respOff, offset, computed⟩ := bind_eq_ok computed
  obtain ⟨regionSize, total, computed⟩ := bind_eq_ok computed
  cases computed
  obtain ⟨-, reqCap⟩ := align64_eq_some_iff.mp (okOr_eq_ok request)
  obtain ⟨-, respCap⟩ := align64_eq_some_iff.mp (okOr_eq_ok response)
  obtain ⟨sum, summed, aligned⟩ := Option.bind_eq_some_iff.mp (okOr_eq_ok offset)
  obtain ⟨-, respOff⟩ := align64_eq_some_iff.mp aligned
  have summed := toNat_checkedAddU32 summed
  have total := toNat_checkedAddU32 (okOr_eq_ok total)
  have header : (64 : UInt32).toNat = 64 := rfl
  rw [roundUp] at reqCap respCap respOff
  refine ⟨rfl, reqCap, ?_, respCap, ?_⟩
  all_goals
    simp only [roundUp]
    omega

/-- Areas whose end is a 32-bit number are laid out. -/
theorem layout_of_le {reqCapacity respCapacity : UInt32}
    (small : 64 + roundUp reqCapacity.toNat + roundUp respCapacity.toNat ≤ u32Max) :
    ∃ sizes, layout reqCapacity respCapacity = .ok sizes := by
  simp only [roundUp, u32Max] at small
  obtain ⟨reqCap, request, reqSize⟩ := align64_of_le reqCapacity (by rw [u32Max]; omega)
  obtain ⟨respCap, response, respSize⟩ := align64_of_le respCapacity (by rw [u32Max]; omega)
  have header : (64 : UInt32).toNat = 64 := rfl
  rw [roundUp] at reqSize respSize
  have summed : checkedAddU32 64 reqCap = some (64 + reqCap) :=
    checkedAddU32_of_le (by rw [u32Max]; omega)
  have sum := toNat_checkedAddU32 summed
  obtain ⟨respOff, offset, start⟩ := align64_of_le (64 + reqCap) (by rw [u32Max]; omega)
  rw [roundUp] at start
  have total : checkedAddU32 respOff respCap = some (respOff + respCap) :=
    checkedAddU32_of_le (by rw [u32Max]; omega)
  rw [layout, request, okOr_some, ok_bind, response, okOr_some, ok_bind, align64_headerLen,
    okOr_some, ok_bind, summed, Option.bind_some, offset, okOr_some, ok_bind, total, okOr_some,
    ok_bind]
  exact ⟨_, rfl⟩

/-! ### The attaching client -/

/-- Two contexts of one region. -/
structure SameAreas (first second : Context) : Prop where
  requestOffset : first.requestOffset = second.requestOffset
  requestCapacity : first.requestCapacity = second.requestCapacity
  responseOffset : first.responseOffset = second.responseOffset
  responseCapacity : first.responseCapacity = second.responseCapacity

variable {answers : CreateAnswers}

variable {reqCapacity respCapacity : UInt32} {context : Context} {region : Bytes}

theorem serverCreate_eq_ok
    (created : serverCreate answers reqCapacity respCapacity = .ok (context, region)) :
    ∃ sizes, layout reqCapacity respCapacity = .ok sizes ∧
      context.requestOffset = sizes.reqOff ∧ context.requestCapacity = sizes.reqCap ∧
      context.responseOffset = sizes.respOff ∧ context.responseCapacity = sizes.respCap ∧
      region.length = sizes.regionSize.toNat ∧
      RegionHeader.read region = ⟨regionMagic, regionVersion, headerLen, answers.pid,
        answers.generation, sizes.reqOff, sizes.reqCap, sizes.respOff, sizes.respCap⟩ := by
  obtain ⟨_, -, created⟩ := bind_eq_ok created
  obtain ⟨sizes, computed, created⟩ := bind_eq_ok created
  obtain ⟨_, -, created⟩ := bind_eq_ok created
  have holds := layout_eq_ok computed
  have size := holds.regionSize
  cases created
  refine ⟨sizes, computed, rfl, rfl, rfl, rfl, ?_, RegionHeader.read_image _ _⟩
  rw [List.length_append, RegionHeader.length_image, length_zeros]
  omega

/-- A region with room for messages passes every check of the client. -/
theorem clientAttach_of_serverCreate
    (created : serverCreate answers reqCapacity respCapacity = .ok (context, region))
    (request : 0 < reqCapacity.toNat) (response : 0 < respCapacity.toNat) :
    clientAttach region = .ok (attachedContext region (RegionHeader.read region)) ∧
      SameAreas (attachedContext region (RegionHeader.read region)) context := by
  obtain ⟨sizes, computed, reqOff, reqCap, respOff, respCap, size, fields⟩ :=
    serverCreate_eq_ok created
  obtain ⟨atReqOff, atReqCap, atRespOff, atRespCap, atEnd⟩ := layout_eq_ok computed
  have limit := sizes.regionSize.toNat_lt
  simp only [roundUp] at atReqCap atRespOff atRespCap atEnd
  have lower : (align64 headerLen.toUInt32).getD headerLen.toUInt32 = 64 := by decide
  have header : (64 : UInt32).toNat = 64 := rfl
  have long : (headerLen : UInt16).toNat = 64 := rfl
  have align (value : UInt32) (whole : value.toNat % 64 = 0) : value % regionAlignment = 0 := by
    rw [← UInt32.toNat_inj, UInt32.toNat_mod]
    exact whole
  have nonzero (value : UInt32) (positive : 0 < value.toNat) : value ≠ 0 := by
    rintro rfl
    exact absurd positive (by decide)
  have summed : checkedAddU32 sizes.reqOff sizes.reqCap = some (sizes.reqOff + sizes.reqCap) :=
    checkedAddU32_of_le (by rw [u32Max]; omega)
  have sum := toNat_checkedAddU32 summed
  obtain ⟨least, rounded, atLeast⟩ :=
    align64_of_le (sizes.reqOff + sizes.reqCap) (by rw [u32Max]; omega)
  rw [roundUp] at atLeast
  refine ⟨?_, ?_⟩
  · simp only [clientAttach]
    rw [fields, lower, guard_bind (by omega), guard_bind (not_not_intro rfl), guard_bind
      (not_not_intro rfl), guard_bind (not_not_intro rfl), rejectIf_of_not, ok_bind,
      rejectIf_of_not, ok_bind,
      guard_bind (by dsimp only; omega)]
    · rfl
    · dsimp only
      rw [summed, Option.bind_some, rounded]
      rintro (odd | odd | odd | odd | low)
      · exact odd (align _ (by omega))
      · exact odd (align _ (by omega))
      · exact odd (align _ (by omega))
      · exact odd (align _ (by omega))
      · have low := UInt32.lt_iff_toNat_lt.mp (of_decide_eq_true low)
        omega
    · rintro (low | none | low | none)
      · have low := UInt32.lt_iff_toNat_lt.mp low
        dsimp only at low
        omega
      · exact nonzero _ (by dsimp only; omega) none
      · have low := UInt32.lt_iff_toNat_lt.mp low
        dsimp only at low
        omega
      · exact nonzero _ (by dsimp only; omega) none
  · rw [fields]
    exact ⟨reqOff.symm, reqCap.symm, respOff.symm, respCap.symm⟩

/-! ### Preparing a session -/

def shmProfiles : UInt32 := profileShmHybrid ||| profileShmFutex

/-- `ManagedServer::prepare_unix_accept`, without the session id: the configuration of the
handshake, the region if there is one, and whether to accept at all. -/
def prepareUnixAccept (serverConfig : TransportServerConfig)
    (learnedRequest learnedResponse : UInt32) (answers : CreateAnswers) :
    TransportServerConfig × Option (Context × Bytes) × Bool :=
  let cfg := { serverConfig with
    maxRequestPayloadBytes := learnedRequest
    maxResponsePayloadBytes := learnedResponse }
  if cfg.supportedProfiles &&& shmProfiles = 0 then (cfg, none, true)
  else
    match serverCreate answers (cfg.maxRequestPayloadBytes + UInt32.ofNat headerSize)
      (cfg.maxResponsePayloadBytes + UInt32.ofNat headerSize) with
    | .ok created => (cfg, some created, true)
    | .error _ =>
      let cfg := { cfg with
        supportedProfiles := cfg.supportedProfiles &&& ~~~shmProfiles
        preferredProfiles := cfg.preferredProfiles &&& ~~~shmProfiles }
      (cfg, none, cfg.supportedProfiles ≠ 0)

/-- The payload limit on what a context sends. -/
def sendLimit (ack : HelloAck) : Role → Nat
  | .client => ack.agreedMaxRequestPayloadBytes.toNat
  | .server => ack.agreedMaxResponsePayloadBytes.toNat

/-- A client can attach to the region, its parts do not overlap, it has room for every message
within the limits that are negotiated, and both ends can send every such message. -/
structure Carries (config : TransportServerConfig) (server : Context) (region : Bytes) : Prop where
  attaches : clientAttach region = .ok (attachedContext region (RegionHeader.read region))
  same : SameAreas (attachedContext region (RegionHeader.read region)) server
  aligned : server.requestOffset.toNat % 64 = 0 ∧ server.responseOffset.toNat % 64 = 0
  header : headerLen.toNat ≤ server.requestOffset.toNat
  disjoint : server.requestOffset.toNat + server.requestCapacity.toNat ≤
    server.responseOffset.toNat
  inside : server.responseOffset.toNat + server.responseCapacity.toNat ≤ region.length
  room : ∀ pktSize sessionId hello ack, negotiate config pktSize sessionId hello = .ok ack →
    headerSize + ack.agreedMaxRequestPayloadBytes.toNat ≤ server.requestCapacity.toNat ∧
      headerSize + ack.agreedMaxResponsePayloadBytes.toNat ≤ server.responseCapacity.toNat
  sends : ∀ pktSize sessionId hello ack, negotiate config pktSize sessionId hello = .ok ack →
    ∀ context : Context, SameAreas context server → ∀ msg memory : Bytes,
      headerSize ≤ msg.length → msg.length ≤ headerSize + sendLimit ack context.role →
        ∃ after, send context msg memory = .ok after

/-- Without a region the session falls back to a profile without shared memory, and is only not
accepted when there is none left. -/
def Prepared : TransportServerConfig × Option (Context × Bytes) × Bool → Prop
  | (config, none, accepts) => config.supportedProfiles &&& shmProfiles = 0 ∧
    (accepts = false → config.supportedProfiles = 0)
  | (config, some (server, region), accepts) => accepts = true ∧ Carries config server region

/-- No message within the limits is too large for a region with room for them. -/
theorem send_of_room {server : Context} {ack : HelloAck} {msg : Bytes}
    (request : headerSize + ack.agreedMaxRequestPayloadBytes.toNat ≤ server.requestCapacity.toNat)
    (response :
      headerSize + ack.agreedMaxResponsePayloadBytes.toNat ≤ server.responseCapacity.toNat)
    (same : SameAreas context server) (memory : Bytes) (whole : headerSize ≤ msg.length)
    (within : msg.length ≤ headerSize + sendLimit ack context.role) :
    ∃ after, send context msg memory = .ok after := by
  have some : 0 < headerSize := by decide
  have fits : msg.length ≤ context.sendArea.capacity := by
    rw [Context.sendArea]
    cases role : context.role with
    | client =>
      rw [role] at within
      show msg.length ≤ context.requestCapacity.toNat
      rw [same.requestCapacity]
      exact within.trans request
    | server =>
      rw [role] at within
      show msg.length ≤ context.responseCapacity.toNat
      rw [same.responseCapacity]
      exact within.trans response
  rw [send, guard_bind (by omega), guard_bind (Nat.not_lt.mpr fits)]
  exact ⟨_, rfl⟩

/-! ### When it carries -/

/-- The header size wraps the first limit, and the other limit is so large that the region is
refused all the same. -/
def Refused (wrapping other : Nat) : Prop :=
  u32Max < wrapping + headerSize ∧ other + headerSize ≤ u32Max ∧ u32Max < other + 223 ∧
    (wrapping + headerSize ≠ u32Max + 1 ∨ u32Max < other + 159)

/-- Neither sum wraps, or the region is refused all the same. -/
def Fits (request response : Nat) : Prop :=
  (request + headerSize ≤ u32Max ∧ response + headerSize ≤ u32Max) ∨
    Refused request response ∨ Refused response request

instance (request response : Nat) : Decidable (Fits request response) :=
  inferInstanceAs (Decidable (_ ∨ (_ ∧ _ ∧ _ ∧ _) ∨ (_ ∧ _ ∧ _ ∧ _)))

/-- The operating system does not give the server a region. -/
def CreateAnswers.Refuse (answers : CreateAnswers) : Prop :=
  answers.path ≠ .ok () ∨ answers.file ≠ .ok ()

theorem serverCreate_of_refuse (refuse : answers.Refuse) (reqCapacity respCapacity : UInt32)
    (created : Context × Bytes) : serverCreate answers reqCapacity respCapacity ≠ .ok created := by
  intro ran
  obtain ⟨_, path, ran⟩ := bind_eq_ok ran
  obtain ⟨_, -, ran⟩ := bind_eq_ok ran
  obtain ⟨_, file, -⟩ := bind_eq_ok ran
  rcases refuse with refused | refused
  · cases answer : answers.path with
    | ok => exact refused answer
    | error error =>
      rw [answer] at path
      cases path
  · cases answer : answers.file with
    | ok => exact refused answer
    | error error =>
      rw [answer] at file
      cases file

/-- A region that is not refused is created if and only if it fits into 32 bits. -/
theorem serverCreate_of_le (grant : ¬ answers.Refuse)
    (small : 64 + roundUp reqCapacity.toNat + roundUp respCapacity.toNat ≤ u32Max) :
    ∃ created, serverCreate answers reqCapacity respCapacity = .ok created := by
  obtain ⟨path, file⟩ := not_or.mp grant
  obtain ⟨sizes, computed⟩ := layout_of_le small
  rw [serverCreate, not_not.mp path, not_not.mp file, computed]
  exact ⟨_, rfl⟩

theorem toNat_add_headerSize (limit : UInt32) :
    (limit + UInt32.ofNat headerSize).toNat = (limit.toNat + 32) % 2 ^ 32 := by
  rw [UInt32.toNat_add]
  rfl

/-- A client that asks for the whole request limit. -/
def fullHello (config : TransportServerConfig) : Hello where
  supportedProfiles := config.supportedProfiles
  maxRequestPayloadBytes := config.maxRequestPayloadBytes
  authToken := config.authToken
  packetSize := 4096

theorem negotiate_fullHello (config : TransportServerConfig)
    (request : config.maxRequestPayloadBytes ≠ 0) (response : config.maxResponsePayloadBytes ≠ 0)
    (profiles : config.supportedProfiles ≠ 0) :
    ∃ ack, negotiate config 4096 0 (fullHello config) = .ok ack ∧
      ack.agreedMaxRequestPayloadBytes = config.maxRequestPayloadBytes ∧
      ack.agreedMaxResponsePayloadBytes = config.maxResponsePayloadBytes := by
  have supported : profilesOf config.supportedProfiles = config.supportedProfiles := if_neg profiles
  have requested : applyDefault config.maxRequestPayloadBytes maxPayloadDefault =
      config.maxRequestPayloadBytes := if_neg request
  have responded : applyDefault config.maxResponsePayloadBytes maxPayloadDefault =
      config.maxResponsePayloadBytes := if_neg response
  unfold negotiate
  simp only [fullHello, supported, requested, responded, UInt32.and_self]
  rw [if_neg profiles, if_neg (not_not_intro rfl), if_neg (UInt32.lt_irrefl _), if_neg (by decide)]
  exact ⟨_, rfl, rfl, rfl⟩

/-- What is within the limits is within what they come to with a header. -/
theorem carries_of_serverCreate {config : TransportServerConfig} {server : Context}
    (request : config.maxRequestPayloadBytes ≠ 0) (response : config.maxResponsePayloadBytes ≠ 0)
    (smallRequest : config.maxRequestPayloadBytes.toNat + headerSize ≤ u32Max)
    (smallResponse : config.maxResponsePayloadBytes.toNat + headerSize ≤ u32Max)
    (created : serverCreate answers (config.maxRequestPayloadBytes + UInt32.ofNat headerSize)
      (config.maxResponsePayloadBytes + UInt32.ofNat headerSize) = .ok (server, region)) :
    Carries config server region := by
  have req := toNat_add_headerSize config.maxRequestPayloadBytes
  have resp := toNat_add_headerSize config.maxResponsePayloadBytes
  rw [headerSize, u32Max] at smallRequest smallResponse
  rw [Nat.mod_eq_of_lt (by omega)] at req resp
  obtain ⟨sizes, computed, reqOff, reqCap, respOff, respCap, size, -⟩ := serverCreate_eq_ok created
  obtain ⟨attaches, same⟩ := clientAttach_of_serverCreate created (by omega) (by omega)
  obtain ⟨atReqOff, atReqCap, atRespOff, atRespCap, atEnd⟩ := layout_eq_ok computed
  rw [← reqOff] at atReqOff
  rw [← reqCap] at atReqCap
  rw [← respOff] at atRespOff
  rw [← respCap] at atRespCap
  rw [req, roundUp] at atReqCap atRespOff
  rw [resp, roundUp] at atRespCap
  rw [req, resp, roundUp, roundUp] at atEnd
  have long : headerLen.toNat = 64 := rfl
  have room (pktSize : UInt32) (sessionId : UInt64) (hello : Hello) (ack : HelloAck)
      (agreed : negotiate config pktSize sessionId hello = .ok ack) :
      headerSize + ack.agreedMaxRequestPayloadBytes.toNat ≤ server.requestCapacity.toNat ∧
        headerSize + ack.agreedMaxResponsePayloadBytes.toNat ≤ server.responseCapacity.toNat := by
    obtain ⟨-, limit, -, rfl⟩ := negotiate_eq_ok agreed
    rw [applyDefault, if_neg request, UInt32.le_iff_toNat_le] at limit
    dsimp only
    rw [applyDefault, if_neg response, headerSize]
    omega
  refine ⟨attaches, same, ⟨by omega, by omega⟩, by omega, by omega, by omega, room, ?_⟩
  intro pktSize sessionId hello ack agreed context areas msg memory
  obtain ⟨atRequest, atResponse⟩ := room pktSize sessionId hello ack agreed
  exact send_of_room atRequest atResponse areas memory

/-! ### The exact condition -/

theorem and_not_and (profiles mask : UInt32) : profiles &&& ~~~mask &&& mask = 0 := by
  rw [UInt32.and_assoc, UInt32.not_and_self, UInt32.and_zero]

/-- Limits whose region does not fit into 32 bits are refused. -/
theorem small_or_fits (learnedRequest learnedResponse : UInt32) :
    64 + roundUp (learnedRequest + UInt32.ofNat headerSize).toNat +
        roundUp (learnedResponse + UInt32.ofNat headerSize).toNat ≤ u32Max ∨
      Fits learnedRequest.toNat learnedResponse.toNat := by
  have reqLimit := learnedRequest.toNat_lt
  have respLimit := learnedResponse.toNat_lt
  rw [toNat_add_headerSize, toNat_add_headerSize]
  simp only [Fits, Refused, roundUp, headerSize, u32Max]
  omega

section Created

variable {answers : CreateAnswers} {learnedRequest learnedResponse : UInt32} {server : Context}
  {region : Bytes}
  (created : serverCreate answers (learnedRequest + UInt32.ofNat headerSize)
    (learnedResponse + UInt32.ofNat headerSize) = .ok (server, region))

include created

theorem capacity_of_serverCreate :
    server.requestCapacity.toNat = roundUp ((learnedRequest.toNat + 32) % 2 ^ 32) ∧
      server.responseCapacity.toNat = roundUp ((learnedResponse.toNat + 32) % 2 ^ 32) ∧
      64 + roundUp ((learnedRequest.toNat + 32) % 2 ^ 32) +
        roundUp ((learnedResponse.toNat + 32) % 2 ^ 32) ≤ u32Max := by
  obtain ⟨sizes, computed, -, reqCap, -, respCap, -, -⟩ := serverCreate_eq_ok created
  obtain ⟨-, atReqCap, -, atRespCap, atEnd⟩ := layout_eq_ok computed
  have limit := sizes.regionSize.toNat_lt
  rw [toNat_add_headerSize] at atReqCap atRespCap
  rw [toNat_add_headerSize, toNat_add_headerSize] at atEnd
  rw [reqCap, respCap, ← atEnd, u32Max]
  exact ⟨atReqCap, atRespCap, by omega⟩

/-- Limits that fit and for which a region was created do not wrap. -/
theorem small_of_fits (fits : Fits learnedRequest.toNat learnedResponse.toNat) :
    learnedRequest.toNat + headerSize ≤ u32Max ∧ learnedResponse.toNat + headerSize ≤ u32Max := by
  obtain ⟨-, -, small⟩ := capacity_of_serverCreate created
  have reqLimit := learnedRequest.toNat_lt
  have respLimit := learnedResponse.toNat_lt
  simp only [Fits, Refused, roundUp, headerSize, u32Max] at fits small ⊢
  omega

/-- Limits for which the region has room do not wrap. -/
theorem small_of_carries {config : TransportServerConfig} (request : learnedRequest ≠ 0)
    (response : learnedResponse ≠ 0) (profiles : config.supportedProfiles ≠ 0)
    (carries : Carries { config with
      maxRequestPayloadBytes := learnedRequest
      maxResponsePayloadBytes := learnedResponse } server region) :
    learnedRequest.toNat + headerSize ≤ u32Max ∧ learnedResponse.toNat + headerSize ≤ u32Max := by
  obtain ⟨reqCap, respCap, -⟩ := capacity_of_serverCreate created
  obtain ⟨ack, agreed, atRequest, atResponse⟩ := negotiate_fullHello
    { config with
      maxRequestPayloadBytes := learnedRequest
      maxResponsePayloadBytes := learnedResponse } request response profiles
  obtain ⟨reqRoom, respRoom⟩ := carries.room _ _ _ _ agreed
  rw [atRequest, reqCap] at reqRoom
  rw [atResponse, respCap] at respRoom
  simp only [roundUp, headerSize, u32Max] at reqRoom respRoom ⊢
  have reqLimit := learnedRequest.toNat_lt
  have respLimit := learnedResponse.toNat_lt
  omega

end Created

/-- A session prepared for two limits carries every message within them exactly if it does without
shared memory, or there is no region for it, or the limits fit. -/
theorem prepareUnixAccept_prepared_iff (serverConfig : TransportServerConfig)
    (learnedRequest learnedResponse : UInt32) (answers : CreateAnswers)
    (request : learnedRequest ≠ 0) (response : learnedResponse ≠ 0) :
    Prepared (prepareUnixAccept serverConfig learnedRequest learnedResponse answers) ↔
      serverConfig.supportedProfiles &&& shmProfiles = 0 ∨ answers.Refuse ∨
        Fits learnedRequest.toNat learnedResponse.toNat := by
  simp only [prepareUnixAccept]
  by_cases plain : serverConfig.supportedProfiles &&& shmProfiles = 0
  · rw [if_pos plain]
    exact ⟨fun _ => Or.inl plain, fun _ => ⟨plain, nofun⟩⟩
  rw [if_neg plain]
  cases outcome : serverCreate answers (learnedRequest + UInt32.ofNat headerSize)
      (learnedResponse + UInt32.ofNat headerSize) with
  | error reason =>
    refine ⟨fun _ => Or.inr ?_, fun _ =>
      ⟨and_not_and _ _, fun rejected => not_not.mp (of_decide_eq_false rejected)⟩⟩
    by_cases refuse : answers.Refuse
    · exact Or.inl refuse
    · refine Or.inr ((small_or_fits _ _).resolve_left fun small => ?_)
      obtain ⟨created, ran⟩ := serverCreate_of_le refuse small
      rw [ran] at outcome
      cases outcome
  | ok created =>
    obtain ⟨server, region⟩ := created
    constructor
    · rintro ⟨-, carries⟩
      have profiles : serverConfig.supportedProfiles ≠ 0 := by
        intro none
        rw [none] at plain
        exact plain UInt32.zero_and
      exact Or.inr (Or.inr (Or.inl (small_of_carries outcome request response profiles carries)))
    · rintro (none | refuse | fits)
      · exact absurd none plain
      · exact absurd outcome (serverCreate_of_refuse refuse _ _ _)
      · obtain ⟨smallRequest, smallResponse⟩ := small_of_fits outcome fits
        exact ⟨rfl, carries_of_serverCreate request response smallRequest smallResponse outcome⟩

/-! ### Two configurations -/

def shmConfig : TransportServerConfig := ⟨7, 7, 0, 0, 0, 0⟩

def grantingAnswers : CreateAnswers := ⟨.ok (), .ok (), 100, 1⟩

theorem prepareUnixAccept_prepared_default :
    Prepared (prepareUnixAccept shmConfig 1024 65536 grantingAnswers) :=
  (prepareUnixAccept_prepared_iff shmConfig 1024 65536 grantingAnswers (by decide)
    (by decide)).mpr (Or.inr (Or.inr (by decide)))

/-- The server's context when the request limit is the largest 32-bit number. -/
def wrappedServer : Context where
  role := .server
  regionSize := 256
  requestOffset := 64
  requestCapacity := 64
  responseOffset := 128
  responseCapacity := 128
  localReqSeq := 0
  localRespSeq := 0
  ownerGeneration := 1

def wrappedRegion : Bytes :=
  (⟨regionMagic, regionVersion, headerLen, 100, 1, 64, 64, 128, 128⟩ : RegionHeader).image ++
    zeros 192

/-- The largest request limit wraps: a region is created, its request area has 64 bytes, and a
message of 65 bytes, which is within the limit, is too large for it. -/
theorem prepareUnixAccept_not_prepared :
    (prepareUnixAccept shmConfig 4294967295 64 grantingAnswers).2 =
        (some (wrappedServer, wrappedRegion), true) ∧
      Shm.send (attachedContext wrappedRegion (RegionHeader.read wrappedRegion)) (zeros 65)
        wrappedRegion = .error (.err .msgTooLarge) ∧
      ¬ Prepared (prepareUnixAccept shmConfig 4294967295 64 grantingAnswers) := by
  have created : prepareUnixAccept shmConfig 4294967295 64 grantingAnswers =
      (⟨7, 7, 4294967295, 64, 0, 0⟩, some (wrappedServer, wrappedRegion), true) := by
    decide +kernel
  refine ⟨congrArg Prod.snd created, by decide +kernel, ?_⟩
  rw [created]
  rintro ⟨-, carries⟩
  obtain ⟨ack, agreed, request, -⟩ := negotiate_fullHello ⟨7, 7, 4294967295, 64, 0, 0⟩ (by decide)
    (by decide) (by decide)
  have room := (carries.room _ _ _ _ agreed).1
  rw [request] at room
  exact absurd room (by decide)

end NetIpc.Shm
