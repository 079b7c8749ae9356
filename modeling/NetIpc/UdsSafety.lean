/-
This file says how a receive ends, whatever the peer sends: it never panics, takes at
most one packet more than the first one declares bytes, goes on waiting only as long
as its waiting is interrupted, and returns only messages that were accepted packet by
packet.

`Exits` carries the argument, because the bound on the packets has to hold at every
ending. The loop over continuation packets has the invariant `Assembling` of the file
on accepted messages; it gives the room for every copy, and since no packet is empty
it also bounds the passes.
-/

import NetIpc.UdsAccept

namespace NetIpc.Uds

variable {σ α : Type}

/-! ### Waiting -/

/-- An event in which a signal interrupted `poll`. -/
def interrupted : Event → Bool
  | .polled _ (.failed errno) => errno = eintr
  | _ => false

/-- How often waiting was interrupted. -/
def interruptions (trace : List Event) : Nat := trace.countP interrupted

/-- Waiting was interrupted at least this often. -/
def Waited (count : Nat) (endpoint : Endpoint σ) : Prop := count ≤ interruptions endpoint.trace

/-- An ending that is no panic, and that lacks fuel only after as many interruptions. -/
def Halts (fuel count : Nat) (reason : Stop UdsError) (endpoint : Endpoint σ) : Prop :=
  reason ≠ .panic ∧ (reason = .fuel → Waited (count + fuel) endpoint)

/-- A program that returns, be it an error, with nothing but calls in between. -/
def Prompt (program : UdsProg σ α) : Prop :=
  ∀ count, Exits (Waited count) program (fun _ => Waited count)
    fun reason _ => ∃ error, reason = .err error

variable {endpoint : Endpoint σ}

theorem Waited.append {count : Nat} (waited : Waited count endpoint) (event : Event) :
    count ≤ interruptions (endpoint.trace ++ [event]) := by
  rw [interruptions, List.countP_append]
  exact waited.trans (Nat.le_add_right _ _)

theorem prompt_call (step : σ → α × σ) (event : α → Event) : Prompt (call step event) :=
  fun _ _ waited => waited.append _

theorem prompt_pure (value : α) : Prompt (pure value : UdsProg σ α) :=
  fun _ => Exits.pure value fun _ waited => waited

theorem prompt_fail (error : UdsError) : Prompt (Prog.fail error : UdsProg σ α) :=
  fun _ => Exits.stop _ fun _ _ => ⟨error, rfl⟩

variable {program : UdsProg σ α}

theorem Prompt.bind {β : Type} {next : α → UdsProg σ β} (first : Prompt program)
    (rest : ∀ value, Prompt (next value)) : Prompt (program >>= next) :=
  fun count => Exits.via (fun _ => Waited count) (first count) fun value => rest value count

theorem Prompt.ite {condition : Prop} [Decidable condition] {other : UdsProg σ α}
    (taken : Prompt program) (skipped : Prompt other) :
    Prompt (if condition then program else other) :=
  fun count => Exits.ite (fun _ => taken count) fun _ => skipped count

variable (os : Os σ)

theorem prompt_aborted (wait : ReceiveWait) : Prompt (wait.aborted os) :=
  Prompt.ite (prompt_call _ _) (prompt_pure _)

theorem prompt_pollTimeoutMs (wait : ReceiveWait) : Prompt (wait.pollTimeoutMs os) := by
  refine (prompt_aborted os wait).bind fun aborted => Prompt.ite (prompt_fail _) ?_
  refine Prompt.bind ?_ fun _ => prompt_pure _
  unfold ReceiveWait.remainingMs
  cases wait.deadline with
  | none => exact prompt_pure _
  | some deadline =>
    exact (prompt_call _ _).bind fun _ => Prompt.ite (prompt_fail _) (prompt_pure _)

variable (timeoutMs : UInt32) (abort : Bool)

theorem prompt_new : Prompt (ReceiveWait.new os timeoutMs abort) :=
  Prompt.ite ((prompt_call _ _).bind fun _ => prompt_pure _) (prompt_pure _)

theorem halts_of_err {fuel count : Nat} {reason : Stop UdsError}
    (failed : ∃ error, reason = .err error) : Halts fuel count reason endpoint := by
  obtain ⟨error, rfl⟩ := failed
  exact ⟨nofun, nofun⟩

theorem exits_poll (timeout : Int) (count : Nat) :
    Exits (Waited count) (call (os.poll timeout) (.polled timeout))
      (fun answer => Waited (count + if answer = .failed eintr then 1 else 0))
      fun reason _ => ∃ error, reason = .err error := by
  intro endpoint waited
  show _ ≤ interruptions (endpoint.trace ++ [_])
  rw [interruptions, List.countP_append, List.countP_singleton]
  refine Nat.add_le_add waited ?_
  split
  · rename_i interrupt
    rw [interrupt, if_pos (by rfl)]
  · exact Nat.zero_le _

variable (fuel : Nat)

/-- Every pass of the waiting loop but the last is an interruption. -/
theorem exits_waitFdReadable (wait : ReceiveWait) (count : Nat) :
    Exits (Waited count) (waitFdReadable os fuel wait) (fun _ => Waited count)
      (Halts fuel count) := by
  induction fuel generalizing count with
  | zero => exact Exits.stop _ fun _ waited => ⟨nofun, fun _ => waited⟩
  | succ fuel ih =>
    refine Exits.via (fun result => Waited (count + result.elim (fun _ => 1) fun _ => 0)) ?_
      fun result => ?_
    · suffices pass : Exits (Waited count) _ _ fun reason _ => ∃ error, reason = .err error from
        pass.mono (fun _ waited => waited) (fun _ _ held => held) fun _ _ => halts_of_err
      refine Exits.via (fun _ => Waited count)
        (prompt_pollTimeoutMs os wait count) fun timeout => ?_
      refine Exits.via _ (exits_poll os timeout count) fun answer => ?_
      cases answer with
      | failed errno =>
        refine Exits.ite (fun same => ?_) fun _ => Exits.stop _ fun _ _ => ⟨_, rfl⟩
        subst same
        exact Exits.pure _ fun _ waited => waited
      | expired =>
        refine Exits.via _ (prompt_aborted os wait _) fun aborted => ?_
        exact Exits.ite (fun _ => Exits.stop _ fun _ _ => ⟨_, rfl⟩)
          fun _ => Exits.stop _ fun _ _ => ⟨_, rfl⟩
      | ready =>
        refine Exits.via _ (prompt_aborted os wait _) fun aborted => ?_
        exact Exits.ite (fun _ => Exits.stop _ fun _ _ => ⟨_, rfl⟩)
          fun _ => Exits.pure _ fun _ waited => waited
    · cases result with
      | inl again =>
        refine (ih (count + 1)).mono (fun _ waited => waited)
          (fun _ _ waited => Nat.le_of_succ_le waited) fun reason endpoint halts => ⟨halts.1, ?_⟩
        rw [Nat.add_comm fuel, ← Nat.add_assoc]
        exact halts.2
      | inr done => exact Exits.pure _ fun _ waited => waited

/-! ### One packet -/

/-- The session, the packets received so far, and how often waiting was interrupted. -/
def Heard (session : UdsSession) (packets : List Bytes) (count : Nat) (endpoint : Endpoint σ) :
    Prop :=
  Seen session packets endpoint ∧ Waited count endpoint

/-- An ending after `packets` and some more packets. -/
def Leaves (fuel count : Nat) (packets : List Bytes) (allowed : List Bytes → Prop)
    (reason : Stop UdsError) (endpoint : Endpoint σ) : Prop :=
  Halts fuel count reason endpoint ∧
    ∃ received, packetsOf endpoint.trace = packets ++ received ∧ allowed received

variable {session : UdsSession} {packets : List Bytes} {count : Nat}

variable (buf : Bytes)

theorem exits_rawRecv (fuel : Nat) : Exits (Heard session packets count) (rawRecv os buf)
      (fun answer endpoint => ∃ packet, Heard session (packets ++ [packet]) count endpoint ∧
        answer = (packet.length, splice buf 0 packet))
      (Leaves fuel count packets fun received => received.length ≤ 1) := by
  have called : Exits (Heard session packets count)
      (call (fun state => (os.recv buf.length state).map (Received.cut buf.length) id) .received)
      (fun answer => Heard session (packets ++ (Event.received answer).packet?.toList) count)
      (Leaves fuel count packets fun received => received.length ≤ 1) := by
    rintro endpoint ⟨⟨same, seen⟩, waited⟩
    exact ⟨⟨same, by rw [packetsOf_append, seen]⟩, waited.append _⟩
  refine Exits.via _ called fun answer => ?_
  cases answer with
  | failed errno =>
    exact Exits.stop _ fun _ held => ⟨halts_of_err ⟨_, rfl⟩, [], held.1.2, Nat.zero_le _⟩
  | data packet =>
    refine Exits.ite (fun _ => Exits.stop _ fun _ held => ?_) fun _ => ?_
    · exact ⟨halts_of_err ⟨_, rfl⟩, [packet], held.1.2, Nat.le_refl _⟩
    · exact Exits.pure _ fun _ held => ⟨packet, held, rfl⟩

variable (controlled : Bool) (wait : ReceiveWait)

theorem exits_rawRecvControl :
    Exits (Heard session packets count) (rawRecvControl os fuel buf controlled wait)
      (fun answer endpoint => ∃ packet, Heard session (packets ++ [packet]) count endpoint ∧
        answer = (packet.length, splice buf 0 packet))
      (Leaves fuel count packets fun received => received.length ≤ 1) := by
  unfold rawRecvControl
  cases controlled with
  | true =>
    have kept := Exits.of_keeps ((calm_seen os).waitFdReadable (fun _ => call_seen _ _ fun _ => rfl)
      fuel wait) (· = (session, packets))
    refine Exits.via (fun _ => Heard session packets count) ?_ fun _ => exits_rawRecv os buf fuel
    refine (kept.conj (exits_waitFdReadable os fuel wait count)).mono ?_ ?_ ?_
    · exact fun _ held => ⟨Prod.ext held.1.1 held.1.2, held.2⟩
    · exact fun _ _ held => ⟨⟨congrArg Prod.fst held.1, congrArg Prod.snd held.1⟩, held.2⟩
    · refine fun _ _ held => ⟨held.2, [], ?_, Nat.zero_le _⟩
      rw [List.append_nil]
      exact congrArg Prod.snd held.1
  | false => exact exits_rawRecv os buf fuel

/-- Failing everything in flight is not seen in the trace. -/
theorem exits_failingInflight {pre : Endpoint σ → Prop} {post : α → Endpoint σ → Prop} {fuel : Nat}
    {allowed : List Bytes → Prop}
    (exits : Exits pre program post (Leaves fuel count packets allowed)) :
    Exits pre (failingInflight program) post (Leaves fuel count packets allowed) := by
  intro endpoint start
  have ends := exits endpoint start
  rw [failingInflight, Prog.run_inspect]
  rcases ran : program.run endpoint with ⟨(_ | _ | _) | _, _⟩ <;> rw [ran] at ends <;> exact ends

/-! ### The loop over continuation packets -/

variable {hdr : Header} {data : Bytes} {chunkCount : UInt32} {earlier : List Bytes}

/-- No more packets than bytes that were still to come. -/
def Few (hdr : Header) (chunks : List Bytes) : Prop := chunks.length ≤ hdr.payloadLen.toNat

variable {chunks : List Bytes}

/-- The packets of a message in assembly are few, and one more does not make them many. -/
theorem Assembling.few {assembled : Nat} {ci : UInt32}
    (assembling : Assembling hdr data chunkCount earlier chunks assembled ci endpoint)
    (missing : assembled < hdr.payloadLen.toNat) {more : List Bytes} (one : more.length ≤ 1) :
    Few hdr (chunks ++ more) := by
  have size := assembling.size
  have many := assembling.many
  rw [Few, List.length_append]
  omega

theorem Assembling.few_all {ci : UInt32} (assembling : Assembling hdr data chunkCount earlier chunks
      hdr.payloadLen.toNat ci endpoint) : Few hdr chunks := by
  have size := assembling.size
  exact assembling.many.trans (by omega)

/-- A check of the code returns or reports an error. -/
theorem exits_check {result : Res UdsError α} (ordinary : Ordinary IsCheck result)
    {pre : Endpoint σ → Prop} :
    Exits pre (Prog.ofRes result) (fun value endpoint => result = .ok value ∧ pre endpoint)
      fun reason endpoint => (∃ error, reason = .err error) ∧ pre endpoint := by
  refine Exits.ofRes _ (fun _ _ held same => ⟨same, held⟩) fun _ reason held same => ⟨?_, held⟩
  rw [same] at ordinary
  match reason with
  | .err error => exact ⟨error, rfl⟩

/-- What the loop over continuation packets has between two passes. -/
def Pausing (hdr : Header) (data : Bytes) (chunkCount : UInt32) (earlier : List Bytes)
    (count : Nat) (loop : Nat × UInt32) (endpoint : Endpoint σ) : Prop :=
  (∃ chunks, Assembling hdr data chunkCount earlier chunks loop.1 loop.2 endpoint) ∧
    Waited count endpoint

/-- What a pass of the loop leaves: fewer bytes are missing, or none. -/
def Passed (hdr : Header) (data : Bytes) (chunkCount : UInt32) (earlier : List Bytes)
    (count assembled : Nat) (result : (Nat × UInt32) ⊕ Unit) (endpoint : Endpoint σ) : Prop :=
  result.elim
    (fun loop => Pausing hdr data chunkCount earlier count loop endpoint ∧
      hdr.payloadLen.toNat - loop.1 < hdr.payloadLen.toNat - assembled)
    fun _ => ∃ ci, Pausing hdr data chunkCount earlier count (hdr.payloadLen.toNat, ci) endpoint

/-- A pass from the packet on: either it is refused, or there is room for what it carries. -/
theorem exits_placeChunk {assembled : Nat} {ci : UInt32} {before : Endpoint σ} (packet : Bytes)
    (fuel : Nat) (assembling : Assembling hdr data chunkCount earlier chunks assembled ci before)
    (small : headerSize + hdr.payloadLen.toNat ≤ u32Max)
    (missing : assembled < hdr.payloadLen.toNat) : Exits (fun endpoint : Endpoint σ =>
        packetsOf endpoint.trace = packetsOf before.trace ++ [packet] ∧
        endpoint.session.recvBuf = before.session.recvBuf ∧ Waited count endpoint)
      (do
        let data ← Prog.ofRes (checkChunk hdr chunkCount ci assembled packet)
        onRecvBuf (write assembled data)
        return .inl (assembled + data.length, ci + 1))
      (Passed hdr data chunkCount earlier count assembled)
      (Leaves fuel count earlier (Few hdr)) := by
  refine Exits.via _ ((exits_check (ordinary_checkChunk hdr chunkCount ci assembled packet)).mono
    (fun _ held => held) (fun _ _ held => held) ?_) fun carried => Exits.of_and fun checked => ?_
  · rintro reason endpoint ⟨failed, seen, -, -⟩
    refine ⟨halts_of_err failed, chunks ++ [packet], ?_, assembling.few missing (Nat.le_refl 1)⟩
    rw [seen, assembling.seen, List.append_assoc]
  · rintro endpoint ⟨seen, same, waited⟩
    obtain ⟨-, fits, -⟩ := checkChunk_eq_ok_iff.mp checked
    have room := assembling.room
    have carries := length_pos_of_checkChunk checked
    rw [Prog.run_bind_ok (run_onRecvBuf_write (by rw [same]; omega))]
    exact ⟨⟨⟨_, assembling.push small checked seen (by rw [same])⟩, waited⟩, by dsimp only; omega⟩

theorem exits_receiveChunk (small : headerSize + hdr.payloadLen.toNat ≤ u32Max)
    (loop : Nat × UInt32) : Exits (Pausing hdr data chunkCount earlier count loop)
      (receiveChunk os fuel controlled wait hdr chunkCount loop.1 loop.2)
      (Passed hdr data chunkCount earlier count loop.1)
      (Leaves fuel count earlier (Few hdr)) := by
  refine Exits.ite (fun missing => ?_) fun enough => ?_
  · rintro before ⟨⟨chunks, assembling⟩, waited⟩
    rw [Prog.run_bind_ok (run_getSession before)]
    refine Exits.via _ (exits_failingInflight ((exits_rawRecvControl os fuel _ controlled wait).mono
      (fun _ held => held) (fun _ _ held => held) ?_))
      (fun answer => Exits.of_exists fun packet => ?_)
      before ⟨⟨rfl, assembling.seen⟩, waited⟩
    · rintro reason endpoint ⟨halts, more, seen, one⟩
      exact ⟨halts, chunks ++ more, by rw [seen, List.append_assoc], assembling.few missing one⟩
    · rintro received ⟨⟨⟨session, seen⟩, waited⟩, rfl⟩
      dsimp only
      rw [Prog.run_bind_ok (run_modifySession _ _), readSlice_packet, Prog.ofRes_ok_bind]
      refine exits_placeChunk packet fuel assembling small missing _ ⟨?_, ?_, waited⟩
      · rw [assembling.seen, ← seen]
      · rw [← session]
  · refine Exits.pure _ fun endpoint held => ⟨loop.2, ?_⟩
    obtain ⟨⟨chunks, assembling⟩, waited⟩ := held
    have full : loop.1 = hdr.payloadLen.toNat :=
      Nat.le_antisymm assembling.bound (Nat.le_of_not_lt enough)
    exact ⟨⟨chunks, full ▸ assembling⟩, waited⟩

/-- Reassembly has room for every packet it takes, and takes few. What it returns is what the
packets carry. -/
theorem exits_receiveChunks (small : headerSize + hdr.payloadLen.toNat ≤ u32Max)
    (short : data.length ≤ hdr.payloadLen.toNat) {packetSize : UInt32}
    (large : headerSize < packetSize.toNat) :
    Exits (fun endpoint => packetsOf endpoint.trace = earlier ∧
        endpoint.session.packetSize = packetSize ∧ Waited count endpoint)
      (receiveChunks os fuel controlled wait hdr data)
      (fun message endpoint => ∃ chunks ci, Assembling hdr data
          (expectedChunkCount packetSize hdr data) earlier chunks hdr.payloadLen.toNat ci endpoint ∧
        message = (hdr, data ++ dataOf chunks) ∧ validateBatch message.1 message.2 = .ok ())
      (Leaves fuel count earlier (Few hdr)) := by
  rintro before ⟨seen, rfl, waited⟩
  have grown := le_length_grow before.session.recvBuf hdr.payloadLen.toNat
  rw [receiveChunks, Prog.run_bind_ok (run_modifySession _ _),
    Prog.run_bind_ok (run_onRecvBuf_write (by dsimp only; omega)),
    Prog.run_bind_ok (run_getSession _), if_neg (by dsimp only; omega)]
  dsimp only
  rw [Prog.run_bind_ok (run_modifySession _ _)]
  refine Exits.via _ (Exits.loop (Pausing hdr data _ earlier count)
    (fun loop => hdr.payloadLen.toNat - loop.1)
    (fun loop => exits_receiveChunk os fuel controlled wait small loop) _ _ (by dsimp only; omega))
    (fun _ => Exits.of_exists fun ci => ?_) _
    ⟨⟨[], by exact Assembling.start seen short grown rfl⟩, waited⟩
  rintro looped ⟨⟨chunks, assembling⟩, waited⟩
  rw [Prog.run_bind_ok (run_getSession _), readSlice_of_le (Nat.zero_le _) assembling.room,
    Prog.ofRes_ok_bind, Nat.sub_zero, assembling.bytes]
  refine Exits.via _ ((exits_check (ordinary_validateBatch hdr _)).mono (fun _ held => held)
    (fun _ _ held => held) ?_) (fun _ => Exits.pure _ ?_) looped (Eq.refl looped)
  · rintro reason endpoint ⟨failed, rfl⟩
    exact ⟨halts_of_err failed, chunks, assembling.seen, assembling.few_all⟩
  · rintro endpoint ⟨valid, rfl⟩
    exact ⟨chunks, ci, assembling, rfl, valid⟩

/-! ### The whole receive -/

/-- The payload length that the first of some packets declares. -/
def declaredLength : List Bytes → Nat
  | [] => 0
  | first :: _ =>
    match Header.decode first with
    | .ok hdr => hdr.payloadLen.toNat
    | .error _ => 0

/-- The packets of one receive are at most one more than the bytes the first one declares, and their
numbers are numbers on the wire: so is the number of packets the code expects. -/
structure Bounded (packetSize : UInt32) (received : List Bytes) : Prop where
  packets : received.length ≤ 1 + declaredLength received
  index : received.length < 2 ^ 32
  expected : headerSize + declaredLength received ≤ u32Max →
    ∀ remaining ≤ declaredLength received,
      1 + continuationChunks remaining (packetSize.toNat - headerSize) < 2 ^ 32

variable {packetSize : UInt32}

theorem bounded_of_length {received : List Bytes}
    (packets : received.length ≤ 1 + declaredLength received)
    (small : 1 < received.length → headerSize + declaredLength received ≤ u32Max) :
    Bounded packetSize received where
  packets := packets
  index := by
    rw [u32Max, headerSize] at small
    omega
  expected small remaining less := by
    have few := continuationChunks_le remaining (packetSize.toNat - headerSize)
    rw [u32Max, headerSize] at small
    omega

theorem bounded_of_few {first : Bytes} (decoded : Header.decode first = .ok hdr)
    (small : headerSize + hdr.payloadLen.toNat ≤ u32Max) (few : Few hdr chunks) :
    Bounded packetSize (first :: chunks) := by
  have declared : declaredLength (first :: chunks) = hdr.payloadLen.toNat := by
    rw [declaredLength, decoded]
  refine bounded_of_length ?_ fun _ => by rw [declared]; exact small
  rw [declared, List.length_cons, Nat.add_comm]
  exact Nat.add_le_add_left few 1

theorem bounded_of_one {received : List Bytes} (one : received.length ≤ 1) :
    Bounded packetSize received :=
  bounded_of_length (by omega) fun more => by omega

theorem Accepted.bounded {first payload : Bytes}
    (accepted : Accepted session hdr payload first chunks) :
    Bounded session.packetSize (first :: chunks) := by
  refine bounded_of_few (checkFirst_eq_ok_iff.mp accepted.checked).2.1 accepted.small ?_
  have length := accepted.length
  rw [accepted.carried, List.length_append] at length
  exact accepted.many.trans (by omega)

/-- What a receive leaves that returned a message. -/
def Took (session : UdsSession) (packets : List Bytes) (message : Header × Bytes)
    (endpoint : Endpoint σ) : Prop :=
  ∃ first chunks, packetsOf endpoint.trace = packets ++ first :: chunks ∧
    Accepted session message.1 message.2 first chunks ∧ validateBatch message.1 message.2 = .ok ()

/-- After the first packet and before the next one. -/
def Begun (packetSize : UInt32) (packets : List Bytes) (first : Bytes) (count : Nat)
    (endpoint : Endpoint σ) : Prop :=
  packetsOf endpoint.trace = packets ++ [first] ∧
    endpoint.session.packetSize = packetSize ∧ Waited count endpoint

section Begun

variable {first : Bytes} {fuel : Nat} {packetSize : UInt32}

theorem Begun.leaves {endpoint : Endpoint σ}
    (begun : Begun packetSize packets first count endpoint) {reason : Stop UdsError}
    (failed : ∃ error, reason = .err error) :
    Leaves fuel count packets (Bounded packetSize) reason endpoint :=
  ⟨halts_of_err failed, [first], begun.1, bounded_of_one (Nat.le_refl 1)⟩

theorem exits_begun_check {result : Res UdsError α} (ordinary : Ordinary IsCheck result) :
    Exits (Begun (σ := σ) packetSize packets first count) (Prog.ofRes result)
      (fun value endpoint => result = .ok value ∧ Begun packetSize packets first count endpoint)
      (Leaves fuel count packets (Bounded packetSize)) :=
  (exits_check ordinary).mono (fun _ held => held) (fun _ _ held => held)
    fun _ _ held => held.2.leaves held.1

theorem exits_begun_takeInflight (hdr : Header) :
    Exits (Begun (σ := σ) packetSize packets first count) (takeInflight hdr)
      (fun _ => Begun packetSize packets first count)
      (Leaves fuel count packets (Bounded packetSize)) := by
  refine Exits.via (fun _ => Begun packetSize packets first count) (fun _ begun => begun)
    fun self => Exits.ite (fun _ => Exits.ite (fun _ => ?_) fun _ => ?_) fun _ => ?_
  · exact Exits.modify _ fun _ begun => begun
  · exact Exits.stop _ fun _ begun => begun.leaves ⟨_, rfl⟩
  · exact Exits.pure _ fun _ begun => begun

end Begun

theorem exits_receiveMessage (large : headerSize < session.packetSize.toNat) :
    Exits (Heard session packets count) (receiveMessage os fuel buf controlled wait session)
      (Took session packets) (Leaves fuel count packets (Bounded session.packetSize)) := by
  refine Exits.via _ (exits_failingInflight ((exits_rawRecvControl os fuel buf controlled wait).mono
    (fun _ held => held) (fun _ _ held => held) ?_)) fun answer => Exits.of_exists fun first => ?_
  · rintro reason endpoint ⟨halts, received, seen, one⟩
    exact ⟨halts, received, seen, bounded_of_one one⟩
  · rintro received ⟨⟨⟨same, seen⟩, waited⟩, rfl⟩
    dsimp only
    rw [readSlice_packet, Prog.ofRes_ok_bind]
    refine Exits.via _ (exits_begun_check (ordinary_checkFirst session first))
      (fun hdr => Exits.of_and fun checked => ?_) received ⟨seen, congrArg _ same, waited⟩
    obtain ⟨long, decoded, -⟩ := checkFirst_eq_ok_iff.mp checked
    refine Exits.via _ (exits_begun_takeInflight hdr) fun _ => ?_
    refine Exits.via _ (exits_begun_check (ordinary_rejectIf (by trivial))) fun _ =>
      Exits.of_and fun small => ?_
    refine Exits.via _ (exits_begun_check (ordinary_rejectIf (by trivial))) fun _ =>
      Exits.of_and fun inside => ?_
    have small := Nat.le_of_not_lt (rejectIf_eq_ok small)
    have inside := Nat.le_of_not_lt (rejectIf_eq_ok inside)
    have length := List.length_drop (l := first) (i := headerSize)
    rw [readSlice_packet_data long, Prog.ofRes_ok_bind]
    refine Exits.ite (fun whole => ?_) fun _ => ?_
    · refine Exits.via _ (exits_begun_check (ordinary_validateBatch hdr _)) fun _ => ?_
      refine Exits.pure _ fun _ held => ⟨first, [], held.2.1, ?_, held.1⟩
      exact ⟨checked, small, nofun, Nat.le_refl _, (List.append_nil _).symm, by dsimp only; omega⟩
    · refine (exits_receiveChunks os fuel controlled wait small (by omega) large).mono
        (fun _ begun => begun) ?_ ?_
      · rintro _ endpoint ⟨chunks, ci, assembling, rfl, valid⟩
        refine ⟨first, chunks, ?_, ⟨checked, small, assembling.each, assembling.many, rfl, ?_⟩,
          valid⟩
        · rw [assembling.seen, List.append_assoc, List.singleton_append]
        · rw [List.length_append]
          exact assembling.size.symm
      · rintro reason endpoint ⟨halts, chunks, seen, few⟩
        exact ⟨halts, first :: chunks, by rw [seen, List.append_assoc, List.singleton_append],
          bounded_of_few decoded small few⟩

/-- Whatever the peer sends, a receive ends as it should, and every message it returns was accepted
packet by packet. -/
theorem exits_receiveWithControl (large : headerSize < session.packetSize.toNat) :
    Exits (Heard session packets count) (receiveWithControl os fuel buf timeoutMs abort)
      (Took session packets) (Leaves fuel count packets (Bounded session.packetSize)) := by
  have none : Bounded session.packetSize [] := bounded_of_one (Nat.zero_le 1)
  refine Exits.via (fun self endpoint => self = session ∧ Heard session packets count endpoint)
    (fun _ heard => ⟨heard.1.1, heard⟩) fun self => Exits.of_and ?_
  rintro rfl
  refine Exits.ite (fun _ => Exits.stop _ fun _ heard => ?_) fun _ => ?_
  · exact ⟨halts_of_err ⟨_, rfl⟩, [], by rw [List.append_nil, heard.1.2], none⟩
  · have kept := Exits.of_keeps ((calm_seen os).new timeoutMs abort) (· = (self, packets))
    refine Exits.via _ ((kept.conj (prompt_new os timeoutMs abort count)).mono ?_ ?_ ?_)
      fun wait => exits_receiveMessage os fuel buf _ wait large
    · exact fun _ held => ⟨Prod.ext held.1.1 held.1.2, held.2⟩
    · exact fun _ _ held => ⟨⟨congrArg Prod.fst held.1, congrArg Prod.snd held.1⟩, held.2⟩
    · refine fun _ _ held => ⟨halts_of_err held.2, [], ?_, none⟩
      rw [List.append_nil]
      exact congrArg Prod.snd held.1

/-! ### Messages of several packets -/

/-- A message that a session returns after more than one packet arrived in a well-formed packet
sequence exactly when the packets after the first are compact. This is for every peer, every way
the waiting goes, and every state of the session. -/
theorem receiveWithControl_wellFormed_iff (os : Os σ) (fuel : Nat) (buf : Bytes)
    (timeoutMs : UInt32) (abort : Bool) (before after : Endpoint σ) (hdr : Header) (payload : Bytes)
    (large : headerSize < before.session.packetSize.toNat)
    (ran : (receiveWithControl os fuel buf timeoutMs abort).run before =
      (.ok (hdr, payload), after)) :
    ∃ packets, packetsOf after.trace = packetsOf before.trace ++ packets ∧
      (1 < packets.length →
        (WellFormedPackets hdr payload packets ↔
          Compact (before.session.packetSize.toNat - headerSize) packets.tail)) := by
  have exits := exits_receiveWithControl os timeoutMs abort fuel buf large before
    ⟨⟨rfl, rfl⟩, Nat.le_refl _⟩
  rw [ran] at exits
  obtain ⟨first, chunks, seen, accepted, -⟩ := exits
  refine ⟨first :: chunks, seen, fun several => ?_⟩
  rw [List.length_cons] at several
  exact accepted.wellFormed_iff large (by omega)

/-- A server session with packets of 64 bytes, of which 32 are payload. -/
def smallPackets : UdsSession := .fresh .server 1024 64

/-- The header of a request of `size` bytes. -/
def requestOf (size : UInt32) : Header where
  magic := magicMsg
  version := NetIpc.version
  headerLen := NetIpc.headerLen
  kind := kindRequest
  code := methodAppsLookup
  payloadLen := size
  itemCount := 1
  messageId := 7

/-- Chunk `index` of the two a message of `size` bytes declares, with `data` in it. -/
def chunkOfTwo (size index : UInt32) (data : Bytes) : Bytes :=
  ChunkHeader.image {
    magic := magicChunk
    version := NetIpc.version
    messageId := 7
    totalMessageLen := 32 + size
    chunkIndex := index
    chunkCount := 2
    chunkPayloadLen := UInt32.ofNat data.length } ++ data

/-- A payload of 33 bytes in two packets. -/
def fullPackets : List Bytes :=
  [(requestOf 33).image ++ zeros 32, chunkOfTwo 33 1 [9]]

/-- Both packets are read, their chunks are compact, and so the packets are well formed. -/
theorem wellFormed_iff_fullPackets :
    packetsOf ((receive queueOs (zeros 1056)).run ⟨smallPackets, fullPackets, []⟩).2.trace =
        fullPackets ∧
      Compact (64 - headerSize) fullPackets.tail ∧
      WellFormedPackets (requestOf 33) (zeros 32 ++ [9]) fullPackets := by
  have ran : (receive queueOs (zeros 1056)).run ⟨smallPackets, fullPackets, []⟩ =
      (.ok (requestOf 33, zeros 32 ++ [9]), _) := Prog.run_of_fst (by decide +kernel)
  have read : packetsOf
      ((receive queueOs (zeros 1056)).run ⟨smallPackets, fullPackets, []⟩).2.trace =
        fullPackets := by decide +kernel
  have compact : Compact (64 - headerSize) fullPackets.tail := by unfold Compact; decide +kernel
  obtain ⟨packets, seen, several⟩ :=
    receiveWithControl_wellFormed_iff queueOs 0 (zeros 1056) 0 false _ _ _ _ (by decide) ran
  obtain rfl : packets = fullPackets := seen.symm.trans read
  exact ⟨read, compact, (several (by decide)).mpr compact⟩

/-- A payload of three bytes, one in each of three packets. -/
def thinPackets : List Bytes :=
  [(requestOf 3).image ++ [1], chunkOfTwo 3 1 [2], chunkOfTwo 3 2 [3]]

/-- Three packets that declare two are accepted: chunk 2 of 2 does not exist. -/
theorem not_wellFormed_thinPackets :
    ((receive queueOs (zeros 1056)).run ⟨smallPackets, thinPackets, []⟩).1 =
        .ok (requestOf 3, [1, 2, 3]) ∧
      packetsOf ((receive queueOs (zeros 1056)).run ⟨smallPackets, thinPackets, []⟩).2.trace =
        thinPackets ∧
      ¬ WellFormedPackets (requestOf 3) [1, 2, 3] thinPackets := by
  refine ⟨by decide +kernel, by decide +kernel, fun wellFormed => ?_⟩
  obtain ⟨chunkCount, counted, each⟩ := wellFormed.numbered
  obtain ⟨chk, decoded, -, number, inside, -⟩ := each 2 _ (by decide) rfl
  have declared : (ChunkHeader.decode (chunkOfTwo 3 2 [3])).toOption.map ChunkHeader.chunkCount =
    some 2 := by decide +kernel
  rw [decoded] at declared
  rw [Option.some.inj declared] at inside
  exact absurd inside (by decide)

/-! ### Safety -/

/-- Whatever the peer sends, a receive does not panic, comes back unless its waiting is interrupted
once for every unit of fuel, and takes no more packets than the first one announces bytes, and one.
What it returns is as long as its header says and within the limits, and every item of a batch can
be read. -/
theorem receiveWithControl_safe (os : Os σ) (fuel : Nat) (buf : Bytes) (timeoutMs : UInt32)
    (abort : Bool) (before after : Endpoint σ) (result : Res UdsError (Header × Bytes))
    (large : headerSize < before.session.packetSize.toNat)
    (ran : (receiveWithControl os fuel buf timeoutMs abort).run before = (result, after)) :
    result ≠ .error .panic ∧
    (result = .error .fuel → interruptions before.trace + fuel ≤ interruptions after.trace) ∧
    (∃ received, packetsOf after.trace = packetsOf before.trace ++ received ∧
      Bounded before.session.packetSize received) ∧
    ∀ hdr payload, result = .ok (hdr, payload) →
      payload.length = hdr.payloadLen.toNat ∧
      hdr.payloadLen ≤ (receiveLimits before.session).1 ∧
      hdr.itemCount ≤ (receiveLimits before.session).2 ∧
      (1 ≤ hdr.kind ∧ hdr.kind ≤ 3) ∧
      (hdr.flags &&& flagBatch ≠ 0 → 1 < hdr.itemCount →
        ∀ index < hdr.itemCount, ∃ item, batchItemGet payload hdr.itemCount index = .ok item) := by
  have exits := exits_receiveWithControl os timeoutMs abort fuel buf large before
    ⟨⟨rfl, rfl⟩, Nat.le_refl _⟩
  rw [ran] at exits
  match result with
  | .error reason =>
    obtain ⟨⟨calm, starved⟩, bounded⟩ := exits
    exact ⟨fun same => calm (Except.error.inj same), fun same => starved (Except.error.inj same),
      bounded, nofun⟩
  | .ok (hdr, payload) =>
    obtain ⟨first, chunks, seen, accepted, valid⟩ := exits
    refine ⟨nofun, nofun, ⟨_, seen, accepted.bounded⟩, ?_⟩
    rintro _ _ ⟨⟩
    obtain ⟨-, decoded, inLimit, items⟩ := checkFirst_eq_ok_iff.mp accepted.checked
    have representable : payload.length ≤ u32Max := by
      rw [accepted.length]
      exact (Nat.le_add_left _ _).trans accepted.small
    exact ⟨accepted.length, inLimit, items, (Header.wellFormed_of_decode decoded).kind,
      fun batch many _ inside =>
        ((validateBatch_eq_ok_iff representable).mp valid batch many).batchItemGet inside⟩

theorem receiveWithControl_safe_fullPackets :
    ∃ received,
      packetsOf ((receiveWithControl queueOs 1 (zeros 1056) 50 true).run
        ⟨smallPackets, fullPackets, []⟩).2.trace = packetsOf [] ++ received ∧
      Bounded smallPackets.packetSize received := by
  have ran : (receiveWithControl queueOs 1 (zeros 1056) 50 true).run
      ⟨smallPackets, fullPackets, []⟩ = (.ok (requestOf 33, zeros 32 ++ [9]), _) :=
    Prog.run_of_fst (by decide +kernel)
  exact (receiveWithControl_safe queueOs 1 (zeros 1056) 50 true _ _ _ (by decide) ran).2.2.1

end NetIpc.Uds
