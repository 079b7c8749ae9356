/-
This file proves what the ids in flight of a client session are good for: over every
sequence of sends and receives, and against every peer, no request is answered more
often than it was sent.

One send and one receive each have one statement about the set of ids: which id joins
it or leaves it, and that a failed packet empties it. `Conversation` is any sequence of
calls that returned, with what they returned. Its invariant counts: what was returned
for an id, plus one when the id is in flight, is at most what was sent.
-/

import Mathlib.Data.Finset.Basic
import NetIpc.UdsTerms

namespace NetIpc.Uds

variable {σ α : Type}

/-! ### The ids in flight -/

/-- The role of a session and its ids in flight. -/
def flight (endpoint : Endpoint σ) : Role × Finset UInt64 :=
  (endpoint.session.role, endpoint.session.inflightIds)

theorem still_flight : Still (flight (σ := σ)) := fun _ _ _ _ _ => rfl

/-- A client session with these ids in flight. -/
def InFlight (ids : Finset UInt64) (endpoint : Endpoint σ) : Prop :=
  flight endpoint = (.client, ids)

theorem InFlight.role {ids : Finset UInt64} {endpoint : Endpoint σ}
    (inFlight : InFlight ids endpoint) :
    endpoint.session.role = .client := congrArg Prod.fst inFlight

theorem InFlight.outstanding {ids : Finset UInt64} {endpoint : Endpoint σ}
    (inFlight : InFlight ids endpoint) : endpoint.session.inflightIds = ids :=
  congrArg Prod.snd inFlight

variable {ids : Finset UInt64}

/-- A program that leaves the ids alone, with any property of its errors. -/
theorem inFlight_of_keeps {program : UdsProg σ α} (keeps : Keeps flight program) :
    Triple (InFlight ids) program (fun _ => InFlight ids) fun _ => InFlight ids :=
  keeps.triple (· = (.client, ids))

theorem failAllInflight_triple {blame : UdsError → Endpoint σ → Prop} :
    Triple (InFlight ids) failAllInflight (fun _ => InFlight ∅) blame := by
  intro endpoint inFlight
  show flight { endpoint with session := if endpoint.session.role = .client then _ else _ } = _
  rw [if_pos inFlight.role, flight, inFlight.role]

/-! ### One send -/

/-- A failure of the socket. -/
def IsPacketFailure : UdsError → Prop
  | .send _ | .recv _ | .timeout | .aborted => True
  | _ => False

/-- After an error some ids may be gone; after a failed packet all of them are. -/
def Lost (ids : Finset UInt64) (error : UdsError) (endpoint : Endpoint σ) : Prop :=
  ∃ left ⊆ ids, InFlight left endpoint ∧ (IsPacketFailure error → left = ∅)

theorem InFlight.lost {endpoint : Endpoint σ} {error : UdsError}
    (inFlight : InFlight ids endpoint) (other : ¬ IsPacketFailure error) :
    Lost ids error endpoint :=
  ⟨ids, Finset.Subset.refl ids, inFlight, fun failure => absurd failure other⟩

theorem InFlight.lost_all {endpoint : Endpoint σ} {error : UdsError}
    (inFlight : InFlight ∅ endpoint) : Lost ids error endpoint :=
  ⟨∅, Finset.empty_subset ids, inFlight, fun _ => rfl⟩

/-- The ids in flight when a message with this header has been sent. -/
def joining (ids : Finset UInt64) (hdr : Header) : Finset UInt64 :=
  if hdr.kind = kindRequest then insert hdr.messageId ids else ids

variable (os : Os σ) (hdr : Header) {endpoint : Endpoint σ}

/-- A failed send takes its own id back, and a failed packet takes them all. -/
theorem rollback_triple (fresh : hdr.messageId ∉ ids) (error : UdsError)
    (either : IsSendFailure error)
    {blame : UdsError → Endpoint σ → Prop} : Triple (InFlight (insert hdr.messageId ids))
      (rollback true hdr.messageId error : UdsProg σ Unit) (fun _ => Lost ids error) blame := by
  refine Exits.ite (fun _ => ?_) fun untracked => absurd rfl untracked
  split
  · exact failAllInflight_triple.mono (fun _ start => start) (fun _ _ gone => gone.lost_all)
      fun _ _ held => held
  · rename_i _ other
    refine Exits.modify _ fun endpoint inFlight => ?_
    have kept : InFlight ids ({ endpoint with session := { endpoint.session with
        inflightIds := endpoint.session.inflightIds.erase hdr.messageId } } : Endpoint σ) := by
      show (endpoint.session.role, endpoint.session.inflightIds.erase hdr.messageId) = _
      rw [inFlight.role, inFlight.outstanding, Finset.erase_insert fresh]
    refine kept.lost fun failure => ?_
    match error with
    | .send errno => exact other errno rfl
    | .badParam _ => exact failure

theorem send_triple (payload : Bytes) : Triple (InFlight ids) (send os hdr payload)
      (fun _ => InFlight (joining ids hdr))
      fun error endpoint => ∃ left ⊆ ids, InFlight left endpoint ∧
        (hdr.kind = kindRequest → IsPacketFailure error → left = ∅) := by
  have refused {error : UdsError} (other : ¬ IsPacketFailure error) (endpoint : Endpoint σ)
      (inFlight : InFlight ids endpoint) : ∃ left ⊆ ids, InFlight left endpoint ∧
        (hdr.kind = kindRequest → IsPacketFailure error → left = ∅) :=
    ⟨ids, Finset.Subset.refl ids, inFlight, fun _ failure => absurd failure other⟩
  refine Exits.via (fun self endpoint => (self.role = .client ∧ self.inflightIds = ids) ∧
      InFlight ids endpoint)
      (fun endpoint inFlight => ⟨⟨inFlight.role, inFlight.outstanding⟩, inFlight⟩)
    fun self => Exits.of_and ?_
  rintro ⟨client, rfl⟩
  refine Exits.ite (fun _ => refused id) fun _ => Exits.ite (fun _ => refused id) fun _ => ?_
  refine Exits.ite (fun _ => refused id) fun _ => ?_
  have tracking : decide (self.role = .client ∧ hdr.kind = kindRequest) =
      decide (hdr.kind = kindRequest) := by
    rw [client]
    simp only [true_and]
  rw [tracking]
  by_cases request : hdr.kind = kindRequest
  · rw [decide_eq_true request]
    refine Exits.ite (fun _ => refused id) fun passed => ?_
    have fresh : hdr.messageId ∉ self.inflightIds := fun known => passed ⟨rfl, known⟩
    refine Exits.via (fun _ => InFlight (insert hdr.messageId self.inflightIds))
      (Exits.modify _ fun endpoint inFlight => ?_) fun _ => ?_
    · show (endpoint.session.role, insert hdr.messageId endpoint.session.inflightIds) = _
      rw [inFlight.role, inFlight.outstanding]
    · have kept : Triple (InFlight (insert hdr.messageId self.inflightIds)) _ _ _ :=
        inFlight_of_keeps ((still_flight.calling os).sendInner (fillEnvelope hdr payload) payload)
      have inner := kept.conj ((sendInner_blame os (fillEnvelope hdr payload) payload).mono
        (fun _ _ => trivial) (fun _ _ held => held) fun _ _ held => held)
      refine Triple.inspect inner (fun _ => Exits.pure _ fun _ sent => ?_) (fun error => ?_)
        (fun _ _ => trivial) fun _ _ => trivial
      · rw [joining, if_pos request]
        exact sent.1
      · refine Exits.via (fun _ => Lost self.inflightIds error) ?_ fun _ => ?_
        · intro endpoint ⟨inFlight, either⟩
          exact rollback_triple hdr fresh error either endpoint inFlight
        · exact Triple.fail _ fun _ ⟨left, fewer, inFlight, failed⟩ =>
            ⟨left, fewer, inFlight, fun _ => failed⟩
  · rw [decide_eq_false request]
    refine Exits.ite (fun tracked => absurd tracked.1 nofun) fun _ => ?_
    refine Exits.via (fun _ => InFlight self.inflightIds) (fun _ inFlight => inFlight) fun _ => ?_
    refine Triple.inspect (inFlight_of_keeps ((still_flight.calling os).sendInner _ payload))
      (fun _ => Exits.pure _ fun _ sent => ?_) (fun error => ?_) (fun _ _ => trivial)
      fun _ _ => trivial
    · rw [joining, if_neg request]
      exact sent
    · exact fun _ inFlight => ⟨_, Finset.Subset.refl _, inFlight, fun same => absurd same request⟩

/-! ### One receive -/

theorem Lost.mono {fewer : Finset UInt64} {error : UdsError} (lost : Lost fewer error endpoint)
    (subset : fewer ⊆ ids) : Lost ids error endpoint :=
  let ⟨left, part, inFlight, failed⟩ := lost
  ⟨left, part.trans subset, inFlight, failed⟩

theorem failingInflight_triple {program : UdsProg σ α} (keeps : Keeps flight program) :
    Triple (InFlight ids) (failingInflight program) (fun _ => InFlight ids) (Lost ids) := by
  refine Triple.inspect (inFlight_of_keeps keeps) (fun _ => Exits.pure _ fun _ held => held)
    (fun error => ?_) (fun _ _ => trivial) fun _ _ => trivial
  exact Exits.via (fun _ => InFlight ∅) failAllInflight_triple fun _ =>
    Triple.fail error fun _ gone => gone.lost_all

/-- The ids that stay in flight when a message with this header has been seen. -/
def staying (ids : Finset UInt64) (hdr : Header) : Finset UInt64 :=
  if hdr.kind = kindResponse then ids.erase hdr.messageId else ids

theorem staying_subset : staying ids hdr ⊆ ids := by
  unfold staying
  split
  · exact Finset.erase_subset _ _
  · exact Finset.Subset.refl ids

theorem takeInflight_triple : Triple (InFlight ids) (takeInflight hdr : UdsProg σ Unit)
      (fun _ endpoint => (hdr.kind = kindResponse → hdr.messageId ∈ ids) ∧
        InFlight (staying ids hdr) endpoint) (Lost ids) := by
  refine Exits.via (fun self endpoint => (self.role = .client ∧ self.inflightIds = ids) ∧
      InFlight ids endpoint)
      (fun endpoint inFlight => ⟨⟨inFlight.role, inFlight.outstanding⟩, inFlight⟩)
    fun self => Exits.of_and ?_
  rintro ⟨client, rfl⟩
  refine Exits.ite (fun response => Exits.ite (fun known => ?_) fun _ => ?_) fun other => ?_
  · refine Exits.modify _ fun endpoint inFlight => ⟨fun _ => known, ?_⟩
    show (endpoint.session.role, endpoint.session.inflightIds.erase hdr.messageId) = _
    rw [inFlight.role, inFlight.outstanding, staying, if_pos response.2]
  · exact Triple.fail _ fun _ inFlight => inFlight.lost id
  · have kind : hdr.kind ≠ kindResponse := fun same => other ⟨client, same⟩
    refine Exits.pure _ fun _ inFlight => ⟨fun same => absurd same kind, ?_⟩
    rw [staying, if_neg kind]
    exact inFlight

/-- Receiving goes on with the ids that are in flight, whatever else is known by then. -/
theorem receiving_inFlight (fuel : Nat) (controlled : Bool) (wait : ReceiveWait) (known : Prop)
    {left : Finset UInt64} (subset : left ⊆ ids) :
    Receiving os fuel controlled wait (fun endpoint => known ∧ InFlight left endpoint)
      (Blames (Lost ids)) where
  packet buf := Exits.of_and fun fact => (failingInflight_triple
    ((still_flight.calling os).rawRecvControl fuel buf controlled wait)).mono (fun _ held => held)
    (fun _ _ held => ⟨fact, held⟩) fun _ _ lost => lost.mono subset
  buffers _ _ _ held := held
  halted reason endpoint check held := .of_forall fun error failed =>
    (held.2.lost fun failure => by
      have about := check error failed
      cases error <;> first | exact failure | exact about).mono subset

theorem receiveWithControl_triple (fuel : Nat) (buf : Bytes) (timeoutMs : UInt32) (abort : Bool) :
    Triple (InFlight ids) (receiveWithControl os fuel buf timeoutMs abort)
      (fun message endpoint => (message.1.kind = kindResponse → message.1.messageId ∈ ids) ∧
        InFlight (staying ids message.1) endpoint) (Lost ids) := by
  have made : Triple (InFlight ids) (ReceiveWait.new os timeoutMs abort)
      (fun _ endpoint => True ∧ InFlight ids endpoint) (Lost ids) :=
    Exits.ite (fun _ _ held => ⟨trivial, held⟩) fun _ _ held => ⟨trivial, held⟩
  refine receiveWithControl_exits (fun _ held => held.lost id) made fun controlled wait self => ?_
  -- Once the message id has been looked at it is gone, whatever becomes of the rest.
  exact (receiving_inFlight os fuel controlled wait True (Finset.Subset.refl ids)).receiveMessage
    (fun hdr => Exits.of_and fun _ => takeInflight_triple hdr)
    (fun hdr => receiving_inFlight os fuel controlled wait _ (staying_subset hdr)) buf self

/-! ### Sequences of calls -/

/-- A call on a session. -/
inductive Call where
  | send (hdr : Header) (payload : Bytes)
  | receive (fuel : Nat) (buf : Bytes) (timeoutMs : UInt32) (abort : Bool)
  deriving Repr, DecidableEq

/-- A call that was made, and what it returned. -/
inductive Entry where
  | sent (hdr : Header) (result : Res UdsError Header)
  | received (result : Res UdsError (Header × Bytes))

/-- Make a call. -/
def Call.make (os : Os σ) (endpoint : Endpoint σ) : Call → Entry × Endpoint σ
  | .send hdr payload => ((Uds.send os hdr payload).run endpoint).map (.sent hdr) id
  | .receive fuel buf timeoutMs abort =>
    ((receiveWithControl os fuel buf timeoutMs abort).run endpoint).map .received id

/-- A call that came back to its caller. -/
def Entry.returned : Entry → Bool
  | .sent _ (.ok _) | .sent _ (.error (.err _)) => true
  | .received (.ok _) | .received (.error (.err _)) => true
  | _ => false

/-- Make the calls one after the other, up to one that does not come back: the calls that did, and
the session afterwards. -/
def converse (os : Os σ) : List Call → Endpoint σ → List Entry × Endpoint σ
  | [], endpoint => ([], endpoint)
  | call :: calls, endpoint =>
    let made := call.make os endpoint
    if made.1.returned then
      (made.1 :: (converse os calls made.2).1, (converse os calls made.2).2)
    else ([], made.2)

/-- Whether a call sent a request with this id. -/
def Entry.requests (id : UInt64) : Entry → Bool
  | .sent hdr (.ok _) => hdr.kind = kindRequest ∧ hdr.messageId = id
  | _ => false

/-- Whether a call returned a response with this id. -/
def Entry.responds (id : UInt64) : Entry → Bool
  | .received (.ok (hdr, _)) => hdr.kind = kindResponse ∧ hdr.messageId = id
  | _ => false

/-- The packet of a request could not be sent, or no packet could be received. -/
def Entry.PacketFailed : Entry → Prop
  | .sent hdr (.error (.err error)) => hdr.kind = kindRequest ∧ IsPacketFailure error
  | .received (.error (.err error)) => IsPacketFailure error
  | _ => False

/-- How often a request with this id was sent. -/
def requests (id : UInt64) (entries : List Entry) : Nat := entries.countP (Entry.requests id)

/-- How often a response with this id was returned. -/
def responses (id : UInt64) (entries : List Entry) : Nat := entries.countP (Entry.responds id)

/-- One when the id is in flight. -/
def waiting (ids : Finset UInt64) (id : UInt64) : Nat := if id ∈ ids then 1 else 0

theorem waiting_mono {fewer : Finset UInt64} (subset : fewer ⊆ ids) (id : UInt64) :
    waiting fewer id ≤ waiting ids id := by
  unfold waiting
  split
  · rw [if_pos (subset ‹_›)]
  · exact Nat.zero_le _

theorem requests_cons (id : UInt64) (entry : Entry) (entries : List Entry) :
    requests id (entry :: entries) = (entry.requests id).toNat + requests id entries := by
  rw [requests, List.countP_cons, Nat.add_comm]
  cases entry.requests id <;> rfl

theorem responses_cons (id : UInt64) (entry : Entry) (entries : List Entry) :
    responses id (entry :: entries) = (entry.responds id).toNat + responses id entries := by
  rw [responses, List.countP_cons, Nat.add_comm]
  cases entry.responds id <;> rfl

/-- The ids in flight after a call, against those before it. -/
structure Accounts (before after : Finset UInt64) (entry : Entry) : Prop where
  balance : ∀ id, (entry.responds id).toNat + waiting after id ≤
    (entry.requests id).toNat + waiting before id
  failed : entry.PacketFailed → after = ∅

theorem accounts_of_subset {after : Finset UInt64} {entry : Entry} (subset : after ⊆ ids)
    (silent : ∀ id, entry.responds id = false) (failed : entry.PacketFailed → after = ∅) :
    Accounts ids after entry where
  balance id := by
    rw [silent id, Bool.toNat_false, Nat.zero_add]
    exact (waiting_mono subset id).trans (Nat.le_add_left _ _)
  failed := failed

theorem accounts_sent (sent : Header) : Accounts ids (joining ids hdr) (.sent hdr (.ok sent)) where
  balance id := by
    simp only [Entry.responds, Entry.requests, joining, waiting, Bool.toNat_false]
    grind
  failed := nofun

theorem accounts_received (payload : Bytes)
    (known : hdr.kind = kindResponse → hdr.messageId ∈ ids) :
    Accounts ids (staying ids hdr) (.received (.ok (hdr, payload))) where
  balance id := by
    simp only [Entry.responds, Entry.requests, staying, waiting, Bool.toNat_false]
    grind
  failed := nofun

/-- What one call does to the ids in flight. -/
theorem make_accounts (call : Call) (inFlight : InFlight ids endpoint)
    (returned : (call.make os endpoint).1.returned = true) :
    ∃ left, InFlight left (call.make os endpoint).2 ∧
      Accounts ids left (call.make os endpoint).1 := by
  cases call with
  | send hdr payload =>
    simp only [Call.make] at returned ⊢
    match ran : (Uds.send os hdr payload).run endpoint with
    | (.ok sent, after) =>
      have held := (send_triple os hdr payload).post_of_run inFlight ran
      exact ⟨joining ids hdr, held, accounts_sent hdr sent⟩
    | (.error (.err error), after) =>
      obtain ⟨left, subset, held, failed⟩ := (send_triple os hdr payload).blame_of_run inFlight ran
      exact ⟨left, held, accounts_of_subset subset (fun _ => rfl)
        fun failure => failed failure.1 failure.2⟩
    | (.error .panic, _) | (.error .fuel, _) =>
      rw [ran] at returned
      cases returned
  | receive fuel buf timeoutMs abort =>
    simp only [Call.make] at returned ⊢
    have triple : Triple (InFlight ids) _ _ _ :=
      receiveWithControl_triple os fuel buf timeoutMs abort
    match ran : (receiveWithControl os fuel buf timeoutMs abort).run endpoint with
    | (.ok (hdr, payload), after) =>
      obtain ⟨known, held⟩ := triple.post_of_run inFlight ran
      exact ⟨staying ids hdr, held, accounts_received hdr payload known⟩
    | (.error (.err error), after) =>
      obtain ⟨left, subset, held, failed⟩ := triple.blame_of_run inFlight ran
      exact ⟨left, held, accounts_of_subset subset (fun _ => rfl) failed⟩
    | (.error .panic, _) | (.error .fuel, _) =>
      rw [ran] at returned
      cases returned

/-- What was returned for an id is covered by what was sent, and by what was in flight. -/
theorem responses_le (calls : List Call) (id : UInt64) (inFlight : InFlight ids endpoint) :
    responses id (converse os calls endpoint).1 ≤
      requests id (converse os calls endpoint).1 + waiting ids id := by
  induction calls generalizing endpoint ids with
  | nil => exact Nat.zero_le _
  | cons call calls ih =>
    simp only [converse]
    split
    · obtain ⟨left, held, accounts⟩ := make_accounts os call inFlight ‹_›
      have rest := ih held
      have one := accounts.balance id
      show responses id (_ :: _) ≤ requests id (_ :: _) + _
      rw [responses_cons, requests_cons]
      omega
    · exact Nat.zero_le _

/-- After a failed packet the count starts again. -/
theorem responses_le_later (calls : List Call) (id : UInt64) (inFlight : InFlight ids endpoint)
    {earlier later : List Entry} {entry : Entry}
    (made : (converse os calls endpoint).1 = earlier ++ entry :: later)
    (failed : entry.PacketFailed) : responses id later ≤ requests id later := by
  induction calls generalizing endpoint ids earlier with
  | nil => cases earlier <;> cases made
  | cons call calls ih =>
    simp only [converse] at made
    split at made
    · obtain ⟨left, held, accounts⟩ := make_accounts os call inFlight ‹_›
      cases earlier with
      | nil =>
        cases made
        have empty := accounts.failed failed
        exact responses_le os calls id (empty ▸ held)
      | cons first earlier => exact ih held (List.cons.inj made).2
    · cases earlier <;> cases made

theorem converse_terms (calls : List Call) (endpoint : Endpoint σ) :
    terms (converse os calls endpoint).2 = terms endpoint := by
  induction calls generalizing endpoint with
  | nil => rfl
  | cons call calls ih =>
    have one : terms (call.make os endpoint).2 = terms endpoint := by
      cases call with
      | send hdr payload => exact send_keeps os hdr payload endpoint
      | receive fuel buf timeoutMs abort =>
        exact receiveWithControl_keeps os fuel buf timeoutMs abort endpoint
    simp only [converse]
    split
    · exact (ih _).trans one
    · exact one

/-- A request whose id is in flight is refused before anything happens. -/
theorem run_send_duplicate {hdr : Header} {payload : Bytes}
    (client : endpoint.session.role = .client) (opened : 0 ≤ endpoint.session.fd)
    (request : hdr.kind = kindRequest)
    (short : payload.length ≤ endpoint.session.maxRequestPayloadBytes.toNat)
    (representable : payload.length ≤ u32Max - headerSize)
    (few : hdr.itemCount ≤ endpoint.session.maxRequestBatchItems)
    (known : hdr.messageId ∈ endpoint.session.inflightIds) : (send os hdr payload).run endpoint =
      (.error (.err (.duplicateMsgId hdr.messageId)), endpoint) := by
  have limits : sendLimits endpoint.session =
    (endpoint.session.maxRequestPayloadBytes, endpoint.session.maxRequestBatchItems) :=
      if_pos client
  rw [send, Prog.run_bind, run_getSession]
  dsimp only
  rw [limits, if_neg (Int.not_lt.mpr opened), if_neg (by dsimp only; omega),
    if_neg (UInt32.not_lt.mpr few), if_pos ⟨decide_eq_true ⟨client, request⟩, known⟩]
  rfl

/-- The ids in flight do their work: whatever the calls on a fresh client session and whatever
the peer does, a request is answered at most as often as it was sent; a request that is in flight
cannot be sent again; and a failed packet puts an end to every request before it. -/
theorem converse_answers (os : Os σ) (start : Endpoint σ) (client : start.session.role = .client)
    (opened : 0 ≤ start.session.fd) (fresh : start.session.inflightIds = ∅) (calls : List Call) :
    (∀ id, responses id (converse os calls start).1 ≤ requests id (converse os calls start).1) ∧
    (∀ hdr payload, hdr.kind = kindRequest →
      payload.length ≤ start.session.maxRequestPayloadBytes.toNat →
      payload.length ≤ u32Max - headerSize →
      hdr.itemCount ≤ start.session.maxRequestBatchItems →
      hdr.messageId ∈ (converse os calls start).2.session.inflightIds →
      (send os hdr payload).run (converse os calls start).2 =
        (.error (.err (.duplicateMsgId hdr.messageId)), (converse os calls start).2)) ∧
    ∀ earlier entry later, (converse os calls start).1 = earlier ++ entry :: later →
      entry.PacketFailed → ∀ id, responses id later ≤ requests id later := by
  have inFlight : InFlight ∅ start := by
    rw [InFlight, flight, client, fresh]
  refine ⟨fun id => responses_le os calls id inFlight, ?_, ?_⟩
  · intro hdr payload request short representable few known
    have same := converse_terms os calls start
    have fd := congrArg Terms.fd same
    have role := congrArg Terms.role same
    have bytes := congrArg Terms.maxRequestPayloadBytes same
    have items := congrArg Terms.maxRequestBatchItems same
    simp only [terms, termsOf] at fd role bytes items
    exact run_send_duplicate os (role.trans client) (fd ▸ opened) request (bytes ▸ short)
      representable (items ▸ few) known
  · intro earlier entry later made failed id
    exact responses_le_later os calls id inFlight made failed

/-- A client session whose peer has already written one response with id 7. -/
def answeredOnce : Endpoint (List Bytes) where
  session := .fresh .client 64 96
  os := [encodeHeader (fillEnvelope { kind := kindResponse, messageId := 7, itemCount := 1 } [])]
  trace := []

/-- The request is sent, refused when it is sent again, and answered. -/
def askTwice : List Call :=
  [.send { kind := kindRequest, messageId := 7, itemCount := 1 } [1],
    .send { kind := kindRequest, messageId := 7, itemCount := 1 } [2],
    .receive 0 (zeros 96) 0 false]

theorem converse_answers_askTwice :
    (requests 7 (converse queueOs askTwice answeredOnce).1 = 1 ∧
      responses 7 (converse queueOs askTwice answeredOnce).1 = 1) ∧
    ∀ id, responses id (converse queueOs askTwice answeredOnce).1 ≤
      requests id (converse queueOs askTwice answeredOnce).1 :=
  ⟨by decide +kernel, (converse_answers queueOs answeredOnce rfl (by decide) rfl askTwice).1⟩

end NetIpc.Uds
