/-
This file proves what a lookup returns, against any server: one item for each key,
in order, each of them the raw item that was received for its key.

The loop carries one invariant about its variables and the log of the lookup: the
raw items so far answer the first keys, each comes from an entry of the log, and all
answers have one generation. The two methods enter with one fact only, that the item
a method makes by itself answers its key.
-/

import NetIpc.ClientCall
import NetIpc.ClientLookup
import NetIpc.RawResponse
import NetIpc.Verdicts

namespace NetIpc

variable {κ α : Type}

/-! ### Items of an answer -/

/-- An item that answers a key: it can be decoded, echoes the key and did fit. -/
def LookupMethod.Answers (method : LookupMethod κ α) (key : κ) (bytes : Bytes) : Prop :=
  ∃ value, method.codec.decodeItem bytes = .ok value ∧ method.echo value = .ok key ∧
    method.status value ≠ method.payloadExceeded

/-- An item a method makes by itself: it can be decoded and says the key is too large. -/
def LookupMethod.Placeholder (method : LookupMethod κ α) (key : κ) (bytes : Bytes) : Prop :=
  method.oversizedRequestItem key = .ok bytes ∧ ∃ value, method.codec.decodeItem bytes = .ok value ∧
    method.echo value = .ok key ∧ method.status value = method.oversized

/-- What a lookup needs of its method. -/
structure LookupMethod.Lawful (method : LookupMethod κ α) : Prop where
  distinct : method.oversized ≠ method.payloadExceeded
  makes : ∀ key bytes, method.oversizedRequestItem key = .ok bytes → method.Placeholder key bytes

theorem LookupMethod.Lawful.answers {method : LookupMethod κ α} (lawful : method.Lawful) {key : κ}
    {bytes : Bytes} (placeholder : method.Placeholder key bytes) : method.Answers key bytes := by
  obtain ⟨-, value, decoded, echo, status⟩ := placeholder
  exact ⟨value, decoded, echo, by rw [status]; exact lawful.distinct⟩

theorem LookupResponseView.item_eq (codec : ItemCodec α) (view : LookupResponseView)
    (index : UInt32) : view.item codec index = view.rawItem index >>= codec.decodeItem := by
  unfold LookupResponseView.item LookupResponseView.rawItem responseRawItem
  simp only [bind_assoc]

namespace Client

variable {method : LookupMethod κ α} {view : LookupResponseView}

/-- The raw items taken from an answer, from item `index` on, answer their keys. -/
def Taken (method : LookupMethod κ α) (view : LookupResponseView) (index : Nat) (keys : List κ)
    (taken : List Bytes) : Prop :=
  ∀ offset bytes, taken[offset]? = some bytes → ∃ key, keys[offset]? = some key ∧
    view.rawItem (UInt32.ofNat (index + offset)) = .ok bytes ∧ method.Answers key bytes

theorem takeItems_eq_ok [DecidableEq κ] {keys : List κ} {index : Nat} {taken : List Bytes}
    {first : Option Nat} (ran : takeItems method view index keys = .ok (taken, first)) :
    Taken method view index keys taken ∧ taken.length ≤ keys.length ∧
      first.getD (index + keys.length) = index + taken.length := by
  induction keys generalizing index taken first with
  | nil =>
    cases ran
    exact ⟨nofun, Nat.le_refl _, rfl⟩
  | cons key rest ih =>
    rw [takeItems] at ran
    obtain ⟨value, read, ran⟩ := bind_eq_ok ran
    obtain ⟨echoed, echo, ran⟩ := bind_eq_ok ran
    obtain ⟨same, ran⟩ := guard_eq_ok ran
    rw [not_not.mp same] at echo
    split at ran
    · cases ran
      exact ⟨nofun, Nat.zero_le _, rfl⟩
    · rename_i fits
      obtain ⟨bytes, raw, ran⟩ := bind_eq_ok ran
      obtain ⟨⟨later, exceeded⟩, more, ran⟩ := bind_eq_ok ran
      cases ran
      obtain ⟨each, short, ended⟩ := ih more
      rw [LookupResponseView.item_eq, raw, ok_bind] at read
      refine ⟨fun offset item found => ?_, Nat.succ_le_succ short, ?_⟩
      · cases offset with
        | zero =>
          cases found
          exact ⟨key, rfl, raw, value, read, echo, fits⟩
        | succ offset =>
          obtain ⟨other, listed, received, answers⟩ := each offset item found
          refine ⟨other, listed, ?_, answers⟩
          rwa [Nat.add_right_comm, Nat.add_assoc] at received
      · rw [List.length_cons, List.length_cons, ← Nat.add_assoc, Nat.add_right_comm, ended]
        omega

/-- What an accepted answer adds to the variables of the loop. -/
structure Accepted (method : LookupMethod κ α) (reqKeys : List κ) (before after : Progress)
    (view : LookupResponseView) (taken : List Bytes) : Prop where
  each : Taken method view 0 reqKeys taken
  short : taken.length ≤ reqKeys.length
  generation : after.generation = some view.generation
  agrees : ∀ generation, before.generation = some generation → view.generation = generation
  rawItems : after.rawItems = before.rawItems ++ taken
  start : after.start = before.start + taken.length
  subcalls : after.subcalls = before.subcalls

theorem acceptAnswer_eq_ok [DecidableEq κ] {reqKeys : List κ} {before after : Progress}
    {payload : Bytes} {exceeded : Bool}
    (ran : acceptAnswer method reqKeys before payload = .ok (after, exceeded)) :
    ∃ view taken, decodeLookupResponse method.codec payload = .ok view ∧
      Accepted method reqKeys before after view taken ∧
      (taken = [] → exceeded = false ∧ reqKeys = []) := by
  obtain ⟨view, decoded, ran⟩ := bind_eq_ok ran
  obtain ⟨same, ran⟩ := guard_eq_ok ran
  obtain ⟨_, -, ran⟩ := bind_eq_ok ran
  obtain ⟨⟨taken, first⟩, took, ran⟩ := bind_eq_ok ran
  obtain ⟨each, short, ended⟩ := takeItems_eq_ok took
  have same := not_not.mp same
  have agrees (generation : UInt64) (set : before.generation = some generation) :
      view.generation = generation := by
    rw [set] at same
    exact same
  refine ⟨view, taken, decoded, ?_⟩
  cases first with
  | none =>
    cases ran
    have length : reqKeys.length = taken.length := by simpa using ended
    refine ⟨⟨each, short, rfl, agrees, rfl, by rw [length], rfl⟩, fun none => ⟨rfl, ?_⟩⟩
    exact List.eq_nil_of_length_eq_zero (by rw [length, none]; rfl)
  | some first =>
    obtain ⟨_, -, ran⟩ := bind_eq_ok ran
    obtain ⟨moved, ran⟩ := guard_eq_ok ran
    cases ran
    have length : first = taken.length := by simpa using ended
    refine ⟨⟨each, short, rfl, agrees, rfl, by rw [length], rfl⟩, fun none => absurd ?_ moved⟩
    rw [length, none]
    rfl

/-! ### The stitched response -/

/-- A stitched response has the raw items it was made of. -/
theorem stitch_eq_ok {count : Nat} {maxResponseBytes : UInt32} {self : Progress}
    (ran : stitch method count maxResponseBytes self = .ok view) :
    self.rawItems.length = count ∧ view.itemCount.toNat = count ∧
      view.generation = self.generation.getD 0 ∧
      view.payload.length ≤ maxResponseBytes.toNat ∧
      ∀ index bytes, self.rawItems[index]? = some bytes →
        view.rawItem (UInt32.ofNat index) = .ok bytes ∧
          view.item method.codec (UInt32.ofNat index) = method.codec.decodeItem bytes := by
  obtain ⟨counted, ran⟩ := guard_eq_ok ran
  obtain ⟨size, sized, ran⟩ := bind_eq_ok ran
  obtain ⟨limited, ran⟩ := guard_eq_ok ran
  have counted := not_not.mp counted
  have limited := Nat.le_of_not_lt limited
  have sized := lookupRawResponseSize_eq_ok sized (self.generation.getD 0)
  match encodes : (encodeRawResponse method.codec lookupRespHdrSize (self.generation.getD 0)
    self.rawItems).run (zeros size) with
  | (.error reason, buf) =>
    rw [encodes] at ran
    cases ran
  | (.ok n, buf) =>
    rw [encodes] at ran
    change (readSlice buf 0 n >>= decodeLookupResponse method.codec) = _ at ran
    obtain ⟨part, sliced, decoded⟩ := bind_eq_ok ran
    obtain ⟨rest, rfl, rfl, representable, accepted⟩ := encodeRawResponse_eq_ok _ _ _ _ _ _ encodes
    obtain ⟨-, -, rfl⟩ := readSlice_eq_ok sliced
    rw [Nat.sub_zero, slice_take, List.take_left' rfl,
      decodeLookupResponse_image representable _ method.codec
        (fun item member => (accepted item member).1) fun item member => (accepted item member).2]
      at decoded
    cases decoded
    refine ⟨counted, ?_, rfl, by rw [← sized]; exact limited, fun index bytes found => ?_⟩
    · rw [← counted]
      exact UInt32.toNat_ofNat_of_lt' representable.count
    · exact item_image representable _ method.codec index bytes found _ rfl rfl

/-! ### The invariant of the loop -/

/-- The bytes of a request for some keys. -/
def IsRequest (method : LookupMethod κ α) (keys : List κ) (request : Bytes) : Prop :=
  ∃ buf written rest len, (method.encodeRequest keys).run buf = (.ok len, written) ∧
    request = (written ++ rest).take len

/-- An entry of the log as a lookup that goes on leaves it. -/
def LookupEvent.Sound (method : LookupMethod κ α) (keys : List κ) (generation : Option UInt64) :
    LookupEvent → Prop
  | .asked start count request result => start + count ≤ keys.length ∧
      IsRequest method ((keys.drop start).take count) request ∧
      ∃ payload view, result = .ok payload ∧
        decodeLookupResponse method.codec payload = .ok view ∧
        generation = some view.generation
  | .skipped index sessionLimit configLimit => ∃ key size, keys[index]? = some key ∧
      method.nextRequestCount (keys.drop index) sessionLimit = .error (.err .overflow) ∧
      method.requestSize [key] = .ok size ∧
      (Handshake.applyDefault configLimit maxPayloadDefault).toNat < size

/-- Where an item comes from: an answer to a request that had its key, or the lookup itself. -/
def Sourced (method : LookupMethod κ α) (events : List LookupEvent) (index : Nat) (key : κ)
    (bytes : Bytes) : Prop :=
  (∃ start count request payload view,
    LookupEvent.asked start count request (.ok payload) ∈ events ∧
      start ≤ index ∧ index < start + count ∧
      decodeLookupResponse method.codec payload = .ok view ∧
      view.rawItem (UInt32.ofNat (index - start)) = .ok bytes) ∨
    ∃ sessionLimit configLimit, LookupEvent.skipped index sessionLimit configLimit ∈ events ∧
      method.Placeholder key bytes

def LookupEvent.isAsked : LookupEvent → Bool
  | .asked .. => true
  | .skipped .. => false

/-- The variables of the loop and the log of the lookup. -/
structure Stitching (method : LookupMethod κ α) (keys : List κ) (events : List LookupEvent)
    (progress : Progress) : Prop where
  length : progress.rawItems.length = progress.start
  within : progress.start ≤ keys.length
  subcalls : progress.subcalls = (events.filter LookupEvent.isAsked).length
  sound : ∀ event ∈ events, LookupEvent.Sound method keys progress.generation event
  sourced : ∀ index bytes, progress.rawItems[index]? = some bytes → ∃ key, keys[index]? = some key ∧
    method.Answers key bytes ∧ Sourced method events index key bytes

section Growing

variable {keys : List κ} {events : List LookupEvent} {before after : Progress}

theorem Sourced.mono {index : Nat} {key : κ} {bytes : Bytes} {more : List LookupEvent}
    (sourced : Sourced method events index key bytes) :
    Sourced method (events ++ more) index key bytes := by
  rcases sourced with ⟨start, count, request, payload, view, member, rest⟩ | ⟨_, _, member, made⟩
  · exact .inl ⟨start, count, request, payload, view, List.mem_append_left _ member, rest⟩
  · exact .inr ⟨_, _, List.mem_append_left _ member, made⟩

/-- A generation that is set stays. -/
theorem LookupEvent.Sound.mono {event : LookupEvent} {old new : Option UInt64}
    (sound : LookupEvent.Sound method keys old event)
    (stays : ∀ generation, old = some generation → new = some generation) :
    LookupEvent.Sound method keys new event := by
  cases event with
  | asked start count request result =>
    obtain ⟨within, request, payload, view, answered, decoded, same⟩ := sound
    exact ⟨within, request, payload, view, answered, decoded, stays _ same⟩
  | skipped index sessionLimit configLimit => exact sound

/-- An accepted answer keeps the invariant. -/
theorem Stitching.asked {count : Nat} {request payload : Bytes} {taken : List Bytes}
    (stitching : Stitching method keys events before) (within : before.start + count ≤ keys.length)
    (isRequest : IsRequest method ((keys.drop before.start).take count) request)
    (decoded : decodeLookupResponse method.codec payload = .ok view)
    (accepted : Accepted method ((keys.drop before.start).take count)
      { before with subcalls := before.subcalls + 1 } after view taken) :
    Stitching method keys (events ++ [.asked before.start count request (.ok payload)]) after := by
  have length := stitching.length
  have few : taken.length ≤ count := accepted.short.trans (List.length_take_le _ _)
  have start : after.start = before.start + taken.length := accepted.start
  refine ⟨?_, by omega, ?_, fun event member => ?_, fun index bytes found => ?_⟩
  · rw [accepted.rawItems, List.length_append, start, length]
  · rw [accepted.subcalls, List.filter_append, List.length_append, stitching.subcalls]
    rfl
  · rcases List.mem_append.mp member with earlier | last
    · refine (stitching.sound event earlier).mono fun generation set => ?_
      rw [accepted.generation, accepted.agrees generation set]
    · rw [List.mem_singleton.mp last]
      exact ⟨within, isRequest, payload, view, rfl, decoded, accepted.generation⟩
  · rw [accepted.rawItems] at found
    by_cases old : index < before.rawItems.length
    · rw [List.getElem?_append_left old] at found
      obtain ⟨key, listed, answers, sourced⟩ := stitching.sourced index bytes found
      exact ⟨key, listed, answers, sourced.mono⟩
    · rw [List.getElem?_append_right (Nat.le_of_not_lt old), length] at found
      obtain ⟨key, listed, received, answers⟩ := accepted.each _ bytes found
      have bound : index - before.start < taken.length := (List.getElem?_eq_some_iff.mp found).1
      rw [List.getElem?_take_of_lt (by omega), List.getElem?_drop,
        Nat.add_sub_cancel' (by omega)] at listed
      rw [Nat.zero_add] at received
      exact ⟨key, listed, answers, .inl ⟨before.start, count, request, payload, view,
        List.mem_append_right _ (List.mem_singleton_self _), by omega, by omega, decoded, received⟩⟩

/-- A key that is answered by the lookup itself keeps the invariant. -/
theorem Stitching.skipped {key : κ} {item : Bytes} {sessionLimit configLimit : UInt32}
    (lawful : method.Lawful) (stitching : Stitching method keys events before)
    (listed : keys[before.start]? = some key) (made : method.oversizedRequestItem key = .ok item)
    (sound : LookupEvent.Sound method keys before.generation
      (.skipped before.start sessionLimit configLimit)) :
    Stitching method keys (events ++ [.skipped before.start sessionLimit configLimit])
      { before with rawItems := before.rawItems ++ [item], start := before.start + 1 } := by
  have length := stitching.length
  have bound : before.start < keys.length := (List.getElem?_eq_some_iff.mp listed).1
  refine ⟨?_, bound, ?_, fun event member => ?_, fun index bytes found => ?_⟩
  · rw [List.length_append, length, List.length_singleton]
  · rw [List.filter_append, List.length_append, stitching.subcalls]
    rfl
  · rcases List.mem_append.mp member with earlier | last
    · exact stitching.sound event earlier
    · rw [List.mem_singleton.mp last]
      exact sound
  · by_cases old : index < before.rawItems.length
    · rw [List.getElem?_append_left old] at found
      obtain ⟨other, found, answers, sourced⟩ := stitching.sourced index bytes found
      exact ⟨other, found, answers, sourced.mono⟩
    · rw [List.getElem?_append_right (Nat.le_of_not_lt old), List.getElem?_singleton] at found
      have last : index = before.start := by
        by_contra other
        rw [if_neg (by omega)] at found
        cases found
      rw [if_pos (by omega)] at found
      cases found
      rw [last]
      exact ⟨key, listed, lawful.answers (lawful.makes key item made), .inr ⟨sessionLimit,
        configLimit, List.mem_append_right _ (List.mem_singleton_self _),
        lawful.makes key item made⟩⟩

end Growing

/-! ### The loop -/

/-- What a lookup returns, in terms of its log. -/
structure Stitched (method : LookupMethod κ α) (keys : List κ) (maxSubcalls maxBytes : UInt32)
    (events : List LookupEvent) (view : LookupResponseView) : Prop where
  count : view.itemCount.toNat = keys.length
  items : ∀ index key, keys[index]? = some key → ∃ bytes value,
    view.rawItem (UInt32.ofNat index) = .ok bytes ∧ method.codec.decodeItem bytes = .ok value ∧
      view.item method.codec (UInt32.ofNat index) = .ok value ∧ method.echo value = .ok key ∧
      method.status value ≠ method.payloadExceeded ∧ Sourced method events index key bytes
  sound : ∀ event ∈ events, LookupEvent.Sound method keys (some view.generation) event
  size : view.payload.length ≤ maxBytes.toNat
  subcalls : (events.filter LookupEvent.isAsked).length ≤ maxSubcalls.toNat

/-- The log and the limits of a client. -/
def Logged (maxSubcalls maxBytes : UInt32) (calls : List LookupEvent) (kept : Settings) : Prop :=
  kept.maxLogicalLookupSubcalls = maxSubcalls ∧ kept.maxLogicalLookupResponseBytes = maxBytes ∧
    kept.calls = calls

theorem Stitching.stitched {keys : List κ} {maxSubcalls maxBytes : UInt32}
    {events : List LookupEvent} {progress : Progress}
    (stitching : Stitching method keys events progress)
    (asked : ∃ generation, progress.generation = some generation)
    (few : progress.subcalls ≤ maxSubcalls.toNat)
    (ran : stitch method keys.length maxBytes progress = .ok view) :
    Stitched method keys maxSubcalls maxBytes events view := by
  obtain ⟨complete, count, generation, size, items⟩ := stitch_eq_ok ran
  obtain ⟨reported, set⟩ := asked
  rw [set, Option.getD_some] at generation
  refine ⟨count, fun index key listed => ?_, ?_, size, by rw [← stitching.subcalls]; exact few⟩
  · have bound : index < progress.rawItems.length := by
      rw [complete]
      exact (List.getElem?_eq_some_iff.mp listed).1
    have found := List.getElem?_eq_getElem bound
    obtain ⟨raw, shown⟩ := items index _ found
    obtain ⟨other, same, ⟨value, decoded, echo, fits⟩, sourced⟩ := stitching.sourced index _ found
    obtain rfl : key = other := Option.some.inj (listed.symm.trans same)
    exact ⟨_, value, raw, decoded, shown.trans decoded, echo, fits, sourced⟩
  · rw [generation, ← set]
    exact stitching.sound

section Loop

variable {σ : Type} (os : ClientOs σ) (fuel : Nat) (keys : List κ)
  (maxSubcalls maxBytes : UInt32) (earlier : List LookupEvent)

theorem lookupRemainingTimeout_settings (deadline : Nat) :
    Keeps settings (lookupRemainingTimeout os deadline) := by
  refine (blindView_settings.observed _ _).bind fun _ => Keeps.ite (Keeps.fail _) ?_
  exact (blindView_settings.observed _ _).bind fun _ => Keeps.ite (Keeps.fail _) (Keeps.pure _)

/-- Writing a request leaves the log alone. -/
theorem writeRequest_triple (reqKeys : List κ) (size : Nat) (calls : List LookupEvent) :
    Triple (fun world : ClientWorld σ => Logged maxSubcalls maxBytes calls (settings world))
      (writeRequest size (method.encodeRequest reqKeys))
      (fun reqLen after => ∃ request, IsRequest method reqKeys request ∧
        request = (settings after).requestBuf.take reqLen ∧
        Logged maxSubcalls maxBytes calls (settings after)) fun _ _ => True := by
  refine Triple.of_ok fun world reqLen after start ran => ?_
  rw [writeRequest, Prog.run_bind_ok (run_modifyClient _ _), Prog.run_zoom] at ran
  match encoded : (method.encodeRequest reqKeys).run
    ((world.client.requestScratch size).requestBuf.take size) with
  | (result, written) =>
    dsimp only at ran
    rw [encoded] at ran
    obtain ⟨rfl, rfl⟩ := Prod.mk.inj ran
    exact ⟨_, ⟨_, written, _, reqLen, encoded, rfl⟩, rfl, start⟩

/-- A subcall leaves its entry in the log. -/
theorem subcall_triple (methodCode : UInt16) (start count reqLen : Nat) (timeoutMs : UInt32)
    (request : Bytes) (calls : List LookupEvent) :
    Triple (fun world => request = (settings world).requestBuf.take reqLen ∧
        Logged maxSubcalls maxBytes calls (settings world))
      (subcall os fuel methodCode start count reqLen timeoutMs)
      (fun payload after => Logged maxSubcalls maxBytes
        (calls ++ [.asked start count request (.ok payload)]) (settings after))
      fun _ _ => True := by
  rintro world ⟨rfl, subcallLimit, byteLimit, rfl⟩
  have called := (survives_settings os (settings world)).rawCallWithRetryTimeout fuel methodCode
    reqLen .single timeoutMs
  rw [subcall, Prog.run_bind_ok (run_getClient world)]
  refine Triple.inspect called ?_ (fun _ => ?_) ?_ ?_ world rfl
  · exact fun payload after kept => ⟨(congrArg (·.maxLogicalLookupSubcalls) kept).trans
      subcallLimit,
      (congrArg (·.maxLogicalLookupResponseBytes) kept).trans byteLimit,
      congrArg (· ++ _) (congrArg (·.calls) kept)⟩
  all_goals exact fun _ _ => trivial

/-- Before a pass: the invariant holds of the variables and of what is new in the log. -/
def Working (method : LookupMethod κ α) (progress : Progress) (world : ClientWorld σ) : Prop :=
  ∃ events, Stitching method keys events progress ∧
    Logged maxSubcalls maxBytes (earlier ++ events) (settings world)

/-- After a lookup. -/
def Returned (method : LookupMethod κ α) (view : LookupResponseView) (world : ClientWorld σ) :
    Prop :=
  ∃ events, Stitched method keys maxSubcalls maxBytes events view ∧
    Logged maxSubcalls maxBytes (earlier ++ events) (settings world)

/-- How a pass may end. -/
abbrev passPost (method : LookupMethod κ α) (result : Progress ⊕ LookupResponseView)
    (world : ClientWorld σ) : Prop :=
  result.elim (fun progress => Working keys maxSubcalls maxBytes earlier method progress world)
    fun view => Returned keys maxSubcalls maxBytes earlier method view world

theorem askKeys_triple [DecidableEq κ] (deadline : Nat) (progress : Progress)
    (reqCount reqSize : Nat) :
    Triple (Working keys maxSubcalls maxBytes earlier method progress)
      (askKeys method os fuel keys deadline progress reqCount reqSize)
      (passPost keys maxSubcalls maxBytes earlier method) fun _ _ => True := by
  refine Exits.of_exists fun events => Exits.of_and fun stitching => ?_
  refine Exits.ite (fun _ => Triple.panic) fun within => ?_
  have within := Nat.le_of_not_lt within
  refine (writeRequest_triple maxSubcalls maxBytes _ reqSize _).bind fun reqLen => ?_
  refine Exits.of_exists fun request => Exits.of_and fun isRequest => ?_
  refine Exits.via _ ((lookupRemainingTimeout_settings os deadline).triple (fun kept =>
    request = kept.requestBuf.take reqLen ∧
      Logged maxSubcalls maxBytes (earlier ++ events) kept) |>.blaming fun _ _ _ => trivial)
        fun remaining => ?_
  refine Exits.via (fun client (world : ClientWorld σ) =>
    (client.maxLogicalLookupSubcalls = maxSubcalls ∧
      client.maxLogicalLookupResponseBytes = maxBytes) ∧
    request = (settings world).requestBuf.take reqLen ∧
      Logged maxSubcalls maxBytes (earlier ++ events) (settings world))
    (fun world start => ⟨⟨start.2.1, start.2.2.1⟩, start⟩) fun client => ?_
  refine Exits.of_and fun ⟨subcallLimit, byteLimit⟩ => ?_
  rw [subcallLimit, byteLimit]
  refine Exits.ite (fun _ => Triple.fail _ fun _ _ => trivial) fun few => ?_
  refine (subcall_triple os fuel maxSubcalls maxBytes method.code progress.start reqCount reqLen
    remaining request _).bind fun payload => ?_
  refine Triple.ofRes_bind (fun _ _ _ _ => trivial) ?_
  rintro ⟨next, exceeded⟩ ran
  obtain ⟨view, taken, decoded, accepted, -⟩ := acceptAnswer_eq_ok ran
  have grown := stitching.asked within isRequest decoded accepted
  have working (world : ClientWorld σ) (logged : Logged maxSubcalls maxBytes (earlier ++ events ++
      [.asked progress.start reqCount request (.ok payload)]) (settings world)) :
      Working keys maxSubcalls maxBytes earlier method next world :=
    ⟨_, grown, by rw [← List.append_assoc]; exact logged⟩
  refine Exits.ite (fun _ => Exits.pure _ working) fun _ =>
    Exits.ite (fun _ => Exits.pure _ working) fun _ => ?_
  refine Triple.ofRes_bind (fun _ _ _ _ => trivial) fun view ran => Exits.pure _ fun _ logged =>
    ⟨_, grown.stitched ⟨_, accepted.generation⟩ ?_ ran,
      (by rw [← List.append_assoc]; exact logged)⟩
  rw [accepted.subcalls]
  exact Nat.le_of_not_lt few

/-- The capacity is refused only to a request above the limit of the configuration. -/
theorem ensureLookupRequestCapacity_refused (required : Nat) (configLimit : UInt32) :
    Triple (fun world => world.client.transportConfig.maxRequestPayloadBytes = configLimit)
      (ensureLookupRequestCapacity os fuel required)
      (fun enough _ => enough = false →
        (Handshake.applyDefault configLimit maxPayloadDefault).toNat < required)
      fun _ _ => True := by
  refine Exits.via (fun _ (world : ClientWorld σ) =>
    world.client.transportConfig.maxRequestPayloadBytes = configLimit)
    (fun _ start => start) fun _ => Exits.ite (fun _ _ _ => trivial) fun _ => ?_
  refine Triple.ofRes_bind (fun _ _ _ _ => trivial) fun _ checked => ?_
  have small := Nat.le_of_not_lt (rejectIf_eq_ok checked)
  refine Exits.via (fun self (_ : ClientWorld σ) =>
    self.transportConfig.maxRequestPayloadBytes = configLimit ∧ True)
    (fun _ start => ⟨start, trivial⟩) fun self => Exits.of_and fun same => ?_
  rw [same]
  refine Exits.ite (fun large => Exits.pure _ fun _ _ _ => ?_) fun _ =>
    Exits.ite (fun _ => Exits.pure _ fun _ _ => nofun) fun _ => ?_
  · rw [gt_iff_lt, UInt32.lt_iff_toNat_lt, UInt32.toNat_ofNat_of_lt' (Nat.lt_succ_of_le small)]
      at large
    exact large
  · refine (Triple.any _ _).bind fun _ => (Triple.any _ _).bind fun after => ?_
    exact Exits.ite (fun _ _ _ => trivial) fun _ => Exits.pure _ fun _ _ => nofun

/-- A key that no request can carry keeps the invariant, or ends the lookup. -/
theorem oversizedKey_triple [DecidableEq κ] (lawful : method.Lawful) (deadline : Nat)
    (progress : Progress) (key : κ) (sessionLimit : UInt32)
    (listed : keys[progress.start]? = some key)
    (refused : method.nextRequestCount (keys.drop progress.start) sessionLimit =
      .error (.err .overflow)) :
    Triple (fun world => world.client.sessionMaxRequestPayloadBytes = sessionLimit ∧
        Working keys maxSubcalls maxBytes earlier method progress world)
      (oversizedKey method os fuel keys deadline progress key)
      (passPost keys maxSubcalls maxBytes earlier method) fun _ _ => True := by
  refine Triple.ofRes_bind (fun _ _ _ _ => trivial) fun size sized => ?_
  refine Exits.via (fun before (world : ClientWorld σ) =>
      before.sessionMaxRequestPayloadBytes = sessionLimit ∧
      world.client.transportConfig.maxRequestPayloadBytes =
        before.transportConfig.maxRequestPayloadBytes ∧
      Working keys maxSubcalls maxBytes earlier method progress world)
    (fun _ start => ⟨start.1, rfl, start.2⟩) fun before => Exits.of_and fun session => ?_
  have kept : Triple (Working keys maxSubcalls maxBytes earlier method progress)
      (ensureLookupRequestCapacity os fuel size)
      (fun _ => Working keys maxSubcalls maxBytes earlier method progress) fun _ _ => True := by
    rintro world ⟨events, stitching, logged⟩
    refine ((survives_settings os (settings world)).ensureLookupRequestCapacity fuel size).mono
      (fun _ start => start) (fun _ after same => ⟨events, stitching, ?_⟩)
      (fun _ _ _ => trivial) world rfl
    rw [same]
    exact logged
  refine Exits.via _ (((ensureLookupRequestCapacity_refused os fuel size
      before.transportConfig.maxRequestPayloadBytes).under (fun _ start => start.1)).conj
        (kept.under (fun _ start => start.2)) |>.blaming fun _ _ _ => trivial) fun enough => ?_
  refine Exits.of_and fun tooLarge => Exits.ite (fun _ => Exits.pure _ fun _ held => held)
    fun refusedHere => ?_
  have tooLarge := tooLarge (Bool.eq_false_iff.mpr refusedHere)
  refine Exits.of_exists fun events => Exits.of_and fun stitching => ?_
  rw [session]
  have sound : LookupEvent.Sound method keys progress.generation (.skipped progress.start
      sessionLimit before.transportConfig.maxRequestPayloadBytes) :=
    ⟨key, size, listed, refused, sized, tooLarge⟩
  refine Exits.via (fun _ (world : ClientWorld σ) => Logged maxSubcalls maxBytes (earlier ++
      (events ++ [.skipped progress.start sessionLimit
        before.transportConfig.maxRequestPayloadBytes])) (settings world))
    (Exits.modify _ fun world ⟨subcallLimit, byteLimit, logged⟩ =>
      ⟨subcallLimit, byteLimit, by rw [← List.append_assoc, ← logged]; rfl⟩) fun _ => ?_
  refine Triple.ofRes_bind (fun _ _ _ _ => trivial) fun item made => ?_
  have grown := stitching.skipped lawful listed made sound
  refine Exits.ite (fun _ => Exits.pure _ fun _ logged => ⟨_, grown, logged⟩) fun _ => ?_
  refine getClient_triple.bind fun client =>
    Triple.ofRes_bind (fun _ _ _ _ => trivial) fun next _ => ?_
  exact (askKeys_triple os fuel keys maxSubcalls maxBytes earlier deadline _ next.1 next.2).under
    fun _ logged => ⟨_, grown, logged⟩

theorem lookupPass_triple [DecidableEq κ] (lawful : method.Lawful) (deadline : Nat)
    (progress : Progress) :
    Triple (Working keys maxSubcalls maxBytes earlier method progress)
      (lookupPass method os fuel keys deadline progress)
      (passPost keys maxSubcalls maxBytes earlier method) fun _ _ => True := by
  refine Exits.via (fun client (world : ClientWorld σ) =>
      world.client.sessionMaxRequestPayloadBytes = client.sessionMaxRequestPayloadBytes ∧
      Working keys maxSubcalls maxBytes earlier method progress world)
    (fun _ start => ⟨rfl, start⟩) fun client => ?_
  split
  · rename_i reqCount reqSize _
    exact (askKeys_triple os fuel keys maxSubcalls maxBytes earlier deadline progress reqCount
      reqSize).under (fun _ start => start.2)
  · rename_i key refused listed
    exact oversizedKey_triple os fuel keys maxSubcalls maxBytes earlier lawful deadline progress key
      client.sessionMaxRequestPayloadBytes listed refused
  · rename_i reason _ _ _
    exact Triple.of_ok fun _ _ _ _ ran => nomatch ran

/-- The lookup call of any method, against any server. -/
theorem callLookupWithTimeout_eq_ok [DecidableEq κ] (lawful : method.Lawful) (timeoutMs : UInt32)
    {world after : ClientWorld σ}
    (ran : (callLookupWithTimeout method os fuel keys timeoutMs).run world = (.ok view, after)) :
    ∃ events, after.calls = world.calls ++ events ∧
      Stitched method keys world.client.maxLogicalLookupSubcalls
        world.client.maxLogicalLookupResponseBytes events view := by
  have start : Triple (fun other => settings other = settings world)
      (callLookupWithTimeout method os fuel keys timeoutMs)
      (Returned keys world.client.maxLogicalLookupSubcalls
        world.client.maxLogicalLookupResponseBytes world.calls method) fun _ _ => True := by
    refine Exits.via (fun _ other => settings other = settings world) (fun _ start => start)
      fun self => ?_
    refine Triple.ofRes_bind (fun _ _ _ _ => trivial) fun _ _ => ?_
    refine Triple.ofRes_bind (fun _ _ _ _ => trivial) fun _ _ => ?_
    refine Exits.via _ ((survives_settings os (settings world)).ensureReadyForLogicalLookup.blaming
      fun _ _ _ => trivial) fun _ => ?_
    refine Exits.via (fun _ other => settings other = settings world)
      (fun _ start => start) fun deadline => ?_
    refine Triple.mono (Triple.loop (Working keys _ _ world.calls method)
      (lookupPass_triple os fuel keys _ _ world.calls lawful deadline) fuel ⟨[], 0, none, 0⟩)
      (fun other same => ?_) (fun _ _ held => held) fun _ _ held => held
    refine ⟨[], ⟨rfl, Nat.zero_le _, rfl, nofun, nofun⟩, ?_⟩
    rw [same, List.append_nil]
    exact ⟨rfl, rfl, rfl⟩
  obtain ⟨events, stitched, -, -, logged⟩ := start.post_of_run rfl ran
  exact ⟨events, logged, stitched⟩

end Loop

end Client

/-! ### The two methods -/

theorem appsLookupMethod_lawful : appsLookupMethod.Lawful := ⟨by decide, nofun⟩

/-- An empty builder that takes the placeholder of a path holds it. -/
theorem holds_of_addPlaceholder {size : Nat} {maxItems : UInt32} {builder after : LookupBuilder}
    {path : Bytes} (holds : LookupBuilder.Holds size maxItems [] builder)
    (normal : builder.payloadExceededSuffix = false) (ran :
      (addCgroupsItemWithPath (.placeholder cgroupLookupOversizedItem path) false).run builder =
      (.ok (), after)) :
    LookupBuilder.Holds size maxItems
        [(CgroupsItem.placeholder cgroupLookupOversizedItem path).image] after ∧
      (CgroupsItem.placeholder cgroupLookupOversizedItem path).Valid := by
  let call := CgroupsAdd.add (.placeholder cgroupLookupOversizedItem path)
  have taken : call.item = .ok (.placeholder cgroupLookupOversizedItem path) := rfl
  have program : call.program.run builder = (.ok (), after) := ran
  have checked := checked_of_cgroupsAdd taken normal (congrArg Prod.fst program)
  obtain ⟨some, clean⟩ := (checkCgroupsItem_eq_ok checked).2.2 rfl
  have valid : (CgroupsItem.placeholder cgroupLookupOversizedItem path).Valid :=
    valid_placeholder (.inl rfl) some clean
  have decides := cgroupsAdd_decides taken valid.toProper
  have chosen := @Answer.chosen_full (cgroupsAnswer (.placeholder cgroupLookupOversizedItem path)) _
    normal nofun
  rw [full_cgroupsAnswer valid.toProper] at chosen
  by_cases room : LookupBuilder.Room size maxItems.toNat []
    (CgroupsItem.placeholder cgroupLookupOversizedItem path).image.length
  · have placed := decides.ok holds (by rw [chosen]; exact room)
    rw [Answer.next_of_kept chosen normal] at placed
    obtain ⟨-, rfl⟩ := Prod.mk.inj (program.symm.trans placed)
    exact ⟨holds.pushed room, valid⟩
  · obtain ⟨reason, _, failed, -⟩ := decides.error holds (by rw [chosen]; exact room)
    cases program.symm.trans failed

/-- The item made for a path that fits no request is its placeholder. -/
theorem cgroupsLookupOversizedRequestItem_eq_ok {path bytes : Bytes}
    (made : cgroupsLookupOversizedRequestItem path = .ok bytes) :
    bytes = (CgroupsItem.placeholder cgroupLookupOversizedItem path).image ∧
      bytes.length < 2 ^ 32 ∧ (CgroupsItem.placeholder cgroupLookupOversizedItem path).Valid := by
  iterate 3 obtain ⟨_, -, made⟩ := bind_eq_ok made
  obtain ⟨size, -, made⟩ := bind_eq_ok made
  obtain ⟨builder, new, made⟩ := bind_eq_ok made
  obtain ⟨holds, -, -, normal⟩ := new_eq_ok new
  generalize ran : (do
    addCgroupsItemWithPath ⟨cgroupLookupOversizedItem, 0, path, [], []⟩ false
    LookupBuilder.finish : Prog NipcError LookupBuilder Nat).run builder = outcome at made
  obtain ⟨finished, after⟩ := outcome
  obtain ⟨n, ok, made⟩ := bind_eq_ok made
  rw [ok] at ran
  obtain ⟨_, middle, added, finish⟩ := Prog.run_bind_eq_ok ran
  obtain ⟨full, valid⟩ := holds_of_addPlaceholder holds normal added
  obtain ⟨rest, done⟩ := run_finish full
  rw [done] at finish
  obtain ⟨same, rfl⟩ := Prod.mk.inj finish
  obtain rfl := Except.ok.inj same
  have representable := Holds.representable full
  have small := Representable.length_lt representable _ (List.mem_singleton_self _)
  obtain ⟨long, shown, decoded, -⟩ := readsAs_cgroups valid small
  obtain ⟨part, sliced, made⟩ := bind_eq_ok made
  obtain ⟨-, -, rfl⟩ := readSlice_eq_ok sliced
  rw [Nat.sub_zero, slice_take, List.take_left' rfl, decodeCgroupsLookupResponse,
    decodeLookupResponse_image representable _ cgroupsItemCodec
      (List.forall_mem_singleton.mpr long) (List.forall_mem_singleton.mpr ⟨shown, decoded⟩),
    ok_bind] at made
  obtain rfl := Except.ok.inj (made.symm.trans
    (item_image representable middle.generation cgroupsItemCodec 0 _ rfl _ rfl rfl).1)
  exact ⟨rfl, small, valid⟩

theorem cgroupsLookupMethod_lawful : cgroupsLookupMethod.Lawful where
  distinct := by decide
  makes path bytes made := by
    obtain ⟨rfl, small, valid⟩ := cgroupsLookupOversizedRequestItem_eq_ok made
    exact ⟨made, _, decodeCgroupsItem_of_valid _ valid small,
      asBytes_of path (length_lt_of_image small).1, rfl⟩

namespace Client

/-- What a lookup returns is stitched from what it received, whatever the server and the transport
do: the keys, the limits, the sessions and the answers are arbitrary. -/
theorem lookups_stitched {σ : Type} (os : ClientOs σ) (fuel : Nat) (timeoutMs : UInt32)
    (world after : ClientWorld σ) (view : LookupResponseView) :
    (∀ pids, (callAppsLookupWithTimeout os fuel pids timeoutMs).run world = (.ok view, after) →
      ∃ events, after.calls = world.calls ++ events ∧
        Stitched appsLookupMethod pids world.client.maxLogicalLookupSubcalls
          world.client.maxLogicalLookupResponseBytes events view) ∧
    ∀ paths, (callCgroupsLookupWithTimeout os fuel paths timeoutMs).run world = (.ok view, after) →
      ∃ events, after.calls = world.calls ++ events ∧
        Stitched cgroupsLookupMethod paths world.client.maxLogicalLookupSubcalls
          world.client.maxLogicalLookupResponseBytes events view :=
  ⟨fun pids => callLookupWithTimeout_eq_ok os fuel pids appsLookupMethod_lawful timeoutMs,
    fun paths => callLookupWithTimeout_eq_ok os fuel paths cgroupsLookupMethod_lawful timeoutMs⟩

/-- Two pids are unknown to a server that has no room for the second one in its first answer. -/
def splitScript : List Bytes :=
  [answerPacket methodAppsLookup 1 (responseImage 5
      [(AppsItem.placeholder pidLookupUnknown 7).image,
        (AppsItem.placeholder pidLookupPayloadExceeded 8).image]),
    answerPacket methodAppsLookup 2 (responseImage 5
      [(AppsItem.placeholder pidLookupUnknown 8).image])]

/-- A lookup that takes two subcalls. -/
theorem lookups_stitched_split :
    let session := Handshake.sessionOf 3 .client ⟨1, 0, 1, 1, 1, 1024, 1, 1024, 1, 4096, 7⟩
    let os := scriptedOs session
    let start := ((Operation.perform os 9 .refresh).run
      (newWorld methodAppsLookup ⟨1, 0, 1024, 1, 1024, 1, 0, 4096⟩ splitScript)).2
    let call := (callAppsLookupWithTimeout os 9 [7, 8] 0).run start
    let view := ⟨1, 0, 2, 5, responseImage 5 [(AppsItem.placeholder pidLookupUnknown 7).image,
      (AppsItem.placeholder pidLookupUnknown 8).image]⟩
    call.1 = .ok view ∧ ∃ events, call.2.calls = start.calls ++ events ∧
      Stitched appsLookupMethod [7, 8] start.client.maxLogicalLookupSubcalls
        start.client.maxLogicalLookupResponseBytes events view := by
  intro session os start call view
  have returned : call.1 = .ok view := by decide +kernel
  exact ⟨returned, (lookups_stitched os 9 0 start call.2 view).1 [7, 8] (Prog.run_of_fst returned)⟩

end Client

end NetIpc
