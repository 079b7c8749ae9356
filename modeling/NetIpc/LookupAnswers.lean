/-
This file composes the lookups of the client with the server: when every answered
subcall was answered by a session of the managed server, each item a lookup returns
is the handler's answer for its key, or says that the answer was too large.

`Replied` is all the client can know of the server: what a session responds to a
request, for some contents of its response buffer. The rest follows the bytes: the
request carries the keys, the dispatch writes one image for each, and the lookup hands
the images on as they are.
-/

import NetIpc.LookupStitch
import NetIpc.SessionEnd

namespace NetIpc

open LookupBuilder

/-! ### What a session replies -/

namespace Server

/-- A session with this handler responded with this payload to this request, and said it is fine. -/
def Served (handler : DispatchHandler) (request payload : Bytes) : Prop :=
  ∃ (σ : Type) (config : SessionConfig σ) (hdr : Header) (calls : List ServerEvent)
    (respHdr : Header), config.handler = some handler.stateless ∧ isBatch hdr = false ∧
    Replied config hdr request calls respHdr payload ∧ respHdr.transportStatus = statusOk

theorem run_stateless {σ : Type} (handler : DispatchHandler) (request : Bytes) (state : Bytes × σ) :
    (handler.stateless request).run state =
      (((handler request).run state.1).1, ((handler request).run state.1).2, state.2) := rfl

theorem statusOf_ne_ok (error : DispatchError) : statusOf error ≠ statusOk := by
  cases error with
  | badEnvelope | overflow | handlerFailed => decide

theorem Served.run {handler : DispatchHandler} {request payload : Bytes}
    (served : Served handler request payload) :
    ∃ buf n after, (handler request).run buf = (.ok n, after) ∧ payload = after.take n := by
  obtain ⟨σ, config, hdr, calls, respHdr, set, alone, replied, fine⟩ := served
  cases replied with
  | unsupported => cases fine
  | batch _ _ batch => exact absurd (alone.symm.trans batch) Bool.false_ne_true
  | @single dispatch state invocation result _ found _ asked invokes settles =>
    obtain rfl := Option.some.inj (set.symm.trans found)
    obtain ⟨-, next, ran, left, -⟩ := invokes
    rw [asked] at ran
    cases settles with
    | overlong => exact absurd fine (statusOf_ne_ok .overflow)
    | refused => exact absurd fine (statusOf_ne_ok _)
    | @answered n returned _ =>
      rw [returned, run_stateless] at ran
      obtain ⟨first, rfl⟩ := Prod.mk.inj ran
      exact ⟨state.1, n, _, Prod.ext first rfl, left ▸ rfl⟩

end Server

/-! ### From the answers to the items -/

section Pointwise

variable {κ α : Type} (method : LookupMethod κ α) (encode : κ → Bytes) (shows : α → κ → Prop)

/-- A response with one image for each key: its answer, or an image that says why not. -/
def Pointwise (keys : List κ) (response : Bytes) : Prop :=
  ∃ generation images, response = responseImage generation images ∧ Representable images ∧
    ∀ (index : Nat) (key : κ), keys[index]? = some key → ∃ image, images[index]? = some image ∧
      ∀ value, method.codec.decodeItem image = .ok value →
        (method.status value = method.oversized ∨ method.status value = method.payloadExceeded) ∨
          image = encode key ∧ shows value key

variable {method encode shows}

/-- The items of a lookup whose subcalls were answered pointwise. -/
theorem items_of_pointwise {keys : List κ} {maxSubcalls maxBytes : UInt32}
    {events : List LookupEvent} {view : LookupResponseView}
    (stitched : Client.Stitched method keys maxSubcalls maxBytes events view)
    (answered : ∀ start count request payload,
      LookupEvent.asked start count request (.ok payload) ∈ events →
      Client.IsRequest method ((keys.drop start).take count) request →
      Pointwise method encode shows ((keys.drop start).take count) payload)
    (index : Nat) (key : κ) (found : keys[index]? = some key) :
    ∃ bytes value, view.rawItem (UInt32.ofNat index) = .ok bytes ∧
      view.item method.codec (UInt32.ofNat index) = .ok value ∧
      (method.status value = method.oversized ∨ bytes = encode key ∧ shows value key) := by
  obtain ⟨bytes, value, raw, decoded, item, -, fits, sourced⟩ := stitched.items index key found
  refine ⟨bytes, value, raw, item, ?_⟩
  rcases sourced with ⟨start, count, request, payload, part, member, low, high, accepted, read⟩ |
    ⟨_, _, -, -, other, same, -, oversized⟩
  · have sound := stitched.sound _ member
    obtain ⟨generation, images, rfl, representable, each⟩ :=
      answered start count request payload member sound.2.1
    obtain ⟨counted, -, carried⟩ := view_of_responseImage accepted
    obtain ⟨image, here, either⟩ := each (index - start) key (by
      rw [List.getElem?_take_of_lt (by omega), List.getElem?_drop, Nat.add_sub_cancel' low]
      exact found)
    have taken := (item_image representable generation method.codec (index - start) image here part
      counted carried).1
    obtain rfl := Except.ok.inj (read.symm.trans taken)
    rcases either value decoded with (oversized | exceeded) | answer
    · exact .inl oversized
    · exact absurd exceeded fits
    · exact .inr answer
  · rw [decoded] at same
    obtain rfl := Except.ok.inj same
    exact .inl oversized

end Pointwise

/-! ### The dispatches -/

/-- A dispatch whose handler adds one item for each key answers every add. -/
theorem dispatchTraced_all {request item : Type} {decode : Bytes → Res NipcError request}
    {itemCount : request → UInt32} {prepare : request → Prog NipcError LookupBuilder Unit}
    {add : item → Prog NipcError LookupBuilder Unit} {answers : item → Bytes → Prop}
    {req resp final : Bytes} {handler : Handler request item} {size : Nat} {added : List item}
    {view : request} (prepares : ∀ view, Prepares (prepare view))
    (adds : ∀ maxItems item items builder, Holds resp.length maxItems items builder →
      Outcome resp.length maxItems items builder (answers item) ((add item).run builder))
    (decoded : decode req = .ok view)
    (every : (addsOf (handler view).1).length = (itemCount view).toNat)
    (ran : (dispatchTraced decode itemCount prepare add req handler).run resp =
      (.ok (size, added), final)) :
    ∃ images, List.Forall₂ answers (addsOf (handler view).1) images ∧ Representable images ∧
      final.take size = responseImage (lastGeneration 0 (handler view).1) images := by
  obtain ⟨other, images, same, answered, counted, representable, -, -, response⟩ :=
    dispatchTraced_eq_ok prepares adds ran
  rw [decoded] at same
  obtain rfl := Except.ok.inj same
  obtain ⟨other, start, after, -, same, -, called, -⟩ := dispatchTraced_steps ran
  rw [decoded] at same
  obtain rfl := Except.ok.inj same
  have all : added = addsOf (handler view).1 := (runCalls_sublist _ called).eq_of_length
    (by rw [answered.length_eq, counted, every])
  exact ⟨images, all ▸ answered, representable, response⟩

/-- The handler adds the answers for the pids of a request, one for each and in order. -/
def AnswersPidsWith (handler : AppsLookupHandler) (answer : UInt32 → AppsItem) : Prop :=
  ∀ (request : LookupRequestView) (pids : List UInt32), request.Lists appsKeyCodec id pids →
    addsOf (handler request).1 = pids.map answer

/-- The handler adds the answers for the paths of a request, one for each and in order. -/
def AnswersPathsWith (handler : CgroupsLookupHandler) (answer : Bytes → CgroupsItem) : Prop :=
  ∀ (request : CgroupsRequest) (paths : List Bytes),
    request.1.Lists cgroupsKeyCodec StrView.of paths →
    List.Forall₂ (fun (call : CgroupsAdd) path => call.item = .ok (answer path))
      (addsOf (handler request).1) paths

/-- Reading a list index by index. -/
theorem filterMap_range {ι κ : Type} (shows : ι → κ) (reader : Nat → Option κ) (list : List ι)
    (read : ∀ (index : Nat) (value : ι), list[index]? = some value →
      reader index = some (shows value)) :
    (List.range list.length).filterMap reader = list.map shows := by
  induction list using List.reverseRecOn with
  | nil => rfl
  | append_singleton rest last ih =>
    have before (index : Nat) (value : ι) (found : rest[index]? = some value) :
        reader index = some (shows value) := by
      refine read index value ?_
      rw [List.getElem?_append_left (List.getElem?_eq_some_iff.mp found).1]
      exact found
    have here : reader rest.length = some (shows last) := read rest.length last (by simp)
    rw [List.length_append, List.length_singleton, List.range_succ, List.filterMap_append,
      ih before, List.map_append, List.filterMap_cons, here]
    rfl

/-- The keys of a request, as a handler reads them. -/
def LookupRequestView.keys {κ : Type} (codec : KeyCodec κ) (view : LookupRequestView) : List κ :=
  (List.range view.itemCount.toNat).filterMap fun index =>
    (view.item codec (UInt32.ofNat index)).toOption

theorem LookupRequestView.keys_of_lists {κ ι : Type} {codec : KeyCodec κ} {shows : ι → κ}
    {keys : List ι} {view : LookupRequestView} (lists : view.Lists codec shows keys) :
    view.keys codec = keys.map shows := by
  rw [LookupRequestView.keys, lists.count]
  refine filterMap_range shows _ keys fun index key found => ?_
  rw [lists.item index key found]
  rfl

/-- A handler that answers each pid by itself. -/
def appsHandlerOf (answer : UInt32 → AppsItem) (generation : UInt64) : AppsLookupHandler :=
  fun request => (.setGeneration generation :: (request.keys appsKeyCodec).map fun pid =>
    .add (answer pid), true)

theorem addsOf_map {key item : Type} (answer : key → item) (keys : List key) :
    addsOf (keys.map fun key => .add (answer key)) = keys.map answer := by
  induction keys with
  | nil => rfl
  | cons key rest ih =>
    rw [List.map_cons, addsOf, ih, List.map_cons]

theorem appsHandlerOf_answers (answer : UInt32 → AppsItem) (generation : UInt64) :
    AnswersPidsWith (appsHandlerOf answer generation) answer := by
  intro request pids lists
  rw [appsHandlerOf, LookupRequestView.keys_of_lists lists, List.map_id]
  exact addsOf_map answer pids

variable {request payload : Bytes}

theorem pointwise_apps {handler : AppsLookupHandler} {answer : UInt32 → AppsItem}
    (answering : AnswersPidsWith handler answer) {pids : List UInt32}
    (isRequest : Client.IsRequest appsLookupMethod pids request)
    (served : Server.Served (appsLookupDispatch handler) request payload) :
    Pointwise appsLookupMethod (fun pid => (answer pid).image)
      (fun value pid => value.Shows (answer pid)) pids payload := by
  obtain ⟨buf, written, rest, len, encoded, rfl⟩ := isRequest
  obtain ⟨view, decoded, lists⟩ := carries_pids encoded rest
  obtain ⟨resp, n, after, ran, rfl⟩ := served.run
  obtain ⟨added, traced⟩ := Prog.run_bind_fst_eq_ok.mp (lookupDispatch_eq_ok ran)
  have given := answering view pids lists
  obtain ⟨images, answered, representable, response⟩ := dispatchTraced_all
    prepareAppsLookup_prepares (fun _ item _ _ holds => addAppsItem_answers item holds) decoded
    (by rw [given, List.length_map]; exact lists.count.symm) traced
  rw [given] at answered
  refine ⟨_, images, response, representable, fun index pid found => ?_⟩
  obtain ⟨image, here, answers⟩ := image_of_added answered index (answer pid)
    (by rw [List.getElem?_map, found]; rfl)
  have small := Representable.length_lt representable image (List.mem_of_getElem? here)
  refine ⟨image, here, fun value accepted => ?_⟩
  have reads (item : AppsItem) (valid : item.Valid) (same : image = item.image) :
      value = item.view := by
    rw [same] at accepted small
    exact Except.ok.inj (accepted.symm.trans (decodeAppsItem_of_valid item valid small))
  rcases answers with same | same | ⟨same, valid⟩
  · rw [reads _ (valid_appsPlaceholder _ (.inr rfl)) same]
    exact .inl (.inr rfl)
  · rw [reads _ (valid_appsPlaceholder _ (.inl rfl)) same]
    exact .inl (.inl rfl)
  · rw [reads _ valid same]
    exact .inr ⟨same, shows_appsView valid (same ▸ small)⟩

theorem pointwise_cgroups {handler : CgroupsLookupHandler} {answer : Bytes → CgroupsItem}
    (answering : AnswersPathsWith handler answer) {paths : List Bytes}
    (isRequest : Client.IsRequest cgroupsLookupMethod paths request)
    (served : Server.Served (cgroupsLookupDispatch handler) request payload) :
    Pointwise cgroupsLookupMethod (fun path => (answer path).image)
      (fun value path => value.Shows (answer path)) paths payload := by
  obtain ⟨buf, written, rest, len, encoded, rfl⟩ := isRequest
  obtain ⟨view, decoded, lists⟩ := carries_paths encoded rest
  obtain ⟨resp, n, after, ran, rfl⟩ := served.run
  obtain ⟨added, traced⟩ := Prog.run_bind_fst_eq_ok.mp (lookupDispatch_eq_ok ran)
  have given := answering ⟨view, _, decoded⟩ paths lists
  obtain ⟨images, answered, representable, response⟩ := dispatchTraced_all
    (fun view : CgroupsRequest => prepareCgroupsLookup_prepares view.1)
    (fun _ call _ _ holds => cgroupsAdd_outcome call holds)
    (decodeCgroupsRequest_of_decoded decoded) (given.length_eq.trans lists.count.symm) traced
  refine ⟨_, images, response, representable, fun index path found => ?_⟩
  obtain ⟨bound, rfl⟩ := List.getElem?_eq_some_iff.mp found
  have listed : index < (addsOf (handler ⟨view, _, decoded⟩).1).length :=
    given.length_eq.symm ▸ bound
  have item := given.get listed bound
  obtain ⟨image, here, other, taken, answers⟩ := image_of_added answered index _
    (List.getElem?_eq_getElem listed)
  obtain rfl := Except.ok.inj (item.symm.trans taken)
  have small := Representable.length_lt representable image (List.mem_of_getElem? here)
  refine ⟨image, here, fun value accepted => ?_⟩
  have reads (item : CgroupsItem) (valid : item.Valid) (same : image = item.image) :
      value = item.view := by
    rw [same] at accepted small
    exact Except.ok.inj (accepted.symm.trans (decodeCgroupsItem_of_valid item valid small))
  -- A placeholder is made without a look at its path, but it is only read with a proper one.
  have placeholder (status : UInt16)
      (either : status = cgroupLookupOversizedItem ∨ status = cgroupLookupPayloadExceeded)
      (path : Bytes) (same : image = (CgroupsItem.placeholder status path).image) :
      value.status = status := by
    obtain ⟨some, clean⟩ := path_of_decodeCgroupsItem (CgroupsItem.placeholder status path)
      (by decide : (0 : Nat) < 2 ^ 16) (same ▸ small) (same ▸ accepted)
    rw [reads _ (valid_placeholder either some clean) same]
    rfl
  rcases answers with same | same | ⟨same, valid⟩
  · exact .inl (.inr (placeholder _ (.inr rfl) _ same))
  · exact .inl (.inl (placeholder _ (.inl rfl) _ same))
  · rw [reads _ valid same]
    exact .inr ⟨same, shows_view valid (same ▸ small)⟩

/-! ### Both ends -/

/-- The lookups of the client return the answers of the handler, however they were split: with a
log in which every answered request was answered by a session of the server, each item is the
encoded answer for its key, or has the status OVERSIZED_ITEM. -/
theorem lookups_answered {σ : Type} (os : ClientOs σ) (fuel : Nat) (timeoutMs : UInt32)
    (world after : ClientWorld σ) (view : LookupResponseView) (events : List LookupEvent)
    (logged : after.calls = world.calls ++ events) :
    (∀ (handler : AppsLookupHandler) (answer : UInt32 → AppsItem) (pids : List UInt32),
      AnswersPidsWith handler answer →
      (Client.callAppsLookupWithTimeout os fuel pids timeoutMs).run world = (.ok view, after) →
      (∀ start count request payload, .asked start count request (.ok payload) ∈ events →
        Server.Served (appsLookupDispatch handler) request payload) →
      ∀ (index : Nat) (pid : UInt32), pids[index]? = some pid → ∃ bytes item,
        view.rawItem (UInt32.ofNat index) = .ok bytes ∧
        view.item appsItemCodec (UInt32.ofNat index) = .ok item ∧
        (item.status = pidLookupOversizedItem ∨
          bytes = (answer pid).image ∧ item.Shows (answer pid))) ∧
    ∀ (handler : CgroupsLookupHandler) (answer : Bytes → CgroupsItem) (paths : List Bytes),
      AnswersPathsWith handler answer →
      (Client.callCgroupsLookupWithTimeout os fuel paths timeoutMs).run world = (.ok view, after) →
      (∀ start count request payload, .asked start count request (.ok payload) ∈ events →
        Server.Served (cgroupsLookupDispatch handler) request payload) →
      ∀ (index : Nat) (path : Bytes), paths[index]? = some path → ∃ bytes item,
        view.rawItem (UInt32.ofNat index) = .ok bytes ∧
        view.item cgroupsItemCodec (UInt32.ofNat index) = .ok item ∧
        (item.status = cgroupLookupOversizedItem ∨
          bytes = (answer path).image ∧ item.Shows (answer path)) := by
  constructor
  · intro handler answer pids answering ran served
    obtain ⟨others, same, stitched⟩ := Client.callLookupWithTimeout_eq_ok os fuel pids
      appsLookupMethod_lawful timeoutMs ran
    obtain rfl := List.append_cancel_left (logged.symm.trans same)
    exact items_of_pointwise stitched fun start count request payload member isRequest =>
      pointwise_apps answering isRequest (served start count request payload member)
  · intro handler answer paths answering ran served
    obtain ⟨others, same, stitched⟩ := Client.callLookupWithTimeout_eq_ok os fuel paths
      cgroupsLookupMethod_lawful timeoutMs ran
    obtain rfl := List.append_cancel_left (logged.symm.trans same)
    exact items_of_pointwise stitched fun start count request payload member isRequest =>
      pointwise_cgroups answering isRequest (served start count request payload member)

/-- The answer to a request that was written into a buffer with these contents. -/
def answerIn (handler : DispatchHandler) (buf request : Bytes) : Option Bytes :=
  match (handler request).run buf with
  | (.ok n, after) => if n ≤ buf.length then some (after.take n) else none
  | _ => none

theorem served_of_answerIn {handler : DispatchHandler} {buf : Bytes}
    (answer : answerIn handler buf request = some payload) :
    Server.Served handler request payload := by
  rw [answerIn] at answer
  split at answer
  · rename_i n after ran
    split at answer
    · rename_i fits
      obtain rfl := Option.some.inj answer
      have settles : Server.Invocation.Settles ⟨request, buf.length, .ok n, after⟩ (.ok n) :=
        .answered rfl fits
      have ran : (handler.stateless request).run (buf, ()) = (.ok n, after, ()) := by
        rw [Server.run_stateless, ran]
      exact ⟨Unit, ⟨0, some handler.stateless, 0, 0⟩, {}, _, _, rfl, rfl,
        .single rfl rfl rfl rfl ⟨rfl, _, ran, rfl, trivial⟩ settles, rfl⟩
    · cases answer
  · cases answer

/-- Every answer of a log is the one written into this buffer. -/
def LookupEvent.answeredIn (handler : DispatchHandler) (buf : Bytes) : LookupEvent → Bool
  | .asked _ _ request (.ok payload) => answerIn handler buf request = some payload
  | _ => true

theorem served_of_answeredIn {handler : DispatchHandler} {buf : Bytes} {events : List LookupEvent}
    (checked : events.all (LookupEvent.answeredIn handler buf) = true) (start count : Nat)
    (request payload : Bytes) (member : .asked start count request (.ok payload) ∈ events) :
    Server.Served handler request payload :=
  served_of_answerIn (of_decide_eq_true (List.all_eq_true.mp checked _ member))

/-- A process with a short name, and no more. -/
def plainProcess (pid : UInt32) : AppsItem :=
  ⟨pidLookupKnown, appsCgroupHostRoot, 0, pid, 1, 0, 42, [115, 104], [], [], []⟩

/-- The answers of a server with room for one process and a placeholder. -/
def narrowScript : List Bytes :=
  let answer (messageId : UInt64) (pids : List UInt32) : Bytes :=
    Client.answerPacket methodAppsLookup messageId ((answerIn
      (appsLookupDispatch (appsHandlerOf plainProcess 5)) (zeros 167)
      (responseImage 0 (pids.map pidKey))).getD [])
  [answer 1 [7, 8], answer 2 [8]]

/-- Two pids, answered in two subcalls. -/
theorem lookups_answered_narrow :
    let session := Handshake.sessionOf 3 .client ⟨1, 0, 1, 1, 1, 1024, 1, 1024, 1, 4096, 7⟩
    let os := Client.scriptedOs session
    let start := ((Client.Operation.perform os 9 .refresh).run
      ⟨.newBound methodAppsLookup ⟨1, 0, 1024, 1, 1024, 1, 0, 4096⟩, narrowScript, [], [], []⟩).2
    let call := (Client.callAppsLookupWithTimeout os 9 [7, 8] 0).run start
    let view := ⟨1, 0, 2, 5, responseImage 5 [(plainProcess 7).image, (plainProcess 8).image]⟩
    call.1 = .ok view ∧ ∀ (index : Nat) (pid : UInt32), [7, 8][index]? = some pid →
      ∃ bytes item, view.rawItem (UInt32.ofNat index) = .ok bytes ∧
        view.item appsItemCodec (UInt32.ofNat index) = .ok item ∧
        (item.status = pidLookupOversizedItem ∨
          bytes = (plainProcess pid).image ∧ item.Shows (plainProcess pid)) := by
  intro session os start call view
  have ⟨returned, fresh, checked⟩ : call.1 = .ok view ∧ start.calls.length = 0 ∧
      call.2.calls.all (LookupEvent.answeredIn
        (appsLookupDispatch (appsHandlerOf plainProcess 5)) (zeros 167)) = true := by
    decide +kernel
  have logged : call.2.calls = start.calls ++ call.2.calls := by
    rw [List.length_eq_zero_iff.mp fresh, List.nil_append]
  exact ⟨returned, (lookups_answered os 9 0 start call.2 view call.2.calls logged).1 _ plainProcess
    [7, 8] (appsHandlerOf_answers plainProcess 5) (Prog.run_of_fst returned)
    (served_of_answeredIn checked)⟩

end NetIpc
