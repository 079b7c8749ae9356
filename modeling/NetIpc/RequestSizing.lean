/-
This file relates the three places that know how long a lookup request is: the size
functions of the client, the encoders, and the choice of how many keys to ask for.

All three are compared with one number, the length of the request's image. The size
functions compute it, the encoders fill a buffer of exactly that length, and since a longer
prefix of the keys never has a shorter image, the search of the cgroups client and the
division of the apps client both find the longest prefix that stays within a limit.
-/

import Mathlib.Order.Bounds.Defs
import NetIpc.ClientLookup

namespace NetIpc

variable {ι κ α : Type}

/-! ### The length of a request -/

/-- The length of the request for `keys`, where a key is encoded by `bytes`. -/
def requestLength (bytes : ι → Bytes) (keys : List ι) : Nat :=
  (responseImage 0 (keys.map bytes)).length

theorem requestLength_eq (bytes : ι → Bytes) (keys : List ι) :
    requestLength bytes keys = 16 + 8 * keys.length + endFrom 0 (keys.map bytes) := by
  rw [requestLength, length_responseImage, List.length_map]

/-- The packed keys begin right behind the directory. -/
theorem requestLength_eq_endFrom (bytes : ι → Bytes) (keys : List ι) :
    requestLength bytes keys = endFrom (16 + 8 * keys.length) (keys.map bytes) := by
  have packed := endFrom_add (16 + 8 * keys.length) 0 (keys.map bytes) (by omega)
  rw [requestLength_eq]
  exact packed.symm

theorem requestLength_pids (pids : List UInt32) :
    requestLength pidKey pids = 16 + 16 * pids.length := by
  rw [requestLength_eq, endFrom_pidKeys 0 rfl]
  omega

theorem requestLength_append_le (bytes : ι → Bytes) (keys more : List ι) :
    requestLength bytes keys ≤ requestLength bytes (keys ++ more) := by
  have grows := le_endFrom (endFrom 0 (keys.map bytes)) (more.map bytes)
  rw [requestLength_eq, requestLength_eq, List.map_append, endFrom_append, List.length_append]
  omega

/-- A longer prefix has a longer request. -/
theorem requestLength_take_mono (bytes : ι → Bytes) (keys : List ι) {few many : Nat}
    (le : few ≤ many) :
    requestLength bytes (keys.take few) ≤ requestLength bytes (keys.take many) := by
  have parts : keys.take many = keys.take few ++ (keys.drop few).take (many - few) := by
    rw [← List.take_add, Nat.add_sub_cancel' le]
  rw [parts]
  exact requestLength_append_le bytes _ _

theorem requestLength_take_le (bytes : ι → Bytes) (keys : List ι) (count : Nat) :
    requestLength bytes (keys.take count) ≤ requestLength bytes keys := by
  nth_rewrite 2 [← List.take_append_drop count keys]
  exact requestLength_append_le bytes _ _

/-! ### The size functions -/

theorem appsLookupRequestSize_of_le {count : Nat} (small : 16 + 16 * count ≤ usizeMax) :
    appsLookupRequestSize count = .ok (16 + 16 * count) := by
  rw [appsLookupRequestSize, lookupDirEntrySize, appsLookupKeySize, lookupReqHdrSize,
    checkedMul_of_le (by omega), okOr_some, ok_bind, ok_bind,
    checkedAdd_of_le (by omega), Option.bind_some, checkedAdd_of_le (by omega), okOr_some]
  exact congrArg _ (by omega)

variable (paths : List Bytes) (bytes : ι → Bytes) (keys : List ι)

/-- The loop of `cgroups_lookup_request_size` computes where the last key ends. -/
theorem foldlM_addPathSize (data : Nat) (small : endFrom data (paths.map pathKey) + 7 ≤ usizeMax) :
    paths.foldlM addPathSize data = .ok (endFrom data (paths.map pathKey)) := by
  induction paths generalizing data with
  | nil => rfl
  | cons path rest ih =>
    rw [List.map_cons, endFrom] at small ⊢
    have stays := le_endFrom (align8 data + (pathKey path).length) (rest.map pathKey)
    have up := le_align8 data
    have key : (pathKey path).length = path.length + 1 := List.length_append
    have step : addPathSize data path = .ok (align8 data + (pathKey path).length) := by
      rw [addPathSize, checkedAdd_of_le (by omega), Option.map_some, okOr_some, ok_bind,
        checkedAdd_bind]
      rw [checkedAdd_of_le (show (data + 7) / 8 * 8 + path.length + 1 ≤ usizeMax by
        rw [show (data + 7) / 8 * 8 = align8 data from rfl]
        omega), okOr_some, key]
      rfl
    rw [List.foldlM_cons, step, ok_bind]
    exact ih _ small

theorem cgroupsLookupRequestSize_of_le {paths : List Bytes}
    (small : requestLength pathKey paths + 7 ≤ usizeMax) :
    cgroupsLookupRequestSize paths = .ok (requestLength pathKey paths) := by
  rw [requestLength_eq_endFrom] at small ⊢
  have stays := le_endFrom (16 + 8 * paths.length) (paths.map pathKey)
  rw [cgroupsLookupRequestSize, lookupDirEntrySize, lookupReqHdrSize, checkedMul_of_le (by omega),
    okOr_some, ok_bind, Nat.mul_comm, checkedAdd_of_le (by omega), okOr_some, ok_bind]
  exact foldlM_addPathSize paths _ small

/-! ### The encoders -/

/-- Decoding the bytes gives the keys back, in order; `text` takes a key out of its view. -/
def Recovers (codec : KeyCodec κ) (text : κ → Res NipcError ι) (keys : List ι)
    (request : Bytes) : Prop :=
  ∃ view, decodeLookupRequest codec request = .ok view ∧ view.itemCount.toNat = keys.length ∧
    ∀ index key, keys[index]? = some key →
      ∃ value, view.item codec (UInt32.ofNat index) = .ok value ∧ text value = .ok key

theorem Carries.recovers {codec : KeyCodec κ} {shows : ι → κ} {keys : List ι} {request : Bytes}
    (carries : Carries codec shows keys request) {text : κ → Res NipcError ι}
    (read : ∀ key ∈ keys, text (shows key) = .ok key) : Recovers codec text keys request := by
  obtain ⟨view, decoded, lists⟩ := carries
  exact ⟨view, decoded, lists.count, fun index key found =>
    ⟨shows key, lists.item index key found, read key (List.mem_of_getElem? found)⟩⟩

/-- The size function gives `length`, and in any buffer of that length the encoder succeeds, uses
all of it, and leaves a request for the keys. -/
structure EncodesExactly (codec : KeyCodec κ) (text : κ → Res NipcError ι)
    (size : Res NipcError Nat) (encode : Prog NipcError Bytes Nat) (keys : List ι)
    (length : Nat) : Prop where
  size_eq : size = .ok length
  fills : ∀ buf : Bytes, buf.length = length →
    ∃ final, encode.run buf = (.ok length, final) ∧ final.length = length ∧
      Recovers codec text keys final

variable {pids : List UInt32}

theorem run_encodeAppsLookupRequest {buf : Bytes} (room : buf.length = requestLength pidKey pids)
    (small : requestLength pidKey pids < 2 ^ 32) :
    ∃ final, (encodeAppsLookupRequest pids).run buf = (.ok buf.length, final) ∧
      final.length = buf.length := by
  rw [requestLength_pids] at room small
  have length : (pids.map pidKey).length = pids.length := List.length_map _
  obtain ⟨filled, tail, ran, laid, -, kept⟩ | ⟨-, large⟩ := run_encodePidsFrom pids
    (show Laid 16 pids.length 0 buf (([] : List UInt32).map pidKey) _ from
      Laid.start 16 pids.length 0 buf (by omega)) (absRepresentable_nil 0) (Nat.zero_add _).le
    room.ge
  rotate_left
  · exact absurd large (by omega)
  rw [List.nil_append] at laid
  have header := run_putRequestHeader (by rw [length]; exact laid) (by rw [length]; omega)
  rw [length] at header
  have ran : (encodePidsFrom (16 + 8 * pids.length) 0 pids).run buf = _ := ran
  refine ⟨responseImage 0 (pids.map pidKey) ++ tail, ?_, ?_⟩
  rotate_left
  · rw [List.length_append, length_responseImage, length, ← kept, laid.length]
  rw [encodeAppsLookupRequest, lookupDirEntrySize, appsLookupKeySize, lookupReqHdrSize,
    Prog.mul_bind (by omega), Prog.mul_bind (by omega), Nat.mul_comm, Prog.add_bind (by omega),
    Prog.add_bind (by omega), Prog.run_bind_ok (Prog.run_get _), Prog.guard_bind (by omega),
    Prog.run_bind_ok ran, Prog.run_bind_ok header, room,
    show 16 + 8 * pids.length + 8 * pids.length = 16 + 16 * pids.length by omega]
  rfl

/-- The apps encoder and its size function. -/
theorem encodesExactly_pids (pids : List UInt32) (small : requestLength pidKey pids < 2 ^ 32) :
    EncodesExactly appsKeyCodec .ok (appsLookupRequestSize pids.length)
      (encodeAppsLookupRequest pids) pids (requestLength pidKey pids) where
  size_eq := by
    have length := requestLength_pids pids
    rw [length]
    exact appsLookupRequestSize_of_le (by rw [usizeMax]; omega)
  fills := by
    intro buf room
    obtain ⟨final, ran, kept⟩ := run_encodeAppsLookupRequest room small
    have carried := carries_pids ran []
    rw [List.append_nil, ← kept, List.take_length] at carried
    exact ⟨final, by rw [ran, room], kept.trans room, carried.recovers fun _ _ => rfl⟩

/-- Paths fit when their request does. -/
theorem pathsFit_of_length {count size : Nat} (keys : List Bytes)
    (proper : ∀ path ∈ paths, path ≠ [] ∧ 0 ∉ path)
    (room : 16 + 8 * count + endFrom 0 (keys ++ paths.map pathKey) ≤ size) (small : size < 2 ^ 32) :
    PathsFit count size keys paths := by
  induction paths generalizing keys with
  | nil => trivial
  | cons path rest ih =>
    obtain ⟨first, others⟩ := List.forall_mem_cons.mp proper
    have stays := le_endFrom (endFrom 0 (keys ++ [pathKey path])) (rest.map pathKey)
    have next : endFrom 0 (keys ++ [pathKey path]) =
        align8 (endFrom 0 keys) + (pathKey path).length := endFrom_append _ _ _
    have key : (pathKey path).length = path.length + 1 := List.length_append
    have parts :
        keys ++ (path :: rest).map pathKey = keys ++ [pathKey path] ++ rest.map pathKey := by
      rw [List.map_cons, List.append_assoc, List.singleton_append]
    rw [← endFrom_append, ← parts, next] at stays
    rw [parts] at room
    refine ⟨⟨⟨?_, ?_, ?_⟩, first.1, first.2, ?_⟩, ih _ others room⟩
    all_goals rw [← parts] at room
    · omega
    · omega
    · omega
    · rw [usizeMax]
      omega

/-- The cgroups encoder and its size function. -/
theorem encodesExactly_paths (proper : ∀ path ∈ paths, path ≠ [] ∧ 0 ∉ path)
    (small : requestLength pathKey paths < 2 ^ 32) :
    EncodesExactly cgroupsKeyCodec StrView.asBytes (cgroupsLookupRequestSize paths)
      (encodeCgroupsLookupRequest paths) paths (requestLength pathKey paths) where
  size_eq := cgroupsLookupRequestSize_of_le (by rw [usizeMax]; omega)
  fills := by
    intro buf room
    have length := requestLength_eq pathKey paths
    obtain ⟨rest, ran, kept⟩ := run_encodeCgroupsLookupRequest (by omega)
      (show 16 + 8 * paths.length ≤ buf.length by omega)
      (pathsFit_of_length paths [] proper (by rw [List.nil_append]; omega) (by omega))
    have carried := carries_paths ran []
    have representable := (encodeCgroupsLookupRequest_eq_ok ran).2.2.1
    have whole : (responseImage 0 (paths.map pathKey) ++ rest).length =
        (responseImage 0 (paths.map pathKey)).length := kept.trans room
    rw [List.append_nil, ← whole, List.take_length] at carried
    refine ⟨_, ran, whole, carried.recovers fun path member => asBytes_of path ?_⟩
    have bound := representable.length_lt _ (List.mem_map_of_mem member)
    have key : (pathKey path).length = path.length + 1 := List.length_append
    omega

/-! ### How many keys to ask for -/

/-- The answer is the longest prefix of `total` keys whose length is within the limit, with that
length; it is an overflow exactly when one key is too long. -/
structure LongestPrefix (length : Nat → Nat) (total limit : Nat)
    (answer : Res NipcError (Nat × Nat)) : Prop where
  fits : length 1 ≤ limit → ∃ count, answer = .ok (count, length count) ∧
    IsGreatest {count | count ≤ total ∧ length count ≤ limit} count
  overflow : answer = .error (.err .overflow) ↔ limit < length 1

theorem applyDefault_of_ne {value default : UInt32} (given : value ≠ 0) :
    Handshake.applyDefault value default = value := if_neg given

theorem longestPrefix_pids (some : pids ≠ []) {limit : UInt32} (given : limit ≠ 0) :
    LongestPrefix (fun count => requestLength pidKey (pids.take count)) pids.length limit.toNat
      (appsLookupNextRequestCount pids.length limit) := by
  have positive := List.length_pos_of_ne_nil some
  have bound := limit.toNat_lt
  have length (count : Nat) (few : count ≤ pids.length) :
      requestLength pidKey (pids.take count) = 16 + 16 * count := by
    rw [requestLength_pids, List.length_take_of_le few]
  by_cases fits : 32 ≤ limit.toNat
  · have answer : appsLookupNextRequestCount pids.length limit =
        .ok (min pids.length ((limit.toNat - 16) / 16),
          16 + 16 * min pids.length ((limit.toNat - 16) / 16)) := by
      have size : appsLookupRequestSize (min pids.length ((limit.toNat - 16) / 16)) =
          .ok (16 + 16 * min pids.length ((limit.toNat - 16) / 16)) :=
        appsLookupRequestSize_of_le (by rw [usizeMax]; omega)
      rw [appsLookupNextRequestCount, if_neg (by omega), applyDefault_of_ne given,
        lookupDirEntrySize, appsLookupKeySize, lookupReqHdrSize, add_bind (by omega),
        guard_bind (by omega)]
      dsimp only
      rw [guard_bind (by omega), size]
      rfl
    constructor
    · intro _
      refine ⟨_, by rw [answer, length _ (Nat.min_le_left _ _)], ⟨Nat.min_le_left _ _, ?_⟩, ?_⟩
      · rw [length _ (Nat.min_le_left _ _)]
        omega
      · rintro count ⟨few, within⟩
        rw [length count few] at within
        omega
    · rw [answer, length 1 positive]
      exact ⟨(fun same => by cases same), fun past => absurd past (by omega)⟩
  · have answer : appsLookupNextRequestCount pids.length limit = .error (.err .overflow) := by
      rw [appsLookupNextRequestCount, if_neg (by omega), applyDefault_of_ne given,
        lookupDirEntrySize, appsLookupKeySize, lookupReqHdrSize,
        add_bind (by omega), rejectIf_of (by omega)]
      rfl
    constructor
    · rw [length 1 positive]
      exact fun within => absurd within (by omega)
    · rw [length 1 positive]
      exact ⟨fun _ => by omega, fun _ => answer⟩

/-- What the search knows: `best` is the prefix right below `lo`, which is within the limit, and
every prefix above `hi` is not. -/
structure Narrowed (length : Nat → Nat) (total limit lo hi : Nat) (best : Nat × Nat) : Prop where
  next : best.1 + 1 = lo
  size : best.1 ≠ 0 → best.2 = length best.1 ∧ length best.1 ≤ limit
  order : lo ≤ hi + 1
  inside : hi ≤ total
  above : ∀ count, hi < count → count ≤ total → limit < length count

/-- The search ends with everything above its result excluded. -/
theorem searchRequestCount_narrows {paths : List Bytes}
    (small : requestLength pathKey paths + 7 ≤ usizeMax) (cap fuel lo hi : Nat) (best : Nat × Nat)
    (enough : hi + 1 - lo < fuel)
    (known : Narrowed (fun count => requestLength pathKey (paths.take count)) paths.length cap
      lo hi best) :
    ∃ result, searchRequestCount paths cap fuel lo hi best = .ok result ∧
      Narrowed (fun count => requestLength pathKey (paths.take count)) paths.length cap
        (result.1 + 1) result.1 result := by
  -- Every pass leaves a shorter interval, so the induction is on the fuel.
  induction fuel generalizing lo hi best with
  | zero => omega
  | succ fuel ih =>
    have next := known.next
    have order := known.order
    have inside := known.inside
    rw [searchRequestCount]
    by_cases more : lo ≤ hi
    · have shorter := requestLength_take_le pathKey paths (lo + (hi - lo) / 2)
      rw [if_pos more]
      dsimp only
      rw [cgroupsLookupRequestSize_of_le (by omega), ok_bind]
      by_cases within : requestLength pathKey (paths.take (lo + (hi - lo) / 2)) ≤ cap
      · rw [if_pos within]
        exact ih _ _ _ (by omega) ⟨rfl, fun _ => ⟨rfl, within⟩, by omega, inside, known.above⟩
      · rw [if_neg within]
        refine ih _ _ _ (by omega) ⟨next, known.size, by omega, by omega, fun count above _ => ?_⟩
        exact lt_of_lt_of_le (not_le.mp within) (requestLength_take_mono pathKey paths (by omega))
    · rw [if_neg more]
      exact ⟨best, rfl, rfl, known.size, le_refl _, by omega,
        fun count above few => known.above count (by omega) few⟩

theorem longestPrefix_paths {paths : List Bytes} (some : paths ≠ [])
    (small : requestLength pathKey paths + 7 ≤ usizeMax) {limit : UInt32} (given : limit ≠ 0) :
    LongestPrefix (fun count => requestLength pathKey (paths.take count)) paths.length
      limit.toNat (cgroupsLookupNextRequestCount paths limit) := by
  have positive := List.length_pos_of_ne_nil some
  obtain ⟨best, found, known⟩ := searchRequestCount_narrows small limit.toNat
    (paths.length + 1) 1 paths.length (0, 0) (by omega)
    ⟨rfl, fun zero => absurd rfl zero, by omega, le_refl _, fun count above few => by omega⟩
  have answer : cgroupsLookupNextRequestCount paths limit =
      rejectIf (best.1 = 0) .overflow >>= fun _ => .ok best := by
    rw [cgroupsLookupNextRequestCount, if_neg some, applyDefault_of_ne given]
    dsimp only
    rw [found]
    rfl
  by_cases none : best.1 = 0
  · have past : limit.toNat < requestLength pathKey (paths.take 1) :=
      known.above 1 (by omega) positive
    rw [answer, rejectIf_of none]
    exact ⟨fun within => absurd within (not_le.mpr past), fun _ => past, fun _ => rfl⟩
  · obtain ⟨size, within⟩ := known.size none
    have first := requestLength_take_mono pathKey paths (show 1 ≤ best.1 by omega)
    rw [answer, guard_bind none]
    constructor
    · intro _
      refine ⟨best.1, congrArg Except.ok (Prod.ext rfl size), ⟨known.inside, within⟩, ?_⟩
      rintro count ⟨few, fits⟩
      by_contra above
      exact absurd (known.above count (not_le.mp above) few) (not_lt.mpr fits)
    · exact ⟨nofun, fun past => absurd (lt_of_lt_of_le past first) (not_lt.mpr within)⟩

/-- The request codecs, the size functions and the choice of the number of keys agree. The search
over the paths computes the size of every prefix it looks at as a `usize`, so the paths must have
a size at all. -/
theorem lookupRequests_sized :
    (∀ pids : List UInt32, requestLength pidKey pids ≤ 2 ^ 32 - 1 →
      EncodesExactly appsKeyCodec .ok (appsLookupRequestSize pids.length)
        (encodeAppsLookupRequest pids) pids (requestLength pidKey pids)) ∧
    (∀ paths : List Bytes, (∀ path ∈ paths, path ≠ [] ∧ 0 ∉ path) →
      requestLength pathKey paths ≤ 2 ^ 32 - 1 →
      EncodesExactly cgroupsKeyCodec StrView.asBytes (cgroupsLookupRequestSize paths)
        (encodeCgroupsLookupRequest paths) paths (requestLength pathKey paths)) ∧
    (∀ (pids : List UInt32) (limit : UInt32), pids ≠ [] → limit ≠ 0 →
      LongestPrefix (fun count => requestLength pidKey (pids.take count)) pids.length
        limit.toNat (appsLookupNextRequestCount pids.length limit)) ∧
    ∀ (paths : List Bytes) (limit : UInt32), paths ≠ [] →
      requestLength pathKey paths + 7 ≤ usizeMax → limit ≠ 0 →
      LongestPrefix (fun count => requestLength pathKey (paths.take count)) paths.length
        limit.toNat (cgroupsLookupNextRequestCount paths limit) :=
  ⟨fun pids small => encodesExactly_pids pids (by omega),
    fun paths proper small => encodesExactly_paths paths proper (by omega),
    fun _ _ some given => longestPrefix_pids some given,
    fun _ _ some small given => longestPrefix_paths some small given⟩

/-- Two pids and two paths, with a limit that leaves room for one of each. -/
theorem lookupRequests_sized_pair :
    EncodesExactly appsKeyCodec .ok (appsLookupRequestSize 2) (encodeAppsLookupRequest [7, 9])
        [7, 9] (requestLength pidKey [7, 9]) ∧
      EncodesExactly cgroupsKeyCodec StrView.asBytes (cgroupsLookupRequestSize [[47], [47, 97]])
        (encodeCgroupsLookupRequest [[47], [47, 97]]) [[47], [47, 97]]
        (requestLength pathKey [[47], [47, 97]]) ∧
      LongestPrefix (fun count => requestLength pidKey (([7, 9] : List UInt32).take count)) 2 40
        (appsLookupNextRequestCount 2 40) ∧
      LongestPrefix
        (fun count => requestLength pathKey (([[47], [47, 97]] : List Bytes).take count)) 2 40
        (cgroupsLookupNextRequestCount [[47], [47, 97]] 40) :=
  ⟨lookupRequests_sized.1 [7, 9] (by decide +kernel),
    lookupRequests_sized.2.1 [[47], [47, 97]] (by decide) (by decide +kernel),
    lookupRequests_sized.2.2.1 [7, 9] 40 (by decide) (by decide),
    lookupRequests_sized.2.2.2 [[47], [47, 97]] 40 (by decide) (by decide +kernel) (by decide)⟩

end NetIpc
