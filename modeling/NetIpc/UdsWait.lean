/-
This file says when the two verdicts of a waiting `receive_with_control` are
honest: `Timeout` when the deadline of the call has been reached, `Aborted` when
the abort flag was set.

Time is what the environment says it is: `Clocked` asks that it never runs
backwards, that a clock reading lies inside the call that took it, and that a
`poll` only expires after its timeout. The code asks `poll` for the milliseconds
left, rounded down, at most `i32::MAX`, and at most 100 when there is an abort
flag, and takes every expiry for the deadline. So `Timeout` is honest exactly when
nothing is lost in these three steps, which is decided by the arguments of the call
and by the steps the clock goes in.
-/

import NetIpc.UdsTerms

namespace NetIpc.Uds

variable {σ α : Type}

/-! ### Time -/

/-- An environment with a clock and an abort flag that is never taken back. -/
structure Clocked (os : Os σ) (time : σ → Nat) (flag : σ → Bool) : Prop where
  recv_time : ∀ size state, time state ≤ time (os.recv size state).2
  poll_time : ∀ timeout state, time state ≤ time (os.poll timeout state).2
  now_time : ∀ state, time state ≤ (os.now state).1 ∧ (os.now state).1 ≤ time (os.now state).2
  load_time : ∀ state, time state ≤ time (os.load state).2
  expired : ∀ timeout state, (os.poll timeout state).1 = .expired →
    0 ≤ timeout ∧ time state + timeout.toNat * nanosPerMilli ≤ time (os.poll timeout state).2
  load_flag : ∀ state, (os.load state).1 = true → flag (os.load state).2 = true

/-- The clock goes in steps of `unit` nanoseconds. -/
def Paced (unit : Nat) (os : Os σ) : Prop := ∀ state, unit ∣ (os.now state).1

/-- The deadline of a call that began at `began` has been reached. -/
def Due (timeoutMs : UInt32) (began now : Nat) : Prop :=
  timeoutMs ≠ 0 ∧ began + timeoutMs.toNat * nanosPerMilli ≤ now

/-- In every environment with a clock that goes in steps of `unit` nanoseconds, a call with these
arguments returns `Timeout` only when its deadline has been reached. -/
def TimeoutDue (unit : Nat) (timeoutMs : UInt32) (abort : Bool) : Prop :=
  ∀ (σ : Type) (os : Os σ) (time : σ → Nat) (flag : σ → Bool), Clocked os time flag →
    Paced unit os → ∀ fuel buf before after,
      (receiveWithControl os fuel buf timeoutMs abort).run before =
        (.error (.err .timeout), after) → Due timeoutMs (time before.os) (time after.os)

/-- Every time left can be given to `poll` as it is; without a deadline there is no abort flag. -/
structure Exact (unit : Nat) (timeoutMs : UInt32) (abort : Bool) : Prop where
  unlimited : timeoutMs = 0 → abort = false
  whole : timeoutMs ≠ 0 → nanosPerMilli ∣ unit
  short : timeoutMs.toNat ≤ if abort then 100 else i32Max

/-! ### Waiting -/

section

variable (unit : Nat) (timeoutMs : UInt32) (abort : Bool) (began : Nat)

/-- The waiting has the deadline of the call. -/
structure Underway (wait : ReceiveWait) (now : Nat) : Prop where
  abort : wait.abort = abort
  deadline : (timeoutMs = 0 ∧ wait.deadline = none) ∨
    (timeoutMs ≠ 0 ∧ ∃ start, began ≤ start ∧ start ≤ now ∧ unit ∣ start ∧
      wait.deadline = some (start + timeoutMs.toNat * nanosPerMilli))

/-- The timeout for `poll` reaches the deadline. -/
def Reaches (timeout : Int) (now : Nat) : Prop :=
  0 ≤ timeout → Exact unit timeoutMs abort →
    Due timeoutMs began (now + timeout.toNat * nanosPerMilli)

/-- After `poll` the waiting is still underway, and an expiry is the deadline. -/
structure Answered (wait : ReceiveWait) (answer : Polled) (now : Nat) : Prop where
  underway : Underway unit timeoutMs abort began wait now
  due : answer = .expired → Exact unit timeoutMs abort → Due timeoutMs began now

/-- `holds` of the time. -/
def At (time : σ → Nat) (holds : Nat → Prop) (endpoint : Endpoint σ) : Prop :=
  holds (time endpoint.os)

/-- The verdicts are honest. -/
def Report (time : σ → Nat) (flag : σ → Bool) (error : UdsError) (endpoint : Endpoint σ) : Prop :=
  (error = .aborted → abort = true ∧ flag endpoint.os = true) ∧
    (error = .timeout → Exact unit timeoutMs abort → Due timeoutMs began (time endpoint.os))

end

variable {os : Os σ} {time : σ → Nat} {flag : σ → Bool} {unit : Nat} {timeoutMs : UInt32}
  {abort : Bool} {began : Nat} {wait : ReceiveWait}

theorem monotone_underway : Monotone (Underway unit timeoutMs abort began wait) := by
  refine fun now later order underway => ⟨underway.abort, underway.deadline.imp_right ?_⟩
  rintro ⟨limited, start, late, early, rest⟩
  exact ⟨limited, start, late, early.trans order, rest⟩

theorem monotone_answered (answer : Polled) :
    Monotone (Answered unit timeoutMs abort began wait answer) := by
  refine fun now later order answered => ⟨monotone_underway order answered.underway, ?_⟩
  intro expired fits
  obtain ⟨limited, reached⟩ := answered.due expired fits
  exact ⟨limited, reached.trans order⟩

/-- A verdict other than the two claims nothing. -/
theorem report_of_ne {error : UdsError} (endpoint : Endpoint σ) (noTimeout : error ≠ .timeout)
    (noAbort : error ≠ .aborted) : Report unit timeoutMs abort began time flag error endpoint :=
  ⟨fun same => absurd same noAbort, fun same => absurd same noTimeout⟩

/-- What `poll` is asked for when so many milliseconds are left. -/
def asked (abort : Bool) (left : Option Nat) : Int :=
  ((if abort then some ((left.map (min · 100)).getD 100) else left).map Int.ofNat).getD (-1)

/-- Nothing is lost between the time left and the timeout for `poll`. -/
theorem Exact.kept (law : Exact unit timeoutMs abort) {left : Nat}
    (whole : nanosPerMilli ∣ left) (bound : left ≤ timeoutMs.toNat * nanosPerMilli) :
    (asked abort (some (min (left / nanosPerMilli) i32Max))).toNat * nanosPerMilli = left := by
  have small : left / nanosPerMilli ≤ timeoutMs.toNat :=
    Nat.div_le_of_le_mul (Nat.mul_comm _ _ ▸ bound)
  have fits := small.trans law.short
  have kept : (asked abort (some (min (left / nanosPerMilli) i32Max))).toNat =
      left / nanosPerMilli := by
    cases abort with
    | true =>
      have fits : left / nanosPerMilli ≤ 100 := fits
      show min (min (left / nanosPerMilli) i32Max) 100 = _
      rw [Nat.min_eq_left (fits.trans (by decide)), Nat.min_eq_left fits]
    | false => exact Nat.min_eq_left fits
  rw [kept, Nat.div_mul_cancel whole]

variable (law : Clocked os time flag)

include law

/-- The abort flag is looked at before and after every `poll`. -/
theorem triple_unlessAborted {holds : Nat → Prop} (lasting : Monotone holds)
    (same : wait.abort = abort) {next : UdsProg σ α} {post : α → Endpoint σ → Prop}
    (rest : Triple (At time holds) next post (Report unit timeoutMs abort began time flag)) :
    Triple (At time holds) (do if ← wait.aborted os then Prog.fail .aborted else next) post
      (Report unit timeoutMs abort began time flag) := by
  refine Exits.via (fun answer endpoint => At time holds endpoint ∧
    (answer = true → wait.abort = true ∧ flag endpoint.os = true)) ?_ fun aborted => ?_
  · refine Exits.ite (fun present endpoint held => ?_) fun _ => ?_
    · exact ⟨lasting (law.load_time _) held, fun set => ⟨present, law.load_flag _ set⟩⟩
    · exact Exits.pure _ fun endpoint held => ⟨held, fun set => absurd set (by decide)⟩
  · refine Exits.ite (fun set => Triple.fail _ fun endpoint held => ?_) fun _ =>
      rest.under fun _ held => held.1
    exact ⟨fun _ => same ▸ held.2 set, nofun⟩

variable (paced : Paced unit os)

include paced

theorem triple_remainingMs :
    Triple (At time (Underway unit timeoutMs abort began wait)) (wait.remainingMs os)
      (fun left => At time fun now => Underway unit timeoutMs abort began wait now ∧
        Reaches unit timeoutMs abort began (asked abort left) now)
      (Report unit timeoutMs abort began time flag) := by
  unfold ReceiveWait.remainingMs
  split
  · rename_i none
    refine Exits.pure _ fun endpoint underway => ⟨underway, fun wanted fits => ?_⟩
    obtain ⟨-, ⟨unlimited, -⟩ | ⟨-, start, -, -, -, some⟩⟩ := underway
    · rw [fits.unlimited unlimited] at wanted
      exact absurd wanted (by decide)
    · rw [none] at some
      cases some
  · rename_i deadline found
    intro endpoint underway
    obtain ⟨after, before⟩ := law.now_time endpoint.os
    have still := monotone_underway (after.trans before) underway
    obtain ⟨-, ⟨-, none⟩ | ⟨limited, start, late, early, startPaced, same⟩⟩ := underway
    · rw [none] at found
      cases found
    rw [found] at same
    have due := Option.some.inj same
    rw [Prog.run_bind_ok (run_call _ _ _)]
    split_ifs with reached
    · refine ⟨nofun, fun _ _ => ⟨limited, (Nat.add_le_add_right late _).trans ?_⟩⟩
      rw [← due]
      exact reached.trans before
    · refine ⟨still, fun _ fits => ⟨limited, ?_⟩⟩
      have whole := Nat.dvd_sub (Nat.dvd_add ((fits.whole limited).trans startPaced)
        (Nat.dvd_mul_left _ timeoutMs.toNat)) ((fits.whole limited).trans (paced endpoint.os))
      rw [← due] at whole
      have kept := fits.kept whole (by omega)
      change began + _ ≤ time (os.now endpoint.os).2 + Int.toNat _ * nanosPerMilli
      rw [kept]
      omega

/-- The timeout for `poll` reaches the deadline, as long as nothing is lost. -/
theorem triple_pollTimeoutMs :
    Triple (At time (Underway unit timeoutMs abort began wait)) (wait.pollTimeoutMs os)
      (fun timeout => At time fun now => Underway unit timeoutMs abort began wait now ∧
        Reaches unit timeoutMs abort began timeout now)
      (Report unit timeoutMs abort began time flag) := by
  intro endpoint underway
  have same := underway.abort
  refine triple_unlessAborted law monotone_underway same
    ((triple_remainingMs law paced).bind fun left => Exits.pure _ fun _ held => ?_) endpoint
    underway
  rw [same]
  exact held

variable (fuel : Nat)

theorem triple_waitFdReadable :
    Triple (At time (Underway unit timeoutMs abort began wait)) (waitFdReadable os fuel wait)
      (fun _ => At time (Underway unit timeoutMs abort began wait))
      (Report unit timeoutMs abort began time flag) := by
  refine Triple.loop (fun _ => At time (Underway unit timeoutMs abort began wait)) (fun _ => ?_)
    fuel ()
  refine (triple_pollTimeoutMs law paced).bind fun timeout => ?_
  refine Exits.via (fun answer => At time (Answered unit timeoutMs abort began wait answer))
    (fun endpoint held => ?_) fun answer endpoint answered => ?_
  · obtain ⟨underway, reaches⟩ := held
    refine ⟨monotone_underway (law.poll_time _ _) underway, fun expired fits => ?_⟩
    obtain ⟨limited, elapsed⟩ := law.expired timeout endpoint.os expired
    obtain ⟨isLimited, reached⟩ := reaches limited fits
    exact ⟨isLimited, reached.trans elapsed⟩
  have same := answered.underway.abort
  revert endpoint
  cases answer with
  | failed errno =>
    refine Exits.ite (fun _ => Exits.pure _ fun _ answered => answered.underway) fun _ =>
      Triple.fail _ fun endpoint _ => report_of_ne endpoint nofun nofun
  | expired =>
    exact triple_unlessAborted law (monotone_answered .expired) same
      (Triple.fail _ fun endpoint answered => ⟨nofun, fun _ => answered.due rfl⟩)
  | ready =>
    exact triple_unlessAborted law (monotone_answered .ready) same
      (Exits.pure _ fun endpoint answered => answered.underway)

/-! ### The rest of a call -/

theorem triple_rawRecvControl (buf : Bytes) (controlled : Bool) :
    Triple (At time (Underway unit timeoutMs abort began wait))
      (rawRecvControl os fuel buf controlled wait)
      (fun _ => At time (Underway unit timeoutMs abort began wait))
      (Report unit timeoutMs abort began time flag) := by
  have received :
      Triple (At time (Underway unit timeoutMs abort began wait))
        (rawRecv os buf)
        (fun _ => At time (Underway unit timeoutMs abort began wait))
        (Report unit timeoutMs abort began time flag) := by
    refine Exits.via (fun _ => At time (Underway unit timeoutMs abort began wait))
      (fun endpoint held => monotone_underway (law.recv_time _ _) held) fun answer => ?_
    cases answer with
    | failed errno => exact Triple.fail _ fun endpoint _ => report_of_ne endpoint nofun nofun
    | data packet =>
      exact Exits.ite (fun _ => Triple.fail _ fun endpoint _ => report_of_ne endpoint nofun nofun)
        fun _ => Exits.pure _ fun _ held => held
  unfold rawRecvControl
  cases controlled with
  | true => exact (triple_waitFdReadable law paced fuel).bind fun _ => received
  | false => exact received

/-- The waiting stays underway all through a receive, and no check gives one of the verdicts. -/
theorem receiving_underway (controlled : Bool) :
    Receiving os fuel controlled wait
      (At time (Underway unit timeoutMs abort began wait))
      (Blames (Report unit timeoutMs abort began time flag)) where
  packet buf := Triple.inspect (triple_rawRecvControl law paced fuel buf controlled)
    (fun _ _ held => held) (fun _ _ held => held) (fun _ _ => trivial) fun _ _ => trivial
  buffers _ _ _ held := held
  halted reason endpoint check _ := .of_forall fun error failed => by
    have about := check error failed
    refine report_of_ne endpoint ?_ ?_
    · rintro rfl
      exact about
    · rintro rfl
      exact about

/-- What `ReceiveWait::new` leaves: the deadline counts from a reading after the call began. -/
theorem triple_new {blame : UdsError → Endpoint σ → Prop} :
    Triple (fun endpoint => time endpoint.os = began) (ReceiveWait.new os timeoutMs abort)
      (fun wait => At time (Underway unit timeoutMs abort began wait))
      blame := by
  refine Exits.ite (fun limited => ?_) fun unlimited => ?_
  · rintro endpoint rfl
    obtain ⟨after, before⟩ := law.now_time endpoint.os
    exact ⟨rfl, .inr ⟨limited, _, after, before, paced endpoint.os, rfl⟩⟩
  · exact Exits.pure _ fun _ _ => ⟨rfl, .inl ⟨not_not.mp unlimited, rfl⟩⟩

/-- What both verdicts of a call say. -/
theorem report_of_run {buf : Bytes} {before after : Endpoint σ} {error : UdsError}
    (ran : (receiveWithControl os fuel buf timeoutMs abort).run before =
      (.error (.err error), after)) :
    Report unit timeoutMs abort (time before.os) time flag error after := by
  have triple : Triple (fun endpoint => time endpoint.os = time before.os)
      (receiveWithControl os fuel buf timeoutMs abort) (fun _ _ => True)
      (Report unit timeoutMs abort (time before.os) time flag) := by
    refine receiveWithControl_exits (fun endpoint _ => report_of_ne endpoint nofun nofun)
      (triple_new law paced) fun controlled wait self =>
        ((receiving_underway law paced fuel controlled).receiveMessage (fun hdr => ?_)
          (fun _ => receiving_underway law paced fuel controlled) buf self).mono
          (fun _ held => held) (fun _ _ _ => trivial) fun _ _ held => held
    refine Exits.via (fun _ => At time (Underway unit timeoutMs abort _ wait))
      (fun _ held => held) fun self =>
        Exits.ite (fun _ => Exits.ite (fun _ _ held => held) fun _ => ?_) fun _ _ held => held
    exact fun endpoint _ => report_of_ne endpoint nofun nofun
  exact triple.blame_of_run rfl ran

omit law paced

theorem timeoutDue_of_exact (fits : Exact unit timeoutMs abort) : TimeoutDue unit timeoutMs abort :=
  fun _ _ _ _ law paced fuel _ _ _ ran => (report_of_run law paced fuel ran).2 rfl fits

/-! ### A silent peer -/

/-- A peer that never sends: the state counts units of time, `poll` lasts as long as asked, and
reading the clock takes `step` units. -/
def silentOs (unit step : Nat) : Os Nat where
  sendmsg packet now := ((packet.length, 0), now)
  recv _ now := (.failed 11, now)
  poll timeout now :=
    if 0 ≤ timeout then (.expired, now + timeout.toNat * (nanosPerMilli / unit)) else (.ready, now)
  now now := (now * unit, now + step)
  load now := (false, now)

theorem clocked_silentOs (unit step : Nat) (whole : unit ∣ nanosPerMilli) :
    Clocked (silentOs unit step) (· * unit) fun _ => false where
  recv_time _ _ := Nat.le_refl _
  poll_time timeout now := by
    simp only [silentOs]
    split
    · exact Nat.mul_le_mul_right _ (Nat.le_add_right now _)
    · exact Nat.le_refl _
  now_time now := ⟨Nat.le_refl _, Nat.mul_le_mul_right _ (Nat.le_add_right now step)⟩
  load_time _ := Nat.le_refl _
  expired timeout now expired := by
    simp only [silentOs] at expired ⊢
    split at expired
    · rename_i limited
      rw [if_pos limited, Nat.add_mul, Nat.mul_assoc, Nat.div_mul_cancel whole]
      exact ⟨limited, Nat.le_refl _⟩
    · cases expired
  load_flag _ set := nomatch set

variable {step : Nat}

/-- A session of a client that waits for a response. -/
def waitingClient : UdsSession := { UdsSession.fresh .client 1024 4096 with inflightIds := {7} }

/-- A call of `waitingClient` at time zero with a silent peer. -/
def silentCall (unit step : Nat) (timeoutMs : UInt32) (abort : Bool) :
    Res UdsError (Header × Bytes) × Endpoint Nat :=
  (receiveWithControl (silentOs unit step) 1 (zeros 32) timeoutMs abort).run ⟨waitingClient, 0, []⟩

/-- A `poll` that expires ends the call. -/
theorem silentCall_of_asked {timeout : Int} {wait : ReceiveWait} {first second : Endpoint Nat}
    (waits : timeoutMs ≠ 0 ∨ abort = true)
    (made : (ReceiveWait.new (silentOs unit step) timeoutMs abort).run ⟨waitingClient, 0, []⟩ =
      (.ok wait, first))
    (asks : (wait.pollTimeoutMs (silentOs unit step)).run first = (.ok timeout, second))
    (limited : 0 ≤ timeout) :
    ∃ after, silentCall unit step timeoutMs abort = (.error (.err .timeout), after) ∧
      after.os = second.os + timeout.toNat * (nanosPerMilli / unit) := by
  have polled : (silentOs unit step).poll timeout second.os =
      (.expired, second.os + timeout.toNat * (nanosPerMilli / unit)) := by
    simp only [silentOs, if_pos limited]
  rw [silentCall, receiveWithControl, Prog.run_bind_ok (run_getSession _), if_neg (by decide),
    Prog.run_bind_ok made, receiveMessage]
  simp only [failingInflight, Prog.run_bind, rawRecvControl, waitFdReadable, Prog.loop,
    Prog.run_inspect, asks, decide_eq_true waits, if_true, run_call, polled]
  obtain ⟨deadline, present⟩ := wait
  cases present with
  | true | false => exact ⟨_, rfl, rfl⟩

theorem asked_nonneg (abort : Bool) (left : Nat) : 0 ≤ asked abort (some left) := by
  cases abort with
  | true | false => exact Int.natCast_nonneg _

theorem asked_le (abort : Bool) (left : Nat) : (asked abort (some left)).toNat ≤ left := by
  cases abort with
  | true => exact Nat.min_le_left left 100
  | false => exact Nat.le_refl left

theorem run_pollTimeoutMs_silent {deadline : Nat} (soon : step * unit < deadline) (abort : Bool) :
    ∃ trace, (ReceiveWait.pollTimeoutMs (silentOs unit step) ⟨some deadline, abort⟩).run
      ⟨waitingClient, step, [.clock 0]⟩ =
        (.ok (asked abort (some (min ((deadline - step * unit) / nanosPerMilli) i32Max))),
          ⟨waitingClient, step + step, trace⟩) := by
  cases abort with
  | true | false =>
    simp only [ReceiveWait.pollTimeoutMs, ReceiveWait.aborted, ReceiveWait.remainingMs,
      Prog.run_bind, run_call, silentOs, if_true, Bool.false_eq_true, if_false, ge_iff_le,
      if_neg (Nat.not_le.mpr soon), Prog.run_pure]
    exact ⟨_, rfl⟩

theorem silentCall_limited (unit step : Nat) (timeoutMs : UInt32) (abort : Bool)
    (limited : timeoutMs ≠ 0) (soon : step * unit < timeoutMs.toNat * nanosPerMilli) :
    ∃ after, silentCall unit step timeoutMs abort = (.error (.err .timeout), after) ∧
      after.os = step + step + (asked abort (some (min ((timeoutMs.toNat * nanosPerMilli -
        step * unit) / nanosPerMilli) i32Max))).toNat * (nanosPerMilli / unit) := by
  have made : (ReceiveWait.new (silentOs unit step) timeoutMs abort).run ⟨waitingClient, 0, []⟩ =
      (.ok ⟨some (timeoutMs.toNat * nanosPerMilli), abort⟩,
        ⟨waitingClient, step, [.clock 0]⟩) := by
    rw [ReceiveWait.new, if_pos limited, Prog.run_bind_ok (run_call _ _ _)]
    simp only [silentOs, Nat.zero_mul, Nat.zero_add, Prog.run_pure, List.nil_append]
  obtain ⟨trace, asks⟩ := run_pollTimeoutMs_silent soon abort
  exact silentCall_of_asked (.inl limited) made asks (asked_nonneg _ _)

/-- Without a deadline the abort flag alone makes the call time out. -/
theorem silentCall_unlimited (unit step : Nat) :
    ∃ after, silentCall unit step 0 true = (.error (.err .timeout), after) := by
  have made : (ReceiveWait.new (silentOs unit step) 0 true).run ⟨waitingClient, 0, []⟩ =
      (.ok ⟨none, true⟩, ⟨waitingClient, 0, []⟩) := rfl
  obtain ⟨after, ran, -⟩ := silentCall_of_asked (.inr rfl) made rfl (by decide)
  exact ⟨after, ran⟩

theorem TimeoutDue.silentCall (honest : TimeoutDue unit timeoutMs abort)
    (whole : unit ∣ nanosPerMilli) {after : Endpoint Nat}
    (ran : silentCall unit step timeoutMs abort = (.error (.err .timeout), after)) :
    Due timeoutMs 0 (after.os * unit) := by
  have due := honest Nat (silentOs unit step) _ _ (clocked_silentOs unit step whole)
    (fun state => Nat.dvd_mul_left unit state) _ _ _ _ ran
  rwa [Nat.zero_mul] at due

theorem TimeoutDue.abort_eq_false (honest : TimeoutDue unit 0 abort)
    (whole : unit ∣ nanosPerMilli) : abort = false := by
  cases abort with
  | false => rfl
  | true =>
    obtain ⟨after, ran⟩ := silentCall_unlimited unit 0
    exact absurd rfl (honest.silentCall whole ran).1

theorem toNat_pos (limited : timeoutMs ≠ 0) : 0 < timeoutMs.toNat :=
  Nat.pos_of_ne_zero fun zero => limited (UInt32.toNat_inj.mp zero)

/-- A clock of any precision: reading it takes a nanosecond, which the rounding makes a whole
millisecond. -/
theorem timeoutDue_one_iff (timeoutMs : UInt32) (abort : Bool) :
    TimeoutDue 1 timeoutMs abort ↔ timeoutMs = 0 ∧ abort = false := by
  refine ⟨fun honest => ?_, ?_⟩
  · by_cases limited : timeoutMs = 0
    · subst limited
      exact ⟨rfl, honest.abort_eq_false (Nat.one_dvd _)⟩
    · obtain ⟨after, ran, elapsed⟩ := silentCall_limited 1 1 timeoutMs abort limited
        (Nat.lt_of_lt_of_le (by decide) (Nat.mul_le_mul_right _ (toNat_pos limited)))
      have due := (honest.silentCall (Nat.one_dvd _) ran).2
      have few := asked_le abort
        (min ((timeoutMs.toNat * nanosPerMilli - 1 * 1) / nanosPerMilli) i32Max)
      have positive := toNat_pos limited
      unfold nanosPerMilli at due elapsed few
      omega
  · rintro ⟨rfl, rfl⟩
    exact timeoutDue_of_exact ⟨fun _ => rfl, fun limited => absurd rfl limited, Nat.zero_le _⟩

/-- A clock that counts milliseconds: only the two bounds are left. -/
theorem timeoutDue_milli_iff (timeoutMs : UInt32) (abort : Bool) :
    TimeoutDue nanosPerMilli timeoutMs abort ↔
      if abort then 1 ≤ timeoutMs.toNat ∧ timeoutMs.toNat ≤ 100
      else timeoutMs.toNat ≤ i32Max := by
  refine ⟨fun honest => ?_, fun fits => timeoutDue_of_exact ⟨?_, fun _ => Nat.dvd_refl _, ?_⟩⟩
  · by_cases limited : timeoutMs = 0
    · subst limited
      rw [honest.abort_eq_false (Nat.dvd_refl _)]
      exact Nat.zero_le _
    · obtain ⟨after, ran, elapsed⟩ := silentCall_limited nanosPerMilli 0 timeoutMs abort limited
        (by rw [Nat.zero_mul]; exact Nat.mul_pos (toNat_pos limited) (by decide))
      have due := (honest.silentCall (Nat.dvd_refl _) ran).2
      rw [Nat.zero_mul, Nat.sub_zero, Nat.mul_div_cancel _ (by decide)] at elapsed
      unfold nanosPerMilli at due elapsed
      have kept : timeoutMs.toNat ≤ (asked abort (some (min timeoutMs.toNat i32Max))).toNat := by
        omega
      cases abort with
      | true => exact ⟨toNat_pos limited, kept.trans (Nat.min_le_right _ 100)⟩
      | false => exact kept.trans (Nat.min_le_right _ i32Max)
  · rintro rfl
    cases abort with
    | true => exact absurd fits.1 (by decide)
    | false => rfl
  · cases abort with
    | true => exact fits.2
    | false => exact fits

/-- `Aborted` is returned only when the flag was set, whatever the arguments. `Timeout` is honest,
in every environment, for exactly the calls that have neither a deadline nor an abort flag; with a
clock that counts milliseconds, for exactly those whose timeout `poll` can be given at once. -/
theorem receiveWithControl_honest_iff (timeoutMs : UInt32) (abort : Bool) :
    (∀ (σ : Type) (os : Os σ) (time : σ → Nat) (flag : σ → Bool), Clocked os time flag →
      ∀ fuel buf before after, (receiveWithControl os fuel buf timeoutMs abort).run before =
        (.error (.err .aborted), after) → abort = true ∧ flag after.os = true) ∧
    (TimeoutDue 1 timeoutMs abort ↔ timeoutMs = 0 ∧ abort = false) ∧
    (TimeoutDue nanosPerMilli timeoutMs abort ↔
      if abort then 1 ≤ timeoutMs.toNat ∧ timeoutMs.toNat ≤ 100
      else timeoutMs.toNat ≤ i32Max) :=
  ⟨fun _ _ _ _ law fuel _ _ _ ran => (report_of_run law (fun _ => Nat.one_dvd _) fuel ran).1 rfl,
    timeoutDue_one_iff timeoutMs abort, timeoutDue_milli_iff timeoutMs abort⟩

/-- With an abort flag that nobody sets, a call without a deadline and one with a deadline of one
second time out after 100 milliseconds; without a flag, one with a deadline of 50 milliseconds times
out before they are over, because the time left is rounded down. -/
theorem not_due_silentOs :
    Clocked (silentOs 1 1) (· * 1) (fun _ => false) ∧
      (silentCall 1 1 0 true).1 = .error (.err .timeout) ∧ ¬ Due 0 0 (silentCall 1 1 0 true).2.os ∧
      (silentCall 1 1 1000 true).1 = .error (.err .timeout) ∧
      ¬ Due 1000 0 (silentCall 1 1 1000 true).2.os ∧
      (silentCall 1 1 50 false).1 = .error (.err .timeout) ∧
      ¬ Due 50 0 (silentCall 1 1 50 false).2.os :=
  ⟨clocked_silentOs 1 1 (Nat.one_dvd _), by decide +kernel, fun due => due.1 rfl,
    by decide +kernel, fun due => absurd due.2 (by decide +kernel), by decide +kernel,
    fun due => absurd due.2 (by decide +kernel)⟩

end NetIpc.Uds
