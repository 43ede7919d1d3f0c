import XBeeMqtt.GB4XBee.Runs
import XBeeMqtt.GB4XBee.Deadlines
import XBeeMqtt.GB4XBee.Failure

/-!
# Sends are serialised

`sendMessage` hands a message over in `CONNECTED` only, and leaves the radio in
`SENDING`.  So between two sends a poll has to bring it back, and that poll has
seen a new notification or waited longer than the send timeout.

* `Counted`: a connected radio has seen every notification.  No call has to
  know more (`counted_of_reach`).
* `Pending start r`: the radio is still busy with the send that wrote down
  `start`, or it has lost the socket since.  Only a poll ends it, and
  `pending_poll` says how.
-/

namespace XBeeMqtt

namespace GB4XBee

variable {r t : GB4XBee} {env : Env} {start : Int32}

/-! ## A connected radio is up to date -/

/-- The states of which the poll compares the counter with `notify_count`. -/
def ReadsCount (r : GB4XBee) : Prop :=
  r.mState = .awaitSocketId ∨ r.mState = .awaitConnectResponse ∨
    r.mState = .awaitConnection ∨ r.mState = .connected ∨ r.mState = .sending

private theorem awaitNotification_upToDate (t : GB4XBee) (env : Env) (expected : Bool)
    (next : State) : (t.awaitNotification env expected next).notifyCount =
      (t.awaitNotification env expected next).gNotify.count := by
  unfold awaitNotification
  dsimp only
  split
  · rename_i hcount
    split
    · exact hcount.symm
    · exact hcount.symm
  · split
    · rfl
    · rfl

private theorem connectedStep_upToDate (t : GB4XBee) (env : Env) :
    (t.connectedStep env).notifyCount = (t.connectedStep env).gNotify.count := by
  unfold connectedStep
  dsimp only
  split
  · rename_i hcount
    exact hcount.symm
  · split
    · rfl
    · split
      · rfl
      · rfl

/-- A poll that reads the counter has seen every notification. -/
theorem mainStep_upToDate (ht : t.ReadsCount) :
    (t.mainStep env).notifyCount = (t.mainStep env).gNotify.count := by
  rcases ht with hs | hs | hs | hs | hs
  · simp only [mainStep, hs]
    split
    · rename_i hcount
      split
      · exact hcount.symm
      · exact hcount.symm
    · split
      · rfl
      · rfl
  · rw [mainStep_awaitConnectResponse hs]
    exact awaitNotification_upToDate t env _ _
  · rw [mainStep_awaitConnection hs]
    exact awaitNotification_upToDate t env _ _
  · rw [mainStep_connected hs]
    exact connectedStep_upToDate t env
  · rw [mainStep_sending hs]
    exact connectedStep_upToDate _ env

theorem ReadsCount.poll (h : r.ReadsCount) (env : Env) :
    (r.poll env).notifyCount = (r.poll env).gNotify.count := by
  have hr : .socketCooldownPeriod ≤ r.mState := by
    rcases h with hs | hs | hs | hs | hs <;> rw [hs] <;> decide
  rw [poll_main hr]
  apply mainStep_upToDate
  unfold ReadsCount
  rwa [devTick_mState]

/-- A connected radio has seen every notification that was counted. -/
def Counted (r : GB4XBee) : Prop :=
  r.mState = .connected ∨ r.mState = .sending → r.notifyCount = r.gNotify.count

theorem Counted.of_state (h : r.mState ≠ .connected ∧ r.mState ≠ .sending) : r.Counted := by
  intro hs
  rcases hs with hs | hs
  · exact absurd hs h.1
  · exact absurd hs h.2

private theorem Counted.of_le (h : r.mState ≤ .beginCreateSocket) : r.Counted := by
  refine .of_state ⟨fun hs => ?_, fun hs => ?_⟩
  · rw [hs] at h
    exact absurd h (by decide)
  · rw [hs] at h
    exact absurd h (by decide)

private theorem mainStep_counted (t : GB4XBee) (env : Env) : (t.mainStep env).Counted := by
  by_cases hread : t.ReadsCount
  · exact fun _ => mainStep_upToDate hread
  obtain ⟨hcreate, hresponse, hconnection, hconnected, hsending⟩ :
      t.mState ≠ .awaitSocketId ∧ t.mState ≠ .awaitConnectResponse ∧
        t.mState ≠ .awaitConnection ∧ t.mState ≠ .connected ∧ t.mState ≠ .sending := by
    simpa [ReadsCount] using hread
  have hstep := t.mainStep_step env
  generalize t.mainStep env = r at hstep ⊢
  cases hstep with
  | stay => exact .of_state ⟨hconnected, hsending⟩
  | advance hadv =>
    cases hadv with
    | connected hfrom =>
      rcases hfrom with hs | hs | hs
      · exact absurd hs hconnection
      · exact absurd hs hsending
      · exact absurd hs hconnected
    | _ => exact .of_state ⟨by simp, by simp⟩
  | _ => exact .of_state ⟨by simp [resetSocket], by simp [resetSocket]⟩

theorem poll_counted (r : GB4XBee) (env : Env) : (r.poll env).Counted := by
  rcases r.poll_cases env with ⟨_, hstep⟩ | ⟨hr, _⟩
  · exact .of_le hstep.mState
  · rw [poll_main hr]
    exact mainStep_counted _ env

theorem call_counted (h : r.Counted) (c : Call) : (r.call c).Counted := by
  rcases r.call_cases c with ⟨env, rfl⟩ | hstep
  · exact r.poll_counted env
  · generalize r.call c = r' at hstep ⊢
    cases hstep with
    | started => exact .of_le (show State.start ≤ _ by decide)
    | reset => exact .of_le (show State.socketCooldownPeriod ≤ _ by decide)
    | connecting _ => exact h
    | sent hconn _ => exact fun _ => h (Or.inl hconn)
    | kept _ => exact h

theorem counted_of_reach (h : system.Reach r) : r.Counted := by
  refine h.invariant Counted (fun r hr => ?_) fun r c r' _ hr hstep => ?_
  · obtain ⟨mem, apn, useTls, rfl⟩ := begun_eq hr
    exact .of_le (show State.start ≤ _ by decide)
  · rw [hstep.2]
    exact call_counted hr c

/-! ## From a send to the poll that ends it -/

/-- The radio waits for the send that wrote down `start`, or it needs a new
socket before the next one. -/
def Pending (start : Int32) (r : GB4XBee) : Prop :=
  r.mState = .sending ∧ r.sendStartTime = start ∧ r.notifyCount = r.gNotify.count ∨
  r.mState = .awaitSocketId ∧ r.notifyCount = r.gNotify.count ∨
  r.mState ≤ .beginCreateSocket

/-- The poll finds that the counter has moved, and a notification of its own
tick was counted. -/
def Observes (r : GB4XBee) (env : Env) : Prop :=
  r.ReadsCount ∧ r.SeesNotification env ∧ ∃ frame ∈ env.frames, frame.counted = true

/-- The poll finds that the send which wrote down `start` has timed out. -/
def TimesOut (start : Int32) (r : GB4XBee) (env : Env) : Prop :=
  r.mState = .sending ∧ sendTimeout < elapsed (env.millis .sending) start

/-- What an up to date radio sees was counted in the tick. -/
theorem SeesNotification.counted (h : r.SeesNotification env)
    (hcount : r.notifyCount = r.gNotify.count) : ∃ frame ∈ env.frames, frame.counted = true := by
  by_contra hnone
  have hzero : env.frames.countP Frame.counted = 0 := by
    rw [List.countP_eq_zero]
    exact fun frame hmem hcounted => hnone ⟨frame, hmem, hcounted⟩
  apply h
  rw [devTick_gNotify, XBeeNotify.count_tick, hzero, hcount]
  exact UInt32.add_zero _

/-- Without a notification and within the timeout, a poll in `SENDING` only ticks. -/
theorem poll_sending (hs : r.mState = .sending) (hsees : ¬r.SeesNotification env)
    (htime : ¬sendTimeout < elapsed (env.millis .sending) r.sendStartTime) :
    r.poll env = r.devTick env.frames := by
  have hcount : (r.devTick env.frames).gNotify.count = (r.devTick env.frames).notifyCount :=
    (not_not.1 hsees).trans (r.devTick_notifyCount env.frames).symm
  rw [poll_main (by rw [hs]; decide), mainStep_sending ((r.devTick_mState env.frames).trans hs),
    devTick_sendStartTime, if_neg htime]
  unfold connectedStep
  rw [if_pos hcount]

/-- A radio without a socket gets no further than to the wait for one, with the
counter at zero. -/
theorem poll_pending_of_le (hs : r.mState ≤ .beginCreateSocket) (env : Env) :
    (r.poll env).Pending start := by
  rcases r.poll_cases env with ⟨_, hstep⟩ | ⟨_, hstep⟩
  · exact Or.inr (Or.inr hstep.mState)
  · have hlow : (r.devTick env.frames).mState ≤ .beginCreateSocket := by
      rw [devTick_mState]
      exact hs
    generalize r.poll env = r' at hstep ⊢
    cases hstep with
    | stay => exact Or.inr (Or.inr hlow)
    | advance hadv =>
      refine Or.inr (Or.inr ?_)
      cases hadv with
      | cooledDown _ => exact show State.beginCreateSocket ≤ _ by decide
      | createTimeout _ => exact show State.beginCreateSocket ≤ _ by decide
      | created hfrom => exact absurd hlow (by rw [hfrom]; decide)
      | connecting hfrom _ => exact absurd hlow (by rw [hfrom]; decide)
      | answered hfrom => exact absurd hlow (by rw [hfrom]; decide)
      | connected hfrom =>
        rcases hfrom with hfrom | hfrom | hfrom <;> exact absurd hlow (by rw [hfrom]; decide)
    | reset => exact Or.inr (Or.inr (show State.socketCooldownPeriod ≤ _ by decide))
    | create _ _ => exact Or.inr (Or.inl ⟨rfl, rfl⟩)
    | createFailed _ _ => exact Or.inr (Or.inr (show State.socketCooldownPeriod ≤ _ by decide))

/-- A poll leaves a send pending, or it ends it. -/
theorem pending_poll (h : r.Pending start) (env : Env) :
    (r.poll env).Pending start ∨ r.Observes env ∨ r.TimesOut start env := by
  rcases h with ⟨hs, hstart, hcount⟩ | ⟨hs, hcount⟩ | hs
  · by_cases hsees : r.SeesNotification env
    · exact Or.inr (Or.inl ⟨Or.inr (Or.inr (Or.inr (Or.inr hs))), hsees, hsees.counted hcount⟩)
    by_cases htime : sendTimeout < elapsed (env.millis .sending) start
    · exact Or.inr (Or.inr ⟨hs, htime⟩)
    apply Or.inl
    rw [poll_sending hs hsees (by rw [hstart]; exact htime)]
    refine Or.inl ⟨?_, ?_, ?_⟩
    · rw [devTick_mState, hs]
    · rw [devTick_sendStartTime, hstart]
    · rw [not_not.1 hsees, devTick_notifyCount]
  · by_cases hsees : r.SeesNotification env
    · exact Or.inr (Or.inl ⟨Or.inl hs, hsees, hsees.counted hcount⟩)
    have hticked : (r.devTick env.frames).mState = .awaitSocketId := by
      rw [devTick_mState, hs]
    have hsame : (r.devTick env.frames).notifyCount = (r.devTick env.frames).gNotify.count := by
      rw [not_not.1 hsees, devTick_notifyCount]
    apply Or.inl
    rw [poll_main (by rw [hs]; decide)]
    simp only [mainStep, hticked]
    rw [if_pos hsame.symm]
    split
    · exact Or.inr (Or.inr (show State.beginCreateSocket ≤ _ by decide))
    · exact Or.inr (Or.inl ⟨hticked, hsame⟩)
  · exact Or.inl (poll_pending_of_le hs env)

theorem Pending.ne_connected (h : r.Pending start) : r.mState ≠ .connected := by
  intro hs
  rcases h with ⟨hsending, _⟩ | ⟨hawait, _⟩ | hle
  · exact absurd (hs.symm.trans hsending) (by decide)
  · exact absurd (hs.symm.trans hawait) (by decide)
  · rw [hs] at hle
    exact absurd hle (by decide)

/-- No send goes through while one is pending. -/
theorem Pending.not_sent (h : r.Pending start) (message : List UInt8) (len : Nat) (env : Env) :
    (r.sendMessage message len env).1 ≠ .messageSent := by
  rcases r.sendMessage_cases message len env with ⟨hconn, _, _⟩ | ⟨status, hne, _, heq⟩
  · exact absurd hconn h.ne_connected
  · rw [heq]
    exact hne

/-- Only a poll ends a send. -/
theorem pending_call (h : r.Pending start) (c : Call) :
    (r.call c).Pending start ∨
      ∃ env, c = .poll env ∧ (r.Observes env ∨ r.TimesOut start env) := by
  rcases r.call_cases c with ⟨env, rfl⟩ | hstep
  · rcases pending_poll h env with hpending | hends
    · exact Or.inl hpending
    · exact Or.inr ⟨env, rfl, hends⟩
  · apply Or.inl
    generalize r.call c = r' at hstep ⊢
    cases hstep with
    | started => exact Or.inr (Or.inr (show State.start ≤ _ by decide))
    | reset => exact Or.inr (Or.inr (show State.socketCooldownPeriod ≤ _ by decide))
    | connecting _ => exact h
    | sent hconn _ => exact absurd hconn h.ne_connected
    | kept _ => exact h

/-- A successful send is pending. -/
theorem Counted.pending (h : r.Counted) {message : List UInt8} {len : Nat}
    (hsent : (r.sendMessage message len env).1 = .messageSent) :
    (r.sendMessage message len env).2.Pending (env.millis .sendMessage).toInt32 := by
  rcases r.sendMessage_cases message len env with ⟨hconn, _, heq⟩ | ⟨status, hne, _, heq⟩
  · rw [heq]
    exact Or.inl ⟨rfl, rfl, h (Or.inl hconn)⟩
  · rw [heq] at hsent
    exact absurd hsent hne

/-- Whatever is called between two sends, one of the polls has seen a notification
of its own or has found the first send timed out; and a call that sends nothing
changes nothing of it. -/
theorem sends_serialised (hr : system.Reach r) (message : List UInt8) (len : Nat) (env : Env) :
    ((r.sendMessage message len env).1 = .messageSent →
      ∀ (calls : List Call) (message' : List UInt8) (len' : Nat) (env' : Env),
        ((Transition.replay call (r.sendMessage message len env).2 calls).sendMessage
          message' len' env').1 = .messageSent →
        ∃ before env₁ after, calls = before ++ .poll env₁ :: after ∧
          let r₁ := Transition.replay call (r.sendMessage message len env).2 before
          r₁.Observes env₁ ∨ r₁.TimesOut (env.millis .sendMessage).toInt32 env₁) ∧
    ((r.sendMessage message len env).1 ≠ .messageSent →
      let r' := (r.sendMessage message len env).2
      r'.mState = r.mState ∧ r'.sendStartTime = r.sendStartTime ∧
        r'.notifyCount = r.notifyCount) := by
  refine ⟨fun hsent calls message' len' env' hsent' => ?_, fun hnot => ?_⟩
  · have hpending := (counted_of_reach hr).pending hsent
    obtain ⟨before, c, after, rfl, hbefore, hleaves⟩ :=
      Transition.exists_leaving calls hpending
        fun hend => hend.not_sent message' len' env' hsent'
    rcases pending_call hbefore c with hstill | ⟨env₁, rfl, hends⟩
    · exact absurd hstill hleaves
    · exact ⟨before, env₁, after, rfl, hends⟩
  · rcases r.sendMessage_cases message len env with ⟨_, _, heq⟩ | ⟨_, _, _, heq⟩
    · rw [heq] at hnot
      exact absurd rfl hnot
    · rw [heq]
      exact ⟨rfl, rfl, rfl⟩

/-- The transmission status of the first message lets the second one go. -/
theorem sends_serialised_status :
    let r := afterCalls (startupCalls ++ connectCalls)
    let calls : List Call := [.poll { frames := [.notify 1 0x89 0x00] }]
    let r' := Transition.replay call (r.sendMessage [0x30] 1 {}).2 calls
    ((r.sendMessage [0x30] 1 {}).1 = .messageSent ∧
      (r'.sendMessage [0x31] 1 {}).1 = .messageSent) ∧
    ((r.sendMessage [0x30] 1 {}).1 = .messageSent →
      ∀ (calls : List Call) (message' : List UInt8) (len' : Nat) (env' : Env),
        ((Transition.replay call (r.sendMessage [0x30] 1 {}).2 calls).sendMessage
          message' len' env').1 = .messageSent →
        ∃ before env₁ after, calls = before ++ .poll env₁ :: after ∧
          let r₁ := Transition.replay call (r.sendMessage [0x30] 1 {}).2 before
          r₁.Observes env₁ ∨ r₁.TimesOut 0 env₁) ∧
    ((r.sendMessage [0x30] 1 {}).1 ≠ .messageSent →
      let r' := (r.sendMessage [0x30] 1 {}).2
      r'.mState = r.mState ∧ r'.sendStartTime = r.sendStartTime ∧
        r'.notifyCount = r.notifyCount) :=
  ⟨by decide +kernel, sends_serialised (reach_afterCalls _) [0x30] 1 {}⟩

end GB4XBee

end XBeeMqtt
