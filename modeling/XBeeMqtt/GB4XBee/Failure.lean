import XBeeMqtt.GB4XBee.Step

/-!
# When a connection failure is seen

While the radio is connected, a failing notification has to reset the socket.
`g_notify` has one slot for all notifications of a tick, and its `type` is
overwritten by every frame, also by those that are not counted.  So the poll
looks at the last notification only, and only if the counter moved.

`failure_resets_iff` says exactly when the failure is not lost.
`closed_then_sent_masked` is a tick that loses one.
-/

namespace XBeeMqtt

namespace Frame

/-- The frame reaches `XBeeNotify::callback`. -/
def isNotify : Frame → Bool
  | .notify _ _ _ => true
  | _ => false

/-- `XBeeNotify::callback` counts the frame. -/
def counted : Frame → Bool
  | .notify _ frameType _ =>
    match FrameType.ofByte frameType with
    | .txStatus | .sockCreateResp | .sockConnectResp | .sockState => true
    | _ => false
  | _ => false

/-- A `SOCK_STATE` that is not `CONNECTED`, or a `TX_STATUS` that is not
`SUCCESS`. -/
def failing : Frame → Bool
  | .notify _ frameType message =>
    match FrameType.ofByte frameType with
    | .sockState => message ≠ StateMesg.connected
    | .txStatus => message ≠ TxMesg.success
    | _ => false
  | _ => false

end Frame

/-- The last notification of a tick. -/
def lastNotify : List Frame → Option Frame
  | [] => none
  | frame :: frames =>
    match lastNotify frames with
    | some last => some last
    | none => if frame.isNotify then some frame else none

theorem lastNotify_ne_none {frames : List Frame} {frame : Frame} (hmem : frame ∈ frames)
    (hnotify : frame.isNotify = true) : lastNotify frames ≠ none := by
  induction frames with
  | nil => simp at hmem
  | cons first frames ih =>
    rw [lastNotify]
    cases hlast : lastNotify frames with
    | some last => simp
    | none =>
      rcases List.mem_cons.1 hmem with rfl | hrest
      · simp [hnotify]
      · exact absurd hlast (ih hrest)

theorem Frame.isNotify_of_failing {frame : Frame} (h : frame.failing = true) :
    frame.isNotify = true := by
  cases frame <;> simp_all [failing, isNotify]

namespace XBeeNotify

/-- What the `CONNECTED` case of `poll` takes for a failure. -/
def failing (n : XBeeNotify) : Bool :=
  (n.type = .sockState ∧ n.stateMesg ≠ StateMesg.connected) ∨
    (n.type = .txStatus ∧ n.txMesg ≠ TxMesg.success)

theorem failing_callback (n : XBeeNotify) (sockid : Int) (frameType message : UInt8) :
    (n.callback sockid frameType message).failing =
      (Frame.notify sockid frameType message).failing := by
  cases htype : FrameType.ofByte frameType <;>
    simp [callback, Frame.failing, failing, countUp, htype]

theorem count_callback (n : XBeeNotify) (sockid : Int) (frameType message : UInt8) :
    (n.callback sockid frameType message).count =
      n.count + if (Frame.notify sockid frameType message).counted then 1 else 0 := by
  cases htype : FrameType.ofByte frameType <;>
    simp [callback, Frame.counted, count, countUp, htype]

/-- The counter moves by the counted frames of the tick. -/
theorem count_tick (n : XBeeNotify) (frames : List Frame) :
    (n.tick frames).count = n.count + UInt32.ofNat (frames.countP Frame.counted) := by
  induction frames generalizing n with
  | nil => simp [tick]
  | cons frame frames ih =>
    cases frame with
    | notify sockid frameType message =>
      have hrest := ih (n.callback sockid frameType message)
      rw [count_callback] at hrest
      rw [List.countP_cons]
      apply hrest.trans
      split
      · rw [UInt32.ofNat_add, UInt32.add_assoc, UInt32.add_comm 1]
        rfl
      · rw [UInt32.add_zero]
        rfl
    | receive sock payload =>
      rw [List.countP_cons_of_neg (by simp [Frame.counted])]
      exact ih n
    | apn value =>
      rw [List.countP_cons_of_neg (by simp [Frame.counted])]
      exact ih n

theorem tick_of_lastNotify_none (n : XBeeNotify) {frames : List Frame}
    (h : lastNotify frames = none) : n.tick frames = n := by
  induction frames generalizing n with
  | nil => rfl
  | cons frame frames ih =>
    rw [lastNotify] at h
    cases hlast : lastNotify frames with
    | some last => simp [hlast] at h
    | none =>
      cases frame with
      | notify sockid frameType message => simp [hlast, Frame.isNotify] at h
      | receive sock payload => exact ih n hlast
      | apn value => exact ih n hlast

/-- The slot fails when the last notification of the tick does. -/
theorem failing_tick (n : XBeeNotify) {frames : List Frame} {last : Frame}
    (h : lastNotify frames = some last) : (n.tick frames).failing = last.failing := by
  induction frames generalizing n with
  | nil => simp [lastNotify] at h
  | cons frame frames ih =>
    rw [lastNotify] at h
    cases hlast : lastNotify frames with
    | some last' =>
      rw [hlast] at h
      obtain rfl := Option.some.inj h
      cases frame <;> exact ih _ hlast
    | none =>
      rw [hlast] at h
      have htick := fun n => tick_of_lastNotify_none n hlast
      cases frame with
      | notify sockid frameType message =>
        obtain rfl : Frame.notify sockid frameType message = last := by
          simpa [Frame.isNotify] using h
        rw [← failing_callback n]
        exact congrArg failing (htick _)
      | receive sock payload => simp [Frame.isNotify] at h
      | apn value => simp [Frame.isNotify] at h

end XBeeNotify

namespace GB4XBee

variable {r t : GB4XBee} {env : Env}

/-- Connected, a poll resets the socket on a counted failure only. -/
theorem connectedStep_cooldown (ht : t.mState ≠ .socketCooldownPeriod) :
    (t.connectedStep env).mState = .socketCooldownPeriod ↔
      t.gNotify.count ≠ t.notifyCount ∧ t.gNotify.failing = true := by
  unfold connectedStep XBeeNotify.failing
  dsimp only
  split
  · rename_i hcount
    simp [hcount, ht]
  · rename_i hcount
    split
    · rename_i hstate
      simp [hcount, hstate, resetSocket]
    · split
      · rename_i htx
        simp [hcount, htx, resetSocket]
      · rename_i hstate htx
        refine ⟨fun h => absurd h (show State.connected ≠ _ by decide), fun h => ?_⟩
        rcases of_decide_eq_true h.2 with hfail | hfail
        · exact absurd hfail hstate
        · exact absurd hfail htx

theorem poll_cooldown_iff (hr : r.mState = .connected ∨ r.mState = .sending) :
    (r.poll env).mState = .socketCooldownPeriod ↔
      (r.gNotify.tick env.frames).count ≠ r.notifyCount ∧
        (r.gNotify.tick env.frames).failing = true := by
  have hmain : .socketCooldownPeriod ≤ r.mState := by
    rcases hr with hr | hr <;> rw [hr] <;> decide
  have hstate : (r.devTick env.frames).mState = r.mState := devTick_mState r env.frames
  rw [poll_main hmain]
  rcases hr with hr | hr
  · rw [hr] at hstate
    rw [mainStep_connected hstate, connectedStep_cooldown (by rw [hstate]; decide)]
    simp
  · rw [hr] at hstate
    rw [mainStep_sending hstate]
    split
    · rw [connectedStep_cooldown (show State.connected ≠ _ by decide)]
      simp
    · rw [connectedStep_cooldown (by rw [hstate]; decide)]
      simp

/-- The last notification of the tick is a failing one, and the counter moved. -/
def FailureVisible (r : GB4XBee) (frames : List Frame) : Prop :=
  (∃ last, lastNotify frames = some last ∧ last.failing = true) ∧
    r.gNotify.count + UInt32.ofNat (frames.countP Frame.counted) ≠ r.notifyCount

/-- A failure among the notifications of a tick resets the socket exactly when
it is visible at the end of the tick. -/
theorem failure_resets_iff (hr : r.mState = .connected ∨ r.mState = .sending) :
    ((∃ frame ∈ env.frames, frame.failing = true) →
      (r.poll env).mState = .socketCooldownPeriod) ↔
    ((∃ frame ∈ env.frames, frame.failing = true) → r.FailureVisible env.frames) := by
  apply imp_congr_right
  intro hfail
  obtain ⟨frame, hmem, hfailing⟩ := hfail
  obtain ⟨last, hlast⟩ := Option.ne_none_iff_exists'.1
    (lastNotify_ne_none hmem (Frame.isNotify_of_failing hfailing))
  rw [poll_cooldown_iff hr, XBeeNotify.count_tick, XBeeNotify.failing_tick _ hlast,
    FailureVisible, hlast]
  constructor
  · intro h
    exact ⟨⟨last, rfl, h.2⟩, h.1⟩
  · intro h
    obtain ⟨⟨last', heq, hlast'⟩, hcount⟩ := h
    obtain rfl := Option.some.inj heq
    exact ⟨hcount, hlast'⟩

/-- A connected radio that has seen all its notifications. -/
def connectedRadio : GB4XBee := { (default : GB4XBee) with mState := .connected }

/-- The close of the socket alone resets it. -/
theorem failure_resets_closed :
    let env : Env := { frames := [.notify 1 0xCF 0x03] }
    ((∃ frame ∈ env.frames, frame.failing = true) →
      (connectedRadio.poll env).mState = .socketCooldownPeriod) ↔
    ((∃ frame ∈ env.frames, frame.failing = true) →
      connectedRadio.FailureVisible env.frames) :=
  failure_resets_iff (Or.inl rfl)

/-- The socket is closed, and the status of an earlier transmission follows in
the same tick: the radio stays connected. -/
theorem closed_then_sent_masked :
    let env : Env := { frames := [.notify 1 0xCF 0x03, .notify 1 0x89 0x00] }
    (connectedRadio.mState = .connected ∧ ∃ frame ∈ env.frames, frame.failing = true) ∧
      (connectedRadio.poll env).mState = .connected := by
  decide

end GB4XBee

end XBeeMqtt
