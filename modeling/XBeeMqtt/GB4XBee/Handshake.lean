import XBeeMqtt.GB4XBee.Failure

/-!
# Connecting, however the two frames are spread

After `connect()` the driver answers with a `SOCK_CONNECT_RESP` and then with
a `SOCK_STATE`.  The first poll leaves `SOCKET_READY` and ticks the driver, but
does not look at what was notified; every later poll looks at the last frame
only.  So the radio connects exactly when some poll sees the response last
(`connects_iff`): the response comes in an earlier tick than the state, and
the state is not in one of the first two ticks.
-/

namespace XBeeMqtt

theorem XBeeNotify.tick_filter (n : XBeeNotify) (frames : List Frame) :
    n.tick frames = n.tick (frames.filter Frame.isNotify) := by
  induction frames generalizing n with
  | nil => rfl
  | cons frame frames ih =>
    cases frame with
    | notify sockid frameType message => exact ih _
    | receive sock payload => exact ih n
    | apn value => exact ih n

namespace GB4XBee

variable {r : GB4XBee} {env : Env} {s : State} {count : UInt32} {start : Int32}
  {n : XBeeNotify}

/-- The part of the radio that the connect states read. -/
structure At (r : GB4XBee) (s : State) (count : UInt32) (start : Int32) (n : XBeeNotify) :
    Prop where
  mState : r.mState = s
  notifyCount : r.notifyCount = count
  connectStartTime : r.connectStartTime = start
  gNotify : r.gNotify = n

/-- The slot holds the frame that a connect state waits for. -/
def Expected (s : State) (n : XBeeNotify) : Prop :=
  s = .awaitConnectResponse ∧ n.type = .sockConnectResp ∧ n.sockMesg = SockMesg.success ∨
    s = .awaitConnection ∧ n.type = .sockState ∧ n.stateMesg = StateMesg.connected

/-- Where a connect state goes on. -/
def nextState (s : State) : State :=
  if s = .awaitConnectResponse then .awaitConnection else .connected

/-- The poll that leaves `SOCKET_READY` does not look at the notifications. -/
theorem At.ready (env : Env) (h : At r .socketReady count start n)
    (hcip : r.connectInProgress = true) :
    At (r.poll env) .awaitConnectResponse count start (n.tick env.frames) := by
  have hstate : (r.devTick env.frames).mState = .socketReady := by
    rw [devTick_mState, h.mState]
  have hpoll : r.poll env =
      { r.devTick env.frames with mState := .awaitConnectResponse } := by
    rw [poll_main (by rw [h.mState]; decide), mainStep_socketReady hstate, if_neg]
    simp [hcip]
  rw [hpoll]
  exact ⟨rfl, by simp [h.notifyCount], by simp [h.connectStartTime], by simp [h.gNotify]⟩

/-- The two connect states run `awaitNotification` on the ticked radio. -/
private theorem poll_await (env : Env) (hs : s = .awaitConnectResponse ∨ s = .awaitConnection)
    (h : At r s count start n) : ∃ expected : Bool,
      r.poll env = (r.devTick env.frames).awaitNotification env expected (nextState s) ∧
      (expected = true ↔ Expected s (n.tick env.frames)) := by
  have hstate : (r.devTick env.frames).mState = s := by rw [devTick_mState, h.mState]
  rcases hs with rfl | rfl
  · refine ⟨_, (poll_main (by rw [h.mState]; decide)).trans
      (mainStep_awaitConnectResponse hstate), ?_⟩
    simp [Expected, h.gNotify]
  · refine ⟨_, (poll_main (by rw [h.mState]; decide)).trans
      (mainStep_awaitConnection hstate), ?_⟩
    simp [Expected, h.gNotify]

/-- Nothing was counted and the timeout is not over: the state stays. -/
theorem At.waits (env : Env) (hs : s = .awaitConnectResponse ∨ s = .awaitConnection)
    (h : At r s count start n) (hcount : (n.tick env.frames).count = count)
    (htime : elapsed (env.millis .awaitConnect) start ≤ connectTimeout) :
    At (r.poll env) s count start (n.tick env.frames) := by
  obtain ⟨expected, hpoll, _⟩ := poll_await env hs h
  have hpoll' : r.poll env = r.devTick env.frames := by
    rw [hpoll]
    unfold awaitNotification
    rw [if_pos (by simp [h.gNotify, h.notifyCount, hcount]), if_neg]
    rw [devTick_connectStartTime, h.connectStartTime]
    exact UInt32.not_lt.2 htime
  rw [hpoll']
  exact ⟨by simp [h.mState], by simp [h.notifyCount], by simp [h.connectStartTime],
    by simp [h.gNotify]⟩

/-- The expected frame was counted: the machine goes on. -/
theorem At.goesOn (env : Env) (hs : s = .awaitConnectResponse ∨ s = .awaitConnection)
    (h : At r s count start n) (hcount : (n.tick env.frames).count ≠ count)
    (hexp : Expected s (n.tick env.frames)) :
    At (r.poll env) (nextState s) (n.tick env.frames).count start (n.tick env.frames) := by
  obtain ⟨expected, hpoll, hiff⟩ := poll_await env hs h
  rw [hiff.2 hexp] at hpoll
  rw [hpoll]
  unfold awaitNotification
  rw [if_neg (by simpa [h.gNotify, h.notifyCount] using hcount)]
  exact ⟨rfl, by simp [h.gNotify], by simp [h.connectStartTime], by simp [h.gNotify]⟩

/-- Another frame was counted: the socket is reset. -/
theorem At.resets (env : Env) (hs : s = .awaitConnectResponse ∨ s = .awaitConnection)
    (h : At r s count start n) (hcount : (n.tick env.frames).count ≠ count)
    (hexp : ¬Expected s (n.tick env.frames)) :
    (r.poll env).mState = .socketCooldownPeriod := by
  obtain ⟨expected, hpoll, hiff⟩ := poll_await env hs h
  have hfalse : expected = false := by
    cases expected with
    | false => rfl
    | true => exact absurd (hiff.1 rfl) hexp
  rw [hpoll]
  unfold awaitNotification
  rw [if_neg (by simpa [h.gNotify, h.notifyCount] using hcount), if_pos hfalse]
  rfl

/-! ## What a notification does -/

/-- The tick brings a new notification of this kind. -/
def Notified (r : GB4XBee) (env : Env) (type : FrameType) (message : XBeeNotify → UInt8)
    (expected : UInt8) : Prop :=
  (r.gNotify.tick env.frames).count ≠ r.notifyCount ∧
    (r.gNotify.tick env.frames).type = type ∧ message (r.gNotify.tick env.frames) = expected

/-- A socket is ready when its identifier is notified. -/
theorem poll_socketReady_iff (hs : r.mState = .awaitSocketId) :
    (r.poll env).mState = .socketReady ↔
      r.Notified env .sockCreateResp (·.sockMesg) SockMesg.success := by
  have hstate : (r.devTick env.frames).mState = .awaitSocketId := by rw [devTick_mState, hs]
  rw [poll_main (by rw [hs]; decide)]
  simp only [mainStep, hstate, devTick_gNotify, devTick_notifyCount]
  by_cases hcount : (r.gNotify.tick env.frames).count = r.notifyCount
  · rw [if_pos hcount]
    refine ⟨fun h => ?_, fun h => absurd hcount h.1⟩
    split at h
    · exact absurd h (by simp)
    · exact absurd (hstate.symm.trans h) (by decide)
  · rw [if_neg hcount]
    split
    · rename_i hother
      refine ⟨fun h => absurd h (by simp [resetSocket]), fun h => ?_⟩
      exact absurd hother (not_or.2 ⟨not_not_intro h.2.1, not_not_intro h.2.2⟩)
    · rename_i hnot
      obtain ⟨htype, hmesg⟩ := not_or.1 hnot
      exact ⟨fun _ => ⟨hcount, Decidable.not_not.1 htype, Decidable.not_not.1 hmesg⟩,
        fun _ => rfl⟩

/-- A connection is up when the driver notifies it. -/
theorem poll_connected_iff (hs : r.mState = .awaitConnection) :
    (r.poll env).mState = .connected ↔
      r.Notified env .sockState (·.stateMesg) StateMesg.connected := by
  have hstate : (r.devTick env.frames).mState = .awaitConnection := by rw [devTick_mState, hs]
  rw [poll_main (by rw [hs]; decide), mainStep_awaitConnection hstate]
  unfold awaitNotification
  simp only [devTick_gNotify, devTick_notifyCount]
  by_cases hcount : (r.gNotify.tick env.frames).count = r.notifyCount
  · rw [if_pos hcount]
    refine ⟨fun h => ?_, fun h => absurd hcount h.1⟩
    split at h
    · exact absurd h (by simp [resetSocket])
    · exact absurd (hstate.symm.trans h) (by decide)
  · rw [if_neg hcount]
    split
    · rename_i hother
      exact ⟨fun h => absurd h (by simp [resetSocket]),
        fun h => absurd h.2 (of_decide_eq_false hother)⟩
    · rename_i hexp
      exact ⟨fun _ => ⟨hcount, of_decide_eq_true ((Bool.not_eq_false _).mp hexp)⟩, fun _ => rfl⟩

/-! ## The run -/

/-- The radio after `k` polls. -/
def polls (r : GB4XBee) (envs : Nat → Env) : Nat → GB4XBee
  | 0 => r
  | k + 1 => (polls r envs k).poll (envs k)

/-- A `SOCK_CONNECT_RESP` with `SUCCESS`. -/
def connectResp (sockid : Int) : Frame := .notify sockid 0xC2 0x00

/-- A `SOCK_STATE` with `CONNECTED`. -/
def stateConnected (sockid : Int) : Frame := .notify sockid 0xCF 0x00

/-- The driver notifies the response in tick `a` and the state in tick `b`, and
nothing else.  Tick 0 is the one of the poll that leaves `SOCKET_READY`. -/
structure Delivers (envs : Nat → Env) (sockid : Int) (start : Int32) (a b : Nat) : Prop where
  order : a ≤ b
  notify : ∀ i, (envs i).frames.filter Frame.isNotify =
    (if i = a then [connectResp sockid] else []) ++
      (if i = b then [stateConnected sockid] else [])
  inTime : ∀ i ≤ b, elapsed ((envs i).millis .awaitConnect) start ≤ connectTimeout

variable {envs : Nat → Env} {sockid : Int} {a b : Nat}

/-- The slot after the response, and after both frames. -/
def responded (n : XBeeNotify) (sockid : Int) : XBeeNotify := n.callback sockid 0xC2 0x00
def established (n : XBeeNotify) (sockid : Int) : XBeeNotify :=
  (responded n sockid).callback sockid 0xCF 0x00

/-- The slot after the ticks before tick `k`. -/
def slotAt (n : XBeeNotify) (sockid : Int) (a b k : Nat) : XBeeNotify :=
  if b < k then established n sockid else if a < k then responded n sockid else n

theorem Delivers.slot_succ (h : Delivers envs sockid start a b) (k : Nat) :
    (slotAt n sockid a b k).tick (envs k).frames = slotAt n sockid a b (k + 1) := by
  have hab := h.order
  rw [XBeeNotify.tick_filter, h.notify]
  unfold slotAt
  by_cases hka : k = a <;> by_cases hkb : k = b
  · subst hka
    subst hkb
    simp [XBeeNotify.tick, connectResp, stateConnected, established, responded]
  · subst hka
    have hlt : ¬b < k := by omega
    have hlt' : ¬b < k + 1 := by omega
    simp [XBeeNotify.tick, connectResp, responded, hkb, hlt, hlt']
  · subst hkb
    have hlt : a < k := by omega
    simp [XBeeNotify.tick, stateConnected, established, hka, hlt]
  · have hb : b < k ↔ b < k + 1 := by omega
    have ha : a < k ↔ a < k + 1 := by omega
    simp [XBeeNotify.tick, hka, hkb, hb, ha]

theorem count_responded : (responded n sockid).count = n.count + 1 := by
  rw [responded, XBeeNotify.count_callback]
  rfl

theorem count_established : (established n sockid).count = n.count + 2 := by
  rw [established, XBeeNotify.count_callback, count_responded, UInt32.add_assoc]
  rfl

private theorem add_ne_self (x : UInt32) {c : UInt32} (hc : c ≠ 0) : x + c ≠ x := by
  intro h
  have : x + c = x + 0 := by rw [h, UInt32.add_zero]
  exact hc ((UInt32.add_right_inj x).1 this)

section Run

variable (h0 : At r .socketReady n.count start n) (hcip : r.connectInProgress = true)
  (hd : Delivers envs sockid start a b)
include h0 hcip hd

/-- Until both the first two ticks and the response are over, the radio waits
for the response. -/
theorem awaits_response {k : Nat} (hk : k + 1 ≤ max a 1) :
    At (r.polls envs (k + 1)) .awaitConnectResponse n.count start
      (slotAt n sockid a b (k + 1)) := by
  have hab := hd.order
  induction k with
  | zero =>
    have hready := At.ready (envs 0) h0 hcip
    have hslot := hd.slot_succ (n := n) 0
    have hzero : slotAt n sockid a b 0 = n := by simp [slotAt]
    rw [hzero] at hslot
    rwa [hslot] at hready
  | succ k ih =>
    have hslot := hd.slot_succ (n := n) (k + 1)
    have hnone : slotAt n sockid a b (k + 2) = n := by
      unfold slotAt
      rw [if_neg (by omega), if_neg (by omega)]
    have hwait := At.waits (envs (k + 1)) (Or.inl rfl) (ih (by omega))
      (by rw [hslot, hnone]) (hd.inTime _ (by omega))
    rwa [hslot] at hwait

/-- The poll that looks first: it sees the response, or the state in its place. -/
theorem first_look :
    (max a 1 < b → At (r.polls envs (max a 1 + 1)) .awaitConnection (n.count + 1) start
      (responded n sockid)) ∧
    (b ≤ max a 1 → (r.polls envs (max a 1 + 1)).mState = .socketCooldownPeriod) := by
  have hab := hd.order
  obtain ⟨k, hk⟩ : ∃ k, max a 1 = k + 1 := ⟨max a 1 - 1, by omega⟩
  have hat := awaits_response h0 hcip hd (k := k) (by omega)
  have hslot := hd.slot_succ (n := n) (k + 1)
  rw [hk]
  constructor
  · intro hb
    have heq : slotAt n sockid a b (k + 1 + 1) = responded n sockid := by
      unfold slotAt
      rw [if_neg (by omega), if_pos (by omega)]
    rw [heq] at hslot
    have hgo := At.goesOn (envs (k + 1)) (Or.inl rfl) hat
      (by rw [hslot, count_responded]; exact add_ne_self _ (by decide))
      (by rw [hslot]; exact Or.inl ⟨rfl, rfl, rfl⟩)
    rwa [hslot, count_responded] at hgo
  · intro hb
    have heq : slotAt n sockid a b (k + 1 + 1) = established n sockid := by
      unfold slotAt
      rw [if_pos (by omega)]
    rw [heq] at hslot
    refine At.resets (envs (k + 1)) (Or.inl rfl) hat ?_ ?_
    · rw [hslot, count_established]
      exact add_ne_self _ (by decide)
    · rw [hslot]
      have hstate : (established n sockid).type = .sockState := rfl
      intro hor
      rcases hor with ⟨_, htype, _⟩ | ⟨hs, _⟩
      · rw [hstate] at htype
        exact absurd htype (by decide)
      · exact absurd hs (by decide)

/-- From there to the state, the radio waits for it. -/
theorem awaits_state (hb : max a 1 < b) {k : Nat} (hk : max a 1 + 1 + k ≤ b) :
    At (r.polls envs (max a 1 + 1 + k)) .awaitConnection (n.count + 1) start
      (responded n sockid) := by
  induction k with
  | zero => exact (first_look h0 hcip hd).1 hb
  | succ k ih =>
    have hslot := hd.slot_succ (n := n) (max a 1 + 1 + k)
    have heq : ∀ j, max a 1 + 1 ≤ j → j ≤ b → slotAt n sockid a b j = responded n sockid := by
      intro j hj hjb
      unfold slotAt
      rw [if_neg (by omega), if_pos (by omega)]
    rw [heq _ (by omega) (by omega), heq _ (by omega) (by omega)] at hslot
    have hwait := At.waits (envs (max a 1 + 1 + k)) (Or.inr rfl) (ih (by omega))
      (by rw [hslot, count_responded]) (hd.inTime _ (by omega))
    rwa [hslot] at hwait

theorem connects_at (hb : max a 1 < b) :
    (r.polls envs (b + 1)).mState = .connected := by
  obtain ⟨k, hk⟩ : ∃ k, b = max a 1 + 1 + k := ⟨b - (max a 1 + 1), by omega⟩
  have hat := awaits_state h0 hcip hd hb (k := k) (by omega)
  rw [← hk] at hat
  have hslot := hd.slot_succ (n := n) b
  have hold : slotAt n sockid a b b = responded n sockid := by
    unfold slotAt
    rw [if_neg (by omega), if_pos (by omega)]
  have hnew : slotAt n sockid a b (b + 1) = established n sockid := by
    unfold slotAt
    rw [if_pos (by omega)]
  rw [hold, hnew] at hslot
  refine (At.goesOn (envs b) (Or.inr rfl) hat ?_ ?_).mState
  · rw [hslot, count_established]
    intro heq
    have hone : n.count + 1 + 1 = n.count + 1 := by
      rw [UInt32.add_assoc]
      exact heq
    exact add_ne_self _ (by decide) hone
  · rw [hslot]
    exact Or.inr ⟨rfl, rfl, rfl⟩

end Run

/-- From a successful `connect()` in `SOCKET_READY` on, the radio gets to
`CONNECTED` without a reset exactly when the state comes in a later tick than
the response, and not in the first two. -/
theorem connects_iff {r₀ : GB4XBee} {env₀ : Env} (hr₀ : r₀.mState = .socketReady)
    (hcount : r₀.gNotify.count = r₀.notifyCount) (hconnect : (r₀.connect env₀).1 = true)
    (hd : Delivers envs sockid (r₀.connect env₀).2.connectStartTime a b) :
    (∃ k, ((r₀.connect env₀).2.polls envs k).mState = .connected ∧
      ∀ j ≤ k, ((r₀.connect env₀).2.polls envs j).mState ≠ .socketCooldownPeriod) ↔
    max a 1 < b := by
  generalize hr : (r₀.connect env₀).2 = r at hd ⊢
  have hab := hd.order
  have hafter : At r .socketReady r₀.gNotify.count r.connectStartTime r₀.gNotify ∧
      r.connectInProgress = true := by
    rcases r₀.connect_cases env₀ with ⟨_, heq⟩ | ⟨_, heq⟩
    · rw [heq] at hr
      subst hr
      exact ⟨⟨hr₀, hcount.symm, rfl, rfl⟩, rfl⟩
    · rw [heq] at hconnect
      exact absurd hconnect (show false ≠ true by decide)
  obtain ⟨h0, hcip⟩ := hafter
  have hearly : ∀ j, j ≤ max a 1 → (r.polls envs j).mState = .socketReady ∨
      (r.polls envs j).mState = .awaitConnectResponse := by
    intro j hj
    cases j with
    | zero => exact Or.inl h0.mState
    | succ j => exact Or.inr (awaits_response h0 hcip hd hj).mState
  constructor
  · intro hex
    obtain ⟨k, hconn, hnever⟩ := hex
    apply Nat.lt_of_not_le
    intro hb
    have hreset := (first_look h0 hcip hd).2 hb
    have hk : k ≤ max a 1 := by
      apply Nat.le_of_not_lt
      intro hlt
      exact hnever _ hlt hreset
    rcases hearly k hk with hs | hs <;> rw [hs] at hconn <;> exact absurd hconn (by decide)
  · intro hb
    refine ⟨b + 1, connects_at h0 hcip hd hb, fun j hj => ?_⟩
    rcases Nat.lt_or_ge (max a 1) j with hlt | hge
    · rcases Nat.eq_or_lt_of_le hj with rfl | hlt'
      · rw [connects_at h0 hcip hd hb]
        decide
      · obtain ⟨i, rfl⟩ : ∃ i, j = max a 1 + 1 + i := ⟨j - (max a 1 + 1), by omega⟩
        rw [(awaits_state h0 hcip hd hb (by omega)).mState]
        decide
    · rcases hearly j hge with hs | hs <;> rw [hs] <;> decide

/-- A radio with a fresh socket. -/
def readyRadio : GB4XBee := { (default : GB4XBee) with mState := .socketReady }

/-- A driver that notifies the response in tick `a` and the state in tick `b`. -/
def driver (a b : Nat) (i : Nat) : Env where
  frames := (if i = a then [connectResp 1] else []) ++ if i = b then [stateConnected 1] else []

theorem driver_delivers {a b : Nat} (hab : a ≤ b) : Delivers (driver a b) 1 0 a b := by
  refine ⟨hab, fun i => ?_, fun i _ => show elapsed 0 0 ≤ connectTimeout by decide⟩
  unfold driver
  rw [List.filter_append]
  split <;> split <;> rfl

/-- The response in tick 1 and the state in tick 2. -/
theorem connects_one_by_one :
    (∃ k, ((readyRadio.connect {}).2.polls (driver 1 2) k).mState = .connected ∧
      ∀ j ≤ k, ((readyRadio.connect {}).2.polls (driver 1 2) j).mState ≠
        .socketCooldownPeriod) ↔
    max 1 1 < 2 :=
  connects_iff rfl rfl rfl (driver_delivers (by decide))

/-- Both frames in tick 1: the socket is reset. -/
theorem both_in_one_tick_resets :
    let r := (readyRadio.connect {}).2
    (readyRadio.mState = .socketReady ∧ readyRadio.gNotify.count = readyRadio.notifyCount ∧
      (readyRadio.connect {}).1 = true ∧ Delivers (driver 1 1) 1 r.connectStartTime 1 1) ∧
    (r.polls (driver 1 1) 2).mState = .socketCooldownPeriod ∧
    ¬∃ k, (r.polls (driver 1 1) k).mState = .connected ∧
      ∀ j ≤ k, (r.polls (driver 1 1) j).mState ≠ .socketCooldownPeriod := by
  intro r
  have hreset : (r.polls (driver 1 1) 2).mState = .socketCooldownPeriod := by decide
  refine ⟨⟨rfl, rfl, rfl, driver_delivers (by decide)⟩, hreset, ?_⟩
  intro hex
  obtain ⟨k, hconn, hnever⟩ := hex
  rcases Nat.lt_or_ge k 2 with hk | hk
  · have hearly : ∀ j < 2, (r.polls (driver 1 1) j).mState ≠ .connected := by decide
    exact hearly k hk hconn
  · exact hnever 2 hk hreset

end GB4XBee

end XBeeMqtt
