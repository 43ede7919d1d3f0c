import XBeeMqtt.GB4XBee.Step
import XBeeMqtt.Lib.History

/-!
# The receive mailbox

`g_receive` holds the payload that was delivered last.  It is a global that no
reset and no socket creation empties, so a pending payload may be older than
the socket.

* `XBeeReceive.tick_holds`, `tick_of_none`: what a tick leaves in the mailbox.
* `Fresh g log`: a pending payload was delivered since the last socket creation,
  and it is the last one.  Ticks keep it (`Fresh.tick`); a poll of the radio
  keeps it when no socket is created over a pending payload (`fresh_poll`).
* `poll_create`: the poll that creates a socket leaves the mailbox as it is.
-/

namespace XBeeMqtt

open History

/-- The payload that an event delivers. -/
def Event.payload? : Event → Option (List UInt8)
  | .received payload => some payload
  | _ => none

def Event.isSocketCreate : Event → Bool
  | .socketCreate _ => true
  | _ => false

/-- The payload that was delivered last. -/
def lastReceived (log : List Event) : Option (List UInt8) := log.findSome? Event.payload?

theorem lastReceived_append (new log : List Event) :
    lastReceived (new ++ log) = (lastReceived new).or (lastReceived log) :=
  List.findSome?_append

theorem lastReceived_of_none {new : List Event} (h : ∀ e ∈ new, e.payload? = none)
    (log : List Event) : lastReceived (new ++ log) = lastReceived log := by
  have hnew : lastReceived new = none := List.findSome?_eq_none_iff.2 h
  rw [lastReceived_append, hnew, Option.none_or]

theorem lastReceived_frame (frame : Frame) :
    lastReceived (tickEvents [frame]) = frame.event?.bind Event.payload? := by
  cases frame <;> rfl

theorem isSocketCreate_of_tick {frames : List Frame} {e : Event} (h : e ∈ tickEvents frames) :
    e.isSocketCreate = false := by
  simp only [tickEvents, List.mem_reverse, List.mem_filterMap] at h
  obtain ⟨frame, _, hframe⟩ := h
  cases frame with
  | notify sockid frameType message => exact absurd hframe (by simp [Frame.event?])
  | receive sock payload =>
    rw [← Option.some.inj hframe]
    rfl
  | apn value =>
    rw [← Option.some.inj hframe]
    rfl

namespace XBeeReceive

/-- The mailbox has the bytes of a payload, as far as they fit. -/
def Holds (g : XBeeReceive) (payload : List UInt8) : Prop :=
  g.mPayload.take g.mPayloadLen = payload.take messagePayloadSize

theorem holds_callback (g : XBeeReceive) (sock : Int) (payload : List UInt8) :
    (g.callback sock payload).Holds payload := by
  obtain ⟨n, hn, hle, htake⟩ : ∃ n, (if payload.length > messagePayloadSize then
      messagePayloadSize else payload.length) = n ∧ n ≤ payload.length ∧
      payload.take n = payload.take messagePayloadSize := by
    refine ⟨_, rfl, ?_, ?_⟩
    · split <;> omega
    · rw [List.take_eq_take_iff]
      split <;> omega
  unfold Holds callback write
  dsimp only
  rw [hn, List.take_append_of_le_length, List.take_take, Nat.min_self, htake]
  rw [List.length_take]
  omega

theorem tick_cons (g : XBeeReceive) (frame : Frame) (frames : List Frame) :
    g.tick (frame :: frames) = (g.tick [frame]).tick frames := rfl

/-- A tick without a payload leaves the mailbox alone. -/
theorem tick_of_none (g : XBeeReceive) {frames : List Frame}
    (h : lastReceived (tickEvents frames) = none) : g.tick frames = g := by
  induction frames generalizing g with
  | nil => rfl
  | cons frame frames ih =>
    rw [tickEvents_cons, lastReceived_append, Option.or_eq_none_iff, lastReceived_frame] at h
    rw [tick_cons, ih _ h.1]
    cases frame with
    | receive sock payload => exact absurd h.2 (Option.some_ne_none payload)
    | _ => rfl

/-- A tick with payloads leaves the last one in the mailbox. -/
theorem tick_holds (g : XBeeReceive) {frames : List Frame} {payload : List UInt8}
    (h : lastReceived (tickEvents frames) = some payload) :
    (g.tick frames).mPending = true ∧ (g.tick frames).Holds payload := by
  induction frames generalizing g with
  | nil => exact absurd h (by simp [tickEvents, lastReceived])
  | cons frame frames ih =>
    rw [tickEvents_cons, lastReceived_append] at h
    rw [tick_cons]
    cases hlast : lastReceived (tickEvents frames) with
    | some last =>
      rw [hlast, Option.some_or] at h
      exact ih _ (hlast.trans h)
    | none =>
      rw [hlast, Option.none_or, lastReceived_frame] at h
      rw [tick_of_none _ hlast]
      cases frame with
      | receive sock payload' =>
        rw [← Option.some.inj h]
        exact ⟨rfl, g.holds_callback sock payload'⟩
      | notify sockid frameType message => exact absurd h.symm (Option.some_ne_none payload)
      | apn value => exact absurd h.symm (Option.some_ne_none payload)

/-- The bytes that a read of a mailbox with a payload gives. -/
theorem read_of_holds {g : XBeeReceive} {payload : List UInt8} (h : g.Holds payload) {len : Nat}
    (hlen : len ≤ messagePayloadSize) : (g.read len).1 = payload.take len := by
  have hread : (g.read len).1 = (g.mPayload.take g.mPayloadLen).take len := by
    unfold read
    dsimp only
    rw [List.take_take]
    congr 1
    split <;> omega
  rw [hread, h, List.take_take, Nat.min_eq_left hlen]

/-- A tick does not take a payload. -/
theorem tick_pending {g : XBeeReceive} (h : g.mPending = true) (frames : List Frame) :
    (g.tick frames).mPending = true := by
  cases hlast : lastReceived (tickEvents frames) with
  | none => rw [tick_of_none g hlast, h]
  | some payload => exact (g.tick_holds hlast).1

/-- A pending payload was delivered since the last socket creation. -/
def Fresh (g : XBeeReceive) (log : List Event) : Prop :=
  g.mPending = true →
    ∃ payload, lastReceived (since Event.isSocketCreate log) = some payload ∧ g.Holds payload

variable {g : XBeeReceive} {log : List Event}

theorem Fresh.append (h : g.Fresh log) (new : List Event)
    (hnew : ∀ e ∈ new, e.payload? = none ∧ e.isSocketCreate = false) : g.Fresh (new ++ log) := by
  intro hp
  rw [since_append fun e he => (hnew e he).2, lastReceived_of_none fun e he => (hnew e he).1]
  exact h hp

theorem Fresh.tick (h : g.Fresh log) (frames : List Frame) :
    (g.tick frames).Fresh (tickEvents frames ++ log) := by
  intro hp
  rw [since_append fun e he => isSocketCreate_of_tick he, lastReceived_append]
  cases hlast : lastReceived (tickEvents frames) with
  | some payload => exact ⟨payload, rfl, (g.tick_holds hlast).2⟩
  | none =>
    rw [tick_of_none g hlast] at hp ⊢
    exact h hp

end XBeeReceive

namespace GB4XBee

variable {r : GB4XBee} {env : Env}

/-- No payload is in the mailbox when the poll creates a socket. -/
def CreatesClean (r : GB4XBee) (env : Env) : Prop :=
  r.mState = .beginCreateSocket →
    r.gReceive.mPending = false ∧ lastReceived (tickEvents env.frames) = none

instance (r : GB4XBee) (env : Env) : Decidable (r.CreatesClean env) :=
  inferInstanceAs (Decidable (_ → _))

theorem fresh_poll (h : r.gReceive.Fresh r.log) (hclean : r.CreatesClean env) :
    (r.poll env).gReceive.Fresh (r.poll env).log := by
  have htick : (r.devTick env.frames).gReceive.Fresh (r.devTick env.frames).log := by
    rw [devTick_gReceive, devTick_log]
    exact h.tick env.frames
  rcases r.poll_cases env with ⟨_, hstep⟩ | ⟨_, hstep⟩
  · obtain ⟨frames, events, hrec, hlog, hev⟩ := hstep.ticked
    rw [hrec, hlog]
    apply (h.tick frames).append events
    intro e he
    have := hev e he
    cases e <;> simp_all [Event.ofStartup, Event.payload?, Event.isSocketCreate]
  · have hempty : (r.devTick env.frames).mState = .beginCreateSocket →
        (r.devTick env.frames).gReceive.mPending = false := by
      intro hs
      rw [devTick_mState] at hs
      obtain ⟨hp, hnone⟩ := hclean hs
      rw [devTick_gReceive, XBeeReceive.tick_of_none _ hnone]
      exact hp
    generalize r.poll env = r' at hstep ⊢
    cases hstep with
    | stay => exact htick
    | advance _ => exact htick
    | reset =>
      exact htick.append [.resetSocket] (by simp [Event.payload?, Event.isSocketCreate])
    | create hs _ => exact fun hp => absurd (hp.symm.trans (hempty hs)) (by decide)
    | createFailed hs _ => exact fun hp => absurd (hp.symm.trans (hempty hs)) (by decide)

/-- Only a read takes a payload. -/
theorem poll_pending (h : r.gReceive.mPending = true) (env : Env) :
    (r.poll env).gReceive.mPending = true := by
  rcases r.poll_cases env with ⟨_, hstep⟩ | ⟨_, hstep⟩
  · obtain ⟨frames, events, hrec, _, _⟩ := hstep.ticked
    rw [hrec]
    exact XBeeReceive.tick_pending h frames
  · have htick : (r.devTick env.frames).gReceive.mPending = true := by
      rw [devTick_gReceive]
      exact XBeeReceive.tick_pending h env.frames
    generalize r.poll env = r' at hstep ⊢
    cases hstep with
    | _ => exact htick

/-- `BEGIN_CREATE_SOCKET` calls `xbee_sock_create` after its tick. -/
theorem poll_create (hs : r.mState = .beginCreateSocket) (env : Env) :
    (r.poll env).mState < .socketReady ∧
      (r.poll env).gReceive = r.gReceive.tick env.frames ∧
      lastReceived (since Event.isSocketCreate (r.poll env).log) = none := by
  have hmain : r.poll env = (r.devTick env.frames).mainStep env := by
    apply poll_main
    rw [hs]
    decide
  have hticked : (r.devTick env.frames).mState = .beginCreateSocket := by
    rw [devTick_mState, hs]
  rw [hmain, ← devTick_gReceive]
  simp only [mainStep, hticked]
  unfold sendSocketCreate
  dsimp only
  split
  · exact ⟨show State.socketCooldownPeriod < _ by decide, rfl, rfl⟩
  · exact ⟨show State.awaitSocketId < _ by decide, rfl, rfl⟩

end GB4XBee

end XBeeMqtt
