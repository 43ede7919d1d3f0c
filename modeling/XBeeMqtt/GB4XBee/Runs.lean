import XBeeMqtt.GB4XBee.Step
import XBeeMqtt.Lib.Transition

/-!
# Runs of the radio

`GB4XBee` on its own: its public functions in any order, with any answers of
the driver, any frames and any clock readings.  `pollStartup` is left to
`poll`, and `verifyAccessPointName` to the tick.

`call_cases` is the inversion lemma for the calls that are no poll.
-/

namespace XBeeMqtt

namespace GB4XBee

/-- A call from above, with what the function reads. -/
inductive Call where
  | begin (status : Int)
  | resetSocket (now : UInt32)
  | poll (env : Env)
  | connect (env : Env)
  | getReceivedMessage (len : Nat)
  | sendMessage (message : List UInt8) (len : Nat) (env : Env)

/-- The radio after a call. -/
def call (r : GB4XBee) : Call → GB4XBee
  | .begin status => (r.begin status).2
  | .resetSocket now => r.resetSocket now
  | .poll env => r.poll env
  | .connect env => (r.connect env).2
  | .getReceivedMessage len => (r.getReceivedMessage len).2.2
  | .sendMessage message len env => (r.sendMessage message len env).2

/-- The constructor ran, and `begin` started the machine. -/
def Begun (r : GB4XBee) : Prop :=
  ∃ mem apn useTls status, (construct mem apn useTls).begin status = (true, r)

/-- The radio under calls from above. -/
def system : Transition.System GB4XBee Call := .ofFunction Begun (fun _ _ => True) call

theorem eq_of_begin {r r' : GB4XBee} {status : Int} (h : r.begin status = (true, r')) :
    r' = { r with mState := .start } := by
  unfold begin at h
  split at h
  · exact absurd (congrArg Prod.fst h) Bool.false_ne_true
  · exact (congrArg Prod.snd h).symm

theorem begun_eq {r : GB4XBee} (h : Begun r) :
    ∃ mem apn useTls, r = { construct mem apn useTls with mState := .start } := by
  obtain ⟨mem, apn, useTls, status, hbegin⟩ := h
  exact ⟨mem, apn, useTls, eq_of_begin hbegin⟩

/-- What a call from above makes of a radio, unless it is a poll. -/
inductive CallStep (r : GB4XBee) : Call → GB4XBee → Prop where
  | started {status : Int} : CallStep r (.begin status) { r with mState := .start }
  | reset {now : UInt32} : CallStep r (.resetSocket now) (r.resetSocket now)
  | connecting {env : Env} : env.sockConnect = 0 → CallStep r (.connect env) { r with
      connectStartTime := (env.millis .connect).toInt32
      connectInProgress := true
      log := .socketConnect r.mState 0 :: r.log }
  | sent {message : List UInt8} {len : Nat} {env : Env} :
      r.mState = .connected → env.sockSend = 0 → CallStep r (.sendMessage message len env) { r with
        sendStartTime := (env.millis .sendMessage).toInt32
        mState := .sending
        log := .sendMessage .connected message len .messageSent :: r.log }
  /-- An error, or a payload that was taken. -/
  | kept {c : Call} {err : Int} {gReceive : XBeeReceive} {events : List Event} :
      (∀ e ∈ events, e.ofRadio = false) →
      CallStep r c { r with err := err, gReceive := gReceive, log := events ++ r.log }

/-- A call that leaves an error and an event, or neither. -/
private theorem CallStep.refused {r : GB4XBee} {c : Call} (err : Int) (events : List Event)
    (h : ∀ e ∈ events, e.ofRadio = false) :
    CallStep r c { r with err := err, log := events ++ r.log } :=
  @CallStep.kept r c err r.gReceive events h

theorem call_cases (r : GB4XBee) (c : Call) :
    (∃ env, c = .poll env) ∨ CallStep r c (r.call c) := by
  cases c with
  | poll env => exact Or.inl ⟨env, rfl⟩
  | resetSocket now => exact Or.inr .reset
  | begin status =>
    apply Or.inr
    show CallStep r (.begin status) (r.begin status).2
    unfold begin
    split
    · exact .refused status [] (by simp)
    · exact .started
  | connect env =>
    apply Or.inr
    show CallStep r (.connect env) (r.connect env).2
    rcases r.connect_cases env with ⟨hok, heq⟩ | ⟨_, heq⟩
    · rw [heq]
      exact .connecting hok
    · rw [heq]
      exact .refused _ [.socketConnect r.mState env.sockConnect] (by simp [Event.ofRadio])
  | getReceivedMessage len =>
    apply Or.inr
    show CallStep r (.getReceivedMessage len) (r.getReceivedMessage len).2.2
    rcases r.getReceivedMessage_cases len with ⟨_, heq⟩ | ⟨_, heq⟩
    · rw [heq]
      exact .refused r.err [] (by simp)
    · rw [heq]
      exact @CallStep.kept r _ r.err _ [] (by simp)
  | sendMessage message len env =>
    apply Or.inr
    show CallStep r (.sendMessage message len env) (r.sendMessage message len env).2
    rcases r.sendMessage_cases message len env with ⟨hconn, hok, heq⟩ | ⟨status, _, _, heq⟩
    · rw [heq]
      exact .sent hconn hok
    · rw [heq]
      exact .refused r.err [.sendMessage r.mState message len status] (by simp [Event.ofRadio])

/-! ## A run up to the connected socket -/

/-- A radio that has begun. -/
def sampleRadio : GB4XBee := ((construct default [0x61, 0x70, 0x6E] false).begin 0).2

/-- Twelve polls, two seconds apart, up to `AWAIT_READ_APN_RESPONSE`. -/
def startupCalls : List Call := (List.range 12).map fun k =>
  .poll { millis := fun _ => 2000 * UInt32.ofNat k, serial := [0x4F, 0x4B, 0x0D] }

/-- The answers of the device from there to `CONNECTED`. -/
def connectCalls : List Call :=
  [.poll { frames := [.apn [0x61, 0x70, 0x6E]] },
    .poll {}, .poll { frames := [.notify 1 0xC0 0x00] },
    .connect {}, .poll {}, .poll { frames := [.notify 1 0xC2 0x00] },
    .poll { frames := [.notify 1 0xCF 0x00] }]

@[irreducible] def afterCalls (calls : List Call) : GB4XBee :=
  Transition.replay call sampleRadio calls

theorem begun_sampleRadio : system.init sampleRadio := ⟨default, [0x61, 0x70, 0x6E], false, 0, rfl⟩

theorem reach_afterCalls (calls : List Call) : system.Reach (afterCalls calls) := by
  unfold afterCalls
  apply Transition.reach_replay calls (.init begun_sampleRadio)
  exact Transition.accepted_of_forall (fun _ _ => trivial) calls sampleRadio

end GB4XBee

end XBeeMqtt
