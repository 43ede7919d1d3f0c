import XBeeMqtt.GB4XBee.Runs
import XBeeMqtt.GB4XBee.Mailbox

/-!
# Waiting for accepted commands

Four states wait for the answer of the device to a command.  The driver may
refuse the command, and then nothing will answer.

`BEGIN_READ_APN` goes on whatever the driver says: `sendReadAPN` drops what
`xbee_cmd_send` answers, and `pollStartup` drops what `sendReadAPN` answers.
The other three commands are checked.

* `ConnectLogged`: a connect in progress was accepted for this socket.
* `call_accepted`: a call that enters a waiting state does so for an accepted
  command.
* `waitsForAccepted_iff`: a run only waits for accepted commands exactly when
  the driver takes every `AN`.
-/

namespace XBeeMqtt

open History

namespace GB4XBee

variable {r : GB4XBee} {env : Env}

/-- The commands that a state of the radio waits for. -/
inductive Command where
  | readApn
  | sockCreate
  | sockConnect
  | sockSend
  deriving DecidableEq, Repr

namespace Command

/-- The state that waits for the answer. -/
def wait : Command → State
  | .readApn => .awaitReadApnResponse
  | .sockCreate => .awaitSocketId
  | .sockConnect => .awaitConnectResponse
  | .sockSend => .sending

theorem cooldown_ne_wait (k : Command) : State.socketCooldownPeriod ≠ k.wait := by
  cases k <;> decide

theorem start_ne_wait (k : Command) : State.start ≠ k.wait := by
  cases k <;> decide

/-- The driver calls of the command succeed. -/
def Succeeds (env : Env) : Command → Prop
  | .readApn => 0 ≤ env.cmdCreate .readApn ∧ env.cmdSend .readApn = 0
  | .sockCreate => 0 ≤ env.sockCreate
  | .sockConnect => env.sockConnect = 0
  | .sockSend => env.sockSend = 0

instance (env : Env) : (k : Command) → Decidable (k.Succeeds env)
  | .readApn => inferInstanceAs (Decidable (_ ∧ _))
  | .sockCreate => inferInstanceAs (Decidable (0 ≤ env.sockCreate))
  | .sockConnect => inferInstanceAs (Decidable (env.sockConnect = 0))
  | .sockSend => inferInstanceAs (Decidable (env.sockSend = 0))

/-- What the driver answers when the call issues the command. -/
def issued? (r : GB4XBee) : Command → Call → Option Env
  | .readApn, .poll env => if r.mState = .beginReadApn then some env else none
  | .sockCreate, .poll env => if r.mState = .beginCreateSocket then some env else none
  | .sockConnect, .connect env => some env
  | .sockSend, .sendMessage _ _ env => if r.mState = .connected then some env else none
  | _, _ => none

/-- The call that issues the command, and the state that it is issued in. -/
def IssuedBy (r : GB4XBee) (c : Call) (env : Env) : Command → Prop
  | .readApn => c = .poll env ∧ r.mState = .beginReadApn
  | .sockCreate => c = .poll env ∧ r.mState = .beginCreateSocket
  | .sockConnect => c = .connect env
  | .sockSend => ∃ message len, c = .sendMessage message len env ∧ r.mState = .connected

/-- The command has been accepted for the current attempt.  A connect is called
from above, at any time since the socket was created. -/
def Accepted (r : GB4XBee) (c : Call) : Command → Prop
  | .sockConnect => ∃ found, .socketConnect found 0 ∈ since Event.isSocketCreate r.log
  | k => ∃ env, k.issued? r c = some env ∧ k.Succeeds env

/-- Where a radio `r` is after a refused command: it issues the command again, or
resets the socket.  A refused connect starts no wait. -/
def Retries (r r' : GB4XBee) : Command → Prop
  | .readApn => r'.mState ≤ .beginReadApn ∨ r'.mState = .socketCooldownPeriod
  | .sockCreate => r'.mState = .beginCreateSocket ∨ r'.mState = .socketCooldownPeriod
  | .sockConnect => r'.mState = r.mState ∧ r'.connectInProgress = r.connectInProgress
  | .sockSend => r'.mState = .connected ∨ r'.mState = .socketCooldownPeriod

end Command

/-- The call enters no wait for a command that was not accepted, and does not
pass over one that the driver refuses. -/
def WaitsForAccepted (r : GB4XBee) (c : Call) : Prop :=
  (∀ k : Command, r.mState ≠ k.wait → (r.call c).mState = k.wait → k.Accepted r c) ∧
    ∀ (k : Command) (env : Env), k.issued? r c = some env → ¬k.Succeeds env →
      k.Retries r (r.call c)

/-- The driver takes `AN`, when the call sends it. -/
def ReadApnTaken (r : GB4XBee) (c : Call) : Prop :=
  ∀ env, Command.readApn.issued? r c = some env → Command.readApn.Succeeds env

instance (r : GB4XBee) (c : Call) : Decidable (r.ReadApnTaken c) :=
  inferInstanceAs (Decidable (∀ env ∈ Command.readApn.issued? r c, _))

/-! ## A connect in progress -/

/-- A connect that is in progress was accepted since the socket was created. -/
def ConnectLogged (r : GB4XBee) : Prop :=
  r.connectInProgress = true →
    ∃ found, .socketConnect found 0 ∈ since Event.isSocketCreate r.log

theorem ConnectLogged.append {r' : GB4XBee} (h : r.ConnectLogged) (new : List Event)
    (hcip : r'.connectInProgress = r.connectInProgress) (hlog : r'.log = new ++ r.log)
    (hnew : ∀ e ∈ new, e.isSocketCreate = false) : r'.ConnectLogged := by
  intro hin
  rw [hcip] at hin
  obtain ⟨found, hmem⟩ := h hin
  rw [hlog, since_append hnew]
  exact ⟨found, List.mem_append_right new hmem⟩

theorem poll_connectLogged (h : r.ConnectLogged) (env : Env) : (r.poll env).ConnectLogged := by
  rcases r.poll_cases env with ⟨_, hstep⟩ | ⟨_, hstep⟩
  · obtain ⟨frames, events, _, hlog, hev⟩ := hstep.ticked
    refine h.append (events ++ tickEvents frames) hstep.connectInProgress
      (by rw [hlog, List.append_assoc]) fun e he => ?_
    rcases List.mem_append.1 he with he | he
    · have hstartup := hev e he
      cases e <;> first | rfl | exact absurd hstartup Bool.false_ne_true
    · exact isSocketCreate_of_tick he
  · have htick : (r.devTick env.frames).ConnectLogged :=
      h.append (tickEvents env.frames) (r.devTick_connectInProgress env.frames)
        (r.devTick_log env.frames) fun e he => isSocketCreate_of_tick he
    generalize r.poll env = r' at hstep ⊢
    cases hstep with
    | stay => exact htick
    | advance _ => exact htick
    | reset => exact htick.append [.resetSocket] rfl rfl (by simp [Event.isSocketCreate])
    | create _ _ => exact fun hin => absurd hin Bool.false_ne_true
    | createFailed _ _ => exact fun hin => absurd hin Bool.false_ne_true

theorem isSocketCreate_of_call {e : Event} (h : e.ofRadio = false) :
    e.isSocketCreate = false := by
  cases e <;> first | rfl | exact absurd h.symm Bool.false_ne_true

theorem call_connectLogged (h : r.ConnectLogged) (c : Call) : (r.call c).ConnectLogged := by
  rcases r.call_cases c with ⟨env, rfl⟩ | hstep
  · exact poll_connectLogged h env
  · generalize r.call c = r' at hstep ⊢
    cases hstep with
    | started => exact h
    | reset => exact h.append [.resetSocket] rfl rfl (by simp [Event.isSocketCreate])
    | connecting _ =>
      refine fun _ => ⟨r.mState, ?_⟩
      rw [since_cons rfl]
      exact List.mem_cons_self
    | @sent message len _ _ _ =>
      exact h.append [.sendMessage .connected message len .messageSent] rfl rfl
        (by simp [Event.isSocketCreate])
    | @kept _ _ _ events hev =>
      exact h.append events rfl rfl fun e he => isSocketCreate_of_call (hev e he)

/-! ## Entering a wait -/

/-- `BEGIN_READ_APN` goes on whatever the driver answers. -/
theorem poll_beginReadApn (hs : r.mState = .beginReadApn) (env : Env) :
    (r.poll env).mState = .awaitReadApnResponse := by
  rw [poll_startup (by rw [hs]; decide)]
  simp only [startupStep, hs]

theorem issued_readApn (hs : r.mState = .beginReadApn) (env : Env) :
    Command.readApn.issued? r (.poll env) = some env :=
  if_pos hs

theorem issuedBy_of_issued {k : Command} {c : Call} (h : k.issued? r c = some env) :
    k.IssuedBy r c env := by
  cases k <;> cases c <;>
    simp [Command.issued?, Option.ite_none_right_eq_some] at h <;>
    simp [Command.IssuedBy, h]

/-- Only `BEGIN_READ_APN` leads to `AWAIT_READ_APN_RESPONSE`. -/
theorem eq_of_mem_startupNext {s : State} (h : .awaitReadApnResponse ∈ startupNext s) :
    s = .beginReadApn := by
  cases s <;> simp [startupNext] at h ⊢

/-- A poll enters a wait for an accepted command only. -/
theorem poll_accepted (h : r.ConnectLogged) (htaken : r.ReadApnTaken (.poll env)) (k : Command)
    (hne : r.mState ≠ k.wait) (henters : (r.poll env).mState = k.wait) :
    k.Accepted r (.poll env) := by
  by_cases hr : r.mState < .socketCooldownPeriod
  · -- a startup poll only enters the wait for `AN`
    rw [poll_startup hr] at henters
    have hwrites := r.startupStep_writes env
    generalize r.startupStep env = r' at hwrites henters
    cases hwrites with
    | @mk _ s _ _ _ _ hs _ =>
      have henters : s = k.wait := henters
      rw [henters] at hs
      rcases hs with hs | hs
      · exact absurd hs.symm hne
      · cases k with
        | readApn =>
          have hissued := issued_readApn (eq_of_mem_startupNext hs) env
          exact ⟨env, hissued, htaken env hissued⟩
        | sockCreate => exact absurd (le_of_mem_startupNext hs).1 (by decide)
        | sockConnect => exact absurd (le_of_mem_startupNext hs).1 (by decide)
        | sockSend => exact absurd (le_of_mem_startupNext hs).1 (by decide)
  · rcases r.poll_cases env with ⟨hlow, _⟩ | ⟨_, hstep⟩
    · exact absurd hlow hr
    generalize r.poll env = r' at hstep henters
    cases hstep with
    | stay => exact absurd ((r.devTick_mState env.frames).symm.trans henters) hne
    | @advance s _ hadv =>
      have henters : s = k.wait := henters
      cases hadv with
      | connecting _ hcip =>
        cases k with
        | sockConnect => exact h ((r.devTick_connectInProgress env.frames).symm.trans hcip)
        | _ => exact absurd henters (by decide)
      | _ => cases k <;> exact absurd henters (by decide)
    | reset => exact absurd henters k.cooldown_ne_wait
    | create hs hsock =>
      have henters : State.awaitSocketId = k.wait := henters
      cases k with
      | sockCreate => exact ⟨env, if_pos ((r.devTick_mState env.frames).symm.trans hs), hsock⟩
      | _ => exact absurd henters (by decide)
    | createFailed _ _ => exact absurd henters k.cooldown_ne_wait

theorem call_accepted (h : r.ConnectLogged) (c : Call) (htaken : r.ReadApnTaken c) (k : Command)
    (hne : r.mState ≠ k.wait) (henters : (r.call c).mState = k.wait) : k.Accepted r c := by
  rcases r.call_cases c with ⟨env, rfl⟩ | hstep
  · exact poll_accepted h htaken k hne henters
  · generalize r.call c = r' at hstep henters
    cases hstep with
    | started => exact absurd henters k.start_ne_wait
    | reset => exact absurd henters k.cooldown_ne_wait
    | connecting _ => exact absurd henters hne
    | @sent _ _ env hconn hsend =>
      have henters : State.sending = k.wait := henters
      cases k with
      | sockSend => exact ⟨env, if_pos hconn, hsend⟩
      | _ => exact absurd henters (by decide)
    | kept _ => exact absurd henters hne

/-! ## Refused commands -/

/-- Without a socket handle, `BEGIN_CREATE_SOCKET` resets the socket. -/
theorem poll_createFailed (hs : r.mState = .beginCreateSocket) (hneg : env.sockCreate < 0) :
    (r.poll env).mState = .socketCooldownPeriod := by
  have hticked : (r.devTick env.frames).mState = .beginCreateSocket := by
    rw [devTick_mState, hs]
  rw [poll_main (by rw [hs]; decide)]
  simp only [mainStep, hticked]
  unfold sendSocketCreate
  rw [if_pos hneg]
  rfl

/-- A refused command is retried, but for `AN`. -/
theorem call_retries (c : Call) (k : Command) (hk : k ≠ .readApn)
    (hissued : k.issued? r c = some env) (hfails : ¬k.Succeeds env) : k.Retries r (r.call c) := by
  cases k with
  | readApn => exact absurd rfl hk
  | sockCreate =>
    obtain ⟨rfl, hs⟩ := issuedBy_of_issued hissued
    exact Or.inr (poll_createFailed hs (Int.not_le.1 hfails))
  | sockConnect =>
    obtain rfl := issuedBy_of_issued hissued
    show (r.connect env).2.mState = _ ∧ (r.connect env).2.connectInProgress = _
    rcases r.connect_cases env with ⟨hok, _⟩ | ⟨_, heq⟩
    · exact absurd hok hfails
    · rw [heq]
      exact ⟨rfl, rfl⟩
  | sockSend =>
    obtain ⟨message, len, rfl, hs⟩ := issuedBy_of_issued hissued
    refine Or.inl ?_
    show (r.sendMessage message len env).2.mState = _
    rcases r.sendMessage_cases message len env with ⟨_, hok, _⟩ | ⟨_, _, _, heq⟩
    · exact absurd hok hfails
    · rw [heq]
      exact hs

/-! ## Runs -/

/-- A refused `AN` is waited for. -/
theorem WaitsForAccepted.readApnTaken {c : Call} (h : r.WaitsForAccepted c) :
    r.ReadApnTaken c := by
  intro env hissued
  obtain ⟨rfl, hs⟩ := issuedBy_of_issued hissued
  obtain ⟨env', hissued', hok⟩ := h.1 .readApn (by rw [hs]; decide) (poll_beginReadApn hs env)
  rw [hissued] at hissued'
  rw [Option.some.inj hissued']
  exact hok

/-- The other commands are checked. -/
theorem ReadApnTaken.waitsForAccepted {c : Call} (h : r.ReadApnTaken c)
    (hlogged : r.ConnectLogged) : r.WaitsForAccepted c := by
  refine ⟨call_accepted hlogged c h, fun k env hissued hfails => ?_⟩
  by_cases hk : k = .readApn
  · rw [hk] at hissued hfails
    exact absurd (h env hissued) hfails
  · exact call_retries c k hk hissued hfails

/-- The radio only waits for accepted commands, and retries refused ones, in exactly
the runs in which the driver takes every `AN`. -/
theorem waitsForAccepted_iff (hr : Begun r) (calls : List Call) :
    Transition.Accepted WaitsForAccepted call r calls ↔
      Transition.Accepted ReadApnTaken call r calls := by
  have hlogged : r.ConnectLogged := by
    obtain ⟨mem, apn, useTls, rfl⟩ := begun_eq hr
    exact fun hin => absurd hin Bool.false_ne_true
  exact Transition.accepted_congr ConnectLogged
    (fun r c h => ⟨fun hwaits => hwaits.readApnTaken, fun htaken => htaken.waitsForAccepted h⟩)
    (fun r c h _ => call_connectLogged h c) calls hlogged

/-- A start in which the driver takes everything. -/
theorem waitsForAccepted_connects :
    (Transition.Accepted WaitsForAccepted call sampleRadio (startupCalls ++ connectCalls) ↔
      Transition.Accepted ReadApnTaken call sampleRadio (startupCalls ++ connectCalls)) ∧
    Transition.Accepted ReadApnTaken call sampleRadio (startupCalls ++ connectCalls) :=
  ⟨waitsForAccepted_iff begun_sampleRadio _, by decide +kernel⟩

/-- The driver has no room for `AN`. -/
def refusal : Env := { cmdCreate := fun _ => -12 }

/-- The driver cannot create `AN`, and the radio waits for the answer nevertheless. -/
theorem not_waitsForAccepted :
    ¬∀ r calls, Begun r → Transition.Accepted WaitsForAccepted call r calls := by
  intro h
  have hrun := h sampleRadio (startupCalls.take 11 ++ [.poll refusal]) begun_sampleRadio
  have hs : (Transition.replay call sampleRadio (startupCalls.take 11)).mState =
      .beginReadApn := by decide +kernel
  have hsucceeds : Command.readApn.Succeeds refusal :=
    hrun.last.readApnTaken refusal (issued_readApn hs refusal)
  exact absurd hsucceeds (by decide)

end GB4XBee

end XBeeMqtt
