import XBeeMqtt.GB4XBee.Startup
import XBeeMqtt.GB4MQTT.InStep

/-!
# The startup runs in order

`Observed` keeps beside an object the polls that it has made: those of the startup,
which find the radio below `SOCKET_COOLDOWN_PERIOD`, and those after it.

`startsInOrder_of_reach`: in every run from the first successful `begin()`, the
startup shows its milestones one after the other, the radio gets out of it only with
all of them, and no later call gets back.  The driver answers `AN` only after it was
sent (`AnswersAsked`); nothing else is assumed about it.
-/

namespace XBeeMqtt

/-- The switch of a session poll shows no milestone. -/
theorem milestone?_of_ofSwitch {e : Event} (h : e.ofSwitch = true) : e.milestone? = none := by
  cases e <;> first | rfl | exact absurd h Bool.false_ne_true

namespace GB4MQTT

open GB4XBee (Poll StartupInv StartedInOrder AfterStartup startupMilestones milestonesBefore)

variable {m : GB4MQTT} {paho : Paho} {env : Env}

/-! ## One poll -/

/-- A poll that finds the radio in the startup is a poll of the radio. -/
theorem poll_startup (hlow : m.radio.mState < .socketCooldownPeriod) :
    (m.poll paho env).2.radio = m.radio.poll env := by
  rcases m.poll_cases paho env with ⟨_, heq⟩ | ⟨hhigh, _⟩
  · rw [heq]
    rfl
  · rw [GB4XBee.poll_startup hlow] at hhigh
    have hstep := (GB4XBee.startupStep_step env hlow).mState
    exact absurd (Nat.le_trans hhigh hstep) (by decide)

theorem poll_startupStep (hlow : m.radio.mState < .socketCooldownPeriod) :
    (m.poll paho env).2.radio = m.radio.startupStep env :=
  (poll_startup hlow).trans (GB4XBee.poll_startup hlow)

theorem poll_started (h : .socketCooldownPeriod ≤ m.radio.mState) :
    .socketCooldownPeriod ≤ (m.poll paho env).2.radio.mState := by
  have hradio := GB4XBee.poll_main_le h env
  rcases m.poll_cases paho env with ⟨_, heq⟩ | ⟨_, hstep⟩
  · rw [heq]
    exact hradio
  · rcases hstep.radio_mState with hs | hs | hs
    · rw [hs]
      exact hradio
    · rw [hs]
      decide
    · rw [hs]
      exact Nat.le_refl _

/-- A poll that ends in the startup has started there. -/
theorem lt_of_poll_lt (h : (m.poll paho env).2.radio.mState < .socketCooldownPeriod) :
    m.radio.mState < .socketCooldownPeriod :=
  Nat.lt_of_not_le fun hge => GB4XBee.State.not_lt.2 (poll_started hge) h

theorem poll_started_added (h : .socketCooldownPeriod ≤ m.radio.mState) :
    ∀ e ∈ m.added (m.poll paho env).2, AfterStartup e := by
  obtain ⟨old, hold, hafter⟩ := GB4XBee.poll_main_log h env
  rcases m.poll_cases paho env with ⟨_, heq⟩ | ⟨_, hstep⟩
  · rw [heq, added_eq old hold]
    exact hafter
  · obtain ⟨new, hlog, hswitch⟩ := hstep.adds.log
    have hboth : (m.poll paho env).2.radio.log = (new ++ old) ++ m.radio.log := by
      rw [hlog, List.append_assoc, ← hold]
      rfl
    rw [added_eq _ hboth]
    intro e he
    rcases List.mem_append.1 he with he | he
    · intro a ha
      rw [milestone?_of_ofSwitch (hswitch e he)] at ha
      exact absurd ha (by simp)
    · exact hafter e he

/-- No call gets back to the startup. -/
theorem call_started (h : .socketCooldownPeriod ≤ m.radio.mState) (c : Call) :
    .socketCooldownPeriod ≤ (call paho m c).radio.mState := by
  cases c with
  | poll env => exact poll_started h
  | _ => exact h

theorem replay_started (h : .socketCooldownPeriod ≤ m.radio.mState) (calls : List Call) :
    .socketCooldownPeriod ≤ (Transition.replay (call paho) m calls).radio.mState := by
  induction calls generalizing m with
  | nil => exact h
  | cons c calls ih => exact ih (call_started h c)

/-! ## Runs -/

/-- An object that was constructed, before a `begin()` succeeds and before the first
poll. -/
inductive Unbegun (paho : Paho) : GB4MQTT → Prop where
  | constructed (mem : GB4MQTT) (args : Args) : Unbegun paho (construct mem args)
  | beginFailed {m : GB4MQTT} {status : Int} : Unbegun paho m → status ≠ 0 →
      Unbegun paho (m.begin status).2
  | called {m : GB4MQTT} {c : Call} : Unbegun paho m → (∀ env, c ≠ .poll env) →
      Unbegun paho (call paho m c)

/-- An object after its first successful `begin()`. -/
def FirstBegun (paho : Paho) (m : GB4MQTT) : Prop :=
  ∃ m₀ status, Unbegun paho m₀ ∧ m₀.begin status = (true, m)

theorem begin_gotAccessPointName (m : GB4MQTT) (status : Int) :
    (m.begin status).2.radio.gotAccessPointName = m.radio.gotAccessPointName := by
  unfold begin GB4XBee.begin
  by_cases h : status = 0
  · subst h
    rfl
  · simp [h]

theorem Unbegun.gotAccessPointName (h : Unbegun paho m) :
    m.radio.gotAccessPointName = false := by
  induction h with
  | constructed mem args => rfl
  | beginFailed _ _ ih => rw [begin_gotAccessPointName, ih]
  | @called m c _ hpoll ih =>
    cases c with
    | poll env => exact absurd rfl (hpoll env)
    | _ => exact ih

theorem FirstBegun.mState (h : FirstBegun paho m) : m.radio.mState = .start := by
  obtain ⟨m₀, status, _, hbegin⟩ := h
  unfold begin GB4XBee.begin at hbegin
  dsimp only at hbegin
  split at hbegin
  · simp at hbegin
  · rw [← (Prod.mk.inj hbegin).2]

theorem FirstBegun.startupInv (h : FirstBegun paho m) : StartupInv m.radio [] := by
  refine .begun h.mState ?_
  obtain ⟨m₀, status, hunbegun, hbegin⟩ := h
  have hgot := m₀.begin_gotAccessPointName status
  rw [hbegin] at hgot
  exact hgot.trans hunbegun.gotAccessPointName

/-- The object, and the polls that it has made, the newest first. -/
structure Observed where
  m : GB4MQTT
  startup : List Poll
  later : List Poll

namespace Observed

def next (paho : Paho) (s : Observed) : Call → Observed
  | .poll env =>
    let m' := (s.m.poll paho env).2
    let p : Poll := { state := s.m.radio.mState, env := env, events := s.m.added m' }
    if s.m.radio.mState < .socketCooldownPeriod then { s with m := m', startup := p :: s.startup }
    else { s with m := m', later := p :: s.later }
  | c => { s with m := call paho s.m c }

/-- The driver answers `AN` only after it was sent. -/
def AnswersAsked (s : Observed) : Call → Prop
  | .poll env => s.m.radio.AsksApnFirst env
  | _ => True

instance (s : Observed) : DecidablePred s.AnswersAsked
  | .poll env => inferInstanceAs (Decidable (s.m.radio.AsksApnFirst env))
  | .publish .. | .setClientID _ | .setPassword _ | .setClientName _ | .setAddress _
  | .setPort _ | .startConnect => .isTrue trivial

def Begun (paho : Paho) (s : Observed) : Prop :=
  FirstBegun paho s.m ∧ s.startup = [] ∧ s.later = []

/-- Any calls after the first successful `begin()`. -/
def system (paho : Paho) : Transition.System Observed Call :=
  .ofFunction (Begun paho) AnswersAsked (next paho)

end Observed

/-- The startup runs in order. -/
structure StartsInOrder (paho : Paho) (s : Observed) : Prop where
  /-- The milestones before the present state were shown, and no others. -/
  below : s.m.radio.mState < .socketCooldownPeriod → s.later = [] ∧
    History.shown Poll.milestones s.startup =
      (startupMilestones.take (milestonesBefore s.m.radio.mState)).map fun a => [a]
  above : .socketCooldownPeriod ≤ s.m.radio.mState → StartedInOrder s.startup
  /-- Nothing of the startup is repeated. -/
  after : ∀ p ∈ s.later, ∀ e ∈ p.events, AfterStartup e
  stays : .socketCooldownPeriod ≤ s.m.radio.mState → ∀ calls,
    .socketCooldownPeriod ≤ (Transition.replay (call paho) s.m calls).radio.mState

namespace Observed

variable {s : Observed}

/-- Either the startup is on, or it went in order and is over. -/
inductive Inv (s : Observed) : Prop where
  | starting : s.m.radio.mState < .socketCooldownPeriod → StartupInv s.m.radio s.startup →
      s.later = [] → Inv s
  | started : .socketCooldownPeriod ≤ s.m.radio.mState → StartedInOrder s.startup →
      (∀ p ∈ s.later, ∀ e ∈ p.events, AfterStartup e) → Inv s

private theorem Inv.begun (h : s.Begun paho) : s.Inv := by
  obtain ⟨hbegun, hstartup, hlater⟩ := h
  have hinv : StartupInv s.m.radio s.startup := by
    rw [hstartup]
    exact hbegun.startupInv
  exact .starting (by rw [hbegun.mState]; decide) hinv hlater

private theorem Inv.poll (h : s.Inv) (hasks : s.m.radio.AsksApnFirst env) :
    (s.next paho (.poll env)).Inv := by
  unfold next
  dsimp only
  cases h with
  | starting hlow hinv hlater =>
    rw [if_pos hlow]
    have hradio : (s.m.poll paho env).2.radio = s.m.radio.poll env := poll_startup hlow
    have hadded : s.m.added (s.m.poll paho env).2 = s.m.radio.added (s.m.radio.poll env) := by
      unfold added
      rw [hradio]
      rfl
    have hpoll := hinv.poll hlow hasks
    unfold GB4XBee.nextPoll at hpoll
    rw [← hadded, ← hradio] at hpoll
    by_cases hstill : (s.m.poll paho env).2.radio.mState < .socketCooldownPeriod
    · exact .starting hstill hpoll hlater
    · have hover := GB4XBee.State.not_lt.1 hstill
      refine .started hover (hpoll.started hover) ?_
      show ∀ p ∈ s.later, _
      rw [hlater]
      exact List.forall_mem_nil _
  | started hhigh hstarted hafter =>
    rw [if_neg (GB4XBee.State.not_lt.2 hhigh)]
    exact .started (poll_started hhigh) hstarted
      (List.forall_mem_cons.2 ⟨poll_started_added hhigh, hafter⟩)

private theorem Inv.next (h : s.Inv) (c : Call) (hasks : s.AnswersAsked c) :
    (s.next paho c).Inv := by
  cases c with
  | poll env => exact h.poll hasks
  | _ =>
    cases h with
    | starting hlow hinv hlater => exact .starting hlow (hinv.congr rfl rfl rfl) hlater
    | started hhigh hstarted hafter => exact .started hhigh hstarted hafter

theorem Inv.of_reach (h : (system paho).Reach s) : s.Inv :=
  h.invariant Inv (fun _ hbegun => .begun hbegun) fun _ c _ _ hinv hstep => by
    rw [hstep.2]
    exact hinv.next c hstep.1

end Observed

/-- In every run from the first successful `begin()`, the radio gets to the main
machine through all milestones, each in a poll of its own and in their order, and
stays there. -/
theorem startsInOrder_of_reach {s : Observed} (h : (Observed.system paho).Reach s) :
    StartsInOrder paho s := by
  have hstays : .socketCooldownPeriod ≤ s.m.radio.mState → ∀ calls,
      .socketCooldownPeriod ≤ (Transition.replay (call paho) s.m calls).radio.mState :=
    replay_started
  cases Observed.Inv.of_reach h with
  | starting hlow hinv hlater =>
    refine ⟨fun _ => ⟨hlater, hinv.shown⟩, fun hhigh => ?_, ?_, hstays⟩
    · exact absurd hlow (GB4XBee.State.not_lt.2 hhigh)
    · rw [hlater]
      exact List.forall_mem_nil _
  | started hhigh hstarted hafter =>
    refine ⟨fun hlow => ?_, fun _ => hstarted, hafter, hstays⟩
    exact absurd hlow (GB4XBee.State.not_lt.2 hhigh)

/-- Polls two seconds apart through the whole startup, with the answer to `AN` in the
last one. -/
def orderedCalls : List Call := (List.range 13).map fun k =>
  .poll {
    frames := if k = 12 then [.apn sampleArgs.radioApn] else []
    millis := fun _ => 2000 * UInt32.ofNat k
    serial := [0x4F, 0x4B, 0x0D] }

@[irreducible] def orderedRun : Observed :=
  Transition.replay (Observed.next .mqtt) ⟨sampleBegun, [], []⟩ orderedCalls

theorem reach_orderedRun : (Observed.system .mqtt).Reach orderedRun := by
  have hbegun : Observed.Begun .mqtt ⟨sampleBegun, [], []⟩ :=
    ⟨⟨construct default sampleArgs, 0, .constructed default sampleArgs, rfl⟩, rfl, rfl⟩
  unfold orderedRun
  refine Transition.reach_replay orderedCalls (.init hbegun) ?_
  decide +kernel

/-- The run is in `BEGIN_CREATE_SOCKET` after thirteen polls. -/
theorem startsInOrder_orderedRun :
    orderedRun.m.radio.mState = .beginCreateSocket ∧ orderedRun.startup.length = 13 ∧
      StartsInOrder .mqtt orderedRun :=
  ⟨by decide +kernel, by decide +kernel, startsInOrder_of_reach reach_orderedRun⟩

end GB4MQTT

end XBeeMqtt
