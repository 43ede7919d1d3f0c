import XBeeMqtt.GB4XBee.Response
import XBeeMqtt.Lib.History
import XBeeMqtt.Lib.Timers

/-!
# The order of the startup

What is seen of the startup from outside are its `Milestone`s: the commands that
it writes, and the answers that let it go on.

* `StartupMove.progress`: a poll shows the next of `startupMilestones` and moves on
  behind it, or it shows nothing.
* `Guarded`: before the escape sequence and after it, nothing is written for the
  guard time.

`StartupInv` ties both to the polls that were made so far, the newest first, and
`StartupInv.poll` is its step.
-/

namespace XBeeMqtt

/-- What the startup is seen to do. -/
inductive Milestone where
  | wrote (bytes : List UInt8)
  /-- A response that starts with `OK` was read. -/
  | readOk
  /-- The device query reported success. -/
  | queried
  | apnReceived
  deriving DecidableEq, Repr

def Event.milestone? : Event → Option Milestone
  | .serialWrite bytes _ => some (.wrote bytes)
  | .serialRead bytes => if bytes.take 2 = GB4XBee.okBytes then some .readOk else none
  | .initStatus status => if status = 0 then some .queried else none
  | .apnResponse _ => some .apnReceived
  | _ => none

/-- What a poll with these events shows; the same thing twice counts once. -/
def milestones (events : List Event) : List Milestone :=
  (events.filterMap Event.milestone?).eraseDups

def Frame.isApn : Frame → Bool
  | .apn _ => true
  | _ => false

/-- A tick shows the answers to `AN`. -/
theorem filterMap_tickEvents (frames : List Frame) :
    (tickEvents frames).filterMap Event.milestone? =
      List.replicate (frames.countP Frame.isApn) .apnReceived := by
  induction frames with
  | nil => rfl
  | cons frame frames ih =>
    rw [tickEvents_cons, List.filterMap_append, ih, List.countP_cons]
    cases frame with
    | apn value => exact List.replicate_succ'.symm
    | _ => exact List.append_nil _

theorem milestones_tickEvents_of_none {frames : List Frame}
    (h : frames.any Frame.isApn = false) : milestones (tickEvents frames) = [] := by
  unfold milestones
  rw [filterMap_tickEvents, List.countP_eq_zero.2 (List.any_eq_false.1 h)]
  rfl

theorem milestones_tickEvents_of_some {frames : List Frame}
    (h : frames.any Frame.isApn = true) : milestones (tickEvents frames) = [.apnReceived] := by
  have hcount : frames.countP Frame.isApn ≠ 0 := by
    intro hzero
    have hnone := List.any_eq_false.2 (List.countP_eq_zero.1 hzero)
    exact absurd (hnone.symm.trans h) Bool.false_ne_true
  obtain ⟨n, hn⟩ := Nat.exists_eq_succ_of_ne_zero hcount
  unfold milestones
  rw [filterMap_tickEvents, hn, List.replicate_succ, List.eraseDups_cons, List.filter_replicate,
    if_neg (by decide), List.eraseDups_nil]

/-- The first milestone after a tick without an answer to `AN`. -/
theorem milestones_cons {frames : List Frame} (h : frames.any Frame.isApn = false) (e : Event) :
    milestones (e :: tickEvents frames) = e.milestone?.toList := by
  have hnone : (tickEvents frames).filterMap Event.milestone? = [] := by
    rw [filterMap_tickEvents, List.countP_eq_zero.2 (List.any_eq_false.1 h)]
    rfl
  unfold milestones
  cases he : e.milestone? with
  | none => rw [List.filterMap_cons_none he, hnone]; rfl
  | some a => rw [List.filterMap_cons_some he, hnone]; rfl

namespace GB4XBee

variable {r r' : GB4XBee} {env : Env}

theorem devTick_gotAccessPointName (r : GB4XBee) (frames : List Frame) :
    (r.devTick frames).gotAccessPointName =
      (r.gotAccessPointName || frames.any Frame.isApn) := by
  induction frames generalizing r with
  | nil => exact (Bool.or_false _).symm
  | cons frame frames ih =>
    rw [List.any_cons, ← Bool.or_assoc]
    refine (ih (r.dispatch frame)).trans (congrArg (· || _) ?_)
    cases frame with
    | notify sockid frameType message => exact (Bool.or_false _).symm
    | receive sock payload => exact (Bool.or_false _).symm
    | apn value =>
      unfold dispatch verifyAccessPointName record
      dsimp only
      split <;> exact (Bool.or_true _).symm

/-! ## One milestone after the other -/

/-- The milestones of the startup, in their order. -/
def startupMilestones : List Milestone :=
  [.wrote escapeSequence, .readOk, .wrote apiModeCommand, .readOk, .wrote commandModeExit,
    .readOk, .queried, .apnReceived]

/-- How many of them lie before a state. -/
def milestonesBefore : State → Nat
  | .start | .awaitCommandModeGuard0 | .beginCommandMode => 0
  | .awaitCommandModeGuard1 | .awaitCommandModeResponse => 1
  | .beginApiModeCommand => 2
  | .awaitApiModeResponse => 3
  | .beginCommandModeExit => 4
  | .awaitCommandModeExitResponse => 5
  | .beginInitXBeeApi | .awaitInitXBeeApiDone => 6
  | .beginReadApn | .awaitReadApnResponse => 7
  | _ => 8

/-- A poll shows nothing and stays between the same milestones, or it shows the next
one. -/
inductive Progress (r r' : GB4XBee) : Prop where
  | silent : milestones (r.added r') = [] →
      milestonesBefore r'.mState = milestonesBefore r.mState → Progress r r'
  | shows {a : Milestone} : startupMilestones[milestonesBefore r.mState]? = some a →
      milestones (r.added r') = [a] →
      milestonesBefore r'.mState = milestonesBefore r.mState + 1 → Progress r r'

private theorem Progress.of_silent (new : List Event) (hlog : r'.log = new ++ r.log)
    (hnew : milestones new = [])
    (hs : milestonesBefore r'.mState = milestonesBefore r.mState) : Progress r r' :=
  .silent (by rw [added_eq new hlog, hnew]) hs

private theorem Progress.quiet (hlog : r'.log = r.log)
    (hs : milestonesBefore r'.mState = milestonesBefore r.mState) : Progress r r' :=
  .of_silent [] hlog rfl hs

private theorem Progress.of_shows {a : Milestone} (new : List Event)
    (hlog : r'.log = new ++ r.log)
    (hthere : startupMilestones[milestonesBefore r.mState]? = some a)
    (hnew : milestones new = [a])
    (hs : milestonesBefore r'.mState = milestonesBefore r.mState + 1) : Progress r r' :=
  .shows hthere (by rw [added_eq new hlog, hnew]) hs

theorem responseNext?_milestones {s s' : State} (h : responseNext? s = some s') :
    startupMilestones[milestonesBefore s]? = some .readOk ∧
      milestonesBefore s' = milestonesBefore s + 1 := by
  cases s <;> simp only [responseNext?, Option.some.injEq, reduceCtorEq] at h <;> subst h <;>
    exact ⟨rfl, rfl⟩

theorem command?_milestones {s s' : State} {bytes : List UInt8}
    (h : command? s = some (bytes, s')) :
    startupMilestones[milestonesBefore s]? = some (.wrote bytes) ∧
      milestonesBefore s' = milestonesBefore s + 1 := by
  cases s <;> simp only [command?, Option.some.injEq, Prod.mk.injEq, reduceCtorEq] at h <;>
    obtain ⟨rfl, rfl⟩ := h <;> exact ⟨rfl, rfl⟩

/-- Answers to `AN` only come in when it was sent in an earlier poll. -/
def AsksApnFirst (r : GB4XBee) (env : Env) : Prop :=
  env.frames.any Frame.isApn = true → .beginReadApn < r.mState

instance (r : GB4XBee) (env : Env) : Decidable (r.AsksApnFirst env) :=
  inferInstanceAs (Decidable (_ → _))

theorem AsksApnFirst.none (h : r.AsksApnFirst env) (hle : r.mState ≤ .beginReadApn) :
    env.frames.any Frame.isApn = false := by
  apply Decidable.byContradiction
  intro hne
  exact absurd (h ((Bool.not_eq_false _).mp hne)) (Nat.not_lt.2 hle)

/-- Up to `AWAIT_READ_APN_RESPONSE` no answer has come in. -/
def ApnPending (r : GB4XBee) : Prop :=
  r.mState ≤ .awaitReadApnResponse → r.gotAccessPointName = false

theorem StartupMove.progress (h : StartupMove r env r') (hpending : r.ApnPending)
    (hasks : r.AsksApnFirst env) : Progress r r' := by
  have htick := r.devTick_log env.frames
  have hsend : ∀ k, (commandEvents env k).filterMap Event.milestone? = [] := by
    intro k
    rw [List.filterMap_eq_nil_iff]
    intro e he
    rw [eq_of_mem_commandEvents he]
    rfl
  have hinit : Event.initStatus env.queryStatus :: (r.devTick env.frames).log =
      (.initStatus env.queryStatus :: tickEvents env.frames) ++ r.log :=
    congrArg (Event.initStatus env.queryStatus :: ·) htick
  cases h with
  | waits => exact .quiet rfl rfl
  | started hs => exact .quiet rfl (by rw [hs]; rfl)
  | guarded hs _ => exact .quiet rfl (by rw [hs]; rfl)
  | escaped hs =>
    exact @Progress.of_shows _ _ (.wrote escapeSequence)
      [.serialWrite escapeSequence (env.millis .responseStart)] rfl (by rw [hs]; rfl) rfl
      (by rw [hs]; rfl)
  | guardedAgain hs _ => exact .quiet rfl (by rw [hs]; rfl)
  | ignored _ hnot =>
    exact .of_silent [.serialRead env.serial] rfl (by simp [milestones, Event.milestone?, hnot])
      rfl
  | answered hnext hok =>
    obtain ⟨hthere, hbefore⟩ := responseNext?_milestones hnext
    exact .of_shows [.serialRead env.serial] rfl hthere
      (by simp [milestones, Event.milestone?, hok, List.eraseDups_cons]) hbefore
  | @commanded bytes s hnext =>
    obtain ⟨hthere, hbefore⟩ := command?_milestones hnext
    exact .of_shows [.serialWrite bytes (env.millis .responseStart)] rfl hthere rfl hbefore
  | initStarted hs => exact .of_silent [.initDevice] rfl rfl (by rw [hs]; rfl)
  | queryFailed hs hne =>
    refine .of_silent (.initStatus env.queryStatus :: tickEvents env.frames) hinit ?_
      (congrArg milestonesBefore (r.devTick_mState env.frames))
    rw [milestones_cons (hasks.none (by rw [hs]; decide))]
    simp [Event.milestone?, hne]
  | queried hs hdone =>
    refine @Progress.of_shows _ _ .queried (.initStatus env.queryStatus :: tickEvents env.frames)
      hinit (by rw [hs]; rfl) ?_ (by rw [hs]; rfl)
    rw [milestones_cons (hasks.none (by rw [hs]; decide))]
    simp [Event.milestone?, hdone]
  | apnAsked hs =>
    refine .of_silent (commandEvents env .readApn) rfl ?_ (by rw [hs]; rfl)
    unfold milestones
    rw [hsend]
    rfl
  | apnWaits hs hgot =>
    rw [devTick_gotAccessPointName, Bool.or_eq_false_iff] at hgot
    exact .of_silent (tickEvents env.frames) htick (milestones_tickEvents_of_none hgot.2)
      (congrArg milestonesBefore (r.devTick_mState env.frames))
  | apnReceived hs hgot hnext =>
    have hfirst : r.gotAccessPointName = false := hpending (by rw [hs]; decide)
    rw [devTick_gotAccessPointName, hfirst, Bool.false_or] at hgot
    refine @Progress.of_shows _ _ .apnReceived (tickEvents env.frames) htick (by rw [hs]; rfl)
      (milestones_tickEvents_of_some hgot) ?_
    rw [hs]
    rcases hnext with rfl | rfl <;> rfl
  | apnSet hs =>
    refine .of_silent (commandEvents env .writeChanges ++ commandEvents env .setApn) rfl ?_
      (by rw [hs]; rfl)
    unfold milestones
    rw [List.filterMap_append, hsend, hsend]
    rfl

theorem forward_of_mem_startupNext {s s' : State} (h : s' ∈ startupNext s) : s ≤ s' := by
  cases s <;> simp only [startupNext, List.mem_cons, List.not_mem_nil, or_false] at h
  case awaitReadApnResponse => rcases h with rfl | rfl <;> decide
  all_goals
    rw [h]
    decide

/-- The startup does not go back. -/
theorem startupStep_le (r : GB4XBee) (env : Env) : r.mState ≤ (r.startupStep env).mState := by
  have hwrites := r.startupStep_writes env
  generalize r.startupStep env = r' at hwrites ⊢
  cases hwrites with
  | @mk _ s _ _ _ _ hs _ =>
    show r.mState ≤ s
    rcases hs with rfl | hs
    · exact Nat.le_refl _
    · exact forward_of_mem_startupNext hs

/-- The flag stays clear up to the answer. -/
theorem StartupMove.apnPending (h : StartupMove r env r') (hforward : r.mState ≤ r'.mState)
    (hpending : r.ApnPending) (hasks : r.AsksApnFirst env) : r'.ApnPending := by
  intro hle
  have hfirst : r.gotAccessPointName = false := hpending (Nat.le_trans hforward hle)
  have hticked : r.mState ≤ .beginReadApn →
      (r.devTick env.frames).gotAccessPointName = false := by
    intro hlow
    rw [devTick_gotAccessPointName, hfirst, hasks.none hlow]
    rfl
  cases h with
  | queryFailed hs _ => exact hticked (by rw [hs]; decide)
  | queried hs _ => exact hticked (by rw [hs]; decide)
  | apnWaits _ hgot => exact hgot
  | @apnReceived s _ _ hnext =>
    have hle : s ≤ .awaitReadApnResponse := hle
    rcases hnext with rfl | rfl <;> exact absurd hle (by decide)
  | _ => exact hfirst

/-! ## The guard time -/

private theorem lt_of_responseNext? {s s' : State} (h : responseNext? s = some s') :
    .awaitCommandModeGuard1 < s := by
  cases s <;> simp only [responseNext?, reduceCtorEq] at h <;> decide

private theorem lt_of_command? {s : State} {next : List UInt8 × State}
    (h : command? s = some next) : .awaitCommandModeGuard1 < s := by
  cases s <;> simp only [command?, reduceCtorEq] at h <;> decide

/-- A poll, with the state that it found and the events that it left. -/
structure Poll where
  state : State
  env : Env
  events : List Event

namespace Poll

def milestones (p : Poll) : List Milestone := XBeeMqtt.milestones p.events

def Writes (p : Poll) : Prop := ∃ bytes now, .serialWrite bytes now ∈ p.events

/-- Whenever `a` started the guard and `b` looked at it, more than the guard time had
passed. -/
def GuardTime (a b : Poll) : Prop :=
  Clock.Apart commandModeGuardTime (a.env.millis .startCommandModeGuard)
    (b.env.millis .pollCommandModeGuard)

/-- A poll that shows nothing has not written. -/
theorem not_writes {p : Poll} (h : p.milestones = []) : ¬p.Writes := by
  rintro ⟨bytes, now, hmem⟩
  have hshown : Milestone.wrote bytes ∈ p.milestones :=
    List.mem_eraseDups.2 (List.mem_filterMap.2 ⟨_, hmem, rfl⟩)
  rw [h] at hshown
  exact absurd hshown List.not_mem_nil

end Poll

/-- The next poll of a radio. -/
def nextPoll (r : GB4XBee) (env : Env) : Poll :=
  { state := r.mState, env := env, events := r.added (r.poll env) }

variable {polls : List Poll}

/-- The guard time has passed after the start. -/
def GuardPassed (polls : List Poll) : Prop :=
  ∃ a b, [b, a].Sublist polls ∧ a.state = .start ∧ b.state = .awaitCommandModeGuard0 ∧
    a.GuardTime b

/-- `e` wrote the escape sequence, and there is no write in the polls before it, among
them the guard time, and in those after it. -/
structure Escape (before : List Poll) (e : Poll) (after : List Poll) : Prop where
  state : e.state = .beginCommandMode
  wrote : e.milestones = [.wrote escapeSequence]
  guarded : GuardPassed before
  quiet : ∀ p ∈ after ++ before, ¬p.Writes

/-- The escape sequence was the last write, and the guard runs since then. -/
def EscapeSent (r : GB4XBee) (polls : List Poll) : Prop :=
  ∃ after e before, polls = after ++ e :: before ∧ Escape before e after ∧
    r.guardTimeStart = (e.env.millis .startCommandModeGuard).toInt32

/-- The escape sequence was sent, and nothing for the guard time before it and after
it. -/
def EscapeGuarded (polls : List Poll) : Prop :=
  ∃ later after e before, polls = later ++ (after ++ e :: before) ∧ Escape before e after ∧
    ∃ b ∈ after, b.state = .awaitCommandModeGuard1 ∧ e.GuardTime b

theorem EscapeGuarded.cons (h : EscapeGuarded polls) (p : Poll) : EscapeGuarded (p :: polls) := by
  obtain ⟨later, after, e, before, heq, hrest⟩ := h
  exact ⟨p :: later, after, e, before, by rw [heq, List.cons_append], hrest⟩

/-- How far the guards have come. -/
structure Guarded (r : GB4XBee) (polls : List Poll) : Prop where
  started : r.mState = .awaitCommandModeGuard0 → ∃ a ∈ polls, a.state = .start ∧
    r.guardTimeStart = (a.env.millis .startCommandModeGuard).toInt32
  passed : r.mState = .beginCommandMode → GuardPassed polls
  sent : r.mState = .awaitCommandModeGuard1 → EscapeSent r polls
  done : .awaitCommandModeGuard1 < r.mState → EscapeGuarded polls

private theorem Guarded.of_done (h : EscapeGuarded polls)
    (hlt : .awaitCommandModeGuard1 < r.mState) : Guarded r polls := by
  refine ⟨fun hs => ?_, fun hs => ?_, fun hs => ?_, fun _ => h⟩
  all_goals
    rw [hs] at hlt
    exact absurd hlt (by decide)

private theorem GuardOver.guardTime {a b : Poll} (h : r.GuardOver b.env)
    (hstart : r.guardTimeStart = (a.env.millis .startCommandModeGuard).toInt32) :
    a.GuardTime b := by
  unfold GuardOver elapsed at h
  rw [hstart] at h
  exact Clock.apart_of_lt h

/-- A poll that only waits. -/
private theorem Guarded.waits {p : Poll} (h : Guarded r polls) (hp : ¬p.Writes) :
    Guarded r (p :: polls) := by
  refine ⟨fun hs => ?_, fun hs => ?_, fun hs => ?_, fun hlt => (h.done hlt).cons p⟩
  · obtain ⟨a, ha, hstart⟩ := h.started hs
    exact ⟨a, List.mem_cons_of_mem p ha, hstart⟩
  · obtain ⟨a, b, hsub, hguard⟩ := h.passed hs
    exact ⟨a, b, hsub.cons p, hguard⟩
  · obtain ⟨after, e, before, heq, hescape, hstart⟩ := h.sent hs
    refine ⟨p :: after, e, before, by rw [heq, List.cons_append], ?_, hstart⟩
    exact { hescape with quiet := List.forall_mem_cons.2 ⟨hp, hescape.quiet⟩ }

private theorem nextPoll_not_writes (hlog : (r.poll env).log = r.log) :
    ¬(r.nextPoll env).Writes :=
  Poll.not_writes (congrArg XBeeMqtt.milestones (added_eq [] hlog))

private theorem Guarded.move (h : Guarded r polls) (hstep : StartupMove r env r')
    (hpoll : r.poll env = r') (hforward : r.mState ≤ r'.mState)
    (hquiet : r.mState = .beginCommandMode → ∀ p ∈ polls, ¬p.Writes) :
    Guarded r' (r.nextPoll env :: polls) := by
  have hsilent : r'.log = r.log → ¬(r.nextPoll env).Writes := by
    intro hlog
    exact nextPoll_not_writes (by rw [hpoll, hlog])
  have hover : .awaitCommandModeGuard1 < r.mState → Guarded r' (r.nextPoll env :: polls) := by
    intro hlt
    exact .of_done ((h.done hlt).cons _) (Nat.lt_of_lt_of_le hlt hforward)
  -- up to the second guard every state has its own field; from there on only `done` is left
  cases hstep with
  | waits => exact h.waits (hsilent rfl)
  | started hs =>
    refine ⟨fun _ => ⟨_, List.mem_cons_self, hs, rfl⟩, nofun, nofun, fun hlt => ?_⟩
    exact absurd hlt (show ¬_ < State.awaitCommandModeGuard0 by decide)
  | guarded hs hguard =>
    obtain ⟨a, ha, hstate, hstart⟩ := h.started hs
    refine ⟨nofun, fun _ => ⟨a, r.nextPoll env, ?_, hstate, hs, ?_⟩, nofun, fun hlt => ?_⟩
    · exact (List.singleton_sublist.2 ha).cons_cons _
    · exact GuardOver.guardTime hguard hstart
    · exact absurd hlt (show ¬_ < State.beginCommandMode by decide)
  | escaped hs =>
    have hnew := @added_eq r (r.poll env)
      [.serialWrite escapeSequence (env.millis .responseStart)] (by rw [hpoll]; rfl)
    have hwrote : (r.nextPoll env).milestones = [.wrote escapeSequence] :=
      congrArg XBeeMqtt.milestones hnew
    refine ⟨nofun, nofun, fun _ => ⟨[], r.nextPoll env, polls, rfl, ?_, rfl⟩, fun hlt => ?_⟩
    · exact ⟨hs, hwrote, h.passed hs, hquiet hs⟩
    · exact absurd hlt (show ¬_ < State.awaitCommandModeGuard1 by decide)
  | guardedAgain hs hguard =>
    obtain ⟨after, e, before, heq, hescape, hstart⟩ := h.sent hs
    have hstill : Escape before e (r.nextPoll env :: after) :=
      { hescape with quiet := List.forall_mem_cons.2 ⟨hsilent rfl, hescape.quiet⟩ }
    refine .of_done ⟨[], r.nextPoll env :: after, e, before, by rw [heq]; rfl, hstill,
      r.nextPoll env, List.mem_cons_self, hs, GuardOver.guardTime hguard hstart⟩ ?_
    show _ < State.awaitCommandModeResponse
    decide
  | ignored hawaits _ => exact hover (by rcases hawaits with hs | hs | hs <;> rw [hs] <;> decide)
  | answered hnext _ => exact hover (lt_of_responseNext? hnext)
  | commanded hnext => exact hover (lt_of_command? hnext)
  | initStarted hs => exact hover (by rw [hs]; decide)
  | queryFailed hs _ => exact hover (by rw [hs]; decide)
  | queried hs _ => exact hover (by rw [hs]; decide)
  | apnAsked hs => exact hover (by rw [hs]; decide)
  | apnWaits hs _ => exact hover (by rw [hs]; decide)
  | apnReceived hs _ _ => exact hover (by rw [hs]; decide)
  | apnSet hs => exact hover (by rw [hs]; decide)

/-- What is known about a radio that was begun and the polls of its startup. -/
structure StartupInv (r : GB4XBee) (polls : List Poll) : Prop where
  shown : History.shown Poll.milestones polls =
    (startupMilestones.take (milestonesBefore r.mState)).map fun a => [a]
  apnPending : r.ApnPending
  guarded : Guarded r polls

/-- Other fields of the radio do not matter. -/
theorem StartupInv.congr (h : StartupInv r polls) (hs : r'.mState = r.mState)
    (hgot : r'.gotAccessPointName = r.gotAccessPointName)
    (hstart : r'.guardTimeStart = r.guardTimeStart) : StartupInv r' polls := by
  obtain ⟨hshown, hpending, hguarded⟩ := h
  refine ⟨by rw [hs]; exact hshown, ?_, ?_⟩
  · unfold ApnPending
    rw [hs, hgot]
    exact hpending
  · constructor <;> rw [hs]
    · rw [hstart]
      exact hguarded.started
    · exact hguarded.passed
    · unfold EscapeSent
      rw [hstart]
      exact hguarded.sent
    · exact hguarded.done

/-- Up to the escape sequence nothing is written. -/
private theorem StartupInv.quiet (h : StartupInv r polls) (hs : r.mState = .beginCommandMode) :
    ∀ p ∈ polls, ¬p.Writes := by
  intro p hp
  have hshown := h.shown
  rw [hs] at hshown
  exact Poll.not_writes (History.eq_nil_of_shown hshown hp)

theorem StartupInv.poll (h : StartupInv r polls) (hlow : r.mState < .socketCooldownPeriod)
    (hasks : r.AsksApnFirst env) : StartupInv (r.poll env) (r.nextPoll env :: polls) := by
  have hmove := r.startupStep_move env
  have hforward := r.startupStep_le env
  rw [← poll_startup hlow] at hmove hforward
  refine ⟨?_, hmove.apnPending hforward h.apnPending hasks,
    h.guarded.move hmove rfl hforward h.quiet⟩
  cases hmove.progress h.apnPending hasks with
  | silent hnew hsame =>
    rw [hsame, ← h.shown]
    exact History.shown_cons_nil polls hnew
  | shows hthere hnew hnext =>
    rw [hnext]
    exact History.shown_next h.shown hthere hnew

/-! ## After the startup -/

/-- The startup went in order: every milestone in a poll of its own, one after the
other, and the escape sequence between its guard times. -/
structure StartedInOrder (polls : List Poll) : Prop where
  shown : History.shown Poll.milestones polls = startupMilestones.map fun a => [a]
  escape : EscapeGuarded polls

theorem StartupInv.started (h : StartupInv r polls) (hover : .socketCooldownPeriod ≤ r.mState) :
    StartedInOrder polls := by
  refine ⟨?_, h.guarded.done (Nat.lt_of_lt_of_le (by decide) hover)⟩
  have hall : milestonesBefore r.mState = 8 := by
    cases hs : r.mState <;> rw [hs] at hover <;> first | rfl | exact absurd hover (by decide)
  rw [h.shown, hall]
  rfl

theorem StartupInv.begun (hs : r.mState = .start) (hgot : r.gotAccessPointName = false) :
    StartupInv r [] := by
  refine ⟨by rw [hs]; rfl, fun _ => hgot, ?_⟩
  constructor <;> rw [hs] <;> intro h <;> exact absurd h (by decide)

/-- The event is no milestone, or another answer to `AN`. -/
def AfterStartup (e : Event) : Prop := ∀ a, e.milestone? = some a → a = .apnReceived

theorem afterStartup_of_mem_tickEvents {frames : List Frame} {e : Event}
    (h : e ∈ tickEvents frames) : AfterStartup e := by
  intro a ha
  have hmem : a ∈ (tickEvents frames).filterMap Event.milestone? :=
    List.mem_filterMap.2 ⟨e, h, ha⟩
  rw [filterMap_tickEvents] at hmem
  exact List.eq_of_mem_replicate hmem

/-- The main machine does not go back to the startup. -/
theorem poll_main_le (h : .socketCooldownPeriod ≤ r.mState) (env : Env) :
    .socketCooldownPeriod ≤ (r.poll env).mState := by
  rcases r.poll_cases env with ⟨hlow, _⟩ | ⟨_, hstep⟩
  · exact absurd hlow (State.not_lt.2 h)
  · generalize r.poll env = r' at hstep ⊢
    cases hstep with
    | stay =>
      rw [devTick_mState]
      exact h
    | @advance s _ hadv =>
      show State.socketCooldownPeriod ≤ s
      cases hadv <;> decide
    | reset => exact Nat.le_refl _
    | create _ _ => exact show State.socketCooldownPeriod ≤ .awaitSocketId by decide
    | createFailed _ _ => exact Nat.le_refl _

theorem poll_main_log (h : .socketCooldownPeriod ≤ r.mState) (env : Env) :
    ∃ new, (r.poll env).log = new ++ r.log ∧ ∀ e ∈ new, AfterStartup e := by
  rcases r.poll_cases env with ⟨hlow, _⟩ | ⟨_, hstep⟩
  · exact absurd hlow (State.not_lt.2 h)
  · obtain ⟨events, hlog, hev⟩ := hstep.log
    refine ⟨events ++ tickEvents env.frames, ?_, fun e he => ?_⟩
    · rw [hlog, devTick_log, List.append_assoc]
    · rcases List.mem_append.1 he with he | he
      · rcases hev e he with rfl | rfl <;> exact nofun
      · exact afterStartup_of_mem_tickEvents he

end GB4XBee

end XBeeMqtt
