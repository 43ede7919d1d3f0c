import XBeeMqtt.GB4XBee.Runs
import Mathlib.Data.List.TakeWhile

/-!
# The access point name

During the startup the device answers which access point name it has, and the
name is written when it is not the configured one.  `memcmp` compares as many
bytes as the answer has, so it finds no difference when the answer is a prefix of
what `access_point_name` holds.

* `storedName`: what `access_point_name` holds after the constructor.
* `Reported`: what the two flags say about the answers so far
  (`reported_replay`).
* `rewrites_iff`: for which answers the name is compared as it should.
-/

namespace XBeeMqtt

/-- The access point name that an event reports. -/
def Event.apn? : Event → Option (List UInt8)
  | .apnResponse value => some value
  | _ => none

/-- The access point names that the device has reported, the newest first. -/
def apnResponses (log : List Event) : List (List UInt8) := log.filterMap Event.apn?

theorem apnResponses_of_none {new log : List Event} (h : ∀ e ∈ new, e.apn? = none) :
    apnResponses (new ++ log) = apnResponses log := by
  have hnew : new.filterMap Event.apn? = [] := List.filterMap_eq_nil_iff.2 h
  rw [apnResponses, List.filterMap_append, hnew]
  rfl

namespace GB4XBee

variable {r : GB4XBee} {env : Env} {name : List UInt8}

/-! ## The flags -/

/-- The flags say that there was an answer, and that `memcmp` found a difference
in one of them. -/
structure Reported (name : List UInt8) (r : GB4XBee) : Prop where
  accessPointName : r.accessPointName = name
  got : r.gotAccessPointName = true ↔ apnResponses r.log ≠ []
  needSet : r.needSetAccessPointName = true ↔
    ∃ value ∈ apnResponses r.log, name.take value.length ≠ value

/-- A step without an answer. -/
theorem Reported.append {r' : GB4XBee} (h : Reported name r) (new : List Event)
    (hname : r'.accessPointName = r.accessPointName)
    (hgot : r'.gotAccessPointName = r.gotAccessPointName)
    (hneed : r'.needSetAccessPointName = r.needSetAccessPointName)
    (hlog : r'.log = new ++ r.log) (hnew : ∀ e ∈ new, e.apn? = none) : Reported name r' := by
  have hsame : apnResponses r'.log = apnResponses r.log := by
    rw [hlog, apnResponses_of_none hnew]
  refine ⟨hname.trans h.accessPointName, ?_, ?_⟩
  · rw [hgot, hsame]
    exact h.got
  · rw [hneed, hsame]
    exact h.needSet

theorem dispatch_reported (h : Reported name r) (frame : Frame) :
    Reported name (r.dispatch frame) := by
  cases frame with
  | notify sockid frameType message => exact h.append [] rfl rfl rfl rfl (by simp)
  | receive sock payload =>
    exact h.append [.received payload] rfl rfl rfl rfl (by simp [Event.apn?])
  | apn value =>
    have hname := h.accessPointName
    have hlog : apnResponses (.apnResponse value :: r.log) = value :: apnResponses r.log := rfl
    unfold dispatch verifyAccessPointName record
    dsimp only
    split
    · rename_i hdiff
      refine ⟨hname, ⟨fun _ => ?_, fun _ => rfl⟩, ⟨fun _ => ⟨value, ?_, ?_⟩, fun _ => rfl⟩⟩
      · rw [hlog]
        exact List.cons_ne_nil _ _
      · rw [hlog]
        exact List.mem_cons_self
      · rw [← hname]
        exact hdiff
    · rename_i hsame
      refine ⟨hname, ⟨fun _ => ?_, fun _ => rfl⟩, ?_⟩
      · rw [hlog]
        exact List.cons_ne_nil _ _
      · show r.needSetAccessPointName = true ↔ _
        rw [h.needSet, hlog]
        simp only [List.mem_cons, exists_eq_or_imp]
        refine ⟨Or.inr, fun hor => hor.resolve_left fun hdiff => hsame ?_⟩
        rw [hname]
        exact hdiff

theorem devTick_reported (h : Reported name r) (frames : List Frame) :
    Reported name (r.devTick frames) := by
  induction frames generalizing r with
  | nil => exact h
  | cons frame frames ih => exact ih (dispatch_reported h frame)

theorem poll_reported (h : Reported name r) (env : Env) : Reported name (r.poll env) := by
  by_cases hr : r.mState < .socketCooldownPeriod
  · rw [poll_startup hr]
    have hwrites := r.startupStep_writes env
    generalize r.startupStep env = r' at hwrites ⊢
    cases hwrites with
    | @mk frames _ _ _ _ events _ hev =>
      refine (devTick_reported h frames).append events rfl rfl rfl rfl fun e he => ?_
      have hstartup := hev e he
      cases e <;> first | rfl | exact absurd hstartup Bool.false_ne_true
  · rcases r.poll_cases env with ⟨hlow, _⟩ | ⟨_, hstep⟩
    · exact absurd hlow hr
    have htick := devTick_reported h env.frames
    generalize r.poll env = r' at hstep ⊢
    cases hstep with
    | stay => exact htick
    | advance _ => exact htick.append [] rfl rfl rfl rfl (by simp)
    | reset => exact htick.append [.resetSocket] rfl rfl rfl rfl (by simp [Event.apn?])
    | create _ _ =>
      exact htick.append [.socketCreate env.sockCreate] rfl rfl rfl rfl (by simp [Event.apn?])
    | createFailed _ _ =>
      exact htick.append [.resetSocket, .socketCreate env.sockCreate] rfl rfl rfl rfl
        (by simp [Event.apn?])

theorem call_reported (h : Reported name r) (c : Call) : Reported name (r.call c) := by
  rcases r.call_cases c with ⟨env, rfl⟩ | hstep
  · exact poll_reported h env
  · generalize r.call c = r' at hstep ⊢
    cases hstep with
    | started => exact h.append [] rfl rfl rfl rfl (by simp)
    | reset => exact h.append [.resetSocket] rfl rfl rfl rfl (by simp [Event.apn?])
    | connecting _ =>
      exact h.append [.socketConnect r.mState 0] rfl rfl rfl rfl (by simp [Event.apn?])
    | @sent message len _ _ _ =>
      exact h.append [.sendMessage .connected message len .messageSent] rfl rfl rfl rfl
        (by simp [Event.apn?])
    | @kept _ _ _ events hev =>
      refine h.append events rfl rfl rfl rfl fun e he => ?_
      have hcall := hev e he
      cases e <;> first | rfl | exact absurd hcall.symm Bool.false_ne_true

theorem reported_replay (h : Reported name r) (calls : List Call) :
    Reported name (Transition.replay call r calls) := by
  induction calls generalizing r with
  | nil => exact h
  | cons c calls ih => exact ih (call_reported h c)

/-- The poll that goes through `SET_APN`. -/
theorem poll_setApn_iff (hs : r.mState = .awaitReadApnResponse) (env : Env) :
    (r.poll env).mState = .setApn ↔
      (r.poll env).gotAccessPointName = true ∧ (r.poll env).needSetAccessPointName = true := by
  have hticked : (r.devTick env.frames).mState = .awaitReadApnResponse := by
    rw [devTick_mState, hs]
  rw [poll_startup (by rw [hs]; decide)]
  simp only [startupStep, hs]
  unfold pollAPNStatus
  cases hgot : (r.devTick env.frames).gotAccessPointName with
  | false => simp [hgot, hs]
  | true => cases hneed : (r.devTick env.frames).needSetAccessPointName <;> simp [hgot, hneed]

/-! ## What the array holds -/

/-- The bytes of `access_point_name`: the configured name, zeros, and the last
byte, which the constructor does not write. -/
def storedName (mem : GB4XBee) (apn : List UInt8) : List UInt8 :=
  apn ++ List.replicate (accessPointNameSize - 1 - apn.length) 0 ++
    (mem.accessPointName.drop (accessPointNameSize - 1)).take 1

/-- `strncpy` has room for the whole name. -/
theorem take_strncpy {mem : GB4XBee} {apn : List UInt8} (happn : 0 ∉ apn)
    (hlen : apn.length < accessPointNameSize) :
    (strncpy mem.accessPointName apn (accessPointNameSize - 1)).take accessPointNameSize =
      storedName mem apn := by
  have hnul : apn.takeWhile (· ≠ 0) = apn := by
    rw [List.takeWhile_eq_self_iff]
    intro b hb
    exact decide_eq_true fun hzero => happn (hzero ▸ hb)
  have hcopied : apn.take (accessPointNameSize - 1) = apn :=
    List.take_of_length_le (by omega)
  unfold strncpy storedName
  dsimp only
  rw [hnul, hcopied, List.take_append, List.take_of_length_le]
  · congr 2
    rw [List.length_append, List.length_replicate]
    unfold accessPointNameSize at hlen ⊢
    omega
  · rw [List.length_append, List.length_replicate]
    omega

/-! ## The comparison -/

/-- `memcmp` reads as many bytes of `access_point_name` as the answer has. -/
def ReadsInside (value : List UInt8) : Prop := value.length ≤ accessPointNameSize

instance (value : List UInt8) : Decidable (ReadsInside value) :=
  inferInstanceAs (Decidable (_ ≤ _))

/-- Inside of the array, `memcmp` finds no difference when the answer is a prefix. -/
theorem take_ne_iff {mem : GB4XBee} {apn value : List UInt8} (happn : 0 ∉ apn)
    (hlen : apn.length < accessPointNameSize) (hread : ReadsInside value) :
    (strncpy mem.accessPointName apn (accessPointNameSize - 1)).take value.length ≠ value ↔
      ¬value <+: storedName mem apn := by
  rw [← take_strncpy happn hlen, List.prefix_iff_eq_take, List.take_take,
    Nat.min_eq_left hread, ne_comm]

theorem storedName_prefix (mem : GB4XBee) (apn : List UInt8) : apn <+: storedName mem apn := by
  unfold storedName
  rw [List.append_assoc]
  exact List.prefix_append apn _

/-- Whatever was called before, the poll that has one answer compares it with the
configured name exactly when the answer fits into the array and is the name, or no
prefix of what the array holds. -/
theorem rewrites_iff {mem r₀ : GB4XBee} {apn value : List UInt8} {useTls : Bool} {status : Int}
    (happn : 0 ∉ apn) (hlen : apn.length < accessPointNameSize)
    (hbegin : (construct mem apn useTls).begin status = (true, r₀)) {calls : List Call}
    (hs : (Transition.replay call r₀ calls).mState = .awaitReadApnResponse) {env : Env}
    (hvalue : apnResponses ((Transition.replay call r₀ calls).poll env).log = [value]) :
    ReadsInside value ∧
        (((Transition.replay call r₀ calls).poll env).mState = .setApn ↔ value ≠ apn) ↔
      value.length ≤ accessPointNameSize ∧ (value ≠ apn → ¬value <+: storedName mem apn) := by
  refine and_congr_right fun hread => ?_
  have hstart : Reported (strncpy mem.accessPointName apn (accessPointNameSize - 1)) r₀ := by
    rw [eq_of_begin hbegin]
    refine ⟨rfl, ?_, ?_⟩
    · simp [construct, apnResponses]
    · simp [construct, apnResponses]
  have hreported := poll_reported (reported_replay hstart calls) env
  have hsets : ((Transition.replay call r₀ calls).poll env).mState = .setApn ↔
      ¬value <+: storedName mem apn := by
    rw [poll_setApn_iff hs env, hreported.got, hreported.needSet, hvalue,
      ← take_ne_iff happn hlen hread]
    simp
  rw [hsets]
  refine ⟨fun hiff => hiff.2, fun hdiff => ⟨fun hnot heq => hnot ?_, hdiff⟩⟩
  rw [heq]
  exact storedName_prefix mem apn

/-- Another name is rewritten. -/
theorem rewrites_other :
    let apn : List UInt8 := [0x61, 0x70, 0x6E]
    let value : List UInt8 := [0x78]
    let r := Transition.replay call sampleRadio startupCalls
    let env : Env := { frames := [.apn value] }
    (r.poll env).mState = .setApn ∧
      (ReadsInside value ∧ ((r.poll env).mState = .setApn ↔ value ≠ apn) ↔
        value.length ≤ accessPointNameSize ∧
          (value ≠ apn → ¬value <+: storedName default apn)) :=
  ⟨by decide +kernel, @rewrites_iff default sampleRadio [0x61, 0x70, 0x6E] [0x78] false 0
    (by decide) (by decide) rfl startupCalls (by decide +kernel)
    { frames := [.apn [0x78]] } (by decide +kernel)⟩

/-- The device has no name, and none is written. -/
theorem not_rewrites :
    ¬∀ (mem r₀ : GB4XBee) (apn value : List UInt8) (useTls : Bool) (status : Int), 0 ∉ apn →
      apn.length < accessPointNameSize → (construct mem apn useTls).begin status = (true, r₀) →
      ∀ calls, (Transition.replay call r₀ calls).mState = .awaitReadApnResponse →
      ∀ env, apnResponses ((Transition.replay call r₀ calls).poll env).log = [value] →
        ReadsInside value ∧
          (((Transition.replay call r₀ calls).poll env).mState = .setApn ↔ value ≠ apn) := by
  intro h
  have hempty := h default sampleRadio [0x61, 0x70, 0x6E] [] false 0 (by decide) (by decide) rfl
    startupCalls (by decide +kernel) { frames := [.apn []] } (by decide +kernel)
  have hstate : ((Transition.replay call sampleRadio startupCalls).poll
      { frames := [.apn []] }).mState ≠ .setApn := by decide +kernel
  exact hstate (hempty.2.2 (by decide))

end GB4XBee

end XBeeMqtt
