import XBeeMqtt.GB4XBee.Runs

/-!
# Reading a command response

Three states of the startup wait for `OK`.  `pollResponseOK` reads into a buffer
of seven bytes, but it reads as many bytes as are available.

* `AwaitsResponse.reads` says what one of these polls does with the port.
* `boundedResponse_iff`: it keeps to the buffer exactly when no more than seven
  bytes are available; everything else about it is as it should be.
-/

namespace XBeeMqtt

/-- The bytes that an event takes from the serial port. -/
def Event.serialBytes : Event → List UInt8
  | .serialRead bytes => bytes
  | _ => []

namespace GB4XBee

variable {r r' : GB4XBee} {env : Env} {next : State}

/-- The size of `ok_buffer`. -/
def okBufferSize : Nat := 7

/-- The events that a call adds to the history. -/
def added (r r' : GB4XBee) : List Event := r'.log.take (r'.log.length - r.log.length)

theorem added_eq (new : List Event) (h : r'.log = new ++ r.log) : r.added r' = new := by
  unfold added
  rw [h, List.length_append, Nat.add_sub_cancel, List.take_left' rfl]

/-- The bytes that a call takes from the serial port. -/
def serialBytes (r r' : GB4XBee) : List UInt8 := (r.added r').flatMap Event.serialBytes

theorem AwaitsResponse.poll (h : r.AwaitsResponse) (env : Env) :
    ∃ next, next ≠ r.mState ∧ r.poll env = r.awaitResponseOK env next := by
  have hlow : r.mState < .socketCooldownPeriod := by
    rcases h with hs | hs | hs <;> rw [hs] <;> decide
  rw [poll_startup hlow]
  rcases h with hs | hs | hs
  · exact ⟨.beginApiModeCommand, by rw [hs]; decide, by simp only [startupStep, hs]⟩
  · exact ⟨.beginCommandModeExit, by rw [hs]; decide, by simp only [startupStep, hs]⟩
  · exact ⟨.beginInitXBeeApi, by rw [hs]; decide, by simp only [startupStep, hs]⟩

/-- What reading a response should do, in a poll: it keeps to the buffer, answers
`COMMAND_OK` for `OK` only, and leaves a response that is not complete alone. -/
structure BoundedResponse (r : GB4XBee) (env : Env) : Prop where
  stored : (r.serialBytes (r.poll env)).length ≤ okBufferSize
  ok : (r.pollResponseOK env).1 = .commandOk ↔
    3 ≤ env.serial.length ∧ (r.serialBytes (r.poll env)).take 2 = okBytes
  /-- The poll goes on exactly with `COMMAND_OK`. -/
  goesOn : (r.poll env).mState ≠ r.mState ↔ (r.pollResponseOK env).1 = .commandOk
  few : env.serial.length < 3 → r.serialBytes (r.poll env) = []

/-- Fewer than three bytes stay where they are, and more are all read. -/
theorem AwaitsResponse.reads (h : r.AwaitsResponse) (env : Env) :
    env.serial.length < 3 ∧ (r.pollResponseOK env).1 ≠ .commandOk ∧ r.poll env = r ∨
    3 ≤ env.serial.length ∧ r.serialBytes (r.poll env) = env.serial ∧
      ((r.pollResponseOK env).1 = .commandOk ↔ env.serial.take 2 = okBytes) ∧
      ((r.poll env).mState ≠ r.mState ↔ (r.pollResponseOK env).1 = .commandOk) := by
  obtain ⟨next, hnext, hpoll⟩ := h.poll env
  have hread : ∀ s, r.serialBytes { r.record (.serialRead env.serial) with mState := s } =
      env.serial := by
    intro s
    unfold serialBytes
    rw [added_eq [.serialRead env.serial] rfl]
    exact List.append_nil env.serial
  rw [hpoll]
  rcases r.awaitResponseOK_cases env next with
    ⟨hfew, hstatus, heq⟩ | ⟨hmany, hnot, hstatus, heq⟩ | ⟨hmany, hok, hstatus, heq⟩
  · exact Or.inl ⟨hfew, hstatus, heq⟩
  · rw [heq]
    refine Or.inr ⟨hmany, hread r.mState, ?_, ?_⟩
    · exact ⟨fun hgot => absurd hgot hstatus, fun hgot => absurd hgot hnot⟩
    · exact ⟨fun hmoved => absurd rfl hmoved, fun hgot => absurd hgot hstatus⟩
  · rw [heq]
    exact Or.inr ⟨hmany, hread next, ⟨fun _ => hok, fun _ => hstatus⟩,
      ⟨fun _ => hstatus, fun _ => hnext⟩⟩

/-- A response is read as it should be exactly when no more than seven bytes are
available. -/
theorem boundedResponse_iff (h : r.AwaitsResponse) :
    r.BoundedResponse env ↔ env.serial.length ≤ okBufferSize := by
  have hsize : okBufferSize = 7 := rfl
  rcases h.reads env with ⟨hfew, hstatus, hpoll⟩ | ⟨hmany, hbytes, hok, hmoved⟩
  · have hnone : r.serialBytes (r.poll env) = [] := by
      unfold serialBytes
      rw [hpoll, added_eq [] rfl]
      rfl
    refine ⟨fun _ => by omega, fun _ => ⟨?_, ?_, ?_, fun _ => hnone⟩⟩
    · rw [hnone]
      exact Nat.zero_le okBufferSize
    · exact ⟨fun hgot => absurd hgot hstatus, fun hgot => absurd hfew (Nat.not_lt.2 hgot.1)⟩
    · exact ⟨fun hmoved => absurd (by rw [hpoll]) hmoved, fun hgot => absurd hgot hstatus⟩
  · constructor
    · intro hbounded
      rw [← hbytes]
      exact hbounded.stored
    · intro hle
      refine ⟨?_, ?_, hmoved, fun hfew => ?_⟩
      · rw [hbytes]
        exact hle
      · rw [hbytes, hok]
        exact ⟨fun heq => ⟨hmany, heq⟩, fun hgot => hgot.2⟩
      · exact absurd hfew (Nat.not_lt.2 hmany)

/-- The answer to the escape sequence, on its own. -/
theorem boundedResponse_ok :
    (afterCalls (startupCalls.take 4)).AwaitsResponse ∧
      (afterCalls (startupCalls.take 4)).BoundedResponse { serial := [0x4F, 0x4B, 0x0D] } :=
  have h : (afterCalls (startupCalls.take 4)).AwaitsResponse := by decide +kernel
  ⟨h, (boundedResponse_iff h).2 (by decide)⟩

/-- Three answers are available at once, and nine bytes go into the buffer. -/
theorem not_boundedResponse :
    ¬∀ r env, system.Reach r → r.AwaitsResponse → r.BoundedResponse env := by
  intro h
  let answers : Env := { serial := [0x4F, 0x4B, 0x0D, 0x4F, 0x4B, 0x0D, 0x4F, 0x4B, 0x0D] }
  have hbounded := h (afterCalls (startupCalls.take 4)) answers (reach_afterCalls _)
    (by decide +kernel)
  exact absurd hbounded.stored (by decide +kernel)

end GB4XBee

end XBeeMqtt
