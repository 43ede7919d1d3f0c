import XBeeMqtt.GB4MQTT.Delivery

/-!
# The two ways to lose a request

`Keeps` is exact.  A poll that does not keep the request drops it unsent or
leaves it `Doomed` (`lost_of_not_keeps`), and a doomed request stays doomed until
a poll drops it (`Doomed.poll`) or `publish()` replaces it.
-/

namespace XBeeMqtt

open History

namespace GB4MQTT

variable {m m' : GB4MQTT} {paho : Paho} {env : Env}

/-- A request that was sent is a duplicate, or waits for its disconnect. -/
def Marked (m : GB4MQTT) : Prop :=
  m.mPublishRequest.active = true → m.mPublishRequest.duplicate = 0 →
    m.mPublishRequest.readyToSend = true ∨ m.mPublishRequest.disconnect = false →
    ¬SentSince m.radio.log

theorem Marked.of_inactive (h : m.mPublishRequest.active = false) : m.Marked :=
  fun hactive => absurd (h.symm.trans hactive) Bool.false_ne_true

theorem Marked.leaves {ack : Bool} (h : m.Marked) (hl : m.Leaves ack m') : m'.Marked := by
  have hreq := hl.request
  intro hactive hdup hready hsent
  rw [hreq] at hactive hdup hready
  exact h hactive hdup hready (hl.quiet.sentSince.1 hsent)

private theorem sentRequest_marked {req : MQTTRequest} (hready : req.readyToSend = false)
    (hactive : (sentRequest req env).active = true) (hdup : (sentRequest req env).duplicate = 0) :
    (sentRequest req env).readyToSend = false ∧ (sentRequest req env).disconnect = true := by
  unfold sentRequest at hactive hdup ⊢
  split at hdup
  · rename_i hqos
    rw [if_pos hqos] at hactive
    exact absurd hactive Bool.false_ne_true
  · rename_i hqos
    rw [if_neg hqos]
    split at hdup
    · rename_i hold
      rw [if_pos hold]
      refine ⟨hready, (Bool.not_eq_false _).mp fun hdis => ?_⟩
      rw [if_pos hdis] at hdup
      exact absurd (show (1 : UInt8) = 0 from hdup) (by decide)
    · rename_i hold
      exact absurd hdup hold

/-- A refusal is not a send. -/
theorem sentSince_publishRefused {result : GB4XBee.Return} {status : Return}
    (hstatus : status ≠ .publishSent) :
    SentSince (m.claimed.publishRefused paho result status).radio.log ↔
      SentSince m.radio.log := by
  refine sentSince_unsent [.publishRequest _ status, .sendMessage _ _ _ result] ?_ ?_
  · simp [Event.isPublished]
  · intro e he
    rcases List.mem_cons.1 he with he | he
    · rw [he]
      cases status <;> first | rfl | exact absurd rfl hstatus
    · rw [List.mem_singleton.1 he]
      rfl

theorem Marked.handled {b : Bool} (h : m.Marked) (hstep : Handled m paho env b m') :
    m'.Marked := by
  cases hactive : m.mPublishRequest.active with
  | false =>
    cases hstep with
    | idle _ => exact h
    | _ htrue => exact absurd (hactive.symm.trans htrue) Bool.false_ne_true
  | true =>
    cases hready : m.mPublishRequest.readyToSend with
    | true =>
      rcases hstep.of_ready hactive hready with
        ⟨_, heq⟩ | ⟨_, heq⟩ | ⟨_, _, result, status, hstatus, heq⟩
      · rw [heq]
        exact .of_inactive rfl
      · rw [heq]
        intro hactive' hdup' hready'
        obtain ⟨hready'', hdis⟩ := sentRequest_marked rfl hactive' hdup'
        rcases hready' with htrue | hfalse
        · exact absurd (hready''.symm.trans htrue) Bool.false_ne_true
        · exact absurd (hfalse.symm.trans hdis) Bool.false_ne_true
      · rw [heq]
        intro _ hdup _ hsent
        exact h hactive hdup (Or.inl hready) ((sentSince_publishRefused hstatus).1 hsent)
    | false =>
      obtain ⟨hquiet, hcases⟩ := hstep.of_waiting hactive hready
      rcases hcases with ⟨hreq, _⟩ | hreq | ⟨_, hdis, start, hreq⟩
      · exact .of_inactive (by rw [hreq])
      · exact h.leaves (.of_quiet hreq hquiet)
      · intro _ hdup _ hsent
        rw [hreq] at hdup
        exact h hactive hdup (Or.inr hdis) (hquiet.sentSince.1 hsent)

theorem Marked.poll (h : m.Marked) (paho : Paho) (env : Env) : (m.poll paho env).2.Marked := by
  have hstep := m.poll_requestStep paho env
  generalize (m.poll paho env).2 = m' at hstep ⊢
  cases hstep with
  | left _ hl => exact h.leaves hl
  | listened _ _ hl => exact h.leaves hl
  | handled _ _ hl _ hhandled hafter => exact ((h.leaves hl).handled hhandled).leaves hafter

theorem Marked.of_reach (h : (system paho).Reach m) : m.Marked := by
  refine h.invariant Marked (fun m hbegun => ?_) (fun m c m' _ hmarked hstep => ?_)
  · obtain ⟨mem, args, rfl⟩ := Begun.eq hbegun
    exact .of_inactive rfl
  · obtain ⟨_, rfl⟩ := hstep
    cases c with
    | publish topic topicLen message messageLen qos disconnect now =>
      intro _ _ _ hsent
      unfold SentSince at hsent
      rw [show (call paho m (.publish topic topicLen message messageLen qos disconnect
        now)).radio.log = .published _ :: m.radio.log from rfl, since_cons_mark rfl] at hsent
      exact absurd hsent (by decide)
    | poll env => exact hmarked.poll paho env
    | _ => exact hmarked

/-! ## Doomed requests -/

/-- The request was not sent, and no send of it will be tried again. -/
structure Doomed (m : GB4MQTT) : Prop where
  active : m.mPublishRequest.active = true
  waits : m.mPublishRequest.readyToSend = false
  unsent : ¬SentSince m.radio.log
  tries : m.mPublishRequest.tries ≤ publishMaxTries
  settled : m.mPublishRequest.disconnect = true ∨ m.mPublishRequest.gotPuback = true

/-- A PUBACK dooms a request that waits unsent. -/
theorem Leaves.doomed {ack : Bool} (hl : m.Leaves ack m')
    (hactive : m.mPublishRequest.active = true) (hready : m.mPublishRequest.readyToSend = false)
    (hunsent : ¬SentSince m.radio.log) (htries : m.mPublishRequest.tries ≤ publishMaxTries)
    (hsettled : m.mPublishRequest.disconnect = true ∨
      (m.mPublishRequest.gotPuback || ack) = true) : m'.Doomed := by
  have hreq := hl.request
  refine ⟨by rw [hreq]; exact hactive, by rw [hreq]; exact hready, ?_, by rw [hreq]; exact htries,
    by rw [hreq]; exact hsettled⟩
  rw [hl.quiet.sentSince]
  exact hunsent

theorem Doomed.leaves {ack : Bool} (h : m.Doomed) (hl : m.Leaves ack m') : m'.Doomed := by
  refine hl.doomed h.active h.waits h.unsent h.tries (h.settled.imp_right fun hack => ?_)
  rw [hack, Bool.true_or]

/-- A poll can only drop a doomed request, or leave it doomed. -/
theorem Doomed.handled {d m₁ : GB4MQTT} {b ack ack' : Bool} (h : d.Doomed)
    (hbefore : m.Leaves ack d) (hstep : Handled d paho env b m₁) (hafter : m₁.Leaves ack' m') :
    m'.Doomed ∨ ¬m.Delivered m' := by
  obtain ⟨hmid, hcases⟩ := hstep.of_waiting h.active h.waits
  rcases hcases with ⟨hreq, _⟩ | hreq | ⟨hnack, hnodis, _, _⟩
  · apply Or.inr
    intro hdelivered
    have hreqd := hbefore.request
    have hreq' := hafter.request
    have hactive : m.mPublishRequest.active = true := by
      have hd := h.active
      rw [hreqd] at hd
      exact hd
    rcases hdelivered hactive (by rw [hreq', hreq]) with hsent | herror | htries
    · exact h.unsent ((hmid.trans hafter.quiet).sentSince.1 hsent)
    · have hquiet : m.Quiet m' := (hbefore.quiet.trans hmid).trans hafter.quiet
      exact absurd (hquiet.no_packetError.symm.trans herror) Bool.false_ne_true
    · rw [hreq', hreq] at htries
      exact absurd htries (UInt8.not_lt.2 h.tries)
  · exact Or.inl ((h.leaves (.of_quiet hreq hmid)).leaves hafter)
  · rcases h.settled with hdis | hack
    · exact absurd (hnodis.symm.trans hdis) Bool.false_ne_true
    · exact absurd (hnack.symm.trans hack) Bool.false_ne_true

theorem Doomed.poll (h : m.Doomed) (paho : Paho) (env : Env) :
    (m.poll paho env).2.Doomed ∨ ¬m.Delivered (m.poll paho env).2 := by
  have hstep := m.poll_requestStep paho env
  generalize (m.poll paho env).2 = m' at hstep ⊢
  cases hstep with
  | left _ hl => exact Or.inl (h.leaves hl)
  | listened _ _ hl => exact Or.inl (h.leaves hl)
  | handled _ _ hl _ hhandled hafter => exact (h.leaves hl).handled hl hhandled hafter

/-! ## Polls that lose a request -/

/-- The refusal of a request that would be disconnected or counts as
acknowledged. -/
theorem doomed_of_refused (h : m.Marked) (hge : .socketReady ≤ (m.radio.poll env).mState)
    (href : (m.pollRadio env).RefusesUnsent paho env)
    (hsettled : m.mPublishRequest.disconnect = true ∨ m.mPublishRequest.gotPuback = true ∨
      (m.pollRadio env).TakesPuback paho env) : (m.poll paho env).2.Doomed := by
  obtain ⟨hs, hactive, hready, hdup, htries, hlen, hrefuses⟩ := href
  have hstep := m.poll_requestStep paho env
  generalize (m.poll paho env).2 = m' at hstep ⊢
  cases hstep with
  | left hnot _ => exact absurd ⟨hge, Or.inr hs⟩ hnot
  | listened _ hs' _ =>
    have hs' : (m.pollRadio env).state = .awaitConnack := hs'
    rw [hs'] at hs
    exact absurd hs (by decide)
  | @handled _ d m₁ _ _ _ hl hr hhandled hafter =>
    refine Doomed.leaves ?_ hafter
    have hreq := hl.request
    have hunsent : ¬SentSince d.radio.log :=
      h.leaves hl (by rw [hreq]; exact hactive) (by rw [hreq]; exact hdup)
        (Or.inl (by rw [hreq]; exact hready))
    have hrefuses' : d.Refuses env := by
      unfold Refuses at hrefuses ⊢
      rw [hr]
      exact hrefuses
    rcases hhandled.of_ready (by rw [hreq]; exact hactive) (by rw [hreq]; exact hready) with
      ⟨hlen', _⟩ | ⟨htake, _⟩ | ⟨_, _, result, status, hstatus, heq⟩
    · rw [hl.requestToSend] at hlen'
      exact absurd hlen (Int.not_lt.2 hlen')
    · exact absurd hrefuses' htake
    · rw [heq]
      have hreq₁ : (d.claimed.publishRefused paho result status).mPublishRequest =
        { d.mPublishRequest with readyToSend := false } := rfl
      rw [hreq] at hreq₁
      refine ⟨by rw [hreq₁]; exact hactive, rfl, ?_, by rw [hreq₁]; exact htries, ?_⟩
      · rw [sentSince_publishRefused hstatus]
        exact hunsent
      · rw [hreq₁]
        rcases hsettled with hdis | hack | htake
        · exact Or.inl hdis
        · exact Or.inr (by rw [hack, Bool.true_or])
        · exact Or.inr (by rw [decide_eq_true htake, Bool.or_true])

/-- A PUBACK for a request that waits unsent. -/
theorem lost_of_waiting (h : m.Marked) (hge : .socketReady ≤ (m.radio.poll env).mState)
    (hwait : (m.pollRadio env).WaitsUnsent) (htake : (m.pollRadio env).TakesPuback paho env) :
    (m.poll paho env).2.Doomed ∨ ¬m.Delivered (m.poll paho env).2 := by
  obtain ⟨hlistens, hactive, hready, hdup, htries, hdis⟩ := hwait
  have hunsent : ¬SentSince m.radio.log := h hactive hdup (Or.inr hdis)
  have hsettled : (m.mPublishRequest.gotPuback ||
      decide ((m.pollRadio env).TakesPuback paho env)) = true := by
    rw [decide_eq_true htake, Bool.or_true]
  have hstep := m.poll_requestStep paho env
  generalize (m.poll paho env).2 = m' at hstep ⊢
  cases hstep with
  | left hnot _ => exact absurd ⟨hge, hlistens⟩ hnot
  | listened _ _ hl => exact Or.inl (hl.doomed hactive hready hunsent htries (Or.inr hsettled))
  | handled _ _ hl _ hhandled hafter =>
    exact (hl.doomed hactive hready hunsent htries (Or.inr hsettled)).handled hl hhandled hafter

/-- In every run, a poll that does not keep the request dooms or drops it. -/
theorem lost_of_not_keeps (h : (system paho).Reach m) (hk : ¬KeepsRequest paho m (.poll env)) :
    (m.poll paho env).2.Doomed ∨ ¬m.Delivered (m.poll paho env).2 := by
  have hmarked := Marked.of_reach h
  obtain ⟨hge, hkeeps⟩ := Classical.not_imp.1 hk
  by_cases hwait : (m.pollRadio env).WaitsUnsent ∧ (m.pollRadio env).TakesPuback paho env
  · exact lost_of_waiting hmarked hge hwait.1 hwait.2
  by_cases href : (m.pollRadio env).RefusesUnsent paho env
  · refine Or.inl (doomed_of_refused hmarked hge href ?_)
    apply Decidable.byContradiction
    intro hsettled
    refine hkeeps ⟨fun _ => ⟨?_, ?_, fun htake => hsettled (Or.inr (Or.inr htake))⟩,
      fun hw htake => hwait ⟨hw, htake⟩⟩
    · exact (Bool.not_eq_true _).mp fun hdis => hsettled (Or.inl hdis)
    · exact (Bool.not_eq_true _).mp fun hack => hsettled (Or.inr (Or.inl hack))
  · exact absurd ⟨fun hr => absurd hr href, fun hw htake => hwait ⟨hw, htake⟩⟩ hkeeps

end GB4MQTT

end XBeeMqtt
