import XBeeMqtt.GB4MQTT.Dispatch
import XBeeMqtt.GB4MQTT.Stream

/-!
# What the result of a read depends on

`pollIncomming` reads a payload from `payload[]`, which it does not clear, and
`_fetch_callback` hands out as many bytes as it is asked for.  The bound that
`MQTTPacket_read` is given is compared with the remaining length only.

* `readOutcome_cut`: the received bytes decide what is read if the packet is
  rejected by what was received of its length, or if its length and its body
  were received.
* `readOutcome_ne`: else two contents of the buffer give two results.
* `independent_iff` puts this together for a payload of any length.
-/

namespace XBeeMqtt

/-- What a caller looks at: the type, and the packet if there is no error. -/
def readOutcome (read : MsgType × List UInt8) : MsgType × Option (List UInt8) :=
  (read.1, if read.1 = .other (-1) then none else some (packetContents read.2))

section Read

variable {header : UInt8} {bytes received : List UInt8} {buflen : Nat}

/-- The remaining length that the bytes behind the header give. -/
def remainingLength (bytes : List UInt8) : Nat := (VarLength.decode 4 bytes).1

theorem remainingLength_lt (bytes : List UInt8) : remainingLength bytes < 128 ^ 4 :=
  VarLength.decode_lt 4 bytes

/-- The bytes behind the remaining length that are read. -/
def bodyRead (bytes : List UInt8) : List UInt8 :=
  (bytes.drop (VarLength.decode 4 bytes).2).take (remainingLength bytes)

/-- What is compared with the length of the buffer. -/
def announced (bytes : List UInt8) : Nat :=
  remainingLength bytes + (fixedHeader 0 (remainingLength bytes)).length

theorem announced_le_of_le {bytes bytes' : List UInt8}
    (h : remainingLength bytes ≤ remainingLength bytes') :
    announced bytes ≤ announced bytes' := by
  have hlen := VarLength.length_encode_le_of_le 4 h
  unfold announced fixedHeader
  rw [List.length_cons, List.length_cons]
  omega

/-- A length that is cut off announces no more than the whole one. -/
theorem announced_le_append (received rest : List UInt8) :
    announced received ≤ announced (received ++ rest) := by
  apply announced_le_of_le
  unfold remainingLength
  cases hcomplete : VarLength.complete 4 received with
  | true => exact Nat.le_of_eq (by rw [VarLength.decode_append_of_complete hcomplete])
  | false =>
    rw [VarLength.decode_append_of_not_complete hcomplete]
    exact Nat.le_add_right _ _

theorem announced_congr {bytes' : List UInt8} (h : remainingLength bytes = remainingLength bytes') :
    announced bytes = announced bytes' := by
  unfold announced
  rw [h]

theorem readPacket_cons (message : List UInt8) (header : UInt8) (bytes : List UInt8)
    (buflen : Nat) : readPacket message (header :: bytes) buflen =
      let fixed := fixedHeader header (remainingLength bytes)
      let packet := fixed ++ bodyRead bytes
      if announced bytes > buflen then (.other (-1), fixed ++ message.drop fixed.length)
      else (.ofHeader header, packet ++ message.drop packet.length) := rfl

theorem readOutcome_rejected (message : List UInt8) (h : announced bytes > buflen) :
    readOutcome (readPacket message (header :: bytes) buflen) = (.other (-1), none) := by
  rw [readPacket_cons]
  dsimp only
  rw [if_pos h]
  rfl

theorem readOutcome_accepted (message : List UInt8) (h : ¬announced bytes > buflen) :
    readOutcome (readPacket message (header :: bytes) buflen) =
      (.ofHeader header, some (fixedHeader header (remainingLength bytes) ++
        (bodyRead bytes ++ message.drop (fixedHeader header (remainingLength bytes) ++
          bodyRead bytes).length).take (remainingLength bytes))) := by
  have hpacket : ∀ rest, packetContents (fixedHeader header (remainingLength bytes) ++ rest) =
      fixedHeader header (remainingLength bytes) ++ rest.take (remainingLength bytes) := by
    intro rest
    unfold packetContents
    rw [packetLength_fixedHeader (remainingLength_lt bytes), List.take_length_add_append]
  rw [readPacket_cons]
  dsimp only
  rw [if_neg h, readOutcome, if_neg (MsgType.ofHeader_ne header), List.append_assoc, hpacket]

/-- The received bytes decide what is read: they reject the packet, or they have
its length and its body. -/
def Decides (received : List UInt8) (buflen : Nat) : Prop :=
  announced received > buflen ∨
    VarLength.complete 4 received = true ∧
      (VarLength.decode 4 received).2 + remainingLength received ≤ received.length

instance (received : List UInt8) (buflen : Nat) : Decidable (Decides received buflen) :=
  inferInstanceAs (Decidable (_ ∨ _))

theorem readOutcome_cut (message rest : List UInt8) (h : Decides received buflen) :
    readOutcome (readPacket message (header :: (received ++ rest)) buflen) =
      readOutcome (readPacket message (header :: received) buflen) := by
  by_cases hrejected : announced received > buflen
  · rw [readOutcome_rejected message hrejected,
      readOutcome_rejected message (Nat.lt_of_lt_of_le hrejected (announced_le_append _ _))]
  · obtain ⟨hcomplete, hbody⟩ := h.resolve_left hrejected
    have hdecode := VarLength.decode_append_of_complete hcomplete rest
    have hlength : remainingLength (received ++ rest) = remainingLength received :=
      congrArg Prod.fst hdecode
    have hread : bodyRead (received ++ rest) = bodyRead received := by
      unfold bodyRead
      rw [hlength, hdecode, List.drop_append_of_le_length (by omega),
        List.take_append_of_le_length (by rw [List.length_drop]; omega)]
    have hannounced : ¬announced (received ++ rest) > buflen := by
      rw [announced_congr hlength]
      exact hrejected
    rw [readOutcome_accepted message hrejected, readOutcome_accepted message hannounced, hlength,
      hread]

/-- The first byte behind the received ones is in the body. -/
private theorem bodyRead_cut {b : UInt8} {rest message : List UInt8}
    (hcomplete : VarLength.complete 4 received = true)
    (hshort : received.length < (VarLength.decode 4 received).2 + remainingLength received) :
    ((bodyRead (received ++ b :: rest) ++ message).take (remainingLength received))[
      received.length - (VarLength.decode 4 received).2]? = some b := by
  have hused := VarLength.decode_snd_le 4 received
  have hdecode := VarLength.decode_append_of_complete hcomplete (b :: rest)
  have hlength : remainingLength (received ++ b :: rest) = remainingLength received :=
    congrArg Prod.fst hdecode
  have hbody : (bodyRead (received ++ b :: rest))[
      received.length - (VarLength.decode 4 received).2]? = some b := by
    unfold bodyRead
    rw [hlength, hdecode, List.getElem?_take_of_lt (by omega), List.getElem?_drop,
      Nat.add_sub_cancel' hused, List.getElem?_append_right (Nat.le_refl _), Nat.sub_self]
    rfl
  have hlt := (List.getElem?_eq_some_iff.1 hbody).1
  rw [List.getElem?_take_of_lt (by omega), List.getElem?_append_left hlt, hbody]

/-- Where the body is cut off, the byte behind the received ones is part of the packet. -/
private theorem readOutcome_ne_body (message rest rest' : List UInt8)
    (haccepted : ¬announced received > received.length + 1)
    (hcomplete : VarLength.complete 4 received = true)
    (hshort : received.length < (VarLength.decode 4 received).2 + remainingLength received) :
    readOutcome (readPacket message (header :: (received ++ 0 :: rest)) (received.length + 1)) ≠
      readOutcome
        (readPacket message (header :: (received ++ 1 :: rest')) (received.length + 1)) := by
  have hlength : ∀ bytes, remainingLength (received ++ bytes) = remainingLength received :=
    fun bytes => congrArg Prod.fst (VarLength.decode_append_of_complete hcomplete bytes)
  have hannounced : ∀ bytes, ¬announced (received ++ bytes) > received.length + 1 := by
    intro bytes
    rw [announced_congr (hlength bytes)]
    exact haccepted
  intro heq
  rw [readOutcome_accepted message (hannounced _), readOutcome_accepted message (hannounced _),
    hlength, hlength] at heq
  have hbody := List.append_cancel_left (Option.some.inj (congrArg Prod.snd heq))
  have hbyte := (bodyRead_cut hcomplete hshort).symm.trans
    ((congrArg (·[received.length - (VarLength.decode 4 received).2]?) hbody).trans
      (bodyRead_cut hcomplete hshort))
  exact absurd (Option.some.inj hbyte) (by decide)

/-- Where the remaining length is cut off, the byte behind the received ones is its
next digit: 1 makes the packet too long. -/
private theorem readOutcome_ne_length (message rest rest' : List UInt8)
    (haccepted : ¬announced received > received.length + 1)
    (hcomplete : VarLength.complete 4 received = false) :
    readOutcome (readPacket message (header :: (received ++ 0 :: rest)) (received.length + 1)) ≠
      readOutcome
        (readPacket message (header :: (received ++ 1 :: rest')) (received.length + 1)) := by
  have hlt := VarLength.length_lt_of_not_complete hcomplete
  obtain ⟨k, hk⟩ : ∃ k, 4 - received.length = k + 1 := ⟨3 - received.length, by omega⟩
  have hzero : remainingLength (received ++ 0 :: rest) = remainingLength received := by
    unfold remainingLength
    rw [VarLength.decode_append_of_not_complete hcomplete, hk, VarLength.decode]
    exact Nat.add_zero _
  have hone : remainingLength (received ++ 1 :: rest') =
      remainingLength received + 128 ^ received.length := by
    unfold remainingLength
    rw [VarLength.decode_append_of_not_complete hcomplete, hk, VarLength.decode]
    exact congrArg (_ + ·) (Nat.mul_one _)
  have hpos : 1 ≤ received.length := by
    cases received with
    | nil => exact absurd (show announced [] > 0 + 1 by decide) haccepted
    | cons b received => exact Nat.succ_pos _
  have hpow : 128 ^ 1 ≤ 128 ^ received.length := Nat.pow_le_pow_right (by decide) hpos
  have hrejected : announced (received ++ 1 :: rest') > received.length + 1 := by
    unfold announced
    rw [hone]
    omega
  have hread : ¬announced (received ++ 0 :: rest) > received.length + 1 := by
    rw [announced_congr hzero]
    exact haccepted
  intro heq
  rw [readOutcome_accepted message hread, readOutcome_rejected message hrejected] at heq
  exact MsgType.ofHeader_ne header (congrArg Prod.fst heq)

/-- Where the received bytes do not decide, the byte behind them does. -/
theorem readOutcome_ne (message rest rest' : List UInt8)
    (h : ¬Decides received (received.length + 1)) :
    readOutcome (readPacket message (header :: (received ++ 0 :: rest)) (received.length + 1)) ≠
      readOutcome
        (readPacket message (header :: (received ++ 1 :: rest')) (received.length + 1)) := by
  obtain ⟨haccepted, hcut⟩ := not_or.1 h
  cases hcomplete : VarLength.complete 4 received with
  | true =>
    exact readOutcome_ne_body message rest rest' haccepted hcomplete
      (Nat.lt_of_not_le fun hle => hcut ⟨hcomplete, hle⟩)
  | false => exact readOutcome_ne_length message rest rest' haccepted hcomplete

end Read

namespace GB4MQTT

variable {m : GB4MQTT} {paho : Paho}

/-- The type or the read error, `*message_len`, and the packet if there is one. -/
def Incoming.outcome (inc : Incoming) : MsgType × Nat × Option (List UInt8) :=
  (inc.type, inc.messageLen,
    if inc.type = .other (-1) then none else some (packetContents inc.message))

/-- What `pollIncomming` gives when the memory from `payload[]` on held `memory`. -/
def outcomeOver (m : GB4MQTT) (paho : Paho) (env : Env) (memory : List UInt8) :
    Option (MsgType × Nat × Option (List UInt8)) :=
  (m.pollIncomming paho { env with payload := memory } maxPacketSize).1.map Incoming.outcome

/-- Whatever `payload[]` held, the result is the same. -/
def Independent (m : GB4MQTT) (paho : Paho) (env : Env) (behind : List UInt8) : Prop :=
  ∀ buf buf' : List UInt8, buf.length = maxPacketSize → buf'.length = maxPacketSize →
    m.outcomeOver paho env (buf ++ behind) = m.outcomeOver paho env (buf' ++ behind)

/-- The payload fills the buffer, or it is empty, or it decides what is read. -/
def Determined (payload : List UInt8) : Prop :=
  maxPacketSize ≤ payload.length ∨
    match payload with
    | [] => True
    | _ :: received => Decides received payload.length

/-- What is read from a delivered payload, by the bytes that were copied. -/
theorem outcomeOver_eq (hread : ReadsPackets paho) {g : XBeeReceive} {sock : Int}
    {payload : List UInt8} (hg : m.radio.gReceive = g.callback sock payload) (env : Env)
    (memory : List UInt8) : m.outcomeOver paho env memory =
      let bytes := payload.take maxPacketSize
      let read := readPacket env.message (bytes ++ memory.drop bytes.length) bytes.length
      some ((readOutcome read).1, bytes.length, (readOutcome read).2) := by
  have hbytes : m.bytesRead = payload.take maxPacketSize := by
    unfold bytesRead
    rw [hg]
    exact XBeeReceive.read_of_holds (g.holds_callback sock payload) (by decide)
  unfold outcomeOver
  rcases m.pollIncomming_cases paho { env with payload := memory } with ⟨hp, _⟩ | ⟨_, heq⟩
  · rw [hg] at hp
    exact absurd hp.symm Bool.false_ne_true
  · rw [heq, readIncoming, hbytes, readBytes, hread]
    rfl

theorem outcomeOver_congr_iff (hread : ReadsPackets paho) {g : XBeeReceive} {sock : Int}
    {payload : List UInt8} (hg : m.radio.gReceive = g.callback sock payload) (env : Env)
    (memory memory' : List UInt8) :
    m.outcomeOver paho env memory = m.outcomeOver paho env memory' ↔
      let bytes := payload.take maxPacketSize
      readOutcome (readPacket env.message (bytes ++ memory.drop bytes.length) bytes.length) =
        readOutcome (readPacket env.message (bytes ++ memory'.drop bytes.length) bytes.length) := by
  rw [outcomeOver_eq hread hg, outcomeOver_eq hread hg]
  dsimp only
  rw [Option.some_inj, Prod.mk.injEq, Prod.mk.injEq, Prod.ext_iff]
  exact ⟨fun h => ⟨h.1, h.2.2⟩, fun h => ⟨h.1, rfl, h.2⟩⟩

/-- The memory behind `n` received bytes, when the buffer was filled with a byte. -/
theorem drop_replicate_append {n : Nat} (hn : n < maxPacketSize) (b : UInt8)
    (behind : List UInt8) : (List.replicate maxPacketSize b ++ behind).drop n =
      b :: (List.replicate (maxPacketSize - (n + 1)) b ++ behind) := by
  rw [List.drop_append_of_le_length (by rw [List.length_replicate]; omega), List.drop_replicate,
    show maxPacketSize - n = maxPacketSize - (n + 1) + 1 by omega, List.replicate_succ,
    List.cons_append]

/-- What is read of a delivered payload does not depend on what `payload[]` held
exactly when the received bytes determine it. -/
theorem independent_iff (hread : ReadsPackets paho) {g : XBeeReceive} {sock : Int}
    {payload : List UInt8} (hg : m.radio.gReceive = g.callback sock payload) (env : Env)
    (behind : List UInt8) : m.Independent paho env behind ↔ Determined payload := by
  by_cases hfull : maxPacketSize ≤ payload.length
  · refine ⟨fun _ => Or.inl hfull, fun _ buf buf' hbuf hbuf' => ?_⟩
    have hlen : (payload.take maxPacketSize).length = maxPacketSize :=
      List.length_take_of_le hfull
    rw [outcomeOver_congr_iff hread hg]
    dsimp only
    rw [hlen, List.drop_left' hbuf, List.drop_left' hbuf']
  · have htake : payload.take maxPacketSize = payload := List.take_of_length_le (by omega)
    cases payload with
    | nil =>
      refine ⟨fun _ => Or.inr trivial, fun _ buf buf' hbuf hbuf' => ?_⟩
      -- one byte does not fit, whatever it is
      have hnone : ∀ buf : List UInt8, buf.length = maxPacketSize →
          readOutcome (readPacket env.message (buf ++ behind) 0) = (.other (-1), none) := by
        intro buf hbuf
        cases buf with
        | nil => exact absurd hbuf (by decide)
        | cons b buf =>
          refine readOutcome_rejected env.message (Nat.lt_of_lt_of_le Nat.one_pos ?_)
          exact Nat.le_trans (Nat.succ_le_succ (Nat.zero_le _)) (Nat.le_add_left _ _)
      rw [outcomeOver_congr_iff hread hg]
      exact (hnone buf hbuf).trans (hnone buf' hbuf').symm
    | cons header received =>
      constructor
      · intro hind
        refine Or.inr (Decidable.byContradiction fun hnot => ?_)
        have hsame := hind (List.replicate maxPacketSize 0) (List.replicate maxPacketSize 1)
          (List.length_replicate ..) (List.length_replicate ..)
        rw [outcomeOver_congr_iff hread hg, htake] at hsame
        dsimp only at hsame
        rw [drop_replicate_append (by omega), drop_replicate_append (by omega)] at hsame
        exact readOutcome_ne env.message _ _ hnot hsame
      · intro hdet buf buf' _ _
        have hdecides := hdet.resolve_left hfull
        rw [outcomeOver_congr_iff hread hg, htake]
        dsimp only
        rw [List.cons_append, List.cons_append, readOutcome_cut env.message _ hdecides,
          readOutcome_cut env.message _ hdecides]

/-- A PINGRESP. -/
theorem independent_pingresp : (holding [0xD0, 0x00]).Independent .mqtt {} [] :=
  (@independent_iff (holding [0xD0, 0x00]) .mqtt (fun _ _ _ => rfl) (.fresh 0) 1 [0xD0, 0x00]
    rfl {} []).2 (Or.inr (by decide))

/-- A PINGRESP whose remaining length is cut off: it is read as a PINGRESP or as
an error. -/
theorem not_independent : ¬∀ (m : GB4MQTT) (paho : Paho) (g : XBeeReceive) (sock : Int)
    (payload : List UInt8) (env : Env) (behind : List UInt8), ReadsPackets paho →
    m.radio.gReceive = g.callback sock payload → m.Independent paho env behind := by
  intro h
  have hsame := h (holding [0xD0, 0x80]) .mqtt (.fresh 0) 1 [0xD0, 0x80] {} []
    (fun _ _ _ => rfl) rfl (List.replicate maxPacketSize 0) (List.replicate maxPacketSize 1)
    (List.length_replicate ..) (List.length_replicate ..)
  exact absurd hsame (by decide +kernel)

end GB4MQTT

end XBeeMqtt
