import XBeeMqtt.GB4XBee.Failure
import XBeeMqtt.Lib.Transition

/-!
# What the notification slot describes

`poll` reads the slot of `g_notify` when the counter has moved, and takes what
it finds for the notification that was counted last.  But the callback writes
`socket` and `type` before it knows whether it counts the frame.

* `callback_of_counted` and `callback_of_not_counted` say what one call writes.
* `describes_iff`: the calls that keep the slot on the last counted
  notification are those that count, or that write what is there already.
-/

namespace XBeeMqtt

namespace XBeeNotify

/-- A call on `g_notify`. -/
inductive Call where
  | callback (sockid : Int) (frameType message : UInt8)
  | reset
  deriving DecidableEq, Repr

/-- The message field that `type` selects. -/
def selected (n : XBeeNotify) : Option UInt8 :=
  match n.type with
  | .txStatus => some n.txMesg
  | .sockCreateResp | .sockConnectResp => some n.sockMesg
  | .sockState => some n.stateMesg
  | _ => none

/-- The slot, and the arguments of the last call that incremented the counter. -/
structure Monitored where
  slot : XBeeNotify
  last : Option (Int × UInt8 × UInt8)
  deriving DecidableEq, Repr

namespace Monitored

def fresh (socket : Int) : Monitored := { slot := .fresh socket, last := none }

def next (m : Monitored) : Call → Monitored
  | .callback sockid frameType message =>
    let slot := m.slot.callback sockid frameType message
    { slot := slot
      last := if slot.count = m.slot.count + 1 then some (sockid, frameType, message)
        else m.last }
  | .reset => { m with slot := m.slot.reset.2 }

/-- Type, socket and message are those of the last call that counted. -/
def Describes (m : Monitored) : Prop :=
  ∀ sockid frameType message, m.last = some (sockid, frameType, message) →
    m.slot.type = FrameType.ofByte frameType ∧ m.slot.socket = sockid ∧
      m.slot.selected = some message

end Monitored

/-- A call with a frame type that is not counted leaves the slot unchanged. -/
def Keeps (n : XBeeNotify) : Call → Prop
  | .callback sockid frameType message =>
    (Frame.notify sockid frameType message).counted = false →
      let n' := n.callback sockid frameType message
      n'.type = n.type ∧ n'.socket = n.socket ∧ n'.txMesg = n.txMesg ∧
        n'.sockMesg = n.sockMesg ∧ n'.stateMesg = n.stateMesg
  | .reset => True

/-- The frame is counted, or its socket and type are in the slot already. -/
def Fits (n : XBeeNotify) : Call → Prop
  | .callback sockid frameType message =>
    (Frame.notify sockid frameType message).counted = true ∨
      n.socket = sockid ∧ n.type = FrameType.ofByte frameType
  | .reset => True

variable {n : XBeeNotify} {sockid : Int} {frameType message : UInt8}

/-! ## One call -/

theorem callback_of_counted (h : (Frame.notify sockid frameType message).counted = true) :
    let n' := n.callback sockid frameType message
    n'.type = FrameType.ofByte frameType ∧ n'.socket = sockid ∧ n'.selected = some message := by
  cases htype : FrameType.ofByte frameType <;>
    simp_all [Frame.counted, callback, countUp, selected]

theorem callback_of_not_counted (h : (Frame.notify sockid frameType message).counted = false) :
    n.callback sockid frameType message =
      { n with socket := sockid, type := FrameType.ofByte frameType } := by
  cases htype : FrameType.ofByte frameType <;> simp_all [Frame.counted, callback]

/-- The counter shows whether a call was counted. -/
theorem count_callback_iff :
    (n.callback sockid frameType message).count = n.count + 1 ↔
      (Frame.notify sockid frameType message).counted = true := by
  rw [count_callback]
  cases (Frame.notify sockid frameType message).counted <;> simp

theorem keeps_iff (n : XBeeNotify) (c : Call) : n.Keeps c ↔ n.Fits c := by
  cases c with
  | reset => exact Iff.rfl
  | callback sockid frameType message =>
    simp only [Keeps, Fits]
    cases hc : (Frame.notify sockid frameType message).counted with
    | true => simp
    | false =>
      rw [callback_of_not_counted hc]
      constructor
      · intro h
        obtain ⟨htype, hsocket, _⟩ := h rfl
        exact Or.inr ⟨hsocket.symm, htype.symm⟩
      · intro h _
        rcases h with h | ⟨hsocket, htype⟩
        · exact absurd h Bool.false_ne_true
        · exact ⟨htype.symm, hsocket.symm, rfl, rfl, rfl⟩

/-! ## Runs -/

theorem Monitored.Describes.next {m : Monitored} {c : Call} (h : m.Describes)
    (hc : m.slot.Fits c) : (m.next c).Describes := by
  cases c with
  | reset => exact h
  | callback sockid frameType message =>
    intro sockid' frameType' message' hlast
    simp only [Monitored.next] at hlast ⊢
    by_cases hcounted : (Frame.notify sockid frameType message).counted = true
    · rw [if_pos (count_callback_iff.2 hcounted)] at hlast
      obtain ⟨rfl, rfl, rfl⟩ : sockid = sockid' ∧ frameType = frameType' ∧ message = message' := by
        simpa using hlast
      exact callback_of_counted hcounted
    · rw [if_neg fun heq => hcounted (count_callback_iff.1 heq)] at hlast
      -- nothing was counted, and the call writes what the slot held
      have hsame : m.slot.callback sockid frameType message = m.slot := by
        rcases hc with hc | ⟨hsocket, htype⟩
        · exact absurd hc hcounted
        · rw [callback_of_not_counted (by simpa using hcounted), ← hsocket, ← htype]
      rw [hsame]
      exact h _ _ _ hlast

/-- Along any calls on a new `g_notify`, the slot describes the last counted
notification and is left alone by the others exactly when every call fits. -/
theorem describes_iff (socket : Int) (calls : List Call) :
    Transition.Accepted (fun m c => (m.next c).Describes ∧ m.slot.Keeps c)
        Monitored.next (.fresh socket) calls ↔
      Transition.Accepted (fun m c => m.slot.Fits c) Monitored.next (.fresh socket) calls := by
  refine Transition.accepted_congr Monitored.Describes (fun m c h => ?_)
    (fun m c h hfits => h.next hfits) calls fun sockid frameType message hlast => ?_
  · rw [keeps_iff]
    exact ⟨fun hkeeps => hkeeps.2, fun hfits => ⟨h.next hfits, hfits⟩⟩
  · exact absurd hlast (show none ≠ some (sockid, frameType, message) by simp)

/-- A transmission status, and then the answer to a close: the slot has the
type of the close. -/
theorem sent_then_closed_not_described :
    ¬∀ socket calls, Transition.Accepted (fun m c => (m.next c).Describes ∧ m.slot.Keeps c)
      Monitored.next (.fresh socket) calls := by
  intro h
  have hrun := h 1 [.callback 1 0x89 0x00, .callback 1 0xC3 0x00]
  have htype := (hrun.2.1.1 1 0x89 0x00 (by decide)).1
  exact absurd htype (by decide)

end XBeeNotify

end XBeeMqtt
