import XBeeMqtt.GB4XBee.Mailbox
import XBeeMqtt.Lib.Transition

/-!
# What the mailbox counts

`g_receive` keeps one payload and overwrites it when the next one comes before
it was read.  Its two counters are all that is left of an overwritten payload.

`Monitored` keeps beside a mailbox which payload was written last and how many
reads found one.  `Accounts` is the invariant: what was written was read, dropped
or is pending, and the last payload is in the buffer as far as it fits.
-/

namespace XBeeMqtt

namespace XBeeReceive

/-- A call on a mailbox. -/
inductive Call where
  | write (buffer : List UInt8)
  | read (len : Nat)
  | callback (sock : Int) (payload : List UInt8)
  deriving DecidableEq, Repr

/-- A mailbox, the number of reads that were made while it was pending, and the
payload of the latest write, which is empty before the first one. -/
structure Monitored where
  mailbox : XBeeReceive
  taken : Nat
  latest : List UInt8
  deriving DecidableEq, Repr

/-- What a write stores of a buffer: up to `MESSAGE_PAYLOAD_SIZE` bytes in front of
the array, which keeps its size. -/
structure StoresWithin (g : XBeeReceive) (buffer : List UInt8) : Prop where
  length : (g.write buffer).mPayloadLen = min messagePayloadSize buffer.length
  stored : (g.write buffer).mPayload =
    buffer.take messagePayloadSize ++ g.mPayload.drop (min messagePayloadSize buffer.length)
  size : (g.write buffer).mPayload.length = messagePayloadSize

namespace Monitored

def fresh (socket : Int) : Monitored := { mailbox := .fresh socket, taken := 0, latest := [] }

def next (s : Monitored) : Call → Monitored
  | .write buffer => { s with mailbox := s.mailbox.write buffer, latest := buffer }
  | .read len =>
    { s with
      mailbox := (s.mailbox.read len).2
      taken := if s.mailbox.pending then s.taken + 1 else s.taken }
  | .callback sock payload =>
    { s with mailbox := s.mailbox.callback sock payload, latest := payload }

/-- Every payload that was counted was read, dropped, or is pending, and the latest
one is in the buffer as far as it fits. -/
structure Accounts (s : Monitored) : Prop where
  count : s.mailbox.mCount = UInt32.ofNat s.taken + s.mailbox.mDroppedCount +
    if s.mailbox.pending then 1 else 0
  holds : s.mailbox.Holds s.latest
  length : s.mailbox.mPayloadLen = min messagePayloadSize s.latest.length
  size : s.mailbox.mPayload.length = messagePayloadSize

/-- A read gives the front of the latest payload, and clears `pending()`. -/
def ReadsLatest (s : Monitored) (len : Nat) : Prop :=
  (s.mailbox.read len).1 =
      s.latest.take (min len (min messagePayloadSize s.latest.length)) ∧
    (s.mailbox.read len).2.pending = false

end Monitored

variable {g : XBeeReceive} {s : Monitored}

/-! ## One call -/

/-- The two ways to write a payload only differ in the socket. -/
theorem callback_eq (g : XBeeReceive) (sock : Int) (payload : List UInt8) :
    g.callback sock payload = { g.write payload with socket := sock } := by
  unfold callback write
  cases g.mPending <;> rfl

theorem storesWithin_of_size (h : g.mPayload.length = messagePayloadSize)
    (buffer : List UInt8) : g.StoresWithin buffer := by
  have hlen : (if buffer.length > messagePayloadSize then messagePayloadSize
      else buffer.length) = min messagePayloadSize buffer.length := by
    split <;> omega
  have hfits : buffer.take (min messagePayloadSize buffer.length) =
      buffer.take messagePayloadSize := by
    rw [List.take_eq_take_iff]
    omega
  have hstored : (g.write buffer).mPayload = buffer.take messagePayloadSize ++
      g.mPayload.drop (min messagePayloadSize buffer.length) := by
    unfold write
    dsimp only
    rw [hlen, hfits]
    cases g.mPending <;> rfl
  refine ⟨hlen, hstored, ?_⟩
  rw [hstored, List.length_append, List.length_take, List.length_drop, h]
  omega

theorem write_count (g : XBeeReceive) (buffer : List UInt8) :
    (g.write buffer).mCount = g.mCount + 1 ∧ (g.write buffer).pending = true ∧
      (g.write buffer).mDroppedCount = g.mDroppedCount + if g.pending then 1 else 0 := by
  unfold write pending
  cases hp : g.mPending with
  | true => exact ⟨rfl, rfl, rfl⟩
  | false => exact ⟨rfl, rfl, (UInt32.add_zero _).symm⟩

/-! ## Runs -/

theorem Monitored.accounts_fresh (socket : Int) : (Monitored.fresh socket).Accounts where
  count := rfl
  holds := rfl
  length := rfl
  size := List.length_replicate

theorem Monitored.Accounts.write (h : s.Accounts) (buffer : List UInt8) :
    (s.next (.write buffer)).Accounts := by
  obtain ⟨hcount, hpending, hdropped⟩ := s.mailbox.write_count buffer
  have hstores := storesWithin_of_size h.size buffer
  refine ⟨?_, s.mailbox.holds_callback s.mailbox.socket buffer, hstores.length, hstores.size⟩
  show (s.mailbox.write buffer).mCount = UInt32.ofNat s.taken +
    (s.mailbox.write buffer).mDroppedCount + if (s.mailbox.write buffer).pending then 1 else 0
  rw [hcount, hpending, hdropped, h.count, ← UInt32.add_assoc, if_pos rfl]

theorem Monitored.Accounts.read (h : s.Accounts) (len : Nat) :
    (s.next (.read len)).Accounts := by
  refine ⟨?_, h.holds, h.length, h.size⟩
  show s.mailbox.mCount = UInt32.ofNat (if s.mailbox.pending then s.taken + 1 else s.taken) +
    s.mailbox.mDroppedCount + 0
  rw [h.count, UInt32.add_zero]
  cases s.mailbox.pending with
  | true =>
    rw [if_pos rfl, if_pos rfl, UInt32.ofNat_add, UInt32.add_assoc, UInt32.add_assoc,
      UInt32.add_comm s.mailbox.mDroppedCount]
    rfl
  | false => exact UInt32.add_zero _

theorem Monitored.Accounts.next (h : s.Accounts) (c : Call) : (s.next c).Accounts := by
  cases c with
  | write buffer => exact h.write buffer
  | read len => exact h.read len
  | callback sock payload =>
    have hwritten := h.write payload
    simp only [Monitored.next, callback_eq]
    exact ⟨hwritten.count, hwritten.holds, hwritten.length, hwritten.size⟩

theorem Monitored.Accounts.replay (h : s.Accounts) (calls : List Call) :
    (Transition.replay Monitored.next s calls).Accounts := by
  induction calls generalizing s with
  | nil => exact h
  | cons c calls ih => exact ih (h.next c)

theorem Monitored.Accounts.readsLatest (h : s.Accounts) (len : Nat) : s.ReadsLatest len := by
  refine ⟨?_, rfl⟩
  have hread : (s.mailbox.read len).1 = (s.mailbox.read (min len messagePayloadSize)).1 := by
    have hlength := h.length
    unfold XBeeReceive.read
    dsimp only
    congr 1
    split <;> split <;> omega
  rw [hread, read_of_holds h.holds (Nat.min_le_right _ _), List.take_eq_take_iff]
  omega

/-- Along any calls on a new mailbox, every payload that was counted was read,
dropped or is pending, a read gives the front of the latest payload, and a write
stays within the array. -/
theorem accounts_of_calls (socket : Int) (calls : List Call) :
    let s := Transition.replay Monitored.next (.fresh socket) calls
    s.Accounts ∧ (∀ len, s.ReadsLatest len) ∧ ∀ buffer, s.mailbox.StoresWithin buffer := by
  intro s
  have h : s.Accounts := (Monitored.accounts_fresh socket).replay calls
  exact ⟨h, h.readsLatest, storesWithin_of_size h.size⟩

/-- Two payloads before the first read: one is dropped, and the second is read in
two parts that both start at its front. -/
example :
    let s := Transition.replay Monitored.next (.fresh 1)
      [.write [1, 2, 3], .write [4, 5], .read 1]
    s.mailbox.mCount = 2 ∧ s.mailbox.mDroppedCount = 1 ∧ s.taken = 1 ∧
      (s.mailbox.read 8).1 = [4, 5] := by
  decide

end XBeeReceive

end XBeeMqtt
