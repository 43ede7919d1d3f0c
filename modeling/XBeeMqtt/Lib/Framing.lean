import Mathlib.Algebra.Group.Nat.Defs
import Mathlib.Data.List.ReduceOption
import Mathlib.Data.List.Forall2

/-!
# Packets in a byte stream

Two general facts about packets whose length stands in front of them.

* `VarLength` is a number in base 128, the lowest digit first, with the top bit
  of a byte saying that another one follows: `decode_encode`.  What follows the
  bytes of a number changes it only if they are cut off (`complete`).
* A reader that takes at most one packet out of a chunk, and none that is longer
  than the chunk, finds the packets of a stream only when the chunks are the
  packets: `chunks_eq_packets`.
-/

namespace VarLength

/-- The digits of `n`, in at most `k` bytes. -/
def encode : Nat → Nat → List UInt8
  | 0, _ => []
  | k + 1, n =>
    if n < 128 then [UInt8.ofNat n] else UInt8.ofNat (n % 128 + 128) :: encode k (n / 128)

/-- The number in front of the bytes, read from at most `k` of them, and how
many were read. -/
def decode : Nat → List UInt8 → Nat × Nat
  | 0, _ => (0, 0)
  | _ + 1, [] => (0, 0)
  | k + 1, b :: bytes =>
    if b.toNat < 128 then (b.toNat, 1)
    else (b.toNat - 128 + 128 * (decode k bytes).1, (decode k bytes).2 + 1)

theorem decode_lt (k : Nat) (bytes : List UInt8) : (decode k bytes).1 < 128 ^ k := by
  induction k generalizing bytes with
  | zero => exact Nat.one_pos
  | succ k ih =>
    have hpow : 128 ^ (k + 1) = 128 * 128 ^ k := Nat.pow_succ'
    have hpos : 0 < 128 ^ k := Nat.pow_pos (by decide)
    cases bytes with
    | nil => exact Nat.pow_pos (by decide)
    | cons b bytes =>
      have hdigits := ih bytes
      have hbyte := b.toNat_lt
      unfold decode
      split
      · show b.toNat < _
        omega
      · show b.toNat - 128 + 128 * (decode k bytes).1 < _
        omega

theorem decode_encode {k n : Nat} (h : n < 128 ^ k) (rest : List UInt8) :
    decode k (encode k n ++ rest) = (n, (encode k n).length) := by
  induction k generalizing n with
  | zero =>
    have hn : n = 0 := Nat.lt_one_iff.1 h
    rw [hn]
    rfl
  | succ k ih =>
    have hpow : 128 ^ (k + 1) = 128 * 128 ^ k := Nat.pow_succ'
    have hsize : UInt8.size = 256 := rfl
    unfold encode
    by_cases hn : n < 128
    · have hbyte : (UInt8.ofNat n).toNat = n := UInt8.toNat_ofNat_of_lt' (by omega)
      rw [if_pos hn, List.singleton_append, decode, hbyte, if_pos hn]
      rfl
    · have hbyte : (UInt8.ofNat (n % 128 + 128)).toNat = n % 128 + 128 :=
        UInt8.toNat_ofNat_of_lt' (by omega)
      have hrest : n / 128 < 128 ^ k := by omega
      rw [if_neg hn, List.cons_append, decode, hbyte, if_neg (by omega), ih hrest]
      rw [List.length_cons, Prod.mk.injEq]
      exact ⟨by omega, rfl⟩

/-! ## Numbers that are cut off -/

/-- The last digit is among the bytes, or all `k` bytes are there. -/
def complete : Nat → List UInt8 → Bool
  | 0, _ => true
  | _ + 1, [] => false
  | k + 1, b :: bytes => decide (b.toNat < 128) || complete k bytes

theorem decode_snd_le (k : Nat) (bytes : List UInt8) : (decode k bytes).2 ≤ bytes.length := by
  induction k generalizing bytes with
  | zero => exact Nat.zero_le _
  | succ k ih =>
    cases bytes with
    | nil => exact Nat.le_refl 0
    | cons b bytes =>
      have hrest := ih bytes
      unfold decode
      split
      · exact Nat.succ_le_succ (Nat.zero_le _)
      · exact Nat.succ_le_succ hrest

theorem decode_append_of_complete {k : Nat} {bytes : List UInt8} (h : complete k bytes = true)
    (rest : List UInt8) : decode k (bytes ++ rest) = decode k bytes := by
  induction k generalizing bytes with
  | zero => rw [decode, decode]
  | succ k ih =>
    cases bytes with
    | nil => exact absurd h Bool.false_ne_true
    | cons b bytes =>
      rw [List.cons_append, decode, decode]
      by_cases hb : b.toNat < 128
      · rw [if_pos hb, if_pos hb]
      · have hrest : complete k bytes = true := by simpa [complete, hb] using h
        rw [if_neg hb, if_neg hb, ih hrest]

theorem length_lt_of_not_complete {k : Nat} {bytes : List UInt8}
    (h : complete k bytes = false) : bytes.length < k := by
  induction k generalizing bytes with
  | zero => exact absurd h.symm Bool.false_ne_true
  | succ k ih =>
    cases bytes with
    | nil => exact Nat.succ_pos k
    | cons b bytes =>
      rw [complete, Bool.or_eq_false_iff] at h
      exact Nat.succ_lt_succ (ih h.2)

/-- What follows a number that is cut off gives its higher digits. -/
theorem decode_append_of_not_complete {k : Nat} {bytes : List UInt8}
    (h : complete k bytes = false) (rest : List UInt8) :
    (decode k (bytes ++ rest)).1 =
      (decode k bytes).1 + 128 ^ bytes.length * (decode (k - bytes.length) rest).1 := by
  induction k generalizing bytes with
  | zero => exact absurd h.symm Bool.false_ne_true
  | succ k ih =>
    cases bytes with
    | nil =>
      rw [List.nil_append, List.length_nil, Nat.pow_zero, Nat.one_mul, Nat.sub_zero]
      exact (Nat.zero_add _).symm
    | cons b bytes =>
      rw [complete, Bool.or_eq_false_iff] at h
      have hb : ¬b.toNat < 128 := of_decide_eq_false h.1
      have hpow : 128 ^ (bytes.length + 1) = 128 * 128 ^ bytes.length := Nat.pow_succ'
      rw [List.cons_append, decode, decode, if_neg hb, if_neg hb, List.length_cons,
        Nat.add_sub_add_right, hpow]
      dsimp only
      rw [ih h.2, Nat.mul_assoc]
      omega

/-- A number below `128 ^ j` needs no more than `j` bytes. -/
theorem length_encode_le_of_lt {j n : Nat} (k : Nat) (h : n < 128 ^ (j + 1)) :
    (encode k n).length ≤ j + 1 := by
  induction j generalizing k n with
  | zero =>
    cases k with
    | zero => exact Nat.zero_le _
    | succ k =>
      have hn : n < 128 := by omega
      unfold encode
      rw [if_pos hn]
      exact Nat.le_refl 1
  | succ j ih =>
    cases k with
    | zero => exact Nat.zero_le _
    | succ k =>
      have hpow : 128 ^ (j + 1 + 1) = 128 * 128 ^ (j + 1) := Nat.pow_succ'
      have hrest : (encode k (n / 128)).length ≤ j + 1 := ih k (by omega)
      unfold encode
      split
      · exact Nat.succ_le_succ (Nat.zero_le _)
      · rw [List.length_cons]
        omega

theorem length_encode_le_of_le (k : Nat) {n n' : Nat} (h : n ≤ n') :
    (encode k n).length ≤ (encode k n').length := by
  induction k generalizing n n' with
  | zero => exact Nat.le_refl 0
  | succ k ih =>
    have hrest := @ih (n / 128) (n' / 128) (Nat.div_le_div_right h)
    unfold encode
    by_cases hn' : n' < 128
    · rw [if_pos hn', if_pos (Nat.lt_of_le_of_lt h hn')]
      exact Nat.le_refl 1
    · rw [if_neg hn', List.length_cons]
      by_cases hn : n < 128
      · rw [if_pos hn]
        exact Nat.succ_le_succ (Nat.zero_le _)
      · rw [if_neg hn, List.length_cons]
        exact Nat.succ_le_succ hrest

end VarLength

namespace Framing

universe u

variable {β : Type u}

/-- What was read from each chunk is no longer than the chunk. -/
def Bounded (chunks : List (List β)) (results : List (Option (List β))) : Prop :=
  List.Forall₂ (fun chunk result => ∀ packet ∈ result, packet.length ≤ chunk.length)
    chunks results

theorem Bounded.length_le {chunks : List (List β)} {results : List (Option (List β))}
    (h : Bounded chunks results) :
    results.reduceOption.flatten.length ≤ chunks.flatten.length := by
  induction h with
  | nil => exact Nat.le_refl _
  | @cons chunk result chunks results hhead _ ih =>
    cases result with
    | none =>
      rw [List.reduceOption_cons_of_none, List.flatten_cons, List.length_append]
      omega
    | some packet =>
      have hpacket := hhead packet rfl
      rw [List.reduceOption_cons_of_some, List.flatten_cons, List.flatten_cons,
        List.length_append, List.length_append]
      omega

/-- Where nothing is lost, every chunk gave a packet of its own length. -/
theorem Bounded.map_length_eq {chunks : List (List β)} {results : List (Option (List β))}
    (h : Bounded chunks results) (hne : ∀ chunk ∈ chunks, chunk ≠ [])
    (hlen : chunks.flatten.length ≤ results.reduceOption.flatten.length) :
    results.reduceOption.map List.length = chunks.map List.length := by
  induction h with
  | nil => rfl
  | @cons chunk result chunks results hhead htail ih =>
    have hle := Bounded.length_le htail
    have hpos : 0 < chunk.length := List.length_pos_iff.2 (hne chunk (by simp))
    cases result with
    | none =>
      rw [List.reduceOption_cons_of_none, List.flatten_cons, List.length_append] at hlen
      omega
    | some packet =>
      have hpacket := hhead packet rfl
      rw [List.reduceOption_cons_of_some, List.flatten_cons, List.flatten_cons,
        List.length_append, List.length_append] at hlen
      have heq : packet.length = chunk.length := by omega
      rw [List.reduceOption_cons_of_some, List.map_cons, List.map_cons, heq,
        ih (fun c hc => hne c (List.mem_cons_of_mem _ hc)) (by omega)]

/-- The chunks of a stream give its packets only when they are the packets. -/
theorem Bounded.chunks_eq_packets {chunks packets : List (List β)}
    {results : List (Option (List β))} (h : Bounded chunks results)
    (hne : ∀ chunk ∈ chunks, chunk ≠ []) (hstream : chunks.flatten = packets.flatten)
    (hread : results.reduceOption = packets) : chunks = packets := by
  subst hread
  have hmap := h.map_length_eq hne (Nat.le_of_eq (congrArg List.length hstream))
  exact List.eq_iff_flatten_eq.2 ⟨hstream, hmap.symm⟩

end Framing
