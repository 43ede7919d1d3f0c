import XBeeMqtt.StaticQueue.Ownership

/-!
# Which flags the slot scan reads

`scanLoop` is the loop of `findEmptySlot` again, with the indices whose flag it
reads, and with what the memory behind the array answers as a parameter.  The
loop always ends (`scanLoop_spec`).

`safe_iff` says when the scan is also inside the array and complete: it must not
start from the last slot, and the slot it starts behind, which it never looks
at, must not be the only free one.
-/

namespace XBeeMqtt

universe v

/-- The loop of `findEmptySlot` from the index `i`: the indices whose flag is read,
and the index of the slot.  It answers `none` when the fuel runs out. -/
def scanLoop (isLinked : Nat → Bool) (n slotIndex : Nat) :
    Nat → Nat → Option (List Nat × Option Nat)
  | 0, _ => none
  | fuel + 1, i =>
    if i = slotIndex then some ([], none)
    else if isLinked i = false then some ([i], some i)
    else (scanLoop isLinked n slotIndex fuel ((i + 1) % n)).map fun (probes, slot) =>
      (i :: probes, slot)

section Scan

variable {isLinked : Nat → Bool} {n slotIndex : Nat}

/-- The slot is the one of `findEmptySlotLoop`. -/
theorem scanLoop_slot {fuel i : Nat} {probes : List Nat} {slot : Option Nat}
    (h : scanLoop isLinked n slotIndex fuel i = some (probes, slot)) :
    findEmptySlotLoop isLinked n slotIndex fuel i = slot := by
  induction fuel generalizing i probes with
  | zero => exact absurd h (by simp [scanLoop])
  | succ fuel ih =>
    rw [scanLoop] at h
    rw [findEmptySlotLoop]
    split at h
    · rename_i heq
      rw [if_pos heq]
      exact congrArg Prod.snd (Option.some.inj h)
    · rename_i hne
      rw [if_neg hne]
      split at h
      · rename_i hfree
        rw [if_pos hfree]
        exact congrArg Prod.snd (Option.some.inj h)
      · rename_i hlinked
        rw [if_neg hlinked]
        obtain ⟨⟨probes', slot'⟩, hrest, heq⟩ := Option.map_eq_some_iff.1 h
        obtain rfl : slot' = slot := congrArg Prod.snd heq
        exact ih hrest

/-- From an index inside the array, the loop ends and stays inside. -/
theorem scanLoop_spec {fuel i : Nat} (hslot : slotIndex < n) (hi : i < n)
    (hfuel : aheadCount n slotIndex i < fuel) :
    ∃ probes slot, scanLoop isLinked n slotIndex fuel i = some (probes, slot) ∧
      (∀ j ∈ probes, j < n) ∧ ∀ j ∈ slot, j < n := by
  induction fuel generalizing i with
  | zero => omega
  | succ fuel ih =>
    rw [scanLoop]
    by_cases heq : i = slotIndex
    · rw [if_pos heq]
      exact ⟨[], none, rfl, by simp, by simp⟩
    rw [if_neg heq]
    by_cases hfree : isLinked i = false
    · rw [if_pos hfree]
      exact ⟨[i], some i, rfl, by simpa using hi, by simpa using hi⟩
    rw [if_neg hfree]
    have hcount := aheadCount_next hi hslot heq
    obtain ⟨probes, slot, hrest, hinside, hslot'⟩ :=
      ih (Nat.mod_lt (i + 1) (by omega)) (by omega)
    refine ⟨i :: probes, slot, by rw [hrest]; rfl, fun j hj => ?_, hslot'⟩
    rcases List.mem_cons.1 hj with rfl | hj
    · exact hi
    · exact hinside j hj

end Scan

namespace StaticQueue

variable {N : Nat} {α : Type v} {q : StaticQueue N α}

/-- The flag that `m_array[i].isLinked()` finds, also behind the array. -/
def flagAt (q : StaticQueue N α) (behind : Nat → Bool) (i : Nat) : Bool :=
  if h : i < N then (q.heap ⟨i, h⟩).linked else behind i

/-- The scan of `findEmptySlot`. -/
def scan (q : StaticQueue N α) (behind : Nat → Bool) : Option (List Nat × Option Nat) :=
  scanLoop (q.flagAt behind) N q.slotIndex (N + 1) (q.slotIndex + 1)

/-- The scan ends, reads flags of the array only, and finds nothing only if there
is nothing. -/
def ScanSafe (q : StaticQueue N α) (behind : Nat → Bool) : Prop :=
  ∃ probes slot, q.scan behind = some (probes, slot) ∧ (∀ i ∈ probes, i < N) ∧
    (slot = none → ∀ i, (q.heap i).linked = true)

/-- The scan does not start from the last slot, and the slot that it starts behind
is linked if all others are. -/
def ScanFits (q : StaticQueue N α) : Prop :=
  q.slotIndex + 1 < N ∧
    ((∀ i : Fin N, i.val ≠ q.slotIndex → (q.heap i).linked = true) →
      ∀ i, (q.heap i).linked = true)

/-- The scan of the model is `findEmptySlot`. -/
theorem scan_findEmptySlot {probes : List Nat} {slot : Option Nat}
    (h : q.scan (fun _ => true) = some (probes, slot)) :
    q.findEmptySlot.1.map Fin.val = slot := by
  rw [← q.findEmptySlot_fst]
  exact scanLoop_slot h

/-- From the last slot, the first flag is read behind the array. -/
theorem scan_last (hslot : q.slotIndex + 1 = N) (behind : Nat → Bool) :
    ∃ probes slot, q.scan behind = some (N :: probes, slot) := by
  unfold scan
  rw [hslot, scanLoop, if_neg (by omega)]
  split
  · exact ⟨[], some N, rfl⟩
  · have hcount : aheadCount N q.slotIndex ((N + 1) % N) < N := by
      have hlt := Nat.mod_lt (N + 1) (show 0 < N by omega)
      unfold aheadCount
      split <;> omega
    obtain ⟨probes, slot, hrest, _⟩ := @scanLoop_spec (q.flagAt behind) N q.slotIndex N
      ((N + 1) % N) (by omega) (Nat.mod_lt (N + 1) (by omega)) hcount
    exact ⟨probes, slot, by rw [hrest]; rfl⟩

theorem scanSafe_iff (hslot : q.slotIndex < N) (behind : Nat → Bool) :
    (∃ outcome, q.scan behind = some outcome) ∧ (q.ScanSafe behind ↔ q.ScanFits) := by
  by_cases hend : q.slotIndex + 1 < N
  · have hcount : aheadCount N q.slotIndex (q.slotIndex + 1) < N + 1 := by
      unfold aheadCount
      split <;> omega
    obtain ⟨probes, slot, hscan, hinside, hfound⟩ : ∃ probes slot,
        q.scan behind = some (probes, slot) ∧ (∀ j ∈ probes, j < N) ∧ ∀ j ∈ slot, j < N :=
      scanLoop_spec hslot hend hcount
    have hloop := scanLoop_slot hscan
    refine ⟨⟨_, hscan⟩, ?_⟩
    have hflag : ∀ i : Fin N, q.flagAt behind i = (q.heap i).linked := by
      intro i
      simp [flagAt]
    have hseen : slot = none → ∀ i : Fin N, i.val ≠ q.slotIndex → (q.heap i).linked = true := by
      intro hnone i hne
      rw [hnone] at hloop
      rw [← hflag]
      refine findEmptySlotLoop_fuel hslot hend i.isLt hcount hloop ?_
      unfold Ahead
      omega
    constructor
    · intro hsafe
      obtain ⟨probes', slot', hscan', _, hcomplete⟩ := hsafe
      obtain ⟨rfl, rfl⟩ : probes = probes' ∧ slot = slot' := by
        simpa using hscan.symm.trans hscan'
      refine ⟨hend, fun hothers => hcomplete ?_⟩
      cases slot with
      | none => rfl
      | some i =>
        obtain ⟨hfree, hne⟩ := findEmptySlotLoop_eq_some hloop
        have hlinked := (hflag ⟨i, hfound i rfl⟩).trans (hothers ⟨i, hfound i rfl⟩ hne)
        exact absurd (hfree.symm.trans hlinked) Bool.false_ne_true
    · intro hfits
      exact ⟨probes, slot, hscan, hinside, fun hnone => hfits.2 (hseen hnone)⟩
  · have hlast : q.slotIndex + 1 = N := by omega
    obtain ⟨probes, slot, hscan⟩ := scan_last hlast behind
    refine ⟨⟨_, hscan⟩, fun hsafe => ?_, fun hfits => absurd hfits.1 hend⟩
    obtain ⟨probes', slot', hscan', hinside, _⟩ := hsafe
    obtain ⟨rfl, _⟩ : N :: probes = probes' ∧ slot = slot' := by
      simpa using hscan.symm.trans hscan'
    exact absurd (hinside N List.mem_cons_self) (Nat.lt_irrefl N)

/-! ## Runs -/

/-- The queue at the scan that ends an `insert`, if a slot is filled. -/
def lastScan (q : StaticQueue N α) (elem : α) : Option (StaticQueue N α) :=
  match q.nextAvailableSlot with
  | some slot => some (q.enqueueSlot slot elem)
  | none =>
    let (next, q) := q.findEmptySlot
    next.map fun slot => enqueueSlot { q with nextAvailableSlot := next } slot elem

theorem Inv.slot_lastScan {l : List (Fin N)} (h : q.Inv l) {elem : α} {q' : StaticQueue N α}
    (hlast : q.lastScan elem = some q') : q'.slotIndex < N := by
  unfold lastScan at hlast
  cases hnext : q.nextAvailableSlot with
  | some slot =>
    rw [hnext] at hlast
    rw [← Option.some.inj hlast]
    exact h.slot
  | none =>
    rw [hnext] at hlast
    rcases q.findEmptySlot_cases with hnone | ⟨s, _, _, hsome⟩
    · rw [hnone] at hlast
      exact absurd hlast.symm (Option.some_ne_none q')
    · rw [hsome] at hlast
      rw [← Option.some.inj hlast]
      exact s.isLt

/-- In every reachable queue, and when an insert looks for the next slot, the scan
ends, and it is safe exactly when it fits. -/
theorem scanSafe_of_reach [NeZero N] (h : (system N α).Reach q) (behind : Nat → Bool) :
    ((∃ outcome, q.scan behind = some outcome) ∧ (q.ScanSafe behind ↔ q.ScanFits)) ∧
    ∀ elem q', q.lastScan elem = some q' →
      (∃ outcome, q'.scan behind = some outcome) ∧ (q'.ScanSafe behind ↔ q'.ScanFits) := by
  obtain ⟨l, hinv⟩ := exists_inv_of_reach (h.restrict fun _ _ => trivial)
  exact ⟨scanSafe_iff hinv.slot behind,
    fun _ _ hlast => scanSafe_iff (hinv.slot_lastScan hlast) behind⟩

/-- A new queue of three slots. -/
theorem scanSafe_fresh : (fresh fun _ => 0 : StaticQueue 3 Nat).ScanSafe fun _ => false := by
  have hreach : (system 3 Nat).Reach (fresh fun _ => 0) := .init ⟨fun _ => 0, rfl⟩
  refine (scanSafe_of_reach hreach fun _ => false).1.2.2 ⟨by decide, ?_⟩
  intro hothers
  exact absurd (hothers 1 (by decide)) (by decide)

/-- After one insert into two slots, the scan starts behind the array. -/
theorem not_scanSafe :
    let q : StaticQueue 2 Nat := ((fresh fun _ => 0).insert 7).2
    (system 2 Nat).Reach q ∧ ∀ behind, ¬q.ScanSafe behind := by
  intro q
  have hfresh : (system 2 Nat).Reach (fresh fun _ => 0) := .init ⟨fun _ => 0, rfl⟩
  refine ⟨reach_call hfresh (.insert 7) trivial, fun behind hsafe => ?_⟩
  have hfits := (scanSafe_iff (show q.slotIndex < 2 by decide) behind).2.1 hsafe
  exact absurd hfits.1 (show ¬q.slotIndex + 1 < 2 by decide)

end StaticQueue

end XBeeMqtt
