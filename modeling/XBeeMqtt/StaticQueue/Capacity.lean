import XBeeMqtt.StaticQueue.Fifo

/-!
# The capacity of the queue

A queue of `N` slots should take a value whenever fewer than `N` are queued.
Two slips in `insert` break that.

* The scan of `findEmptySlot` starts behind `m_slot_index` and never looks at
  the slot it started from.  From the last slot it first looks behind the array
  and then goes on at index 1, so it does not look at slot 0 either.
* When the queue empties, `m_head` stays on the node that went last.  The next
  insert links that node again, and if it is not the slot being filled, it is
  never free again.

`InsertFits` says when an insert meets neither of them.  In a run whose inserts
all fit, a slot is linked exactly when it is queued (`Tight`), and the queue is
full exactly when `N` values are queued (`capacity_of_fits`).
`Tight.insert_iff` says that the condition is exact for one insert, and
`leaked_insert_refused` that a lost slot costs capacity for good.
-/

namespace XBeeMqtt

universe u v

/-! ## The scan -/

/-- The indices that a scan from `i` looks at before it is back at `slotIndex`. -/
def Ahead (slotIndex i j : Nat) : Prop :=
  i ≤ j ∧ j < slotIndex ∨ slotIndex < i ∧ (i ≤ j ∨ j < slotIndex)

/-- How many indices these are. -/
def aheadCount (n slotIndex i : Nat) : Nat :=
  if i ≤ slotIndex then slotIndex - i else slotIndex + n - i

section Scan

variable {isLinked : Nat → Bool} {n slotIndex : Nat}

theorem aheadCount_next {i : Nat} (hi : i < n) (hslot : slotIndex < n)
    (hne : i ≠ slotIndex) :
    aheadCount n slotIndex ((i + 1) % n) + 1 = aheadCount n slotIndex i := by
  unfold aheadCount
  rcases Nat.lt_or_ge (i + 1) n with hlt | hge
  · rw [Nat.mod_eq_of_lt hlt]
    split <;> split <;> omega
  · have hn : i + 1 = n := by omega
    rw [hn, Nat.mod_self]
    split <;> split <;> omega

private theorem ahead_next {i j : Nat} (hi : i < n) (hj : j < n)
    (h : Ahead slotIndex i j) : j = i ∨ Ahead slotIndex ((i + 1) % n) j := by
  unfold Ahead at *
  rcases Nat.lt_or_ge (i + 1) n with hlt | hge
  · rw [Nat.mod_eq_of_lt hlt]
    omega
  · have hn : i + 1 = n := by omega
    rw [hn, Nat.mod_self]
    omega

private theorem ahead_of_next {i j : Nat} (hi : i < n) (hslot : slotIndex < n)
    (hne : i ≠ slotIndex) (h : Ahead slotIndex ((i + 1) % n) j) : Ahead slotIndex i j := by
  unfold Ahead at *
  rcases Nat.lt_or_ge (i + 1) n with hlt | hge
  · rw [Nat.mod_eq_of_lt hlt] at h
    omega
  · have hn : i + 1 = n := by omega
    rw [hn, Nat.mod_self] at h
    omega

/-- With enough fuel, a scan that answers null has met linked slots only. -/
theorem findEmptySlotLoop_fuel {fuel i j : Nat} (hslot : slotIndex < n) (hi : i < n)
    (hj : j < n) (hfuel : aheadCount n slotIndex i < fuel)
    (h : findEmptySlotLoop isLinked n slotIndex fuel i = none) (hij : Ahead slotIndex i j) :
    isLinked j = true := by
  induction fuel generalizing i with
  | zero => omega
  | succ fuel ih =>
    rw [findEmptySlotLoop] at h
    split at h
    · rename_i heq
      unfold Ahead at hij
      omega
    · rename_i hne
      split at h
      · simp at h
      · rename_i hlinked
        have hn : 0 < n := by omega
        have hcount := aheadCount_next hi hslot hne
        rcases ahead_next hi hj hij with rfl | hnext
        · simpa using hlinked
        · exact ih (Nat.mod_lt _ hn) (by omega) h hnext

/-- A scan only answers what it looks at. -/
theorem findEmptySlotLoop_ahead {fuel i j : Nat} (hslot : slotIndex < n) (hi : i < n)
    (h : findEmptySlotLoop isLinked n slotIndex fuel i = some j) : Ahead slotIndex i j := by
  induction fuel generalizing i with
  | zero => simp [findEmptySlotLoop] at h
  | succ fuel ih =>
    rw [findEmptySlotLoop] at h
    split at h
    · simp at h
    · rename_i hne
      split at h
      · obtain rfl : i = j := by simpa using h
        unfold Ahead
        omega
      · have hn : 0 < n := by omega
        exact ahead_of_next hi hslot hne (ih (Nat.mod_lt _ hn) h)

/-- A scan that wraps around has met linked slots only up to the end. -/
theorem findEmptySlotLoop_wrapped {fuel i j k : Nat} (hi : slotIndex < i)
    (h : findEmptySlotLoop isLinked n slotIndex fuel i = some j) (hj : j < i)
    (hik : i ≤ k) (hk : k < n) : isLinked k = true := by
  induction fuel generalizing i with
  | zero => simp [findEmptySlotLoop] at h
  | succ fuel ih =>
    rw [findEmptySlotLoop, if_neg (by omega)] at h
    split at h
    · obtain rfl : i = j := by simpa using h
      omega
    · rename_i hlinked
      rcases Nat.eq_or_lt_of_le hik with rfl | hlt
      · simpa using hlinked
      · rw [Nat.mod_eq_of_lt (by omega)] at h
        exact ih (by omega) h (by omega) hlt

end Scan

namespace StaticQueue

variable {N : Nat} {α : Type v} {q : StaticQueue N α} {l : List (Fin N)}

/-- The slots that a scan behind `slotIndex` looks at. -/
def Seen (q : StaticQueue N α) (i : Fin N) : Prop :=
  i.val ≠ q.slotIndex ∧ (i.val ≠ 0 ∨ q.slotIndex + 1 ≠ N)

instance (q : StaticQueue N α) (i : Fin N) : Decidable (q.Seen i) :=
  inferInstanceAs (Decidable (i.val ≠ q.slotIndex ∧ (i.val ≠ 0 ∨ q.slotIndex + 1 ≠ N)))

/-- From the last slot, the first probe is the one behind the array. -/
private theorem scan_from_last (hslot : q.slotIndex + 1 = N) :
    findEmptySlotLoop q.isLinked N q.slotIndex (N + 1) (q.slotIndex + 1) =
      findEmptySlotLoop q.isLinked N q.slotIndex N ((q.slotIndex + 2) % N) := by
  have hlinked : q.isLinked (q.slotIndex + 1) = true := by simp [isLinked, hslot]
  rw [findEmptySlotLoop, if_neg (by omega), hlinked, if_neg (by simp)]

private theorem two_mod_of_last (hslot : q.slotIndex + 1 = N) :
    (q.slotIndex + 2) % N = if N = 1 then 0 else 1 := by
  have hsum : q.slotIndex + 2 = N + 1 := by omega
  rw [hsum, Nat.add_mod_left]
  split
  · rename_i h1
    rw [h1]
  · exact Nat.mod_eq_of_lt (by omega)

/-- A slot found in the loop is inside the array, so `findEmptySlot` answers
what its loop answers. -/
theorem findEmptySlot_fst (q : StaticQueue N α) :
    findEmptySlotLoop q.isLinked N q.slotIndex (N + 1) (q.slotIndex + 1) =
      q.findEmptySlot.1.map Fin.val := by
  cases hloop : findEmptySlotLoop q.isLinked N q.slotIndex (N + 1) (q.slotIndex + 1) with
  | none => simp [findEmptySlot, hloop]
  | some i =>
    have hi : i < N := by
      by_contra hi
      have hfree := (findEmptySlotLoop_eq_some hloop).1
      simp [isLinked, hi] at hfree
    simp [findEmptySlot, hloop, hi]

/-- A scan that answers null has met linked slots only. -/
theorem linked_of_scan_none (hslot : q.slotIndex < N) (h : q.findEmptySlot.1 = none)
    {i : Fin N} (hi : q.Seen i) : (q.heap i).linked = true := by
  have hi' := i.isLt
  have hloop := q.findEmptySlot_fst
  rw [h, Option.map_none] at hloop
  obtain ⟨hne, hlast⟩ := hi
  rw [← isLinked_val]
  by_cases hend : q.slotIndex + 1 < N
  · refine findEmptySlotLoop_fuel hslot hend hi' ?_ hloop ?_
    · unfold aheadCount
      split <;> omega
    · unfold Ahead
      omega
  · have hend : q.slotIndex + 1 = N := by omega
    rw [scan_from_last hend, two_mod_of_last hend, if_neg (by omega)] at hloop
    refine findEmptySlotLoop_fuel hslot (by omega) hi' ?_ hloop ?_
    · unfold aheadCount
      split <;> omega
    · unfold Ahead
      omega

/-- A scan only answers a slot that it looks at. -/
theorem seen_of_scan (hslot : q.slotIndex < N) {i : Fin N}
    (h : q.findEmptySlot.1 = some i) : q.Seen i := by
  have hi' := i.isLt
  have hloop := q.findEmptySlot_fst
  rw [h, Option.map_some] at hloop
  have hne : i.val ≠ q.slotIndex := (findEmptySlotLoop_eq_some hloop).2
  refine ⟨hne, ?_⟩
  by_cases hend : q.slotIndex + 1 = N
  · rw [scan_from_last hend, two_mod_of_last hend] at hloop
    split at hloop
    · omega
    · have hahead := findEmptySlotLoop_ahead hslot (by omega) hloop
      unfold Ahead at hahead
      omega
  · exact Or.inr hend

/-! ## When an insert fits -/

/-- A null cache with a free slot: the scan gets to see a free slot. -/
def ScanFinds (q : StaticQueue N α) : Prop :=
  q.nextAvailableSlot = none → (∃ i, (q.heap i).linked = false) →
    ∃ i, (q.heap i).linked = false ∧ q.Seen i

/-- The two free slots are the first and the last: the first one is next. -/
def WrapCached (q : StaticQueue N α) : Prop :=
  2 ≤ N → (∀ i, (q.heap i).linked = false ↔ i.val = 0 ∨ i.val + 1 = N) →
    ∃ s, q.nextAvailableSlot = some s ∧ s.val = 0

/-- The first slot that a scan looks at inside the array. -/
def firstProbe (q : StaticQueue N α) : Nat :=
  if q.slotIndex + 1 < N then q.slotIndex + 1 else 1

/-- On an empty queue, `m_head` points at the slot that is filled next. -/
def HeadReady (q : StaticQueue N α) : Prop :=
  q.isEmpty = true → ∃ x, q.head = some x ∧
    (q.nextAvailableSlot = some x ∨ q.nextAvailableSlot = none ∧ x.val = q.firstProbe)

/-- The condition on the queue before an insert. -/
def InsertFits (q : StaticQueue N α) : Prop :=
  q.ScanFinds ∧ q.WrapCached ∧ q.HeadReady

instance (q : StaticQueue N α) : Decidable q.InsertFits :=
  inferInstanceAs (Decidable ((_ → _ → _) ∧ (_ → _ → _) ∧ (_ → _)))

/-- Every insert of the run meets the condition. -/
def Fits (q : StaticQueue N α) (label : Call N α × Answer α) : Prop :=
  match label.1 with
  | .insert _ => q.InsertFits
  | _ => True

instance (q : StaticQueue N α) : ∀ label, Decidable (q.Fits label)
  | (.insert _, _) => inferInstanceAs (Decidable q.InsertFits)
  | (.dequeue, _) | (.remove _, _) | (.reset, _) => .isTrue trivial

/-- Every linked slot is one of `l`. -/
def NoLeak (q : StaticQueue N α) (l : List (Fin N)) : Prop :=
  ∀ i, (q.heap i).linked = true → i ∈ l

theorem NoLeak.free_nil (h : q.NoLeak []) (i : Fin N) : (q.heap i).linked = false := by
  by_contra hlinked
  exact absurd (h i (by simpa using hlinked)) List.not_mem_nil

/-- The queue holds `l`, every linked slot is in it, and `full` is true. -/
structure Tight (q : StaticQueue N α) (l : List (Fin N)) : Prop where
  inv : q.Inv l
  mem : ∀ i, (q.heap i).linked = true → i ∈ l
  full : q.full = true ↔ l.length = N

theorem Tight.free_iff (h : q.Tight l) (i : Fin N) : (q.heap i).linked = false ↔ i ∉ l := by
  constructor
  · exact h.inv.wf.heap.not_mem
  · intro hi
    by_contra hlinked
    exact hi (h.mem i (by simpa using hlinked))

/-- Fewer than `N` distinct slots leave one out. -/
theorem exists_not_mem {l : List (Fin N)} (hlen : l.length < N) : ∃ i, i ∉ l := by
  by_contra hall
  have hsub : List.finRange N ⊆ l := fun i _ => by
    by_contra hi
    exact hall ⟨i, hi⟩
  have hle := (List.nodup_finRange N).length_le_of_subset hsub
  rw [List.length_finRange] at hle
  omega

theorem Inv.length_lt (h : q.Inv l) {i : Fin N} (hi : i ∉ l) : l.length < N := by
  have hnodup : (i :: l).Nodup := List.nodup_cons.2 ⟨hi, h.nodup⟩
  have hcard := hnodup.length_le_card
  rw [Fintype.card_fin, List.length_cons] at hcard
  omega

theorem Tight.exists_free_iff (h : q.Tight l) :
    (∃ i, (q.heap i).linked = false) ↔ l.length < N := by
  constructor
  · intro hex
    obtain ⟨i, hi⟩ := hex
    exact h.inv.length_lt ((h.free_iff i).1 hi)
  · intro hlen
    obtain ⟨i, hi⟩ := exists_not_mem hlen
    exact ⟨i, (h.free_iff i).2 hi⟩

/-! ### The slot that an insert fills -/

/-- On an empty queue the scan stops at its first probe. -/
theorem NoLeak.scan_nil (h : q.NoLeak []) (hslot : q.slotIndex < N) {s : Fin N}
    (hs : q.findEmptySlot.1 = some s) : s.val = q.firstProbe := by
  have hfree : ∀ i, i < N → q.isLinked i = false := by
    intro i hi
    simpa [isLinked, hi] using h.free_nil ⟨i, hi⟩
  have hseen := seen_of_scan hslot hs
  have hs' := s.isLt
  unfold Seen at hseen
  have hloop : findEmptySlotLoop q.isLinked N q.slotIndex (N + 1) (q.slotIndex + 1) =
      some q.firstProbe := by
    unfold firstProbe
    split
    · rename_i hend
      rw [findEmptySlotLoop, if_neg (by omega), hfree _ hend, if_pos rfl]
    · have hend : q.slotIndex + 1 = N := by omega
      obtain ⟨n, rfl⟩ : ∃ n, N = n + 1 := ⟨N - 1, by omega⟩
      rw [scan_from_last hend, two_mod_of_last hend, if_neg (by omega), findEmptySlotLoop,
        if_neg (by omega), hfree _ (by omega), if_pos rfl]
  rw [q.findEmptySlot_fst, hs, Option.map_some] at hloop
  exact Option.some.inj hloop

theorem fillSlot_heap (s : Fin N) (elem : α) :
    (q.fillSlot s elem).heap = (q.enqueueSlot s elem).heap := by
  rcases q.fillSlot_cases s elem with ⟨_, heq⟩ | ⟨t, _, _, heq⟩ <;> rw [heq]

/-- Filling a slot sets two flags: its own, and the one of the node that
`m_head` points at. -/
theorem fillSlot_linked {q₀ : StaticQueue N α} {s x : Fin N}
    (hlist : q₀.toLinkedQueue = q.toLinkedQueue) (hfull : q.full = false)
    (hx : q.head = some x) (elem : α) (y : Fin N) :
    ((q₀.fillSlot s elem).heap y).linked =
      if y = x ∨ y = s then true else (q.heap y).linked := by
  have hlinked := @enqueueSlot_linked N α q₀ (by rw [hlist]; exact hfull) s x
    (by rw [hlist]; exact hx) elem y
  rw [fillSlot_heap, hlinked, hlist]

/-- Filling a slot behind the last node leaks none, and neither does filling the
slot that `m_head` points at in an empty queue. -/
theorem NoLeak.fillSlot (h : q.NoLeak l) (w : q.toLinkedQueue.Wf l) {q₀ : StaticQueue N α}
    {s : Fin N} (hlist : q₀.toLinkedQueue = q.toLinkedQueue) (hfull : q.full = false)
    (hhead : l = [] → q.head = some s) (elem : α) : (q₀.fillSlot s elem).NoLeak (l ++ [s]) := by
  obtain ⟨x, hx, hlast, _⟩ := w.head
  intro y hy
  rw [fillSlot_linked hlist hfull hx elem y] at hy
  rw [List.mem_append, List.mem_singleton]
  by_cases hys : y = s
  · exact Or.inr hys
  · by_cases hyx : y = x
    · by_cases hl : l = []
      · have hxs : x = s := Option.some.inj (hx.symm.trans (hhead hl))
        exact absurd (hyx.trans hxs) hys
      · rw [hyx]
        exact Or.inl (List.mem_of_getLast? (hlast hl))
    · rw [if_neg (by simp [hys, hyx])] at hy
      exact Or.inl (h y hy)

/-- The queue is marked full when nothing is left for the scan behind the
filled slot to see. -/
theorem fillSlot_full {q₀ : StaticQueue N α} {s : Fin N}
    (hlist : q₀.toLinkedQueue = q.toLinkedQueue) (hslot : q₀.slotIndex = s.val)
    (hfull : q.full = false) (elem : α) :
    (q₀.fillSlot s elem).full = true ↔
      ∀ y : Fin N, ((q₀.fillSlot s elem).heap y).linked = false →
        y = s ∨ y.val = 0 ∧ s.val + 1 = N := by
  have hindex : (q₀.enqueueSlot s elem).slotIndex = s.val := hslot
  have hlt : (q₀.enqueueSlot s elem).slotIndex < N := by
    rw [hindex]
    exact s.isLt
  have hfull₀ : (q₀.enqueueSlot s elem).full = false := by
    rw [enqueueSlot_full, hlist]
    exact hfull
  rw [fillSlot_heap]
  rcases q₀.fillSlot_cases s elem with ⟨hscan, heq⟩ | ⟨t, ht, hscan, heq⟩
  · rw [heq]
    refine ⟨fun _ y hy => ?_, fun _ => rfl⟩
    by_contra hne
    have hseen : (q₀.enqueueSlot s elem).Seen y := by
      unfold Seen
      rw [hindex]
      omega
    have hlinked := linked_of_scan_none hlt hscan hseen
    rw [hy] at hlinked
    simp at hlinked
  · have hseen := seen_of_scan hlt hscan
    unfold Seen at hseen
    rw [hindex] at hseen
    constructor
    · intro h
      rw [heq, hfull₀] at h
      simp at h
    · intro h
      have hts := h t ht
      omega

/-- Filling the right slot of a tight queue keeps it tight. -/
theorem Tight.fillSlot (h : q.Tight l) {q₀ : StaticQueue N α} {s : Fin N}
    (hlist : q₀.toLinkedQueue = q.toLinkedQueue) (hslot : q₀.slotIndex = s.val)
    (hs : (q.heap s).linked = false) (hfull : q.full = false) (elem : α)
    (hwrap : 2 ≤ N → (∀ i, (q.heap i).linked = false ↔ i.val = 0 ∨ i.val + 1 = N) → s.val = 0)
    (hhead : l = [] → q.head = some s) : (q₀.fillSlot s elem).Tight (l ++ [s]) := by
  have hinv := h.inv.insert_true elem hlist hslot hs hfull
  have hmem : (q₀.fillSlot s elem).NoLeak (l ++ [s]) :=
    NoLeak.fillSlot h.mem h.inv.wf hlist hfull hhead elem
  have hfree : ∀ y, ((q₀.fillSlot s elem).heap y).linked = false ↔ y ∉ l ++ [s] :=
    fun y => ⟨hinv.wf.heap.not_mem, fun hy => by
      by_contra hl
      exact hy (hmem y (by simpa using hl))⟩
  refine ⟨hinv, hmem, ?_⟩
  rw [fillSlot_full hlist hslot hfull]
  constructor
  · intro hall
    by_contra hlen
    have hle := hinv.length_le
    obtain ⟨i, hi⟩ := exists_not_mem (Nat.lt_of_le_of_ne hle hlen)
    rcases hall i ((hfree i).2 hi) with rfl | ⟨hi0, hsN⟩
    · simp at hi
    · -- only the slots 0 and `N - 1` are free, and the last one is being filled
      have his : i ≠ s := fun his => hi (by simp [his])
      have hN : 2 ≤ N := by omega
      have hs0 := hwrap hN fun y => by
        rw [h.free_iff]
        constructor
        · intro hy
          by_cases hys : y = s
          · rw [hys]
            exact Or.inr hsN
          · have := hall y ((hfree y).2 (by simp [hy, hys]))
            omega
        · intro hor
          rcases hor with hy0 | hyN
          · obtain rfl : y = i := Fin.ext (by omega)
            exact fun hy => hi (by simp [hy])
          · obtain rfl : y = s := Fin.ext (by omega)
            exact (h.free_iff y).1 hs
      omega
  · intro hlen y hy
    have hlt := hinv.length_lt ((hfree y).1 hy)
    omega

/-- A fitting insert succeeds exactly when a slot is left, and keeps the queue
tight. -/
theorem Tight.insert (h : q.Tight l) (hfits : q.InsertFits) (elem : α) :
    ((q.insert elem).1 = true ↔ l.length < N) ∧ ∃ l', (q.insert elem).2.Tight l' := by
  obtain ⟨hscan, hwrap, hhead⟩ := hfits
  rcases h.inv.insert_cases elem with
    ⟨heq, hnext, hnone⟩ | ⟨q₀, s, heq, hlist, hslot, hs, hfull, hfills⟩
  · rw [heq]
    refine ⟨?_, l, h⟩
    constructor
    · intro hfalse
      simp at hfalse
    · intro hlen
      obtain ⟨i, hi, hseen⟩ := hscan hnext (h.exists_free_iff.2 hlen)
      rw [linked_of_scan_none h.inv.slot hnone hseen] at hi
      simp at hi
  · have hlen : l.length < N := h.exists_free_iff.1 ⟨s, hs⟩
    rw [heq]
    refine ⟨by simp [hlen], l ++ [s], h.fillSlot hlist hslot hs hfull elem ?_ ?_⟩
    · intro hN hF
      obtain ⟨t, ht, ht0⟩ := hwrap hN hF
      rcases hfills with hsome | ⟨hnone, _⟩
      · obtain rfl : t = s := Option.some.inj (ht.symm.trans hsome)
        exact ht0
      · rw [hnone] at ht
        simp at ht
    · intro heq
      subst heq
      obtain ⟨x, hx, hx' | ⟨hnone, hx'⟩⟩ := hhead (h.inv.wf.isEmpty_iff.2 rfl)
      · rcases hfills with hsome | ⟨hnone, _⟩
        · rwa [← hsome, hx']
        · rw [hnone] at hx'
          simp at hx'
      · rcases hfills with hsome | ⟨_, hfound⟩
        · rw [hnone] at hsome
          simp at hsome
        · have hsx : s = x := Fin.ext ((NoLeak.scan_nil h.mem h.inv.slot hfound).trans hx'.symm)
          rw [hsx]
          exact hx

/-! ### The condition is exact -/

/-- A scan with a free last slot in front of it does not answer slot 0. -/
private theorem scan_ne_zero (hslot : q.slotIndex < N) {s last : Fin N}
    (hs : q.findEmptySlot.1 = some s) (hlast : last.val + 1 = N)
    (hfree : (q.heap last).linked = false) : s.val ≠ 0 := by
  intro hs0
  have hseen := seen_of_scan hslot hs
  unfold Seen at hseen
  have hloop := q.findEmptySlot_fst
  rw [hs, Option.map_some] at hloop
  have hlinked := findEmptySlotLoop_wrapped (by omega) hloop (by omega)
    (by omega) last.isLt
  rw [isLinked_val, hfree] at hlinked
  simp at hlinked

/-- An insert that does not fit gives a wrong answer or leaves the queue not
tight. -/
theorem Tight.fits (h : q.Tight l) {elem : α}
    (hok : (q.insert elem).1 = true ↔ l.length < N) {l' : List (Fin N)}
    (h' : (q.insert elem).2.Tight l') : q.InsertFits := by
  by_cases hlen : l.length < N
  swap
  · -- no slot is free
    have hnone : ¬∃ i, (q.heap i).linked = false := fun hex => hlen (h.exists_free_iff.1 hex)
    refine ⟨fun _ hex => absurd hex hnone, fun hN hF => ?_, fun hemp => ?_⟩
    · exact absurd ⟨⟨0, by omega⟩, (hF ⟨0, by omega⟩).2 (Or.inl rfl)⟩ hnone
    · rw [h.inv.wf.isEmpty_iff.1 hemp, List.length_nil] at hlen
      exact absurd (Nat.zero_lt_of_lt h.inv.slot) hlen
  rcases h.inv.insert_cases elem with
    ⟨heq, _, _⟩ | ⟨q₀, s, heq, hlist, hslot, hs, hfull, hfills⟩
  · rw [heq] at hok
    exact absurd (hok.2 hlen) (by simp)
  rw [heq] at h'
  obtain ⟨x, hx, _, _⟩ := h.inv.wf.head
  have hinv := h.inv.insert_true elem hlist hslot hs hfull
  have hl' : l' = l ++ [s] :=
    hinv.wf.nodes_unique (h'.inv.wf.nodes_eq (Nat.le_refl _))
  have hlinked := fun y => @fillSlot_linked N α q q₀ s x hlist hfull hx elem y
  refine ⟨fun hnext _ => ?_, fun hN hF => ?_, fun hemp => ?_⟩
  · rcases hfills with hsome | ⟨_, hfound⟩
    · rw [hnext] at hsome
      simp at hsome
    · exact ⟨s, hs, seen_of_scan h.inv.slot hfound⟩
  · have hs0 : s.val = 0 := by
      by_contra hs0
      have hsN : s.val + 1 = N := ((hF s).1 hs).resolve_left hs0
      have hisFull : (q₀.fillSlot s elem).full = true := by
        apply (fillSlot_full hlist hslot hfull elem).2
        intro y hy
        rw [hlinked] at hy
        split at hy
        · simp at hy
        · rcases (hF y).1 hy with hy0 | hyN
          · exact Or.inr ⟨hy0, hsN⟩
          · exact Or.inl (Fin.ext (by omega))
      have hlen' := h'.full.1 hisFull
      let zero : Fin N := ⟨0, by omega⟩
      have hzero : zero ∉ l' := by
        have hne : zero ≠ s := fun heq => hs0 (congrArg Fin.val heq).symm
        rw [hl', List.mem_append, List.mem_singleton, not_or]
        exact ⟨(h.free_iff zero).1 ((hF zero).2 (Or.inl rfl)), hne⟩
      have := h'.inv.length_lt hzero
      omega
    rcases hfills with hsome | ⟨_, hfound⟩
    · exact ⟨s, hsome, hs0⟩
    · let last : Fin N := ⟨N - 1, by omega⟩
      have hlast : last.val + 1 = N := Nat.sub_add_cancel (by omega)
      exact absurd hs0
        (scan_ne_zero h.inv.slot hfound hlast ((hF last).2 (Or.inr hlast)))
  · obtain rfl := h.inv.wf.isEmpty_iff.1 hemp
    have hxs : x = s := by
      have hmem := h'.mem x (by rw [hlinked]; simp)
      simpa [hl'] using hmem
    subst hxs
    refine ⟨x, hx, hfills.imp_right fun hfound => ⟨hfound.1, ?_⟩⟩
    exact NoLeak.scan_nil h.mem h.inv.slot hfound.2

/-- `InsertFits` is exact for one insert. -/
theorem Tight.insert_iff (h : q.Tight l) (elem : α) :
    q.InsertFits ↔
      ((q.insert elem).1 = true ↔ l.length < N) ∧ ∃ l', (q.insert elem).2.Tight l' :=
  ⟨fun hfits => h.insert hfits elem, fun ⟨hok, _, h'⟩ => h.fits hok h'⟩

/-- Filling another slot leaves a lost slot lost. -/
theorem Inv.lost_fillSlot (h : q.Inv l) {x : Fin N} (hx : (q.heap x).linked = true)
    (hmem : x ∉ l) {q₀ : StaticQueue N α} {s : Fin N}
    (hlist : q₀.toLinkedQueue = q.toLinkedQueue) (hs : (q.heap s).linked = false)
    (hfull : q.full = false) (elem : α) :
    ((q₀.fillSlot s elem).heap x).linked = true ∧ x ∉ l ++ [s] := by
  obtain ⟨y, hy, _, _⟩ := h.wf.head
  have hxs : x ≠ s := by
    intro heq
    subst heq
    rw [hs] at hx
    simp at hx
  rw [fillSlot_linked hlist hfull hy elem x]
  exact ⟨by simp [hx], by simp [hmem, hxs]⟩

/-- A slot that is linked but not queued stays lost: some later insert is
refused although fewer than `N` values are queued. -/
theorem leaked_insert_refused {x : Fin N} (elem : α) (h : q.Inv l)
    (hx : (q.heap x).linked = true) (hmem : x ∉ l) :
    ∃ k l', let q' := (fun q : StaticQueue N α => (q.insert elem).2)^[k] q
      q'.Inv l' ∧ l'.length < N ∧ (q'.insert elem).1 = false := by
  induction hn : N - l.length generalizing q l with
  | zero =>
    have := h.length_lt hmem
    omega
  | succ n ih =>
    have hlen := h.length_lt hmem
    rcases h.insert_cases elem with ⟨heq, _, _⟩ | ⟨q₀, s, heq, hlist, hslot, hs, hfull, _⟩
    · exact ⟨0, l, h, hlen, by simp [heq]⟩
    · have hinv := h.insert_true elem hlist hslot hs hfull
      obtain ⟨hx', hmem'⟩ := h.lost_fillSlot hx hmem hlist hs hfull elem
      obtain ⟨k, l', hk⟩ := ih hinv hx' hmem' (by simp; omega)
      refine ⟨k + 1, l', ?_⟩
      rw [Function.iterate_succ_apply, heq]
      exact hk

/-! ### Runs -/

theorem NoLeak.dequeue {x : Fin N} (h : q.NoLeak (x :: l)) (w : q.toLinkedQueue.Wf (x :: l)) :
    q.dequeue.2.NoLeak l := by
  intro i hi
  simp only [StaticQueue.dequeue, w.dequeue_cons, w.heap.unlink_linked] at hi
  split at hi
  · simp at hi
  · rename_i hix
    exact (List.mem_cons.1 (h i hi)).resolve_left hix

theorem NoLeak.remove (h : q.NoLeak l) (w : q.toLinkedQueue.Wf l) (x : Fin N) :
    (q.remove x).NoLeak (l.erase x) := by
  intro i hi
  simp only [StaticQueue.remove, w.remove_heap, w.heap.unlink_linked] at hi
  split at hi
  · simp at hi
  · rename_i hix
    exact (List.mem_erase_of_ne hix).2 (h i hi)

theorem Tight.dequeue (h : q.Tight l) : ∃ l', q.dequeue.2.Tight l' := by
  cases l with
  | nil =>
    rw [Inv.dequeue_nil h.inv]
    exact ⟨[], h⟩
  | cons x l =>
    have hinv := Inv.dequeue h.inv
    have hlen := h.inv.length_le
    refine ⟨l, hinv, NoLeak.dequeue h.mem h.inv.wf, ?_⟩
    rw [List.length_cons] at hlen
    simp [StaticQueue.dequeue, LinkedQueue.Wf.dequeue_cons h.inv.wf]
    omega

theorem Tight.remove (h : q.Tight l) {x : Fin N} (hx : x ∈ l) :
    (q.remove x).Tight (l.erase x) := by
  have hlen := h.inv.length_le
  have hpos := List.length_pos_of_mem hx
  refine ⟨h.inv.remove hx, NoLeak.remove h.mem h.inv.wf x, ?_⟩
  rw [List.length_erase_of_mem hx]
  simp [StaticQueue.remove, h.inv.wf.remove_full]
  omega

variable [NeZero N]

theorem noLeak_fresh (mem : Fin N → α) : (fresh mem).NoLeak [] := by
  intro i hi
  simp [fresh, LinkedNode.mk'] at hi

theorem tight_fresh (mem : Fin N → α) : (fresh mem).Tight [] := by
  refine ⟨inv_fresh mem, noLeak_fresh mem, ?_⟩
  simp [fresh, (NeZero.ne N).symm]

theorem Inv.noLeak_reset (h : q.Inv l) : q.reset.NoLeak [] := by
  intro i hi
  have hclear := h.reset_linked i
  rw [hclear] at hi
  simp at hi

theorem Tight.reset (h : q.Tight l) : q.reset.Tight [] := by
  refine ⟨h.inv.reset, h.inv.noLeak_reset, ?_⟩
  simp [StaticQueue.reset, LinkedQueue.init, (NeZero.ne N).symm]

theorem Tight.call (h : q.Tight l) {c : Call N α} {answer : Answer α}
    (hacc : q.Accepts c) (hfits : q.Fits (c, answer)) : ∃ l', (q.call c).2.Tight l' := by
  cases c with
  | insert elem => exact (h.insert hfits elem).2
  | dequeue => exact h.dequeue
  | remove slot =>
    obtain ⟨fuel, l₁, hl₁, hmem⟩ := hacc
    rw [h.inv.wf.nodes_unique hl₁] at hmem
    exact ⟨_, h.remove hmem⟩
  | reset => exact ⟨[], h.reset⟩

/-- In a run whose inserts all fit, the queue is full exactly when `N` values
are queued, it is empty exactly when none is, and a fitting insert is refused
only by a full queue. -/
theorem capacity_of_fits (hreach : ((system N α).restrict Fits).Reach q) :
    ∃ len, (∀ fuel, N ≤ fuel → q.length fuel = some len) ∧
      (q.isFull = true ↔ len = N) ∧ (q.isEmpty = true ↔ len = 0) ∧
      ∀ elem, q.InsertFits → ((q.insert elem).1 = true ↔ len < N) := by
  have htight : ∃ l, q.Tight l :=
    exists_of_reach Tight (fun mem => ⟨[], tight_fresh mem⟩)
      (fun _ _ _ h hacc hfits => h.call hacc hfits) hreach
  obtain ⟨l, h⟩ := htight
  refine ⟨l.length, fun fuel hfuel => ?_, h.full, ?_, fun elem hfits => (h.insert hfits elem).1⟩
  · exact h.inv.wf.length_eq (Nat.le_trans h.inv.length_le hfuel)
  · rw [h.inv.wf.isEmpty_iff, List.length_eq_zero_iff]

theorem reach_fits_call (h : ((system N α).restrict Fits).Reach q) (c : Call N α)
    (hacc : q.Accepts c) (hfits : q.Fits (c, (q.call c).1)) :
    ((system N α).restrict Fits).Reach (q.call c).2 :=
  have hstep : ((system N α).restrict Fits).step q (c, (q.call c).1) (q.call c).2 :=
    ⟨⟨hacc, rfl⟩, hfits⟩
  .step h hstep

/-- Three slots: fill them, remove the middle one, and insert again. -/
theorem capacity_of_fits_refill :
    let q : StaticQueue 3 Nat :=
      (((((fresh fun _ => 0).insert 7).2.insert 8).2.insert 9).2.remove 1).insert 10 |>.2
    ∃ len, (∀ fuel, 3 ≤ fuel → q.length fuel = some len) ∧
      (q.isFull = true ↔ len = 3) ∧ (q.isEmpty = true ↔ len = 0) ∧
      ∀ elem, q.InsertFits → ((q.insert elem).1 = true ↔ len < 3) := by
  have h0 : ((system 3 Nat).restrict Fits).Reach (fresh fun _ => 0) := .init ⟨_, rfl⟩
  have h1 := reach_fits_call h0 (.insert 7) trivial (by decide)
  have h2 := reach_fits_call h1 (.insert 8) trivial (by decide)
  have h3 := reach_fits_call h2 (.insert 9) trivial (by decide)
  have h4 := reach_fits_call h3 (.remove 1) ⟨3, [0, 1, 2], rfl, by decide⟩ trivial
  have h5 := reach_fits_call h4 (.insert 10) trivial (by decide)
  exact capacity_of_fits h5

/-- Two slots: fill them, free the older one, and the next insert is refused
although one value is queued. -/
theorem insert_after_dequeue_refused :
    let q : StaticQueue 2 Nat := (((fresh fun _ => 0).insert 7).2.insert 8).2.dequeue.2
    (system 2 Nat).Reach q ∧ q.length 2 = some 1 ∧ ¬((q.insert 9).1 = true ↔ 1 < 2) := by
  have h0 : (system 2 Nat).Reach (fresh fun _ => 0) := .init ⟨_, rfl⟩
  have h1 := reach_call h0 (.insert 7) trivial
  have h2 := reach_call h1 (.insert 8) trivial
  exact ⟨reach_call h2 .dequeue trivial, by decide, by decide⟩

end StaticQueue

end XBeeMqtt
