import Mathlib.Data.List.FinRange
import XBeeMqtt.StaticQueue.Queue

/-!
# The representation invariant of the queue

`LinkedQueue.Wf q l` says that the queue `q` holds the nodes `l`, the oldest
first.  The three mutators keep it: `Wf.enqueueNode` appends a node whose
flag is clear, `Wf.dequeue` drops the first node, and `Wf.remove` drops the
given one.

The head pointer is the delicate part.  When the queue empties, `m_head` is
left on the node that went last.  That node is unlinked at that moment, so it
has no pointers, and the invariant only asks for that.  The next `enqueueNode`
links this stale node again: it stays outside the list, with its flag set.

`StaticQueue.Inv q l` adds the slot bookkeeping.  `Inv.fillSlot` is the insert
step and `Inv.reset` the loop of `reset`.
-/

namespace XBeeMqtt

open DoublyLinked

universe u v

/-! ## `LinkedQueue` -/

namespace LinkedQueue

variable {ι : Type u} {α : Type v}

/-- The queue holds the nodes `l`, the oldest first. -/
structure Wf (q : LinkedQueue ι α) (l : List ι) : Prop where
  heap : q.heap.Wf l
  tail : q.tail = l.head?
  head : ∃ x, q.head = some x ∧ (l ≠ [] → l.getLast? = some x) ∧
    (l = [] → (q.heap x).linked = false)

variable {q : LinkedQueue ι α} {l : List ι}

theorem Wf.isEmpty_iff (w : q.Wf l) : q.isEmpty = true ↔ l = [] := by
  rw [isEmpty, w.tail]
  cases l <;> simp

theorem Wf.chain (w : q.Wf l) : Chain q.heap.links.next q.peakNode l := by
  have hc := w.heap.links.chain
  rwa [← w.tail] at hc

/-- The traversal from `peakNode()` ends, and it lists the nodes. -/
theorem Wf.nodes_eq (w : q.Wf l) {fuel : Nat} (hfuel : l.length ≤ fuel) :
    q.nodes fuel = some l :=
  walk_of_chain w.chain hfuel

theorem Wf.nodes_unique (w : q.Wf l) {fuel : Nat} {l' : List ι}
    (h : q.nodes fuel = some l') : l' = l :=
  (chain_of_walk h).unique w.chain

private theorem lengthLoop_eq (fuel : Nat) (p : Option ι) (len : Nat) :
    q.lengthLoop fuel p len = (walk q.heap.links.next fuel p).map fun l => len + l.length := by
  induction fuel generalizing p len with
  | zero => cases p <;> rfl
  | succ fuel ih =>
    cases p with
    | none => rfl
    | some x =>
      rw [lengthLoop, ih, walk, Heap.links_next]
      cases walk q.heap.links.next fuel (q.heap x).next with
      | none => rfl
      | some l =>
        show some (len + 1 + l.length) = some (len + (x :: l).length)
        rw [List.length_cons]
        congr 1
        omega

/-- `length()` counts the nodes of the traversal, and ends when it does. -/
theorem length_eq_nodes (q : LinkedQueue ι α) (fuel : Nat) :
    q.length fuel = (q.nodes fuel).map List.length := by
  rw [length, lengthLoop_eq, nodes, peakNode]
  simp only [Nat.zero_add]

/-- `length()` ends, and it counts the nodes. -/
theorem Wf.length_eq (w : q.Wf l) {fuel : Nat} (hfuel : l.length ≤ fuel) :
    q.length fuel = some l.length := by
  rw [length_eq_nodes, w.nodes_eq hfuel]
  rfl

variable [DecidableEq ι]

/-- A node outside the list with a null `next()` is appended. -/
theorem Wf.enqueueNode_of_next (w : q.Wf l) (hfull : q.full = false) {e : ι} (he : e ∉ l)
    (hnext : (q.heap e).next = none) : (q.enqueueNode e).2.Wf (l ++ [e]) := by
  obtain ⟨x, hx, hlast, hstale⟩ := w.head
  have htail : (q.enqueueNode e).2.tail = (l ++ [e]).head? := by
    cases l <;> simp [LinkedQueue.enqueueNode, hfull, w.tail]
  have hhead : (q.enqueueNode e).2.head = some e := by
    simp [LinkedQueue.enqueueNode, hfull]
  have hheap : (q.enqueueNode e).2.heap = (Heap.link q.heap x e).2 := by
    simp [LinkedQueue.enqueueNode, hfull, hx]
  refine ⟨?_, htail, e, hhead, by simp, by simp⟩
  rw [hheap]
  by_cases hxe : x = e
  · subst hxe
    have hl : l = [] := by
      by_contra hl
      exact he (List.mem_of_getLast? (hlast hl))
    subst hl
    exact w.heap.link_self (hstale rfl)
  · refine w.heap.link hlast ?_ hxe hnext (w.heap.links.outside e he)
    by_cases hl : l = []
    · exact (w.heap.idle x (hstale hl)).1
    · exact w.heap.links.chain.next_getLast (hlast hl)

/-- The three effects of `enqueueNode` on a node whose flag is clear: the node
is appended, its flag and the flag of the node that `m_head` pointed at are
set, and no value moves. -/
theorem Wf.enqueueNode (w : q.Wf l) (hfull : q.full = false) {e : ι}
    (he : (q.heap e).linked = false) : (q.enqueueNode e).2.Wf (l ++ [e]) :=
  w.enqueueNode_of_next hfull (w.heap.not_mem he) (w.heap.idle e he).1

theorem enqueueNode_linked (hfull : q.full = false) {x : ι} (hx : q.head = some x)
    (e y : ι) : ((q.enqueueNode e).2.heap y).linked =
      if y = x ∨ y = e then true else (q.heap y).linked := by
  simp [LinkedQueue.enqueueNode, hfull, hx, Heap.link_linked]

theorem enqueueNode_value (e y : ι) :
    ((q.enqueueNode e).2.heap y).value = (q.heap y).value := by
  unfold LinkedQueue.enqueueNode
  cases q.full <;> cases q.head <;> simp [Heap.link_value]

@[simp] theorem enqueueNode_full (e : ι) : (q.enqueueNode e).2.full = q.full := by
  unfold LinkedQueue.enqueueNode
  cases hf : q.full <;> simp [hf]

/-! ### Taking a node out -/

theorem dequeue_nil (w : q.Wf []) : q.dequeue = (none, q) := by
  have ht : q.tail = none := w.tail
  simp [LinkedQueue.dequeue, dequeueNode, ht]

theorem Wf.dequeue_cons {x : ι} (w : q.Wf (x :: l)) :
    q.dequeue = (some (q.heap x).value,
      { q with tail := (q.heap x).next, heap := Heap.unlink q.heap x, full := false }) := by
  have ht : q.tail = some x := w.tail
  simp [LinkedQueue.dequeue, dequeueNode, ht, w.heap.unlink_value]

theorem Wf.dequeue {x : ι} (w : q.Wf (x :: l)) : q.dequeue.2.Wf l := by
  obtain ⟨y, hy, hlast, _⟩ := w.head
  have hheap := w.heap.unlink x
  rw [List.erase_cons_head] at hheap
  rw [w.dequeue_cons]
  refine ⟨hheap, ?_, y, hy, ?_, ?_⟩
  · exact w.heap.links.chain.2.eq_head?
  · intro hl
    have hgl := hlast (List.cons_ne_nil x l)
    cases l with
    | nil => exact absurd rfl hl
    | cons z l => simpa using hgl
  · intro heq
    subst heq
    have hxy : x = y := by simpa using hlast (by simp)
    simp [w.heap.unlink_linked, hxy]

/-- The head pointer after the last node of a longer list is taken out. -/
private theorem prev_of_last {x : ι} (w : q.Wf l) (hlast : l.getLast? = some x)
    (hfirst : l.head? ≠ some x) :
    ∃ y, (q.heap x).prev = some y ∧ l.erase x ≠ [] ∧ (l.erase x).getLast? = some y := by
  obtain ⟨a, rfl⟩ := List.getLast?_eq_some_iff.1 hlast
  have hxa : x ∉ a := fun hxa =>
    (List.nodup_append.1 w.heap.links.nodup).2.2 x hxa x (by simp) rfl
  have herase : (a ++ [x]).erase x = a := by
    rw [List.erase_append_right _ hxa, List.erase_cons_head, List.append_nil]
  rcases List.eq_nil_or_concat a with rfl | ⟨b, y, rfl⟩
  · exact absurd rfl hfirst
  · refine ⟨y, ?_, by rw [herase]; simp, by rw [herase]; simp⟩
    have hlinks := w.heap.links
    rw [List.concat_eq_append, List.append_assoc] at hlinks
    exact hlinks.prev_of_append

private theorem getLast?_erase_of_ne {x y : ι} (hlast : l.getLast? = some y) (hxy : y ≠ x) :
    l.erase x ≠ [] ∧ (l.erase x).getLast? = some y := by
  obtain ⟨a, rfl⟩ := List.getLast?_eq_some_iff.1 hlast
  by_cases hxa : x ∈ a
  · rw [List.erase_append_left _ hxa]
    simp
  · rw [List.erase_append_right _ hxa, List.erase_of_not_mem (by simpa using Ne.symm hxy)]
    simp

theorem Wf.remove {x : ι} (w : q.Wf l) (hx : x ∈ l) : (q.remove x).Wf (l.erase x) := by
  by_cases ht : q.tail = some x
  · have hrem : q.remove x = q.dequeue.2 := by simp [LinkedQueue.remove, ht]
    cases l with
    | nil => simp at hx
    | cons y l =>
      obtain rfl : y = x := by
        rw [w.tail] at ht
        simpa using ht
      rw [hrem, List.erase_cons_head]
      exact w.dequeue
  · have hfirst : l.head? ≠ some x := by rwa [← w.tail]
    have hheap := w.heap.unlink x
    have hne : l ≠ [] := List.ne_nil_of_mem hx
    obtain ⟨y, hy, hlast, _⟩ := w.head
    have hlast := hlast hne
    have htail : q.tail = (l.erase x).head? := by
      rw [w.tail]
      cases l with
      | nil => rfl
      | cons z l =>
        have hzx : z ≠ x := by simpa using hfirst
        rw [List.erase_cons_tail (by simpa using hzx)]
        rfl
    by_cases hyx : y = x
    · subst hyx
      obtain ⟨z, hz, hne', hz'⟩ := prev_of_last w hlast hfirst
      refine ⟨?_, ?_, z, ?_, fun _ => hz', fun hnil => absurd hnil hne'⟩
      · simpa [LinkedQueue.remove, ht, hy] using hheap
      · simpa [LinkedQueue.remove, ht, hy] using htail
      · simp [LinkedQueue.remove, ht, hy, hz]
    · obtain ⟨hne', hlast'⟩ := getLast?_erase_of_ne hlast hyx
      refine ⟨?_, ?_, y, ?_, fun _ => hlast', fun hnil => absurd hnil hne'⟩
      · simpa [LinkedQueue.remove, ht, hy, hyx] using hheap
      · simpa [LinkedQueue.remove, ht, hy, hyx] using htail
      · simp [LinkedQueue.remove, ht, hy, hyx]

/-- `remove` only touches the nodes through `unlink`. -/
theorem Wf.remove_heap {x : ι} (w : q.Wf l) :
    (q.remove x).heap = Heap.unlink q.heap x := by
  by_cases ht : q.tail = some x
  · cases l with
    | nil => rw [w.tail] at ht; simp at ht
    | cons y l =>
      obtain rfl : y = x := by
        rw [w.tail] at ht
        simpa using ht
      simp [LinkedQueue.remove, ht, w.dequeue_cons]
  · by_cases hh : q.head = some x <;> simp [LinkedQueue.remove, ht, hh]

theorem Wf.remove_full {x : ι} (w : q.Wf l) : (q.remove x).full = false := by
  by_cases ht : q.tail = some x
  · cases l with
    | nil => rw [w.tail] at ht; simp at ht
    | cons y l => simp [LinkedQueue.remove, ht, w.dequeue_cons]
  · by_cases hh : q.head = some x <;> simp [LinkedQueue.remove, ht, hh]

/-- Writing a fresh node into an unlinked one only changes its value. -/
theorem Wf.store (w : q.Wf l) {x : ι} (hx : (q.heap x).linked = false) (value : α) :
    { q with heap := Function.update q.heap x (LinkedNode.mk' value) }.Wf l := by
  have hlinked : ∀ y, (Function.update q.heap x (LinkedNode.mk' value) y).linked =
      (q.heap y).linked := by
    intro y
    by_cases hyx : y = x
    · simp [hyx, LinkedNode.mk', hx]
    · simp [hyx]
  obtain ⟨hn, hp⟩ := w.heap.idle x hx
  have hlinks : Heap.links (Function.update q.heap x (LinkedNode.mk' value)) = q.heap.links := by
    refine Links.ext (funext fun y => ?_) (funext fun y => ?_) <;>
      by_cases hyx : y = x <;> simp [hyx, LinkedNode.mk', hn, hp]
  obtain ⟨y, hy, hlast, hstale⟩ := w.head
  refine ⟨⟨?_, ?_, ?_⟩, w.tail, y, hy, hlast, fun hl => by rw [hlinked]; exact hstale hl⟩
  · rw [hlinks]
    exact w.heap.links
  · intro z hz
    rw [hlinked]
    exact w.heap.linked z hz
  · intro z hz
    rw [hlinked] at hz
    have hidle := w.heap.idle z hz
    rw [← Heap.links_next, ← Heap.links_prev, ← hlinks] at hidle
    exact hidle

end LinkedQueue

/-! ## The slot scan -/

theorem findEmptySlotLoop_eq_some {isLinked : Nat → Bool} {n slotIndex fuel i j : Nat}
    (h : findEmptySlotLoop isLinked n slotIndex fuel i = some j) :
    isLinked j = false ∧ j ≠ slotIndex := by
  induction fuel generalizing i with
  | zero => simp [findEmptySlotLoop] at h
  | succ fuel ih =>
    rw [findEmptySlotLoop] at h
    split at h
    · simp at h
    · rename_i hne
      split at h
      · rename_i hfree
        obtain rfl : i = j := by simpa using h
        exact ⟨hfree, hne⟩
      · exact ih h

namespace StaticQueue

variable {N : Nat} {α : Type v} {q : StaticQueue N α} {l : List (Fin N)}

theorem isLinked_val (i : Fin N) : q.isLinked i = (q.heap i).linked := by
  simp [isLinked]

/-- `findEmptySlot` answers null and changes nothing, or it answers a slot
whose flag is clear, other than the one it started behind, and remembers its
index. -/
theorem findEmptySlot_cases (q : StaticQueue N α) :
    q.findEmptySlot = (none, q) ∨
      ∃ s : Fin N, (q.heap s).linked = false ∧ s.val ≠ q.slotIndex ∧
        q.findEmptySlot = (some s, { q with slotIndex := s.val }) := by
  cases hloop : findEmptySlotLoop q.isLinked N q.slotIndex (N + 1) (q.slotIndex + 1) with
  | none => exact Or.inl (by simp [findEmptySlot, hloop])
  | some i =>
    obtain ⟨hfree, hne⟩ := findEmptySlotLoop_eq_some hloop
    have hi : i < N := by
      by_contra hi
      simp [isLinked, hi] at hfree
    refine Or.inr ⟨⟨i, hi⟩, ?_, hne, by simp [findEmptySlot, hloop, hi]⟩
    simpa [isLinked, hi] using hfree

/-- The scan only reads the flags and the remembered index. -/
theorem findEmptySlot_fst_congr {q' : StaticQueue N α} (hheap : q'.heap = q.heap)
    (hslot : q'.slotIndex = q.slotIndex) : q'.findEmptySlot.1 = q.findEmptySlot.1 := by
  have hlinked : q'.isLinked = q.isLinked := by
    funext i
    simp [isLinked, hheap]
  unfold findEmptySlot
  rw [hlinked, hslot]
  cases findEmptySlotLoop q.isLinked N q.slotIndex (N + 1) (q.slotIndex + 1) with
  | none => rfl
  | some i => by_cases hi : i < N <;> simp [hi]

/-! ## `StaticQueue` -/

/-- The queue holds the slots `l`, the oldest first.  A cached next slot is
the remembered one and is not linked, and a full queue has none and would find
none. -/
structure Inv (q : StaticQueue N α) (l : List (Fin N)) : Prop where
  wf : q.toLinkedQueue.Wf l
  slot : q.slotIndex < N
  next : ∀ s, q.nextAvailableSlot = some s →
    s.val = q.slotIndex ∧ (q.heap s).linked = false
  full : q.full = true → q.nextAvailableSlot = none ∧ q.findEmptySlot.1 = none

/-! ### Filling a slot -/

theorem enqueueSlot_wf (w : q.toLinkedQueue.Wf l) (hfull : q.full = false) {s : Fin N}
    (hs : (q.heap s).linked = false) (elem : α) :
    (q.enqueueSlot s elem).toLinkedQueue.Wf (l ++ [s]) :=
  (w.store hs elem).enqueueNode hfull (by simp [LinkedNode.mk'])

theorem enqueueSlot_linked (hfull : q.full = false) {s x : Fin N}
    (hx : q.head = some x) (elem : α) (y : Fin N) :
    ((q.enqueueSlot s elem).heap y).linked =
      if y = x ∨ y = s then true else (q.heap y).linked := by
  have hlink := @LinkedQueue.enqueueNode_linked _ _ (q.copyNode s elem).toLinkedQueue _
    hfull x hx s y
  rw [enqueueSlot, hlink]
  by_cases hys : y = s <;> simp [copyNode, hys]

theorem enqueueSlot_value (s : Fin N) (elem : α) (y : Fin N) :
    ((q.enqueueSlot s elem).heap y).value = if y = s then elem else (q.heap y).value := by
  rw [enqueueSlot, LinkedQueue.enqueueNode_value]
  by_cases hys : y = s <;> simp [copyNode, hys, LinkedNode.mk']

@[simp] theorem enqueueSlot_full (s : Fin N) (elem : α) :
    (q.enqueueSlot s elem).full = q.full := by
  simp [enqueueSlot, copyNode]

/-- `fillSlot` by the outcome of the scan at its end. -/
theorem fillSlot_cases (q : StaticQueue N α) (s : Fin N) (elem : α) :
    (q.enqueueSlot s elem).findEmptySlot.1 = none ∧
      q.fillSlot s elem =
        { q.enqueueSlot s elem with full := true, nextAvailableSlot := none } ∨
    ∃ t : Fin N, ((q.enqueueSlot s elem).heap t).linked = false ∧
      (q.enqueueSlot s elem).findEmptySlot.1 = some t ∧
      q.fillSlot s elem =
        { q.enqueueSlot s elem with nextAvailableSlot := some t, slotIndex := t.val } := by
  rcases (q.enqueueSlot s elem).findEmptySlot_cases with hnone | ⟨t, ht, _, hsome⟩
  · exact Or.inl ⟨by rw [hnone], by simp [fillSlot, hnone, LinkedQueue.setFull]⟩
  · exact Or.inr ⟨t, ht, by rw [hsome], by simp [fillSlot, hsome]⟩

theorem Inv.fillSlot (w : q.toLinkedQueue.Wf l) (hslot : q.slotIndex < N)
    (hfull : q.full = false) {s : Fin N} (hs : (q.heap s).linked = false) (elem : α) :
    (q.fillSlot s elem).Inv (l ++ [s]) := by
  have hwf := enqueueSlot_wf w hfull hs elem
  rcases q.fillSlot_cases s elem with ⟨hscan, heq⟩ | ⟨t, ht, _, heq⟩
  · rw [heq]
    refine ⟨⟨hwf.heap, hwf.tail, hwf.head⟩, hslot, by simp, fun _ => ⟨rfl, ?_⟩⟩
    rw [← hscan]
    exact findEmptySlot_fst_congr rfl rfl
  · rw [heq]
    refine ⟨hwf, t.isLt, ?_, ?_⟩
    · intro u hu
      obtain rfl : t = u := by simpa using hu
      exact ⟨rfl, ht⟩
    · simp [hfull]

theorem fillSlot_value (s : Fin N) (elem : α) (y : Fin N) :
    ((q.fillSlot s elem).heap y).value = if y = s then elem else (q.heap y).value := by
  rw [← enqueueSlot_value]
  rcases q.fillSlot_cases s elem with ⟨_, heq⟩ | ⟨t, _, _, heq⟩ <;> rw [heq]

/-! ### The four calls -/

/-- `insert` refuses and changes nothing, or it fills an unlinked slot. -/
theorem Inv.insert_cases (h : q.Inv l) (elem : α) :
    q.insert elem = (false, q) ∧ q.nextAvailableSlot = none ∧ q.findEmptySlot.1 = none ∨
    ∃ (q₀ : StaticQueue N α) (s : Fin N), q.insert elem = (true, q₀.fillSlot s elem) ∧
      q₀.toLinkedQueue = q.toLinkedQueue ∧ q₀.slotIndex = s.val ∧
      (q.heap s).linked = false ∧ q.full = false ∧
      (q.nextAvailableSlot = some s ∨
        q.nextAvailableSlot = none ∧ q.findEmptySlot.1 = some s) := by
  cases hnext : q.nextAvailableSlot with
  | some s =>
    obtain ⟨hslot, hfree⟩ := h.next s hnext
    have hfull : q.full = false := by
      by_contra hf
      have := (h.full (by simpa using hf)).1
      simp [hnext] at this
    exact Or.inr ⟨q, s, by simp [insert, hnext], rfl, hslot.symm, hfree, hfull, Or.inl rfl⟩
  | none =>
    rcases q.findEmptySlot_cases with hnone | ⟨s, hfree, _, hsome⟩
    · refine Or.inl ⟨?_, rfl, by rw [hnone]⟩
      have hq : { q with nextAvailableSlot := none } = q := by rw [← hnext]
      simp only [insert, hnext, hnone, hq]
    · have hfull : q.full = false := by
        by_contra hf
        have := (h.full (by simpa using hf)).2
        simp [hsome] at this
      refine Or.inr ⟨{ q with slotIndex := s.val, nextAvailableSlot := some s }, s, ?_, rfl,
        rfl, hfree, hfull, Or.inr ⟨rfl, by rw [hsome]⟩⟩
      simp [insert, hnext, hsome]

theorem Inv.insert_true (h : q.Inv l) (elem : α) {q₀ : StaticQueue N α} {s : Fin N}
    (hlist : q₀.toLinkedQueue = q.toLinkedQueue) (hslot : q₀.slotIndex = s.val)
    (hs : (q.heap s).linked = false) (hfull : q.full = false) :
    (q₀.fillSlot s elem).Inv (l ++ [s]) := by
  refine Inv.fillSlot ?_ ?_ ?_ ?_ elem
  · rw [hlist]
    exact h.wf
  · rw [hslot]
    exact s.isLt
  · rw [hlist]
    exact hfull
  · rw [hlist]
    exact hs

theorem Inv.dequeue_nil (h : q.Inv []) : q.dequeue = (none, q) := by
  simp [dequeue, LinkedQueue.dequeue_nil h.wf]

theorem Inv.dequeue_fst {x : Fin N} (h : q.Inv (x :: l)) :
    q.dequeue.1 = some (q.heap x).value := by
  simp [dequeue, h.wf.dequeue_cons]

theorem Inv.dequeue {x : Fin N} (h : q.Inv (x :: l)) : q.dequeue.2.Inv l := by
  have hwf := h.wf.dequeue
  refine ⟨hwf, h.slot, ?_, ?_⟩
  · intro s hs
    obtain ⟨hslot, hfree⟩ := h.next s hs
    refine ⟨hslot, ?_⟩
    simp [StaticQueue.dequeue, h.wf.dequeue_cons, h.wf.heap.unlink_linked, hfree]
  · simp [StaticQueue.dequeue, h.wf.dequeue_cons]

theorem Inv.remove {x : Fin N} (h : q.Inv l) (hx : x ∈ l) :
    (q.remove x).Inv (l.erase x) := by
  refine ⟨h.wf.remove hx, h.slot, ?_, ?_⟩
  · intro s hs
    obtain ⟨hslot, hfree⟩ := h.next s hs
    refine ⟨hslot, ?_⟩
    simp [StaticQueue.remove, h.wf.remove_heap, h.wf.heap.unlink_linked, hfree]
  · simp [StaticQueue.remove, h.wf.remove_full]

/-- The loop of `reset`, over any list of slots: they all end up unlinked. -/
private theorem foldl_unlink {h : Heap (Fin N) α} (w : h.Wf l) (xs : List (Fin N)) :
    (xs.foldl Heap.unlink h).Wf (xs.foldl List.erase l) ∧
      ∀ y, ((xs.foldl Heap.unlink h) y).linked =
        if y ∈ xs then false else (h y).linked := by
  induction xs generalizing h l with
  | nil => exact ⟨w, fun y => by simp⟩
  | cons x xs ih =>
    obtain ⟨hwf, hlinked⟩ := ih (w.unlink x)
    refine ⟨hwf, fun y => ?_⟩
    rw [List.foldl_cons, hlinked, w.unlink_linked]
    by_cases hyx : y = x <;> by_cases hyxs : y ∈ xs <;> simp [hyx, hyxs]

variable [NeZero N]

theorem inv_fresh (mem : Fin N → α) : (fresh mem).Inv [] := by
  have hN : 0 < N := Nat.pos_of_ne_zero (NeZero.ne N)
  refine ⟨⟨⟨⟨rfl, ?_, ?_⟩, ?_, ?_⟩, rfl, 0, rfl, ?_, ?_⟩, hN, ?_, ?_⟩ <;>
    simp [fresh, LinkedNode.mk']

/-- `reset` clears every flag. -/
theorem Inv.reset_linked (h : q.Inv l) (y : Fin N) : (q.reset.heap y).linked = false := by
  have hlinked := (foldl_unlink h.wf.heap (List.finRange N)).2 y
  rwa [if_pos (List.mem_finRange y)] at hlinked

theorem Inv.reset (h : q.Inv l) : q.reset.Inv [] := by
  have hN : 0 < N := Nat.pos_of_ne_zero (NeZero.ne N)
  have hwf : q.reset.heap.Wf _ := (foldl_unlink h.wf.heap (List.finRange N)).1
  have hnil : (List.finRange N).foldl List.erase l = [] := by
    apply List.eq_nil_iff_forall_not_mem.2
    intro y hy
    have hlinked := hwf.linked y hy
    rw [h.reset_linked y] at hlinked
    simp at hlinked
  rw [hnil] at hwf
  refine ⟨⟨hwf, rfl, 0, rfl, fun hne => absurd rfl hne, fun _ => h.reset_linked 0⟩, hN, ?_, ?_⟩
  · intro s hs
    obtain rfl : 0 = s := by simpa [StaticQueue.reset] using hs
    exact ⟨by simp [StaticQueue.reset], h.reset_linked 0⟩
  · simp [StaticQueue.reset, LinkedQueue.init]

end StaticQueue

end XBeeMqtt
