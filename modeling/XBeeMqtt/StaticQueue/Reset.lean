import XBeeMqtt.StaticQueue.Ownership

/-!
# `reset` and a new queue

`reset` unlinks the slots one by one, and each `unlink` sets the flags of the
two neighbours again.  No cleared slot is marked that way, since a slot whose
flag is clear is nobody's neighbour; so the queue is as `fresh` afterwards
(`reset_eq_fresh`).

The values stay behind in the array.  Two queues that differ only in values
outside of their list (`Mirrors`) answer every call alike: a value is written
when its slot enters the list, and read when it leaves.
-/

namespace XBeeMqtt

universe u v

/-! ## Other values in the same nodes -/

namespace Heap

variable {ι : Type u} {α : Type v}

/-- The same nodes with other values. -/
def withValues (h : Heap ι α) (v : ι → α) : Heap ι α := fun x => { h x with value := v x }

variable [DecidableEq ι] {h : Heap ι α}

theorem linkPrev_withValues (v : ι → α) (x : ι) (p : Option ι) :
    (linkPrev (withValues h v) x p).2 = withValues (linkPrev h x p).2 v := by
  unfold linkPrev withValues
  funext y
  by_cases hp : some x = p <;> by_cases hyx : y = x <;> simp [hp, hyx]

theorem linkNext_withValues (v : ι → α) (x : ι) (n : Option ι) :
    (linkNext (withValues h v) x n).2 = withValues (linkNext h x n).2 v := by
  unfold linkNext withValues
  funext y
  by_cases hn : some x = n <;> by_cases hyx : y = x <;> simp [hn, hyx]

theorem link_withValues (v : ι → α) (x e : ι) :
    (link (withValues h v) x e).2 = withValues (link h x e).2 v := by
  by_cases hxe : x = e
  · subst hxe
    unfold link withValues
    funext y
    by_cases hyx : y = x <;> simp [hyx]
  · rw [link_of_ne hxe, link_of_ne hxe]
    unfold withValues
    funext y
    by_cases hyx : y = x <;> by_cases hye : y = e <;> simp [hyx, hye, Ne.symm hxe]

private theorem clear_withValues (v : ι → α) (x : ι) :
    Function.update (withValues h v) x
        { withValues h v x with prev := none, next := none, linked := false } =
      withValues (Function.update h x { h x with prev := none, next := none, linked := false })
        v := by
  unfold withValues
  funext y
  by_cases hyx : y = x <;> simp [hyx]

theorem unlink_withValues (v : ι → α) (x : ι) :
    unlink (withValues h v) x = withValues (unlink h x) v := by
  have hnext : ∀ h : Heap ι α, (withValues h v x).next = (h x).next := fun _ => rfl
  have hprev : ∀ h : Heap ι α, (withValues h v x).prev = (h x).prev := fun _ => rfl
  unfold unlink
  dsimp only
  rw [← clear_withValues]
  cases hn : (h x).next with
  | none =>
    cases hp : (h x).prev with
    | none => simp only [hnext, hprev, hn, hp]
    | some p => simp only [hnext, hprev, hn, hp, linkNext_withValues]
  | some n =>
    simp only [hnext, hprev, hn, linkPrev_withValues]
    cases hp : ((linkPrev h n (h x).prev).2 x).prev with
    | none => rfl
    | some p => simp only [linkNext_withValues]

theorem foldl_unlink_withValues (v : ι → α) (xs : List ι) :
    xs.foldl unlink (withValues h v) = withValues (xs.foldl unlink h) v := by
  induction xs generalizing h with
  | nil => rfl
  | cons x xs ih => rw [List.foldl_cons, unlink_withValues, ih, List.foldl_cons]

/-- Unlinking writes no value. -/
theorem foldl_unlink_value (xs : List ι) (x : ι) :
    ((xs.foldl unlink h) x).value = (h x).value := by
  have hsame : xs.foldl unlink h = withValues (xs.foldl unlink h) fun y => (h y).value :=
    @foldl_unlink_withValues ι α _ h (fun y => (h y).value) xs
  rw [hsame]
  rfl

end Heap

namespace LinkedQueue

variable {ι : Type u} {α : Type v} {q : LinkedQueue ι α}

def withValues (q : LinkedQueue ι α) (v : ι → α) : LinkedQueue ι α :=
  { q with heap := Heap.withValues q.heap v }

variable [DecidableEq ι]

theorem enqueueNode_withValues (v : ι → α) (e : ι) :
    ((q.withValues v).enqueueNode e).2 = (q.enqueueNode e).2.withValues v := by
  unfold LinkedQueue.enqueueNode
  cases hfull : q.full with
  | true => simp [withValues, hfull]
  | false =>
    cases hhead : q.head with
    | none => simp [withValues, hfull, hhead]
    | some x => simp [withValues, hfull, hhead, Heap.link_withValues]

/-- `dequeue` reads the value of the node that it takes out. -/
theorem dequeue_withValues (v : ι → α) :
    (q.withValues v).dequeue = (q.tail.map v, q.dequeue.2.withValues v) := by
  unfold LinkedQueue.dequeue dequeueNode
  cases htail : q.tail with
  | none => simp [withValues, htail]
  | some x =>
    simp only [withValues, htail, Heap.unlink_withValues, Option.map_some]
    rfl

theorem remove_withValues (v : ι → α) (e : ι) :
    (q.withValues v).remove e = (q.remove e).withValues v := by
  unfold LinkedQueue.remove
  by_cases htail : q.tail = some e
  · have htail' : (q.withValues v).tail = some e := htail
    rw [if_pos htail, if_pos htail', dequeue_withValues]
  · have htail' : ¬(q.withValues v).tail = some e := htail
    rw [if_neg htail, if_neg htail']
    by_cases hhead : q.head = some e
    · have hhead' : (q.withValues v).head = some e := hhead
      rw [if_pos hhead, if_pos hhead']
      simp only [withValues, Heap.unlink_withValues]
      rfl
    · have hhead' : ¬(q.withValues v).head = some e := hhead
      rw [if_neg hhead, if_neg hhead']
      simp only [withValues, Heap.unlink_withValues]

end LinkedQueue

namespace StaticQueue

variable {N : Nat} {α : Type v} {q q' : StaticQueue N α} {l : List (Fin N)}

def withValues (q : StaticQueue N α) (v : Fin N → α) : StaticQueue N α :=
  { q with toLinkedQueue := q.toLinkedQueue.withValues v }

theorem copyNode_withValues (v : Fin N → α) (s : Fin N) (elem : α) :
    (q.withValues v).copyNode s elem =
      (q.copyNode s elem).withValues (Function.update v s elem) := by
  have hheap : Function.update (Heap.withValues q.heap v) s (LinkedNode.mk' elem) =
      Heap.withValues (Function.update q.heap s (LinkedNode.mk' elem))
        (Function.update v s elem) := by
    funext y
    by_cases hys : y = s
    · subst hys
      simp [Heap.withValues, LinkedNode.mk']
    · simp [Heap.withValues, hys]
  unfold copyNode withValues LinkedQueue.withValues
  dsimp only
  rw [hheap]

theorem enqueueSlot_withValues (v : Fin N → α) (s : Fin N) (elem : α) :
    (q.withValues v).enqueueSlot s elem =
      (q.enqueueSlot s elem).withValues (Function.update v s elem) := by
  have henqueue := @LinkedQueue.enqueueNode_withValues _ _ (q.copyNode s elem).toLinkedQueue _
    (Function.update v s elem) s
  unfold enqueueSlot
  rw [copyNode_withValues]
  unfold withValues at henqueue ⊢
  dsimp only
  rw [henqueue]

theorem findEmptySlot_withValues (v : Fin N → α) :
    (q.withValues v).findEmptySlot =
      (q.findEmptySlot.1, q.findEmptySlot.2.withValues v) := by
  have hlinked : (q.withValues v).isLinked = q.isLinked := rfl
  have hslot : (q.withValues v).slotIndex = q.slotIndex := rfl
  unfold findEmptySlot
  rw [hlinked, hslot]
  cases findEmptySlotLoop q.isLinked N q.slotIndex (N + 1) (q.slotIndex + 1) with
  | none => rfl
  | some i =>
    by_cases hi : i < N
    · simp only [hi, dif_pos]
      rfl
    · simp only [hi, dif_neg, not_false_eq_true]

theorem fillSlot_withValues (v : Fin N → α) (s : Fin N) (elem : α) :
    (q.withValues v).fillSlot s elem =
      (q.fillSlot s elem).withValues (Function.update v s elem) := by
  unfold fillSlot
  rw [enqueueSlot_withValues, findEmptySlot_withValues]
  dsimp only
  by_cases hnone : (q.enqueueSlot s elem).findEmptySlot.1 = none
  · rw [if_pos hnone, if_pos hnone]
    rfl
  · rw [if_neg hnone, if_neg hnone]
    rfl

theorem reset_withValues [NeZero N] (v : Fin N → α) :
    (q.withValues v).reset = q.reset.withValues v := by
  have hheap := @Heap.foldl_unlink_withValues _ _ _ q.heap v (List.finRange N)
  unfold reset
  dsimp only [withValues, LinkedQueue.withValues, LinkedQueue.init]
  rw [hheap]

/-- `fillSlot` does not look at the cached slot. -/
theorem fillSlot_congr (hlist : q'.toLinkedQueue = q.toLinkedQueue)
    (hslot : q'.slotIndex = q.slotIndex) (s : Fin N) (elem : α) :
    q'.fillSlot s elem = q.fillSlot s elem := by
  obtain ⟨list, next, slotIndex⟩ := q
  obtain ⟨list', next', slotIndex'⟩ := q'
  obtain rfl : list' = list := hlist
  obtain rfl : slotIndex' = slotIndex := hslot
  have hscan : ((⟨list', next', slotIndex'⟩ : StaticQueue N α).enqueueSlot s elem).findEmptySlot.1 =
      ((⟨list', next, slotIndex'⟩ : StaticQueue N α).enqueueSlot s elem).findEmptySlot.1 :=
    findEmptySlot_fst_congr rfl rfl
  rcases fillSlot_cases ⟨list', next', slotIndex'⟩ s elem with ⟨hnone, heq⟩ | ⟨t, _, hsome, heq⟩ <;>
    rcases fillSlot_cases ⟨list', next, slotIndex'⟩ s elem with
      ⟨hnone', heq'⟩ | ⟨t', _, hsome', heq'⟩
  · rw [heq, heq']
    rfl
  · rw [hscan, hsome'] at hnone
    exact absurd hnone (Option.some_ne_none t')
  · rw [hscan, hnone'] at hsome
    exact absurd hsome.symm (Option.some_ne_none t)
  · obtain rfl : t' = t := Option.some.inj (hsome'.symm.trans (hscan.symm.trans hsome))
    rw [heq, heq']
    rfl

/-! ## Queues that answer alike -/

theorem Inv.withValues (h : q.Inv l) (v : Fin N → α) : (q.withValues v).Inv l := by
  have hscan : (q.withValues v).findEmptySlot.1 = q.findEmptySlot.1 := by
    rw [findEmptySlot_withValues]
  refine ⟨⟨⟨h.wf.heap.links, h.wf.heap.linked, h.wf.heap.idle⟩, h.wf.tail, h.wf.head⟩, h.slot,
    h.next, fun hfull => ?_⟩
  rw [hscan]
  exact h.full hfull

/-- The second queue differs only in values outside of the list. -/
def Mirrors (q q' : StaticQueue N α) : Prop :=
  ∃ l v, q.Inv l ∧ q' = q.withValues v ∧ ∀ x ∈ l, v x = (q.heap x).value

theorem Mirrors.insert (h : q.Mirrors q') (elem : α) :
    (q'.insert elem).1 = (q.insert elem).1 ∧ (q.insert elem).2.Mirrors (q'.insert elem).2 := by
  obtain ⟨l, v, hinv, rfl, hvalues⟩ := h
  have hinv' := hinv.withValues v
  have hscan : (q.withValues v).findEmptySlot.1 = q.findEmptySlot.1 := by
    rw [findEmptySlot_withValues]
  rcases hinv.insert_cases elem with
    ⟨heq, hnone, hempty⟩ | ⟨q₀, s, heq, hlist, hslot, hs, hfull, hfills⟩
  · have heq' : (q.withValues v).insert elem = (false, q.withValues v) := by
      rcases hinv'.insert_cases elem with ⟨heq', _, _⟩ | ⟨_, s, _, _, _, _, _, hfills⟩
      · exact heq'
      · rcases hfills with hsome | ⟨_, hsome⟩
        · exact absurd (hnone.symm.trans hsome).symm (Option.some_ne_none s)
        · exact absurd ((hscan.trans hempty).symm.trans hsome).symm (Option.some_ne_none s)
    rw [heq, heq']
    exact ⟨rfl, l, v, hinv, rfl, hvalues⟩
  · rw [← hscan] at hfills
    obtain ⟨q₁, heq', hlist', hslot', _, _⟩ := hinv'.insert_next elem hfills
    have hfill : q₁.fillSlot s elem =
        (q₀.fillSlot s elem).withValues (Function.update v s elem) := by
      have hlist₁ : q₁.toLinkedQueue = (q₀.withValues v).toLinkedQueue := by
        rw [hlist']
        unfold StaticQueue.withValues
        rw [hlist]
      rw [← fillSlot_withValues]
      exact fillSlot_congr hlist₁ (hslot'.trans hslot.symm) s elem
    rw [heq, heq', hfill]
    refine ⟨rfl, l ++ [s], _, hinv.insert_true elem hlist hslot hs hfull, rfl, fun x hx => ?_⟩
    rw [fillSlot_value, Function.update_apply]
    by_cases hxs : x = s
    · rw [if_pos hxs, if_pos hxs]
    · rw [if_neg hxs, if_neg hxs, hlist]
      refine hvalues x ?_
      rcases List.mem_append.1 hx with hx | hx
      · exact hx
      · exact absurd (List.mem_singleton.1 hx) hxs

theorem Mirrors.dequeue (h : q.Mirrors q') :
    q'.dequeue.1 = q.dequeue.1 ∧ q.dequeue.2.Mirrors q'.dequeue.2 := by
  obtain ⟨l, v, hinv, rfl, hvalues⟩ := h
  have heq : (q.withValues v).dequeue = (q.tail.map v, q.dequeue.2.withValues v) := by
    have hdequeue := @LinkedQueue.dequeue_withValues _ _ q.toLinkedQueue _ v
    unfold StaticQueue.dequeue withValues
    dsimp only
    rw [hdequeue]
  rw [heq]
  cases l with
  | nil =>
    have htail : q.tail = none := hinv.wf.tail
    rw [hinv.dequeue_nil, htail]
    exact ⟨rfl, [], v, hinv, rfl, hvalues⟩
  | cons x l =>
    have htail : q.tail = some x := hinv.wf.tail
    refine ⟨?_, l, v, hinv.dequeue, rfl, fun y hy => ?_⟩
    · rw [hinv.dequeue_fst, htail, Option.map_some, hvalues x List.mem_cons_self]
    · rw [hvalues y (List.mem_cons_of_mem x hy)]
      simp [StaticQueue.dequeue, hinv.wf.dequeue_cons, hinv.wf.heap.unlink_value]

theorem Mirrors.remove (h : q.Mirrors q') {slot : Fin N} {fuel : Nat} {nodes : List (Fin N)}
    (hnodes : q.nodes fuel = some nodes) (hslot : slot ∈ nodes) :
    (q.remove slot).Mirrors (q'.remove slot) := by
  obtain ⟨l, v, hinv, rfl, hvalues⟩ := h
  rw [hinv.wf.nodes_unique hnodes] at hslot
  refine ⟨l.erase slot, v, hinv.remove hslot, ?_, fun y hy => ?_⟩
  · have hremove := @LinkedQueue.remove_withValues _ _ q.toLinkedQueue _ v slot
    unfold StaticQueue.remove withValues
    dsimp only
    rw [hremove]
  · rw [hvalues y (List.mem_of_mem_erase hy)]
    simp [StaticQueue.remove, hinv.wf.remove_heap, hinv.wf.heap.unlink_value]

/-- The nodes of the traversal do not depend on the values. -/
theorem Mirrors.nodes (h : q.Mirrors q') (fuel : Nat) : q'.nodes fuel = q.nodes fuel := by
  obtain ⟨l, v, _, rfl, _⟩ := h
  rfl

theorem Mirrors.accepts_iff (h : q.Mirrors q') (c : Call N α) : q'.Accepts c ↔ q.Accepts c := by
  cases c with
  | remove slot =>
    show (∃ fuel l, q'.nodes fuel = some l ∧ slot ∈ l) ↔ ∃ fuel l, q.nodes fuel = some l ∧ slot ∈ l
    simp only [h.nodes]
  | _ => exact Iff.rfl

variable [NeZero N]

theorem Mirrors.reset (h : q.Mirrors q') : q.reset.Mirrors q'.reset := by
  obtain ⟨l, v, hinv, rfl, _⟩ := h
  refine ⟨[], v, hinv.reset, reset_withValues v, fun x hx => ?_⟩
  exact absurd hx List.not_mem_nil

theorem Mirrors.call (h : q.Mirrors q') {c : Call N α} (hacc : q.Accepts c) :
    (q'.call c).1 = (q.call c).1 ∧ (q.call c).2.Mirrors (q'.call c).2 := by
  cases c with
  | insert elem => exact ⟨congrArg Answer.inserted (h.insert elem).1, (h.insert elem).2⟩
  | dequeue => exact ⟨congrArg Answer.dequeued h.dequeue.1, h.dequeue.2⟩
  | remove slot =>
    obtain ⟨fuel, nodes, hnodes, hslot⟩ := hacc
    exact ⟨rfl, h.remove hnodes hslot⟩
  | reset => exact ⟨rfl, h.reset⟩

/-- The queue after a call. -/
def after (q : StaticQueue N α) (c : Call N α) : StaticQueue N α := (q.call c).2

/-- The answers of calls in order. -/
def answers : StaticQueue N α → List (Call N α) → List (Answer α)
  | _, [] => []
  | q, c :: calls => (q.call c).1 :: answers (q.call c).2 calls

theorem Mirrors.answers (h : q.Mirrors q') (calls : List (Call N α)) :
    (Transition.Accepted Accepts after q' calls ↔ Transition.Accepted Accepts after q calls) ∧
      (Transition.Accepted Accepts after q calls → q'.answers calls = q.answers calls) := by
  induction calls generalizing q q' with
  | nil => exact ⟨Iff.rfl, fun _ => rfl⟩
  | cons c calls ih =>
    constructor
    · constructor
      · intro hacc
        have hc := (h.accepts_iff c).1 hacc.1
        exact ⟨hc, (ih (h.call hc).2).1.1 hacc.2⟩
      · intro hacc
        exact ⟨(h.accepts_iff c).2 hacc.1, (ih (h.call hacc.1).2).1.2 hacc.2⟩
    · intro hacc
      obtain ⟨hanswer, hnext⟩ := h.call hacc.1
      show _ :: _ = _ :: _
      rw [hanswer, (ih hnext).2 hacc.2]

/-! ## `reset` -/

theorem Inv.reset_eq_fresh (h : q.Inv l) : q.reset = fresh fun i => (q.heap i).value := by
  have hheap : q.reset.heap = (fresh fun i => (q.heap i).value).heap := by
    funext i
    have hlinked := h.reset_linked i
    obtain ⟨hnext, hprev⟩ := h.reset.wf.heap.idle i hlinked
    exact LinkedNode.ext hlinked hnext hprev (Heap.foldl_unlink_value (List.finRange N) i)
  unfold StaticQueue.reset fresh LinkedQueue.init at hheap ⊢
  dsimp only at hheap ⊢
  rw [hheap]

theorem mirrors_fresh (mem mem' : Fin N → α) : (fresh mem).Mirrors (fresh mem') :=
  ⟨[], mem', inv_fresh mem, rfl, fun _ hx => absurd hx List.not_mem_nil⟩

/-- After `reset` every slot and every field is as in a new queue, and all further
calls are answered as by a new queue. -/
theorem reset_restores (h : (system N α).Reach q) :
    q.reset = fresh (fun i => (q.heap i).value) ∧
    ∀ (mem : Fin N → α) (calls : List (Call N α)),
      (Transition.Accepted Accepts after q.reset calls ↔
        Transition.Accepted Accepts after (fresh mem) calls) ∧
      (Transition.Accepted Accepts after q.reset calls →
        q.reset.answers calls = (fresh mem).answers calls) := by
  obtain ⟨l, hinv⟩ := exists_inv_of_reach (h.restrict fun _ _ => trivial)
  rw [hinv.reset_eq_fresh]
  refine ⟨rfl, fun mem calls => ?_⟩
  obtain ⟨haccepted, hanswers⟩ := (mirrors_fresh mem fun i => (q.heap i).value).answers calls
  exact ⟨haccepted, fun hacc => hanswers (haccepted.1 hacc)⟩

/-- A queue that has lost a slot takes two values again after `reset`. -/
theorem reset_restores_lost :
    let q : StaticQueue 2 Nat := (((fresh fun _ => 0).insert 7).2.dequeue.2.insert 8).2
    q.reset = fresh (fun i => (q.heap i).value) ∧
      q.reset.answers [.insert 1, .insert 2, .dequeue, .dequeue] =
        (fresh fun _ => 0 : StaticQueue 2 Nat).answers
          [.insert 1, .insert 2, .dequeue, .dequeue] := by
  intro q
  have hreach : (system 2 Nat).Reach q :=
    have hfresh : (system 2 Nat).Reach (fresh fun _ => 0) := .init ⟨fun _ => 0, rfl⟩
    reach_call (reach_call (reach_call hfresh (.insert 7) trivial) .dequeue trivial)
      (.insert 8) trivial
  obtain ⟨hfresh, hcalls⟩ := reset_restores hreach
  exact ⟨hfresh, (hcalls (fun _ => 0) _).2 ⟨trivial, trivial, trivial, trivial, trivial⟩⟩

end StaticQueue

end XBeeMqtt
