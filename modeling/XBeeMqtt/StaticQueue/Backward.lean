import XBeeMqtt.StaticQueue.Ownership

/-!
# The traversal backwards

Both pointers of a node are kept up to date, so the list can also be followed
from its last node by `prev()`.  This gives the same nodes in reverse order as
long as the first node has no predecessor.

An insert into an empty queue links the node that `m_head` was left on to the
new one.  If that is another slot, the new first node has a predecessor that is
not in the queue (`fillSlot_prev`).  `run_traversalsAgree_iff` says that no
other insert breaks the traversal.
-/

namespace XBeeMqtt

open DoublyLinked

universe v

namespace StaticQueue

variable {N : Nat} {α : Type v} {q : StaticQueue N α} {l : List (Fin N)}

/-- The nodes met from a pointer by `prev()`. -/
def nodesBackward (q : StaticQueue N α) (fuel : Nat) (p : Option (Fin N)) :
    Option (List (Fin N)) :=
  walk q.heap.links.prev fuel p

/-- Following `prev()` from the last node of the forward traversal lists it in
reverse order and reaches null, and the first node has no predecessor. -/
def TraversalsAgree (q : StaticQueue N α) : Prop :=
  ∃ l, q.nodes N = some l ∧ q.nodesBackward N l.getLast? = some l.reverse ∧
    ∀ first, q.peakNode = some first → (q.heap first).prev = none

/-- The traversals agree when the first node has no predecessor. -/
theorem Inv.traversalsAgree (h : q.Inv l)
    (hfirst : ∀ first, q.peakNode = some first → (q.heap first).prev = none) :
    q.TraversalsAgree := by
  refine ⟨l, h.wf.nodes_eq h.length_le, ?_, hfirst⟩
  refine walk_of_chain (h.wf.heap.links.chain_reverse fun x hx => ?_) ?_
  · exact hfirst x (h.wf.tail.trans hx)
  · rw [List.length_reverse]
    exact h.length_le

/-- Without leaks the first node has no predecessor. -/
theorem Inv.prev_first (h : q.Inv l) (hleak : q.NoLeak l) {first : Fin N}
    (hfirst : q.peakNode = some first) : (q.heap first).prev = none := by
  cases hp : (q.heap first).prev with
  | none => rfl
  | some p =>
    -- a predecessor would be linked, hence in the list, and lead back to its start
    have hmem : p ∈ l := hleak p (h.wf.heap.linked_of_prev hp)
    have hnext : (q.heap p).next = some first := (h.wf.heap.links.inverse p first).2 hp
    exact absurd (hnext.trans hfirst.symm) (h.wf.chain.next_ne_start hmem)

/-- An insert behind a stale node leaves it as the predecessor of the new one. -/
theorem fillSlot_prev {q₀ : StaticQueue N α} {s x : Fin N}
    (hlist : q₀.toLinkedQueue = q.toLinkedQueue) (hfull : q.full = false)
    (hx : q.head = some x) (hxs : x ≠ s) (elem : α) :
    ((q₀.fillSlot s elem).heap s).prev = some x := by
  have hhead : q₀.head = some x := by rw [hlist]; exact hx
  have hfull₀ : q₀.full = false := by rw [hlist]; exact hfull
  have hheap : (q₀.enqueueSlot s elem).heap = (Heap.link (q₀.copyNode s elem).heap x s).2 := by
    simp [enqueueSlot, LinkedQueue.enqueueNode, copyNode, hfull₀, hhead]
  rw [fillSlot_heap, hheap, Heap.link_of_ne hxs, Function.update_of_ne hxs.symm,
    Function.update_self]

/-- An insert keeps the agreement exactly when it fits. -/
theorem traversalsAgree_insert_iff (h : q.Inv l) (hleak : q.NoLeak l) (elem : α) :
    q.HeadFits ↔ (q.insert elem).2.TraversalsAgree := by
  constructor
  · intro hfits
    obtain ⟨l', hinv, hleak'⟩ := h.noLeak_insert hleak hfits elem
    exact hinv.traversalsAgree fun _ hfirst => hinv.prev_first hleak' hfirst
  · intro hagree hempty s hnext
    obtain rfl := h.wf.isEmpty_iff.1 hempty
    have hnext := (hleak.fills_iff h.slot s).1 hnext
    obtain ⟨q₀, heq, hlist, hslot, hs, hfull⟩ := h.insert_next elem hnext
    obtain ⟨x, hx, _, _⟩ := h.wf.head
    by_contra hne
    have hxs : x ≠ s := fun hxs => hne (by rw [hx, hxs])
    rw [heq] at hagree
    obtain ⟨_, _, _, hfirst⟩ := hagree
    have hinv := h.insert_true elem hlist hslot hs hfull
    have hprev := hfirst s hinv.wf.tail
    rw [fillSlot_prev hlist hfull hx hxs elem] at hprev
    exact absurd hprev (Option.some_ne_none x)

/-! ## Runs -/

variable [NeZero N] {trace : List (Call N α × Answer α)}

/-- The traversals agree after the call. -/
def AgreesAfter (q : StaticQueue N α) (label : Call N α × Answer α) : Prop :=
  (q.call label.1).2.TraversalsAgree

/-- After inserts, dequeues, removes and resets, the traversals have agreed after
every call if and only if every insert of the run has fitted. -/
theorem run_traversalsAgree_iff :
    ((system N α).restrict AgreesAfter).Run trace q ↔
      ((system N α).restrict InsertsFit).Run trace q := by
  constructor
  · intro hrun
    induction hrun with
    | init hinit => exact .init hinit
    | @step trace q a q' _ hstep ih =>
      obtain ⟨c, answer⟩ := a
      obtain ⟨hcall, hagree⟩ := hstep
      obtain ⟨l, h, hleak⟩ := exists_noLeak_of_reach ih.reach
      refine .step ih ⟨hcall, ?_⟩
      cases c with
      | insert elem => exact (traversalsAgree_insert_iff h hleak elem).2 hagree
      | _ => trivial
  · intro hrun
    induction hrun with
    | init hinit => exact .init hinit
    | @step trace q a q' hrun hstep ih =>
      obtain ⟨c, answer⟩ := a
      obtain ⟨hcall, hfits⟩ := hstep
      obtain ⟨l, h, hleak⟩ := exists_noLeak_of_reach hrun.reach
      obtain ⟨l', hinv, hleak'⟩ := h.noLeak_call hleak hcall.1 hfits
      exact .step ih ⟨hcall, hinv.traversalsAgree fun _ hfirst => hinv.prev_first hleak' hfirst⟩

/-- Three slots: two inserts, one of which is dequeued. -/
theorem run_traversalsAgree_two :
    let q : StaticQueue 3 Nat := ((((fresh fun _ => 0).insert 7).2.insert 8).2.dequeue).2
    ((system 3 Nat).restrict AgreesAfter).Run
      [(.dequeue, .dequeued (some 7)), (.insert 8, .inserted true), (.insert 7, .inserted true)]
      q := by
  have hfirst : (fresh fun _ => 0 : StaticQueue 3 Nat).HeadFits := by decide
  have hsecond : ((fresh fun _ => 0 : StaticQueue 3 Nat).insert 7).2.HeadFits := by decide
  exact run_traversalsAgree_iff.2 (.step (.step (.step (.init ⟨fun _ => 0, rfl⟩)
    ⟨⟨trivial, rfl⟩, hfirst⟩) ⟨⟨trivial, rfl⟩, hsecond⟩) ⟨⟨trivial, rfl⟩, trivial⟩)

/-- Two slots: insert, dequeue and insert again.  The only queued slot has slot 0 as
its predecessor. -/
theorem not_traversalsAgree :
    let q : StaticQueue 2 Nat := (((fresh fun _ => 0).insert 7).2.dequeue.2.insert 8).2
    (system 2 Nat).Run
      [(.insert 8, .inserted true), (.dequeue, .dequeued (some 7)), (.insert 7, .inserted true)]
      q ∧ q.isEmpty = false ∧ ¬q.TraversalsAgree := by
  refine ⟨?_, rfl, fun hagree => ?_⟩
  · exact .step (.step (.step (.init ⟨fun _ => 0, rfl⟩) ⟨trivial, rfl⟩) ⟨trivial, rfl⟩)
      ⟨trivial, rfl⟩
  · obtain ⟨_, _, _, hfirst⟩ := hagree
    exact absurd (hfirst 1 rfl) (by decide)

end StaticQueue

end XBeeMqtt
