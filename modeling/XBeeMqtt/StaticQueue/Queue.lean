import Mathlib.Algebra.GroupWithZero.Nat
import XBeeMqtt.Lib.Transition
import XBeeMqtt.StaticQueue.LinkedNode

/-!
# `LinkedQueue` and `StaticQueue`

The two queue classes of `libs/static_queue`.  `LinkedQueue` threads
caller-owned nodes: `m_tail` points at the oldest node and `m_head` at the
newest one.  `StaticQueue` owns an array of `N_MEMB` nodes, which are named
`Fin N`, and looks for an unlinked one to insert into.

`findEmptySlot` starts its scan at `m_slot_index + 1` without the modulo that
the loop step applies, so it may look at `m_array[N_MEMB]`.  That probe reads
memory behind the array.  The model lets it answer `true`: the probed memory
then is no free slot, and the scan goes on.

The loops carry a fuel argument.  `N_MEMB + 1` rounds are enough for the scan
of `findEmptySlot`, which stops at the remembered index (`findEmptySlotLoop_fuel`).
`LinkedQueue.length` answers `none` when its fuel runs out.
-/

namespace XBeeMqtt

open DoublyLinked

universe u v w

/-! ## `LinkedQueue` -/

structure LinkedQueue (ι : Type u) (α : Type v) where
  heap : Heap ι α
  head : Option ι
  tail : Option ι
  full : Bool

namespace LinkedQueue

variable {ι : Type u} {α : Type v}

def init (q : LinkedQueue ι α) (head tail : Option ι) : LinkedQueue ι α :=
  { q with head := head, tail := tail, full := false }

def peakNode (q : LinkedQueue ι α) : Option ι := q.tail

def isEmpty (q : LinkedQueue ι α) : Bool := q.tail.isNone

def isFull (q : LinkedQueue ι α) : Bool := q.full

def setFull (q : LinkedQueue ι α) (full : Bool) : LinkedQueue ι α := { q with full := full }

/-- The loop of `length`, from the node `elem`. -/
def lengthLoop (q : LinkedQueue ι α) : Nat → Option ι → Nat → Option Nat
  | _, none, len => some len
  | 0, some _, _ => none
  | fuel + 1, some elem, len => lengthLoop q fuel (q.heap elem).next (len + 1)

def length (q : LinkedQueue ι α) (fuel : Nat) : Option Nat := q.lengthLoop fuel q.tail 0

/-- The forward traversal: the nodes met from `peakNode()` by `next()`. -/
def nodes (q : LinkedQueue ι α) (fuel : Nat) : Option (List ι) :=
  walk q.heap.links.next fuel q.peakNode

variable [DecidableEq ι]

/-- Following the null pointer in `m_head->link(elem)` is undefined behaviour;
the model then leaves the nodes alone. -/
def enqueueNode (q : LinkedQueue ι α) (elem : ι) : Bool × LinkedQueue ι α :=
  if q.full then (false, q)
  else
    let tail := match q.tail with
      | none => some elem
      | some t => some t
    let heap := match q.head with
      | some head => (Heap.link q.heap head elem).2
      | none => q.heap
    (true, { q with heap := heap, tail := tail, head := some elem })

def dequeueNode (q : LinkedQueue ι α) : Option ι × LinkedQueue ι α :=
  match q.tail with
  | none => (none, q)
  | some elem =>
    (some elem,
      { q with tail := (q.heap elem).next, heap := Heap.unlink q.heap elem, full := false })

/-- `dequeue` answers the address of the value; the caller reads the value
there, which the node still holds. -/
def dequeue (q : LinkedQueue ι α) : Option α × LinkedQueue ι α :=
  let (elem, q) := q.dequeueNode
  (elem.map fun e => (q.heap e).value, q)

def remove (q : LinkedQueue ι α) (elem : ι) : LinkedQueue ι α :=
  if q.tail = some elem then q.dequeue.2
  else
    let q := if q.head = some elem then { q with head := (q.heap elem).prev } else q
    { q with full := false, heap := Heap.unlink q.heap elem }

end LinkedQueue

/-! ## `StaticQueue` -/

structure StaticQueue (N : Nat) (α : Type v) extends LinkedQueue (Fin N) α where
  nextAvailableSlot : Option (Fin N)
  slotIndex : Nat

/-- The scan loop of `findEmptySlot`, with the index it stands at. -/
def findEmptySlotLoop (isLinked : Nat → Bool) (n slotIndex : Nat) : Nat → Nat → Option Nat
  | 0, _ => none
  | fuel + 1, i =>
    if i = slotIndex then none
    else if isLinked i = false then some i
    else findEmptySlotLoop isLinked n slotIndex fuel ((i + 1) % n)

namespace StaticQueue

variable {N : Nat} {α : Type v}

/-- `m_array[i].isLinked()`.  Behind the array the probe answers `true`. -/
def isLinked (q : StaticQueue N α) (i : Nat) : Bool :=
  if h : i < N then (q.heap ⟨i, h⟩).linked else true

def findEmptySlot (q : StaticQueue N α) : Option (Fin N) × StaticQueue N α :=
  match findEmptySlotLoop q.isLinked N q.slotIndex (N + 1) (q.slotIndex + 1) with
  | none => (none, q)
  | some i => if h : i < N then (some ⟨i, h⟩, { q with slotIndex := i }) else (none, q)

/-- `memcpy(slot, &node, sizeof node)`. -/
def copyNode (q : StaticQueue N α) (slot : Fin N) (elem : α) : StaticQueue N α :=
  { q with heap := Function.update q.heap slot (LinkedNode.mk' elem) }

/-- Copy the node into the slot and enqueue it. -/
def enqueueSlot (q : StaticQueue N α) (slot : Fin N) (elem : α) : StaticQueue N α :=
  { q with toLinkedQueue := ((q.copyNode slot elem).enqueueNode slot).2 }

/-- The body of `insert` after a slot is found: fill it, and look for the next
free slot. -/
def fillSlot (q : StaticQueue N α) (slot : Fin N) (elem : α) : StaticQueue N α :=
  let (next, q) := (q.enqueueSlot slot elem).findEmptySlot
  let q := { q with nextAvailableSlot := next }
  if next = none then { q with toLinkedQueue := q.setFull true } else q

def insert (q : StaticQueue N α) (elem : α) : Bool × StaticQueue N α :=
  match q.nextAvailableSlot with
  | some slot => (true, q.fillSlot slot elem)
  | none =>
    let (next, q) := q.findEmptySlot
    let q := { q with nextAvailableSlot := next }
    match next with
    | none => (false, q)
    | some slot => (true, q.fillSlot slot elem)

def dequeue (q : StaticQueue N α) : Option α × StaticQueue N α :=
  let (value, list) := q.toLinkedQueue.dequeue
  (value, { q with toLinkedQueue := list })

def remove (q : StaticQueue N α) (elem : Fin N) : StaticQueue N α :=
  { q with toLinkedQueue := q.toLinkedQueue.remove elem }

variable [NeZero N]

/-- `StaticQueue()`.  `mem` is what the value fields of the array hold. -/
def fresh (mem : Fin N → α) : StaticQueue N α where
  heap i := LinkedNode.mk' (mem i)
  head := some 0
  tail := none
  full := false
  nextAvailableSlot := some 0
  slotIndex := 0

def reset (q : StaticQueue N α) : StaticQueue N α :=
  let heap := (List.finRange N).foldl Heap.unlink q.heap
  { toLinkedQueue := LinkedQueue.init { q.toLinkedQueue with heap := heap } (some 0) none
    nextAvailableSlot := some 0
    slotIndex := 0 }

/-! ## The calls on a queue -/

/-- A call of a member function. -/
inductive Call (N : Nat) (α : Type v) where
  | insert (elem : α)
  | dequeue
  | remove (elem : Fin N)
  | reset

/-- What a call answers. -/
inductive Answer (α : Type v) where
  | inserted (ok : Bool)
  | dequeued (value : Option α)
  | done
  deriving DecidableEq

/-- The answer of a call and the queue after it. -/
def call (q : StaticQueue N α) : Call N α → Answer α × StaticQueue N α
  | .insert elem => (.inserted (q.insert elem).1, (q.insert elem).2)
  | .dequeue => (.dequeued q.dequeue.1, q.dequeue.2)
  | .remove elem => (.done, q.remove elem)
  | .reset => (.done, q.reset)

/-- `remove` is only called with a node that is in the queue. -/
def Accepts (q : StaticQueue N α) : Call N α → Prop
  | .remove elem => ∃ fuel l, q.nodes fuel = some l ∧ elem ∈ l
  | _ => True

/-- A fresh queue and the calls on it.  The label of a step is the call with
its answer. -/
def system (N : Nat) (α : Type v) [NeZero N] :
    Transition.System (StaticQueue N α) (Call N α × Answer α) where
  init q := ∃ mem, q = fresh mem
  step q a q' := q.Accepts a.1 ∧ q.call a.1 = (a.2, q')

theorem reach_call {q : StaticQueue N α} (h : (system N α).Reach q) (c : Call N α)
    (hacc : q.Accepts c) : (system N α).Reach (q.call c).2 :=
  have hstep : (system N α).step q (c, (q.call c).1) (q.call c).2 := ⟨hacc, rfl⟩
  .step h hstep

/-- The induction rule for a relation to something that each call may change. -/
theorem exists_of_reach {cond : StaticQueue N α → Call N α × Answer α → Prop} {β : Type w}
    (P : StaticQueue N α → β → Prop) (h0 : ∀ mem, ∃ b, P (fresh mem) b)
    (hcall : ∀ q b c, P q b → q.Accepts c → cond q (c, (q.call c).1) → ∃ b', P (q.call c).2 b')
    {q : StaticQueue N α} (h : ((system N α).restrict cond).Reach q) : ∃ b, P q b := by
  refine h.invariant (fun q => ∃ b, P q b) ?_ ?_
  · intro q hinit
    obtain ⟨mem, rfl⟩ := hinit
    exact h0 mem
  · intro q a q' _ hkept hstep
    obtain ⟨c, answer⟩ := a
    obtain ⟨b, hb⟩ := hkept
    obtain ⟨⟨hacc, hanswer⟩, hcond⟩ := hstep
    have hnext := hcall q b c hb hacc
    rw [hanswer] at hnext
    exact hnext hcond

end StaticQueue

end XBeeMqtt
