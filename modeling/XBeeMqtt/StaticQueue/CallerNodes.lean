import XBeeMqtt.StaticQueue.Invariant

/-!
# A `LinkedQueue` of caller-owned nodes

The caller may use a node again when it has left the queue.  `Owner` keeps beside
the queue which nodes are in it, in the order in which they were enqueued, and
`system` is the machine of the calls `enqueueNode`, `dequeueNode` and `remove`.

`enqueueNode` does not clear the pointers of the node.  The node that left the
queue last is still `m_head`, and when another node is enqueued it gets that one
as its `next()`.  Enqueued again, it closes a cycle.

* `listsQueued_of_nextNull`: as long as every enqueued node has a null `next()`,
  the traversal ends, and it lists the nodes in order.
* `Wf.enqueueNode_cycle`: an enqueue of any other node makes it endless.
* `run_listing_iff`: so these are the runs in which the traversal always ends.
-/

namespace XBeeMqtt

universe u v

namespace LinkedQueue

variable {ι : Type u} {α : Type v} [DecidableEq ι] {q : LinkedQueue ι α} {l : List ι}

/-- Enqueueing a node that has a successor makes the traversal endless. -/
theorem Wf.enqueueNode_cycle (w : q.Wf l) (hfull : q.full = false) {e : ι} (he : e ∉ l)
    (hnext : (q.heap e).next ≠ none) (fuel : Nat) : (q.enqueueNode e).2.nodes fuel = none := by
  obtain ⟨x, hx, hlast, _⟩ := w.head
  obtain ⟨y, hy⟩ := Option.ne_none_iff_exists'.1 hnext
  have hl : l ≠ [] := List.ne_nil_of_mem (w.heap.links.mem_of_next hy)
  have hxe : x ≠ e := fun heq => he (heq ▸ List.mem_of_getLast? (hlast hl))
  have hlinks : (q.enqueueNode e).2.heap.links = q.heap.links.link x e := by
    rw [← Heap.links_link hxe]
    simp [LinkedQueue.enqueueNode, hfull, hx]
  have htail : (q.enqueueNode e).2.peakNode = l.head? := by
    rw [← w.tail]
    cases ht : q.tail with
    | none => exact absurd (w.isEmpty_iff.1 (by rw [isEmpty, ht]; rfl)) hl
    | some z => simp [LinkedQueue.enqueueNode, peakNode, hfull, ht]
  rw [nodes, hlinks, htail]
  exact w.heap.links.walk_link_eq_none (hlast hl) he hnext fuel

/-- An enqueue lists the nodes exactly when the new one has a null `next()`. -/
theorem Wf.enqueueNode_lists_iff (w : q.Wf l) (hfull : q.full = false) {e : ι} (he : e ∉ l) :
    (∃ fuel, (q.enqueueNode e).2.nodes fuel = some (l ++ [e])) ↔ (q.heap e).next = none := by
  constructor
  · intro hlists
    obtain ⟨fuel, hnodes⟩ := hlists
    by_contra hnext
    rw [w.enqueueNode_cycle hfull he hnext fuel] at hnodes
    simp at hnodes
  · intro hnext
    exact ⟨_, (w.enqueueNode_of_next hfull he hnext).nodes_eq (Nat.le_refl _)⟩

/-! ## The caller -/

/-- A queue, and the nodes that were enqueued and have not left it since, the oldest
first. -/
structure Owner (ι : Type u) (α : Type v) where
  queue : LinkedQueue ι α
  queued : List ι

/-- A call of a member function. -/
inductive Call (ι : Type u) where
  | enqueueNode (elem : ι)
  | dequeueNode
  | remove (elem : ι)

namespace Owner

/-- The queue and its nodes after a call. -/
def next (s : Owner ι α) : Call ι → Owner ι α
  | .enqueueNode elem =>
    let (ok, queue) := s.queue.enqueueNode elem
    { queue := queue, queued := if ok = true then s.queued ++ [elem] else s.queued }
  | .dequeueNode =>
    let (elem, queue) := s.queue.dequeueNode
    { queue := queue
      queued := match elem with
        | none => s.queued
        | some elem => s.queued.erase elem }
  | .remove elem => { queue := s.queue.remove elem, queued := s.queued.erase elem }

/-- Nodes are enqueued when they are not in the queue, and removed when they are.
The sentinel is never enqueued. -/
def Accepts (sentinel : ι) (s : Owner ι α) : Call ι → Prop
  | .enqueueNode elem => elem ≠ sentinel ∧ elem ∉ s.queued
  | .dequeueNode => True
  | .remove elem => elem ∈ s.queued

/-- `init(sentinel, nullptr)`, with nodes that were constructed. -/
def Init (sentinel : ι) (s : Owner ι α) : Prop :=
  ∃ (q : LinkedQueue ι α) (values : ι → α), (∀ x, q.heap x = LinkedNode.mk' (values x)) ∧
    s = { queue := q.init (some sentinel) none, queued := [] }

/-- The calls on a queue of caller-owned nodes. -/
def system (sentinel : ι) : Transition.System (Owner ι α) (Call ι) :=
  .ofFunction (Init sentinel) (Accepts sentinel) next

/-- A node is enqueued with a null `next()`. -/
def NextNull (s : Owner ι α) : Call ι → Prop
  | .enqueueNode elem => (s.queue.heap elem).next = none
  | _ => True

/-- The traversal ends, and it lists the nodes of the queue in order. -/
def ListsQueued (s : Owner ι α) : Prop :=
  ∀ fuel, s.queued.length ≤ fuel →
    s.queue.nodes fuel = some s.queued ∧ s.queue.length fuel = some s.queued.length

/-- The queue holds its nodes, and `setFull` is not called. -/
structure Inv (s : Owner ι α) : Prop where
  wf : s.queue.Wf s.queued
  full : s.queue.full = false

variable {s : Owner ι α} {sentinel : ι}

omit [DecidableEq ι] in
theorem Inv.listsQueued (h : s.Inv) : s.ListsQueued :=
  fun _ hfuel => ⟨h.wf.nodes_eq hfuel, h.wf.length_eq hfuel⟩

omit [DecidableEq ι] in
theorem Init.inv (h : Init sentinel s) : s.Inv := by
  obtain ⟨q, values, hheap, rfl⟩ := h
  have hfresh : ∀ x, ((q.init (some sentinel) none).heap x) = LinkedNode.mk' (values x) := hheap
  refine ⟨⟨⟨⟨rfl, fun x y => ?_, fun x _ => ?_⟩, fun x hx => ?_, fun x _ => ?_⟩, rfl,
    sentinel, rfl, fun hne => absurd rfl hne, fun _ => ?_⟩, rfl⟩
  · rw [Heap.links_next, Heap.links_prev, hfresh, hfresh]
    simp [LinkedNode.mk']
  · rw [Heap.links_prev, hfresh]
    rfl
  · exact absurd hx List.not_mem_nil
  · rw [hfresh]
    exact ⟨rfl, rfl⟩
  · rw [hfresh]
    rfl

private theorem Inv.enqueueNode (h : s.Inv) {e : ι} (he : e ∉ s.queued)
    (hnext : (s.queue.heap e).next = none) : (s.next (.enqueueNode e)).Inv := by
  have hok : (s.queue.enqueueNode e).1 = true := by
    simp [LinkedQueue.enqueueNode, h.full]
  have heq : s.next (.enqueueNode e) = ⟨(s.queue.enqueueNode e).2, s.queued ++ [e]⟩ := by
    simp only [next, hok, if_true]
  rw [heq]
  exact ⟨h.wf.enqueueNode_of_next h.full he hnext, by rw [enqueueNode_full, h.full]⟩

private theorem Inv.dequeueNode (h : s.Inv) : (s.next .dequeueNode).Inv := by
  obtain ⟨q, queued⟩ := s
  have htail : q.tail = queued.head? := h.wf.tail
  cases queued with
  | nil =>
    have heq : (⟨q, []⟩ : Owner ι α).next .dequeueNode = ⟨q, []⟩ := by
      simp [next, LinkedQueue.dequeueNode, htail]
    rw [heq]
    exact h
  | cons x l =>
    have heq : (⟨q, x :: l⟩ : Owner ι α).next .dequeueNode = ⟨q.dequeue.2, l⟩ := by
      simp [next, LinkedQueue.dequeueNode, LinkedQueue.dequeue, htail]
    rw [heq]
    refine ⟨h.wf.dequeue, ?_⟩
    rw [Wf.dequeue_cons h.wf]

private theorem Inv.remove (h : s.Inv) {e : ι} (he : e ∈ s.queued) : (s.next (.remove e)).Inv :=
  ⟨h.wf.remove he, h.wf.remove_full⟩

theorem Inv.next (h : s.Inv) {c : Call ι} (hacc : s.Accepts sentinel c)
    (hnull : s.NextNull c) : (s.next c).Inv := by
  cases c with
  | enqueueNode e => exact h.enqueueNode hacc.2 hnull
  | dequeueNode => exact h.dequeueNode
  | remove e => exact h.remove hacc

theorem Inv.of_reach (h : ((system sentinel).restrict NextNull).Reach s) : s.Inv :=
  h.invariant Inv (fun _ hinit => Init.inv hinit) fun s c s' _ hinv hstep => by
    obtain ⟨⟨hacc, rfl⟩, hnull⟩ := hstep
    exact hinv.next hacc hnull

/-- In a run that enqueues nodes with a null `next()` only, the traversal ends after
every call, and it lists the nodes in the order in which they were enqueued. -/
theorem listsQueued_of_nextNull (h : ((system sentinel).restrict NextNull).Reach s) :
    s.ListsQueued :=
  (Inv.of_reach h).listsQueued

/-- The runs in which it does so after every call are those that enqueue nodes with a
null `next()` only. -/
theorem run_listing_iff {calls : List (Call ι)} :
    ((system sentinel).restrict fun s c => (s.next c).ListsQueued).Run calls s ↔
      ((system sentinel).restrict NextNull).Run calls s := by
  constructor
  · intro h
    induction h with
    | init hinit => exact .init hinit
    | @step calls s c s' _ hstep ih =>
      obtain ⟨⟨hacc, rfl⟩, hlists⟩ := hstep
      refine .step ih ⟨⟨hacc, rfl⟩, ?_⟩
      cases c with
      | enqueueNode e =>
        have hinv := Inv.of_reach ih.reach
        have hok : (s.queue.enqueueNode e).1 = true := by
          simp [LinkedQueue.enqueueNode, hinv.full]
        simp only [ListsQueued, next, hok, if_true] at hlists
        exact (hinv.wf.enqueueNode_lists_iff hinv.full hacc.2).1
          ⟨_, (hlists _ (Nat.le_refl _)).1⟩
      | _ => trivial
  · intro h
    induction h with
    | init hinit => exact .init hinit
    | step hrun hstep ih =>
      obtain ⟨⟨hacc, rfl⟩, hnull⟩ := hstep
      exact .step ih ⟨⟨hacc, rfl⟩, ((Inv.of_reach hrun.reach).next hacc hnull).listsQueued⟩

/-! ### Runs on three nodes

The sentinel is node 0. -/

def sample : Owner (Fin 3) Nat where
  queue :=
    { heap := fun _ => LinkedNode.mk' 0, head := some 0, tail := none, full := false }
  queued := []

theorem init_sample : Init 0 sample := ⟨sample.queue, fun _ => 0, fun _ => rfl, rfl⟩

instance (s : Owner (Fin 3) Nat) : ∀ c, Decidable (s.Accepts 0 c)
  | .enqueueNode _ => inferInstanceAs (Decidable (_ ∧ _))
  | .dequeueNode => .isTrue trivial
  | .remove _ => inferInstanceAs (Decidable (_ ∈ _))

/-- Node 1 is enqueued and dequeued, then node 2 is enqueued, and then node 1 again. -/
theorem not_listsQueued :
    let s := Transition.replay next sample
      [.enqueueNode 1, .dequeueNode, .enqueueNode 2, .enqueueNode 1]
    (system 0).Reach s ∧ ∀ fuel, s.queue.nodes fuel = none ∧ s.queue.length fuel = none := by
  refine ⟨Transition.reach_replay _ (.init init_sample) (by decide), fun fuel => ?_⟩
  have hnodes : (Transition.replay next sample
      [.enqueueNode 1, .dequeueNode, .enqueueNode 2, .enqueueNode 1]).queue.nodes fuel = none :=
    DoublyLinked.walk_eq_none (fun x => x ≠ 0) (by decide) (by decide) fuel
  exact ⟨hnodes, by rw [length_eq_nodes, hnodes]; rfl⟩

end Owner

end LinkedQueue

end XBeeMqtt
