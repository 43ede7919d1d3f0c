import Mathlib.Data.Fintype.Card
import XBeeMqtt.StaticQueue.Invariant

/-!
# The queue is a FIFO

`Fifo.system` is the queue that a caller has in mind: a list of entries, the
oldest first, each a node with the value that was stored in it.  It does not
say when an insert is refused; it says what the list is after every call.

`StaticQueue.run_refines_fifo` is the result of this module.  Every run of the
linked queue is a run of the abstract one with the same calls and the same
answers, and the traversal of the linked queue then lists the abstract
entries.  `Represents` is the simulation relation.
-/

namespace XBeeMqtt

universe u v

/-! ## The abstract queue -/

namespace Fifo

variable {N : Nat} {α : Type v}

/-- The entries of an abstract queue. -/
abbrev Entries (N : Nat) (α : Type v) := List (Fin N × α)

/-- One call on the abstract queue. -/
inductive Step : Entries N α → StaticQueue.Call N α × StaticQueue.Answer α →
    Entries N α → Prop where
  | insert {A : Entries N α} {slot : Fin N} {value : α} : slot ∉ A.map Prod.fst →
      Step A (.insert value, .inserted true) (A ++ [(slot, value)])
  | refuse {A : Entries N α} {value : α} : Step A (.insert value, .inserted false) A
  | dequeueNil : Step [] (.dequeue, .dequeued none) []
  | dequeue {A : Entries N α} {slot : Fin N} {value : α} :
      Step ((slot, value) :: A) (.dequeue, .dequeued (some value)) A
  | remove {A : Entries N α} {slot : Fin N} : slot ∈ A.map Prod.fst →
      Step A (.remove slot, .done) (A.filter (·.1 ≠ slot))
  | reset {A : Entries N α} : Step A (.reset, .done) []

/-- The abstract queue starts empty. -/
def system (N : Nat) (α : Type v) : Transition.System (Entries N α)
    (StaticQueue.Call N α × StaticQueue.Answer α) where
  init A := A = []
  step := Step

end Fifo

/-! ## The simulation -/

namespace StaticQueue

variable {N : Nat} {α : Type v} {q : StaticQueue N α} {l : List (Fin N)}

/-- The linked queue holds the entries, in their order. -/
structure Represents (q : StaticQueue N α) (A : Fifo.Entries N α) : Prop where
  inv : q.Inv (A.map Prod.fst)
  value : ∀ e ∈ A, (q.heap e.1).value = e.2

theorem Inv.nodup (h : q.Inv l) : l.Nodup := h.wf.heap.links.nodup

/-- Distinct slots of an array of `N` are at most `N`. -/
theorem Inv.length_le (h : q.Inv l) : l.length ≤ N := by
  have hcard := List.Nodup.length_le_card h.nodup
  rwa [Fintype.card_fin] at hcard

theorem Represents.traversal {A : Fifo.Entries N α} (h : q.Represents A) {fuel : Nat}
    (hfuel : N ≤ fuel) : q.nodes fuel = some (A.map Prod.fst) :=
  h.inv.wf.nodes_eq (Nat.le_trans h.inv.length_le hfuel)

theorem Represents.length {A : Fifo.Entries N α} (h : q.Represents A) {fuel : Nat}
    (hfuel : N ≤ fuel) : q.length fuel = some A.length := by
  have hlen := h.inv.wf.length_eq (Nat.le_trans h.inv.length_le hfuel)
  rwa [List.length_map] at hlen

theorem Represents.values {A : Fifo.Entries N α} (h : q.Represents A) :
    (A.map Prod.fst).map (fun slot => (q.heap slot).value) = A.map Prod.snd := by
  rw [List.map_map]
  exact List.map_congr_left h.value

theorem Represents.insert {A : Fifo.Entries N α} (h : q.Represents A) (elem : α) :
    ∃ A', Fifo.Step A (.insert elem, .inserted (q.insert elem).1) A' ∧
      (q.insert elem).2.Represents A' := by
  rcases h.inv.insert_cases elem with ⟨heq, _, _⟩ | ⟨q₀, s, heq, hlist, hslot, hs, hfull, _⟩
  · rw [heq]
    exact ⟨A, .refuse, h⟩
  · have hfresh : s ∉ A.map Prod.fst := h.inv.wf.heap.not_mem hs
    have hinv := h.inv.insert_true elem hlist hslot hs hfull
    rw [heq]
    refine ⟨A ++ [(s, elem)], .insert hfresh, by simpa using hinv, ?_⟩
    intro e he
    rw [fillSlot_value, hlist]
    rcases List.mem_append.1 he with hA | hnew
    · have hne : e.1 ≠ s := by
        intro heq
        subst heq
        exact hfresh (List.mem_map_of_mem hA)
      rw [if_neg hne]
      exact h.value e hA
    · obtain rfl := List.mem_singleton.1 hnew
      exact if_pos rfl

theorem Represents.dequeue {A : Fifo.Entries N α} (h : q.Represents A) :
    ∃ A', Fifo.Step A (.dequeue, .dequeued q.dequeue.1) A' ∧ q.dequeue.2.Represents A' := by
  cases A with
  | nil =>
    rw [Inv.dequeue_nil h.inv]
    exact ⟨[], .dequeueNil, h⟩
  | cons e A =>
    have hfst : q.dequeue.1 = some e.2 := by
      rw [Inv.dequeue_fst h.inv, h.value e (by simp)]
    rw [hfst]
    refine ⟨A, .dequeue, Inv.dequeue h.inv, fun e' he' => ?_⟩
    rw [← h.value e' (by simp [he'])]
    simp [StaticQueue.dequeue, LinkedQueue.Wf.dequeue_cons h.inv.wf,
      h.inv.wf.heap.unlink_value]

/-- Erasing one of distinct slots drops its entry. -/
theorem map_fst_filter {A : Fifo.Entries N α} (hnodup : (A.map Prod.fst).Nodup) (slot : Fin N) :
    (A.filter (·.1 ≠ slot)).map Prod.fst = (A.map Prod.fst).erase slot := by
  rw [hnodup.erase_eq_filter, List.filter_map]
  congr 1
  apply List.filter_congr
  intro e _
  by_cases he : e.1 = slot <;> simp [he]

theorem Represents.remove {A : Fifo.Entries N α} (h : q.Represents A) {slot : Fin N}
    (hmem : slot ∈ A.map Prod.fst) :
    ∃ A', Fifo.Step A (.remove slot, .done) A' ∧ (q.remove slot).Represents A' := by
  refine ⟨A.filter (·.1 ≠ slot), .remove hmem, ?_, fun e he => ?_⟩
  · rw [map_fst_filter h.inv.nodup]
    exact h.inv.remove hmem
  · rw [← h.value e (List.mem_of_mem_filter he)]
    simp [StaticQueue.remove, h.inv.wf.remove_heap, h.inv.wf.heap.unlink_value]

variable [NeZero N]

/-- One call, on related queues. -/
theorem Represents.call {A : Fifo.Entries N α} (h : q.Represents A) {c : Call N α}
    (hacc : q.Accepts c) :
    ∃ A', Fifo.Step A (c, (q.call c).1) A' ∧ (q.call c).2.Represents A' := by
  cases c with
  | insert elem => exact h.insert elem
  | dequeue => exact h.dequeue
  | remove slot =>
    obtain ⟨fuel, l, hl, hmem⟩ := hacc
    rw [h.inv.wf.nodes_unique hl] at hmem
    exact h.remove hmem
  | reset => exact ⟨[], .reset, h.inv.reset, by simp⟩

/-- Every run of the linked queue is a run of the abstract queue with the same
calls and answers.  The forward traversal then ends, visits distinct slots and
lists the abstract entries. -/
theorem run_refines_fifo {trace : List (Call N α × Answer α)}
    (hrun : (system N α).Run trace q) :
    ∃ A : Fifo.Entries N α, (Fifo.system N α).Run trace A ∧
      (A.map Prod.fst).Nodup ∧
      (∀ fuel, N ≤ fuel → q.nodes fuel = some (A.map Prod.fst)) ∧
      (A.map Prod.fst).map (fun slot => (q.heap slot).value) = A.map Prod.snd ∧
      ∀ fuel, N ≤ fuel → q.length fuel = some A.length := by
  have hsim : ∃ A, (Fifo.system N α).Run trace A ∧ q.Represents A := by
    refine hrun.simulates ?_ ?_
    · intro q hinit
      obtain ⟨mem, rfl⟩ := hinit
      exact ⟨[], rfl, inv_fresh mem, by simp⟩
    · intro q a q' A h hstep
      obtain ⟨c, answer⟩ := a
      obtain ⟨hacc, hcall⟩ := hstep
      have hstep := h.call hacc
      rw [hcall] at hstep
      exact hstep
  obtain ⟨A, hA, h⟩ := hsim
  exact ⟨A, hA, h.inv.nodup, fun _ => h.traversal, h.values, fun _ => h.length⟩

/-- Two inserts and a `remove` of the older node, on two slots. -/
theorem run_refines_fifo_remove_oldest :
    let q : StaticQueue 2 Nat := (((fresh fun _ => 0).insert 7).2.insert 8).2.remove 0
    ∃ A : Fifo.Entries 2 Nat,
      (Fifo.system 2 Nat).Run [(.remove 0, .done), (.insert 8, .inserted true),
        (.insert 7, .inserted true)] A ∧
      (A.map Prod.fst).Nodup ∧
      (∀ fuel, 2 ≤ fuel → q.nodes fuel = some (A.map Prod.fst)) ∧
      (A.map Prod.fst).map (fun slot => (q.heap slot).value) = A.map Prod.snd ∧
      ∀ fuel, 2 ≤ fuel → q.length fuel = some A.length :=
  run_refines_fifo
    (.step (.step (.step (.init ⟨fun _ => 0, rfl⟩) ⟨trivial, rfl⟩) ⟨trivial, rfl⟩)
      ⟨⟨2, [0, 1], rfl, by decide⟩, rfl⟩)

end StaticQueue

end XBeeMqtt
