import XBeeMqtt.StaticQueue.Capacity

/-!
# Which slots the flags call used

A slot is free for `findEmptySlot` when its flag is clear, and it is in use when
the traversal from `peakNode()` meets it.  `Exact` says that the two agree.

They do as long as no insert into an empty queue fills another slot than the
one that `m_head` was left on: `link` sets the flag of that node as well.
`exact_of_headFits` is the result for runs, and `exact_insert_iff` says that the
condition leaves out the leaking inserts only.
-/

namespace XBeeMqtt

universe v

namespace StaticQueue

variable {N : Nat} {α : Type v} {q : StaticQueue N α} {l : List (Fin N)}

/-- The slot can be reached from `peakNode()` by `next()`. -/
def Reaches (q : StaticQueue N α) (i : Fin N) : Prop :=
  ∃ first, q.peakNode = some first ∧
    Relation.ReflTransGen (fun a b => (q.heap a).next = some b) first i

/-- A slot is linked exactly when it is in the queue. -/
def Exact (q : StaticQueue N α) : Prop :=
  ∀ i, (q.heap i).linked = true ↔ q.Reaches i

theorem Inv.reaches_iff (h : q.Inv l) (i : Fin N) : q.Reaches i ↔ i ∈ l :=
  h.wf.chain.mem_iff_reach.symm

/-- The slots of the list are linked in any case. -/
theorem Inv.exact_iff (h : q.Inv l) : q.Exact ↔ q.NoLeak l := by
  constructor
  · intro hexact i hi
    exact (h.reaches_iff i).1 ((hexact i).1 hi)
  · intro hleak i
    rw [h.reaches_iff]
    exact ⟨hleak i, h.wf.heap.linked i⟩

/-! ## When an insert keeps it -/

/-- The slot that an insert into an empty queue fills. -/
def NextSlot (q : StaticQueue N α) (s : Fin N) : Prop :=
  q.nextAvailableSlot = some s ∨
    q.nextAvailableSlot = none ∧ s.val = q.firstProbe ∧ s.val ≠ q.slotIndex

instance (q : StaticQueue N α) (s : Fin N) : Decidable (q.NextSlot s) :=
  inferInstanceAs (Decidable (_ ∨ _ ∧ _))

/-- On an empty queue, the next slot is the one that `m_head` points at. -/
def HeadFits (q : StaticQueue N α) : Prop :=
  q.isEmpty = true → ∀ s, q.NextSlot s → q.head = some s

instance (q : StaticQueue N α) : Decidable q.HeadFits :=
  inferInstanceAs (Decidable (_ → ∀ _, _))

/-- On an empty queue without leaks, the scan answers its first probe, unless the
last slot of two is the remembered one. -/
theorem NoLeak.scan_nil_iff (h : q.NoLeak []) (hslot : q.slotIndex < N) (s : Fin N) :
    q.findEmptySlot.1 = some s ↔ s.val = q.firstProbe ∧ s.val ≠ q.slotIndex := by
  constructor
  · intro hs
    exact ⟨h.scan_nil hslot hs, (seen_of_scan hslot hs).1⟩
  · intro hs
    cases hscan : q.findEmptySlot.1 with
    | some t =>
      have ht := h.scan_nil hslot hscan
      rw [Fin.ext (ht.trans hs.1.symm)]
    | none =>
      have hseen : q.Seen s := by
        have hfirst := hs.1
        unfold firstProbe at hfirst
        unfold Seen
        split at hfirst <;> omega
      have hlinked := linked_of_scan_none hslot hscan hseen
      rw [h.free_nil s] at hlinked
      exact absurd hlinked Bool.false_ne_true

/-- The slot of an insert into an empty queue. -/
theorem NoLeak.fills_iff (h : q.NoLeak []) (hslot : q.slotIndex < N) (s : Fin N) :
    q.NextSlot s ↔ q.nextAvailableSlot = some s ∨
      q.nextAvailableSlot = none ∧ q.findEmptySlot.1 = some s := by
  rw [h.scan_nil_iff hslot s]
  rfl

/-- An insert that fits leaks no slot. -/
theorem Inv.noLeak_insert (h : q.Inv l) (hleak : q.NoLeak l) (hfits : q.HeadFits) (elem : α) :
    ∃ l', (q.insert elem).2.Inv l' ∧ (q.insert elem).2.NoLeak l' := by
  rcases h.insert_cases elem with ⟨heq, _, _⟩ | ⟨q₀, s, heq, hlist, hslot, hs, hfull, hfills⟩
  · rw [heq]
    exact ⟨l, h, hleak⟩
  · rw [heq]
    refine ⟨l ++ [s], h.insert_true elem hlist hslot hs hfull, ?_⟩
    refine hleak.fillSlot h.wf hlist hfull (fun hl => ?_) elem
    subst hl
    exact hfits (h.wf.isEmpty_iff.2 rfl) s ((hleak.fills_iff h.slot s).2 hfills)

/-- The insert that fills a known slot. -/
theorem Inv.insert_next (h : q.Inv l) (elem : α) {s : Fin N}
    (hs : q.nextAvailableSlot = some s ∨
      q.nextAvailableSlot = none ∧ q.findEmptySlot.1 = some s) :
    ∃ q₀ : StaticQueue N α, q.insert elem = (true, q₀.fillSlot s elem) ∧
      q₀.toLinkedQueue = q.toLinkedQueue ∧ q₀.slotIndex = s.val ∧
      (q.heap s).linked = false ∧ q.full = false := by
  rcases h.insert_cases elem with
    ⟨_, hnone, hscan⟩ | ⟨q₀, t, heq, hlist, hslot, ht, hfull, hfills⟩
  · rcases hs with hsome | ⟨_, hfound⟩
    · exact absurd (hnone.symm.trans hsome) (by simp)
    · exact absurd (hscan.symm.trans hfound) (by simp)
  · have hts : t = s := by
      rcases hfills with ht' | ⟨hnone, ht'⟩ <;> rcases hs with hs' | ⟨hnone', hs'⟩
      · exact Option.some.inj (ht'.symm.trans hs')
      · exact absurd (hnone'.symm.trans ht') (by simp)
      · exact absurd (hnone.symm.trans hs') (by simp)
      · exact Option.some.inj (ht'.symm.trans hs')
    subst hts
    exact ⟨q₀, heq, hlist, hslot, ht, hfull⟩

/-- `HeadFits` is exact for one insert. -/
theorem exact_insert_iff (h : q.Inv l) (hexact : q.Exact) (elem : α) :
    q.HeadFits ↔ (q.insert elem).2.Exact := by
  have hleak : q.NoLeak l := h.exact_iff.1 hexact
  constructor
  · intro hfits
    obtain ⟨l', hinv, hleak'⟩ := h.noLeak_insert hleak hfits elem
    exact hinv.exact_iff.2 hleak'
  · intro hexact' hempty s hnext
    obtain rfl := h.wf.isEmpty_iff.1 hempty
    have hnext := (hleak.fills_iff h.slot s).1 hnext
    obtain ⟨q₀, heq, hlist, hslot, hs, hfull⟩ := h.insert_next elem hnext
    obtain ⟨x, hx, _, _⟩ := h.wf.head
    -- the node behind `m_head` is linked, so that it has to be the one that was filled
    rw [heq] at hexact'
    have hinv := h.insert_true elem hlist hslot hs hfull
    have hmem := (hinv.exact_iff.1 hexact') x
      (by rw [fillSlot_linked hlist hfull hx elem x, if_pos (Or.inl rfl)])
    rw [hx, List.mem_singleton.1 hmem]

/-! ## Runs -/

/-- Every insert of the run fits. -/
def InsertsFit (q : StaticQueue N α) (label : Call N α × Answer α) : Prop :=
  match label.1 with
  | .insert _ => q.HeadFits
  | _ => True

variable [NeZero N]

theorem Inv.noLeak_call (h : q.Inv l) (hleak : q.NoLeak l) {c : Call N α}
    {answer : Answer α} (hacc : q.Accepts c) (hfits : q.InsertsFit (c, answer)) :
    ∃ l', (q.call c).2.Inv l' ∧ (q.call c).2.NoLeak l' := by
  cases c with
  | insert elem => exact h.noLeak_insert hleak hfits elem
  | dequeue =>
    cases l with
    | nil =>
      have heq : (q.call .dequeue).2 = q := congrArg Prod.snd h.dequeue_nil
      rw [heq]
      exact ⟨[], h, hleak⟩
    | cons x l => exact ⟨l, h.dequeue, hleak.dequeue h.wf⟩
  | remove slot =>
    obtain ⟨fuel, l₁, hl₁, hmem⟩ := hacc
    rw [h.wf.nodes_unique hl₁] at hmem
    exact ⟨l.erase slot, h.remove hmem, hleak.remove h.wf slot⟩
  | reset => exact ⟨[], h.reset, h.noLeak_reset⟩

theorem exists_noLeak_of_reach (hreach : ((system N α).restrict InsertsFit).Reach q) :
    ∃ l, q.Inv l ∧ q.NoLeak l :=
  exists_of_reach (fun q l => q.Inv l ∧ q.NoLeak l)
    (fun mem => ⟨[], inv_fresh mem, noLeak_fresh mem⟩)
    (fun _ _ _ h hacc hfits => h.1.noLeak_call h.2 hacc hfits) hreach

/-- In a run whose inserts all fit, a slot is linked after every call exactly when
it can be reached from `peakNode()`. -/
theorem exact_of_headFits (hreach : ((system N α).restrict InsertsFit).Reach q) : q.Exact := by
  obtain ⟨l, h, hleak⟩ := exists_noLeak_of_reach hreach
  exact h.exact_iff.2 hleak

/-! ### Without `reset`, a lost slot stays lost -/

/-- The calls but `reset`. -/
def NoReset (_ : StaticQueue N α) (label : Call N α × Answer α) : Prop :=
  match label.1 with
  | .reset => False
  | _ => True

omit [NeZero N] in
theorem Inv.lost_dequeue (h : q.Inv l) {x : Fin N} (hx : (q.heap x).linked = true)
    (hmem : x ∉ l) : ¬q.dequeue.2.Exact := by
  intro hexact
  cases l with
  | nil =>
    rw [h.dequeue_nil] at hexact
    exact hmem (h.exact_iff.1 hexact x hx)
  | cons y l =>
    rw [List.mem_cons, not_or] at hmem
    refine hmem.2 (h.dequeue.exact_iff.1 hexact x ?_)
    simp only [StaticQueue.dequeue, h.wf.dequeue_cons, h.wf.heap.unlink_linked, if_neg hmem.1]
    exact hx

omit [NeZero N] in
theorem Inv.lost_remove (h : q.Inv l) {x : Fin N} (hx : (q.heap x).linked = true)
    (hmem : x ∉ l) {slot : Fin N} (hslot : slot ∈ l) : ¬(q.remove slot).Exact := by
  intro hexact
  have hne : x ≠ slot := fun heq => hmem (heq ▸ hslot)
  refine hmem (List.mem_of_mem_erase ((h.remove hslot).exact_iff.1 hexact x ?_))
  simp only [StaticQueue.remove, h.wf.remove_heap, h.wf.heap.unlink_linked, if_neg hne]
  exact hx

/-- A call but `reset` is exact only on an exact queue. -/
theorem Inv.exact_of_call (h : q.Inv l) {c : Call N α} {answer : Answer α}
    (hacc : q.Accepts c) (hreset : q.NoReset (c, answer)) (hexact : (q.call c).2.Exact) :
    q.Exact := by
  refine h.exact_iff.2 fun x hx => ?_
  by_contra hmem
  cases c with
  | insert elem =>
    rcases h.insert_cases elem with ⟨heq, _, _⟩ | ⟨q₀, s, heq, hlist, hslot, hs, hfull, _⟩
    · have hexact : (q.insert elem).2.Exact := hexact
      rw [heq] at hexact
      exact hmem (h.exact_iff.1 hexact x hx)
    · have hexact : (q.insert elem).2.Exact := hexact
      rw [heq] at hexact
      have hinv := h.insert_true elem hlist hslot hs hfull
      obtain ⟨hx', hmem'⟩ := h.lost_fillSlot hx hmem hlist hs hfull elem
      exact hmem' (hinv.exact_iff.1 hexact x hx')
  | dequeue => exact h.lost_dequeue hx hmem hexact
  | remove slot =>
    obtain ⟨fuel, l₁, hl₁, hslot⟩ := hacc
    rw [h.wf.nodes_unique hl₁] at hslot
    exact h.lost_remove hx hmem hslot hexact
  | reset => exact hreset

/-- Every reachable queue holds some list. -/
theorem exists_inv_of_reach {cond : StaticQueue N α → Call N α × Answer α → Prop}
    (hreach : ((system N α).restrict cond).Reach q) : ∃ l, q.Inv l := by
  have hrepresents : ∃ A, q.Represents A := by
    refine exists_of_reach Represents (fun mem => ⟨[], inv_fresh mem, by simp⟩) ?_ hreach
    intro q A c h hacc _
    obtain ⟨A', _, h'⟩ := h.call hacc
    exact ⟨A', h'⟩
  obtain ⟨A, h⟩ := hrepresents
  exact ⟨_, h.inv⟩

/-- After inserts, dequeues and removes, the flags are exact if and only if every
insert of the run has fitted. -/
theorem exact_iff_headFits {trace : List (Call N α × Answer α)}
    (hrun : ((system N α).restrict NoReset).Run trace q) :
    q.Exact ↔ (((system N α).restrict InsertsFit).restrict NoReset).Run trace q := by
  constructor
  · intro hexact
    induction hrun with
    | init hinit => exact .init hinit
    | @step trace q a q' hrun hstep ih =>
      obtain ⟨c, answer⟩ := a
      obtain ⟨⟨hacc, hcall⟩, hreset⟩ := hstep
      obtain ⟨l, h⟩ := exists_inv_of_reach hrun.reach
      have hcall' : (q.call c).2 = q' := congrArg Prod.snd hcall
      rw [← hcall'] at hexact
      have hbefore := h.exact_of_call hacc hreset hexact
      refine .step (ih hbefore) ⟨⟨⟨hacc, hcall⟩, ?_⟩, hreset⟩
      cases c with
      | insert elem => exact (exact_insert_iff h hbefore elem).2 hexact
      | _ => trivial
  · intro hfits
    exact exact_of_headFits hfits.reach.of_restrict

/-- Three slots, filled and emptied so that `m_head` is left on the slot that the
next scan finds first. -/
theorem exact_iff_headFits_refill :
    let q : StaticQueue 3 Nat :=
      (((((((fresh fun _ => 0).insert 7).2.insert 8).2.insert 9).2.dequeue.2.remove
        2).dequeue.2).insert 10).2
    q.Exact ↔ (((system 3 Nat).restrict InsertsFit).restrict NoReset).Run
      [(.insert 10, .inserted true), (.dequeue, .dequeued (some 8)), (.remove 2, .done),
        (.dequeue, .dequeued (some 7)), (.insert 9, .inserted true),
        (.insert 8, .inserted true), (.insert 7, .inserted true)] q :=
  exact_iff_headFits
    (.step (.step (.step (.step (.step (.step (.step (.init ⟨fun _ => 0, rfl⟩)
      ⟨⟨trivial, rfl⟩, trivial⟩) ⟨⟨trivial, rfl⟩, trivial⟩) ⟨⟨trivial, rfl⟩, trivial⟩)
      ⟨⟨trivial, rfl⟩, trivial⟩) ⟨⟨⟨3, [1, 2], rfl, by decide⟩, rfl⟩, trivial⟩)
      ⟨⟨trivial, rfl⟩, trivial⟩) ⟨⟨trivial, rfl⟩, trivial⟩)

/-- Two slots: insert, dequeue and insert again.  Slot 0 is linked, and only slot 1 is
in the queue. -/
theorem not_exact :
    let q : StaticQueue 2 Nat := (((fresh fun _ => 0).insert 7).2.dequeue.2.insert 8).2
    ((system 2 Nat).restrict NoReset).Run
      [(.insert 8, .inserted true), (.dequeue, .dequeued (some 7)), (.insert 7, .inserted true)]
      q ∧ (q.heap 0).linked = true ∧ ¬q.Exact := by
  refine ⟨?_, rfl, fun hexact => ?_⟩
  · exact .step (.step (.step (.init ⟨fun _ => 0, rfl⟩) ⟨⟨trivial, rfl⟩, trivial⟩)
      ⟨⟨trivial, rfl⟩, trivial⟩) ⟨⟨trivial, rfl⟩, trivial⟩
  · have hreaches := (hexact 0).1 rfl
    have hchain : DoublyLinked.Chain (((fresh fun _ : Fin 2 => 0).insert 7).2.dequeue.2.insert
      8).2.heap.links.next (some 1) [1] := ⟨rfl, rfl⟩
    exact absurd (hchain.mem_iff_reach.2 hreaches) (by decide)

end StaticQueue

end XBeeMqtt
