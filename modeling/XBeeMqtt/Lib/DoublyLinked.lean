import Mathlib.Data.List.Basic
import Mathlib.Data.List.Nodup
import Mathlib.Logic.Relation

/-!
# Doubly linked lists as two pointer maps

A doubly linked list over the nodes `ι` is a pair of maps `next` and `prev`.
`Chain next p l` says that the pointer `p` starts the null-terminated list
`l`.  `Links.Wf k l` says that `l` is the list, that the two maps are inverse
to each other on all nodes, and that a node outside `l` has no predecessor.
A node outside `l` may still have a successor: it is then a stale node whose
successor is the first node of the list.

* `Chain.nodup`, `Chain.unique`: a null-terminated list never repeats a node,
  and the start pointer determines it.
* `Chain.mem_iff_reach`: the nodes of the list are the ones that can be reached.
* `walk_of_chain`, `chain_of_walk`: the traversal loop reaches null exactly on a
  chain; `walk_eq_none`: it never does where every node has a successor.
* `Links.Wf.link` and `Links.Wf.remove`: the two pointer updates, appending a
  node behind the last one and taking a node out.
* `Links.Wf.chain_reverse`: the list backwards.
-/

namespace DoublyLinked

universe u

variable {ι : Type u}

/-! ## Chains -/

/-- Following `next` from the pointer `p` visits exactly the nodes of the
list, in order, and then meets null. -/
def Chain (next : ι → Option ι) : Option ι → List ι → Prop
  | p, [] => p = none
  | p, x :: l => p = some x ∧ Chain next (next x) l

@[simp] theorem chain_nil {next : ι → Option ι} {p : Option ι} :
    Chain next p [] ↔ p = none := Iff.rfl

@[simp] theorem chain_cons {next : ι → Option ι} {p : Option ι} {x : ι} {l : List ι} :
    Chain next p (x :: l) ↔ p = some x ∧ Chain next (next x) l := Iff.rfl

namespace Chain

variable {next next' : ι → Option ι} {p : Option ι} {l l' : List ι}

theorem eq_head? (h : Chain next p l) : p = l.head? := by
  cases l with
  | nil => exact h
  | cons x l => exact h.1

/-- The list is determined by the pointer that starts it. -/
theorem unique (h : Chain next p l) (h' : Chain next p l') : l = l' := by
  induction l generalizing p l' with
  | nil =>
    cases l' with
    | nil => rfl
    | cons y l' =>
      have hp : p = none := h
      rw [hp] at h'
      exact absurd h'.1 (by simp)
  | cons x l ih =>
    cases l' with
    | nil =>
      have hp : p = none := h'
      rw [hp] at h
      exact absurd h.1 (by simp)
    | cons y l' =>
      obtain rfl : x = y := by
        have hxy := h.1.symm.trans h'.1
        simpa using hxy
      rw [ih h.2 h'.2]

/-- The rest of a chain, after one of its nodes, is a chain. -/
theorem after {a b : List ι} {x : ι} (h : Chain next p (a ++ x :: b)) :
    Chain next (next x) b := by
  induction a generalizing p with
  | nil => exact h.2
  | cons y a ih => exact ih h.2

/-- No node is met twice: the rest of the list after a repeated node would be
as long as the list itself. -/
theorem nodup (h : Chain next p l) : l.Nodup := by
  induction l generalizing p with
  | nil => exact List.nodup_nil
  | cons x l ih =>
    refine List.nodup_cons.2 ⟨fun hx => ?_, ih h.2⟩
    obtain ⟨a, b, rfl⟩ := List.append_of_mem hx
    have hlen := congrArg List.length (h.2.unique h.2.after)
    simp only [List.length_append, List.length_cons] at hlen
    omega

/-- The successor of a node of the list is a node of the list. -/
theorem next_mem {x y : ι} (h : Chain next p l) (hx : x ∈ l) (hy : next x = some y) :
    y ∈ l := by
  obtain ⟨a, b, rfl⟩ := List.append_of_mem hx
  have hb := h.after
  cases b with
  | nil => simp [chain_nil.1 hb] at hy
  | cons z b =>
    have hyz : y = z := by
      have hz := hb.1
      rw [hy] at hz
      simpa using hz
    simp [hyz]

/-- The nodes of the list are the ones that can be reached from its start. -/
theorem mem_iff_reach {y : ι} (h : Chain next p l) :
    y ∈ l ↔ ∃ x, p = some x ∧ Relation.ReflTransGen (fun a b => next a = some b) x y := by
  constructor
  · intro hy
    induction l generalizing p with
    | nil => exact absurd hy List.not_mem_nil
    | cons x l ih =>
      rcases List.mem_cons.1 hy with rfl | hy
      · exact ⟨y, h.1, .refl⟩
      · obtain ⟨z, hz, hreach⟩ := ih h.2 hy
        exact ⟨x, h.1, .head hz hreach⟩
  · intro hy
    obtain ⟨x, hx, hreach⟩ := hy
    induction hreach with
    | refl => exact List.mem_of_mem_head? (h.eq_head?.symm.trans hx)
    | tail _ hstep ih => exact h.next_mem ih hstep

/-- The last node has no successor. -/
theorem next_getLast {x : ι} (h : Chain next p l) (hx : l.getLast? = some x) :
    next x = none := by
  obtain ⟨a, rfl⟩ := List.getLast?_eq_some_iff.1 hx
  exact h.after

/-- Every other node has one. -/
theorem next_of_ne_getLast {x : ι} (h : Chain next p l) (hx : x ∈ l)
    (hlast : l.getLast? ≠ some x) : ∃ y, next x = some y := by
  obtain ⟨a, b, rfl⟩ := List.append_of_mem hx
  have hb := h.after
  cases b with
  | nil => exact absurd (by simp) hlast
  | cons y b => exact ⟨y, hb.1⟩

/-- No node of a chain leads back to its start: the rest of the list would be the
whole list. -/
theorem next_ne_start {x : ι} (h : Chain next p l) (hx : x ∈ l) : next x ≠ p := by
  intro heq
  obtain ⟨a, b, rfl⟩ := List.append_of_mem hx
  have hrest := h.after
  rw [heq] at hrest
  have hlen := congrArg List.length (hrest.unique h)
  simp only [List.length_append, List.length_cons] at hlen
  omega

/-- A chain is a chain of the inverse map, backwards, in front of what precedes
its first node. -/
theorem reverse_append {prev : ι → Option ι} (hinv : ∀ x y, next x = some y → prev y = some x)
    {r : Option ι} {before : List ι} (h : Chain next p l) (hbefore : Chain prev r before)
    (hfirst : ∀ x, p = some x → prev x = r) :
    Chain prev (l.getLast?.or r) (l.reverse ++ before) := by
  induction l generalizing p r before with
  | nil => exact hbefore
  | cons x l ih =>
    have hx : prev x = r := hfirst x h.1
    have hrest : Chain prev (some x) (x :: before) := ⟨rfl, by rw [hx]; exact hbefore⟩
    have hlast : (x :: l).getLast?.or r = l.getLast?.or (some x) := by
      rw [List.getLast?_cons]
      cases l.getLast? <;> rfl
    rw [hlast, List.reverse_cons, List.append_assoc]
    exact ih h.2 hrest fun y hy => hinv x y hy

/-- A chain only depends on the successors of its own nodes. -/
theorem congr (h : Chain next p l) (heq : ∀ x ∈ l, next' x = next x) :
    Chain next' p l := by
  induction l generalizing p with
  | nil => exact h
  | cons x l ih =>
    refine ⟨h.1, ?_⟩
    rw [heq x List.mem_cons_self]
    exact ih h.2 fun y hy => heq y (List.mem_cons_of_mem x hy)

/-- A node appended behind the last one. -/
theorem concat {e : ι} (h : Chain next l.head? l) (hlast : ∀ x, l.getLast? = some x →
    next' x = some e) (hrest : ∀ x ∈ l, l.getLast? ≠ some x → next' x = next x)
    (he : next' e = none) : Chain next' (l ++ [e]).head? (l ++ [e]) := by
  induction l with
  | nil => exact ⟨rfl, he⟩
  | cons x l ih =>
    refine ⟨rfl, ?_⟩
    cases l with
    | nil => exact ⟨hlast x rfl, he⟩
    | cons y l =>
      have hxy : next x = some y := h.2.1
      have hx : next' x = next x := by
        apply hrest x List.mem_cons_self
        intro hl
        have hmem : x ∈ y :: l := List.mem_of_getLast? (by simpa using hl)
        exact (List.nodup_cons.1 h.nodup).1 hmem
      rw [hx, hxy]
      have hh : Chain next (y :: l).head? (y :: l) := by simpa [hxy] using h.2
      refine ih hh (fun z hz => hlast z (by simpa using hz)) fun z hz hne => ?_
      exact hrest z (List.mem_cons_of_mem x hz) (by simpa using hne)

end Chain

/-! ## The traversal loop -/

/-- The loop that follows `next` until it meets null.  It answers `none` when
`fuel` nodes were not enough to get there. -/
def walk (next : ι → Option ι) : Nat → Option ι → Option (List ι)
  | _, none => some []
  | 0, some _ => none
  | fuel + 1, some x => (walk next fuel (next x)).map (x :: ·)

theorem walk_of_chain {next : ι → Option ι} {p : Option ι} {l : List ι} {fuel : Nat}
    (h : Chain next p l) (hfuel : l.length ≤ fuel) : walk next fuel p = some l := by
  induction l generalizing p fuel with
  | nil =>
    rw [chain_nil.1 h]
    cases fuel <;> rfl
  | cons x l ih =>
    cases fuel with
    | zero => simp at hfuel
    | succ fuel =>
      rw [h.1, walk, ih h.2 (by simpa using hfuel)]
      rfl

theorem chain_of_walk {next : ι → Option ι} {p : Option ι} {l : List ι} {fuel : Nat}
    (h : walk next fuel p = some l) : Chain next p l := by
  induction fuel generalizing p l with
  | zero =>
    cases p with
    | none => cases h; rfl
    | some x => cases h
  | succ fuel ih =>
    cases p with
    | none => cases h; rfl
    | some x =>
      rw [walk, Option.map_eq_some_iff] at h
      obtain ⟨l', hl', rfl⟩ := h
      exact ⟨rfl, ih hl'⟩

/-- Where every node has a successor, the loop does not meet null. -/
theorem walk_eq_none {next : ι → Option ι} (C : ι → Prop)
    (hC : ∀ x, C x → ∃ y, next x = some y ∧ C y) {x : ι} (hx : C x) (fuel : Nat) :
    walk next fuel (some x) = none := by
  induction fuel generalizing x with
  | zero => rfl
  | succ fuel ih =>
    obtain ⟨y, hy, hCy⟩ := hC x hx
    rw [walk, hy, ih hCy]
    rfl

/-! ## Both directions -/

/-- The two pointer maps of a doubly linked structure. -/
@[ext] structure Links (ι : Type u) where
  next : ι → Option ι
  prev : ι → Option ι

namespace Links

/-- `l` is the list that the links hold.  The maps are inverse to each other on
every node, and a node outside `l` has no predecessor. -/
structure Wf (k : Links ι) (l : List ι) : Prop where
  chain : Chain k.next l.head? l
  inverse : ∀ x y, k.next x = some y ↔ k.prev y = some x
  outside : ∀ x, x ∉ l → k.prev x = none

variable [DecidableEq ι]

/-- Make `e` the successor of `x`. -/
def link (k : Links ι) (x e : ι) : Links ι where
  next y := if y = x then some e else k.next y
  prev y := if y = e then some x else k.prev y

/-- Take `x` out: its two neighbours are joined, and `x` keeps no pointer. -/
def remove (k : Links ι) (x : ι) : Links ι where
  next y := if y = x then none else if k.prev x = some y then k.next x else k.next y
  prev y := if y = x then none else if k.next x = some y then k.prev x else k.prev y

variable {k : Links ι} {l : List ι}

omit [DecidableEq ι] in
theorem Wf.nodup (h : k.Wf l) : l.Nodup := h.chain.nodup

omit [DecidableEq ι] in
/-- No node is its own successor. -/
theorem Wf.next_ne_self (h : k.Wf l) (x : ι) : k.next x ≠ some x := by
  intro hx
  by_cases hmem : x ∈ l
  · obtain ⟨a, b, rfl⟩ := List.append_of_mem hmem
    have hb := h.chain.after
    rw [hx] at hb
    have hxb : x ∈ b := by
      cases b with
      | nil => simp at hb
      | cons y b => simp [Option.some.inj hb.1]
    have hnd := (List.nodup_append.1 h.nodup).2.1
    exact (List.nodup_cons.1 hnd).1 hxb
  · have hp := (h.inverse x x).1 hx
    rw [h.outside x hmem] at hp
    simp at hp

omit [DecidableEq ι] in
/-- The successor of a node and its predecessor are different nodes. -/
theorem Wf.next_ne_prev (h : k.Wf l) {x y : ι} (hn : k.next x = some y) :
    k.prev x ≠ some y := by
  intro hp
  have hx : x ∈ l := by
    by_contra hx
    rw [h.outside x hx] at hp
    simp at hp
  have hy : y ∈ l := h.chain.next_mem hx hn
  have hyx : k.next y = some x := (h.inverse y x).2 hp
  -- the list would go round `x → y → x` for ever
  obtain ⟨a, b, rfl⟩ := List.append_of_mem hx
  have hb := h.chain.after
  rw [hn] at hb
  cases b with
  | nil => simp at hb
  | cons z b =>
    obtain rfl : y = z := Option.some.inj hb.1
    have hc := hb.2
    rw [hyx] at hc
    have hxb : x ∈ b := by
      cases b with
      | nil => simp at hc
      | cons w b => simp [Option.some.inj hc.1]
    have hnd := (List.nodup_append.1 h.nodup).2.1
    exact (List.nodup_cons.1 hnd).1 (List.mem_cons_of_mem _ hxb)

omit [DecidableEq ι] in
/-- Every successor is in the list. -/
theorem Wf.mem_of_next {x y : ι} (h : k.Wf l) (hy : k.next x = some y) : y ∈ l := by
  by_contra hyl
  have hp := (h.inverse x y).1 hy
  rw [h.outside y hyl] at hp
  simp at hp

omit [DecidableEq ι] in
/-- The predecessor of a node that is not the first one. -/
theorem Wf.prev_of_append {a b : List ι} {x y : ι} (h : k.Wf (a ++ y :: x :: b)) :
    k.prev x = some y :=
  (h.inverse y x).1 h.chain.after.1

omit [DecidableEq ι] in
/-- The list backwards, when its first node has no predecessor. -/
theorem Wf.chain_reverse (h : k.Wf l) (hfirst : ∀ x, l.head? = some x → k.prev x = none) :
    Chain k.prev l.getLast? l.reverse := by
  have hnil : Chain k.prev none [] := rfl
  have hchain := h.chain.reverse_append (fun x y => (h.inverse x y).1) hnil hfirst
  rwa [Option.or_none, List.append_nil] at hchain

/-- Append `e` behind `x`.  In a non-empty list `x` is the last node; in an
empty one it is any other node without a successor, which then stays outside
the list with `e` as its successor. -/
theorem Wf.link {x e : ι} (h : k.Wf l) (hlast : l ≠ [] → l.getLast? = some x)
    (hx : k.next x = none) (hne : x ≠ e) (hen : k.next e = none)
    (hep : k.prev e = none) : (k.link x e).Wf (l ++ [e]) where
  chain := by
    refine h.chain.concat ?_ ?_ ?_
    · intro y hy
      have hl : l ≠ [] := by
        intro heq
        subst heq
        simp at hy
      obtain rfl : x = y := by
        have := (hlast hl).symm.trans hy
        simpa using this
      simp [Links.link]
    · intro y hy hyl
      have hl : l ≠ [] := by
        intro heq
        subst heq
        simp at hy
      have hyx : y ≠ x := by
        intro heq
        subst heq
        exact hyl (hlast hl)
      simp [Links.link, hyx]
    · simp [Links.link, hne.symm, hen]
  inverse := by
    intro y z
    simp only [Links.link]
    by_cases hyx : y = x
    · by_cases hze : z = e
      · simp [hyx, hze]
      · have hxz : k.prev z ≠ some x := by
          intro hp
          rw [(h.inverse x z).2 hp] at hx
          simp at hx
        simp [hyx, hze, hxz, Ne.symm hze]
    · by_cases hze : z = e
      · have hye : k.next y ≠ some e := by
          intro hn
          rw [(h.inverse y e).1 hn] at hep
          simp at hep
        simp [hyx, hze, hye, Ne.symm hyx]
      · simpa [hyx, hze] using h.inverse y z
  outside := by
    intro y hy
    have hy' : y ∉ l ∧ y ≠ e := by simpa [not_or] using hy
    simp [Links.link, hy'.2, h.outside y hy'.1]

/-- Linking a node that already has a successor closes a cycle. -/
theorem Wf.walk_link_eq_none {x e : ι} (h : k.Wf l) (hlast : l.getLast? = some x)
    (he : e ∉ l) (hnext : k.next e ≠ none) (fuel : Nat) :
    walk (k.link x e).next fuel l.head? = none := by
  obtain ⟨y, hy⟩ := Option.ne_none_iff_exists'.1 hnext
  have hyl : y ∈ l := h.mem_of_next hy
  have hxe : e ≠ x := fun heq => he (heq ▸ List.mem_of_getLast? hlast)
  have hstep : ∀ z, z ∈ l ∨ z = e →
      ∃ z', (k.link x e).next z = some z' ∧ (z' ∈ l ∨ z' = e) := by
    intro z hz
    by_cases hzx : z = x
    · exact ⟨e, if_pos hzx, Or.inr rfl⟩
    · have hsame : (k.link x e).next z = k.next z := if_neg hzx
      rw [hsame]
      rcases hz with hz | rfl
      · obtain ⟨z', hz'⟩ := h.chain.next_of_ne_getLast hz fun hl =>
          hzx (Option.some.inj (hl.symm.trans hlast))
        exact ⟨z', hz', Or.inl (h.chain.next_mem hz hz')⟩
      · exact ⟨y, hy, Or.inl hyl⟩
  cases l with
  | nil => exact absurd hyl List.not_mem_nil
  | cons z l => exact walk_eq_none _ hstep (Or.inl List.mem_cons_self) fuel

/-- Taking a node out of the middle of a chain. -/
private theorem chain_remove (h : k.Wf l) {a b : List ι} {x : ι} {p : Option ι}
    (hc : Chain k.next p (a ++ x :: b)) :
    Chain (k.remove x).next (if a = [] then k.next x else p) (a ++ b) := by
  induction a generalizing p with
  | nil =>
    have hnd := hc.nodup
    apply Chain.congr (by simpa using hc.2)
    intro y hy
    have hyx : y ≠ x := by
      intro heq
      subst heq
      exact (List.nodup_cons.1 hnd).1 hy
    have hp : k.prev x ≠ some y := by
      intro hp
      have hxb := hc.2.next_mem hy ((h.inverse y x).2 hp)
      exact (List.nodup_cons.1 hnd).1 hxb
    simp [remove, hyx, hp]
  | cons y a ih =>
    have hnd := List.nodup_cons.1 hc.nodup
    have hyx : y ≠ x := by
      intro heq
      subst heq
      exact hnd.1 (by simp)
    have hrest := ih hc.2
    refine ⟨by simpa using hc.1, ?_⟩
    cases a with
    | nil =>
      have hyn : k.next y = some x := hc.2.1
      have hp : k.prev x = some y := (h.inverse y x).1 hyn
      simpa [remove, hyx, hp] using hrest
    | cons z a =>
      have hyn : k.next y = some z := hc.2.1
      have hp : k.prev x ≠ some y := by
        intro hp
        have hyx' := (h.inverse y x).2 hp
        have hzx : z = x := Option.some.inj (hyn.symm.trans hyx')
        have hnd' := (List.nodup_cons.1 hnd.2).1
        exact hnd' (by simp [hzx])
      simpa [remove, hyx, hp] using hrest

/-- Taking a node out, in the list or not, leaves a well-formed structure. -/
theorem Wf.remove (h : k.Wf l) (x : ι) : (k.remove x).Wf (l.erase x) where
  chain := by
    by_cases hx : x ∈ l
    · obtain ⟨a, b, rfl⟩ := List.append_of_mem hx
      have hxa : x ∉ a := by
        intro hxa
        exact (List.nodup_append.1 h.nodup).2.2 x hxa x (by simp) rfl
      have herase : (a ++ x :: b).erase x = a ++ b := by
        rw [List.erase_append_right _ hxa, List.erase_cons_head]
      have hc := chain_remove h h.chain
      rw [herase, ← hc.eq_head?]
      exact hc
    · rw [List.erase_of_not_mem hx]
      apply h.chain.congr
      intro y hy
      have hyx : y ≠ x := by
        intro heq
        subst heq
        exact hx hy
      have hp : k.prev x ≠ some y := by simp [h.outside x hx]
      simp [Links.remove, hyx, hp]
  inverse := by
    intro y z
    have hself := h.next_ne_self x
    have hyz := h.inverse y z
    have hyx := h.inverse y x
    have hxz := h.inverse x z
    have hxx := h.inverse x x
    simp only [Links.remove]
    split_ifs <;> grind
  outside := by
    intro y hy
    by_cases hyx : y = x
    · simp [Links.remove, hyx]
    · have hyl : y ∉ l := fun hmem => hy ((List.mem_erase_of_ne hyx).2 hmem)
      have hp := h.outside y hyl
      have hn : k.next x ≠ some y := by
        intro hn
        have := (h.inverse x y).1 hn
        simp [hp] at this
      simp [Links.remove, hyx, hn, hp]

end Links

end DoublyLinked
