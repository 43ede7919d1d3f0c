import Mathlib.Logic.Function.Basic
import XBeeMqtt.Lib.DoublyLinked

/-!
# `LinkedNode`: the nodes of the queue and their pointer updates

`linked_node.h` defines a node that carries a value, a flag and two
pointers.  A heap maps every node of the program to its contents, and the
member functions become functions on heaps that take the node they are
called on.

`link`, `linkPrev`, `linkNext` and `unlink` set the flag of the node they are
called on, and `unlink` calls `linkPrev` and `linkNext` on the two
neighbours.  `Heap.Wf` is the invariant that makes those flag writes
harmless: a node whose flag is clear has no pointer, so a neighbour is always
linked already.  `Heap.Wf.unlink` and `Heap.Wf.link` are the two updates
under that invariant, read off `DoublyLinked.Links`.
-/

namespace XBeeMqtt

open DoublyLinked

universe u v

/-- The contents of a `LinkedNode<T>`.  A pointer to a node is its name, and
the null pointer is `none`. -/
@[ext] structure LinkedNode (ι : Type u) (α : Type v) where
  linked : Bool
  next : Option ι
  prev : Option ι
  value : α
  deriving DecidableEq, Repr

/-- `LinkedNode(T const &value)`. -/
def LinkedNode.mk' {ι : Type u} {α : Type v} (value : α) : LinkedNode ι α where
  linked := false
  next := none
  prev := none
  value := value

/-- What every node of the program holds. -/
abbrev Heap (ι : Type u) (α : Type v) := ι → LinkedNode ι α

namespace Heap

variable {ι : Type u} {α : Type v} [DecidableEq ι]

/-! ## The member functions -/

def linkPrev (h : Heap ι α) (this : ι) (prev : Option ι) : Bool × Heap ι α :=
  let h := Function.update h this { h this with linked := true }
  if some this = prev then (false, h)
  else (true, Function.update h this { h this with prev := prev })

def linkNext (h : Heap ι α) (this : ι) (next : Option ι) : Bool × Heap ι α :=
  let h := Function.update h this { h this with linked := true }
  if some this = next then (false, h)
  else (true, Function.update h this { h this with next := next })

def link (h : Heap ι α) (this next : ι) : Bool × Heap ι α :=
  let h := Function.update h this { h this with linked := true }
  if this = next then (false, h)
  else
    let h := (linkPrev h next (some this)).2
    (true, Function.update h this { h this with next := some next })

def unlink (h : Heap ι α) (this : ι) : Heap ι α :=
  let h := match (h this).next with
    | some next => (linkPrev h next (h this).prev).2
    | none => h
  let h := match (h this).prev with
    | some prev => (linkNext h prev (h this).next).2
    | none => h
  Function.update h this { h this with prev := none, next := none, linked := false }

/-! ## The invariant of the pointers and the flags -/

omit [DecidableEq ι]

/-- The pointers of a heap, without flags and values. -/
def links (h : Heap ι α) : Links ι where
  next x := (h x).next
  prev x := (h x).prev

@[simp] theorem links_next (h : Heap ι α) (x : ι) : h.links.next x = (h x).next := rfl

@[simp] theorem links_prev (h : Heap ι α) (x : ι) : h.links.prev x = (h x).prev := rfl

/-- The heap holds the list `l`: its nodes are linked, and a node that is not
linked has no pointer.  A linked node outside `l` is allowed. -/
structure Wf (h : Heap ι α) (l : List ι) : Prop where
  links : h.links.Wf l
  linked : ∀ x ∈ l, (h x).linked = true
  idle : ∀ x, (h x).linked = false → (h x).next = none ∧ (h x).prev = none

variable {h : Heap ι α} {l : List ι}

theorem Wf.not_mem (w : h.Wf l) {x : ι} (hx : (h x).linked = false) : x ∉ l := by
  intro hmem
  rw [w.linked x hmem] at hx
  simp at hx

/-- The successor of a node is linked. -/
theorem Wf.linked_of_next (w : h.Wf l) {x n : ι} (hn : (h x).next = some n) :
    (h n).linked = true := by
  by_contra hl
  have hp : (h n).prev = some x := (w.links.inverse x n).1 hn
  rw [(w.idle n (by simpa using hl)).2] at hp
  simp at hp

/-- The predecessor of a node is linked. -/
theorem Wf.linked_of_prev (w : h.Wf l) {x p : ι} (hp : (h x).prev = some p) :
    (h p).linked = true := by
  by_contra hl
  have hn : (h p).next = some x := (w.links.inverse p x).2 hp
  rw [(w.idle p (by simpa using hl)).1] at hn
  simp at hn

variable [DecidableEq ι]

theorem linkPrev_of_ne {x : ι} {p : Option ι} (hp : some x ≠ p) :
    (linkPrev h x p).2 = Function.update h x { h x with linked := true, prev := p } := by
  simp [linkPrev, hp]

theorem linkNext_of_ne {x : ι} {n : Option ι} (hn : some x ≠ n) :
    (linkNext h x n).2 = Function.update h x { h x with linked := true, next := n } := by
  simp [linkNext, hn]

theorem link_of_ne {x e : ι} (he : x ≠ e) :
    (link h x e).2 = Function.update
      (Function.update h e { h e with linked := true, prev := some x })
      x { h x with linked := true, next := some e } := by
  have hex : some e ≠ some x := by simpa using Ne.symm he
  unfold link
  rw [if_neg he, linkPrev_of_ne hex]
  funext y
  by_cases hye : y = e <;> by_cases hyx : y = x <;>
    simp_all [Ne.symm he]

/-- What `unlink` writes, node by node. -/
theorem Wf.unlink_apply (w : h.Wf l) (x y : ι) :
    unlink h x y =
      { linked := if y = x then false else (h y).linked
        next := (h.links.remove x).next y
        prev := (h.links.remove x).prev y
        value := (h y).value } := by
  have hself : (h x).next ≠ some x := w.links.next_ne_self x
  have hselfp : (h x).prev ≠ some x := fun hp => hself ((w.links.inverse x x).2 hp)
  have hnp : ∀ n, (h x).next = some n → (h x).prev ≠ some n :=
    fun n hn => w.links.next_ne_prev hn
  unfold unlink
  cases hn : (h x).next with
  | none =>
    cases hp : (h x).prev with
    | none => by_cases hyx : y = x <;> simp [hn, hp, hyx, Links.remove]
    | some p =>
      have hpx : p ≠ x := by
        intro heq
        subst heq
        exact hselfp hp
      have hlp := w.linked_of_prev hp
      simp only [hp, hn, linkNext_of_ne (Option.some_ne_none p), Links.remove,
        Function.update_apply, links_next, links_prev]
      ext <;> grind
  | some n =>
    have hnx : n ≠ x := by
      intro heq
      subst heq
      exact hself hn
    have hln := w.linked_of_next hn
    have hpn : some n ≠ (h x).prev := (hnp n hn).symm
    simp only [linkPrev_of_ne hpn, Function.update_of_ne (Ne.symm hnx)]
    cases hp : (h x).prev with
    | none =>
      simp only [hp, hn, Links.remove, Function.update_apply, links_next, links_prev]
      ext <;> grind
    | some p =>
      have hpx : p ≠ x := by
        intro heq
        subst heq
        exact hselfp hp
      have hnp' : some p ≠ some n := by rw [← hp]; exact hnp n hn
      have hlp := w.linked_of_prev hp
      simp only [hp, hn, linkNext_of_ne hnp', Links.remove, Function.update_apply,
        links_next, links_prev]
      ext <;> grind

@[simp] theorem Wf.unlink_links (w : h.Wf l) (x : ι) :
    (unlink h x).links = h.links.remove x :=
  Links.ext (funext fun y => by rw [links_next, w.unlink_apply])
    (funext fun y => by rw [links_prev, w.unlink_apply])

theorem Wf.unlink_linked (w : h.Wf l) (x y : ι) :
    (unlink h x y).linked = if y = x then false else (h y).linked := by
  rw [w.unlink_apply]

theorem Wf.unlink_value (w : h.Wf l) (x y : ι) : (unlink h x y).value = (h y).value := by
  rw [w.unlink_apply]

/-- Unlinking a node, in the list or not, takes it out of the list. -/
theorem Wf.unlink (w : h.Wf l) (x : ι) : (unlink h x).Wf (l.erase x) where
  links := by
    rw [w.unlink_links]
    exact w.links.remove x
  linked := by
    intro y hy
    have hyx : y ≠ x := by
      intro heq
      subst heq
      exact w.links.nodup.not_mem_erase hy
    rw [w.unlink_linked, if_neg hyx]
    exact w.linked y (List.mem_of_mem_erase hy)
  idle := by
    intro y hy
    rw [w.unlink_linked] at hy
    rw [w.unlink_apply]
    by_cases hyx : y = x
    · simp [Links.remove, hyx]
    · rw [if_neg hyx] at hy
      obtain ⟨hn, hp⟩ := w.idle y hy
      have hxp : (h x).prev ≠ some y := fun hxp => by
        simp [w.linked_of_prev hxp] at hy
      have hxn : (h x).next ≠ some y := fun hxn => by
        simp [w.linked_of_next hxn] at hy
      simp [Links.remove, hyx, hxp, hxn, hn, hp]

theorem link_linked (x e y : ι) :
    ((link h x e).2 y).linked = if y = x ∨ y = e then true else (h y).linked := by
  by_cases hxe : x = e
  · subst hxe
    by_cases hyx : y = x <;> simp [link, hyx]
  · rw [link_of_ne hxe]
    by_cases hyx : y = x <;> by_cases hye : y = e <;> simp_all

theorem link_value (x e y : ι) : ((link h x e).2 y).value = (h y).value := by
  by_cases hxe : x = e
  · subst hxe
    by_cases hyx : y = x <;> simp [link, hyx]
  · rw [link_of_ne hxe]
    by_cases hyx : y = x <;> by_cases hye : y = e <;> simp_all

theorem links_link {x e : ι} (hxe : x ≠ e) : (link h x e).2.links = h.links.link x e := by
  rw [link_of_ne hxe]
  unfold links Links.link
  congr 1 <;> funext y <;> by_cases hyx : y = x <;> by_cases hye : y = e <;>
    simp_all

/-- Linking a node `e` without pointers behind `x` appends it.  When the list is
empty, `x` is a stale node: it becomes linked without being in the list. -/
theorem Wf.link (w : h.Wf l) {x e : ι} (hlast : l ≠ [] → l.getLast? = some x)
    (hx : (h x).next = none) (hxe : x ≠ e) (hnext : (h e).next = none)
    (hprev : (h e).prev = none) : (link h x e).2.Wf (l ++ [e]) where
  links := by
    rw [links_link hxe]
    exact w.links.link hlast hx hxe hnext hprev
  linked := by
    intro y hy
    rw [link_linked]
    rcases List.mem_append.1 hy with hyl | hye
    · simp [w.linked y hyl]
    · simp [List.mem_singleton.1 hye]
  idle := by
    intro y hy
    rw [link_linked] at hy
    have hyx : y ≠ x ∧ y ≠ e := by
      constructor <;> rintro rfl <;> simp at hy
    rw [link_of_ne hxe]
    simpa [hyx.1, hyx.2] using w.idle y (by simpa [hyx.1, hyx.2] using hy)

/-- Linking an unlinked node to itself in an empty list only sets its flag. -/
theorem Wf.link_self (w : h.Wf []) {e : ι} (he : (h e).linked = false) :
    (Heap.link h e e).2.Wf [e] where
  links := by
    have hlinks : (Heap.link h e e).2.links = h.links := by
      unfold Heap.links
      congr 1 <;> funext y <;> by_cases hye : y = e <;> simp [Heap.link, hye]
    rw [hlinks]
    refine ⟨⟨rfl, (w.idle e he).1⟩, w.links.inverse, fun y _ => ?_⟩
    exact w.links.outside y List.not_mem_nil
  linked := by
    intro y hy
    simp [link_linked, List.mem_singleton.1 hy]
  idle := by
    intro y hy
    rw [link_linked] at hy
    have hye : y ≠ e := by
      intro heq
      subst heq
      simp at hy
    simpa [Heap.link, hye] using w.idle y (by simpa [hye] using hy)

end Heap

end XBeeMqtt
