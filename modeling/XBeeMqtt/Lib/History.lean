import Mathlib.Data.List.Basic

/-!
# Histories

A history variable is a list of events, the newest first, that a step only
extends at the front.  Three things are said about it:

* `Always P`: every event had `P` when it was made, given the events before it;
* `since mark`: the events after the last one that satisfies `mark`;
* `shown f`: what the events show, in the order in which they were made.

A step that adds the events `new` keeps `Always P` when each of them has `P`
over what was there before (`always_append`), and `since_append` says what it
does to the segment.  A log that shows the first steps of a list, one at a time,
goes on to show them when the next event shows nothing or the next step
(`shown_cons_nil`, `shown_next`).
-/

namespace History

universe u

variable {ε : Type u} {P Q : ε → List ε → Prop} {mark : ε → Bool}

/-- Every event of the log had `P` over the events before it. -/
def Always (P : ε → List ε → Prop) : List ε → Prop
  | [] => True
  | e :: older => P e older ∧ Always P older

@[simp] theorem always_nil : Always P [] := trivial

@[simp] theorem always_cons {e : ε} {older : List ε} :
    Always P (e :: older) ↔ P e older ∧ Always P older := Iff.rfl

theorem Always.of_append {new older : List ε} (h : Always P (new ++ older)) :
    Always P older := by
  induction new with
  | nil => exact h
  | cons e new ih => exact ih h.2

instance Always.instDecidable [∀ e older, Decidable (P e older)] :
    (log : List ε) → Decidable (Always P log)
  | [] => .isTrue trivial
  | e :: older =>
    have := Always.instDecidable older
    inferInstanceAs (Decidable (P e older ∧ Always P older))

theorem always_append {new older : List ε} (hold : Always P older)
    (hnew : ∀ a e b, new = a ++ e :: b → P e (b ++ older)) : Always P (new ++ older) := by
  induction new with
  | nil => exact hold
  | cons e new ih =>
    refine ⟨hnew [] e new rfl, ih fun a e' b hab => ?_⟩
    exact hnew (e :: a) e' b (by rw [hab, List.cons_append])

/-- Events that have the property over any past can always be added. -/
theorem Always.append {new older : List ε} (hold : Always P older)
    (hnew : ∀ e ∈ new, ∀ past, P e past) : Always P (new ++ older) :=
  always_append hold fun a e b hab => hnew e (by simp [hab]) _

/-! ## The segment since a mark -/

/-- The events after the last one that satisfies `mark`. -/
def since (mark : ε → Bool) (log : List ε) : List ε :=
  log.takeWhile fun e => !mark e

theorem since_cons_mark {e : ε} {log : List ε} (h : mark e = true) :
    since mark (e :: log) = [] := by
  simp [since, h]

theorem since_cons {e : ε} {log : List ε} (h : mark e = false) :
    since mark (e :: log) = e :: since mark log := by
  simp [since, h]

/-- Events that are no mark extend the segment. -/
theorem since_append {new log : List ε} (h : ∀ e ∈ new, mark e = false) :
    since mark (new ++ log) = new ++ since mark log := by
  induction new with
  | nil => rfl
  | cons e new ih =>
    rw [List.cons_append, since_cons (h e (by simp)), List.cons_append,
      ih fun e' he' => h e' (by simp [he'])]

/-! ## What the events show -/

section Shown

universe v

variable {κ : Type v}

/-- What each event shows, the oldest first, without those that show nothing. -/
def shown (f : ε → List κ) (log : List ε) : List (List κ) :=
  ((log.map f).filter (· ≠ [])).reverse

theorem shown_cons_nil {f : ε → List κ} {e : ε} (log : List ε) (h : f e = []) :
    shown f (e :: log) = shown f log := by
  unfold shown
  rw [List.map_cons, List.filter_cons_of_neg (by simp [h])]

theorem shown_cons {f : ε → List κ} {e : ε} (log : List ε) (h : f e ≠ []) :
    shown f (e :: log) = shown f log ++ [f e] := by
  unfold shown
  rw [List.map_cons, List.filter_cons_of_pos (by simpa using h), List.reverse_cons]

/-- One more step of a list is shown. -/
theorem shown_next {f : ε → List κ} {e : ε} {log : List ε} {steps : List κ} {k : Nat} {a : κ}
    (hlog : shown f log = (steps.take k).map fun a => [a]) (ha : steps[k]? = some a)
    (he : f e = [a]) : shown f (e :: log) = (steps.take (k + 1)).map fun a => [a] := by
  rw [shown_cons log (by rw [he]; exact List.cons_ne_nil a []), hlog, he, List.take_add_one, ha,
    List.map_append]
  rfl

/-- A log that shows nothing has no event that does. -/
theorem eq_nil_of_shown {f : ε → List κ} {log : List ε} (h : shown f log = []) {e : ε}
    (he : e ∈ log) : f e = [] := by
  apply Decidable.byContradiction
  intro hne
  have hmem : f e ∈ shown f log :=
    List.mem_reverse.2 (List.mem_filter.2 ⟨List.mem_map_of_mem he, by simpa using hne⟩)
  rw [h] at hmem
  exact absurd hmem List.not_mem_nil

end Shown

end History
