/-!
# Labelled transition systems

A `System` says where a machine may start and how it may move under a label.
The label of a deterministic program is the call that is made, with the
inputs it reads; the label of a specification is the same call with the
answer it must give.

Two rules carry every run-level proof of the development:

* `Reach.invariant`: what holds at the start and is kept by every step holds
  in every reachable state;
* `Run.simulates`: a relation that every concrete step can follow on the
  abstract side turns a concrete run into an abstract run with the same labels.
-/

namespace Transition

universe u v w

/-- The start states and the labelled steps of a machine. -/
structure System (σ : Type u) (ℓ : Type v) where
  init : σ → Prop
  step : σ → ℓ → σ → Prop

variable {σ : Type u} {τ : Type w} {ℓ : Type v}

namespace System

/-- The states a system can get to. -/
inductive Reach (S : System σ ℓ) : σ → Prop where
  | init {s} : S.init s → Reach S s
  | step {s a s'} : Reach S s → S.step s a s' → Reach S s'

/-- The states a system can get to, with the labels of the way there, the
newest label first. -/
inductive Run (S : System σ ℓ) : List ℓ → σ → Prop where
  | init {s} : S.init s → Run S [] s
  | step {as s a s'} : Run S as s → S.step s a s' → Run S (a :: as) s'

/-- The same machine, with only the steps that meet `cond`. -/
def restrict (S : System σ ℓ) (cond : σ → ℓ → Prop) : System σ ℓ where
  init := S.init
  step s a s' := S.step s a s' ∧ cond s a

/-- The machine of a program: each accepted call moves the state by `next`. -/
def ofFunction (init : σ → Prop) (accepts : σ → ℓ → Prop) (next : σ → ℓ → σ) :
    System σ ℓ where
  init := init
  step s a s' := accepts s a ∧ s' = next s a

variable {S : System σ ℓ}

/-- The induction rule.  The step case may use that the state before the step
is reachable, so invariants that are already proved can be used there. -/
theorem Reach.invariant (Inv : σ → Prop) (h0 : ∀ s, S.init s → Inv s)
    (hstep : ∀ s a s', S.Reach s → Inv s → S.step s a s' → Inv s')
    {s : σ} (h : S.Reach s) : Inv s := by
  induction h with
  | init hinit => exact h0 _ hinit
  | step hreach hs ih => exact hstep _ _ _ hreach ih hs

/-- What a machine can get to under a condition, it can get to without it. -/
theorem Reach.of_restrict {cond : σ → ℓ → Prop} {s : σ} (h : (S.restrict cond).Reach s) :
    S.Reach s := by
  induction h with
  | init hinit => exact .init hinit
  | step _ hs ih => exact .step ih hs.1

/-- A condition that always holds leaves no step out. -/
theorem Reach.restrict {cond : σ → ℓ → Prop} {s : σ} (h : S.Reach s)
    (hcond : ∀ s a, cond s a) : (S.restrict cond).Reach s := by
  induction h with
  | init hinit => exact .init hinit
  | step _ hs ih => exact .step ih ⟨hs, hcond _ _⟩

theorem Run.reach {as : List ℓ} {s : σ} (h : S.Run as s) : S.Reach s := by
  induction h with
  | init hinit => exact .init hinit
  | step _ hs ih => exact .step ih hs

/-- Forward simulation: when every start state has a related one and every
step from related states can be followed under the same label, every run of
`S` is matched by a run of `A` with the same labels. -/
theorem Run.simulates {A : System τ ℓ} {R : σ → τ → Prop}
    (hinit : ∀ s, S.init s → ∃ t, A.init t ∧ R s t)
    (hstep : ∀ s a s' t, R s t → S.step s a s' → ∃ t', A.step t a t' ∧ R s' t')
    {as : List ℓ} {s : σ} (h : S.Run as s) : ∃ t, A.Run as t ∧ R s t := by
  induction h with
  | init h0 =>
    obtain ⟨t, ht, hR⟩ := hinit _ h0
    exact ⟨t, .init ht, hR⟩
  | step _ hs ih =>
    obtain ⟨t, hrun, hR⟩ := ih
    obtain ⟨t', ht', hR'⟩ := hstep _ _ _ _ hR hs
    exact ⟨t', .step hrun ht', hR'⟩

end System

/-! ## Calls in order

`replay` makes a list of calls, the oldest first.  It is how a concrete run
is written down. -/

section Replay

variable (accepts : σ → ℓ → Prop) (next : σ → ℓ → σ)

/-- The state after the calls of a list. -/
def replay : σ → List ℓ → σ
  | s, [] => s
  | s, a :: as => replay (next s a) as

/-- Every call of the list is accepted where it is made. -/
def Accepted : σ → List ℓ → Prop
  | _, [] => True
  | s, a :: as => accepts s a ∧ Accepted (next s a) as

instance Accepted.instDecidable [∀ s a, Decidable (accepts s a)] :
    ∀ s as, Decidable (Accepted accepts next s as)
  | _, [] => .isTrue trivial
  | s, a :: as =>
    have := Accepted.instDecidable (next s a) as
    inferInstanceAs (Decidable (accepts s a ∧ Accepted accepts next (next s a) as))

variable {accepts next}

/-- A condition that always holds accepts every run. -/
theorem accepted_of_forall (h : ∀ s a, accepts s a) (as : List ℓ) (s : σ) :
    Accepted accepts next s as := by
  induction as generalizing s with
  | nil => trivial
  | cons a as ih => exact ⟨h s a, ih (next s a)⟩

theorem reach_replay {init : σ → Prop} (as : List ℓ) {s : σ}
    (h : (System.ofFunction init accepts next).Reach s)
    (hacc : Accepted accepts next s as) :
    (System.ofFunction init accepts next).Reach (replay next s as) := by
  induction as generalizing s with
  | nil => exact h
  | cons a as ih => exact ih (.step h ⟨hacc.1, rfl⟩) hacc.2

/-- The same for a machine with a side condition. -/
theorem reach_replay_restrict {init : σ → Prop} {cond : σ → ℓ → Prop} (as : List ℓ) {s : σ}
    (h : ((System.ofFunction init accepts next).restrict cond).Reach s)
    (hacc : Accepted (fun s a => accepts s a ∧ cond s a) next s as) :
    ((System.ofFunction init accepts next).restrict cond).Reach (replay next s as) := by
  induction as generalizing s with
  | nil => exact h
  | cons a as ih => exact ih (.step h ⟨⟨hacc.1.1, rfl⟩, hacc.1.2⟩) hacc.2

/-- Calls that lead out of a set of states have a first one that leaves it. -/
theorem exists_leaving {P : σ → Prop} (as : List ℓ) {s : σ} (hs : P s)
    (hend : ¬P (replay next s as)) :
    ∃ before a after, as = before ++ a :: after ∧ P (replay next s before) ∧
      ¬P (next (replay next s before) a) := by
  induction as generalizing s with
  | nil => exact absurd hs hend
  | cons a as ih =>
    by_cases hnext : P (next s a)
    · obtain ⟨before, b, after, rfl, hbefore, hleaves⟩ := ih hnext hend
      exact ⟨a :: before, b, after, rfl, hbefore, hleaves⟩
    · exact ⟨[], a, as, rfl, hs, hnext⟩

theorem Accepted.last {as : List ℓ} {a : ℓ} {s : σ} (h : Accepted accepts next s (as ++ [a])) :
    accepts (replay next s as) a := by
  induction as generalizing s with
  | nil => exact h.1
  | cons b as ih => exact ih h.2

/-- Two conditions that agree wherever an invariant holds accept the same runs, if
the calls that they accept keep the invariant. -/
theorem accepted_congr {accepts' : σ → ℓ → Prop} (Inv : σ → Prop)
    (hiff : ∀ s a, Inv s → (accepts s a ↔ accepts' s a))
    (hstep : ∀ s a, Inv s → accepts' s a → Inv (next s a)) (as : List ℓ) {s : σ} (h : Inv s) :
    Accepted accepts next s as ↔ Accepted accepts' next s as := by
  induction as generalizing s with
  | nil => exact Iff.rfl
  | cons a as ih =>
    constructor
    · intro hacc
      have ha := (hiff s a h).1 hacc.1
      exact ⟨ha, (ih (hstep s a h ha)).1 hacc.2⟩
    · intro hacc
      exact ⟨(hiff s a h).2 hacc.1, (ih (hstep s a h hacc.1)).2 hacc.2⟩

end Replay

end Transition
