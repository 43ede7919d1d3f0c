import Mathlib.Algebra.Group.Nat.Defs
import Mathlib.Data.List.Basic

/-!
# Timers on a clock that wraps

A program waits by writing down a reading of a 32 bit clock and comparing the
difference of a later reading with an interval.  The clock wraps, and a timer
field may be shared by several waits, so two things have to be known:

* the difference of two readings is the time between them as long as less than
  2 ^ 32 ticks have passed (`toNat_sub_ofNat`), and never more (`apart_of_lt`);
* the field holds the reading that was made when the wait began.

For the second, `Timers` says which events of a history restart a timer, where
its field is and when it is running.  `Restarts` is what a step may do, `advance`
keeps the true start times beside the state, and `Sound.advance` is the step
rule of the invariant that ties them to the fields.
-/

namespace Clock

universe u v w

/-- The difference of two readings. -/
theorem toNat_sub_ofNat {start now : Nat} (hle : start ≤ now) (hlt : now < start + 2 ^ 32) :
    (UInt32.ofNat now - (UInt32.ofNat start).toInt32.toUInt32).toNat = now - start := by
  rw [UInt32.toUInt32_toInt32, UInt32.toNat_sub, UInt32.toNat_ofNat', UInt32.toNat_ofNat']
  omega

/-- Whenever a clock shows `a` and not before that `b`, more than `interval` ticks have
passed in between. -/
def Apart (interval a b : UInt32) : Prop :=
  ∀ start now : Nat, start ≤ now → UInt32.ofNat start = a → UInt32.ofNat now = b →
    start + interval.toNat < now

/-- The difference of two readings never says more than the time between them. -/
theorem apart_of_lt {interval a b : UInt32} (h : interval < b - a.toInt32.toUInt32) :
    Apart interval a b := by
  intro start now hle ha hb
  rw [← ha, ← hb, UInt32.lt_iff_toNat_lt, UInt32.toUInt32_toInt32, UInt32.toNat_sub,
    UInt32.toNat_ofNat', UInt32.toNat_ofNat'] at h
  omega

/-- The timers of a machine that keeps a history, the newest event first. -/
structure Timers (σ : Type u) (τ : Type v) (ε : Type w) where
  log : σ → List ε
  /-- The start time that the machine wrote down. -/
  field : τ → σ → Int32
  /-- The machine waits for the timer, or will. -/
  runs : τ → σ → Prop
  /-- The timer that an event restarts. -/
  restarts : ε → Option τ

variable {σ : Type u} {τ : Type v} {ε : Type w} {T : Timers σ τ ε}

namespace Timers

/-- A step writes the readings of the timers that its events restart, and leaves
the others alone. -/
def Restarts (T : Timers σ τ ε) (read : τ → UInt32) (s s' : σ) : Prop :=
  ∃ new, T.log s' = new ++ T.log s ∧ ∀ k,
    (some k ∈ new.map T.restarts → T.field k s' = (read k).toInt32) ∧
    (some k ∉ new.map T.restarts → T.field k s' = T.field k s ∧ (T.runs k s' → T.runs k s))

variable {read : τ → UInt32} {s s₁ s' : σ}

/-- A step that restarts nothing. -/
theorem Restarts.of_frame (new : List ε) (hlog : T.log s' = new ++ T.log s)
    (hnew : ∀ e ∈ new, T.restarts e = none)
    (hsame : ∀ k, T.field k s' = T.field k s ∧ (T.runs k s' → T.runs k s)) :
    T.Restarts read s s' := by
  refine ⟨new, hlog, fun k => ⟨fun hmem => ?_, fun _ => hsame k⟩⟩
  obtain ⟨e, he, heq⟩ := List.mem_map.1 hmem
  rw [hnew e he] at heq
  exact absurd heq (by simp)

/-- A step with one event that restarts one timer. -/
theorem Restarts.one {e : ε} (k : τ) (hlog : T.log s' = e :: T.log s)
    (he : T.restarts e = some k) (hread : T.field k s' = (read k).toInt32)
    (hsame : ∀ j, j ≠ k → T.field j s' = T.field j s ∧ (T.runs j s' → T.runs j s)) :
    T.Restarts read s s' := by
  refine ⟨[e], hlog, fun j => ⟨fun hmem => ?_, fun hmem => hsame j fun heq => hmem ?_⟩⟩
  · rw [List.map_singleton, List.mem_singleton, he] at hmem
    rw [Option.some.inj hmem]
    exact hread
  · rw [List.map_singleton, List.mem_singleton, he, heq]

theorem Restarts.trans (h : T.Restarts read s s₁) (h' : T.Restarts read s₁ s') :
    T.Restarts read s s' := by
  obtain ⟨old, hold, hsteps⟩ := h
  obtain ⟨new, hnew, hsteps'⟩ := h'
  refine ⟨new ++ old, by rw [hnew, hold, List.append_assoc], fun k => ?_⟩
  rw [List.map_append, List.mem_append]
  by_cases hlate : some k ∈ new.map T.restarts
  · exact ⟨fun _ => (hsteps' k).1 hlate, fun hnone => absurd (Or.inl hlate) hnone⟩
  · obtain ⟨hfield, hruns⟩ := (hsteps' k).2 hlate
    refine ⟨fun hmem => ?_, fun hnone => ?_⟩
    · rw [hfield]
      exact (hsteps k).1 (hmem.resolve_left hlate)
    · obtain ⟨hfield', hruns'⟩ := (hsteps k).2 fun hearly => hnone (Or.inr hearly)
      exact ⟨hfield.trans hfield', fun h => hruns' (hruns h)⟩

/-- Readings of timers that no event of the step restarts do not matter. -/
theorem Restarts.congr {read' : τ → UInt32} (h : T.Restarts read s s')
    (hread : ∀ new, T.log s' = new ++ T.log s → ∀ k, some k ∈ new.map T.restarts →
      read k = read' k) : T.Restarts read' s s' := by
  obtain ⟨new, hlog, hsteps⟩ := h
  refine ⟨new, hlog, fun k => ⟨fun hmem => ?_, (hsteps k).2⟩⟩
  rw [← hread new hlog k hmem]
  exact (hsteps k).1 hmem

/-! ## Start times -/

/-- The timers that a step restarts. -/
def restarted (T : Timers σ τ ε) (s s' : σ) : List (Option τ) :=
  ((T.log s').take ((T.log s').length - (T.log s).length)).map T.restarts

theorem restarted_eq (new : List ε) (hlog : T.log s' = new ++ T.log s) :
    T.restarted s s' = new.map T.restarts := by
  unfold restarted
  rw [hlog, List.length_append, Nat.add_sub_cancel, List.take_left']
  rfl

section Advance

variable [DecidableEq τ]

/-- The start times after a step. -/
def advance (T : Timers σ τ ε) (times : τ → Nat) (started : τ → Option Nat) (s s' : σ) :
    τ → Option Nat :=
  fun k => if some k ∈ T.restarted s s' then some (times k) else started k

/-- The start times fit the fields, and every timer that runs has been started. -/
structure Sound (T : Timers σ τ ε) (started : τ → Option Nat) (s : σ) : Prop where
  fields : ∀ k start, started k = some start → T.field k s = (UInt32.ofNat start).toInt32
  runs : ∀ k, T.runs k s → started k ≠ none

theorem Sound.advance {times : τ → Nat} {started : τ → Option Nat} (h : T.Sound started s)
    (hstep : T.Restarts (fun k => UInt32.ofNat (times k)) s s') :
    T.Sound (T.advance times started s s') s' := by
  obtain ⟨new, hlog, hsteps⟩ := hstep
  have hrestarted := restarted_eq new hlog
  refine ⟨fun k start hstart => ?_, fun k hruns => ?_⟩
  · unfold Timers.advance at hstart
    rw [hrestarted] at hstart
    split at hstart
    · rename_i hmem
      rw [← Option.some.inj hstart]
      exact (hsteps k).1 hmem
    · rename_i hmem
      rw [((hsteps k).2 hmem).1]
      exact h.fields k start hstart
  · unfold Timers.advance
    rw [hrestarted]
    split
    · simp
    · rename_i hmem
      exact h.runs k (((hsteps k).2 hmem).2 hruns)

end Advance

end Timers

end Clock
