import XBeeMqtt.Lib.Transition

/-!
# Progress

Rules for what a machine gets to.  They rest on a rank, a number that says how far the
goal is at most.

* `exists_replay_of_rank`: when in every state some accepted calls bring the rank down,
  some lead to the goal.
* `eventually_of_rank`: when no call brings the rank up, and some do bring it down,
  every infinite run that makes such a call as long as the goal is away gets there.
* `settles_iff_of_rank`: when nothing but these calls leads to the goal, and in the end
  nothing leads away from it, no other infinite run stays there.
* `eventually_iff_of_rank`: the same for a goal that nothing leads away from.
-/

namespace Transition

universe u v

variable {σ : Type u} {ℓ : Type v} {next : σ → ℓ → σ}

theorem replay_append (as bs : List ℓ) (s : σ) :
    replay next s (as ++ bs) = replay next (replay next s as) bs := by
  induction as generalizing s with
  | nil => rfl
  | cons a as ih => exact ih (next s a)

theorem Accepted.append {accepts : σ → ℓ → Prop} {as bs : List ℓ} {s : σ}
    (has : Accepted accepts next s as) (hbs : Accepted accepts next (replay next s as) bs) :
    Accepted accepts next s (as ++ bs) := by
  induction as generalizing s with
  | nil => exact hbs
  | cons a as ih => exact ⟨has.1, ih has.2 hbs⟩

theorem Accepted.mono {accepts accepts' : σ → ℓ → Prop} (h : ∀ s a, accepts s a → accepts' s a)
    {as : List ℓ} {s : σ} (hacc : Accepted accepts next s as) : Accepted accepts' next s as := by
  induction as generalizing s with
  | nil => trivial
  | cons a as ih => exact ⟨h s a hacc.1, ih hacc.2⟩

/-- The goal can be reached from everywhere, with calls that are accepted. -/
theorem exists_replay_of_rank {Inv Goal : σ → Prop} {accepts : σ → ℓ → Prop} (rank : σ → Nat)
    (hstep : ∀ s, Inv s → ¬Goal s → ∃ as, Accepted accepts next s as ∧
      Inv (replay next s as) ∧ rank (replay next s as) < rank s)
    {s : σ} (hs : Inv s) : ∃ as, Accepted accepts next s as ∧ Goal (replay next s as) := by
  generalize hn : rank s = n
  induction n using Nat.strongRecOn generalizing s with
  | ind n ih =>
    by_cases hgoal : Goal s
    · exact ⟨[], trivial, hgoal⟩
    · obtain ⟨as, hacc, hinv, hlt⟩ := hstep s hs hgoal
      rw [hn] at hlt
      obtain ⟨bs, hacc', hend⟩ := ih _ hlt hinv rfl
      exact ⟨as ++ bs, hacc.append hacc', by rwa [replay_append]⟩

/-! ## Infinite runs -/

/-- The states of an infinite run. -/
def states (next : σ → ℓ → σ) (s : σ) (as : Nat → ℓ) : Nat → σ
  | 0 => s
  | n + 1 => next (states next s as n) (as n)

variable {as : Nat → ℓ} {s : σ}

/-- An infinite run is a run. -/
theorem reach_states {init : σ → Prop} {accepts : σ → ℓ → Prop}
    (h : (System.ofFunction init accepts next).Reach s)
    (hacc : ∀ n, accepts (states next s as n) (as n)) (n : Nat) :
    (System.ofFunction init accepts next).Reach (states next s as n) := by
  induction n with
  | zero => exact h
  | succ n ih => exact .step ih ⟨hacc n, rfl⟩

/-- From each of its states an infinite run goes on as a run of its own. -/
theorem states_add (n k : Nat) :
    states next (states next s as n) (fun i => as (n + i)) k = states next s as (n + k) := by
  induction k with
  | zero => rfl
  | succ k ih => exact congrArg (fun t => next t (as (n + k))) ih

/-- From `n` on the rank has not grown at `k`, unless the goal was reached in between. -/
theorem rank_states_le {Goal : σ → Prop} (rank : σ → Nat)
    (hle : ∀ n, ¬Goal (states next s as n) → Goal (states next s as (n + 1)) ∨
      rank (states next s as (n + 1)) ≤ rank (states next s as n))
    {n k : Nat} (hnk : n ≤ k) :
    (∃ i, n ≤ i ∧ i ≤ k ∧ Goal (states next s as i)) ∨
      rank (states next s as k) ≤ rank (states next s as n) := by
  induction hnk with
  | refl => exact Or.inr (Nat.le_refl _)
  | @step k hnk ih =>
    rcases ih with ⟨i, hni, hik, hgoal⟩ | hrank
    · exact Or.inl ⟨i, hni, Nat.le_succ_of_le hik, hgoal⟩
    · by_cases hgoal : Goal (states next s as k)
      · exact Or.inl ⟨k, hnk, Nat.le_succ k, hgoal⟩
      · rcases hle k hgoal with hgoal' | hrank'
        · exact Or.inl ⟨k + 1, Nat.le_succ_of_le hnk, Nat.le_refl _, hgoal'⟩
        · exact Or.inr (Nat.le_trans hrank' hrank)

/-- Progress under fairness.  No call brings the rank up, the helpful ones bring it down,
and away from the goal a helpful one will be made. -/
theorem eventually_of_rank {Goal : σ → Prop} (rank : σ → Nat) (helps : σ → ℓ → Prop)
    (hle : ∀ n, ¬Goal (states next s as n) → Goal (states next s as (n + 1)) ∨
      rank (states next s as (n + 1)) ≤ rank (states next s as n))
    (hlt : ∀ n, ¬Goal (states next s as n) → helps (states next s as n) (as n) →
      Goal (states next s as (n + 1)) ∨
        rank (states next s as (n + 1)) < rank (states next s as n))
    (hfair : ∀ n, ¬Goal (states next s as n) →
      ∃ k, n ≤ k ∧ helps (states next s as k) (as k)) (n : Nat) :
    ∃ k, n ≤ k ∧ Goal (states next s as k) := by
  generalize hr : rank (states next s as n) = r
  induction r using Nat.strongRecOn generalizing n with
  | ind r ih =>
    by_cases hgoal : Goal (states next s as n)
    · exact ⟨n, Nat.le_refl n, hgoal⟩
    obtain ⟨k, hnk, hhelps⟩ := hfair n hgoal
    rcases rank_states_le rank hle hnk with ⟨i, hni, _, hgoal'⟩ | hrank
    · exact ⟨i, hni, hgoal'⟩
    · by_cases hgoal' : Goal (states next s as k)
      · exact ⟨k, hnk, hgoal'⟩
      · rcases hlt k hgoal' hhelps with hgoal'' | hdown
        · exact ⟨k + 1, Nat.le_succ_of_le hnk, hgoal''⟩
        · obtain ⟨i, hki, hend⟩ := ih _ (by omega) (k + 1) rfl
          exact ⟨i, by omega, hend⟩

/-- Without a helpful call the goal stays away. -/
theorem not_goal_of_unhelped {Goal : σ → Prop} {helps : σ → ℓ → Prop}
    (hkeep : ∀ n, ¬Goal (states next s as n) → ¬helps (states next s as n) (as n) →
      ¬Goal (states next s as (n + 1)))
    {n : Nat} (hn : ¬Goal (states next s as n))
    (hnone : ∀ k, n ≤ k → ¬helps (states next s as k) (as k)) {k : Nat} (hnk : n ≤ k) :
    ¬Goal (states next s as k) := by
  induction hnk with
  | refl => exact hn
  | @step k hnk ih => exact hkeep k ih (hnone k hnk)

/-- When from some point on no call leads back, the infinite runs that stay at the goal in
the end are those that are helped as long as it is away. -/
theorem settles_iff_of_rank {Goal : σ → Prop} (rank : σ → Nat) (helps : σ → ℓ → Prop)
    (hkeep : ∀ n, ¬Goal (states next s as n) → ¬helps (states next s as n) (as n) →
      ¬Goal (states next s as (n + 1)))
    {N : Nat} (hstay : ∀ n, N ≤ n → Goal (states next s as n) → Goal (states next s as (n + 1)))
    (hle : ∀ n, N ≤ n → ¬Goal (states next s as n) → ¬helps (states next s as n) (as n) →
      rank (states next s as (n + 1)) ≤ rank (states next s as n))
    (hlt : ∀ n, N ≤ n → ¬Goal (states next s as n) → helps (states next s as n) (as n) →
      Goal (states next s as (n + 1)) ∨
        rank (states next s as (n + 1)) < rank (states next s as n)) :
    (∃ n, ∀ k, n ≤ k → Goal (states next s as k)) ↔ ∀ n, ¬Goal (states next s as n) →
      ∃ k, n ≤ k ∧ helps (states next s as k) (as k) := by
  constructor
  · rintro ⟨i, hi⟩ n hn
    apply Classical.byContradiction
    intro hnone
    exact not_goal_of_unhelped hkeep hn (fun k hnk hhelps => hnone ⟨k, hnk, hhelps⟩)
      (Nat.le_add_left n i) (hi (i + n) (Nat.le_add_right i n))
  · intro hfair
    -- the run from `N` on gets there, and it stays
    have hshift := fun k => @states_add _ _ next as s N k
    have hdown : ∀ n, ¬Goal (states next s as (N + n)) →
        helps (states next s as (N + n)) (as (N + n)) → Goal (states next s as (N + n + 1)) ∨
          rank (states next s as (N + n + 1)) < rank (states next s as (N + n)) :=
      fun n => hlt (N + n) (Nat.le_add_right N n)
    have hnever : ∀ n, ¬Goal (states next s as (N + n)) → Goal (states next s as (N + n + 1)) ∨
        rank (states next s as (N + n + 1)) ≤ rank (states next s as (N + n)) := by
      intro n hn
      by_cases hhelps : helps (states next s as (N + n)) (as (N + n))
      · exact (hdown n hn hhelps).imp_right Nat.le_of_lt
      · exact Or.inr (hle (N + n) (Nat.le_add_right N n) hn hhelps)
    have hserved : ∀ n, ¬Goal (states next s as (N + n)) →
        ∃ k, n ≤ k ∧ helps (states next s as (N + k)) (as (N + k)) := by
      intro n hn
      obtain ⟨k, hk, hhelps⟩ := hfair (N + n) hn
      refine ⟨k - N, by omega, ?_⟩
      rwa [show N + (k - N) = k by omega]
    simp only [Nat.add_assoc, ← hshift] at hdown hnever hserved
    obtain ⟨k, _, hgoal⟩ := eventually_of_rank rank helps hnever hdown hserved 0
    rw [hshift] at hgoal
    refine ⟨N + k, fun j hj => ?_⟩
    induction hj with
    | refl => exact hgoal
    | @step j hj ih => exact hstay j (Nat.le_trans (Nat.le_add_right N k) hj) ih

/-- The infinite runs that get to a goal for good are those that are helped as long as it
is away. -/
theorem eventually_iff_of_rank {Goal : σ → Prop} (rank : σ → Nat) (helps : σ → ℓ → Prop)
    (hstay : ∀ n, Goal (states next s as n) → Goal (states next s as (n + 1)))
    (hkeep : ∀ n, ¬Goal (states next s as n) → ¬helps (states next s as n) (as n) →
      ¬Goal (states next s as (n + 1)) ∧
        rank (states next s as (n + 1)) ≤ rank (states next s as n))
    (hlt : ∀ n, ¬Goal (states next s as n) → helps (states next s as n) (as n) →
      Goal (states next s as (n + 1)) ∨
        rank (states next s as (n + 1)) < rank (states next s as n)) :
    (∃ n, Goal (states next s as n)) ↔ ∀ n, ¬Goal (states next s as n) →
      ∃ k, n ≤ k ∧ helps (states next s as k) (as k) := by
  rw [← @settles_iff_of_rank _ _ next as s Goal rank helps (fun n hn hnot => (hkeep n hn hnot).1)
    0 (fun n _ => hstay n) (fun n _ hn hnot => (hkeep n hn hnot).2) fun n _ => hlt n]
  refine exists_congr fun n => ⟨fun hn k hnk => ?_, fun hn => hn n (Nat.le_refl n)⟩
  induction hnk with
  | refl => exact hn
  | @step k _ ih => exact hstay k ih

end Transition
