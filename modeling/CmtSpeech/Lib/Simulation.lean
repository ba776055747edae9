import CmtSpeech.Lib.Lts

/-!
# Simulation by a relation

A system follows the rules of an abstract model: each of its states stands for a state of the
model, by a relation that need not be a function, and each of its steps, if it meets a condition,
for a step of the model.

## Main definitions

* `Lts.Simulated` — every step is a step of the model.

## Main results

* `Lts.Simulated.run` — what every step of the model keeps, with all that has been emitted so far,
  holds of every run.
* `Lts.filterMap_trace` — what has gone out of a queue, and what is in it, is what has come in.
* `Lts.exists_run` — the refinement rule.
* `Lts.exec_le_sub_countP` — the response rule.
-/

namespace Lts

variable {σ ι τ α : Type*} (M : Lts σ ι τ)

/-- Every step that meets `C` from a state that stands for `a` is a step of the relation `R` from
`a`, with the same input and the same observations, to what the next state stands for. -/
def Simulated (Rel : σ → α → Prop) (C : σ → ι → Prop) (R : ι → α → List τ → α → Prop) : Prop :=
  ∀ s a i, Rel s a → C s i → ∃ a', R i a (M.next s i).2 a' ∧ Rel (M.next s i).1 a'

variable {M}

/-- The condition on the steps may ask for more than the simulation needs. -/
theorem Simulated.mono {Rel : σ → α → Prop} {C C' : σ → ι → Prop} {R : ι → α → List τ → α → Prop}
    (h : M.Simulated Rel C R) (hC : ∀ s i, C' s i → C s i) : M.Simulated Rel C' R :=
  fun s a i hrel hc => h s a i hrel (hC s i hc)

/-- An invariant of the model, which may look at all that has been emitted; `P` is what the
condition on the steps says about the model. -/
theorem Simulated.run {Rel : σ → α → Prop} {C : σ → ι → Prop} {R : ι → α → List τ → α → Prop}
    (h : M.Simulated Rel C R) {P : ι → α → Prop} (hP : ∀ s a i, Rel s a → C s i → P i a)
    {I : α → List τ → Prop}
    (hstep : ∀ i a emitted out a', I a emitted → P i a → R i a out a' → I a' (emitted ++ out)) :
    ∀ {s : σ} {is : List ι} {a : α} {l : List τ}, Rel s a → I a l → M.Along C s is →
      ∃ a', Rel (M.exec s is) a' ∧ I a' (l ++ M.trace s is) := by
  intro s is
  induction is generalizing s with
  | nil =>
    intro a l hrel hi _
    exact ⟨a, hrel, by rwa [trace_nil, List.append_nil]⟩
  | cons i is ih =>
    intro a l hrel hi hc
    obtain ⟨a', hr, hrel'⟩ := h s a i hrel hc.1
    obtain ⟨a'', hrel'', hi''⟩ := ih hrel' (hstep i a l _ a' hi (hP s a i hrel hc.1) hr) hc.2
    refine ⟨a'', hrel'', ?_⟩
    rwa [trace_cons, ← List.append_assoc]

variable (M)

theorem along_append (P : σ → ι → Prop) (s : σ) (is js : List ι) :
    M.Along P s (is ++ js) ↔ M.Along P s is ∧ M.Along P (M.exec s is) js := by
  induction is generalizing s with
  | nil => exact (iff_of_eq (true_and _)).symm
  | cons i is ih => rw [List.cons_append, along_cons, along_cons, ih, exec_cons, and_assoc]

instance decidableAlong (P : σ → ι → Prop) [∀ s i, Decidable (P s i)] :
    (s : σ) → (is : List ι) → Decidable (M.Along P s is)
  | _, [] => .isTrue trivial
  | s, i :: is =>
    have := decidableAlong P (M.next s i).1 is
    inferInstanceAs (Decidable (P s i ∧ M.Along P (M.next s i).1 is))

/-- The refinement rule: where every step is seen as a run of another system, so is every run. -/
theorem exists_run {σ' ι' τ' : Type*} (N : Lts σ' ι' τ') {C : σ → ι → Prop} {D : σ' → ι' → Prop}
    {abs : σ → σ'} {vis : τ → Option τ'}
    (hstep : ∀ s i, C s i → ∃ js, N.Along D (abs s) js ∧ N.exec (abs s) js = abs (M.next s i).1 ∧
      N.trace (abs s) js = (M.next s i).2.filterMap vis) :
    ∀ {s : σ} {is : List ι}, M.Along C s is → ∃ js, N.Along D (abs s) js ∧
      N.exec (abs s) js = abs (M.exec s is) ∧
      N.trace (abs s) js = (M.trace s is).filterMap vis := by
  intro s is
  induction is generalizing s with
  | nil => exact fun _ => ⟨[], trivial, rfl, rfl⟩
  | cons i is ih =>
    intro hc
    obtain ⟨js, hd, hexec, htrace⟩ := hstep s i hc.1
    obtain ⟨js', hd', hexec', htrace'⟩ := ih hc.2
    rw [← hexec] at hd' hexec' htrace'
    refine ⟨js ++ js', (N.along_append D _ js js').mpr ⟨hd, hd'⟩, ?_, ?_⟩
    · rw [exec_append, hexec', exec_cons]
    · rw [trace_append, htrace, htrace', trace_cons, List.filterMap_append]

/-- The response rule: what no step adds to, and every step of `A` takes from while there is
anything left, is used up in a run with enough steps of `A`. -/
theorem exec_le_sub_countP {I : σ → Prop} {C : σ → ι → Prop} {A : ι → Bool} (w : σ → ℕ)
    (hI : ∀ s i, I s → C s i → I (M.next s i).1)
    (hstep : ∀ s i, I s → C s i → w (M.next s i).1 ≤ w s - (A i).toNat) :
    ∀ {s : σ} {is : List ι}, I s → M.Along C s is → w (M.exec s is) ≤ w s - is.countP A := by
  intro s is
  induction is generalizing s with
  | nil => exact fun _ _ => Nat.le_refl _
  | cons i is ih =>
    intro hs hc
    have hfirst := hstep s i hs hc.1
    have hrest := ih (hI s i hs hc.1) hc.2
    have hcount : (i :: is).countP A = is.countP A + (A i).toNat := by
      rw [List.countP_cons]
      cases A i <;> rfl
    rw [exec_cons, hcount]
    omega

/-- A queue: what comes in goes to its end, and what goes out is taken from its front. -/
theorem filterMap_trace {β : Type*} {I : σ → Prop} {C : σ → ι → Prop} {queue : σ → List β}
    {came went : τ → Option β} (hI : ∀ s i, I s → C s i → I (M.next s i).1)
    (hstep : ∀ s i, I s → C s i → (M.next s i).2.filterMap went ++ queue (M.next s i).1 =
      queue s ++ (M.next s i).2.filterMap came) :
    ∀ {s : σ} {is : List ι}, I s → M.Along C s is →
      (M.trace s is).filterMap went ++ queue (M.exec s is) =
        queue s ++ (M.trace s is).filterMap came := by
  intro s is
  induction is generalizing s with
  | nil =>
    intro _ _
    rw [trace_nil, exec_nil, List.filterMap_nil, List.filterMap_nil, List.nil_append,
      List.append_nil]
  | cons i is ih =>
    intro hs hc
    have hrest := ih (hI s i hs hc.1) hc.2
    rw [trace_cons, exec_cons, List.filterMap_append, List.filterMap_append, List.append_assoc,
      hrest, ← List.append_assoc, hstep s i hs hc.1, List.append_assoc]

end Lts
