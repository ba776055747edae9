import Mathlib.Data.List.Induction
import Mathlib.Tactic.TypeStar

/-!
# Deterministic transition systems with observations

A system takes one input at a time; every step moves the state and emits a list
of observations.  Whatever is nondeterministic (the outcome of a system call, the
next message of a peer) is part of the input, so a run is just a list of inputs.

## Main definitions

* `Lts.exec`, `Lts.trace` — the state a run ends in, and what it emitted.
* `Lts.Along` — a condition on each step of a run, in the state the step is taken.
* `Lts.Reachable` — the states runs from an initial state end in.
* `Lts.Each` — a condition on each observation of a trace and the history before it.
* `Lts.Refines` — every step is allowed by a relation on an abstraction of the state.
* `Lts.both` — two systems side by side.

## Main results

* `Lts.exec_invariant`, `Lts.reachable_invariant` — the invariant rules.
* `Lts.exec_since` — the history rule.
* `Lts.countP_trace_le` — the accounting rule.
* `Lts.simulation` — two systems that are related step for step have related runs.
* `Lts.always_iff_along` — a property that one step breaks exactly when it
  violates a condition holds throughout a run iff every step meets the condition.
* `Lts.Refines.invariant`, `Lts.Refines.always_iff`, `Lts.Refines.each_iff` — the same for
  a system that refines an abstract relation, with a history variable folded over the
  trace.
-/

/-- A deterministic transition system: `next s i` is the state after input `i`
in state `s`, and what the step emits. -/
structure Lts (σ ι τ : Type*) where
  /-- The initial states. -/
  init : σ → Prop
  /-- One step. -/
  next : σ → ι → σ × List τ

namespace Lts

variable {σ ι τ : Type*} (M : Lts σ ι τ)

/-! ### Runs -/

/-- The state after a run, by recursion on the list of its inputs. -/
def exec : σ → List ι → σ
  | s, [] => s
  | s, i :: is => exec (M.next s i).1 is

/-- Everything a run emits, in order: the trace of the first step, and then that of the rest. -/
def trace : σ → List ι → List τ
  | _, [] => []
  | s, i :: is => (M.next s i).2 ++ trace (M.next s i).1 is

/-- Every step of the run satisfies `P` in the state it is taken in.  This is how a condition on
the steps of a run is stated. -/
def Along (P : σ → ι → Prop) : σ → List ι → Prop
  | _, [] => True
  | s, i :: is => P s i ∧ Along P (M.next s i).1 is

/-- The states some run from an initial state ends in.  What is said of a reachable state is said
of every state a run goes through, since the run can be cut there. -/
def Reachable (s : σ) : Prop := ∃ s₀ is, M.init s₀ ∧ M.exec s₀ is = s

@[simp] theorem exec_nil (s : σ) : M.exec s [] = s := rfl

@[simp] theorem exec_cons (s : σ) (i : ι) (is : List ι) :
    M.exec s (i :: is) = M.exec (M.next s i).1 is := rfl

@[simp] theorem trace_nil (s : σ) : M.trace s [] = [] := rfl

@[simp] theorem trace_cons (s : σ) (i : ι) (is : List ι) :
    M.trace s (i :: is) = (M.next s i).2 ++ M.trace (M.next s i).1 is := rfl

@[simp] theorem along_nil (P : σ → ι → Prop) (s : σ) : M.Along P s [] := trivial

@[simp] theorem along_cons (P : σ → ι → Prop) (s : σ) (i : ι) (is : List ι) :
    M.Along P s (i :: is) ↔ P s i ∧ M.Along P (M.next s i).1 is := Iff.rfl

theorem exec_append (s : σ) (is js : List ι) :
    M.exec s (is ++ js) = M.exec (M.exec s is) js := by
  induction is generalizing s with
  | nil => rfl
  | cons i is ih => exact ih _

theorem trace_append (s : σ) (is js : List ι) :
    M.trace s (is ++ js) = M.trace s is ++ M.trace (M.exec s is) js := by
  induction is generalizing s with
  | nil => rfl
  | cons i is ih => rw [List.cons_append, trace_cons, trace_cons, exec_cons, ih, List.append_assoc]

variable {M} in
theorem Along.mono {P Q : σ → ι → Prop} (h : ∀ s i, P s i → Q s i) :
    ∀ {s : σ} {is : List ι}, M.Along P s is → M.Along Q s is := by
  intro s is
  induction is generalizing s with
  | nil => intro _; trivial
  | cons i is ih =>
    intro ha
    exact ⟨h _ _ ha.1, ih ha.2⟩

theorem along_congr {P Q : σ → ι → Prop} (h : ∀ s i, P s i ↔ Q s i) (s : σ) (is : List ι) :
    M.Along P s is ↔ M.Along Q s is :=
  ⟨Along.mono fun s i => (h s i).mp, Along.mono fun s i => (h s i).mpr⟩

theorem along_and (P Q : σ → ι → Prop) (s : σ) (is : List ι) :
    M.Along (fun s i => P s i ∧ Q s i) s is ↔ M.Along P s is ∧ M.Along Q s is := by
  induction is generalizing s with
  | nil => simp
  | cons i is ih =>
    simp only [along_cons, ih]
    exact and_and_and_comm

/-- A condition on the inputs alone holds along the run if and only if it holds of every input. -/
theorem along_forall (P : ι → Prop) (s : σ) (is : List ι) :
    M.Along (fun _ i => P i) s is ↔ ∀ i ∈ is, P i := by
  induction is generalizing s with
  | nil => simp
  | cons i is ih => simp [ih]

/-- A condition on what the run emits, step by step. -/
theorem along_trace (P : τ → Prop) (s : σ) (is : List ι) :
    M.Along (fun s i => ∀ o ∈ (M.next s i).2, P o) s is ↔ ∀ o ∈ M.trace s is, P o := by
  induction is generalizing s with
  | nil => simp
  | cons i is ih => rw [along_cons, ih, trace_cons, List.forall_mem_append]

/-- `Along` in terms of the positions of the run: the condition holds wherever the run is cut
before a step. -/
theorem along_iff_forall_split (P : σ → ι → Prop) (s : σ) (is : List ι) :
    M.Along P s is ↔ ∀ pre i post, is = pre ++ i :: post → P (M.exec s pre) i := by
  induction is generalizing s with
  | nil => simp
  | cons j is ih =>
    rw [along_cons, ih]
    constructor
    · rintro ⟨hj, h⟩ pre i post heq
      cases pre with
      | nil =>
        obtain ⟨rfl, -⟩ := List.cons.inj heq
        exact hj
      | cons j' pre =>
        obtain ⟨rfl, heq'⟩ := List.cons.inj heq
        exact h pre i post heq'
    · intro h
      refine ⟨h [] j is rfl, ?_⟩
      intro pre i post heq
      exact h (j :: pre) i post (by rw [heq, List.cons_append])

/-! ### Invariants -/

/-- The invariant rule: what every allowed step preserves holds after every run of
allowed steps. -/
theorem exec_invariant {I : σ → Prop} {P : σ → ι → Prop}
    (hstep : ∀ s i, I s → P s i → I (M.next s i).1) :
    ∀ {s : σ} {is : List ι}, I s → M.Along P s is → I (M.exec s is) := by
  intro s is
  induction is generalizing s with
  | nil => intro hs _; exact hs
  | cons i is ih =>
    intro hs ha
    exact ih (hstep s i hs ha.1) ha.2

theorem along_true (s : σ) (is : List ι) : M.Along (fun _ _ => True) s is := by
  induction is generalizing s with
  | nil => trivial
  | cons i is ih => exact ⟨trivial, ih _⟩

theorem reachable_invariant {I : σ → Prop} (hinit : ∀ s, M.init s → I s)
    (hstep : ∀ s i, I s → I (M.next s i).1) {s : σ} (h : M.Reachable s) : I s := by
  obtain ⟨s₀, is, h₀, rfl⟩ := h
  exact M.exec_invariant (P := fun _ _ => True) (fun s i hs _ => hstep s i hs) (hinit _ h₀)
    (M.along_true _ _)

/-- The history rule: what only a step of `A` brings about, and only the inputs of `K` leave
alone, was brought about in the run, and left alone since. -/
theorem exec_since {I P : σ → Prop} {A : σ → ι → Prop} {K : ι → Prop}
    (hI : ∀ s i, I s → I (M.next s i).1)
    (hP : ∀ s i, I s → P (M.next s i).1 → A s i ∨ P s ∧ K i) {s : σ} (hs : I s) (hn : ¬ P s) :
    ∀ {is : List ι}, P (M.exec s is) → ∃ p₁ a p₂,
      is = p₁ ++ a :: p₂ ∧ A (M.exec s p₁) a ∧ ∀ i ∈ p₂, K i := by
  intro is
  -- from the last step back, to the one of `A`
  induction is using List.reverseRecOn with
  | nil => exact fun h => absurd h hn
  | append_singleton is i ih =>
    intro h
    have hI' : I (M.exec s is) :=
      M.exec_invariant (P := fun _ _ => True) (fun s i hs _ => hI s i hs) hs (M.along_true _ _)
    rw [exec_append] at h
    rcases hP _ _ hI' h with ha | ⟨hp, hk⟩
    · exact ⟨is, i, [], rfl, ha, by simp⟩
    · obtain ⟨p₁, a, p₂, rfl, ha, hall⟩ := ih hp
      refine ⟨p₁, a, p₂ ++ [i], by simp, ha, ?_⟩
      intro j hj
      rcases List.mem_append.mp hj with hj | hj
      · exact hall j hj
      · exact List.mem_singleton.mp hj ▸ hk

/-- What each step emits where the invariant holds is what a run emits. -/
theorem forall_trace {I : σ → Prop} {P : τ → Prop} (hI : ∀ s i, I s → I (M.next s i).1)
    (hP : ∀ s i, I s → ∀ o ∈ (M.next s i).2, P o) :
    ∀ {s : σ} {is : List ι}, I s → ∀ o ∈ M.trace s is, P o := by
  intro s is
  induction is generalizing s with
  | nil => intro _ o ho; simp at ho
  | cons i is ih =>
    intro hs o ho
    rw [trace_cons, List.mem_append] at ho
    cases ho with
    | inl ho => exact hP s i hs o ho
    | inr ho => exact ih (hI s i hs) o ho

/-- How many steps of a run satisfy `A`, each in the state it is taken in; what the run emits has
no part in it. -/
def countSteps (A : σ → ι → Bool) : σ → List ι → ℕ
  | _, [] => 0
  | s, i :: is => (A s i).toNat + countSteps A (M.next s i).1 is

/-- The accounting rule: where every step emits at most what is taken from a stock that only
steps of `A` fill, a run emits at most what was in stock and what was put there. -/
theorem countP_trace_le {I : σ → Prop} {C : σ → ι → Prop} {A : σ → ι → Bool} {w : σ → ℕ}
    {p : τ → Bool} (hI : ∀ s i, I s → I (M.next s i).1)
    (hstep : ∀ s i, I s → C s i →
      (M.next s i).2.countP p + w (M.next s i).1 ≤ w s + (A s i).toNat) :
    ∀ {s : σ} {is : List ι}, I s → M.Along C s is →
      (M.trace s is).countP p + w (M.exec s is) ≤ w s + M.countSteps A s is := by
  intro s is
  induction is generalizing s with
  | nil => intro _ _; simp [countSteps]
  | cons i is ih =>
    intro hs hc
    have h₁ := hstep s i hs hc.1
    have h₂ := ih (hI s i hs) hc.2
    rw [trace_cons, exec_cons, List.countP_append, countSteps]
    omega

/-- The simulation rule: where `R` relates two systems step for step, and `g` what they emit
as far as `vis` sees it, it relates the ends of their runs, and `g` their traces. -/
theorem simulation {σ' τ' : Type*} {N : Lts σ' ι τ'} {R : σ → σ' → Prop} {vis : τ → Bool}
    {g : τ' → τ} (hstep : ∀ s s' i, R s s' → R (M.next s i).1 (N.next s' i).1 ∧
      (M.next s i).2.filter vis = (N.next s' i).2.map g) :
    ∀ {s : σ} {s' : σ'} (is : List ι), R s s' → R (M.exec s is) (N.exec s' is) ∧
      (M.trace s is).filter vis = (N.trace s' is).map g := by
  intro s s' is
  induction is generalizing s s' with
  | nil => intro h; exact ⟨h, rfl⟩
  | cons i is ih =>
    intro h
    obtain ⟨hnext, hout⟩ := hstep s s' i h
    obtain ⟨hexec, htrace⟩ := ih hnext
    refine ⟨hexec, ?_⟩
    rw [trace_cons, trace_cons, List.filter_append, List.map_append, hout, htrace]

/-- `Q` holds in the initial state of the run and after each of its steps. -/
def Always (Q : σ → Prop) (s : σ) (is : List ι) : Prop :=
  ∀ js, js <+: is → Q (M.exec s js)

theorem always_nil (Q : σ → Prop) (s : σ) : M.Always Q s [] ↔ Q s := by
  constructor
  · intro h; exact h [] (List.prefix_rfl)
  · intro h js hjs
    rw [List.prefix_nil.mp hjs]
    exact h

theorem always_cons (Q : σ → Prop) (s : σ) (i : ι) (is : List ι) :
    M.Always Q s (i :: is) ↔ Q s ∧ M.Always Q (M.next s i).1 is := by
  constructor
  · intro h
    refine ⟨h [] List.nil_prefix, ?_⟩
    intro js hjs
    exact h (i :: js) (List.cons_prefix_cons.mpr ⟨rfl, hjs⟩)
  · rintro ⟨hs, h⟩ js hjs
    cases js with
    | nil => exact hs
    | cons j js =>
      obtain ⟨rfl, hjs'⟩ := List.cons_prefix_cons.mp hjs
      exact h js hjs'

/-- A property that a step, taken where the property and the invariant `I` hold,
preserves exactly when the step meets `C`, holds throughout a run iff all its
steps meet `C`.  `P` restricts the runs considered. -/
theorem always_iff_along {I Q : σ → Prop} {P C : σ → ι → Prop}
    (hI : ∀ s i, I s → Q s → P s i → C s i → I (M.next s i).1)
    (hQ : ∀ s i, I s → Q s → P s i → (Q (M.next s i).1 ↔ C s i)) :
    ∀ {s : σ} {is : List ι}, I s → Q s → M.Along P s is →
      (M.Always Q s is ↔ M.Along C s is) := by
  intro s is
  induction is generalizing s with
  | nil =>
    intro _ hq _
    simp [always_nil, hq]
  | cons i is ih =>
    intro hi hq hp
    rw [always_cons, along_cons]
    constructor
    · rintro ⟨-, h⟩
      have hq' : Q (M.next s i).1 := h [] List.nil_prefix
      have hc := (hQ s i hi hq hp.1).mp hq'
      exact ⟨hc, (ih (hI s i hi hq hp.1 hc) hq' hp.2).mp h⟩
    · rintro ⟨hc, h⟩
      have hq' := (hQ s i hi hq hp.1).mpr hc
      exact ⟨hq, (ih (hI s i hi hq hp.1 hc) hq' hp.2).mpr h⟩

/-- What a step is like in a state with the invariant `I`, the steps of a run from such a state
are like, as long as the steps that are like `C` keep the invariant. -/
theorem along_iff_along {I : σ → Prop} {P Q C : σ → ι → Prop}
    (hI : ∀ s i, I s → P s i → C s i → I (M.next s i).1)
    (hQ : ∀ s i, I s → P s i → (Q s i ↔ C s i)) :
    ∀ {s : σ} {is : List ι}, I s → M.Along P s is → (M.Along Q s is ↔ M.Along C s is) := by
  intro s is
  induction is generalizing s with
  | nil => intro _ _; exact Iff.rfl
  | cons i is ih =>
    intro hi hp
    rw [along_cons, along_cons, hQ s i hi hp.1]
    exact and_congr_right fun hc => ih (hI s i hi hp.1 hc) hp.2

/-! ### History variables

A history variable is a fold over the observations; `withGhost` carries it along
in the state, so that an invariant can mention it. -/

/-- The system with a history variable, which follows what each step emits and does not act on the
system itself. -/
def withGhost {γ : Type*} (g₀ : γ) (upd : γ → τ → γ) : Lts (σ × γ) ι τ where
  init p := M.init p.1 ∧ p.2 = g₀
  next p i := (((M.next p.1 i).1, (M.next p.1 i).2.foldl upd p.2), (M.next p.1 i).2)

theorem withGhost_along {γ : Type*} (g₀ : γ) (upd : γ → τ → γ) (P : σ → ι → Prop)
    (p : σ × γ) (is : List ι) :
    (M.withGhost g₀ upd).Along (fun q i => P q.1 i) p is ↔ M.Along P p.1 is := by
  induction is generalizing p with
  | nil => simp
  | cons i is ih =>
    rw [along_cons, along_cons, ih]
    rfl

/-- The system with a history variable that may depend on the state before a step and on the
input as well. -/
def withRecord {γ : Type*} (g₀ : γ) (upd : σ → ι → γ → γ) : Lts (σ × γ) ι τ where
  init p := M.init p.1 ∧ p.2 = g₀
  next p i := (((M.next p.1 i).1, upd p.1 i p.2), (M.next p.1 i).2)

/-! ### Two systems side by side -/

/-- Two systems, each with its own inputs; what is observed is the second.  A step of the product
is a step of each. -/
def both {σ' ι' τ' : Type*} (M : Lts σ ι τ) (N : Lts σ' ι' τ') : Lts (σ × σ') (ι × ι') τ' where
  init p := M.init p.1 ∧ N.init p.2
  next p i := (((M.next p.1 i.1).1, (N.next p.2 i.2).1), (N.next p.2 i.2).2)

theorem exec_both {σ' ι' τ' : Type*} (N : Lts σ' ι' τ') (p : σ × σ') (is : List (ι × ι')) :
    (M.both N).exec p is = (M.exec p.1 (is.map Prod.fst), N.exec p.2 (is.map Prod.snd)) := by
  induction is generalizing p with
  | nil => rfl
  | cons i is ih => exact ih _

theorem trace_both {σ' ι' τ' : Type*} (N : Lts σ' ι' τ') (p : σ × σ') (is : List (ι × ι')) :
    (M.both N).trace p is = N.trace p.2 (is.map Prod.snd) := by
  induction is generalizing p with
  | nil => rfl
  | cons i is ih => exact congrArg ((N.next p.2 i.2).2 ++ ·) (ih _)

/-! ### Conditions on a trace -/

/-- Each observation satisfies `P` in the light of the history before it, which is what `upd` has
made of the observations so far. -/
def Each {γ : Type*} (upd : γ → τ → γ) (P : γ → τ → Prop) : γ → List τ → Prop
  | _, [] => True
  | g, o :: out => P g o ∧ Each upd P (upd g o) out

section
variable {γ : Type*} {upd : γ → τ → γ} {P : γ → τ → Prop}

@[simp] theorem each_nil (g : γ) : Each upd P g [] := trivial

@[simp] theorem each_cons (g : γ) (o : τ) (out : List τ) :
    Each upd P g (o :: out) ↔ P g o ∧ Each upd P (upd g o) out := Iff.rfl

@[simp] theorem each_append (g : γ) (xs ys : List τ) :
    Each upd P g (xs ++ ys) ↔ Each upd P g xs ∧ Each upd P (xs.foldl upd g) ys := by
  induction xs generalizing g with
  | nil => simp
  | cons x xs ih => simp [ih, and_assoc]

/-- `Each` in terms of the positions of the trace. -/
theorem each_iff_forall_split (g : γ) (out : List τ) :
    Each upd P g out ↔ ∀ pre o post, out = pre ++ o :: post → P (pre.foldl upd g) o := by
  constructor
  · rintro h pre o post rfl
    rw [each_append] at h
    exact h.2.1
  · intro h
    induction out generalizing g with
    | nil => trivial
    | cons x out ih =>
      refine ⟨h [] x out rfl, ih _ ?_⟩
      intro pre o post heq
      exact h (x :: pre) o post (by rw [heq, List.cons_append])

/-- A condition on the history itself that no observation breaks. -/
theorem each_preserves_iff {P : γ → Prop} {g : γ} (hg : P g) (out : List τ) :
    Each upd (fun g o => P g → P (upd g o)) g out ↔
      ∀ pre, pre <+: out → P (pre.foldl upd g) := by
  induction out generalizing g with
  | nil => simp [hg]
  | cons o out ih =>
    rw [each_cons]
    constructor
    · rintro ⟨ho, h⟩ pre hpre
      cases pre with
      | nil => exact hg
      | cons x pre =>
        obtain ⟨rfl, hpre'⟩ := List.cons_prefix_cons.mp hpre
        exact (ih (ho hg)).mp h pre hpre'
    · intro h
      have ho : P (upd g o) := h [o] ⟨out, rfl⟩
      refine ⟨fun _ => ho, (ih ho).mpr ?_⟩
      intro pre hpre
      exact h (o :: pre) (List.cons_prefix_cons.mpr ⟨rfl, hpre⟩)

/-- Observations that satisfy `P` anyway and do not move the history can be left out. -/
theorem each_filter {vis : τ → Bool} (hupd : ∀ g o, vis o = false → upd g o = g)
    (hP : ∀ g o, vis o = false → P g o) (g : γ) (out : List τ) :
    Each upd P g (out.filter vis) ↔ Each upd P g out := by
  induction out generalizing g with
  | nil => simp
  | cons o out ih =>
    cases ho : vis o with
    | false =>
      rw [List.filter_cons_of_neg (by simp [ho]), each_cons, hupd g o ho, ih]
      exact (and_iff_right (hP g o ho)).symm
    | true => rw [List.filter_cons_of_pos ho, each_cons, each_cons, ih]

end

/-! ### Refinement -/

/-- What a step emits, as far as `vis` sees it. -/
def visible (vis : τ → Bool) (s : σ) (i : ι) : List τ := (M.next s i).2.filter vis

/-- Every step of the system is a step of the relation `R` on the abstraction `abs`
of its states, with the same input and the same visible observations. -/
def Refines {α : Type*} (abs : σ → α) (vis : τ → Bool) (R : ι → α → List τ → α → Prop) : Prop :=
  ∀ s i, R i (abs s) (M.visible vis s i) (abs (M.next s i).1)

/-- A history variable that only visible observations move. -/
theorem foldl_visible {γ : Type*} {vis : τ → Bool} {upd : γ → τ → γ}
    (hupd : ∀ g o, vis o = false → upd g o = g) (g : γ) (out : List τ) :
    (out.filter vis).foldl upd g = out.foldl upd g := by
  induction out generalizing g with
  | nil => rfl
  | cons o out ih =>
    cases ho : vis o with
    | false => rw [List.filter_cons_of_neg (by simp [ho]), List.foldl_cons, hupd g o ho, ih]
    | true => rw [List.filter_cons_of_pos ho, List.foldl_cons, List.foldl_cons, ih]

variable {M}

/-- An invariant of the abstract steps, with a history variable, holds of every run of
the system; `P` is a condition on its steps. -/
theorem Refines.invariant {α γ : Type*} {abs : σ → α} {vis : τ → Bool}
    {R : ι → α → List τ → α → Prop} (h : M.Refines abs vis R) {I : α → γ → Prop}
    {upd : γ → τ → γ} (hupd : ∀ g o, vis o = false → upd g o = g)
    {P : α → ι → List τ → Prop}
    (hstep : ∀ a g i out a', I a g → P a i out → R i a out a' → I a' (out.foldl upd g)) :
    ∀ {s : σ} {is : List ι} {g : γ}, I (abs s) g →
      M.Along (fun s i => P (abs s) i (M.visible vis s i)) s is →
      I (abs (M.exec s is)) ((M.trace s is).foldl upd g) := by
  intro s is
  induction is generalizing s with
  | nil => intro g hi _; exact hi
  | cons i is ih =>
    intro g hi ha
    rw [exec_cons, trace_cons, List.foldl_append, ← foldl_visible hupd g]
    exact ih (hstep _ _ _ _ _ hi ha.1 (h s i)) ha.2

/-- A condition on the trace that one abstract step breaks exactly when it violates `C`
holds of the trace of a run iff every step meets `C`. -/
theorem Refines.each_iff {α γ : Type*} {abs : σ → α} {vis : τ → Bool}
    {R : ι → α → List τ → α → Prop} (h : M.Refines abs vis R) {I : α → γ → Prop}
    {upd : γ → τ → γ} (hupd : ∀ g o, vis o = false → upd g o = g) {Q : γ → τ → Prop}
    (hvis : ∀ g o, vis o = false → Q g o) {P C : α → ι → List τ → Prop}
    (hI : ∀ a g i out a', I a g → P a i out → C a i out → R i a out a' → I a' (out.foldl upd g))
    (hQ : ∀ a g i out a', I a g → P a i out → R i a out a' →
      (Each upd Q g out ↔ C a i out)) :
    ∀ {s : σ} {is : List ι} {g : γ}, I (abs s) g →
      M.Along (fun s i => P (abs s) i (M.visible vis s i)) s is →
      (Each upd Q g (M.trace s is) ↔
        M.Along (fun s i => C (abs s) i (M.visible vis s i)) s is) := by
  intro s is
  induction is generalizing s with
  | nil => intro g _ _; simp
  | cons i is ih =>
    intro g hi ha
    have hstep := hQ _ _ _ _ _ hi ha.1 (h s i)
    rw [visible, each_filter hupd hvis] at hstep
    rw [trace_cons, each_append, along_cons, hstep]
    refine and_congr_right fun hc => ih ?_ ha.2
    have := hI _ _ _ _ _ hi ha.1 hc (h s i)
    rwa [visible, foldl_visible hupd] at this

/-- A condition on the trace that every abstract step meets. -/
theorem Refines.each {α γ : Type*} {abs : σ → α} {vis : τ → Bool}
    {R : ι → α → List τ → α → Prop} (h : M.Refines abs vis R) {I : α → γ → Prop}
    {upd : γ → τ → γ} (hupd : ∀ g o, vis o = false → upd g o = g) {Q : γ → τ → Prop}
    (hvis : ∀ g o, vis o = false → Q g o) {P : α → ι → List τ → Prop}
    (hstep : ∀ a g i out a', I a g → P a i out → R i a out a' →
      Each upd Q g out ∧ I a' (out.foldl upd g))
    {s : σ} {is : List ι} {g : γ} (hI : I (abs s) g)
    (hP : M.Along (fun s i => P (abs s) i (M.visible vis s i)) s is) :
    Each upd Q g (M.trace s is) := by
  refine (h.each_iff (C := fun _ _ _ => True) hupd hvis ?_ ?_ hI hP).mpr (M.along_true _ _)
  · intro a g i out a' hi hp _ hr
    exact (hstep a g i out a' hi hp hr).2
  · intro a g i out a' hi hp hr
    exact iff_true_intro (hstep a g i out a' hi hp hr).1

/-- `always_iff_along` for a property of the abstraction and a history variable. -/
theorem Refines.always_iff {α γ : Type*} {abs : σ → α} {vis : τ → Bool}
    {R : ι → α → List τ → α → Prop} (h : M.Refines abs vis R) {I Q : α → γ → Prop}
    {upd : γ → τ → γ} (hupd : ∀ g o, vis o = false → upd g o = g) (g₀ : γ)
    {P : α → ι → List τ → Prop} {C : α → γ → ι → List τ → Prop}
    (hI : ∀ a g i out a', I a g → Q a g → P a i out → C a g i out → R i a out a' →
      I a' (out.foldl upd g))
    (hQ : ∀ a g i out a', I a g → Q a g → P a i out → R i a out a' →
      (Q a' (out.foldl upd g) ↔ C a g i out))
    {s : σ} {is : List ι} (hi : I (abs s) g₀) (hq : Q (abs s) g₀)
    (hp : M.Along (fun s i => P (abs s) i (M.visible vis s i)) s is) :
    (M.withGhost g₀ upd).Always (fun p => Q (abs p.1) p.2) (s, g₀) is ↔
      (M.withGhost g₀ upd).Along
        (fun p i => C (abs p.1) p.2 i (M.visible vis p.1 i)) (s, g₀) is := by
  refine always_iff_along (M.withGhost g₀ upd)
    (I := fun p => I (abs p.1) p.2)
    (P := fun p i => P (abs p.1) i (M.visible vis p.1 i)) ?_ ?_ hi hq
    ((M.withGhost_along g₀ upd _ (s, g₀) is).mpr hp)
  · rintro ⟨s, g⟩ i hi hq hp hc
    have := hI _ _ _ _ _ hi hq hp hc (h s i)
    rwa [visible, foldl_visible hupd] at this
  · rintro ⟨s, g⟩ i hi hq hp
    have := hQ _ _ _ _ _ hi hq hp (h s i)
    rwa [visible, foldl_visible hupd] at this

end Lts
