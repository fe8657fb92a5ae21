import Mathlib.Tactic
import Mathlib.Data.Set.Piecewise

/-!
# Steps in another order

`Sequence` is a run with its labels in the order in which they were taken. When any two of them can
change places (`Swaps`), every permutation of the labels leads to the same state (`Sequence.perm`).

Steps that work on a common memory change places when neither writes what the other looks at. What
an operation looks at is the set of addresses it is `Confined` to: what lies outside makes no
difference to it and passes through it unchanged (`Confined.swap`). Operations on the same addresses
change places when they do so at every address (`Cellwise.swap`).
-/

namespace DoubleZero.Lib

variable {σ ℓ : Type}

/-! ## Sequences -/

/-- The steps labelled `ls`, the first one first, lead from `s` to `s'`. -/
inductive Sequence (step : ℓ → σ → σ → Prop) : List ℓ → σ → σ → Prop
  | nil {s : σ} : Sequence step [] s s
  | cons {l : ℓ} {ls : List ℓ} {s s₁ s' : σ} :
      step l s s₁ → Sequence step ls s₁ s' → Sequence step (l :: ls) s s'

/-- Where `b` can follow `a`, it can also come first, to the same end. -/
def Swaps (step : ℓ → σ → σ → Prop) (P : σ → Prop) (a b : ℓ) : Prop :=
  ∀ {s s₁ s₂}, P s → step a s s₁ → step b s₁ s₂ → ∃ s₁', step b s s₁' ∧ step a s₁' s₂

namespace Sequence

variable {step : ℓ → σ → σ → Prop} {P : σ → Prop} {ls ls' : List ℓ} {s s' s₁ : σ} {l : ℓ}

@[simp] theorem cons_iff :
    Sequence step (l :: ls) s s' ↔ ∃ s₁, step l s s₁ ∧ Sequence step ls s₁ s' := by
  constructor
  · rintro (_ | ⟨hs, h⟩)
    exact ⟨_, hs, h⟩
  · rintro ⟨s₁, hs, h⟩
    exact .cons hs h

theorem perm (hstep : ∀ l ∈ ls, ∀ {s s'}, P s → step l s s' → P s')
    (hswaps : ls.Pairwise fun a b => Swaps step P a b ∧ Swaps step P b a) (hperm : ls.Perm ls')
    (hs : P s) (h : Sequence step ls s s') : Sequence step ls' s s' := by
  induction hperm generalizing s with
  | nil => exact h
  | cons x _ ih =>
    obtain ⟨s₁, hx, h⟩ := cons_iff.1 h
    exact .cons hx (ih (fun l hl => hstep l (List.mem_cons_of_mem _ hl)) hswaps.of_cons
      (hstep x List.mem_cons_self hs hx) h)
  | swap x y ls =>
    obtain ⟨s₁, hy, h⟩ := cons_iff.1 h
    obtain ⟨s₂, hx, h⟩ := cons_iff.1 h
    obtain ⟨s₁', hx', hy'⟩ :=
      ((List.pairwise_cons.1 hswaps).1 x List.mem_cons_self).1 hs hy hx
    exact .cons hx' (.cons hy' h)
  | trans hp _ ih ih' =>
    refine ih' (fun l hl => hstep l (hp.mem_iff.2 hl)) ?_ hs (ih hstep hswaps hs h)
    exact hswaps.perm hp fun hab => hab.symm

end Sequence

/-! ## A common memory -/

section Memory

open Classical

variable {κ ν ε : Type} {K K' W W' : Set κ} {m m' m₁ m₂ : κ → ν}

/-- The operation looks at the addresses in `K` and at no others, and the others pass through it. -/
def Confined (K : Set κ) (f : (κ → ν) → Except ε (κ → ν)) : Prop :=
  ∀ m m', f (K.piecewise m m') = (f m).map fun m₁ => K.piecewise m₁ m'

/-- The operation goes through and writes within `W`. -/
structure Performs (f : (κ → ν) → Except ε (κ → ν)) (W : Set κ) (m m' : κ → ν) : Prop where
  succeeds : f m = .ok m'
  writes : Set.EqOn m' m Wᶜ

namespace Confined

variable {f g : (κ → ν) → Except ε (κ → ν)}

theorem frame (hf : Confined K f) (h : f m = .ok m₁) : Set.EqOn m₁ m Kᶜ := by
  have heq := hf m m
  rw [Set.piecewise_same, h] at heq
  have hsame : m₁ = K.piecewise m₁ m := Except.ok.inj heq
  intro k hk
  rw [hsame, Set.piecewise_eq_of_notMem _ _ _ hk]

theorem congr (hf : Confined K f) (h : Set.EqOn m m' K) :
    f m' = (f m).map fun m₁ => K.piecewise m₁ m' := by
  have hsame : K.piecewise m m' = m' := by
    funext k
    by_cases hk : k ∈ K
    · rw [Set.piecewise_eq_of_mem _ _ _ hk, h hk]
    · rw [Set.piecewise_eq_of_notMem _ _ _ hk]
  rw [← hf m m', hsame]

theorem bind (hf : Confined K f) (hg : Confined K g) : Confined K fun m => f m >>= g := by
  intro m m'
  dsimp only
  rw [hf m m']
  cases f m with
  | error e => rfl
  | ok m₁ => exact hg m₁ m'

/-- Operations that do not write what the other looks at change places. -/
theorem swap (hf : Confined K f) (hg : Confined K' g) (hWK : ∀ k ∈ W, k ∉ K')
    (hWK' : ∀ k ∈ W', k ∉ K) (h : Performs f W m m₁) (h' : Performs g W' m₁ m₂) :
    ∃ m₁', Performs g W' m m₁' ∧ Performs f W m₁' m₂ := by
  have hsame : Set.EqOn m₁ m K' := fun k hk => h.writes fun hw => hWK k hw hk
  have hkept : Set.EqOn m₂ m₁ K := fun k hk => h'.writes fun hw => hWK' k hw hk
  have hgm : g m = .ok (K'.piecewise m₂ m) := by rw [hg.congr hsame, h'.succeeds]; rfl
  have hmid : Set.EqOn m (K'.piecewise m₂ m) K := by
    intro k hk
    by_cases hk' : k ∈ K'
    · rw [Set.piecewise_eq_of_mem _ _ _ hk', hkept hk, hsame hk']
    · rw [Set.piecewise_eq_of_notMem _ _ _ hk']
  have hfm : f (K'.piecewise m₂ m) = .ok (K.piecewise m₁ (K'.piecewise m₂ m)) := by
    rw [hf.congr hmid, h.succeeds]
    rfl
  have hend : K.piecewise m₁ (K'.piecewise m₂ m) = m₂ := by
    funext k
    by_cases hk : k ∈ K
    · rw [Set.piecewise_eq_of_mem _ _ _ hk, hkept hk]
    · rw [Set.piecewise_eq_of_notMem _ _ _ hk]
      by_cases hk' : k ∈ K'
      · rw [Set.piecewise_eq_of_mem _ _ _ hk']
      · rw [Set.piecewise_eq_of_notMem _ _ _ hk', hg.frame h'.succeeds hk',
          hf.frame h.succeeds hk]
  rw [hend] at hfm
  refine ⟨_, ⟨hgm, fun k hk => ?_⟩, hfm, fun k hk => ?_⟩
  · by_cases hk' : k ∈ K'
    · rw [Set.piecewise_eq_of_mem _ _ _ hk', h'.writes hk, hsame hk']
    · rw [Set.piecewise_eq_of_notMem _ _ _ hk']
  · by_cases hk' : k ∈ K'
    · rw [Set.piecewise_eq_of_mem _ _ _ hk']
    · rw [Set.piecewise_eq_of_notMem _ _ _ hk', hg.frame h'.succeeds hk', h.writes hk]

end Confined

/-- A batch of operations none of which writes what another looks at may be performed in any
order. -/
theorem Sequence.perm_of_confined {ι : Type} {run : ι → (κ → ν) → Except ε (κ → ν)}
    {reads writes : ι → Set κ} {ops ops' : List ι}
    (hconfined : ∀ i ∈ ops, Confined (reads i) (run i))
    (hindependent : ops.Pairwise fun i j =>
      (∀ k ∈ writes i, k ∉ reads j) ∧ ∀ k ∈ writes j, k ∉ reads i)
    (hperm : ops.Perm ops') (h : Sequence (fun i => Performs (run i) (writes i)) ops m m') :
    Sequence (fun i => Performs (run i) (writes i)) ops' m m' := by
  refine h.perm (P := fun _ => True) (fun _ _ _ _ _ _ => trivial) ?_ hperm trivial
  refine hindependent.imp_of_mem fun {i j} hi hj hij => ⟨?_, ?_⟩
  · exact fun _ h h' => (hconfined i hi).swap (hconfined j hj) hij.1 hij.2 h h'
  · exact fun _ h h' => (hconfined j hj).swap (hconfined i hi) hij.2 hij.1 h h'

/-! ## Address by address -/

/-- Every address moves on its own. -/
def Cellwise (move : κ → ν → ν → Prop) (m m' : κ → ν) : Prop := ∀ k, move k (m k) (m' k)

/-- Operations that change places at every address change places. -/
theorem Cellwise.swap {move move' : κ → ν → ν → Prop}
    (hswap : ∀ k {x y z}, move k x y → move' k y z → ∃ y', move' k x y' ∧ move k y' z)
    (h : Cellwise move m m₁) (h' : Cellwise move' m₁ m₂) :
    ∃ m₁', Cellwise move' m m₁' ∧ Cellwise move m₁' m₂ := by
  choose m₁' hm hm' using fun k => hswap k (h k) (h' k)
  exact ⟨m₁', hm, hm'⟩

end Memory

end DoubleZero.Lib
