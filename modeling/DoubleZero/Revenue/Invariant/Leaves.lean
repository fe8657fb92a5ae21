import DoubleZero.Revenue.Invariant.Run

/-!
# The amounts of settled debt leaves

The amount of a leaf is fixed by the root of its tree, so the leaves a distribution has marked as
paid or written off add up to sums that are functions of the distribution. A payment adds its amount
to one sum, a write-off to the other, and no other step changes either.
-/

namespace DoubleZero.Revenue

open DoubleZero.Lib DoubleZero.Solana

/-! ## One leaf -/

open Classical in
/-- The amount of the debt leaf at an index of the tree with the given root. -/
noncomputable def debtAmount (rt : Runtime) (root : Hash) (i : Nat) : Nat :=
  if h : ∃ debt, Verifies rt root (UInt32.ofNat i) (.solanaValidatorDebt debt) then
    h.choose.amount.toNat
  else 0

theorem debtAmount_eq {rt : Runtime} {root : Hash} {i : UInt32} {debt : SolanaValidatorDebt}
    (hu : LeafUnique rt.rootFromPodLeaf)
    (hv : Verifies rt root i (.solanaValidatorDebt debt)) :
    debtAmount rt root i.toNat = debt.amount.toNat := by
  have hi : UInt32.ofNat i.toNat = i := UInt32.ofNat_toNat
  have hex : ∃ debt, Verifies rt root (UInt32.ofNat i.toNat) (.solanaValidatorDebt debt) :=
    ⟨debt, by rw [hi]; exact hv⟩
  unfold debtAmount
  rw [dif_pos hex]
  obtain ⟨p, hp, hroot⟩ := hex.choose_spec
  obtain ⟨p', hp', hroot'⟩ := hv
  rw [hi] at hp
  rw [hu.debt hp hp' (hroot.trans hroot'.symm)]

/-! ## Sums of leaves -/

/-- The leaves that were paid. -/
def Distribution.paidDebt (d : Distribution) (rem : List (BitVec 8)) : Finset Nat :=
  d.processedDebt rem \ d.writtenOffDebt rem

/-- The sum of the amounts of some leaves of the debt tree. -/
noncomputable def Distribution.debtSum (rt : Runtime) (d : Distribution) (leaves : Finset Nat) :
    Nat :=
  ∑ i ∈ leaves, debtAmount rt d.solanaValidatorDebtMerkleRoot i

noncomputable def paidSum (rt : Runtime) (s : DistState) : Nat := s.1.debtSum rt (s.1.paidDebt s.2)

noncomputable def writtenOffSum (rt : Runtime) (s : DistState) : Nat :=
  s.1.debtSum rt (s.1.writtenOffDebt s.2)

namespace Valid

variable {rt : Runtime} {a : DistAction} {s s' : DistState}

/-- The root stays, unless no leaf is settled yet. -/
theorem root_eq (h : Valid s) (hstep : DistStep rt a s s') :
    s'.1.solanaValidatorDebtMerkleRoot = s.1.solanaValidatorDebtMerkleRoot ∨
      s.1.processedDebt s.2 = ∅ ∧ s.1.writtenOffDebt s.2 = ∅ := by
  cases hstep with
  | configureDebt hopen => exact .inr (h.unsettled_sets hopen)
  | _ => exact .inl rfl

theorem sums_step (h : Valid s) (hu : LeafUnique rt.rootFromPodLeaf)
    (hstep : DistStep rt a s s') :
    paidSum rt s' = paidSum rt s + a.paid ∧
      writtenOffSum rt s' = writtenOffSum rt s + a.writtenOff := by
  -- A step that settles nothing keeps the leaves, and their tree unless there are none.
  have hcalm : a.settles = none →
      paidSum rt s' = paidSum rt s ∧ writtenOffSum rt s' = writtenOffSum rt s := by
    intro ha
    obtain ⟨hdebt, hwriteOff⟩ := h.sets_eq hstep ha
    unfold paidSum writtenOffSum Distribution.debtSum Distribution.paidDebt
    rw [hdebt, hwriteOff]
    rcases h.root_eq hstep with hroot | ⟨hnone, hnoneOff⟩
    · rw [hroot]
      exact ⟨rfl, rfl⟩
    · rw [hnone, hnoneOff]
      exact ⟨rfl, rfl⟩
  cases hstep with
  | @pay d rem rem' i debt _ hmarks hleaf =>
    obtain ⟨hdebt, hwriteOff, -, hnot⟩ := h.layout.mark_debt hmarks
    have hnotOff : i.toNat ∉ d.writtenOffDebt rem := fun hi => hnot (h.counted.writtenOff_subset hi)
    have hpaid : d.paidDebt rem' = insert i.toNat (d.paidDebt rem) := by
      unfold Distribution.paidDebt
      rw [hdebt, hwriteOff, Finset.insert_sdiff_of_notMem _ hnotOff]
    have hnew : i.toNat ∉ d.paidDebt rem := fun hi => hnot (Finset.mem_sdiff.1 hi).1
    constructor
    · show d.debtSum rt (d.paidDebt rem') = d.debtSum rt (d.paidDebt rem) + debt.amount.toNat
      rw [hpaid, Distribution.debtSum, Finset.sum_insert hnew, debtAmount_eq hu hleaf, Nat.add_comm]
      rfl
    · show d.debtSum rt (d.writtenOffDebt rem') = d.debtSum rt (d.writtenOffDebt rem)
      rw [hwriteOff]
  | @writeOff d rem rem₁ rem' i debt _ hmarksOff hmarks hleaf =>
    obtain ⟨hdebt, hwriteOff, -, hnot, hnotOff⟩ := h.layout.mark_writeOff hmarksOff hmarks
    constructor
    · show d.debtSum rt (d.paidDebt rem') = d.debtSum rt (d.paidDebt rem)
      have hpaid : d.paidDebt rem' = d.paidDebt rem := by
        unfold Distribution.paidDebt
        rw [hdebt, hwriteOff, Finset.insert_sdiff_insert, Finset.sdiff_insert_of_notMem hnot]
      rw [hpaid]
    · show d.debtSum rt (d.writtenOffDebt rem') =
        d.debtSum rt (d.writtenOffDebt rem) + debt.amount.toNat
      rw [hwriteOff, Distribution.debtSum, Finset.sum_insert hnotOff, debtAmount_eq hu hleaf,
        Nat.add_comm]
      rfl
  | _ => exact hcalm rfl

end Valid

/-! ## Payments add up -/

structure Summed (rt : Runtime) (s : DistState) : Prop where
  verified : ∀ i ∈ s.1.processedDebt s.2, ∃ debt,
    Verifies rt s.1.solanaValidatorDebtMerkleRoot (UInt32.ofNat i) (.solanaValidatorDebt debt)
  collected_eq : s.1.collectedSolanaValidatorPayments.toNat = paidSum rt s % 2 ^ 64

namespace Summed

variable {rt : Runtime} {a : DistAction} {s s' : DistState}

theorem collected_step (hstep : DistStep rt a s s') :
    s'.1.collectedSolanaValidatorPayments.toNat =
      (s.1.collectedSolanaValidatorPayments.toNat + a.paid) % 2 ^ 64 := by
  cases hstep with
  | pay _ _ _ => exact UInt64.toNat_add _ _
  | _ => exact (Nat.mod_eq_of_lt (UInt64.toNat_lt _)).symm

theorem step (hu : LeafUnique rt.rootFromPodLeaf) (hv : Valid s) (h : Summed rt s)
    (hstep : DistStep rt a s s') : Summed rt s' := by
  constructor
  · have hold := h.verified
    have hsame := hv.sets_eq hstep
    have hroot := hv.root_eq hstep
    cases hstep with
    | @pay d rem rem' i debt _ hmarks hleaf =>
      intro k hk
      rcases Finset.mem_insert.1 ((hv.layout.mark_debt hmarks).1 ▸ hk) with rfl | hk
      · exact ⟨debt, by rw [UInt32.ofNat_toNat]; exact hleaf⟩
      · exact hold k hk
    | @writeOff d rem rem₁ rem' i debt _ hmarksOff hmarks hleaf =>
      intro k hk
      rcases Finset.mem_insert.1 ((hv.layout.mark_writeOff hmarksOff hmarks).1 ▸ hk) with rfl | hk
      · exact ⟨debt, by rw [UInt32.ofNat_toNat]; exact hleaf⟩
      · exact hold k hk
    | _ =>
      rw [(hsame rfl).1]
      rcases hroot with hroot | ⟨hnone, -⟩
      · rw [hroot]
        exact hold
      · rw [hnone]
        simp
  · rw [collected_step hstep, (hv.sums_step hu hstep).1, h.collected_eq, Nat.mod_add_mod]

/-- A processed leaf is in the tree, with the amount the sums count it with. -/
theorem leaf (hu : LeafUnique rt.rootFromPodLeaf) (hv : Valid s) (h : Summed rt s) {i : Nat}
    (hi : i ∈ s.1.processedDebt s.2) : ∃ debt : SolanaValidatorDebt,
      Verifies rt s.1.solanaValidatorDebtMerkleRoot (UInt32.ofNat i) (.solanaValidatorDebt debt) ∧
        debtAmount rt s.1.solanaValidatorDebtMerkleRoot i = debt.amount.toNat := by
  obtain ⟨debt, hleaf⟩ := h.verified i hi
  have hlt : i < 2 ^ 32 := (hv.layout.debt.mem_lt hi).trans (by decide)
  have hnat : (UInt32.ofNat i).toNat = i := UInt32.toNat_ofNat_of_lt hlt
  exact ⟨debt, hleaf, hnat ▸ debtAmount_eq hu hleaf⟩

end Summed

theorem Initialized.summed {rt : Runtime} {c : ProgramConfig} {j : Journal} {prepaid : UInt64}
    {d : Distribution} (h : Initialized rt c j prepaid d) : Summed rt (d, []) := by
  obtain ⟨hnone, hnoneOff⟩ := h.valid.unsettled_sets h.flag_eq
  constructor
  · rw [hnone]
    simp
  · rw [paidSum, Distribution.paidDebt, hnone, (h.valid.booked.unsettled h.flag_eq).2.1]
    simp [Distribution.debtSum]

theorem BooksRun.summed {rt : Runtime} {b b₀ : Books} {h : List (Entry Books Label)}
    (hu : LeafUnique rt.rootFromPodLeaf) (hrun : BooksRun rt b₀ h b) (hempty : b₀.Empty)
    {d : Distribution} {rem : List (BitVec 8)} (hd : b.HasDist d rem) : Summed rt (d, rem) := by
  have hboth : Valid (d, rem) ∧ Summed rt (d, rem) :=
    hrun.dist_invariant (P := fun s => Valid s ∧ Summed rt s) hempty
      (fun hi => ⟨hi.valid, hi.summed⟩)
      (fun ⟨hv, hs⟩ hstep => ⟨hv.step hstep, hs.step hu hv hstep⟩) hd
  exact hboth.2

end DoubleZero.Revenue
