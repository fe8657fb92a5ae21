import DoubleZero.Revenue.Invariant.Run
import DoubleZero.Revenue.Replay

/-!
# The bitmaps fill the bytes behind a distribution

`Layout` keeps the three ranges apart. `Tiled` adds their lengths, and that no byte is left over,
whatever the order in which the bitmaps were appended and whether the one of the debt was appended
at all. `bitmap_layout` states both for every ledger a run reaches.
-/

namespace DoubleZero.Revenue

open DoubleZero.Lib DoubleZero.Solana

/-! ## Lengths -/

theorem toNat_bitmapLen (n : UInt32) : (bitmapLen n).toNat = (n.toNat + 7) / 8 := by
  have hn := n.toNat_lt
  unfold bitmapLen
  split
  · next h =>
    have hmod : n.toNat % 8 = 0 := by
      have := congrArg UInt32.toNat h
      rwa [UInt32.toNat_mod] at this
    rw [UInt32.toNat_div]
    show n.toNat / 8 = _
    omega
  · next h =>
    have hmod : n.toNat % 8 ≠ 0 := by
      intro h0
      apply h
      rw [← UInt32.toNat_inj, UInt32.toNat_mod]
      exact h0
    rw [UInt32.toNat_add, UInt32.toNat_div]
    show (n.toNat / 8 + 1) % 2 ^ 32 = _
    omega

/-- A range that is empty until it is opened, and then may have room for `n` bits. -/
def Sized (isOpen : Bool) (range : Nat × Nat) (n : UInt32) : Prop :=
  (isOpen = false → range = (0, 0)) ∧ (range = (0, 0) ∨ range.2 - range.1 = (n.toNat + 7) / 8)

def InRange (range : Nat × Nat) (x : Nat) : Prop := range.1 ≤ x ∧ x < range.2

structure Tiled (s : DistState) : Prop where
  debt : Sized s.1.isDebtCalculationFinalized s.1.debtRange s.1.totalSolanaValidators
  writeOff : Sized s.1.isSolanaValidatorDebtWriteOffEnabled s.1.writeOffRange
    s.1.totalSolanaValidators
  rewards : Sized s.1.isRewardsCalculationFinalized s.1.rewardsRange s.1.totalContributors
  covered : ∀ x, x < s.2.length →
    InRange s.1.debtRange x ∨ InRange s.1.writeOffRange x ∨ InRange s.1.rewardsRange x

section

variable {rt : Runtime} {a : DistAction} {s s' : DistState} {rem rem' : List (BitVec 8)}
  {n : UInt32} {range : Nat × Nat}

/-- The range that is appended. -/
theorem Sized.grown (hrem : rem.length + (bitmapLen n).toNat < 2 ^ 32) :
    Sized true ((bitmapStart rem).toNat, (bitmapEnd rem n).toNat) n := by
  obtain ⟨hstart, hend⟩ := bitmap_range hrem
  refine ⟨by simp, .inr ?_⟩
  rw [hstart, hend, ← toNat_bitmapLen]
  omega

/-- A range that is not open yet may be for any number of bits. -/
theorem Sized.closed {isOpen : Bool} {n' : UInt32} (h : Sized isOpen range n)
    (hopen : isOpen = false) : Sized isOpen range n' :=
  ⟨h.1, .inl (h.1 hopen)⟩

/-- A byte of the grown data was there before or is in the appended range. -/
theorem inRange_grown (hrem : rem.length + (bitmapLen n).toNat < 2 ^ 32) {x : Nat}
    (hx : x < (grown rem n).length) :
    x < rem.length ∨ InRange ((bitmapStart rem).toNat, (bitmapEnd rem n).toNat) x := by
  obtain ⟨hstart, hend⟩ := bitmap_range hrem
  rw [length_grown] at hx
  by_cases hlt : x < rem.length
  · exact .inl hlt
  · refine .inr ⟨?_, ?_⟩
    · rw [hstart]
      omega
    · rw [hend]
      exact hx

theorem not_inRange_empty (x : Nat) : ¬ InRange (0, 0) x := fun h => Nat.not_lt_zero x h.2

namespace Tiled

/-- Setting a flag leaves the sizes of the other ranges alone. -/
theorem setDebt {d : Distribution} (h : Tiled (d, rem)) :
    Sized (d.setIsDebtCalculationFinalized true).isSolanaValidatorDebtWriteOffEnabled
        d.writeOffRange d.totalSolanaValidators ∧
      Sized (d.setIsDebtCalculationFinalized true).isRewardsCalculationFinalized d.rewardsRange
        d.totalContributors := by
  simpa using ⟨h.writeOff, h.rewards⟩

theorem setRewards {d : Distribution} (h : Tiled (d, rem)) :
    Sized (d.setIsRewardsCalculationFinalized true).isDebtCalculationFinalized d.debtRange
        d.totalSolanaValidators ∧
      Sized (d.setIsRewardsCalculationFinalized true).isSolanaValidatorDebtWriteOffEnabled
        d.writeOffRange d.totalSolanaValidators := by
  simpa using ⟨h.debt, h.writeOff⟩

theorem setWriteOff {d : Distribution} (h : Tiled (d, rem)) :
    Sized (d.setIsSolanaValidatorDebtWriteOffEnabled true).isDebtCalculationFinalized d.debtRange
        d.totalSolanaValidators ∧
      Sized (d.setIsSolanaValidatorDebtWriteOffEnabled true).isRewardsCalculationFinalized
        d.rewardsRange d.totalContributors := by
  simpa using ⟨h.debt, h.rewards⟩

theorem setSwept {d : Distribution} (h : Tiled (d, rem)) :
    Sized (d.setHasSwept2zTokens true).isDebtCalculationFinalized d.debtRange
        d.totalSolanaValidators ∧
      Sized (d.setHasSwept2zTokens true).isSolanaValidatorDebtWriteOffEnabled d.writeOffRange
        d.totalSolanaValidators ∧
      Sized (d.setHasSwept2zTokens true).isRewardsCalculationFinalized d.rewardsRange
        d.totalContributors := by
  simpa using ⟨h.debt, h.writeOff, h.rewards⟩

theorem step (hv : Valid s) (h : Tiled s) (hstep : DistStep rt a s s') : Tiled s' := by
  cases hstep with
  | configureDebt hopen =>
    have hoff := (hv.ordered.open_debt hopen).2.1
    exact ⟨h.debt.closed hopen, h.writeOff.closed hoff, h.rewards, h.covered⟩
  | configureRewards hopen => exact ⟨h.debt, h.writeOff, h.rewards.closed hopen, h.covered⟩
  | @finalizeZeroDebt d rem hopen _ =>
    have hempty := h.debt.1 hopen
    exact ⟨⟨fun _ => hempty, .inl hempty⟩, (setDebt h).1, (setDebt h).2, h.covered⟩
  | @finalizeDebt d rem _ hopen _ _ hfit =>
    have hrem := hv.layout.length_small hfit
    have hsized : Sized (d.setIsDebtCalculationFinalized true).isDebtCalculationFinalized
        ((bitmapStart rem).toNat, (bitmapEnd rem d.totalSolanaValidators).toNat)
        d.totalSolanaValidators := by
      simpa using Sized.grown hrem
    refine ⟨hsized, (setDebt h).1, (setDebt h).2, fun x hx => ?_⟩
    rcases inRange_grown hrem hx with hold | hnew
    · rcases h.covered x hold with hdebt | hrest
      · exact absurd (h.debt.1 hopen ▸ hdebt) (not_inRange_empty x)
      · exact .inr hrest
    · exact .inl hnew
  | @finalizeRewards d rem hopen _ _ hfit =>
    have hrem := hv.layout.length_small hfit
    have hsized : Sized (d.setIsRewardsCalculationFinalized true).isRewardsCalculationFinalized
        ((bitmapStart rem).toNat, (bitmapEnd rem d.totalContributors).toNat)
        d.totalContributors := by
      simpa using Sized.grown hrem
    refine ⟨(setRewards h).1, (setRewards h).2, hsized, fun x hx => ?_⟩
    rcases inRange_grown hrem hx with hold | hnew
    · rcases h.covered x hold with hdebt | hoff | hrewards
      · exact .inl hdebt
      · exact .inr (.inl hoff)
      · exact absurd (h.rewards.1 hopen ▸ hrewards) (not_inRange_empty x)
    · exact .inr (.inr hnew)
  | @enableWriteOff d rem hopen _ hfit =>
    have hrem := hv.layout.length_small hfit
    have hsized : Sized
        (d.setIsSolanaValidatorDebtWriteOffEnabled true).isSolanaValidatorDebtWriteOffEnabled
        ((bitmapStart rem).toNat, (bitmapEnd rem d.totalSolanaValidators).toNat)
        d.totalSolanaValidators := by
      simpa using Sized.grown hrem
    refine ⟨(setWriteOff h).1, hsized, (setWriteOff h).2, fun x hx => ?_⟩
    rcases inRange_grown hrem hx with hold | hnew
    · rcases h.covered x hold with hdebt | hoff | hrewards
      · exact .inl hdebt
      · exact absurd (h.writeOff.1 hopen ▸ hoff) (not_inRange_empty x)
      · exact .inr (.inr hrewards)
    · exact .inr (.inl hnew)
  | distribute _ _ _ hmarks _ _ =>
    exact ⟨h.debt, h.writeOff, h.rewards, fun x hx => h.covered x (hmarks.length_eq ▸ hx)⟩
  | pay _ hmarks _ =>
    exact ⟨h.debt, h.writeOff, h.rewards, fun x hx => h.covered x (hmarks.length_eq ▸ hx)⟩
  | writeOff _ hmarksOff hmarks _ =>
    have hlen := hmarks.length_eq.trans hmarksOff.length_eq
    exact ⟨h.debt, h.writeOff, h.rewards, fun x hx => h.covered x (hlen ▸ hx)⟩
  | sweepNothing _ _ _ => exact ⟨(setSwept h).1, (setSwept h).2.1, (setSwept h).2.2, h.covered⟩
  | sweep _ _ _ _ => exact ⟨(setSwept h).1, (setSwept h).2.1, (setSwept h).2.2, h.covered⟩
  -- The other steps change neither a range nor the bytes.
  | _ => exact ⟨h.debt, h.writeOff, h.rewards, h.covered⟩

end Tiled

theorem Initialized.tiled {c : ProgramConfig} {j : Journal} {prepaid : UInt64} {d : Distribution}
    (h : Initialized rt c j prepaid d) : Tiled (d, []) := by
  have hdebt : d.debtRange = (0, 0) := congrArg Distribution.debtRange h.rest_eq
  have hwriteOff : d.writeOffRange = (0, 0) := congrArg Distribution.writeOffRange h.rest_eq
  have hrewards : d.rewardsRange = (0, 0) := congrArg Distribution.rewardsRange h.rest_eq
  exact ⟨⟨fun _ => hdebt, .inl hdebt⟩, ⟨fun _ => hwriteOff, .inl hwriteOff⟩,
    ⟨fun _ => hrewards, .inl hrewards⟩, fun x hx => absurd hx (Nat.not_lt_zero x)⟩

end

/-- Marking a leaf changes no byte outside the bitmap. -/
theorem processLeaf_frame {rem : List (BitVec 8)} {start stop leafIndex : UInt32} {log : String}
    {s : Exec AccountState} {r : List (BitVec 8) × Exec AccountState} {x : Nat}
    (hok : processLeaf rem start stop leafIndex log s = .ok r)
    (hx : ¬ InRange (start.toNat, stop.toNat) x) : r.1[x]? = rem[x]? := by
  have hbind : (processLeaf rem start stop leafIndex log >>= pure) s = .ok r :=
    bind_eq_ok.2 ⟨r.1, r.2, hok, rfl⟩
  obtain ⟨rem', hmarks, hpure⟩ := processLeaf_bind_ok.1 hbind
  cases pure_eq_ok.1 hpure
  obtain ⟨hle, hstop, byte, -, -, rfl⟩ := hmarks
  rw [getElem?_splice (UInt32.le_iff_toNat_le.1 hle) hstop
    (by rw [List.length_set, length_window hstop])]
  exact if_neg hx

/-! ## On the ledger -/

theorem bitmap_layout {rt : Runtime} {L₀ L : RevenueLedger} {h : History} {k : Pubkey}
    {d : Distribution} {rem : List (BitVec 8)} (hg : Genesis rt L₀) (hrun : LedgerRun rt L₀ h L)
    (hd : view ID L k = some (d, rem)) :
    ((d.debtRange = (0, 0) ∨
        d.debtRange.2 - d.debtRange.1 = (d.totalSolanaValidators.toNat + 7) / 8) ∧
      (d.writeOffRange = (0, 0) ∨
        d.writeOffRange.2 - d.writeOffRange.1 = (d.totalSolanaValidators.toNat + 7) / 8) ∧
      (d.rewardsRange = (0, 0) ∨
        d.rewardsRange.2 - d.rewardsRange.1 = (d.totalContributors.toNat + 7) / 8)) ∧
      (Apart d.debtRange d.writeOffRange ∧ Apart d.debtRange d.rewardsRange ∧
        Apart d.writeOffRange d.rewardsRange) ∧
      (∀ x, x < rem.length ↔
        InRange d.debtRange x ∨ InRange d.writeOffRange x ∨ InRange d.rewardsRange x) ∧
      ∀ range ∈ [d.debtRange, d.writeOffRange, d.rewardsRange],
        range.1 ≤ range.2 ∧ range.2 ≤ rem.length ∧
          ∀ (start stop leafIndex : UInt32) (log : String) (s : Exec AccountState)
            (r : List (BitVec 8) × Exec AccountState), (start.toNat, stop.toNat) = range →
            processLeaf rem start stop leafIndex log s = .ok r →
              ∀ x, ¬ InRange range x → r.1[x]? = rem[x]? := by
  obtain ⟨hc, hbooks⟩ := hrun.books hg
  have has : (books rt L).HasDist d rem := (hc.of_view hd).2.1
  obtain ⟨hv, ht⟩ : Valid (d, rem) ∧ Tiled (d, rem) :=
    hbooks.dist_invariant (P := fun s => Valid s ∧ Tiled s) hg.books_empty
      (fun hi => ⟨hi.valid, hi.tiled⟩)
      (fun ⟨hv, ht⟩ hstep => ⟨hv.step hstep, ht.step hv hstep⟩) has
  have hl := hv.layout
  refine ⟨⟨ht.debt.2, ht.writeOff.2, ht.rewards.2⟩,
    ⟨hl.debt_writeOff, hl.debt_rewards, hl.writeOff_rewards⟩, fun x => ⟨ht.covered x, ?_⟩, ?_⟩
  · rintro (hx | hx | hx)
    · exact hx.2.trans_le hl.debt.stop_le
    · exact hx.2.trans_le hl.writeOff.stop_le
    · exact hx.2.trans_le hl.rewards.stop_le
  · have hfits : ∀ range ∈ [d.debtRange, d.writeOffRange, d.rewardsRange], Fits range rem := by
      simpa using ⟨hl.debt, hl.writeOff, hl.rewards⟩
    intro range hrange
    refine ⟨(hfits range hrange).start_le, (hfits range hrange).stop_le, ?_⟩
    rintro start stop leafIndex log s r rfl hok x hx
    exact processLeaf_frame hok hx

/-- All three bitmaps are open at the end of the epoch. -/
theorem bitmap_layout_epoch :
    ∃ (h : History) (L : RevenueLedger) (d : Distribution) (rem : List (BitVec 8)),
      LedgerRun (Sample.runtime Sample.debts Sample.shares) (Sample.genesis 1000 700) h L ∧
      view ID L Sample.distribution = some (d, rem) ∧ rem.length = 3 ∧
      (∀ x, x < rem.length ↔
        InRange d.debtRange x ∨ InRange d.writeOffRange x ∨ InRange d.rewardsRange x) := by
  obtain ⟨h, L, hrun, -, hP⟩ := Sample.exists_epoch (P := fun _ L =>
    (view (T := Distribution) ID L Sample.distribution).any fun x => x.2.length = 3)
    (by decide +kernel)
  obtain ⟨⟨d, rem⟩, hd, hlength⟩ := (Option.any_eq_true _ _).1 hP
  obtain ⟨-, -, hcover, -⟩ := bitmap_layout (Sample.genesis_unused 1000 700) hrun hd
  exact ⟨h, L, d, rem, hrun, hd, of_decide_eq_true hlength, hcover⟩

end DoubleZero.Revenue
