import DoubleZero.Revenue.Invariant.Change
import DoubleZero.Revenue.Safety.Bitmaps

/-!
# Leaves beyond the declared count

A leaf is only marked when its bit lies in a bitmap, and a bitmap is as many whole bytes as the
declared count needs. The bits of its last byte past the count are `Padding`: they stand for no
declared leaf, and yet a leaf of a larger tree can be marked there and is counted. Where no step
marks padding, every leaf marked is a declared one.
-/

namespace DoubleZero.Revenue

open DoubleZero.Lib DoubleZero.Solana

/-- A bit of the last byte of the bitmap for `count` leaves that stands for none of them. -/
def Padding (count i : UInt32) : Prop :=
  count ≤ i ∧ i.toNat < 8 * ((count.toNat + 7) / 8)

instance (count i : UInt32) : Decidable (Padding count i) :=
  inferInstanceAs (Decidable (_ ∧ _))

theorem Padding.lt_iff {count i : UInt32} (h : i.toNat < 8 * ((count.toNat + 7) / 8)) :
    i < count ↔ ¬ Padding count i := by
  rw [Padding, not_and_or, UInt32.not_le]
  exact ⟨.inl, fun hor => hor.resolve_right fun hnot => hnot h⟩

/-- The proof an instruction takes its leaf from, the position of the distribution it marks the leaf
in, and the count that was declared for the tree. -/
def InstructionData.marks :
    InstructionData → Option (MerkleProof × Nat × (Distribution → UInt32))
  | .paySolanaValidatorDebt _ proof => some (proof, 1, Distribution.totalSolanaValidators)
  | .writeOffSolanaValidatorDebt _ proof => some (proof, 2, Distribution.totalSolanaValidators)
  | .distributeRewards _ _ proof => some (proof, 1, Distribution.totalContributors)
  | _ => none

/-- The step marks the leaf at index `i` of a tree that was declared to have `count` leaves. -/
def Marks (x : Entry RevenueLedger Label) (i count : UInt32) : Prop :=
  ∃ (call : Call) (proof : MerkleProof) (n : Nat) (declared : Distribution → UInt32) (k : Pubkey)
    (d : Distribution) (rem : List (BitVec 8)), x.label = .call call ∧
    call.data.marks = some (proof, n, declared) ∧ proof.leafIndex = some i ∧
    call.key? n = some k ∧ view ID x.before k = some (d, rem) ∧ declared d = count

/-! ## One step -/

section

variable {rt : Runtime} {call : Call} {b b' : Books} {a : DistAction} {s s' : DistState}
  {rem rem' : List (BitVec 8)} {start stop i n : UInt32} {isOpen : Bool}

/-- A leaf is only marked within the bytes of its bitmap. -/
theorem MarksLeaf.lt_capacity (hm : MarksLeaf rem start stop i rem')
    (hs : Sized isOpen (start.toNat, stop.toNat) n) : i.toNat < 8 * ((n.toNat + 7) / 8) := by
  obtain ⟨byte, hbyte, -, -⟩ := hm.marked
  obtain ⟨hlt, -⟩ := List.getElem?_eq_some_iff.1 hbyte
  rw [length_window hm.stop_le] at hlt
  rcases hs.2 with hnone | hsize
  · have hstop : stop.toNat = 0 := congrArg Prod.snd hnone
    omega
  · have hsize : stop.toNat - start.toNat = (n.toNat + 7) / 8 := hsize
    omega

theorem DistStep.marks_reward {share : RewardShare} {transferred burned : UInt64}
    (hstep : DistStep rt (.distribute i share transferred burned) s s') :
    MarksLeaf s.2 s.1.processedRewardsStartIndex s.1.processedRewardsEndIndex i s'.2 := by
  cases hstep with
  | distribute _ _ _ marks _ _ => exact marks

theorem Transition.marks_lt {proof : MerkleProof} {n : Nat} {declared : Distribution → UInt32}
    {d : Distribution} (ht : Transition rt call b b') (htiled : Tiled (d, rem))
    (hmarks : call.data.marks = some (proof, n, declared)) (hi : proof.leafIndex = some i)
    (hkey : call.key? n = some (rt.distributionKey d.dzEpoch)) (hd : b.HasDist d rem) :
    i.toNat < 8 * (((declared d).toNat + 7) / 8) := by
  cases ht with
  | distribute data indexed running has keyDist contributor share recipients split payouts step =>
    rw [data] at hmarks
    cases hmarks
    cases hi.symm.trans indexed
    have he := Runtime.distributionKey_inj.1 (Option.some.inj (hkey.symm.trans keyDist))
    obtain ⟨rfl, rfl⟩ := has.unique hd he
    exact step.marks_reward.lt_capacity htiled.rewards
  | pay data indexed running has keyDist deposit journal step =>
    rw [data] at hmarks
    cases hmarks
    cases hi.symm.trans indexed
    have he := Runtime.distributionKey_inj.1 (Option.some.inj (hkey.symm.trans keyDist))
    obtain ⟨rfl, rfl⟩ := has.unique hd he
    cases step with
    | pay _ marks _ => exact marks.lt_capacity htiled.debt
  | writeOff data indexed running signed has keyDist keyBook deposit short step =>
    rw [data] at hmarks
    cases hmarks
    cases hi.symm.trans indexed
    have he := Runtime.distributionKey_inj.1 (Option.some.inj (hkey.symm.trans keyDist))
    obtain ⟨rfl, rfl⟩ := has.unique hd he
    cases step with
    | writeOff _ marks _ _ => exact marks.lt_capacity htiled.writeOff
  | _ => simp [‹call.data = _›, InstructionData.marks] at hmarks

/-! ## Along a run -/

/-- Every settled leaf is a declared one. -/
def Declared (s : DistState) : Prop :=
  ∀ i ∈ s.1.processedDebt s.2, i < s.1.totalSolanaValidators.toNat

theorem Declared.step (hv : Valid s) (h : Declared s) (hstep : DistStep rt a s s')
    (hleaf : ∀ i debt, a = .pay i debt ∨ a = .writeOff i debt → i < s.1.totalSolanaValidators) :
    Declared s' := by
  have hcalm : a.settles = none → s'.1.totalSolanaValidators = s.1.totalSolanaValidators →
      Declared s' := by
    intro ha htotal i hi
    rw [(hv.sets_eq hstep ha).1] at hi
    rw [htotal]
    exact h i hi
  cases hstep with
  | @pay d rem rem' i debt _ hmarks _ =>
    intro k hk
    rcases Finset.mem_insert.1 ((hv.layout.mark_debt hmarks).1 ▸ hk) with rfl | hk
    · exact UInt32.lt_iff_toNat_lt.1 (hleaf i debt (.inl rfl))
    · exact h k hk
  | @writeOff d rem rem₁ rem' i debt _ hmarksOff hmarks _ =>
    intro k hk
    rcases Finset.mem_insert.1 ((hv.layout.mark_writeOff hmarksOff hmarks).1 ▸ hk) with rfl | hk
    · exact UInt32.lt_iff_toNat_lt.1 (hleaf i debt (.inr rfl))
    · exact h k hk
  | @configureDebt d rem _ _ _ hopen =>
    have hnone : d.processedDebt rem = ∅ := (hv.unsettled_sets hopen).1
    intro k hk
    have hk : k ∈ d.processedDebt rem := hk
    simp [hnone] at hk
  | _ => exact hcalm rfl rfl

theorem Initialized.declared {c : ProgramConfig} {j : Journal} {prepaid : UInt64}
    {d : Distribution} (h : Initialized rt c j prepaid d) : Declared (d, []) := by
  have hnone : d.processedDebt [] = ∅ := (h.valid.unsettled_sets h.flag_eq).1
  intro i hi
  simp [hnone] at hi

theorem Declared.count_le (hv : Valid s) (h : Declared s) :
    s.1.solanaValidatorPaymentsCount.toNat + s.1.solanaValidatorWriteOffCount.toNat ≤
      s.1.totalSolanaValidators.toNat := by
  rw [← hv.counted.processed_card, ← Finset.card_range s.1.totalSolanaValidators.toNat]
  exact Finset.card_le_card fun i hi => Finset.mem_range.2 (h i hi)

end

section

variable {rt : Runtime} {L₀ L : RevenueLedger} {h : History}

theorem LedgerRun.marks_lt (hg : Genesis rt L₀) (hrun : LedgerRun rt L₀ h L)
    {x : Entry RevenueLedger Label} (hx : x ∈ h) {i count : UInt32} (hm : Marks x i count) :
    i.toNat < 8 * ((count.toNat + 7) / 8) := by
  obtain ⟨call, proof, n, declared, k, d, rem, hlabel, hmarks, hi, hkey, hd, rfl⟩ := hm
  obtain ⟨h₁, -, hrun₁, hstep⟩ := Run.of_mem hrun hx
  obtain ⟨hc, hbooks⟩ := LedgerRun.books hg hrun₁
  obtain ⟨hk, has, -, -⟩ := hc.of_view hd
  have hk : k = rt.distributionKey d.dzEpoch := hk
  have htiled : Valid (d, rem) ∧ Tiled (d, rem) :=
    BooksRun.dist_invariant (P := fun s => Valid s ∧ Tiled s) hbooks hg.books_empty
      (fun hi => ⟨hi.valid, hi.tiled⟩)
      (fun ⟨hv, ht⟩ hstep => ⟨hv.step hstep, ht.step hv hstep⟩) has
  rw [hlabel] at hstep
  obtain ⟨-, hbook⟩ := step_refines hc hstep
  cases hbook with
  | call ht => exact ht.marks_lt htiled.2 hmarks hi (hk ▸ hkey) has

theorem LedgerRun.declared (hg : Genesis rt L₀) (hrun : LedgerRun rt L₀ h L)
    (hpadding : ∀ x ∈ h, ∀ i count, Marks x i count → ¬ Padding count i) {k : Pubkey}
    {d : Distribution} {rem : List (BitVec 8)} (hd : view ID L k = some (d, rem)) :
    Valid (d, rem) ∧ Declared (d, rem) := by
  obtain ⟨hc, hbooks⟩ := hrun.books hg
  have has : (Revenue.books rt L).HasDist d rem := (hc.of_view hd).2.1
  refine BooksRun.dist_induction (P := fun s => Valid s ∧ Declared s) hbooks hg.books_empty
    (fun _ _ _ _ _ _ _ _ _ _ _ hi => ⟨hi.valid, hi.declared⟩) ?_ has
  intro x hx call d rem a s s' hlabel has hdoes hmid hstep ⟨hv, hdeclared⟩
  refine ⟨hv.step hstep, hdeclared.step hv hstep fun i debt ha => ?_⟩
  obtain ⟨y, hy, rfl⟩ := List.mem_map.1 hx
  have hlabel : y.label = .call call := hlabel
  have hview : view ID y.before (rt.distributionKey d.dzEpoch) = some (d, rem) :=
    view_eq_stateAt.2 has
  have hmarks : Marks y i d.totalSolanaValidators := by
    rcases ha with rfl | rfl
    · cases hdoes with
      | pay data indexed keyDist =>
        exact ⟨call, _, _, _, _, d, rem, hlabel, by rw [data]; rfl, indexed, keyDist, hview, rfl⟩
    · cases hdoes with
      | writeOff data indexed keyDist =>
        exact ⟨call, _, _, _, _, d, rem, hlabel, by rw [data]; rfl, indexed, keyDist, hview, rfl⟩
  obtain ⟨m, hs⟩ := hmid.eq
  rw [hs]
  exact (Padding.lt_iff (LedgerRun.marks_lt hg hrun hy hmarks)).2 (hpadding y hy i _ hmarks)

end

/-! ## On the ledger -/

theorem leaf_index_declared_iff {rt : Runtime} {L₀ L : RevenueLedger} {h : History}
    (hg : Genesis rt L₀) (hrun : LedgerRun rt L₀ h L) :
    (∀ x ∈ h, ∀ i count, Marks x i count → (i < count ↔ ¬ Padding count i)) ∧
      ((∀ x ∈ h, ∀ i count, Marks x i count → ¬ Padding count i) →
        ∀ (k : Pubkey) (d : Distribution) (rem : List (BitVec 8)), view ID L k = some (d, rem) →
          d.solanaValidatorPaymentsCount.toNat + d.solanaValidatorWriteOffCount.toNat ≤
            d.totalSolanaValidators.toNat) := by
  refine ⟨fun x hx i count hmarks => Padding.lt_iff (LedgerRun.marks_lt hg hrun hx hmarks),
    fun hpadding k d rem hd => ?_⟩
  obtain ⟨hv, hdeclared⟩ := LedgerRun.declared hg hrun hpadding hd
  exact hdeclared.count_le hv

/-- The leaf that a step marks, as the step finds it. -/
def Sample.avoidsPadding (x : Entry RevenueLedger Label) : Bool :=
  match x.label with
  | .call call =>
    match call.data.marks with
    | some (proof, n, declared) =>
      (namedDist n x).all fun s => proof.leafIndex.all fun i => !decide (Padding (declared s.1) i)
    | none => true
  | .outside => true

theorem Sample.not_padding {x : Entry RevenueLedger Label} (h : Sample.avoidsPadding x = true)
    {i count : UInt32} (hmarks : Marks x i count) : ¬ Padding count i := by
  obtain ⟨call, proof, n, declared, k, d, rem, hlabel, hdata, hi, hkey, hd, rfl⟩ := hmarks
  simpa [Sample.avoidsPadding, hlabel, hdata, namedDist_eq hlabel hkey hd, hi] using h

/-- Both validators of the epoch are settled. -/
theorem leaf_index_declared_iff_epoch :
    ∃ (h : History) (L : RevenueLedger) (d : Distribution) (rem : List (BitVec 8)),
      LedgerRun (Sample.runtime Sample.debts Sample.shares) (Sample.genesis 1000 700) h L ∧
      view ID L Sample.distribution = some (d, rem) ∧ d.totalSolanaValidators = 2 ∧
      d.solanaValidatorPaymentsCount = 1 ∧ d.solanaValidatorWriteOffCount = 1 ∧
      d.solanaValidatorPaymentsCount.toNat + d.solanaValidatorWriteOffCount.toNat ≤
        d.totalSolanaValidators.toNat := by
  obtain ⟨h, L, hrun, -, hP⟩ := Sample.exists_epoch (P := fun h L =>
    h.all Sample.avoidsPadding ∧
      (view (T := Distribution) ID L Sample.distribution).any fun x =>
        x.1.totalSolanaValidators = 2 ∧ x.1.solanaValidatorPaymentsCount = 1 ∧
        x.1.solanaValidatorWriteOffCount = 1) (by decide +kernel)
  obtain ⟨havoids, hany⟩ := of_decide_eq_true hP
  obtain ⟨⟨d, rem⟩, hd, hfacts⟩ := (Option.any_eq_true _ _).1 hany
  obtain ⟨htotal, hpaid, hwrittenOff⟩ := of_decide_eq_true hfacts
  have hle := (leaf_index_declared_iff (Sample.genesis_unused 1000 700) hrun).2
    (fun x hx i count hmarks => Sample.not_padding (List.all_eq_true.1 havoids x hx) hmarks)
    _ d rem hd
  exact ⟨h, L, d, rem, hrun, hd, htotal, hpaid, hwrittenOff, hle⟩

/-- One validator is declared, and the tree has a second leaf: it is marked, and counted. -/
theorem padding_leaf_paid :
    ∃ (h : History) (L L' : RevenueLedger) (d d' : Distribution) (rem rem' : List (BitVec 8)),
      LedgerRun (Sample.runtime [⟨Sample.nodeA, 1⟩, ⟨Sample.nodeA, 1⟩] []) (Sample.genesis 0 0)
        h L ∧
      Step (Sample.runtime [⟨Sample.nodeA, 1⟩, ⟨Sample.nodeA, 1⟩] [])
        (Sample.payDebt 1 1 Sample.depositA).label L L' ∧
      view ID L Sample.distribution = some (d, rem) ∧ d.totalSolanaValidators = 1 ∧
      view ID L' Sample.distribution = some (d', rem') ∧ d'.totalSolanaValidators = 1 ∧
      d'.solanaValidatorPaymentsCount = 2 := by
  obtain ⟨h, L, L', hrun, hstep, hP⟩ := Sample.exists_step_of_replay
    [⟨Sample.nodeA, 1⟩, ⟨Sample.nodeA, 1⟩] [] 0 0 (Sample.opening ++ [Sample.openEpoch,
      Sample.configureDebt 1 2, Sample.finalizeDebt, Sample.payDebt 0 1 Sample.depositA])
    (Sample.payDebt 1 1 Sample.depositA) (P := fun _ L L' =>
      (view (T := Distribution) ID L Sample.distribution).any (fun x =>
        x.1.totalSolanaValidators = 1) ∧
      (view (T := Distribution) ID L' Sample.distribution).any fun x =>
        x.1.totalSolanaValidators = 1 ∧ x.1.solanaValidatorPaymentsCount = 2)
    (by decide +kernel) (by decide +kernel)
  obtain ⟨hbefore, hafter⟩ := of_decide_eq_true hP
  obtain ⟨⟨d, rem⟩, hd, htotal⟩ := (Option.any_eq_true _ _).1 hbefore
  obtain ⟨⟨d', rem'⟩, hd', hfacts⟩ := (Option.any_eq_true _ _).1 hafter
  obtain ⟨htotal', hcount⟩ := of_decide_eq_true hfacts
  exact ⟨h, L, L', d, d', rem, rem', hrun, hstep, hd, of_decide_eq_true htotal, hd', htotal',
    hcount⟩

end DoubleZero.Revenue
