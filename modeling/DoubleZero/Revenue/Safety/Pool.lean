import DoubleZero.Revenue.Invariant.Pool
import DoubleZero.Revenue.Invariant.Totals
import DoubleZero.Revenue.Replay

/-!
# The ledger of a distribution's 2Z

The 2Z in the pool is what was collected less what was distributed and burned. The two counters of a
distribution wrap, and when 2Z is sent back to the pool more can be distributed than was collected,
so the totals here are those of the run: every increment of a counter, added up. Without gifts they
stay below what was collected, and the counters are exact.
-/

namespace DoubleZero.Revenue

open DoubleZero.Lib DoubleZero.Solana

/-- The increments of a counter of one distribution, over a whole history. -/
def increments {σ : Type} (f : σ → Option Distribution) (since : Distribution → Distribution → Nat)
    (h : List (Entry σ Label)) : Nat :=
  (h.map fun x =>
    match f x.before, f x.after with
    | some d, some d' => since d d'
    | _, _ => 0).sum

/-- The 2Z paid to recipients, and burned, by the distribution at an account. -/
def distributedTotal (h : History) (k : Pubkey) : Nat :=
  increments (fun L => (view ID L k).map Prod.fst) Distribution.distributedSince h

def burnedTotal (h : History) (k : Pubkey) : Nat :=
  increments (fun L => (view ID L k).map Prod.fst) Distribution.burnedSince h

/-- Nobody sends 2Z to the pool of the epoch, except an integration that is collected from. -/
def NoGifts (rt : Runtime) (e : DoubleZeroEpoch) (x : Entry RevenueLedger Label) : Prop :=
  match x.label with
  | .call c => c.Spares rt e
  | .outside => Token.unpack x.after (rt.poolKey e) = Token.unpack x.before (rt.poolKey e)

/-- Nobody else takes 2Z out of a pool: neither the programs that a call invokes nor anybody
outside. -/
def TakesNoPool (rt : Runtime) (x : Entry RevenueLedger Label) : Prop :=
  match x.label with
  | .call c => c.Honest rt
  | .outside => (books rt x.before).KeepsPools rt (books rt x.after)

/-- `TakesNoPool`, on the books. -/
def Books.TakesNoPool (rt : Runtime) (x : Entry Books Label) : Prop :=
  match x.label with
  | .call c => c.Honest rt
  | .outside => x.before.KeepsPools rt x.after

/-- `NoGifts`, on the books. -/
def Books.NoGifts (rt : Runtime) (e : DoubleZeroEpoch) (x : Entry Books Label) : Prop :=
  match x.label with
  | .call c => c.Spares rt e
  | .outside => x.after.tokens (rt.poolKey e) = x.before.tokens (rt.poolKey e)

section

variable {rt : Runtime} {e : DoubleZeroEpoch} {b b' b₀ : Books} {h : List (Entry Books Label)}
  {d d' : Distribution} {rem rem' : List (BitVec 8)} {l : Label} {n D B : Nat}

def Books.dist (e : DoubleZeroEpoch) (b : Books) : Option Distribution := (b.distAt e).map Prod.fst

theorem Books.HasDist.dist_eq (hd : b.HasDist d rem) : b.dist d.dzEpoch = some d := by
  rw [Books.dist, hd.distAt]
  rfl

theorem increments_cons_of_none {since : Distribution → Distribution → Nat}
    (hnone : b.dist e = none) :
    increments (Books.dist e) since (⟨b, l, b'⟩ :: h) = increments (Books.dist e) since h := by
  simp [increments, hnone]

theorem increments_cons {since : Distribution → Distribution → Nat} (hd : b.dist e = some d)
    (hd' : b'.dist e = some d') :
    increments (Books.dist e) since (⟨b, l, b'⟩ :: h) =
      since d d' + increments (Books.dist e) since h := by
  simp [increments, hd, hd']

/-- A wrapping counter holds its total modulo `2 ^ 64`. -/
theorem counter_eq {x x' : UInt64} {total : Nat} (hx : x.toNat = total % 2 ^ 64) :
    x'.toNat = ((x' - x).toNat + total) % 2 ^ 64 := by
  have hsum : x'.toNat = ((x' - x) + x).toNat := by rw [UInt64.sub_add_cancel]
  rw [hsum, UInt64.toNat_add, hx, Nat.add_mod_mod]

/-- The 2Z ledger of one distribution, with the totals `D` distributed and `B` burned. -/
structure PoolBalanced (rt : Runtime) (b : Books) (d : Distribution) (D B n : Nat) : Prop where
  holds : b.PoolHolds rt d.dzEpoch n
  distributed_eq : d.distributed2zAmount.toNat = D % 2 ^ 64
  burned_eq : d.burned2zAmount.toNat = B % 2 ^ 64
  covered : d.collected ≤ n + D + B

/-- With nothing from outside the ledger is exact, and the totals have not wrapped. -/
structure PoolExact (d : Distribution) (D B n : Nat) : Prop where
  exact : d.collected = n + D + B
  small : D + B < 2 ^ 64

theorem PoolBalanced.step {gift n' : Nat} (h : PoolBalanced rt b d D B n)
    (hstep : PoolStep rt b b' d n gift d' rem' n') :
    PoolBalanced rt b' d' (d.distributedSince d' + D) (d.burnedSince d' + B) n' := by
  refine ⟨hstep.epoch ▸ hstep.holds, counter_eq h.distributed_eq, counter_eq h.burned_eq, ?_⟩
  have hbalanced := hstep.balanced
  have hcovered := h.covered
  omega

theorem PoolExact.step {n' : Nat} (h : PoolExact d D B n)
    (hstep : PoolStep rt b b' d n 0 d' rem' n') :
    PoolExact d' (d.distributedSince d' + D) (d.burnedSince d' + B) n' := by
  have hbalanced := hstep.balanced
  have hexact := h.exact
  refine ⟨by omega, ?_⟩
  rcases hstep.paid with ⟨hdistributed, hburned⟩ | hlt
  · have hsmall := h.small
    omega
  · omega

/-- The ledger of every distribution, along a run. -/
structure PoolsBalanced (rt : Runtime) (h : List (Entry Books Label)) (b : Books) : Prop where
  absent : ∀ {e}, b.entry (.distribution e) = none →
    increments (Books.dist e) Distribution.distributedSince h = 0 ∧
      increments (Books.dist e) Distribution.burnedSince h = 0
  present : ∀ {d rem}, b.HasDist d rem → ∃ n,
    PoolBalanced rt b d (increments (Books.dist d.dzEpoch) Distribution.distributedSince h)
      (increments (Books.dist d.dzEpoch) Distribution.burnedSince h) n ∧
    ((∀ x ∈ h, Books.NoGifts rt d.dzEpoch x) →
      PoolExact d (increments (Books.dist d.dzEpoch) Distribution.distributedSince h)
        (increments (Books.dist d.dzEpoch) Distribution.burnedSince h) n)

/-- A step that leads one distribution and its pool on. -/
theorem PoolsBalanced.next {gift n' : Nat} (hb : PoolsBalanced rt h b) (hd : b.HasDist d rem)
    (hholds : b.PoolHolds rt d.dzEpoch n) (hstep : PoolStep rt b b' d n gift d' rem' n')
    (hgift : Books.NoGifts rt d.dzEpoch ⟨b, l, b'⟩ → gift = 0) : ∃ n,
    PoolBalanced rt b' d'
      (increments (Books.dist d'.dzEpoch) Distribution.distributedSince (⟨b, l, b'⟩ :: h))
      (increments (Books.dist d'.dzEpoch) Distribution.burnedSince (⟨b, l, b'⟩ :: h)) n ∧
    ((∀ x ∈ (⟨b, l, b'⟩ :: h : List (Entry Books Label)), Books.NoGifts rt d'.dzEpoch x) →
      PoolExact d'
        (increments (Books.dist d'.dzEpoch) Distribution.distributedSince (⟨b, l, b'⟩ :: h))
        (increments (Books.dist d'.dzEpoch) Distribution.burnedSince (⟨b, l, b'⟩ :: h)) n) := by
  obtain ⟨m, hbalanced, hexact⟩ := hb.present hd
  cases hbalanced.holds.unique hholds
  have hdist' : b'.dist d.dzEpoch = some d' := hstep.epoch ▸ hstep.has.dist_eq
  rw [hstep.epoch, increments_cons hd.dist_eq hdist', increments_cons hd.dist_eq hdist']
  refine ⟨n', hbalanced.step hstep, fun hall => ?_⟩
  obtain rfl := hgift (hall _ List.mem_cons_self)
  exact (hexact fun x hx => hall x (List.mem_cons_of_mem _ hx)).step hstep

theorem BooksRun.poolsBalanced (hrun : BooksRun rt b₀ h b) (hempty : b₀.Empty)
    (hhonest : ∀ x ∈ h, Books.TakesNoPool rt x) : PoolsBalanced rt h b := by
  refine hrun.history (P := fun h b => (∀ x ∈ h, Books.TakesNoPool rt x) → PoolsBalanced rt h b) ?_ ?_
    hhonest
  · intro _
    refine ⟨fun _ => ⟨rfl, rfl⟩, fun hd => absurd hd ?_⟩
    simp [Books.HasDist, hempty _]
  · intro h b l b' hr ih hs hhonest
    have hb := ih fun x hx => hhonest x (List.mem_cons_of_mem _ hx)
    have hdist : ∀ {e}, b.entry (.distribution e) = none → b.dist e = none := by
      intro e hnone
      rw [Books.dist, Books.distAt, hnone]
      rfl
    cases hs with
    | @call c _ _ ht =>
      refine ⟨fun hnone => ?_, fun {d' rem'} hd' => ?_⟩
      · have hold := ht.none_of hnone
        rw [increments_cons_of_none (hdist hold), increments_cons_of_none (hdist hold)]
        exact hb.absent hold
      · cases hold : b.entry (.distribution d'.dzEpoch) with
        | none =>
          obtain ⟨hholds, hdistributed, hburned⟩ := ht.pool_new hold hd'
          obtain ⟨hD, hB⟩ := hb.absent hold
          rw [increments_cons_of_none (hdist hold), increments_cons_of_none (hdist hold), hD, hB]
          refine ⟨_, ⟨hholds, ?_, ?_, le_rfl⟩, fun _ => ⟨rfl, by simp⟩⟩
          · rw [hdistributed]
            rfl
          · rw [hburned]
            rfl
        | some p =>
          obtain ⟨d, -, hepoch, hd⟩ := (BooksRun.proper hr hempty).dist hold
          obtain ⟨m, hbalanced, -⟩ := hb.present hd
          obtain ⟨d₁, rem₁, n', gift, hstep, hgift⟩ := ht.pool
            (hhonest _ List.mem_cons_self) (BooksRun.valid hr hempty hd) hd hbalanced.holds
          obtain ⟨rfl, rfl⟩ := hstep.has.unique hd' (hstep.epoch.trans hepoch).symm
          exact hb.next hd hbalanced.holds hstep hgift
    | outside hforeign =>
      refine ⟨fun hnone => ?_, fun {d rem} hd' => ?_⟩
      · rw [hforeign.entry_eq] at hnone
        rw [increments_cons_of_none (hdist hnone), increments_cons_of_none (hdist hnone)]
        exact hb.absent hnone
      · have hd : b.HasDist d rem := (congrFun hforeign.entry_eq _).symm.trans hd'
        obtain ⟨m, hbalanced, -⟩ := hb.present hd
        have hkeeps : b.KeepsPools rt b' := hhonest _ List.mem_cons_self
        obtain ⟨gift, hholds'⟩ := hkeeps _ _ hbalanced.holds
        refine hb.next hd hbalanced.holds (.of_same hd' rfl hholds' rfl rfl rfl) fun hsame => ?_
        have heq := hholds'.unique (hbalanced.holds.of_eq hsame)
        omega

end

/-! ## On the ledger -/

theorem dist_books {rt : Runtime} (e : DoubleZeroEpoch) (L : RevenueLedger) :
    Books.dist e (books rt L) =
      (view (T := Distribution) ID L (rt.distributionKey e)).map Prod.fst := by
  rw [Books.dist, view_distribution]

theorem increments_map {rt : Runtime} (e : DoubleZeroEpoch)
    (since : Distribution → Distribution → Nat) (h : History) :
    increments (Books.dist e) since (h.map (Entry.map (books rt))) =
      increments (fun L => (view ID L (rt.distributionKey e)).map Prod.fst) since h := by
  unfold increments
  rw [List.map_map]
  congr 1
  refine List.map_congr_left fun x _ => ?_
  simp only [Function.comp, Entry.map, dist_books]

theorem pool_ledger {rt : Runtime} {L₀ L : RevenueLedger} {h : History} {k : Pubkey}
    {d : Distribution} {rem : List (BitVec 8)} (hg : Genesis rt L₀) (hrun : LedgerRun rt L₀ h L)
    (hhonest : ∀ x ∈ h, TakesNoPool rt x) (hd : view ID L k = some (d, rem)) :
    ∃ a, Token.unpack L (rt.find2zTokenPdaAddress k).1 = some a ∧
      d.distributed2zAmount.toNat = distributedTotal h k % 2 ^ 64 ∧
      d.burned2zAmount.toNat = burnedTotal h k % 2 ^ 64 ∧
      d.collectedPrepaid2zPayments.toNat + d.collected2zConvertedFromSol.toNat +
        d.collected2zFromIntegrations.toNat ≤
          a.amount.toNat + distributedTotal h k + burnedTotal h k ∧
      ((∀ x ∈ h, NoGifts rt d.dzEpoch x) →
        d.collectedPrepaid2zPayments.toNat + d.collected2zConvertedFromSol.toNat +
          d.collected2zFromIntegrations.toNat =
            a.amount.toNat + d.distributed2zAmount.toNat + d.burned2zAmount.toNat) := by
  obtain ⟨hc, hbooks⟩ := hrun.books hg
  obtain ⟨hk, has, -, -⟩ := hc.of_view hd
  have hk : k = rt.distributionKey d.dzEpoch := hk
  have hb := hbooks.poolsBalanced hg.books_empty fun x hx => by
    obtain ⟨y, hy, rfl⟩ := List.mem_map.1 hx
    exact hhonest y hy
  obtain ⟨n, hbalanced, hexact⟩ := hb.present has
  have hdistributed : increments (Books.dist d.dzEpoch) Distribution.distributedSince
      (h.map (Entry.map (books rt))) = distributedTotal h k := by
    rw [increments_map, distributedTotal, hk]
  have hburned : increments (Books.dist d.dzEpoch) Distribution.burnedSince
      (h.map (Entry.map (books rt))) = burnedTotal h k := by
    rw [increments_map, burnedTotal, hk]
  rw [hdistributed, hburned] at hbalanced hexact
  obtain ⟨a, ha, -, hamount⟩ := hbalanced.holds
  refine ⟨a, ?_, hbalanced.distributed_eq, hbalanced.burned_eq, ?_, fun hnone => ?_⟩
  · rw [hk]
    exact ha
  · rw [hamount]
    exact hbalanced.covered
  · have hexact := hexact fun x hx => by
      obtain ⟨y, hy, rfl⟩ := List.mem_map.1 hx
      exact hnone y hy
    have hsmall := hexact.small
    rw [hamount, hbalanced.distributed_eq, hbalanced.burned_eq, Nat.mod_eq_of_lt (by omega),
      Nat.mod_eq_of_lt (by omega)]
    exact hexact.exact

/-- Whoever moves tokens in a replay takes nothing out of a pool. -/
theorem Event.Replayed.takesNoPool {rt : Runtime} {e : Event} {x : Entry RevenueLedger Label}
    (h : e.Replayed rt x) : TakesNoPool rt x := by
  unfold TakesNoPool
  split
  · next call hcall =>
    intro L L' returnData hcpi
    have hkeeps : (books rt L).KeepsTokens rt (books rt L') :=
      Event.cpi_keepsTokens h.unsigned (h.label_eq.symm.trans hcall) hcpi
    exact hkeeps.pools
  · next hlabel =>
    have hkeeps : (books rt x.before).KeepsTokens rt (books rt x.after) := h.sparesTokens hlabel
    exact hkeeps.pools

theorem pool_ledger_epoch :
    ∃ (h : History) (L : RevenueLedger) (d : Distribution) (rem : List (BitVec 8))
      (a : TokenAccount),
      LedgerRun (Sample.runtime Sample.debts Sample.shares) (Sample.genesis 1000 700) h L ∧
      view ID L Sample.distribution = some (d, rem) ∧
      Token.unpack L Sample.pool = some a ∧
      d.distributed2zAmount = 1980 ∧ d.burned2zAmount = 220 ∧
      d.collectedPrepaid2zPayments.toNat + d.collected2zConvertedFromSol.toNat +
        d.collected2zFromIntegrations.toNat ≤
          a.amount.toNat + distributedTotal h Sample.distribution +
            burnedTotal h Sample.distribution := by
  obtain ⟨h, L, hrun, hlabels, hP⟩ := Sample.exists_epoch (P := fun _ L =>
    (view (T := Distribution) ID L Sample.distribution).any fun x =>
      x.1.distributed2zAmount = 1980 ∧ x.1.burned2zAmount = 220) (by decide +kernel)
  obtain ⟨⟨d, rem⟩, hd, hfacts⟩ := (Option.any_eq_true _ _).1 hP
  obtain ⟨hdistributed, hburned⟩ := of_decide_eq_true hfacts
  have hhonest : ∀ x ∈ h, TakesNoPool (Sample.runtime Sample.debts Sample.shares) x := by
    intro x hx
    obtain ⟨e, -, hreplayed⟩ := hlabels x hx
    exact hreplayed.takesNoPool
  have hpool : ((Sample.runtime Sample.debts Sample.shares).find2zTokenPdaAddress
      Sample.distribution).1 = Sample.pool := by decide +kernel
  obtain ⟨a, ha, -, -, hle, -⟩ := pool_ledger (Sample.genesis_unused 1000 700) hrun hhonest hd
  rw [hpool] at ha
  exact ⟨h, L, d, rem, a, hrun, hd, ha, hdistributed, hburned, hle⟩

/-- Two leaves of the whole pool. -/
def Sample.greedyShares : List RewardShare :=
  [⟨Sample.service, 1000000000, 0⟩, ⟨Sample.service, 1000000000, 0⟩]

/-- The recipient of the first leaf sends its reward back, and the second leaf takes the pool
again: the counter of what was distributed wraps. -/
theorem pool_counters_wrap :
    ∃ (h : History) (L : RevenueLedger) (d : Distribution) (rem : List (BitVec 8))
      (a : TokenAccount),
      LedgerRun (Sample.runtime [] Sample.greedyShares) (Sample.genesis 13835058055282163712
        1383505805528216371) h L ∧
      (∀ x ∈ h, TakesNoPool (Sample.runtime [] Sample.greedyShares) x) ∧
      view ID L Sample.distribution = some (d, rem) ∧ Token.unpack L Sample.pool = some a ∧
      a.amount.toNat + d.distributed2zAmount.toNat + d.burned2zAmount.toNat <
        d.collectedPrepaid2zPayments.toNat + d.collected2zConvertedFromSol.toNat +
          d.collected2zFromIntegrations.toNat := by
  obtain ⟨h, L, hrun, hlabels, hP⟩ := Sample.exists_run_of_replay [] Sample.greedyShares
    13835058055282163712 1383505805528216371 (Sample.opening ++ [Sample.openEpoch, Sample.finalizeDebt,
      Sample.configureRewards 2 ⟨2⟩, Sample.finalizeRewards, Sample.sweep 0 0,
      Sample.distribute 0 1000000000,
      .outside (.tokens Sample.recipientAta Sample.pool Sample.recipient 12451552249753947341),
      .outside (.tokens Sample.buyerToken Sample.pool Sample.buyer 1383505805528216371),
      Sample.distribute 1 1000000000])
    (P := fun _ L => (view (T := Distribution) ID L Sample.distribution).any fun x =>
      (Token.unpack L Sample.pool).any fun a =>
        a.amount.toNat + x.1.distributed2zAmount.toNat + x.1.burned2zAmount.toNat <
          x.1.collectedPrepaid2zPayments.toNat + x.1.collected2zConvertedFromSol.toNat +
            x.1.collected2zFromIntegrations.toNat)
    (by decide +kernel) (by decide +kernel)
  obtain ⟨⟨d, rem⟩, hd, hpool⟩ := (Option.any_eq_true _ _).1 hP
  obtain ⟨a, ha, hlt⟩ := (Option.any_eq_true _ _).1 hpool
  refine ⟨h, L, d, rem, a, hrun, fun x hx => ?_, hd, ha, of_decide_eq_true hlt⟩
  obtain ⟨e, -, hreplayed⟩ := hlabels x hx
  exact hreplayed.takesNoPool

end DoubleZero.Revenue
