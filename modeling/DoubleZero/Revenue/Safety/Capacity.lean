import DoubleZero.Revenue.Safety.Integration

/-!
# The capacity of the integration bitmap

A distribution marks the integrations it collected in a bitmap of 512 bits, and the gate before the
rewards opens when as many are marked as the snapshot counts. Registration is bounded only by the
16 bits of its counter. A snapshot above 512 can therefore never be reached; one up to 512 always
can, by calls of the program as long as it runs and the pool exists.
-/

namespace DoubleZero.Revenue

open DoubleZero.Lib DoubleZero.Solana

/-- Every registration index below the snapshot has a bit. -/
def Distribution.HasCapacity (d : Distribution) : Prop :=
  ∀ index < d.integrationsCountSnapshot, (d.checkedIsIntegrationCollected index).isSome = true

/-- A collection, from whichever integration and whatever it sends. -/
def Collects (rt : Runtime) (s s' : DistState) : Prop :=
  ∃ index amount, DistStep rt (.collect index amount) s s'

/-- Some collections, one after the other, open the gate. -/
def CanOpen (rt : Runtime) (s : DistState) : Prop :=
  ∃ s', Relation.ReflTransGen (Collects rt) s s' ∧ s'.1.areAllIntegrationsCollected = true

section

variable {rt : Runtime} {d : Distribution} {rem : List (BitVec 8)} {b b' b₀ : Books}
  {h : List (Entry Books Label)}

theorem checkedIsIntegrationCollected_isSome {index : UInt16} :
    (d.checkedIsIntegrationCollected index).isSome = true ↔ index.toNat < 512 := by
  rw [Option.isSome_iff_exists]
  constructor
  · rintro ⟨v, hv⟩
    exact (isIntegrationCollected_eq_some.1 hv).1
  · intro hlt
    exact ⟨_, isIntegrationCollected_eq_some.2 ⟨hlt, rfl⟩⟩

theorem Distribution.hasCapacity_iff :
    d.HasCapacity ↔ d.integrationsCountSnapshot.toNat ≤ 512 := by
  constructor
  · intro hall
    by_contra hlt
    have hindex := checkedIsIntegrationCollected_isSome.1
      (hall 512 (UInt16.lt_iff_toNat_lt.2 (Nat.lt_of_not_le hlt)))
    exact absurd hindex (by decide)
  · intro hle index hindex
    exact checkedIsIntegrationCollected_isSome.2
      ((UInt16.lt_iff_toNat_lt.1 hindex).trans_le hle)

/-- With a closed gate there is an index below the snapshot whose bit is clear. -/
theorem Gate.exists_pending (hg : Gate d) (hopen : ¬d.areAllIntegrationsCollected = true) :
    ∃ n < d.integrationsCountSnapshot.toNat, bit d.collectedIntegrationsBitmap n = false := by
  by_contra hnone
  refine hopen (hg.areAllIntegrationsCollected_iff.2 fun n hn => ?_)
  by_contra hbit
  exact hnone ⟨n, hn, by simpa using hbit⟩

/-- And the counter is below the snapshot, so that one more can be counted. -/
theorem Distribution.exists_count (hopen : ¬d.areAllIntegrationsCollected = true) :
    d.integrationsCollectedCount.toNat < d.integrationsCountSnapshot.toNat ∧
      ∃ count, checkedAdd16 d.integrationsCollectedCount 1 = some count ∧
        count.toNat = d.integrationsCollectedCount.toNat + 1 := by
  have hlt : d.integrationsCollectedCount.toNat < d.integrationsCountSnapshot.toNat := by
    rw [Distribution.areAllIntegrationsCollected, decide_eq_true_eq] at hopen
    exact UInt16.lt_iff_toNat_lt.1 (UInt16.not_le.1 hopen)
  have hfits := (Nat.succ_le_of_lt hlt).trans_lt d.integrationsCountSnapshot.toNat_lt
  have hcount : (d.integrationsCollectedCount + 1).toNat =
      d.integrationsCollectedCount.toNat + 1 := by
    rw [UInt16.toNat_add, Nat.mod_eq_of_lt]
    · rfl
    · exact hfits
  exact ⟨hlt, _, checkedAdd16_eq_some.2 ⟨hfits, hcount⟩, hcount⟩

/-- The distribution after a collection that brought nothing. -/
def Distribution.marked (d : Distribution) (index count : UInt16) : Distribution :=
  { d with
    integrationsCollectedCount := count
    collectedIntegrationsBitmap := setBit d.collectedIntegrationsBitmap index.toNat true }

/-- With a closed gate there is an index to collect. -/
theorem Gate.exists_collect (hg : Gate d) (hle : d.integrationsCountSnapshot.toNat ≤ 512)
    (hopen : ¬d.areAllIntegrationsCollected = true) : ∃ d', Collects rt (d, rem) (d', rem) ∧
      d'.integrationsCountSnapshot = d.integrationsCountSnapshot ∧
      d'.integrationsCollectedCount.toNat = d.integrationsCollectedCount.toNat + 1 ∧
      d.integrationsCollectedCount.toNat < d.integrationsCountSnapshot.toNat := by
  obtain ⟨n, hn, hbit⟩ := hg.exists_pending hopen
  obtain ⟨hlt, count, hcount, hcount'⟩ := Distribution.exists_count hopen
  have hindex : (UInt16.ofNat n).toNat = n :=
    UInt16.toNat_ofNat_of_lt' (hn.trans d.integrationsCountSnapshot.toNat_lt)
  have hsnapshot : UInt16.ofNat n < d.integrationsCountSnapshot := by
    rwa [UInt16.lt_iff_toNat_lt, hindex]
  have hsum : checkedAdd d.collected2zFromIntegrations 0 = some d.collected2zFromIntegrations :=
    checkedAdd_eq_some.2 ⟨d.collected2zFromIntegrations.toNat_lt, rfl⟩
  refine ⟨d.marked (UInt16.ofNat n) count, ⟨UInt16.ofNat n, 0, .collect (by simpa using hopen)
    hsnapshot ?_ ?_ hsum hcount⟩, rfl, hcount', hlt⟩
  · rw [hindex]
    exact hn.trans_le hle
  · rw [hindex]
    exact hbit

theorem Gate.canOpen (hg : Gate d) (hle : d.integrationsCountSnapshot.toNat ≤ 512) :
    CanOpen rt (d, rem) := by
  refine exists_reach (I := fun s => Gate s.1 ∧ s.1.integrationsCountSnapshot.toNat ≤ 512)
    (fun s => s.1.integrationsCountSnapshot.toNat - s.1.integrationsCollectedCount.toNat) ?_
    ⟨hg, hle⟩
  rintro ⟨d, rem⟩ ⟨hg, hle⟩ hopen
  dsimp only at hg hle hopen
  obtain ⟨d', ⟨index, amount, hstep⟩, hsnapshot, hcount, hlt⟩ := hg.exists_collect hle hopen
  refine ⟨(d', rem), ⟨index, amount, hstep⟩, ⟨hg.collect hstep, ?_⟩, ?_⟩
  · rw [hsnapshot]
    exact hle
  · dsimp only
    rw [hsnapshot, hcount]
    omega

/-- Collections keep the snapshot, and the gate honest. -/
theorem Gate.collects {s s' : DistState} (hg : Gate s.1)
    (hreach : Relation.ReflTransGen (Collects rt) s s') :
    Gate s'.1 ∧ s'.1.integrationsCountSnapshot = s.1.integrationsCountSnapshot := by
  induction hreach with
  | refl => exact ⟨hg, rfl⟩
  | tail _ hlast ih =>
    obtain ⟨index, amount, hstep⟩ := hlast
    exact ⟨ih.1.collect hstep, hstep.collected.1.trans ih.2⟩

theorem Gate.canOpen_iff (hg : Gate d) :
    CanOpen rt (d, rem) ↔ d.integrationsCountSnapshot.toNat ≤ 512 := by
  refine ⟨?_, hg.canOpen⟩
  rintro ⟨s', hreach, hopen⟩
  obtain ⟨hg', hsame⟩ := Gate.collects (s := (d, rem)) hg hreach
  by_contra hlt
  have hbit := hg'.areAllIntegrationsCollected_iff.1 hopen 512 (by
    rw [hsame]
    exact Nat.lt_of_not_le hlt)
  rw [bit_of_ge _ le_rfl] at hbit
  cases hbit

/-- The call counts the integrations for a distribution: a new one, or one that is migrated. -/
def Call.TakesSnapshot (call : Call) : Prop :=
  call.data = .initializeDistribution ∨
    call.data = .migrateProgramAccounts ∧ 3 < call.accounts.length

/-- Such a call leaves a distribution with the count the journal had. -/
theorem Transition.takesSnapshot {call : Call} {j : Journal} {jrem : List (BitVec 8)}
    (ht : Transition rt call b b') (htakes : call.TakesSnapshot)
    (hj : b.entry .journal = some (.journal j, jrem)) :
    ∃ d rem, b'.HasDist d rem ∧ d.integrationsCountSnapshot = j.integrationsCount := by
  rcases htakes with hdata | ⟨hdata, hlisted⟩
  · cases ht with
    | @initializeDistribution c c' crem jrem' j' rate d prepaid lamports b₁ data config unpaused
        signed journal new advanced initialized =>
      cases hj.symm.trans journal
      exact ⟨d, [], Books.set_entry_self .., initialized.snapshot_eq⟩
    | _ => simp [‹call.data = _›] at hdata
  · cases ht with
    | migrate data journal migrated =>
      cases hj.symm.trans journal
      have hpos : 0 < (call.accounts.drop 3).length := by simpa using hlisted
      have hmem : (call.accounts.drop 3).get ⟨0, hpos⟩ ∈ call.accounts.drop 3 := List.get_mem ..
      obtain ⟨d, rem, d', rem', -, -, hstep, has'⟩ := migrated.listed _ (List.mem_map_of_mem hmem)
      refine ⟨d', rem', has', ?_⟩
      cases hstep with
      | migrate _ => rfl
    | _ => simp [‹call.data = _›] at hdata

/-- Snapshots are within what was counted when they were taken. -/
theorem BooksRun.snapshot_le {bound : Nat} (hrun : BooksRun rt b₀ h b) (hempty : b₀.Empty)
    (hbound : ∀ x ∈ h, ∀ {call j jrem}, x.label = .call call → call.TakesSnapshot →
      x.before.entry .journal = some (.journal j, jrem) → j.integrationsCount.toNat ≤ bound)
    (hd : b.HasDist d rem) : d.integrationsCountSnapshot.toNat ≤ bound := by
  refine hrun.dist_induction (P := fun s => s.1.integrationsCountSnapshot.toNat ≤ bound) hempty
    ?_ ?_ hd
  · intro x hx call c j jrem prepaid d hlabel hdata hj hi
    rw [hi.snapshot_eq]
    exact hbound x hx hlabel (.inl hdata) hj
  · intro x hx call d rem a s s' hlabel has hdoes hmid hstep hle
    by_cases ha : ∃ index amount, a = .collect index amount
    · obtain ⟨index, amount, rfl⟩ := ha
      rwa [hstep.collected.1]
    · obtain ⟨-, -, hsame | hmigrate⟩ := hstep.collection fun index amount h =>
        ha ⟨index, amount, h⟩
      · rwa [hsame]
      · generalize s'.1.integrationsCountSnapshot = n at hmigrate ⊢
        subst hmigrate
        cases hdoes with
        | migrate data journal listed =>
          refine hbound x hx hlabel (.inr ⟨data, ?_⟩) journal
          obtain ⟨m, hm, -⟩ := List.mem_map.1 listed
          have hlength := List.length_pos_of_mem hm
          rw [List.length_drop] at hlength
          omega

end

/-! ## Collecting with calls -/

/-- A call that collects into the distribution at `k`. -/
def CallCollects (rt : Runtime) (k : Pubkey) (L L' : RevenueLedger) : Prop :=
  ∃ call : Call, call.data = .collectIntegrationRewards ∧ call.key? 1 = some k ∧
    Step rt (.call call) L L'

/-- Some calls, one after the other, open the gate of the distribution at `k`. -/
def CallsCanOpen (rt : Runtime) (k : Pubkey) (L : RevenueLedger) : Prop :=
  ∃ L', Relation.ReflTransGen (CallCollects rt k) L L' ∧
    ∃ (d : Distribution) (rem : List (BitVec 8)), view ID L' k = some (d, rem) ∧
      d.areAllIntegrationsCollected = true

/-- The program runs, and the pool of the distribution is a token account. -/
structure Collectable (rt : Runtime) (L : RevenueLedger) (d : Distribution) : Prop where
  running : ∃ (k : Pubkey) (c : ProgramConfig) (rem : List (BitVec 8)),
    view ID L k = some (c, rem) ∧ c.isPaused = false
  pool : ∃ a, (L (rt.poolKey d.dzEpoch)).data = .token a

section

variable {rt : Runtime} {L L' L₀ : RevenueLedger} {k : Pubkey} {d : Distribution}
  {rem : List (BitVec 8)} {h : History}

theorem CallCollects.collects (hc : Canonical rt L) (hd : view ID L k = some (d, rem))
    (hcall : CallCollects rt k L L') : Canonical rt L' ∧
      ∃ (d' : Distribution) (rem' : List (BitVec 8)), view ID L' k = some (d', rem') ∧
        Collects rt (d, rem) (d', rem') := by
  obtain ⟨call, hdata, hkey, hstep⟩ := hcall
  obtain ⟨hk, has, -⟩ := hc.of_view hd
  have has : (books rt L).HasDist d rem := has
  obtain ⟨hc', hbook⟩ := step_refines hc hstep
  refine ⟨hc', ?_⟩
  generalize hb : books rt L' = b' at hbook
  cases hbook with
  | call ht =>
    cases ht with
    | @collect c d₁ d' rem₁ rem' irem i amount b₁ data running has' integration keyDist
        keyIntegration invokes foreign delta step =>
      obtain rfl := Option.some.inj (hkey.symm.trans keyDist)
      have hepoch := Runtime.distributionKey_inj.1 hk
      obtain ⟨rfl, rfl⟩ := has.unique has' hepoch
      have hd' : (books rt L').HasDist d' rem' := by
        rw [hb]
        exact Books.set_entry_self ..
      have hepoch' : d'.dzEpoch = d₁.dzEpoch := step.fixed.1
      refine ⟨d', rem', view_eq_stateAt.2 ?_, _, _, step⟩
      rw [← hepoch']
      exact hd'
    | _ => simp [‹call.data = _›] at hdata

theorem CallCollects.run (hc : Canonical rt L) (hd : view ID L k = some (d, rem))
    (hrun : Relation.ReflTransGen (CallCollects rt k) L L') : Canonical rt L' ∧
      ∃ (d' : Distribution) (rem' : List (BitVec 8)), view ID L' k = some (d', rem') ∧
        Relation.ReflTransGen (Collects rt) (d, rem) (d', rem') := by
  induction hrun with
  | refl => exact ⟨hc, d, rem, hd, .refl⟩
  | tail _ hlast ih =>
    obtain ⟨hc₁, d₁, rem₁, hd₁, hreach⟩ := ih
    obtain ⟨hc', d', rem', hd', hcollects⟩ := hlast.collects hc₁ hd₁
    exact ⟨hc', d', rem', hd', hreach.tail hcollects⟩

/-- A collection from the integration `i` at `ki`, which sends nothing. -/
def collectCall (rt : Runtime) (kc k ki : Pubkey) (d : Distribution) (i : RewardsIntegration) :
    Call :=
  ⟨.collectIntegrationRewards, [⟨kc, false, false⟩, ⟨k, false, true⟩, ⟨ki, false, false⟩,
    ⟨i.programId, false, false⟩, ⟨i.programId, false, false⟩, ⟨rt.poolKey d.dzEpoch, false, true⟩,
    ⟨i.programId, false, false⟩, ⟨tokenProgramId, false, false⟩],
    ⟨0, none, fun L => .ok (L, none)⟩⟩

/-- With nothing in the way the call succeeds. -/
theorem process_collectCall {kc ki : Pubkey} {c : ProgramConfig} {i : RewardsIntegration}
    {crem irem : List (BitVec 8)} {a : TokenAccount} {count : UInt16} (hc : Canonical rt L)
    (hconfig : view ID L kc = some (c, crem)) (hrunning : c.isPaused = false)
    (hd : view ID L k = some (d, rem)) (hi : view ID L ki = some (i, irem))
    (hopen : d.areAllIntegrationsCollected = false)
    (hsnapshot : i.registrationIndex < d.integrationsCountSnapshot)
    (hcapacity : i.registrationIndex.toNat < 512)
    (hpending : bit d.collectedIntegrationsBitmap i.registrationIndex.toNat = false)
    (hpool : (L (rt.poolKey d.dzEpoch)).data = .token a)
    (hcount : checkedAdd16 d.integrationsCollectedCount 1 = some count) :
    process rt (collectCall rt kc k ki d i) L =
      .ok (L.write k (.zeroCopy (.distribution (d.marked i.registrationIndex count)) rem)) := by
  obtain ⟨rfl, -, -, hbump, hpoolBump⟩ := hc.of_view hd
  have hexpected : rt.expected2zTokenPda (rt.distributionKey d.dzEpoch)
      (some d.token2zPdaBumpSeed) = some (rt.poolKey d.dzEpoch, d.token2zPdaBumpSeed) := by
    have hcreate : rt.checked2zTokenPdaAddress (rt.distributionKey d.dzEpoch)
        d.token2zPdaBumpSeed = some (rt.poolKey d.dzEpoch) := by
      rw [hpoolBump]
      exact Runtime.create_find _
    rw [Runtime.expected2zTokenPda, hcreate]
    rfl
  have hauthority : rt.create (Distribution.seeds d.dzEpoch) d.bumpSeed =
      some (rt.distributionKey d.dzEpoch) := by
    rw [hbump]
    exact Runtime.create_find _
  have hsum : checkedAdd d.collected2zFromIntegrations (a.amount - a.amount) =
      some d.collected2zFromIntegrations := by
    rw [UInt64.sub_self]
    exact checkedAdd_eq_some.2 ⟨d.collected2zFromIntegrations.toNat_lt, rfl⟩
  refine process_eq_ok.2 ?_
  simp only [tryProcessInstruction, collectCall, tryCollectIntegrationRewards, ↓zeroCopy_bind_ok,
    ProgramConfig.tryRequireUnpaused, ↓require_bind_ok, ↓zeroCopyMut_bind_ok, ↓okOr_bind_ok,
    ↓tryNext_bind_ok, accepts_default, true_and, ↓tokenPda_bind_ok, ↓tokenAmount_bind_ok,
    ↓invokeForeign_bind_ok, ↓unwrap!_bind_ok, store_eq_ok, isIntegrationCollected_eq_some,
    setIntegrationCollected_eq_some, Exec.advance_iter, Exec.advance_ledger, Exec.info_key,
    Call.exec_iter, Call.exec_ledger]
  exact ⟨_, ⟨_, _, rfl, c, crem, hconfig, hrunning, _, _, rfl, rfl, d, rem, hd, hopen, _, _, rfl, i,
    irem, hi, hsnapshot, _, ⟨hcapacity, hpending⟩, rfl, _, _, rfl, _, _, rfl, _, _, rfl, _,
    hexpected, a, hpool, _, hauthority, L, none, rfl, a, hpool, _, hsum, count, hcount, _,
    ⟨hcapacity, rfl⟩, rfl⟩, rfl⟩

/-- The states from which calls can go on collecting into the distribution at `k`. -/
def CollectableAt (rt : Runtime) (L₀ : RevenueLedger) (k : Pubkey) (L : RevenueLedger) : Prop :=
  (∃ h, LedgerRun rt L₀ h L) ∧ ∃ (d : Distribution) (rem : List (BitVec 8)),
    view ID L k = some (d, rem) ∧ d.integrationsCountSnapshot.toNat ≤ 512 ∧ Collectable rt L d

/-- How many integrations the distribution at `k` has yet to collect. -/
def uncollected (k : Pubkey) (L : RevenueLedger) : Nat :=
  ((view (T := Distribution) ID L k).map fun s =>
    s.1.integrationsCountSnapshot.toNat - s.1.integrationsCollectedCount.toNat).getD 0

theorem CollectableAt.collect (hg : Genesis rt L₀) (hL : CollectableAt rt L₀ k L)
    (hclosed : ¬∃ (d : Distribution) (rem : List (BitVec 8)), view ID L k = some (d, rem) ∧
      d.areAllIntegrationsCollected = true) :
    ∃ L', CallCollects rt k L L' ∧ CollectableAt rt L₀ k L' ∧ uncollected k L' < uncollected k L := by
  obtain ⟨⟨h, hrun⟩, d, rem, hd, hle, ⟨kc, c, crem, hconfig, hrunning⟩, a, hpool⟩ := hL
  obtain ⟨hc, hbooks⟩ := LedgerRun.books hg hrun
  obtain ⟨hk, has, howner, -⟩ := hc.of_view hd
  have hopen : ¬d.areAllIntegrationsCollected = true := fun hall => hclosed ⟨d, rem, hd, hall⟩
  have hgated := hbooks.gated hg.books_empty
  obtain ⟨n, hn, hpending⟩ := (hgated.gate has).exists_pending hopen
  obtain ⟨i, ⟨irem, hi⟩, rfl⟩ := hgated.registered.complete (hn.trans_le (hgated.snapshot_le has))
  obtain ⟨hlt, count, hcount, hcount'⟩ := Distribution.exists_count hopen
  have hprocess := process_collectCall hc hconfig hrunning hd (view_eq_stateAt.2 hi)
    (by simpa using hopen) (UInt16.lt_iff_toNat_lt.2 hn) (hn.trans_le hle) hpending hpool hcount
  generalize hL' : L.write k _ = L' at hprocess
  have hstep : Step rt (.call (collectCall rt kc k _ d i)) L L' :=
    .call (fun L L' returnData hcpi => by cases hcpi; exact .refl) hprocess
  have hd' : view ID L' k = some (d.marked i.registrationIndex count, rem) := by
    rw [← hL', view_eq_stateAt]
    exact (stateAt_write L k k _ rem howner).trans (if_pos rfl)
  refine ⟨L', ⟨_, rfl, rfl, hstep⟩, ⟨⟨_, .next hrun hstep⟩, _, rem, hd', hle, ⟨kc, c, crem, ?_,
    hrunning⟩, a, ?_⟩, ?_⟩
  · have hne : kc ≠ k := by
      rintro rfl
      cases (view_eq_some.1 hconfig).2.symm.trans (view_eq_some.1 hd).2
    rw [← hL', view_eq_stateAt]
    exact (stateAt_write L k kc _ rem howner).trans ((if_neg hne).trans (view_eq_stateAt.1 hconfig))
  · have hne : rt.poolKey d.dzEpoch ≠ k := by
      rw [hk]
      exact (Identity.key_ne_token (.distribution d.dzEpoch) _).symm
    rw [← hL']
    show (L.write k _ (rt.poolKey d.dzEpoch)).data = _
    rw [Ledger.write_data, if_neg hne]
    exact hpool
  · simp only [uncollected, hd, hd', Option.map_some, Option.getD_some]
    show d.integrationsCountSnapshot.toNat - count.toNat < _
    omega

theorem CallsCanOpen.canOpen (hc : Canonical rt L) (hd : view ID L k = some (d, rem))
    (hopen : CallsCanOpen rt k L) : CanOpen rt (d, rem) := by
  obtain ⟨L', hreach, d', rem', hd', hall⟩ := hopen
  obtain ⟨-, d₁, rem₁, hd₁, hcollects⟩ := CallCollects.run hc hd hreach
  cases hd'.symm.trans hd₁
  exact ⟨_, hcollects, hall⟩

/-- What collections do to a distribution, calls can do to its account: the gate opens either way, if
the program runs and the pool exists. -/
theorem callsCanOpen_iff (hg : Genesis rt L₀) (hrun : LedgerRun rt L₀ h L)
    (hd : view ID L k = some (d, rem)) (hcollectable : Collectable rt L d) :
    CallsCanOpen rt k L ↔ CanOpen rt (d, rem) := by
  obtain ⟨hc, hbooks⟩ := LedgerRun.books hg hrun
  have hgate : Gate d := (hbooks.gated hg.books_empty).gate (hc.of_view hd).2.1
  constructor
  · exact CallsCanOpen.canOpen hc hd
  · intro hopen
    exact exists_reach (I := CollectableAt rt L₀ k) (uncollected k)
      (fun hL hclosed => hL.collect hg hclosed)
      ⟨⟨h, hrun⟩, d, rem, hd, hgate.canOpen_iff.1 hopen, hcollectable⟩

end

/-! ## On the ledger -/

/-- The step takes a snapshot only of a count that fits the bitmap. -/
def SnapshotFits (rt : Runtime) (x : Entry RevenueLedger Label) : Prop :=
  ∀ (call : Call) (j : Journal) (jrem : List (BitVec 8)), x.label = .call call →
    call.TakesSnapshot → view ID x.before rt.journalKey = some (j, jrem) →
    j.integrationsCount ≤ 512

theorem integrations_fit_iff {rt : Runtime} {L₀ L : RevenueLedger} {h : History}
    (hg : Genesis rt L₀) (hrun : LedgerRun rt L₀ h L) :
    ((∀ x ∈ h, ∀ (k : Pubkey) (d : Distribution) (rem : List (BitVec 8)),
      view ID x.after k = some (d, rem) → d.HasCapacity ∧ CanOpen rt (d, rem)) ↔
      ∀ x ∈ h, SnapshotFits rt x) ∧
    -- The gate of a distribution can open exactly when calls of the program can open it.
    ∀ x ∈ h, ∀ (k : Pubkey) (d : Distribution) (rem : List (BitVec 8)),
      view ID x.after k = some (d, rem) → Collectable rt x.after d →
      (CallsCanOpen rt k x.after ↔ CanOpen rt (d, rem)) := by
  refine ⟨⟨?_, ?_⟩, fun x hx k d rem hd hcollectable => ?_⟩
  · intro hall x hx call j jrem hlabel htakes hj
    obtain ⟨h₁, -, hrun₁, hstep⟩ := hrun.of_mem hx
    obtain ⟨hc, -⟩ := LedgerRun.books hg hrun₁
    obtain ⟨hc', hbook⟩ := step_refines hc hstep
    rw [hlabel] at hbook
    cases hbook with
    | call ht =>
      obtain ⟨d, rem, has, hsnapshot⟩ := ht.takesSnapshot htakes (hc.of_view hj).2.1
      have hcapacity := (hall x hx _ d rem (view_eq_stateAt.2 has)).1
      rw [UInt16.le_iff_toNat_le, ← hsnapshot]
      exact Distribution.hasCapacity_iff.1 hcapacity
  · intro hfits x hx k d rem hd
    obtain ⟨h₁, hsub, hrun₁, hstep⟩ := hrun.of_mem hx
    have hrun' : LedgerRun rt L₀ (x :: h₁) x.after := .next hrun₁ hstep
    obtain ⟨hc, hbooks⟩ := LedgerRun.books hg hrun'
    have has : (books rt x.after).HasDist d rem := (hc.of_view hd).2.1
    have hle : d.integrationsCountSnapshot.toNat ≤ 512 := by
      refine hbooks.snapshot_le hg.books_empty ?_ has
      intro y hy call j jrem hlabel htakes hj
      obtain ⟨z, hz, rfl⟩ := List.mem_map.1 hy
      have hz : z ∈ h := (List.mem_cons.1 hz).elim (fun heq => heq ▸ hx) (fun hz => hsub hz)
      exact UInt16.le_iff_toNat_le.1 (hfits z hz call j jrem hlabel htakes (view_eq_stateAt.2 hj))
    exact ⟨Distribution.hasCapacity_iff.2 hle,
      ((hbooks.gated hg.books_empty).gate has).canOpen hle⟩
  · obtain ⟨h₁, -, hrun₁, hstep⟩ := hrun.of_mem hx
    exact callsCanOpen_iff hg (.next hrun₁ hstep) hd hcollectable

/-! ## A full registry -/

/-- The program runs, a distribution waits for one integration, and its pool exists. -/
def Sample.waits (L : RevenueLedger) : Bool :=
  (view (T := ProgramConfig) ID L Sample.config).any (fun s => !s.1.isPaused) &&
    (unpackData (L Sample.pool).data).isSome &&
    (view (T := Distribution) ID L Sample.distribution).any fun s =>
      s.1.dzEpoch = 0 ∧ s.1.integrationsCountSnapshot = 1 ∧ s.1.areAllIntegrationsCollected = false

theorem Sample.waits_elim {L : RevenueLedger} (h : Sample.waits L = true) :
    ∃ (d : Distribution) (rem : List (BitVec 8)), view ID L Sample.distribution = some (d, rem) ∧
      d.integrationsCountSnapshot = 1 ∧ d.areAllIntegrationsCollected = false ∧
      Collectable (Sample.runtime Sample.debts Sample.shares) L d := by
  simp only [Sample.waits, Bool.and_eq_true] at h
  obtain ⟨⟨hconfig, hpool⟩, hdist⟩ := h
  obtain ⟨⟨c, crem⟩, hc, hrunning⟩ := (Option.any_eq_true _ _).1 hconfig
  obtain ⟨⟨d, rem⟩, hd, hfacts⟩ := (Option.any_eq_true _ _).1 hdist
  obtain ⟨hepoch, hsnapshot, hopen⟩ := of_decide_eq_true hfacts
  obtain ⟨a, ha⟩ := Option.isSome_iff_exists.1 hpool
  have hkey : (Sample.runtime Sample.debts Sample.shares).poolKey 0 = Sample.pool := by
    decide +kernel
  refine ⟨d, rem, hd, hsnapshot, hopen, ⟨_, c, crem, hc, by simpa using hrunning⟩, a, ?_⟩
  rw [hepoch, hkey]
  cases hdata : (L Sample.pool).data with
  | token b =>
    rw [hdata] at ha
    cases ha
    rfl
  | _ =>
    rw [hdata] at ha
    cases ha

/-- The one integration of the epoch is within the bitmap, in every state of the epoch, and calls can
open the gate while it waits for that integration. -/
theorem integrations_fit_iff_epoch :
    ∃ (h : History) (L : RevenueLedger) (d : Distribution) (rem : List (BitVec 8)),
      LedgerRun (Sample.runtime Sample.debts Sample.shares) (Sample.genesis 1000 700) h L ∧
      (∃ x ∈ h, view ID x.after Sample.distribution = some (d, rem) ∧
        d.integrationsCountSnapshot = 1 ∧ d.areAllIntegrationsCollected = false ∧
        CallsCanOpen (Sample.runtime Sample.debts Sample.shares) Sample.distribution x.after) ∧
      ∀ x ∈ h, ∀ (k : Pubkey) (d : Distribution) (rem : List (BitVec 8)),
        view ID x.after k = some (d, rem) → d.HasCapacity ∧
          CanOpen (Sample.runtime Sample.debts Sample.shares) (d, rem) := by
  obtain ⟨h, L, hrun, -, hP⟩ := Sample.exists_epoch (P := fun h _ =>
    h.all (fun x => (view (T := Journal) ID x.before Sample.journal).all fun y =>
      y.1.integrationsCount ≤ 512) ∧ h.any fun x => Sample.waits x.after) (by decide +kernel)
  obtain ⟨hcounts, hwaits⟩ := of_decide_eq_true hP
  obtain ⟨x, hx, hwaits⟩ := List.any_eq_true.1 hwaits
  obtain ⟨d, rem, hd, hsnapshot, hopen, hcollectable⟩ := Sample.waits_elim hwaits
  obtain ⟨hfit, hcalls⟩ := integrations_fit_iff (Sample.genesis_unused 1000 700) hrun
  have hfits : ∀ x ∈ h, SnapshotFits (Sample.runtime Sample.debts Sample.shares) x := by
    intro x hx call j jrem hlabel htakes hj
    have hcount := List.all_eq_true.1 hcounts x hx
    have hkey : (Sample.runtime Sample.debts Sample.shares).journalKey = Sample.journal := by
      decide +kernel
    rw [hkey] at hj
    rw [hj] at hcount
    exact of_decide_eq_true hcount
  have hall := hfit.2 hfits
  exact ⟨h, L, d, rem, hrun, ⟨x, hx, hd, hsnapshot, hopen,
    (hcalls x hx _ d rem hd hcollectable).2 (hall x hx _ d rem hd).2⟩, hall⟩

/-- Creating an account of the program at a vacant address. -/
theorem createOwned_eq_ok {rt : Runtime} {payer newAccount : AccountInfo} {seeds : List Seed}
    {bump : UInt8} {len : Nat} {s : Exec AccountState}
    (hcreate : rt.create seeds bump = some newAccount.key)
    (hvacant : (s.ledger newAccount.key).owner = systemProgramId)
    (hempty : (s.ledger newAccount.key).data.dataLen = 0)
    (hzero : (s.ledger newAccount.key).lamports = 0) (hlen : len ≤ MAX_PERMITTED_DATA_LENGTH)
    (hsigned : payer.key ∈ s.signers) (hpayer : (s.ledger payer.key).owner = systemProgramId)
    (hnone : (s.ledger payer.key).data.dataLen = 0)
    (hfunds : rt.rent.minimumBalance len ≤ (s.ledger payer.key).lamports)
    (hne : payer.key ≠ newAccount.key) :
    rt.createOwned payer newAccount seeds bump len none s = .ok ((), { s with
      ledger := (s.ledger.debit payer.key (rt.rent.minimumBalance len)).set newAccount.key
        { s.ledger newAccount.key with
          lamports := rt.rent.minimumBalance len
          owner := ID
          data := .zeroed len } }) := by
  have hfits := rt.rent.fits len
  have hlamports : min (Option.getD none 0 + rt.rent.minimumBalance len) (2 ^ 64 - 1) =
      rt.rent.minimumBalance len := by
    simp only [Option.getD_none]
    omega
  have hpda : rt.scheme.createProgramAddress seeds bump ID = some newAccount.key := hcreate
  simp only [Runtime.createOwned, ↓account_bind_ok, tryCreateAccount, hlamports, hzero, if_true]
  refine invokeSigned_eq_ok.2 ⟨[newAccount.key], by simp [Invoker.signerSeeds, hpda], _,
    System.createAccount_vacant (List.mem_append_left _ hsigned)
      (List.mem_append_right _ (List.mem_singleton_self _)) hne hzero hempty hvacant hlen hnone
      hpayer hfunds hfits, rfl⟩

/-- A registration that nothing stands in the way of. -/
theorem tryInitializeRewardsIntegration_eq_ok (rt : Runtime) {s : Exec AccountState}
    {m₀ m₁ m₂ m₃ m₄ m₅ : AccountMeta} {c : ProgramConfig} {j : Journal}
    {crem jrem : List (BitVec 8)} {bump : UInt8} {count : UInt16}
    (hit : s.iter = [m₀, m₁, m₂, m₃, m₄, m₅]) (hconfig : view ID s.ledger m₀.key = some (c, crem))
    (hsigner : m₁.isSigner = true) (hadmin : m₁.key = c.adminKey)
    (hprogram : (s.ledger m₂.key).executable = true)
    (hfind : rt.find (RewardsIntegration.seeds m₂.key) = (m₄.key, bump))
    (hvacant : (s.ledger m₄.key).owner = systemProgramId)
    (hempty : (s.ledger m₄.key).data.dataLen = 0) (hzero : (s.ledger m₄.key).lamports = 0)
    (hsigned : m₃.key ∈ s.signers) (hpayer : (s.ledger m₃.key).owner = systemProgramId)
    (hnone : (s.ledger m₃.key).data.dataLen = 0)
    (hfunds : rt.rent.minimumBalance (dataEnd AccountState RewardsIntegration) ≤
      (s.ledger m₃.key).lamports) (hwritable : m₅.isWritable = true)
    (hne : m₃.key ≠ m₄.key) (hne' : m₅.key ≠ m₄.key) (hne'' : m₅.key ≠ m₃.key)
    (hjournal : view ID s.ledger m₅.key = some (j, jrem))
    (hcount : checkedAdd16 j.integrationsCount 1 = some count) :
    tryInitializeRewardsIntegration rt s = .ok ((), ⟨s.accounts,
      ((s.ledger.debit m₃.key
        (rt.rent.minimumBalance (dataEnd AccountState RewardsIntegration))).set m₄.key
          { s.ledger m₄.key with
            lamports := rt.rent.minimumBalance (dataEnd AccountState RewardsIntegration)
            owner := ID
            data := .zeroCopy (.rewardsIntegration ⟨m₂.key, bump, j.integrationsCount⟩) [] }).write
        m₅.key (.zeroCopy (.journal { j with integrationsCount := count }) jrem), [],
      s.index + 6⟩) := by
  simp only [tryInitializeRewardsIntegration, ↓verified_bind_ok, ↓tryNext_bind_ok,
    ↓require_bind_ok, Exec.advance_iter, Exec.advance_ledger, Exec.info_key, hit]
  refine ⟨_, _, rfl, c, crem, hconfig, _, _, rfl, hsigner, hadmin, _, _, rfl,
    by simpa [NextAccountOptions.Accepts] using hprogram, _, _, rfl, accepts_default _ _, _, _, rfl,
    accepts_default _ _, (congrArg Prod.fst hfind).symm, ?_⟩
  have hbump : (rt.find (RewardsIntegration.seeds m₂.key)).2 = bump := congrArg Prod.snd hfind
  refine bind_eq_ok.2 ⟨(), _, createOwned_eq_ok ?_ hvacant hempty hzero (by decide) hsigned hpayer
    hnone hfunds hne, ?_⟩
  · rw [Runtime.create_find, hfind]
    rfl
  · simp only [↓tryInitialize_bind_ok, ↓zeroCopyMut_bind_ok, ↓unwrap!_bind_ok, ↓store_bind_ok,
      store_eq_ok, Exec.advance_iter, Exec.advance_ledger, Exec.info_key, hbump]
    refine ⟨_, by rw [Ledger.set_self], le_rfl, _, _, rfl, hwritable, j, jrem, ?_, count, hcount,
      ?_⟩
    · rw [view_eq_stateAt] at hjournal ⊢
      rw [← hjournal]
      have hsame : ∀ a : Account AccountState, Ledger.set (s.ledger.debit m₃.key
          (rt.rent.minimumBalance (dataEnd AccountState RewardsIntegration))) m₄.key a m₅.key =
          s.ledger m₅.key := fun a => by
        rw [Ledger.set_of_ne _ _ hne', Ledger.debit, Ledger.set_of_ne _ _ hne'']
      exact stateAt_congr (congrArg Account.owner (hsame _)) (congrArg Account.data (hsame _))
    · rw [Nat.sub_self, List.replicate_zero, Ledger.write_set]
      rfl

namespace Sample

section

variable {debts : List SolanaValidatorDebt} {shares : List RewardShare} {L L₀ : RevenueLedger}
  {h : History} {n m : Nat}

def registerProgram (n : Nat) : Event :=
  later .initializeRewardsIntegration [writable config, signed admin, writable (numberedProgram n),
    signed payer, writable (numberedIntegration n), writable journal]

theorem find_numberedIntegration (hn : 1 ≤ n) :
    (runtime debts shares).find (RewardsIntegration.seeds (numberedProgram n)) =
      (numberedIntegration n, 255) := by
  have hprogram : (2006 + 8 * n) % 8 ≠ 0 := by omega
  have hnumber : number (RewardsIntegration.seeds (numberedProgram n), ID) = 2004 + 8 * n := by
    simp only [number, RewardsIntegration.seeds, numberedProgram, if_neg hprogram]
    omega
  have hnumbered : IsNumbered (RewardsIntegration.seeds (numberedProgram n), ID) := by
    have hmod : (2004 + 8 * n) % 8 = 4 := by omega
    have hindex : (2004 + 8 * n - 2000) / 8 = n := by omega
    refine ⟨by omega, by omega, ?_⟩
    rw [hnumber]
    simp [derivation, hmod, hindex]
  have haddress : address (RewardsIntegration.seeds (numberedProgram n), ID) =
      numberedIntegration n := by
    rw [address, if_pos hnumbered, hnumber]
    rfl
  exact Prod.ext haddress rfl

def integrationRent : Nat := rent.minimumBalance (dataEnd AccountState RewardsIntegration)

/-- A registration of a numbered program. -/
theorem registerProgram_apply {j : Journal} {jrem : List (BitVec 8)} {count : UInt16} (hn : 1 ≤ n)
    (hconfig : ∃ (c : ProgramConfig) (crem : List (BitVec 8)),
      view ID L config = some (c, crem) ∧ c.adminKey = admin)
    (hprogram : (L (numberedProgram n)).executable = true)
    (hvacant : (L (numberedIntegration n)).owner = systemProgramId)
    (hempty : (L (numberedIntegration n)).data.dataLen = 0)
    (hzero : (L (numberedIntegration n)).lamports = 0)
    (hpayer : (L payer).owner = systemProgramId) (hnone : (L payer).data.dataLen = 0)
    (hfunds : integrationRent ≤ (L payer).lamports)
    (hjournal : view ID L journal = some (j, jrem))
    (hcount : checkedAdd16 j.integrationsCount 1 = some count) :
    (registerProgram n).apply (runtime debts shares) L = some
      (((L.debit payer integrationRent).set (numberedIntegration n)
        { L (numberedIntegration n) with
          lamports := integrationRent
          owner := ID
          data := .zeroCopy (.rewardsIntegration ⟨numberedProgram n, 255, j.integrationsCount⟩)
            [] }).write journal
        (.zeroCopy (.journal { j with integrationsCount := count }) jrem)) := by
  obtain ⟨c, crem, hconfig, hadmin⟩ := hconfig
  have hne : payer ≠ numberedIntegration n := by
    simp only [numberedIntegration, payer, ne_eq, Pubkey.mk.injEq]
    omega
  have hne' : journal ≠ numberedIntegration n := by
    simp only [numberedIntegration, journal, ne_eq, Pubkey.mk.injEq]
    omega
  have hsucceeds := tryInitializeRewardsIntegration_eq_ok (runtime debts shares)
    (s := ⟨[writable config, signed admin, writable (numberedProgram n), signed payer,
      writable (numberedIntegration n), writable journal], L, [writable config, signed admin,
      writable (numberedProgram n), signed payer, writable (numberedIntegration n),
      writable journal], 0⟩) rfl hconfig rfl hadmin.symm hprogram (find_numberedIntegration hn)
      hvacant hempty hzero (by simp [Exec.signers, signed, writable]) hpayer hnone hfunds rfl hne
      hne' (by decide) hjournal hcount
  simp only [registerProgram, later, callAt, Event.apply, process, tryProcessInstruction, Call.exec,
    hsucceeds, Except.toOption]
  rfl

/-- The journal with its count. -/
def countIntegrations (n : Nat) : AccountData AccountState → AccountData AccountState
  | .zeroCopy (.journal j) jrem =>
    .zeroCopy (.journal { j with integrationsCount := UInt16.ofNat n }) jrem
  | data => data

/-- The ledger after the programs up to `n` have been registered. -/
def registered (L : RevenueLedger) (n : Nat) : RevenueLedger := fun k =>
  if k = journal then { L k with data := countIntegrations n (L k).data }
  else if k = payer then { L k with lamports := (L k).lamports - n * integrationRent }
  else if 2008 ≤ k.val ∧ k.val % 8 = 4 ∧ (k.val - 2004) / 8 ≤ n then
    { L k with
      lamports := integrationRent
      owner := ID
      data := .zeroCopy (.rewardsIntegration ⟨numberedProgram ((k.val - 2004) / 8), 255,
        UInt16.ofNat ((k.val - 2004) / 8 - 1)⟩) [] }
  else L k

/-- Nothing stands in the way of registering the programs up to `n`. -/
structure Registrable (L : RevenueLedger) (n : Nat) : Prop where
  config_eq : ∃ (c : ProgramConfig) (crem : List (BitVec 8)),
    view ID L config = some (c, crem) ∧ c.adminKey = admin
  journal_eq : ∃ (j : Journal) (jrem : List (BitVec 8)),
    view ID L journal = some (j, jrem) ∧ j.integrationsCount = 0
  payer_eq : (L payer).owner = systemProgramId ∧ (L payer).data.dataLen = 0
  funds : n * integrationRent ≤ (L payer).lamports
  vacant : ∀ i < n, (L (numberedProgram (i + 1))).executable = true ∧
    (L (numberedIntegration (i + 1))).owner = systemProgramId ∧
    (L (numberedIntegration (i + 1))).data.dataLen = 0 ∧
    (L (numberedIntegration (i + 1))).lamports = 0

theorem registered_integration (hm : 1 ≤ m) (hle : m ≤ n) :
    registered L n (numberedIntegration m) = { L (numberedIntegration m) with
      lamports := integrationRent
      owner := ID
      data := .zeroCopy (.rewardsIntegration ⟨numberedProgram m, 255,
        UInt16.ofNat (m - 1)⟩) [] } := by
  have hjournal : numberedIntegration m ≠ journal := by
    simp only [numberedIntegration, journal, ne_eq, Pubkey.mk.injEq]
    omega
  have hpayer : numberedIntegration m ≠ payer := by
    simp only [numberedIntegration, payer, ne_eq, Pubkey.mk.injEq]
    omega
  have hindex : ((numberedIntegration m).val - 2004) / 8 = m := by
    simp only [numberedIntegration]
    omega
  have hnumber : 2008 ≤ (numberedIntegration m).val ∧ (numberedIntegration m).val % 8 = 4 ∧
      m ≤ n := by
    simp only [numberedIntegration]
    omega
  rw [registered, if_neg hjournal, if_neg hpayer, hindex, if_pos hnumber]

/-- What is not touched by the registrations up to `n`. -/
theorem registered_of_ne {k : Pubkey} (hjournal : k ≠ journal) (hpayer : k ≠ payer)
    (hintegration : ∀ m, 1 ≤ m → m ≤ n → k ≠ numberedIntegration m) : registered L n k = L k := by
  rw [registered, if_neg hjournal, if_neg hpayer, if_neg]
  rintro ⟨hle, hmod, hindex⟩
  refine hintegration ((k.val - 2004) / 8) (by omega) hindex ?_
  obtain ⟨v⟩ := k
  simp only [numberedIntegration, Pubkey.mk.injEq] at *
  omega

theorem registered_zero (hr : Registrable L n) : registered L 0 = L := by
  funext k
  by_cases hjournal : k = journal
  · subst hjournal
    obtain ⟨j, jrem, hj, hcount⟩ := hr.journal_eq
    have hdata := (view_eq_some.1 hj).2
    have hsame : countIntegrations 0 (L journal).data = (L journal).data := by
      rw [hdata]
      show AccountData.zeroCopy (AccountState.journal { j with integrationsCount := 0 }) jrem = _
      rw [← hcount]
      rfl
    rw [registered, if_pos rfl, hsame]
  · by_cases hpayer : k = payer
    · subst hpayer
      rw [registered, if_neg hjournal, if_pos rfl, Nat.zero_mul, Nat.sub_zero]
    · exact registered_of_ne hjournal hpayer fun m hm hle => by omega

theorem registered_succ_of_ne {k : Pubkey} (hjournal : k ≠ journal) (hpayer : k ≠ payer)
    (hintegration : k ≠ numberedIntegration (m + 1)) :
    registered L (m + 1) k = registered L m k := by
  rw [registered, registered, if_neg hjournal, if_neg hpayer, if_neg hjournal, if_neg hpayer]
  refine if_congr ?_ rfl rfl
  obtain ⟨v⟩ := k
  simp only [numberedIntegration, ne_eq, Pubkey.mk.injEq] at hintegration
  dsimp only
  omega

theorem registered_succ (hr : Registrable L n) (hm : m < n) (hn : n < 2 ^ 16) :
    (registerProgram (m + 1)).apply (runtime debts shares) (registered L m) =
      some (registered L (m + 1)) := by
  obtain ⟨c, crem, hc, hadmin⟩ := hr.config_eq
  obtain ⟨j, jrem, hj, -⟩ := hr.journal_eq
  obtain ⟨hpayer, hnone⟩ := hr.payer_eq
  obtain ⟨hprogram, hvacant, hempty, hzero⟩ := hr.vacant m hm
  have hfunds : (m + 1) * integrationRent ≤ (L payer).lamports :=
    (Nat.mul_le_mul_right _ hm).trans hr.funds
  have hne : journal ≠ numberedIntegration (m + 1) := by
    simp only [numberedIntegration, journal, ne_eq, Pubkey.mk.injEq]
    omega
  have hkept : ∀ {v : Nat}, (v = 1000 ∨ v = 2006 + 8 * (m + 1) ∨ v = 2004 + 8 * (m + 1)) →
      registered L m ⟨v⟩ = L ⟨v⟩ := by
    intro v hv
    refine registered_of_ne ?_ ?_ fun m' _ hle => ?_ <;>
      simp only [journal, payer, numberedIntegration, ne_eq, Pubkey.mk.injEq] <;> omega
  have hconfig : registered L m config = L config := hkept (.inl rfl)
  have hprogram' : registered L m (numberedProgram (m + 1)) = L (numberedProgram (m + 1)) :=
    hkept (.inr (.inl rfl))
  have hintegration : registered L m (numberedIntegration (m + 1)) =
      L (numberedIntegration (m + 1)) := hkept (.inr (.inr rfl))
  have hpaid : registered L m payer =
      { L payer with lamports := (L payer).lamports - m * integrationRent } := by
    rw [registered, if_neg (by decide), if_pos rfl]
  have hcounted : registered L m journal =
      { L journal with data := countIntegrations m (L journal).data } := by
    rw [registered, if_pos rfl]
  obtain ⟨hown, hdata⟩ := view_eq_some.1 hj
  have hview : view ID (registered L m) journal =
      some ({ j with integrationsCount := UInt16.ofNat m }, jrem) := by
    refine view_eq_some.2 ⟨by rw [hcounted]; exact hown, ?_⟩
    rw [hcounted, hdata]
    rfl
  have hcount : checkedAdd16 (UInt16.ofNat m) 1 = some (UInt16.ofNat (m + 1)) := by
    have hm' : (UInt16.ofNat m).toNat = m := UInt16.toNat_ofNat_of_lt' (by show m < 65536; omega)
    have hm'' : (UInt16.ofNat (m + 1)).toNat = m + 1 :=
      UInt16.toNat_ofNat_of_lt' (by show m + 1 < 65536; omega)
    exact checkedAdd16_eq_some.2 ⟨by rw [hm']; exact (Nat.succ_le_of_lt hm).trans_lt hn,
      by rw [hm', hm'']; rfl⟩
  rw [registerProgram_apply (Nat.succ_pos m) ⟨c, crem, ?_, hadmin⟩ (hprogram' ▸ hprogram)
    (hintegration ▸ hvacant) (hintegration ▸ hempty) (hintegration ▸ hzero) ?_ ?_ ?_ hview hcount]
  · congr 1
    funext k
    by_cases hkj : k = journal
    · subst hkj
      have hother : Ledger.set (Ledger.debit (registered L m) payer integrationRent)
          (numberedIntegration (m + 1)) { registered L m (numberedIntegration (m + 1)) with
            lamports := integrationRent
            owner := ID
            data := .zeroCopy (.rewardsIntegration ⟨numberedProgram (m + 1), 255,
              UInt16.ofNat m⟩) [] } journal = registered L m journal := by
        rw [Ledger.set_of_ne _ _ hne, Ledger.debit, Ledger.set_of_ne _ _ (by decide)]
      rw [Ledger.write, Ledger.set_self, hother, hcounted, registered, if_pos rfl, hdata]
      rfl
    · rw [Ledger.write, Ledger.set_of_ne _ _ hkj]
      by_cases hki : k = numberedIntegration (m + 1)
      · subst hki
        rw [Ledger.set_self, registered_integration (Nat.succ_pos m) le_rfl, hintegration]
        rfl
      · rw [Ledger.set_of_ne _ _ hki]
        by_cases hkp : k = payer
        · subst hkp
          rw [Ledger.debit, Ledger.set_self, hpaid, registered, if_neg hkj, if_pos rfl,
            Nat.succ_mul, Nat.sub_add_eq]
        · rw [Ledger.debit, Ledger.set_of_ne _ _ hkp, registered_succ_of_ne hkj hkp hki]
  · rw [view_eq_stateAt] at hc ⊢
    rw [← hc]
    exact stateAt_congr (by rw [hconfig]) (by rw [hconfig])
  · rw [hpaid]
    exact hpayer
  · rw [hpaid]
    exact hnone
  · rw [hpaid]
    dsimp only
    rw [Nat.succ_mul] at hfunds
    omega

theorem registered_run (hr : Registrable L n) (hn : n < 2 ^ 16)
    (hrun : LedgerRun (runtime debts shares) L₀ h L) (hm : m ≤ n) :
    ∃ h', LedgerRun (runtime debts shares) L₀ h' (registered L m) := by
  induction m with
  | zero =>
    rw [registered_zero hr]
    exact ⟨h, hrun⟩
  | succ m ih =>
    obtain ⟨h', hrun'⟩ := ih (Nat.le_of_succ_le hm)
    exact ⟨_, .next hrun' (Event.step (e := registerProgram (m + 1)) trivial
      (registered_succ hr hm hn))⟩

end

/-- The check of `Registrable`. -/
def registrable (L : RevenueLedger) (n : Nat) : Bool :=
  (view (T := ProgramConfig) ID L config).any (fun x => x.1.adminKey = admin) &&
    (view (T := Journal) ID L journal).any (fun x => x.1.integrationsCount = 0) &&
    decide ((L payer).owner = systemProgramId ∧ (L payer).data.dataLen = 0) &&
    decide (n * integrationRent ≤ (L payer).lamports) &&
    (List.range n).all fun i => (L (numberedProgram (i + 1))).executable &&
      decide ((L (numberedIntegration (i + 1))).owner = systemProgramId ∧
        (L (numberedIntegration (i + 1))).data.dataLen = 0 ∧
        (L (numberedIntegration (i + 1))).lamports = 0)

theorem registrable_of_check {L : RevenueLedger} {n : Nat} (h : registrable L n = true) :
    Registrable L n := by
  simp only [registrable, Bool.and_eq_true, List.all_eq_true, List.mem_range,
    decide_eq_true_eq] at h
  obtain ⟨⟨⟨⟨hconfig, hjournal⟩, hpayer⟩, hfunds⟩, hvacant⟩ := h
  obtain ⟨⟨c, crem⟩, hc, hadmin⟩ := (Option.any_eq_true _ _).1 hconfig
  obtain ⟨⟨j, jrem⟩, hj, hcount⟩ := (Option.any_eq_true _ _).1 hjournal
  exact ⟨⟨c, crem, hc, of_decide_eq_true hadmin⟩, ⟨j, jrem, hj, of_decide_eq_true hcount⟩, hpayer,
    hfunds, hvacant⟩

end Sample

/-- An epoch is opened after 513 registrations. -/
theorem snapshot_exceeds_bitmap :
    ∃ (h : History) (L : RevenueLedger) (d : Distribution) (i : RewardsIntegration)
      (rem irem : List (BitVec 8)),
      LedgerRun (Sample.runtime [] []) (Sample.genesis 1000 0) h L ∧
      view ID L Sample.distribution = some (d, rem) ∧
      view ID L (Sample.numberedIntegration 513) = some (i, irem) ∧
      i.registrationIndex < d.integrationsCountSnapshot ∧
      d.checkedIsIntegrationCollected i.registrationIndex = none ∧
      ¬CanOpen (Sample.runtime [] []) (d, rem) ∧
      ¬CallsCanOpen (Sample.runtime [] []) Sample.distribution L := by
  obtain ⟨h, L, hrun, -, hP⟩ := Sample.exists_run_of_replay [] [] 1000 0 Sample.opening
    (P := fun _ L => Sample.registrable L 513 &&
      (Sample.openEpoch.apply (Sample.runtime [] []) (Sample.registered L 513)).any fun L' =>
        (view (T := Distribution) ID L' Sample.distribution).any (fun x =>
          x.1.integrationsCountSnapshot = 513) &&
        (view (T := RewardsIntegration) ID L' (Sample.numberedIntegration 513)).any fun x =>
          x.1.registrationIndex = 512) (by decide +kernel) (by decide +kernel)
  obtain ⟨hready, hopened⟩ := (Bool.and_eq_true _ _).mp hP
  obtain ⟨L', happly, hfacts⟩ := (Option.any_eq_true _ _).1 hopened
  obtain ⟨hdist, hintegration⟩ := (Bool.and_eq_true _ _).mp hfacts
  obtain ⟨⟨d, rem⟩, hd, hsnapshot⟩ := (Option.any_eq_true _ _).1 hdist
  obtain ⟨⟨i, irem⟩, hi, hindex⟩ := (Option.any_eq_true _ _).1 hintegration
  have hsnapshot : d.integrationsCountSnapshot = 513 := of_decide_eq_true hsnapshot
  have hindex : i.registrationIndex = 512 := of_decide_eq_true hindex
  obtain ⟨h', hrun'⟩ := Sample.registered_run (Sample.registrable_of_check hready) (by decide) hrun
    le_rfl
  have hopen : LedgerRun (Sample.runtime [] []) (Sample.genesis 1000 0) _ L' :=
    .next hrun' (Event.step (e := Sample.openEpoch) trivial happly)
  obtain ⟨hc, hbooks⟩ := hopen.books (Sample.genesis_unused 1000 0)
  have has : (books (Sample.runtime [] []) L').HasDist d rem := (hc.of_view hd).2.1
  have hgate := (hbooks.gated (Sample.genesis_unused 1000 0).books_empty).gate has
  have hclosed : ¬CanOpen (Sample.runtime [] []) (d, rem) := by
    rw [hgate.canOpen_iff, hsnapshot]
    decide
  refine ⟨_, L', d, i, rem, irem, hopen, hd, hi, ?_, ?_, hclosed,
    fun hcalls => hclosed (hcalls.canOpen hc hd)⟩
  · rw [hindex, hsnapshot]
    decide
  · rw [hindex]
    rfl

end DoubleZero.Revenue
