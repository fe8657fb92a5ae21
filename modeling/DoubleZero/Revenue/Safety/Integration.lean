import DoubleZero.Revenue.Invariant.Change
import DoubleZero.Revenue.Replay

/-!
# The integration gate

Integrations are numbered by the journal in the order they are registered. A distribution takes the
count as its snapshot when it is created, and collects from every integration numbered below it. The
gate before the rewards only compares two counters. `Gated` is why that is enough: along any run the
counter counts the bits of the bitmap, the bits stand for integrations below the snapshot, and a bit
is set by exactly one call.
-/

namespace DoubleZero.Revenue

open DoubleZero.Lib DoubleZero.Solana

/-! ## Registration -/

def Books.HasIntegration (b : Books) (i : RewardsIntegration) : Prop :=
  ∃ rem, b.entry (.integration i.programId) = some (.rewardsIntegration i, rem)

/-- How many integrations the journal has numbered. -/
def Books.integrationsCount (b : Books) : Nat := b.journal.integrationsCount.toNat

/-- The integrations are numbered from zero on, without gaps. -/
structure Registered (b : Books) : Prop where
  bounded : ∀ {i}, b.HasIntegration i → i.registrationIndex.toNat < b.integrationsCount
  distinct : ∀ {i i'}, b.HasIntegration i → b.HasIntegration i' →
    i.registrationIndex = i'.registrationIndex → i = i'
  complete : ∀ {n}, n < b.integrationsCount →
    ∃ i, b.HasIntegration i ∧ i.registrationIndex.toNat = n

section

variable {rt : Runtime} {call : Call} {b b' : Books}

theorem Books.integrationsCount_eq {j : Journal} {jrem : List (BitVec 8)}
    (h : b.entry .journal = some (.journal j, jrem)) :
    b.integrationsCount = j.integrationsCount.toNat := by
  rw [Books.integrationsCount, Books.journal_eq h]

theorem Books.integrationsCount_congr (h : b'.entry .journal = b.entry .journal) :
    b'.integrationsCount = b.integrationsCount := by
  rw [Books.integrationsCount, Books.integrationsCount, Books.journal_congr h]

/-- A journal rewritten with the same count. -/
theorem Books.integrationsCount_set {b₁ : Books} {j j' : Journal} {jrem : List (BitVec 8)}
    (h : b.entry .journal = some (.journal j, jrem))
    (hcount : j'.integrationsCount = j.integrationsCount) :
    (b₁.set .journal (.journal j') jrem).integrationsCount = b.integrationsCount := by
  rw [Books.integrationsCount_eq (Books.set_entry_self ..), Books.integrationsCount_eq h, hcount]

theorem Registered.of_entry (h : Registered b)
    (hentry : ∀ p, b'.entry (.integration p) = b.entry (.integration p))
    (hcount : b'.integrationsCount = b.integrationsCount) : Registered b' := by
  have hiff : ∀ i, b'.HasIntegration i ↔ b.HasIntegration i := by
    intro i
    rw [Books.HasIntegration, Books.HasIntegration, hentry]
  refine ⟨fun hi => ?_, fun hi hi' => h.distinct ((hiff _).1 hi) ((hiff _).1 hi'), fun hn => ?_⟩
  · rw [hcount]
    exact h.bounded ((hiff _).1 hi)
  · rw [hcount] at hn
    obtain ⟨i, hi, hindex⟩ := h.complete hn
    exact ⟨i, (hiff i).2 hi, hindex⟩

/-- Only a registration changes what is registered. -/
theorem Transition.integrationsCount_eq (ht : Transition rt call b b')
    (hdata : call.data ≠ .initializeRewardsIntegration) :
    b'.integrationsCount = b.integrationsCount := by
  by_cases hw : Kind.journal ∉ call.data.writes
  · exact Books.integrationsCount_congr (ht.frame hw)
  cases ht with
  | initializeJournal data new funds =>
    rw [Books.integrationsCount_eq (Books.set_entry_self ..), Books.integrationsCount,
      Books.journal, new]
    rfl
  | initializeIntegration data => exact absurd data hdata
  | pay data indexed running has keyDist deposit journal step enough moved =>
    rw [Books.integrationsCount_congr (congrFun moved.entry_eq _)]
    exact Books.integrationsCount_set journal rfl
  | sweepNothing data running has journal next zero step =>
    exact Books.integrationsCount_set journal rfl
  | sweep data running has journal next debt nonzero enough invokes foreign transfer step =>
    exact Books.integrationsCount_set journal rfl
  | withdrawSol data running journal enough moved =>
    rw [Books.integrationsCount_congr (congrFun moved.entry_eq _)]
    exact Books.integrationsCount_set journal rfl
  | _ => exact absurd (by simp [‹call.data = _›, InstructionData.writes]) hw

/-- What a registration does. -/
structure Registers (b b' : Books) (i : RewardsIntegration) : Prop where
  index_eq : i.registrationIndex.toNat = b.integrationsCount
  new : b.entry (.integration i.programId) = none
  has : ∀ i', b'.HasIntegration i' ↔ i' = i ∨ b.HasIntegration i'
  count_eq : b'.integrationsCount = b.integrationsCount + 1

theorem Registers.registered {i : RewardsIntegration} (hr : Registers b b' i) (h : Registered b) :
    Registered b' := by
  refine ⟨fun hi => ?_, fun hi hi' heq => ?_, fun hn => ?_⟩
  · rw [hr.count_eq]
    rcases (hr.has _).1 hi with rfl | hold
    · rw [hr.index_eq]
      exact Nat.lt_succ_self _
    · exact (h.bounded hold).trans (Nat.lt_succ_self _)
  · -- An index handed out before is below the new one.
    rcases (hr.has _).1 hi with rfl | hold
    · rcases (hr.has _).1 hi' with rfl | hold'
      · rfl
      · exact absurd (heq ▸ h.bounded hold') (by rw [hr.index_eq]; exact lt_irrefl _)
    · rcases (hr.has _).1 hi' with rfl | hold'
      · exact absurd (heq.symm ▸ h.bounded hold) (by rw [hr.index_eq]; exact lt_irrefl _)
      · exact h.distinct hold hold' heq
  · rw [hr.count_eq] at hn
    rcases Nat.lt_succ_iff_lt_or_eq.1 hn with hlt | rfl
    · obtain ⟨i', hi', hindex⟩ := h.complete hlt
      exact ⟨i', (hr.has i').2 (.inr hi'), hindex⟩
    · exact ⟨i, (hr.has i).2 (.inl rfl), hr.index_eq⟩

theorem Transition.registers (ht : Transition rt call b b')
    (hdata : call.data = .initializeRewardsIntegration) : ∃ i, Registers b b' i := by
  cases ht with
  | @initializeIntegration c crem jrem j lamports programId count data config signed new journal
      counted funds =>
    obtain ⟨-, hcount⟩ := checkedAdd16_eq_some.1 counted
    refine ⟨⟨programId, (rt.find (RewardsIntegration.seeds programId)).2, j.integrationsCount⟩,
      (Books.integrationsCount_eq journal).symm, new, fun i' => ?_, ?_⟩
    · unfold Books.HasIntegration
      rw [Books.set_entry_of_ne _ _ _ (by simp)]
      by_cases hp : i'.programId = programId
      · rw [hp, Books.set_entry_self, new]
        simp [eq_comm]
      · rw [Books.set_entry_of_ne _ _ _ (by simpa using hp)]
        refine ⟨.inr, fun h => h.resolve_left ?_⟩
        rintro rfl
        exact hp rfl
    · rw [Books.integrationsCount_eq (Books.set_entry_self ..), Books.integrationsCount_eq journal,
        hcount]
      rfl
  | _ => simp [‹call.data = _›] at hdata

end

/-! ## Collection -/

/-- The call collects from the integration at one account into the distribution at another. -/
def Label.collects (k integration : Pubkey) : Label → Bool
  | .call c => c.data = .collectIntegrationRewards ∧ c.key? 1 = some k ∧ c.key? 2 = some integration
  | .outside => false

/-- How often the calls of a history collected from an integration into a distribution. -/
def collections {σ : Type} (h : List (Entry σ Label)) (k integration : Pubkey) : Nat :=
  h.countP fun e => e.label.collects k integration

/-- The counter counts the integrations collected, and they are below the snapshot. -/
structure Gate (d : Distribution) : Prop where
  card_eq : (ones d.collectedIntegrationsBitmap).card = d.integrationsCollectedCount.toNat
  below : ∀ n ∈ ones d.collectedIntegrationsBitmap, n < d.integrationsCountSnapshot.toNat

section

variable {rt : Runtime} {call : Call} {a : DistAction} {s s' : DistState} {b b' b₀ : Books}
  {h : List (Entry Books Label)}

/-- What a step leaves of the collection: it changes by a collection or by a new snapshot. -/
theorem DistStep.collection (hstep : DistStep rt a s s') (ha : ∀ i n, a ≠ .collect i n) :
    s'.1.collectedIntegrationsBitmap = s.1.collectedIntegrationsBitmap ∧
      s'.1.integrationsCollectedCount = s.1.integrationsCollectedCount ∧
      (s'.1.integrationsCountSnapshot = s.1.integrationsCountSnapshot ∨
        a = .migrate s'.1.integrationsCountSnapshot) := by
  cases hstep with
  | collect => exact absurd rfl (ha _ _)
  | migrate _ => exact ⟨rfl, rfl, .inr rfl⟩
  | _ => exact ⟨rfl, rfl, .inl rfl⟩

theorem Gate.collect {d d' : Distribution} {rem rem' : List (BitVec 8)} {index : UInt16}
    {amount : UInt64} (hg : Gate d)
    (hstep : DistStep rt (.collect index amount) (d, rem) (d', rem')) : Gate d' := by
  cases hstep with
  | collect _ hsnapshot hcapacity hpending _ hcounted =>
    have hnew : index.toNat ∉ ones d.collectedIntegrationsBitmap := by
      rw [mem_ones, hpending]
      simp
    obtain ⟨-, hcount⟩ := checkedAdd16_eq_some.1 hcounted
    constructor
    · rw [ones_setBit _ hcapacity, Finset.card_insert_of_notMem hnew, hg.card_eq, hcount]
      rfl
    · intro n hn
      rw [ones_setBit _ hcapacity, Finset.mem_insert] at hn
      rcases hn with rfl | hold
      · exact UInt16.lt_iff_toNat_lt.1 hsnapshot
      · exact hg.below n hold

theorem DistStep.collected {index : UInt16} {amount : UInt64}
    (hstep : DistStep rt (.collect index amount) s s') :
    s'.1.integrationsCountSnapshot = s.1.integrationsCountSnapshot ∧
      bit s.1.collectedIntegrationsBitmap index.toNat = false ∧
      ∀ n, bit s'.1.collectedIntegrationsBitmap n =
        if n = index.toNat then true else bit s.1.collectedIntegrationsBitmap n := by
  cases hstep with
  | collect _ _ hcapacity hpending _ _ =>
    refine ⟨rfl, hpending, fun n => ?_⟩
    rw [bit_setBit]
    by_cases hn : n = index.toNat
    · rw [if_pos ⟨hn.symm, hn ▸ hcapacity⟩, if_pos hn]
    · rw [if_neg fun hc => hn hc.1.symm, if_neg hn]

/-- Where a distribution comes from, when the call collects nothing. -/
inductive Origin (b : Books) (d' : Distribution) : Prop
  | created (none_eq : b.entry (.distribution d'.dzEpoch) = none)
      (journal : b.entry .journal ≠ none)
      (bitmap_eq : d'.collectedIntegrationsBitmap = 0#512)
      (count_eq : d'.integrationsCollectedCount = 0)
      (snapshot_eq : d'.integrationsCountSnapshot.toNat = b.integrationsCount)
  | kept {d : Distribution} {rem : List (BitVec 8)} (has : b.HasDist d rem)
      (epoch : d.dzEpoch = d'.dzEpoch)
      (bitmap_eq : d'.collectedIntegrationsBitmap = d.collectedIntegrationsBitmap)
      (count_eq : d'.integrationsCollectedCount = d.integrationsCollectedCount)
      (snapshot_eq : d'.integrationsCountSnapshot = d.integrationsCountSnapshot ∨
        d'.integrationsCountSnapshot.toNat = b.integrationsCount)

theorem Transition.origin (ht : Transition rt call b b')
    (hdata : call.data ≠ .collectIntegrationRewards) {d' : Distribution} {rem' : List (BitVec 8)}
    (hd : b'.HasDist d' rem') : Origin b d' := by
  have hother : ∀ {e a}, Does rt call b e a → ∀ i n, a ≠ .collect i n := by
    rintro e a hdoes i n rfl
    cases hdoes with
    | collect data => exact hdata data
  have hmigrates : ∀ {e n}, Does rt call b e (.migrate n) → n.toNat = b.integrationsCount := by
    intro e n hdoes
    cases hdoes with
    | migrate data journal listed => exact (Books.integrationsCount_eq journal).symm
  cases ht.change d'.dzEpoch with
  | kept same => exact .kept (same.symm.trans hd) rfl rfl rfl (.inl rfl)
  | create data journal new initialized epoch created =>
    obtain ⟨rfl, rfl⟩ := created.unique hd epoch.symm
    have hbitmap := congrArg Distribution.collectedIntegrationsBitmap initialized.rest_eq
    have hcount := congrArg Distribution.integrationsCollectedCount initialized.rest_eq
    refine .created new (by simp [journal]) (hbitmap.trans (default_eq_zero 512)) hcount ?_
    rw [initialized.snapshot_eq, Books.integrationsCount_eq journal]
  | step does epoch has step has' =>
    obtain ⟨rfl, rfl⟩ := has'.unique hd (step.fixed.1.trans epoch).symm
    obtain ⟨hbitmap, hcount, hsnapshot⟩ := step.collection (hother does)
    refine .kept has epoch hbitmap hcount (hsnapshot.imp id ?_)
    rintro rfl
    exact hmigrates does
  | twice does books epoch has step step' has' =>
    obtain ⟨rfl, rfl⟩ := has'.unique hd ((step'.fixed.1.trans step.fixed.1).trans epoch).symm
    cases step with
    | writeOff =>
      cases step' with
      | book => exact .kept has epoch rfl rfl (.inl rfl)

/-- What the books and the history of the run agree on. -/
structure Gated (rt : Runtime) (h : List (Entry Books Label)) (b : Books) : Prop where
  registered : Registered b
  journal : ∀ {d rem}, b.HasDist d rem → b.entry .journal ≠ none
  snapshot_le : ∀ {d rem}, b.HasDist d rem → d.integrationsCountSnapshot.toNat ≤ b.integrationsCount
  gate : ∀ {d rem}, b.HasDist d rem → Gate d
  collected : ∀ {d rem i}, b.HasDist d rem → b.HasIntegration i →
    collections h (rt.distributionKey d.dzEpoch) (Identity.key rt (.integration i.programId)) =
      if bit d.collectedIntegrationsBitmap i.registrationIndex.toNat = true then 1 else 0
  noDist : ∀ {e k}, b.entry (.distribution e) = none → collections h (rt.distributionKey e) k = 0
  noIntegration : ∀ {p k}, b.entry (.integration p) = none →
    collections h k (Identity.key rt (.integration p)) = 0

theorem collections_cons (x : Entry Books Label) (k integration : Pubkey) :
    collections (x :: h) k integration =
      collections h k integration + if x.label.collects k integration = true then 1 else 0 :=
  List.countP_cons

/-- What happens to the integrations. -/
theorem Transition.integrations (ht : Transition rt call b b') :
    (∃ i, Registers b b' i) ∨ b'.integrationsCount = b.integrationsCount ∧
      ∀ p, b'.entry (.integration p) = b.entry (.integration p) := by
  by_cases hdata : call.data = .initializeRewardsIntegration
  · exact .inl (ht.registers hdata)
  · refine .inr ⟨ht.integrationsCount_eq hdata, fun p => ht.frame ?_⟩
    cases hcall : call.data with
    | initializeRewardsIntegration => exact absurd hcall hdata
    | _ => simp [InstructionData.writes]

namespace Gated

theorem bit_lt (hg : Gated rt h b) {d : Distribution} {rem : List (BitVec 8)} {n : Nat}
    (hd : b.HasDist d rem) (hbit : bit d.collectedIntegrationsBitmap n = true) :
    n < b.integrationsCount :=
  ((hg.gate hd).below n (mem_ones.2 hbit)).trans_le (hg.snapshot_le hd)

/-- A call that collects nothing. -/
theorem other (hg : Gated rt h b) (ht : Transition rt call b b')
    (hdata : call.data ≠ .collectIntegrationRewards) :
    Gated rt (⟨b, .call call, b'⟩ :: h) b' := by
  have hsame : ∀ k kᵢ, collections (⟨b, .call call, b'⟩ :: h) k kᵢ = collections h k kᵢ := by
    intro k kᵢ
    rw [collections_cons]
    simp [Label.collects, hdata]
  have hcount : b.integrationsCount ≤ b'.integrationsCount := by
    rcases ht.integrations with ⟨i, hr⟩ | ⟨heq, -⟩
    · rw [hr.count_eq]
      exact Nat.le_succ _
    · exact heq.ge
  refine ⟨?_, fun hd hnone => ?_, fun hd => ?_, fun hd => ?_, fun {d' rem' i} hd hi => ?_,
    fun {e k} hnone => ?_, fun {p k} hnone => ?_⟩
  · rcases ht.integrations with ⟨i, hr⟩ | ⟨heq, hentry⟩
    · exact hr.registered hg.registered
    · exact hg.registered.of_entry hentry heq
  · cases ht.origin hdata hd with
    | created _ hjournal _ _ _ => exact hjournal (ht.none_of hnone)
    | kept has _ _ _ _ => exact hg.journal has (ht.none_of hnone)
  · refine le_trans ?_ hcount
    cases ht.origin hdata hd with
    | created _ _ _ _ hsnapshot => exact hsnapshot.le
    | kept has _ _ _ hsnapshot =>
      rcases hsnapshot with heq | heq
      · rw [heq]
        exact hg.snapshot_le has
      · exact heq.le
  · cases ht.origin hdata hd with
    | created _ _ hbitmap hcount _ =>
      refine ⟨?_, ?_⟩
      · rw [hbitmap, hcount, ones_zero]
        rfl
      · rw [hbitmap, ones_zero]
        simp
    | kept has _ hbitmap hcount hsnapshot =>
      refine ⟨by rw [hbitmap, hcount, (hg.gate has).card_eq], fun n hn => ?_⟩
      rw [hbitmap] at hn
      rcases hsnapshot with heq | heq
      · rw [heq]
        exact (hg.gate has).below n hn
      · rw [heq]
        exact hg.bit_lt has (mem_ones.1 hn)
  · rw [hsame]
    -- The integration is an old one, or it was registered just now.
    have hi : b.HasIntegration i ∨ b.entry (.integration i.programId) = none ∧
        i.registrationIndex.toNat = b.integrationsCount := by
      rcases ht.integrations with ⟨i', hr⟩ | ⟨-, hentry⟩
      · rcases (hr.has i).1 hi with rfl | hold
        · exact .inr ⟨hr.new, hr.index_eq⟩
        · exact .inl hold
      · rw [Books.HasIntegration, hentry] at hi
        exact .inl hi
    cases ht.origin hdata hd with
    | created hnone _ hbitmap _ _ =>
      rw [hg.noDist hnone, hbitmap, bit_zero]
      rfl
    | kept has epoch hbitmap _ _ =>
      rw [hbitmap, ← epoch]
      rcases hi with hold | ⟨hnew, hindex⟩
      · exact hg.collected has hold
      · rw [hg.noIntegration hnew, if_neg]
        intro hbit
        exact absurd (hg.bit_lt has hbit) (by rw [hindex]; exact lt_irrefl _)
  · rw [hsame]
    exact hg.noDist (ht.none_of hnone)
  · rw [hsame]
    exact hg.noIntegration (ht.none_of hnone)

/-- A call that collects from an integration into a distribution. -/
theorem collect (hg : Gated rt h b) {d d' : Distribution} {rem rem' irem : List (BitVec 8)}
    {i : RewardsIntegration} {amount : UInt64} (hdata : call.data = .collectIntegrationRewards)
    (hkey : call.key? 1 = some (rt.distributionKey d.dzEpoch))
    (hkey' : call.key? 2 = some (Identity.key rt (.integration i.programId)))
    (has : b.HasDist d rem)
    (hi : b.entry (.integration i.programId) = some (.rewardsIntegration i, irem))
    (hstep : DistStep rt (.collect i.registrationIndex amount) (d, rem) (d', rem'))
    (hup : b.DistUpdated b' d' rem')
    (hentry : ∀ p, b'.entry (.integration p) = b.entry (.integration p))
    (hjournal : b'.entry .journal = b.entry .journal) :
    Gated rt (⟨b, .call call, b'⟩ :: h) b' := by
  have hepoch : d'.dzEpoch = d.dzEpoch := hstep.fixed.1
  have hcount := Books.integrationsCount_congr hjournal
  obtain ⟨hsnapshot, hpending, hbit⟩ := hstep.collected
  have hhas : ∀ i', b'.HasIntegration i' ↔ b.HasIntegration i' := by
    intro i'
    rw [Books.HasIntegration, Books.HasIntegration, hentry]
  have hcons : ∀ k kᵢ, collections (⟨b, .call call, b'⟩ :: h) k kᵢ = collections h k kᵢ +
      if rt.distributionKey d.dzEpoch = k ∧ Identity.key rt (.integration i.programId) = kᵢ
        then 1 else 0 := by
    intro k kᵢ
    rw [collections_cons]
    simp only [Label.collects, hdata, hkey, hkey', true_and, Option.some.injEq, decide_eq_true_eq]
  refine ⟨hg.registered.of_entry hentry hcount, fun _ => hjournal ▸ hg.journal has,
    fun hx => ?_, fun hx => ?_, fun {x xrem y} hx hy => ?_, fun {e k} hnone => ?_,
    fun {p k} hnone => ?_⟩
  · rw [hcount]
    rcases hup.of_has hx with ⟨rfl, rfl⟩ | ⟨-, hold⟩
    · rw [hsnapshot]
      exact hg.snapshot_le has
    · exact hg.snapshot_le hold
  · rcases hup.of_has hx with ⟨rfl, rfl⟩ | ⟨-, hold⟩
    · exact (hg.gate has).collect hstep
    · exact hg.gate hold
  · have hy := (hhas y).1 hy
    simp only [hcons, Runtime.distributionKey_inj, Identity.key_inj, Identity.integration.injEq]
    rcases hup.of_has hx with ⟨rfl, rfl⟩ | ⟨hne, hold⟩
    · rw [hepoch, hg.collected has hy, hbit]
      by_cases hp : y.programId = i.programId
      · -- The integration collected from.
        obtain ⟨yrem, hy⟩ := hy
        rw [hp, hi] at hy
        cases hy
        simp [hpending]
      · have hindex : y.registrationIndex.toNat ≠ i.registrationIndex.toNat := fun heq =>
          hp (congrArg _ (hg.registered.distinct hy ⟨irem, hi⟩ (UInt16.toNat_inj.1 heq)))
        simp [Ne.symm hp, hindex]
    · rw [hg.collected hold hy, if_neg (c := _ ∧ _), Nat.add_zero]
      exact fun hc => hne (hc.1.symm.trans hepoch.symm)
  · have he : e ≠ d.dzEpoch := by
      rintro rfl
      have hsome := hup d'.dzEpoch
      rw [if_pos rfl, hepoch, hnone] at hsome
      cases hsome
    rw [hcons, if_neg fun hc => he (Runtime.distributionKey_inj.1 hc.1).symm, Nat.add_zero]
    have hold := hup e
    rw [if_neg (by rw [hepoch]; exact he), hnone] at hold
    exact hg.noDist hold.symm
  · have hp : p ≠ i.programId := by
      rintro rfl
      rw [hentry, hi] at hnone
      cases hnone
    have hkeys : Identity.key rt (.integration i.programId) ≠
        Identity.key rt (.integration p) := by simpa using Ne.symm hp
    rw [hcons, if_neg fun hc => hkeys hc.2, Nat.add_zero]
    rw [hentry] at hnone
    exact hg.noIntegration hnone

theorem step (hg : Gated rt h b) (ht : Transition rt call b b') :
    Gated rt (⟨b, .call call, b'⟩ :: h) b' := by
  by_cases hdata : call.data = .collectIntegrationRewards
  · have hentry : ∀ p, b'.entry (.integration p) = b.entry (.integration p) := fun p =>
      ht.frame (by simp [hdata, InstructionData.writes])
    have hjournal := ht.frame (i := .journal) (by simp [hdata, InstructionData.writes])
    cases ht with
    | @collect c d d' rem rem' irem i amount b₁ data running has integration keyDist keyIntegration
        invokes foreign delta step =>
      refine hg.collect data keyDist keyIntegration has integration step (fun e => ?_) hentry
        hjournal
      rw [Books.distUpdated_setDist _ _ _ e, foreign.entry_eq]
    | _ => simp [‹call.data = _›] at hdata
  · exact hg.other ht hdata

end Gated

theorem BooksRun.gated (hrun : BooksRun rt b₀ h b) (hempty : b₀.Empty) : Gated rt h b := by
  refine hrun.history (P := Gated rt) ?_ ?_
  · have hcount : b₀.integrationsCount = 0 := by
      rw [Books.integrationsCount, Books.journal, hempty]
      rfl
    have hdist : ∀ {d rem}, ¬ b₀.HasDist d rem := by simp [Books.HasDist, hempty _]
    have hintegration : ∀ {i}, ¬ b₀.HasIntegration i := by simp [Books.HasIntegration, hempty _]
    refine ⟨⟨fun hi => absurd hi hintegration, fun hi => absurd hi hintegration, fun hn => ?_⟩,
      fun hd => absurd hd hdist, fun hd => absurd hd hdist, fun hd => absurd hd hdist,
      fun hd => absurd hd hdist, fun _ => rfl, fun _ => rfl⟩
    rw [hcount] at hn
    exact absurd hn (Nat.not_lt_zero _)
  · intro h b l b' _ hg hs
    cases hs with
    | call ht => exact hg.step ht
    | outside hforeign =>
      have hentry := hforeign.entry_eq
      have hsame : ∀ k kᵢ, collections (⟨b, .outside, b'⟩ :: h) k kᵢ = collections h k kᵢ := by
        intro k kᵢ
        rw [collections_cons]
        rfl
      refine ⟨?_, ?_, ?_, ?_, ?_, ?_, ?_⟩
      · exact hg.registered.of_entry (fun p => by rw [hentry])
          (Books.integrationsCount_congr (by rw [hentry]))
      all_goals simp only [Books.HasDist, Books.HasIntegration, Books.integrationsCount,
        Books.journal, hentry, hsame]
      · exact hg.journal
      · exact hg.snapshot_le
      · exact hg.gate
      · exact hg.collected
      · exact hg.noDist
      · exact hg.noIntegration

theorem Gate.ones_subset {d : Distribution} (hg : Gate d) :
    ones d.collectedIntegrationsBitmap ⊆ Finset.range d.integrationsCountSnapshot.toNat :=
  fun n hn => Finset.mem_range.2 (hg.below n hn)

/-- The gate opens when every number below the snapshot has its bit. -/
theorem Gate.areAllIntegrationsCollected_iff {d : Distribution} (hg : Gate d) :
    d.areAllIntegrationsCollected = true ↔
      ∀ n < d.integrationsCountSnapshot.toNat, bit d.collectedIntegrationsBitmap n = true := by
  rw [Distribution.areAllIntegrationsCollected, decide_eq_true_eq, ge_iff_le,
    UInt16.le_iff_toNat_le, ← hg.card_eq]
  constructor
  · intro hle n hn
    rw [← mem_ones, Finset.eq_of_subset_of_card_le hg.ones_subset (by rwa [Finset.card_range])]
    exact Finset.mem_range.2 hn
  · intro hall
    have hle := Finset.card_le_card (s := Finset.range d.integrationsCountSnapshot.toNat)
      (t := ones d.collectedIntegrationsBitmap)
      fun n hn => mem_ones.2 (hall n (Finset.mem_range.1 hn))
    rwa [Finset.card_range] at hle

/-- The same, over the integrations and the calls that collected from them. -/
theorem Gated.areAllIntegrationsCollected_iff (hg : Gated rt h b) {d : Distribution}
    {rem : List (BitVec 8)} (hd : b.HasDist d rem) :
    d.areAllIntegrationsCollected = true ↔ ∀ i, b.HasIntegration i →
      i.registrationIndex < d.integrationsCountSnapshot →
      collections h (rt.distributionKey d.dzEpoch) (Identity.key rt (.integration i.programId)) =
        1 := by
  rw [(hg.gate hd).areAllIntegrationsCollected_iff]
  constructor
  · intro hall i hi hlt
    rw [hg.collected hd hi, if_pos (hall _ (UInt16.lt_iff_toNat_lt.1 hlt))]
  · intro hall n hn
    obtain ⟨i, hi, rfl⟩ := hg.registered.complete (hn.trans_le (hg.snapshot_le hd))
    have hone := hall i hi (UInt16.lt_iff_toNat_lt.2 hn)
    rw [hg.collected hd hi] at hone
    by_contra hbit
    rw [if_neg hbit] at hone
    cases hone

end

/-! ## On the ledger -/

theorem collections_map {σ τ : Type} (f : σ → τ) (h : List (Entry σ Label)) (k kᵢ : Pubkey) :
    collections (h.map (Entry.map f)) k kᵢ = collections h k kᵢ := by
  rw [collections, List.countP_map]
  rfl

theorem integration_gate_honest {rt : Runtime} {L₀ L : RevenueLedger} {h : History}
    (hg : Genesis rt L₀) (hrun : LedgerRun rt L₀ h L) :
    (∀ (k k' : Pubkey) (i i' : RewardsIntegration) (rem rem' : List (BitVec 8)),
      view ID L k = some (i, rem) → view ID L k' = some (i', rem') →
      i.registrationIndex = i'.registrationIndex → k = k' ∧ i = i') ∧
    (∀ (k : Pubkey) (i : RewardsIntegration) (rem : List (BitVec 8)), view ID L k = some (i, rem) →
      ∃ (j : Journal) (jrem : List (BitVec 8)), view ID L rt.journalKey = some (j, jrem) ∧
        i.registrationIndex < j.integrationsCount) ∧
    (∀ (k : Pubkey) (j : Journal) (jrem : List (BitVec 8)), view ID L k = some (j, jrem) →
      ∀ n < j.integrationsCount, ∃ (k' : Pubkey) (i : RewardsIntegration) (rem : List (BitVec 8)),
        view ID L k' = some (i, rem) ∧ i.registrationIndex = n) ∧
    ∀ (k : Pubkey) (d : Distribution) (rem : List (BitVec 8)), view ID L k = some (d, rem) →
      (∃ (j : Journal) (jrem : List (BitVec 8)), view ID L rt.journalKey = some (j, jrem) ∧
        d.integrationsCountSnapshot ≤ j.integrationsCount) ∧
      (ones d.collectedIntegrationsBitmap).card = d.integrationsCollectedCount.toNat ∧
      (∀ n, bit d.collectedIntegrationsBitmap n = true → n < d.integrationsCountSnapshot.toNat) ∧
      (∀ (kᵢ : Pubkey) (i : RewardsIntegration) (irem : List (BitVec 8)),
        view ID L kᵢ = some (i, irem) → collections h k kᵢ =
          if bit d.collectedIntegrationsBitmap i.registrationIndex.toNat = true then 1 else 0) ∧
      (d.areAllIntegrationsCollected = true ↔
        ∀ (kᵢ : Pubkey) (i : RewardsIntegration) (irem : List (BitVec 8)),
          view ID L kᵢ = some (i, irem) → i.registrationIndex < d.integrationsCountSnapshot →
            collections h k kᵢ = 1) := by
  obtain ⟨hc, hbooks⟩ := hrun.books hg
  have hgated := hbooks.gated hg.books_empty
  have hintegration : ∀ {k i rem}, view ID L k = some (i, rem) →
      k = Identity.key rt (.integration i.programId) ∧ (books rt L).HasIntegration i :=
    fun hview => ⟨(hc.of_view hview).1, _, (hc.of_view hview).2.1⟩
  have hjournal : (books rt L).entry .journal ≠ none → ∃ (j : Journal) (jrem : List (BitVec 8)),
      view ID L rt.journalKey = some (j, jrem) ∧
        (books rt L).integrationsCount = j.integrationsCount.toNat := by
    intro hsome
    obtain ⟨⟨s, jrem⟩, hs⟩ := Option.ne_none_iff_exists'.1 hsome
    obtain ⟨j, rfl⟩ := (hbooks.proper hg.books_empty).journal hs
    exact ⟨j, jrem, view_eq_stateAt.2 hs, Books.integrationsCount_eq hs⟩
  refine ⟨?_, ?_, ?_, ?_⟩
  · intro k k' i i' rem rem' hview hview' hindex
    obtain ⟨hk, hi⟩ := hintegration hview
    obtain ⟨hk', hi'⟩ := hintegration hview'
    have heq := hgated.registered.distinct hi hi' hindex
    exact ⟨by rw [hk, hk', heq], heq⟩
  · intro k i rem hview
    obtain ⟨-, hi⟩ := hintegration hview
    have hlt := hgated.registered.bounded hi
    obtain ⟨j, jrem, hj, hcount⟩ := hjournal fun hnone => by
      rw [Books.integrationsCount, Books.journal, hnone] at hlt
      exact absurd hlt (Nat.not_lt_zero _)
    rw [hcount] at hlt
    exact ⟨j, jrem, hj, UInt16.lt_iff_toNat_lt.2 hlt⟩
  · intro k j jrem hview n hn
    have hcount := Books.integrationsCount_eq (hc.of_view hview).2.1
    obtain ⟨i, ⟨rem, hi⟩, hindex⟩ := hgated.registered.complete
      (hcount ▸ UInt16.lt_iff_toNat_lt.1 hn)
    exact ⟨_, i, rem, view_eq_stateAt.2 hi, UInt16.toNat_inj.1 hindex⟩
  · intro k d rem hview
    obtain ⟨hk, has, -, -⟩ := hc.of_view hview
    have has : (books rt L).HasDist d rem := has
    have hk : k = rt.distributionKey d.dzEpoch := hk
    obtain ⟨j, jrem, hj, hcount⟩ := hjournal (hgated.journal has)
    have hle := hgated.snapshot_le has
    rw [hcount] at hle
    refine ⟨⟨j, jrem, hj, UInt16.le_iff_toNat_le.2 hle⟩, (hgated.gate has).card_eq,
      fun n hbit => (hgated.gate has).below n (mem_ones.2 hbit), ?_, ?_⟩
    · intro kᵢ i irem hviewᵢ
      obtain ⟨hkᵢ, hi⟩ := hintegration hviewᵢ
      rw [hk, hkᵢ, ← collections_map (books rt)]
      exact hgated.collected has hi
    · rw [hgated.areAllIntegrationsCollected_iff has]
      constructor
      · intro hall kᵢ i irem hviewᵢ hlt
        obtain ⟨hkᵢ, hi⟩ := hintegration hviewᵢ
        rw [hk, hkᵢ, ← collections_map (books rt)]
        exact hall i hi hlt
      · rintro hall i ⟨irem, hi⟩ hlt
        have hone := hall _ i irem (view_eq_stateAt.2 hi) hlt
        rwa [hk, ← collections_map (books rt)] at hone

/-- The one integration of the epoch is collected once. -/
theorem integration_gate_honest_epoch :
    ∃ (h : History) (L : RevenueLedger) (d : Distribution) (rem : List (BitVec 8)),
      LedgerRun (Sample.runtime Sample.debts Sample.shares) (Sample.genesis 1000 700) h L ∧
      view ID L Sample.distribution = some (d, rem) ∧ d.integrationsCountSnapshot = 1 ∧
      d.areAllIntegrationsCollected = true ∧ collections h Sample.distribution Sample.integration = 1 := by
  obtain ⟨h, L, hrun, -, hP⟩ := Sample.exists_epoch (P := fun _ L =>
    (view (T := Distribution) ID L Sample.distribution).any (fun x =>
      x.1.integrationsCountSnapshot = 1 ∧ x.1.areAllIntegrationsCollected = true) ∧
    (view (T := RewardsIntegration) ID L Sample.integration).any fun x =>
      x.1.registrationIndex = 0) (by decide +kernel)
  obtain ⟨hdist, hintegration⟩ := of_decide_eq_true hP
  obtain ⟨⟨d, rem⟩, hd, hfacts⟩ := (Option.any_eq_true _ _).1 hdist
  obtain ⟨⟨i, irem⟩, hi, hindex⟩ := (Option.any_eq_true _ _).1 hintegration
  obtain ⟨hsnapshot, hall⟩ := of_decide_eq_true hfacts
  have hindex : i.registrationIndex = 0 := of_decide_eq_true hindex
  obtain ⟨-, -, -, hgate⟩ := integration_gate_honest (Sample.genesis_unused 1000 700) hrun
  obtain ⟨-, -, -, -, hcollected⟩ := hgate _ d rem hd
  refine ⟨h, L, d, rem, hrun, hd, hsnapshot, hall, hcollected.1 hall _ i irem hi ?_⟩
  rw [hindex, hsnapshot]
  decide

end DoubleZero.Revenue
