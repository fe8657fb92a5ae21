import DoubleZero.Revenue.Image
import DoubleZero.Revenue.Invariant.Run
import DoubleZero.Revenue.Safety.Contributors
import DoubleZero.Revenue.Safety.Governance
import DoubleZero.Revenue.Safety.Integration
import DoubleZero.Revenue.Safety.RewardSplit
import DoubleZero.Codecs

/-!
# From instruction bytes to account bytes

Clients read the accounts of the program with `checked_from_bytes_with_discriminator`. That they see
what the program sees needs every stored value to fit its layout: keys and hashes of 32 bytes, and
eight recipients. `Books.Fits` is that invariant. A value of another size would have to come in with
a call, and neither instruction data read off bytes nor an account list has one.
-/

namespace DoubleZero.Revenue

open DoubleZero.Lib DoubleZero.Lib.Borsh DoubleZero.Solana

/-! ## What calls carry -/

/-- A hash as Borsh writes it. -/
def Hash.codec : Codec Hash := .bigEndian 32 Hash.val Hash.mk

theorem Hash.codec_exact : Hash.codec.Exact := Codec.bigEndian_exact (fun _ => rfl) fun _ _ => rfl

/-- A call as it comes in: instruction data read off bytes, and accounts with keys of 32 bytes. -/
structure Call.Received (sha256 : String → Bytes) (proof : Codec MerkleProof) (call : Call) :
    Prop where
  data : ∃ bytes, (InstructionData.codec sha256 Hash.codec proof).tryFromSlice bytes = .ok call.data
  accounts : ∀ m ∈ call.accounts, Pubkey.pod.Fits m.key

theorem Call.Received.fits {sha256 : String → Bytes} {proof : Codec MerkleProof} {call : Call}
    (h : call.Received sha256 proof) (hproof : proof.Exact)
    (hselectors : (InstructionData.selectorNames.map (Discriminator.newSha2 sha256)).Nodup) :
    InstructionData.Fits Hash.codec proof call.data := by
  have hexact := InstructionData.codec_exact Hash.codec_exact hproof hselectors
  obtain ⟨bytes, hbytes⟩ := h.data
  exact hexact.serialize_iff.1 ⟨bytes, hexact.tryFromSlice_eq_ok.1 hbytes⟩

theorem Pubkey.pod_fits_default : Pubkey.pod.Fits default := by
  show (default : Pubkey).val < 256 ^ 32
  decide

theorem Hash.pod_fits_default : Hash.pod.Fits default := by
  show (default : Hash).val < 256 ^ 32
  decide

namespace RecipientShares

variable {recipients : List (Pubkey × UInt16)} {shares : RecipientShares}

/-- `new` fills the array. -/
theorem new_fits (h : new recipients = some shares)
    (hkeys : ∀ recipient ∈ recipients, Pubkey.pod.Fits recipient.1) :
    RecipientShares.pod.Fits shares := by
  unfold new at h
  split at h
  · cases h
  · next hle =>
    simp only [Option.bind_eq_bind, Option.bind_eq_some_iff] at h
    obtain ⟨⟨out, total⟩, hout, h⟩ := h
    split at h
    · cases h
    · simp only [Option.pure_def, Option.some.injEq] at h
      subst h
      obtain ⟨rs, hrs, -, hvalues⟩ := addRecipients_eq hout
      obtain rfl : out = rs := by simpa using hrs
      have hlength : out.length = recipients.length := by
        simpa using congrArg List.length hvalues
      refine pod_fits.2 ⟨?_, fun r hr => ?_⟩
      · rw [List.length_append, List.length_replicate]
        omega
      · rcases List.mem_append.1 hr with hr | hr
        · have hmem := List.mem_map_of_mem (f := fun r => (r.recipientKey, r.share.value)) hr
          rw [hvalues] at hmem
          obtain ⟨recipient, hrecipient, heq⟩ := List.mem_map.1 hmem
          rw [← (Prod.mk.inj heq).1]
          exact hkeys recipient hrecipient
        · rw [List.eq_of_mem_replicate hr]
          exact Pubkey.pod_fits_default

end RecipientShares

/-! ## What entries hold -/

def Books.Fits (b : Books) : Prop :=
  ∀ i s rem, b.entry i = some (s, rem) → Imaged.Fits s

section

variable {rt : Runtime} {call : Call} {b b' : Books} {proof : Codec MerkleProof}

theorem tryConfigure_fits {c c' : ProgramConfig} {setting : ProgramConfiguration}
    {s s' : Exec AccountState} (h : c.tryConfigure rt setting s = .ok (c', s'))
    (hsetting : setting.Fits) (hc : ProgramConfig.pod.Fits c) : ProgramConfig.pod.Fits c' := by
  obtain ⟨hsettings, hrange, hadmin⟩ := tryConfigure_settings h
  have hdebt := congrArg Settings.debtAccountantKey hsettings
  have hrewards := congrArg Settings.rewardsAccountantKey hsettings
  have hcontributor := congrArg Settings.contributorManagerKey hsettings
  have hswap := congrArg Settings.sol2zSwapProgramId hsettings
  simp only [Settings.of] at hdebt hrewards hcontributor hswap
  rw [ProgramConfig.pod_fits] at hc ⊢
  obtain ⟨ha, hd, hr, hm, hp⟩ := hc
  rw [hadmin, hdebt, hrewards, hcontributor, hswap]
  cases setting with
  | debtAccountant key => exact ⟨ha, hsetting, hr, hm, hp⟩
  | rewardsAccountant key => exact ⟨ha, hd, hsetting, hm, hp⟩
  | contributorManager key => exact ⟨ha, hd, hr, hsetting, hp⟩
  | sol2zSwapProgram programId => exact ⟨ha, hd, hr, hm, hsetting⟩
  | _ => exact ⟨ha, hd, hr, hm, hp⟩

/-- The hashes an action brings. -/
def DistAction.Fits : DistAction → Prop
  | .configureDebt _ _ merkleRoot => Hash.pod.Fits merkleRoot
  | .configureRewards _ merkleRoot => Hash.pod.Fits merkleRoot
  | _ => True

theorem DistStep.fits {a : DistAction} {d d' : Distribution} {rem rem' : List (BitVec 8)}
    (hstep : DistStep rt a (d, rem) (d', rem')) (ha : a.Fits) (hd : Distribution.pod.Fits d) :
    Distribution.pod.Fits d' := by
  rw [Distribution.pod_fits] at hd ⊢
  cases hstep with
  | configureDebt => exact ⟨ha, hd.2⟩
  | configureRewards => exact ⟨hd.1, ha⟩
  | _ => exact hd

theorem Initialized.fits {c : ProgramConfig} {j : Journal} {prepaid : UInt64} {d : Distribution}
    (h : Initialized rt c j prepaid d) : Distribution.pod.Fits d := by
  rw [h.rest_eq, Distribution.pod_fits]
  exact ⟨Hash.pod_fits_default, Hash.pod_fits_default⟩

namespace Books.Fits

variable {s : AccountState} {i : Identity} {rem : List (BitVec 8)}

theorem entry (h : b.Fits) (he : b.entry i = some (s, rem)) : Imaged.Fits s := h i s rem he

theorem of_entry (h : b.Fits) (he : b'.entry = b.entry) : b'.Fits := by
  intro i s rem hs
  exact h.entry (he ▸ hs)

theorem set (h : b.Fits) (hs : Imaged.Fits s) : (b.set i s rem).Fits := by
  intro j s' rem' hs'
  by_cases hj : j = i
  · subst hj
    rw [Books.set_entry_self] at hs'
    cases hs'
    exact hs
  · rw [Books.set_entry_of_ne _ _ _ hj] at hs'
    exact h.entry hs'

theorem dist {d : Distribution} (h : b.Fits) (hd : b.HasDist d rem) : Distribution.pod.Fits d :=
  h.entry hd

theorem step {b₁ : Books} {a : DistAction} {d d' : Distribution} {rem' : List (BitVec 8)}
    (h : b.Fits) (hd : b.HasDist d rem) (hstep : DistStep rt a (d, rem) (d', rem')) (ha : a.Fits)
    (h₁ : b₁.Fits) : (b₁.setDist d' rem').Fits :=
  h₁.set (s := .distribution d') (hstep.fits ha (h.dist hd))

end Books.Fits

/-- A transition whose call brings nothing too long leaves nothing too long behind. The program of a
new integration comes with the accounts, not with the data. -/
theorem Transition.fits (ht : Transition rt call b b')
    (hdata : InstructionData.Fits Hash.codec proof call.data)
    (hprogram : ∀ programId, b.entry (.integration programId) = none →
      b'.entry (.integration programId) ≠ none → Pubkey.pod.Fits programId) (h : b.Fits) :
    b'.Fits := by
  cases ht with
  | initializeProgram data new funds vacant =>
    refine Books.Fits.set (h.of_entry rfl) (ProgramConfig.pod_fits.2 ?_)
    exact ⟨Pubkey.pod_fits_default, Pubkey.pod_fits_default, Pubkey.pod_fits_default,
      Pubkey.pod_fits_default, Pubkey.pod_fits_default⟩
  | setAdmin data config =>
    rw [data] at hdata
    obtain ⟨-, hrest⟩ := ProgramConfig.pod_fits.1 (h.entry config)
    refine h.set (s := .programConfig _) (ProgramConfig.pod_fits.2 ?_)
    exact ⟨hdata, hrest⟩
  | configureProgram data config signed configured =>
    rw [data] at hdata
    exact h.set (s := .programConfig _) (tryConfigure_fits configured hdata (h.entry config))
  | initializeSwapDestination data config funds vacant =>
    refine Books.Fits.of_entry (h.set (s := .programConfig _) ?_) rfl
    have hc := ProgramConfig.pod_fits.1 (h.entry config)
    exact ProgramConfig.pod_fits.2 hc
  | initializeJournal data new funds exempt vacant =>
    exact Books.Fits.set (h.of_entry rfl) (Journal.pod_fits _)
  | initializeContributorRewards data new funds =>
    rw [data] at hdata
    refine Books.Fits.set (h.of_entry rfl) (ContributorRewards.pod_fits.2 ?_)
    refine ⟨Pubkey.pod_fits_default, hdata, RecipientShares.pod_fits.2 ⟨rfl, fun r hr => ?_⟩⟩
    rw [List.eq_of_mem_replicate hr]
    exact Pubkey.pod_fits_default
  | setRewardsManager data running signed entry unblocked =>
    rw [data] at hdata
    obtain ⟨-, hrest⟩ := ContributorRewards.pod_fits.1 (h.entry entry)
    refine h.set (s := .contributorRewards _) (ContributorRewards.pod_fits.2 ?_)
    exact ⟨hdata, hrest⟩
  | configureContributorRewards data running entry signed configured keyContributor =>
    rw [data] at hdata
    obtain ⟨hmanager, hservice, hshares⟩ := ContributorRewards.pod_fits.1 (h.entry entry)
    refine h.set (s := .contributorRewards _) (ContributorRewards.pod_fits.2 ?_)
    rcases tryConfigureContributor_cases configured with
      ⟨recipients, shares, rfl, hnew, rfl⟩ | ⟨shouldBlock, rfl, rfl⟩
    · exact ⟨hmanager, hservice, RecipientShares.new_fits hnew fun r hr => (hdata.2 r hr).1⟩
    · exact ⟨hmanager, hservice, hshares⟩
  | initializeDeposit data new funds exempt prefunded =>
    rw [data] at hdata
    refine Books.Fits.set (h.of_entry rfl) (SolanaValidatorDeposit.pod_fits.2 ?_)
    exact hdata
  | @initializeIntegration c crem jrem j lamports programId count data config signed new journal
      counted funds =>
    refine Books.Fits.set (Books.Fits.set (h.of_entry rfl) ?_) (Journal.pod_fits _)
    refine RewardsIntegration.pod_fits.2 (hprogram programId new ?_)
    rw [Books.set_entry_of_ne _ _ _ (by simp), Books.set_entry_self]
    simp
  | migrate data journal migrated =>
    intro i s rem hs
    rcases migrated.entry i with hsame | ⟨d, rem₀, d', rem', rfl, hd, hstep, hd', -⟩
    · exact h.entry (hsame ▸ hs)
    · cases hd'.symm.trans hs
      exact hstep.fits trivial (h.entry hd)
  | verify data => exact h
  | initializeDistribution data config unpaused signed journal new advanced initialized rate_eq
      funds exempt moved vacant =>
    refine Books.Fits.set (Books.Fits.of_entry (h.set (s := .programConfig _) ?_) moved.entry_eq)
      initialized.fits
    have hc := ProgramConfig.pod_fits.1 (h.entry config)
    rw [advanced.rest_eq]
    exact ProgramConfig.pod_fits.2 hc
  | configureDebt data running signed has allowed charged step =>
    rw [data] at hdata
    exact h.step has step hdata h
  | configureRewards data running signed has allowed step =>
    rw [data] at hdata
    exact h.step has step hdata h
  | finalizeZeroDebt data running signed has allowed step same => exact h.step has step trivial h
  | setEconomicBurnRate data valid running signed has step => exact h.step has step trivial h
  | finalizeDebt data running signed has allowed step paid =>
    exact h.step has step trivial (h.of_entry rfl)
  | finalizeRewards data running has allowed configured aged step paid room keyDist =>
    exact h.step has step trivial (h.of_entry rfl)
  | enableWriteOff data running activated has keyDist step paid =>
    exact h.step has step trivial (h.of_entry rfl)
  | collect data running has integration keyDist keyIntegration invokes foreign delta step =>
    exact h.step has step trivial (h.of_entry foreign.entry_eq)
  | distribute data indexed running has keyDist contributor share recipients split payouts step burn
      relayed keyContributor =>
    refine Books.Fits.of_entry ?_ (relayed.entry_eq.trans burn.entry_eq)
    exact h.step has step trivial (h.of_entry payouts.entry_eq)
  | pay data indexed running has keyDist deposit journal step enough moved =>
    refine Books.Fits.of_entry ?_ moved.entry_eq
    exact Books.Fits.set (h.step has step trivial h) (Journal.pod_fits _)
  | @writeOff c d d' w w' rem rem' prem wrem wrem' p amount proof leafIndex b₁ data indexed running
      signed has keyDist keyBook deposit short step written hasBook later bookStep keyDeposit =>
    have hdeposit := SolanaValidatorDeposit.pod_fits.1 (h.entry deposit)
    subst written
    have h₁ : Books.Fits (b.set (.deposit p.nodeId) (.solanaValidatorDeposit
        { p with writtenOffSolDebt := p.writtenOffSolDebt + amount }) prem) :=
      h.set (SolanaValidatorDeposit.pod_fits.2 hdeposit)
    have h₂ := h.step has step trivial h₁
    exact h₂.step hasBook bookStep trivial h₂
  | sweepNothing data running has journal next zero step keyDist =>
    exact Books.Fits.set (h.step has step trivial h) (Journal.pod_fits _)
  | sweep data running has journal next debt nonzero enough invokes foreign transfer step returned
      keyDist =>
    refine Books.Fits.set (h.step has step trivial (h.of_entry ?_)) (Journal.pod_fits _)
    exact transfer.entry_eq.trans foreign.entry_eq
  | withdrawSol data running journal enough moved credited ready =>
    refine Books.Fits.of_entry ?_ moved.entry_eq
    exact h.set (s := .journal _) (Journal.pod_fits _)
  | withdrawDeposit data running deposit amount nonzero authorized moved =>
    exact h.of_entry moved.entry_eq

/-- The program of a new integration is one of the accounts. -/
theorem registered_given {L L' : RevenueLedger} {programId : Pubkey} (hc : Canonical rt L)
    (ha : call.Admissible rt) (h : process rt call L = .ok L')
    (hold : (books rt L).entry (.integration programId) = none)
    (hnew : (books rt L').entry (.integration programId) ≠ none) :
    ∃ m ∈ call.accounts, m.key = programId := by
  obtain ⟨r, hr, rfl⟩ := process_eq_ok.1 h
  obtain ⟨-, ht⟩ := process_followed hc ha hr
  have hdata : call.data = .initializeRewardsIntegration := by
    by_contra hdata
    have hw : (Identity.integration programId).kind ∉ call.data.writes := by
      revert hdata
      cases call.data <;> simp [InstructionData.writes, Identity.kind]
    exact hnew ((ht.frame hw).trans hold)
  simp only [tryProcessInstruction, hdata, tryInitializeRewardsIntegration, ↓verified_bind_ok,
    ↓tryNext_bind_ok, ↓require_bind_ok, Exec.advance_iter, Exec.advance_ledger, Exec.info_key,
    Call.exec_iter, Call.exec_ledger] at hr
  obtain ⟨m₀, r₀, hit, c, crem, hvc, m₁, r₁, rfl, hsig, hadmin, m₂, r₂, rfl, -, hr⟩ := hr
  obtain ⟨m₃, r₃, rfl, -, m₄, r₄, rfl, -, hkey, hr⟩ := hr
  obtain ⟨⟨⟩, s₁, hcreate, hr⟩ := bind_eq_ok.1 hr
  obtain ⟨L₁, e₁, hal, -⟩ := createOwned_ok (by decide) hcreate
  cases e₁
  simp only [Exec.info_key, Exec.advance_ledger, Call.exec_ledger, hkey] at hal
  obtain ⟨href₁, -, -, howner, hzeroed⟩ := (Refines.start hc).create (i := .integration m₂.key) hal
  simp only [↓tryInitialize_bind_ok, ↓zeroCopyMut_bind_ok, ↓unwrap!_bind_ok, ↓store_bind_ok,
    store_eq_ok, Exec.advance_iter, Exec.advance_ledger, Exec.info_key, hkey] at hr
  obtain ⟨len, hlen, -, m₅, r₅, rfl, -, j, jrem, hvj, count, hcount, rfl⟩ := hr
  cases hzeroed.symm.trans hlen
  have hkj : m₅.key = Identity.key rt .journal := (href₁.journal hvj).1
  rw [Nat.sub_self, List.replicate_zero] at hnew
  -- of the integrations only the one of the third account is written
  refine ⟨m₂, by simp [hit], ?_⟩
  by_contra hne
  have hi : Identity.integration programId ≠ Identity.integration m₂.key :=
    fun heq => hne (Identity.integration.inj heq).symm
  have hold₁ : stateAt L₁ (Identity.key rt (.integration programId)) = none := by
    rw [stateAt_allocated hal (by simp)]
    exact hold
  have hjowner := (stateAt_eq_some.1 (view_eq_stateAt.1 hvj)).1
  refine hnew ?_
  show stateAt (Ledger.write (Ledger.write L₁ (Identity.key rt (.integration m₂.key)) _) m₅.key _)
    (Identity.key rt (.integration programId)) = none
  rw [stateAt_write _ _ _ _ _ (by rw [Ledger.write_owner]; exact hjowner), if_neg (by simp [hkj]),
    stateAt_write _ _ _ _ _ howner, if_neg (by simpa using hi), hold₁]

end

/-! ## Runs -/

/-- A call is received, and what happens outside needs nothing. -/
def Label.Received (sha256 : String → Bytes) (proof : Codec MerkleProof) : Label → Prop
  | .call c => c.Received sha256 proof
  | .outside => True

section

variable {sha256 : String → Bytes} {proof : Codec MerkleProof} {rt : Runtime}
  {L₀ L L' : RevenueLedger} {l : Label} {h : History} {k : Pubkey} {s : AccountState}
  {rem : List (BitVec 8)}

theorem Step.fits (hproof : proof.Exact)
    (hselectors : (InstructionData.selectorNames.map (Discriminator.newSha2 sha256)).Nodup)
    (hc : Canonical rt L) (hstep : Step rt l L L') (hl : l.Received sha256 proof)
    (hfits : (books rt L).Fits) : (books rt L').Fits := by
  cases hstep with
  | @call call _ _ ha hprocess =>
    obtain ⟨r, hr, hL'⟩ := process_eq_ok.1 hprocess
    have ht := (process_followed hc ha hr).2
    rw [hL'] at ht
    refine ht.fits (Call.Received.fits hl hproof hselectors) (fun programId hold hnew => ?_) hfits
    obtain ⟨m, hm, rfl⟩ := registered_given hc ha hprocess hold hnew
    exact hl.accounts m hm
  | outside hforeign => exact hfits.of_entry (books_foreign hforeign).entry_eq

theorem LedgerRun.fits (hproof : proof.Exact)
    (hselectors : (InstructionData.selectorNames.map (Discriminator.newSha2 sha256)).Nodup)
    (hg : Genesis rt L₀) (hrun : LedgerRun rt L₀ h L)
    (hreceived : ∀ x ∈ h, x.label.Received sha256 proof) : (Revenue.books rt L).Fits := by
  induction hrun with
  | start =>
    intro i s rem hs
    rw [hg.books_empty i] at hs
    cases hs
  | next hr hstep ih =>
    obtain ⟨hlast, hrest⟩ := List.forall_mem_cons.1 hreceived
    exact Step.fits hproof hselectors (LedgerRun.books hg hr).1 hstep hlast (ih hrest)

/-- An account stays at its address, as what it was created for. -/
theorem LedgerRun.stateAt_stays (hc : Canonical rt L) (hs : stateAt L k = some (s, rem))
    (hrun : LedgerRun rt L h L') :
    ∃ s' rem', stateAt L' k = some (s', rem') ∧ s'.identity = s.identity := by
  induction hrun with
  | start => exact ⟨s, rem, hs, rfl⟩
  | @next h L₁ L' l hr hstep ih =>
    obtain ⟨s₁, rem₁, hs₁, hid₁⟩ := ih
    have hc₁ : Canonical rt L₁ := hr.invariant hc fun hc hstep => (step_refines hc hstep).1
    obtain ⟨hc', hbooks⟩ := step_refines hc₁ hstep
    obtain rfl := hc₁.atKey hs₁
    have hstays : (Revenue.books rt L').entry s₁.identity ≠ none := by
      intro hnone
      have hnone₁ : (Revenue.books rt L₁).entry s₁.identity = none := by
        cases hbooks with
        | call ht => exact ht.none_of hnone
        | outside hforeign => rwa [← hforeign.entry_eq]
      cases hs₁.symm.trans hnone₁
    obtain ⟨⟨s', rem'⟩, hs'⟩ := Option.ne_none_iff_exists'.1 hstays
    exact ⟨s', rem', hs', (Identity.key_inj.1 (hc'.atKey hs')).symm.trans hid₁⟩

/-- What fits the books fits the ledger. -/
theorem Books.Fits.data (hfits : (books rt L).Fits) (hc : Canonical rt L)
    (howner : (L k).owner = ID) : (L k).data.Fits := by
  cases hdata : (L k).data with
  | zeroCopy s rem =>
    have hs : stateAt L k = some (s, rem) := stateAt_eq_some.2 ⟨howner, hdata⟩
    have hentry : (books rt L).entry s.identity = some (s, rem) := by
      show stateAt L _ = _
      rw [← hc.atKey hs, hs]
    exact hfits.entry hentry
  | _ => trivial

theorem AccountState.name_of_identity {s s' : AccountState} (h : s'.identity = s.identity) :
    Imaged.name s' = Imaged.name s := by
  cases s <;> cases s' <;> first | rfl | cases h

/-- The bytes of an account of the program, in every ledger reached by calls that came in as bytes:
a client reads off them what the program reads, as the same type, and it will be able to in every
ledger that follows. -/
theorem accounts_readable (hproof : proof.Exact)
    (hselectors : (InstructionData.selectorNames.map (Discriminator.newSha2 sha256)).Nodup)
    (hnodup : (accountNames.map (discriminatorSlice sha256)).Nodup)
    (hzero : List.replicate DISCRIMINATOR_LEN 0#8 ∉ accountNames.map (discriminatorSlice sha256))
    (hg : Genesis rt L₀) (hrun : LedgerRun rt L₀ h L)
    (hreceived : ∀ x ∈ h, x.label.Received sha256 proof) (howner : (L k).owner = ID) (T : Type)
    [ZeroCopy AccountState T] [Inhabited T] [LaidOut AccountState T] :
    (∀ bytes, (L k).data.image sha256 = some bytes →
      checkedFromBytesWithDiscriminator sha256 AccountState T bytes = view ID L k) ∧
    ∀ (t : T) (rem : Bytes), view ID L k = some (t, rem) →
      ∀ (L' : RevenueLedger) (h' : History), LedgerRun rt L h' L' →
        (∀ x ∈ h', x.label.Received sha256 proof) →
        ∃ (bytes : Bytes) (t' : T) (rem' : Bytes), (L' k).data.image sha256 = some bytes ∧
          checkedFromBytesWithDiscriminator sha256 AccountState T bytes = some (t', rem') ∧
          view ID L' k = some (t', rem') ∧
          (wrap t' : AccountState).identity = (wrap t : AccountState).identity := by
  have hdiscriminating := discriminating_of hnodup hzero
  have hc := (LedgerRun.books hg hrun).1
  have hread : ∀ (L' : RevenueLedger) (h' : History), LedgerRun rt L h' L' →
      (∀ x ∈ h', x.label.Received sha256 proof) → (L' k).owner = ID → ∀ bytes,
      (L' k).data.image sha256 = some bytes →
      checkedFromBytesWithDiscriminator sha256 AccountState T bytes = view ID L' k := by
    intro L' h' hrun' hreceived' howner' bytes hbytes
    have hrun₁ := hrun.append hrun'
    have hfits := LedgerRun.fits hproof hselectors hg hrun₁ fun x hx =>
      (List.mem_append.1 hx).elim (hreceived' x) (hreceived x)
    exact checkedFromBytes_view hdiscriminating howner' hbytes
      (hfits.data (LedgerRun.books hg hrun₁).1 howner')
  refine ⟨fun bytes hbytes => hread L [] .start (by simp) howner bytes hbytes, ?_⟩
  intro t rem hview L' h' hrun' hreceived'
  obtain ⟨s', rem', hs', hid⟩ := hrun'.stateAt_stays hc (view_eq_stateAt.1 hview)
  obtain ⟨t', rfl⟩ := (LaidOut.name_eq s').1
    ((AccountState.name_of_identity hid).trans (LaidOut.name_wrap t))
  have hview' : view ID L' k = some (t', rem') := view_eq_stateAt.2 hs'
  obtain ⟨howner', hdata'⟩ := stateAt_eq_some.1 hs'
  obtain ⟨bytes, hbytes⟩ : ∃ bytes, (L' k).data.image sha256 = some bytes := by
    rw [hdata']
    exact ⟨_, AccountData.image_wrap t' rem'⟩
  have hread' := hread L' h' hrun' hreceived' howner' bytes hbytes
  exact ⟨bytes, t', rem', hbytes, hread'.trans hview', hview', hid⟩

namespace Sample

/-- The digests of the names of instructions and accounts. -/
def namesSha256 (name : String) : Bytes :=
  (toLE 8 (((DoubleZero.Sample.digests ++ accountDigests).lookup name).getD 0)).reverse

theorem selectors_nodup :
    (InstructionData.selectorNames.map (Discriminator.newSha2 namesSha256)).Nodup := by
  decide +kernel

theorem received_of_fits {data : InstructionData} {accounts : List AccountMeta} {env : Env}
    (hdata : InstructionData.Fits Hash.codec DoubleZero.Sample.proofCodec data)
    (haccounts : ∀ m ∈ accounts, m.key.val < 256 ^ 32) :
    Call.Received namesSha256 DoubleZero.Sample.proofCodec ⟨data, accounts, env⟩ := by
  have hexact := InstructionData.codec_exact Hash.codec_exact DoubleZero.Sample.proofCodec_exact
    selectors_nodup
  obtain ⟨bytes, hbytes, hread⟩ := hexact.inverse.roundTrip data hdata
  exact ⟨⟨bytes, hread⟩, haccounts⟩

/-- The program is created, and an admin appointed. -/
def appointed : List Event := opening.take 2

/-- An accountant is appointed, and then another admin. -/
def reappointed : List Event :=
  [configure (.debtAccountant nodeA),
    later (.setAdmin nodeB) [writable programData, signed upgrader, writable config]]

theorem appointed_received : ∀ e ∈ reappointed ++ appointed, e.label.Received namesSha256
    DoubleZero.Sample.proofCodec := by
  have hadmin : admin.val < 256 ^ 32 := by decide
  have haccountant : nodeA.val < 256 ^ 32 := by decide
  have hnext : nodeB.val < 256 ^ 32 := by decide
  show ∀ e ∈ [_, _, _, _], _
  simp only [List.forall_mem_cons, List.not_mem_nil, false_implies, implies_true, and_true]
  exact ⟨received_of_fits haccountant (by decide), received_of_fits hnext (by decide),
    received_of_fits trivial (by decide), received_of_fits hadmin (by decide)⟩

end Sample

/-- A config is read off its bytes before and after a run in which it is written twice. -/
theorem accounts_readable_appointed :
    ∃ (h h' : History) (L L' : RevenueLedger) (c c' : ProgramConfig) (rem rem' bytes : Bytes),
      LedgerRun (Sample.runtime Sample.debts Sample.shares) (Sample.genesis 1000 700) h L ∧
      view ID L Sample.config = some (c, rem) ∧ c.adminKey = Sample.admin ∧
      (∀ bytes, (L Sample.config).data.image Sample.namesSha256 = some bytes →
        checkedFromBytesWithDiscriminator Sample.namesSha256 AccountState ProgramConfig bytes =
          some (c, rem)) ∧
      LedgerRun (Sample.runtime Sample.debts Sample.shares) L h' L' ∧ h'.length = 2 ∧
      (L' Sample.config).data.image Sample.namesSha256 = some bytes ∧
      checkedFromBytesWithDiscriminator Sample.namesSha256 AccountState ProgramConfig bytes =
        some (c', rem') ∧ c'.adminKey = Sample.nodeB ∧ c'.debtAccountantKey = Sample.nodeA := by
  obtain ⟨h, L, h', L', hrun, hrun', hlabels, hP⟩ := Sample.exists_runs_of_replay Sample.debts
    Sample.shares 1000 700 Sample.appointed Sample.reappointed (P := fun _ L h' L' =>
      h'.length = 2 ∧
      ((view (T := ProgramConfig) ID L Sample.config).any fun p => p.1.adminKey = Sample.admin) ∧
      (view (T := ProgramConfig) ID L' Sample.config).any fun p =>
        p.1.adminKey = Sample.nodeB ∧ p.1.debtAccountantKey = Sample.nodeA)
    (by decide +kernel) (by decide +kernel) (by decide +kernel)
  obtain ⟨hlength, hbefore, hafter⟩ := of_decide_eq_true hP
  obtain ⟨⟨c, rem⟩, hview, hadmin⟩ := (Option.any_eq_true _ _).1 hbefore
  obtain ⟨⟨c', rem'⟩, hview', hkeys⟩ := (Option.any_eq_true _ _).1 hafter
  obtain ⟨hadmin', haccountant⟩ := of_decide_eq_true hkeys
  have howner := (stateAt_eq_some.1 (view_eq_stateAt.1 hview)).1
  have hreceived : ∀ x ∈ h' ++ h,
      x.label.Received Sample.namesSha256 DoubleZero.Sample.proofCodec := by
    intro x hx
    obtain ⟨e, he, hreplayed⟩ := hlabels x hx
    exact hreplayed.label_eq ▸ Sample.appointed_received e he
  obtain ⟨hreads, hstays⟩ := accounts_readable DoubleZero.Sample.proofCodec_exact
    Sample.selectors_nodup (by decide +kernel) (by decide +kernel) (Sample.genesis_unused 1000 700)
    hrun (fun x hx => hreceived x (List.mem_append_right _ hx)) howner ProgramConfig
  obtain ⟨bytes, t', rem₁, hbytes, hread, hview₁, -⟩ := hstays c rem hview L' h' hrun'
    fun x hx => hreceived x (List.mem_append_left _ hx)
  cases hview'.symm.trans hview₁
  exact ⟨h, h', L, L', c, c', rem, rem', bytes, hrun, hview, of_decide_eq_true hadmin,
    fun bytes hbytes => (hreads bytes hbytes).trans hview, hrun', hlength, hbytes, hread, hadmin',
    haccountant⟩

end

end DoubleZero.Revenue
