import DoubleZero.Integration.System

/-!
# Replaying runs of both programs

The deployment of `Revenue.Sample` with one integration on it, which has an account and a bucket for
the first epoch. Their addresses are taken out of the unused ones.
-/

namespace DoubleZero.Integration

open DoubleZero.Lib DoubleZero.Solana DoubleZero.Revenue

/-! ## Events -/

/-- A call of the revenue program that invokes nothing, a collection from the integration, an
invocation of the integration, or a transfer by others. -/
inductive Event where
  | call (data : InstructionData) (accounts : List AccountMeta) (unixTimestamp : Int)
  | collect (accounts : List AccountMeta) (unixTimestamp : Int)
  | integration (accounts : List AccountMeta) (ix : Instruction)
  | outside (m : Move)

/-- The call of a collection, in which the integration withdraws. -/
def collectCall (scheme : AddressScheme) (id : Pubkey) (own : OwnAccounts)
    (accounts : List AccountMeta) (unixTimestamp : Int) : Call :=
  let call (cpi : RevenueLedger → Except ProgramError (RevenueLedger × _)) : Call :=
    ⟨.collectIntegrationRewards, accounts, unixTimestamp, none, cpi⟩
  call fun L =>
    match (call fun _ => .error .invalidArgument).withdrawAccounts with
    | some interface =>
      if calledProgram (call fun _ => .error .invalidArgument) L = some id then
        match withdraw scheme id own interface.metas L with
        | .ok L' => .ok (L', none)
        | .error _ => .error .invalidInstructionData
      else .error .invalidArgument
    | none => .error .notEnoughAccountKeys

namespace Event

variable (rt : Runtime) (id : Pubkey)

/-- What an event does to both programs. -/
def apply (st : State) : Event → Option State
  | .call data accounts unixTimestamp =>
    (Revenue.process rt ⟨data, accounts, unixTimestamp, none, fun L => .ok (L, none)⟩
      st.ledger).toOption.map fun L => ⟨st.own, L⟩
  | .collect accounts unixTimestamp =>
    (Revenue.process rt (collectCall rt.scheme id st.own accounts unixTimestamp)
      st.ledger).toOption.map fun L => ⟨st.own, L⟩
  | .integration accounts ix =>
    (process rt.scheme rt.rent id st.own accounts ix st.ledger).toOption.map fun p => ⟨p.1, p.2⟩
  | .outside m => (m.apply st.ledger).toOption.map fun L => ⟨st.own, L⟩

/-- Who is invoked. -/
def action (own : OwnAccounts) : Event → Action
  | .call data accounts unixTimestamp =>
    .revenue ⟨data, accounts, unixTimestamp, none, fun L => .ok (L, none)⟩
  | .collect accounts unixTimestamp =>
    .revenue (collectCall rt.scheme id own accounts unixTimestamp)
  | .integration accounts ix => .integration accounts ix
  | .outside _ => .outside

/-- What is possible on the chain. -/
def Lawful : Event → Prop
  | .call data _ _ => data ≠ .collectIntegrationRewards
  | .collect .. => True
  | .integration accounts _ => Privileged rt id none accounts
  | .outside (.tokens _ _ authority _) => ¬Derived rt authority ∧ ¬DerivedFrom rt.scheme id authority
  | .outside _ => True

end Event

/-- Takes the events, oldest first, through the state of both programs. -/
def replay (rt : Runtime) (id : Pubkey) : List Event → State → Option State
  | [], st => some st
  | e :: es, st => (e.apply rt id st).bind (replay rt id es)

section

variable {rt : Runtime} {id : Pubkey} {own : OwnAccounts} {L L' : RevenueLedger} {st st' : State}

theorem collectCall_lawful (accounts : List AccountMeta) (unixTimestamp : Int) :
    InvokesLawfully rt id (collectCall rt.scheme id own accounts unixTimestamp) own own := by
  refine ⟨fun L L' returnData hcpi => ?_, fun _ => rfl⟩
  unfold collectCall at hcpi
  dsimp only at hcpi
  split at hcpi
  · next interface hinterface =>
    split at hcpi
    · next hcalled =>
      split at hcpi
      · next L₁ hwithdraw =>
        cases hcpi
        have hcalled' : calledProgram (collectCall rt.scheme id own accounts unixTimestamp) L =
            some id := hcalled
        rw [if_pos hcalled']
        exact ⟨rfl, interface, hinterface, hwithdraw⟩
      · cases hcpi
    · cases hcpi
  · cases hcpi

theorem Move.keepsTokensOf {m : Move} (hm : Event.Lawful rt id (.outside m))
    (h : m.apply L = .ok L') : KeepsTokensOf rt.scheme id L L' := by
  cases m with
  | stay =>
    cases h
    exact keepsTokensOf_of_unpack fun _ _ ha => ha
  | lamports source target n =>
    obtain ⟨-, -, -, -, -, rfl⟩ := System.transfer_eq_ok.1 h
    refine keepsTokensOf_of_unpack fun k a ha => ?_
    rw [← ha]
    exact unpack_congr (by simp) (by simp)
  | tokens source target authority amount =>
    intro k a ha hderived
    refine (Books.KeepsAt.of_eq (b := books rt L) ha rfl).transfer (tokenTransfer_of_ok h) ?_
    rintro rfl
    obtain ⟨a', c, ha', -, -, -, howner, -⟩ := Token.transfer_eq_ok.1 h
    cases ha.symm.trans ha'
    exact hm.2 (howner ▸ hderived)

theorem Event.joint {e : Event} (he : e.Lawful rt id) (h : e.apply rt id st = some st') :
    Joint rt id (e.action rt id st.own) st st' := by
  cases e with
  | call data accounts unixTimestamp =>
    obtain ⟨L, hprocess, rfl⟩ := Option.map_eq_some_iff.1 h
    refine .revenue ⟨fun L₁ L' returnData hcpi => ?_, fun _ => rfl⟩
      (toOption_eq_some.1 hprocess)
    cases hcpi
    have hcalled : calledProgram ⟨data, accounts, unixTimestamp, none, fun L => .ok (L, none)⟩ L₁ ≠
        some id := by
      have hne : data ≠ .collectIntegrationRewards := he
      simp [calledProgram, hne]
    rw [if_neg hcalled]
  | collect accounts unixTimestamp =>
    obtain ⟨L, hprocess, rfl⟩ := Option.map_eq_some_iff.1 h
    exact .revenue (collectCall_lawful accounts unixTimestamp) (toOption_eq_some.1 hprocess)
  | integration accounts ix =>
    obtain ⟨p, hprocess, rfl⟩ := Option.map_eq_some_iff.1 h
    exact .integration he (toOption_eq_some.1 hprocess)
  | outside m =>
    obtain ⟨L, happly, rfl⟩ := Option.map_eq_some_iff.1 h
    have happly := toOption_eq_some.1 happly
    exact .outside (Move.foreign happly) (Move.keepsTokensOf he happly)

/-- What a replay goes through is a run of both programs. -/
theorem JointRun.of_replay {L₀ : RevenueLedger} {h : List (Entry State Action)} {es : List Event}
    (hrun : JointRun rt id L₀ h st) (hes : ∀ e ∈ es, e.Lawful rt id)
    (hreplay : replay rt id es st = some st') : ∃ h', JointRun rt id L₀ h' st' := by
  induction es generalizing h st with
  | nil =>
    cases hreplay
    exact ⟨h, hrun⟩
  | cons e es ih =>
    obtain ⟨st₁, happly, hrest⟩ := Option.bind_eq_some_iff.1 hreplay
    refine ih (.next hrun (Event.joint (hes e (by simp)) happly)) (fun e' he' => ?_) hrest
    exact hes e' (by simp [he'])

end

/-! ## A deployment -/

namespace Sample

open Revenue.Sample

def integrationDistribution : Pubkey := ⟨1032⟩
def integrationBucket : Pubkey := ⟨1034⟩

/-- The addresses of the first deployment, with two more for the integration. -/
noncomputable def address (x : List Seed × Pubkey) : Pubkey :=
  if x = (integrationDistributionSeeds 0, integrationProgram) then integrationDistribution
  else if x = (token2zPdaSeeds integrationDistribution, integrationProgram) then integrationBucket
  else Revenue.Sample.address x

theorem address_eq (x : List Seed × Pubkey) :
    (x = (integrationDistributionSeeds 0, integrationProgram) ∧ (address x).val = 1032) ∨
      (x = (token2zPdaSeeds integrationDistribution, integrationProgram) ∧
        (address x).val = 1034) ∨
      (address x = Revenue.Sample.address x ∧ (address x).val ≠ 1032 ∧ (address x).val ≠ 1034) := by
  unfold address
  split_ifs with h h'
  · exact .inl ⟨h, rfl⟩
  · exact .inr (.inl ⟨h', rfl⟩)
  · refine .inr (.inr ⟨rfl, ?_⟩)
    rcases address_cases x with ⟨i, hx, hi⟩ | ⟨⟨hle, -, -⟩, hm⟩ | hc
    · have hlt := table_lt hx
      simp only [hi]
      omega
    · simp only [hm]
      omega
    · simp only [hc]
      omega

theorem address_injective : Function.Injective address := by
  intro x y h
  have hval := congrArg Pubkey.val h
  rcases address_eq x with ⟨hx, hx'⟩ | ⟨hx, hx'⟩ | ⟨hx, hne, hne'⟩ <;>
    rcases address_eq y with ⟨hy, hy'⟩ | ⟨hy, hy'⟩ | ⟨hy, hney, hney'⟩
  · rw [hx, hy]
  · omega
  · omega
  · omega
  · rw [hx, hy]
  · omega
  · omega
  · omega
  · exact Revenue.Sample.address_injective (hx.symm.trans (h.trans hy))

noncomputable def scheme : AddressScheme where
  findProgramAddress seeds programId := (address (seeds, programId), 255)
  createProgramAddress seeds bump programId :=
    if bump = 255 then some (address (seeds, programId)) else none
  create_find _ _ := rfl
  find_injective h := Prod.mk.inj (address_injective h)

noncomputable def runtime : Runtime := ⟨scheme, rent, rootFromPodLeaf [] []⟩

theorem derivedFrom_iff {programId k : Pubkey} :
    DerivedFrom scheme programId k ↔ ∃ seeds, address (seeds, programId) = k := by
  simp [DerivedFrom, scheme]

/-- The revenue program has the addresses it had. -/
theorem derived_of_derived {k : Pubkey} (h : Derived runtime k) :
    Derived (Revenue.Sample.runtime [] []) k := by
  obtain ⟨seeds, rfl⟩ := derivedFrom_iff.1 h
  have hid : ∀ seeds', (seeds, ID) ≠ (seeds', integrationProgram) := by
    intro seeds' h
    exact absurd (Prod.mk.inj h).2 (by decide)
  refine ⟨seeds, 255, ?_⟩
  rw [address, if_neg (hid _), if_neg (hid _)]
  rfl

theorem genesis_unused (prepaid purse : UInt64) : Genesis runtime (genesis prepaid purse) := by
  have hunused : Genesis (Revenue.Sample.runtime [] []) (genesis prepaid purse) :=
    Revenue.Sample.genesis_unused prepaid purse
  exact ⟨hunused.owned, fun k hk => hunused.derived k (derived_of_derived hk)⟩

/-- The small even keys are not derived from anything. -/
theorem not_derived_of_small {k : Pubkey} (hk : k.val % 2 = 0 ∧ k.val < 1000) :
    ¬Derived runtime k ∧ ¬DerivedFrom runtime.scheme integrationProgram k := by
  have hne : ∀ programId, ¬DerivedFrom scheme programId k := by
    intro programId h
    obtain ⟨seeds, hseeds⟩ := derivedFrom_iff.1 h
    have hval := congrArg Pubkey.val hseeds
    rcases address_eq (seeds, programId) with ⟨-, h⟩ | ⟨-, h⟩ | ⟨h, -, -⟩
    · omega
    · omega
    · rw [h] at hval
      rcases address_cases (seeds, programId) with ⟨i, -, hi⟩ | ⟨⟨hle, -, -⟩, hm⟩ | hc
      · simp only [hi] at hval
        omega
      · simp only [hm] at hval
        omega
      · simp only [hc] at hval
        omega
  exact ⟨hne ID, hne integrationProgram⟩

/-- Signatures and transfers are by small even keys. -/
def byOutsider : Event → Bool
  | .call data _ _ => data ≠ .collectIntegrationRewards
  | .collect .. => true
  | .integration accounts _ =>
    accounts.all fun m => !m.isSigner || (m.key.val % 2 = 0 ∧ m.key.val < 1000 : Bool)
  | .outside (.tokens _ _ authority _) => authority.val % 2 = 0 ∧ authority.val < 1000
  | .outside _ => true

def collect : Event :=
  .collect [writable config, writable distribution, writable integration,
    writable integrationDistribution, writable integrationBucket, writable pool,
    writable integrationProgram, writable tokenProgramId] 200000

end Sample

end DoubleZero.Integration
