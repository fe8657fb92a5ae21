import DoubleZero.Revenue.Replay
import DoubleZero.Solana.Creation

/-!
# Both paths of account creation

An address may hold lamports before it is created: somebody sent them there. Creation then takes
three System instructions instead of one, and comes to the same. The exception is an account that
pays for itself, for no data and under the System program.
-/

namespace DoubleZero

open DoubleZero.Solana

section

variable {D : Type} [ZeroCopySum D] {scheme : AddressScheme} {rent : Rent}
  {callerId owner : Pubkey} {payer newAccount : Invoker} {len c : Nat} {additional : Option Nat}
  {s : Exec D}

theorem tryCreateAccount_same_result (hcur : (s.ledger newAccount.key).lamports = c)
    (hfits : rent.minimumBalance len + additional.getD 0 < 2 ^ 64)
    (hself : ¬(payer.key = newAccount.key ∧ len = 0 ∧ owner = systemProgramId)) :
    (∀ r, tryCreateAccount scheme rent callerId payer newAccount c len owner additional s = .ok r →
      ∃ L', r = ((), { s with ledger := L' }) ∧
        L' newAccount.key = { s.ledger newAccount.key with
          lamports := max c (rent.minimumBalance len + additional.getD 0),
          owner := owner, data := .zeroed len } ∧
        rent.minimumBalance len + additional.getD 0 - c ≤ (s.ledger payer.key).lamports ∧
        (L' payer.key).lamports =
          (s.ledger payer.key).lamports - (rent.minimumBalance len + additional.getD 0 - c) ∧
        ∀ k, k ≠ newAccount.key → (L' k).owner = (s.ledger k).owner ∧
          (L' k).data = (s.ledger k).data ∧
          (k ≠ payer.key → (L' k).lamports = (s.ledger k).lamports)) ∧
      ((s.ledger newAccount.key).owner ≠ systemProgramId ∨
        (s.ledger newAccount.key).data.dataLen ≠ 0 →
        ∀ r, tryCreateAccount scheme rent callerId payer newAccount c len owner additional s ≠
          .ok r) ∧
      tryCreateAccount scheme rent callerId payer newAccount c len owner additional s =
        invokeAll scheme callerId (createAccountInvocations payer newAccount c
          (rent.minimumBalance len + additional.getD 0) len owner) s ∧
      ∀ invocation ∈ createAccountInvocations payer newAccount c
          (rent.minimumBalance len + additional.getD 0) len owner,
        ∃ invokers : List Invoker, (∀ invoker ∈ invokers, invoker = payer ∨ invoker = newAccount) ∧
          invokers.map Invoker.key = invocation.instruction.signedBy ∧
          invokers.flatMap Invoker.signerSeeds = invocation.signerSeeds := by
  have hlamports : min (additional.getD 0 + rent.minimumBalance len) (2 ^ 64 - 1) =
      rent.minimumBalance len + additional.getD 0 := by omega
  refine ⟨fun r hr => ?_, fun hused r hr => ?_, ?_, fun _ hmem =>
    signed_createAccountInvocations hmem⟩
  · obtain ⟨L', hr', hcreated⟩ := tryCreateAccount_created hr hcur.symm hself
    rw [hlamports] at hcreated
    have hcharged := hcreated.charged
    have haccount := hcreated.account
    have hpaid := hcreated.payer_lamports
    rw [hcur] at hcharged haccount hpaid
    refine ⟨L', hr', haccount, hcharged, hpaid, fun k hk => ?_⟩
    by_cases hpayer : k = payer.key
    · subst hpayer
      rw [hcreated.paid hk]
      exact ⟨rfl, rfl, fun hne => absurd rfl hne⟩
    · rw [hcreated.frame k hk hpayer]
      exact ⟨rfl, rfl, fun _ => rfl⟩
  · obtain ⟨hvacant, hempty⟩ := tryCreateAccount_vacant hr
    rcases hused with howner | hdata
    · exact howner hvacant
    · exact hdata hempty
  · rw [tryCreateAccount_eq_invokeAll, hlamports]

end

namespace Sample

open Revenue Revenue.Sample

/-- The payer and the address of the config, to which somebody sent lamports. -/
noncomputable def prefunded (lamports : Nat) : Exec AccountState :=
  ⟨[signed payer, writable config], (genesis 0 0).credit config lamports,
    [signed payer, writable config], 0⟩

end Sample

open Revenue Revenue.Sample Sample

theorem tryCreateAccount_same_result_prefunded :
    ∃ L', tryCreateAccount scheme rent ID (.signer payer) (.pda config ProgramConfig.seeds 255) 1000
        608 ID none (prefunded 1000) = .ok ((), { prefunded 1000 with ledger := L' }) ∧
      (L' config).lamports = 5122560 ∧ (L' payer).lamports = 10 ^ 15 - 5121560 := by
  have hok : ((tryCreateAccount scheme rent ID (.signer payer)
      (.pda config ProgramConfig.seeds 255) 1000 608 ID none (prefunded 1000)).toOption).isSome =
        true := by decide +kernel
  obtain ⟨r, hr⟩ := Option.isSome_iff_exists.1 hok
  rw [toOption_eq_some] at hr
  have hcur : ((prefunded 1000).ledger (Invoker.pda config ProgramConfig.seeds 255).key).lamports =
      1000 := by decide +kernel
  have hfits : rent.minimumBalance 608 + (none : Option Nat).getD 0 < 2 ^ 64 := by decide
  have hself : ¬((Invoker.signer payer).key = (Invoker.pda config ProgramConfig.seeds 255).key ∧
      608 = 0 ∧ ID = systemProgramId) := by decide
  obtain ⟨hresult, -⟩ := tryCreateAccount_same_result hcur hfits hself
  obtain ⟨L', hr', haccount, -, hpaid, -⟩ := hresult r hr
  have hpayer : ((prefunded 1000).ledger payer).lamports = 10 ^ 15 := by decide +kernel
  refine ⟨L', hr' ▸ hr, ?_, ?_⟩
  · exact (congrArg Account.lamports haccount).trans (by decide)
  · refine hpaid.trans ?_
    rw [Invoker.key, hpayer]
    decide

/-- An account that pays for itself is left with what it had. -/
theorem tryCreateAccount_self_paid :
    ¬∀ r, tryCreateAccount scheme rent ID (.signer payer) (.signer payer) 500000 0 systemProgramId
        none ⟨[signed payer], fun _ => ⟨500000, systemProgramId, false, .zeroed 0⟩,
          [signed payer], 0⟩ = .ok r →
      ((r.2.ledger : RevenueLedger) payer).lamports = max 500000 (rent.minimumBalance 0 + 0) := by
  intro h
  have hok : ((tryCreateAccount scheme rent ID (.signer payer) (.signer payer) 500000 0
      systemProgramId none ⟨[signed payer], fun _ => ⟨500000, systemProgramId, false, .zeroed 0⟩,
        [signed payer], 0⟩).toOption).any (fun r : Unit × Exec AccountState =>
          (r.2.ledger payer).lamports = 500000) = true := by decide +kernel
  obtain ⟨r, hr, hlamports⟩ := (Option.any_eq_true _ _).1 hok
  have hmax := h r (toOption_eq_some.1 hr)
  rw [of_decide_eq_true hlamports] at hmax
  exact absurd hmax (by decide)

end DoubleZero
