import DoubleZero.Revenue.Books

/-!
# Every account at its address

Instructions take accounts of the program by owner and discriminator and never check the address of
an existing one. What makes that safe is `Canonical`: an account of the program sits at the address
of the identity stored in it, with the bump seeds that address was found with. It holds in every
ledger a run reaches, because accounts come into being only at their addresses and keep their
identity.
-/

namespace DoubleZero.Revenue

open DoubleZero.Lib DoubleZero.Solana

/-- The parts of an account that are fixed when it is created: its bump seeds, and for accounts that
never grow, their length. -/
def AccountState.Sound (rt : Runtime) : AccountState → List (BitVec 8) → Prop
  | .programConfig c, _ =>
    c.swapAuthorityBumpSeed = 0 ∨
      (c.swapAuthorityBumpSeed = rt.findSwapAuthorityAddress.2 ∧
        c.swapDestination2zBumpSeed = (rt.find2zTokenPdaAddress rt.findSwapAuthorityAddress.1).2)
  | .journal j, rem =>
    j.bumpSeed = (rt.find Journal.seeds).2 ∧
      j.token2zPdaBumpSeed = (rt.find2zTokenPdaAddress rt.journalKey).2 ∧
      dataEnd AccountState Journal + rem.length = MAX_PERMITTED_DATA_INCREASE
  | .distribution d, _ =>
    d.bumpSeed = (rt.find (Distribution.seeds d.dzEpoch)).2 ∧
      d.token2zPdaBumpSeed = (rt.find2zTokenPdaAddress (rt.distributionKey d.dzEpoch)).2
  | .contributorRewards _, rem => rem = []
  | .solanaValidatorDeposit _, rem => rem = []
  | .rewardsIntegration i, rem =>
    i.bumpSeed = (rt.find (RewardsIntegration.seeds i.programId)).2 ∧ rem = []

structure Canonical (rt : Runtime) (L : RevenueLedger) : Prop where
  atKey : ∀ {k s rem}, stateAt L k = some (s, rem) → k = s.identity.key rt
  sound : ∀ {k s rem}, stateAt L k = some (s, rem) → s.Sound rt rem

namespace Canonical

variable {rt : Runtime} {L L' : RevenueLedger} {k : Pubkey} {s : AccountState}
  {rem : List (BitVec 8)}

/-- What an instruction learns from an account it took by owner and discriminator. -/
theorem of_view {T : Type} [ZeroCopy AccountState T] {t : T} (h : Canonical rt L)
    (hv : view ID L k = some (t, rem)) :
    k = (wrap t : AccountState).identity.key rt ∧
      (books rt L).entry (wrap t : AccountState).identity = some (wrap t, rem) ∧
      (L k).owner = ID ∧ (wrap t : AccountState).Sound rt rem := by
  have hs := view_eq_stateAt.1 hv
  have hk := h.atKey hs
  refine ⟨hk, ?_, (stateAt_eq_some.1 hs).1, h.sound hs⟩
  show stateAt L _ = _
  rw [← hk, hs]

theorem of_same (h : Canonical rt L) (hsame : ∀ k, stateAt L' k = stateAt L k) :
    Canonical rt L' := by
  constructor
  · intro k s rem hs
    exact h.atKey (hsame k ▸ hs)
  · intro k s rem hs
    exact h.sound (hsame k ▸ hs)

theorem write (h : Canonical rt L) (ho : (L k).owner = ID) (hk : k = s.identity.key rt)
    (hs : s.Sound rt rem) : Canonical rt (L.write k (.zeroCopy s rem)) := by
  constructor
  · intro k' s' rem' hs'
    rw [stateAt_write _ _ _ _ _ ho] at hs'
    split at hs'
    · next hkk => cases hs'; rw [hkk, hk]
    · exact h.atKey hs'
  · intro k' s' rem' hs'
    rw [stateAt_write _ _ _ _ _ ho] at hs'
    split at hs'
    · cases hs'; exact hs
    · exact h.sound hs'

theorem credit (h : Canonical rt L) (k : Pubkey) (n : Nat) : Canonical rt (L.credit k n) :=
  h.of_same fun _ => stateAt_congr (by simp) (by simp)

theorem debit (h : Canonical rt L) (k : Pubkey) (n : Nat) : Canonical rt (L.debit k n) :=
  h.of_same fun _ => stateAt_congr (by simp) (by simp)

theorem writeToken (h : Canonical rt L) {a a' : TokenAccount} (hu : Token.unpack L k = some a) :
    Canonical rt (L.write k (.token a')) := by
  apply h.of_same
  intro k'
  by_cases hk : k' = k
  · subst hk
    have ho := (Token.unpack_eq_some.1 hu).1
    have hne : tokenProgramId ≠ ID := by decide
    rw [stateAt_none_of_owner (by simpa [ho] using hne),
      stateAt_none_of_owner (by rw [ho]; exact hne)]
  · exact stateAt_congr (by simp) (by simp [Ledger.write_data, hk])

/-- Before its first use the program has no accounts. -/
theorem of_genesis (h : Genesis rt L) : Canonical rt L := by
  constructor
  · intro k s rem hs
    exact absurd (stateAt_eq_some.1 hs).1 (h.owned k)
  · intro k s rem hs
    exact absurd (stateAt_eq_some.1 hs).1 (h.owned k)

end Canonical

/-! ## What creation and other programs do to the books -/

/-- `k` is the address of an account the program has. -/
def Books.Owns (rt : Runtime) (b : Books) (k : Pubkey) : Prop :=
  ∃ i : Identity, k = i.key rt ∧ b.entry i ≠ none

/-- Lamports of the program's accounts stay where they are. -/
def Books.KeepsLamports (rt : Runtime) (b : Books) (lamports : Pubkey → Nat) : Prop :=
  ∀ k, b.Owns rt k → lamports k = b.lamports k

/-- The effect of other programs on the books. -/
structure Books.Foreign (rt : Runtime) (b b' : Books) : Prop where
  entry_eq : b'.entry = b.entry
  lamports_le : ∀ k, b.Owns rt k → b.lamports k ≤ b'.lamports k

/-- `KeepsTokens`, on the books. -/
def Books.KeepsTokens (rt : Runtime) (b b' : Books) : Prop :=
  ∀ k a, b.tokens k = some a → Derived rt a.owner →
    ∃ a', b'.tokens k = some a' ∧ a'.mint = a.mint ∧ a'.owner = a.owner ∧ a.amount ≤ a'.amount

section Effects

variable {rt : Runtime} {L L' : RevenueLedger} {k : Pubkey}

theorem Books.Owns.owner_eq (h : (books rt L).Owns rt k) : (L k).owner = ID := by
  obtain ⟨i, rfl, hi⟩ := h
  cases hs : stateAt L (i.key rt) with
  | none => exact absurd hs hi
  | some p => exact (stateAt_eq_some.1 hs).1

theorem stateAt_foreign (h : Foreign rt L L') (k : Pubkey) : stateAt L' k = stateAt L k := by
  by_cases ho : (L k).owner = ID
  · obtain ⟨ho', hd, -⟩ := h.owned k ho
    exact stateAt_congr (ho'.trans ho.symm) hd
  · rw [stateAt_none_of_owner ho]
    by_cases ho' : (L' k).owner = ID
    · obtain ⟨len, hd⟩ := h.fresh k ho ho'
      exact stateAt_none_of_zeroed hd
    · exact stateAt_none_of_owner ho'

theorem Canonical.foreign (hc : Canonical rt L) (h : Foreign rt L L') : Canonical rt L' :=
  hc.of_same (stateAt_foreign h)

theorem books_foreign (h : Foreign rt L L') : (books rt L).Foreign rt (books rt L') := by
  constructor
  · funext i
    exact stateAt_foreign h (i.key rt)
  · intro k hk
    exact (h.owned k hk.owner_eq).2.2

theorem stateAt_allocated {rent : Rent} {owner : Pubkey} {data : AccountData AccountState}
    (h : Allocated rent k owner data L L') (hdata : ∀ s rem, data ≠ .zeroCopy s rem)
    (k' : Pubkey) : stateAt L' k' = stateAt L k' := by
  by_cases hk : k' = k
  · subst hk
    have hne : systemProgramId ≠ ID := by decide
    rw [stateAt_none_of_owner (L := L) (by rw [h.vacant]; exact hne)]
    cases hs : stateAt L' k' with
    | none => rfl
    | some p =>
      obtain ⟨s, rem⟩ := p
      exact absurd (h.data_eq.symm.trans (stateAt_eq_some.1 hs).2) (hdata s rem)
  · exact stateAt_congr (h.owner_frame k' hk) (h.data_frame k' hk)

theorem keepsLamports_of_allocated {rent : Rent} {owner : Pubkey}
    {data : AccountData AccountState} (h : Allocated rent k owner data L L') :
    (books rt L).KeepsLamports rt (books rt L').lamports := by
  intro k' hown
  have ho := hown.owner_eq
  refine h.lamports_frame k' ?_ ?_
  · rintro rfl
    exact absurd (ho.symm.trans h.vacant) (by decide)
  · rw [ho]
    decide

theorem books_allocated {rent : Rent} {len : Nat} (h : Allocated rent k ID (.zeroed len) L L') :
    books rt L' = { books rt L with lamports := (books rt L').lamports } := by
  apply Books.ext
  · funext i
    exact stateAt_allocated h (by simp) (i.key rt)
  · rfl
  · funext k'
    show Token.unpack L' k' = Token.unpack L k'
    by_cases hk : k' = k
    · subst hk
      rw [unpack_none_of_owner (by rw [h.owner_eq]; decide),
        unpack_none_of_owner (by rw [h.vacant]; decide)]
    · exact unpack_congr (h.owner_frame k' hk) (h.data_frame k' hk)

theorem books_allocatedToken {rent : Rent} {a : TokenAccount}
    (h : Allocated rent k tokenProgramId (.token a) L L') :
    books rt L' = { (books rt L).setToken k a with lamports := (books rt L').lamports } := by
  apply Books.ext
  · funext i
    exact stateAt_allocated h (by simp) (i.key rt)
  · rfl
  · funext k'
    show Token.unpack L' k' = ((books rt L).setToken k a).tokens k'
    rw [Books.setToken_tokens]
    split
    · next hk => subst hk; exact Token.unpack_eq_some.2 ⟨h.owner_eq, h.data_eq⟩
    · next hk => exact unpack_congr (h.owner_frame k' hk) (h.data_frame k' hk)

/-- Nothing was at the address of a new account before. -/
theorem entry_none_of_allocated {rent : Rent} {owner : Pubkey} {data : AccountData AccountState}
    {i : Identity} (h : Allocated rent (i.key rt) owner data L L') :
    (books rt L).entry i = none :=
  stateAt_none_of_owner (by rw [h.vacant]; decide)

end Effects

end DoubleZero.Revenue
