import DoubleZero.Lib.Trie
import DoubleZero.Revenue.Footprint
import DoubleZero.Revenue.Replay

/-!
# Replaying on a table

A ledger is a function, and after a long replay every lookup goes through all the updates. A call is
confined to its accounts, so the ledger can be kept as a table of the accounts touched so far:
`Table.replay` is `replay` on such a table (`Table.replay_eq`), with lookups that cost the length of
a key.
-/

namespace DoubleZero.Revenue

open DoubleZero.Lib DoubleZero.Solana

/-! ## What an event is about -/

section Moves

variable {K : Set Pubkey} {L L' : RevenueLedger}

/-- The accounts a transfer by others is about. -/
def Move.accounts : Move → List Pubkey
  | .stay => []
  | .lamports source target _ | .tokens source target _ _ => [source, target]

theorem Move.confined {m : Move} (h : ∀ k ∈ m.accounts, k ∈ K) : Lib.Confined K m.apply := by
  cases m with
  | stay => exact fun _ _ => rfl
  | lamports source target n =>
    exact System.confined_transfer (h source (by simp [accounts])) (h target (by simp [accounts]))
  | tokens source target authority amount =>
    exact Token.confined_transfer (h source (by simp [accounts])) (h target (by simp [accounts]))

/-- A program that is called and makes one transfer works on the accounts of the transfer. -/
theorem Move.env_confined {m : Move} {now : Int} {sibling : Option SiblingInstruction}
    {returnData : Option (Pubkey × List (BitVec 8))} (h : ∀ k ∈ m.accounts, k ∈ K) :
    Env.Confined K ⟨now, sibling, fun L => (m.apply L).map fun L' => (L', returnData)⟩ := by
  intro L L'
  show (m.apply _).map _ = ((m.apply L).map _).map _
  rw [Move.confined h L L']
  cases m.apply L with
  | error e => rfl
  | ok L₁ => rfl

/-- The accounts an event is given. -/
def Event.keys : Event → List Pubkey
  | .call _ accounts _ _ _ _ => accounts.map fun m => m.key
  | .outside m => m.accounts

/-- The program a call invokes works on the accounts of the call. -/
def Event.isLocal : Event → Bool
  | .call _ accounts _ _ invoked _ =>
    invoked.accounts.all fun k => accounts.any fun m => m.key = k
  | .outside _ => true

theorem Event.frame {rt : Runtime} {e : Event} (he : e.isLocal = true)
    (h : e.apply rt L = some L') {k : Pubkey} (hk : k ∉ e.keys) : L' k = L k := by
  cases e with
  | outside m =>
    have hconfined : Lib.Confined {k | k ∈ m.accounts} m.apply := Move.confined fun _ h => h
    exact hconfined.frame (toOption_eq_some.1 h) hk
  | call data accounts unixTimestamp sibling invoked returnData =>
    refine (process_confined (Move.env_confined fun k' hk' => ?_)).frame (toOption_eq_some.1 h)
      fun ⟨m, hm, hkey⟩ => hk (List.mem_map.2 ⟨m, hm, hkey⟩)
    obtain ⟨m, hm, hkey⟩ := List.any_eq_true.1 (List.all_eq_true.1 he k' hk')
    exact ⟨m, hm, of_decide_eq_true hkey⟩

end Moves

/-! ## Tables -/

/-- The accounts that are no longer as on a base ledger, in buckets by the low bits of their keys.
The newest entry of a bucket comes first. -/
abbrev Table := Trie (List (Pubkey × Account AccountState))

namespace Table

variable {base L : RevenueLedger} {t t' : Table} {keys : List Pubkey}

/-- The bits that choose a bucket. -/
def depth : Nat := 12

def slot (k : Pubkey) : Nat := k.val % 2 ^ depth

def bucket (t : Table) (k : Pubkey) : List (Pubkey × Account AccountState) :=
  (t.get (slot k)).getD []

def ledger (base : RevenueLedger) (t : Table) : RevenueLedger := fun k =>
  ((bucket t k).lookup k).getD (base k)

def enter (t : Table) (k : Pubkey) (a : Account AccountState) : Table :=
  t.insert depth (slot k) ((k, a) :: bucket t k)

/-- Enters the accounts at the keys as they are on a ledger. -/
def record (L : RevenueLedger) (t : Table) (keys : List Pubkey) : Table :=
  keys.foldl (fun t k => enter t k (L k)) t

theorem ledger_enter (k : Pubkey) (a : Account AccountState) (k' : Pubkey) :
    ledger base (enter t k a) k' = if k' = k then a else ledger base t k' := by
  have hslot : slot k < 2 ^ depth := Nat.mod_lt _ (by decide)
  rw [ledger, bucket, enter, Trie.get_insert hslot]
  by_cases hk : k' = k
  · subst hk
    simp
  · rw [if_neg hk, ledger, bucket]
    split
    · next heq =>
      have hne : (k' == k) = false := by simpa using hk
      rw [Option.getD_some, List.lookup_cons, hne, bucket, heq]
    · rfl

theorem record_ledger (hsame : ∀ k ∉ keys, L k = ledger base t k) :
    ledger base (record L t keys) = L := by
  have hrecord : ∀ k, ledger base (record L t keys) k =
      if k ∈ keys then L k else ledger base t k := by
    clear hsame
    intro k
    induction keys generalizing t with
    | nil => rfl
    | cons k' keys ih =>
      have hstep : record L t (k' :: keys) = record L (enter t k' (L k')) keys := rfl
      rw [hstep, ih, ledger_enter]
      by_cases hk : k = k'
      · subst hk
        simp
      · simp [hk]
  funext k
  rw [hrecord]
  split
  · rfl
  · next hk => exact (hsame k hk).symm

/-- Takes the events through a table. -/
def replay (rt : Runtime) (base : RevenueLedger) : List Event → Table → Option Table
  | [], t => some t
  | e :: es, t => (e.apply rt (ledger base t)).bind fun L => replay rt base es (record L t e.keys)

theorem replay_eq {rt : Runtime} {es : List Event} {h : History}
    (hes : es.all Event.isLocal = true) (hreplay : replay rt base es t = some t') :
    ∃ h', Revenue.replay rt es (h, ledger base t) = some (h', ledger base t') := by
  induction es generalizing t h with
  | nil =>
    cases hreplay
    exact ⟨h, rfl⟩
  | cons e es ih =>
    obtain ⟨L, happly, hrest⟩ := Option.bind_eq_some_iff.1 hreplay
    obtain ⟨hlocal, hes⟩ := (Bool.and_eq_true _ _).mp hes
    have hledger : ledger base (record L t e.keys) = L :=
      record_ledger fun k hk => Event.frame hlocal happly hk
    obtain ⟨h', hreplay'⟩ := ih hes hrest
    rw [hledger] at hreplay'
    exact ⟨h', by rw [Revenue.replay, happly, Option.bind_some, hreplay']⟩

end Table

namespace Sample

/-- What is checked of a replay on a table holds of a run. -/
theorem exists_run_of_table (debts : List SolanaValidatorDebt) (shares : List RewardShare)
    (prepaid purse : UInt64) (es : List Event) {P : RevenueLedger → Bool}
    (hes : (es.all byOutsider && es.all Event.isLocal) = true)
    (hP : (Table.replay (runtime debts shares) (genesis prepaid purse) es .leaf).any
      (fun t => P (Table.ledger (genesis prepaid purse) t)) = true) :
    ∃ h L, LedgerRun (runtime debts shares) (genesis prepaid purse) h L ∧ P L = true := by
  obtain ⟨houtsider, hlocal⟩ := (Bool.and_eq_true _ _).mp hes
  obtain ⟨t, ht, hP⟩ := (Option.any_eq_true _ _).1 hP
  obtain ⟨h, hreplay⟩ := Table.replay_eq (h := []) hlocal ht
  refine ⟨h, _, .of_replay .start (fun e he => ?_) hreplay, hP⟩
  exact unsigned_of_byOutsider (List.all_eq_true.1 houtsider e he)

end Sample

end DoubleZero.Revenue
