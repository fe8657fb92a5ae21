import DoubleZero.Passport.Replay

/-!
# Deposits are sufficient and conserved

A request is made with its rent exemption and the deposit of the config on top, and nobody takes
lamports out of it before it is granted or denied. Its fee is the one of that moment, which no
config lets reach the deposit; so the fee can be paid whatever the config says later. Three
invariants carry this: the supply stays what it was, every config is sound and holds lamports
(`ConfigsSound`), and every request still pending is backed by its deposit (`RequestsBacked`).

A request that is granted or denied loses its lamports, not its data, and is gone at the end of the
transaction. Lamports sent to it before that keep it, without its deposit; `LeavesEmptied` is that
nobody sends any.
-/

namespace DoubleZero.Passport

open DoubleZero.Lib DoubleZero.Solana

/-- The rent exemption of an access request. -/
def Runtime.requestRent (rt : Runtime) : Nat :=
  rt.rent.minimumBalance (dataEnd AccountState AccessRequest)

variable {rt : Runtime} {L₀ L L' : PassportLedger} {h : History} {l : Label} {call : Call}
  {k : Pubkey}

/-! ## Configs -/

def ConfigsSound (L : PassportLedger) : Prop :=
  ∀ (k : Pubkey) (config : ProgramConfig) (rem : List (BitVec 8)),
    view ID L k = some (config, rem) → config.Sound ∧ 0 < (L k).lamports

theorem Genesis.view_eq_none {T : Type} [ZeroCopy AccountState T] (hgenesis : Genesis L) :
    (view ID L k : Option (T × List (BitVec 8))) = none := by
  rw [Option.eq_none_iff_forall_ne_some]
  rintro ⟨t, rem⟩ hview
  obtain ⟨howner, hdata⟩ := view_eq_some.1 hview
  obtain ⟨len, hzeroed⟩ := hgenesis.zeroed k howner
  cases hzeroed.symm.trans hdata

/-- What is found at an address after others acted was there before, with no more lamports. -/
theorem Outside.of_view {T : Type} [ZeroCopy AccountState T] {t : T} {rem : List (BitVec 8)}
    (houtside : Outside L L') (hview : view ID L' k = some (t, rem)) :
    view ID L k = some (t, rem) ∧ (L k).lamports ≤ (L' k).lamports := by
  obtain ⟨howner, hdata⟩ := view_eq_some.1 hview
  by_cases hbefore : (L k).owner = ID
  · obtain ⟨-, hsame, hle⟩ := houtside.owned k hbefore
    exact ⟨view_eq_some.2 ⟨hbefore, hsame.symm.trans hdata⟩, hle⟩
  · obtain ⟨len, hzeroed⟩ := houtside.fresh k hbefore howner
    cases hzeroed.symm.trans hdata

theorem of_view_dropEmpty {T : Type} [ZeroCopy AccountState T] {t : T} {rem : List (BitVec 8)}
    (hview : view ID (dropEmpty L) k = some (t, rem)) : view ID L k = some (t, rem) := by
  have hsame := dropEmpty_eq (view_eq_some.1 hview).1
  rwa [view_congr (congrArg Account.owner hsame) (congrArg Account.data hsame)] at hview

theorem Step.configsSound (hstep : Step rt l L L') (hconfigs : ConfigsSound L) :
    ConfigsSound L' := by
  intro k config rem hview
  cases hstep with
  | call h =>
    rcases (process_effect h).1.config_eq hview with hnew | ⟨config₀, hview₀, hsound, hle⟩
    · exact hnew
    · obtain ⟨hsound₀, hpos⟩ := hconfigs k config₀ rem hview₀
      exact ⟨hsound hsound₀, hpos.trans_le hle⟩
  | outside houtside =>
    obtain ⟨hview₀, hle⟩ := houtside.of_view hview
    obtain ⟨hsound, hpos⟩ := hconfigs k config rem hview₀
    exact ⟨hsound, hpos.trans_le hle⟩
  | endTransaction =>
    rw [dropEmpty_lamports]
    exact hconfigs k config rem (of_view_dropEmpty hview)

theorem PassportRun.configsSound (hgenesis : Genesis L₀) (hrun : PassportRun rt L₀ h L) :
    ConfigsSound L := by
  refine hrun.invariant (fun k config rem hview => ?_) fun hconfigs hstep =>
    hstep.configsSound hconfigs
  cases hgenesis.view_eq_none.symm.trans hview

/-! ## Requests -/

/-- The request at `k` holds its rent exemption and the deposit it was made for, and its fee is the
one of the config then and below that deposit. -/
def Backed (rt : Runtime) (k : Pubkey) (h : History) (lamports : Nat) (request : AccessRequest) :
    Prop :=
  ∃ config deposit, Pending rt k h config deposit ∧
    request.requestFeeLamports = config.requestFeeLamports ∧
    request.requestFeeLamports < deposit ∧ rt.requestRent + deposit.toNat ≤ lamports

def RequestsBacked (rt : Runtime) (h : History) (L : PassportLedger) : Prop :=
  ∀ (k : Pubkey) (request : AccessRequest) (rem : List (BitVec 8)),
    view ID L k = some (request, rem) → Closed rt k h ∨ Backed rt k h (L k).lamports request

theorem Backed.cons {e : Entry PassportLedger Label} {lamports lamports' : Nat}
    {request : AccessRequest} (hbacked : Backed rt k h lamports request)
    (he : e.label.touches rt k = false) (hle : lamports ≤ lamports') :
    Backed rt k (e :: h) lamports' request := by
  obtain ⟨config, deposit, hpending, hfee, hlt, hheld⟩ := hbacked
  exact ⟨config, deposit, hpending.cons he, hfee, hlt, hheld.trans hle⟩

/-- What leaves a request alone leaves it as it was, closed or backed. -/
theorem RequestsBacked.untouched {e : Entry PassportLedger Label} {request : AccessRequest}
    {rem : List (BitVec 8)} {lamports : Nat} (hbacked : RequestsBacked rt h L)
    (hview : view ID L k = some (request, rem)) (he : e.label.touches rt k = false)
    (hle : (L k).lamports ≤ lamports) :
    Closed rt k (e :: h) ∨ Backed rt k (e :: h) lamports request := by
  rcases hbacked k request rem hview with hclosed | hheld
  · exact .inl (hclosed.cons he)
  · exact .inr (hheld.cons he hle)

theorem checkedDeposit_eq {config : ProgramConfig} {deposit : UInt64}
    (hdeposit : config.checkedRequestDepositLamports = some deposit) :
    config.requestDepositLamports ≠ 0 ∧ config.requestDepositLamports = deposit := by
  unfold ProgramConfig.checkedRequestDepositLamports at hdeposit
  split at hdeposit
  · cases hdeposit
  · next hne => exact ⟨hne, Option.some.inj hdeposit⟩

/-- An instruction that touches a request and didn't make it granted or denied it. -/
theorem closes_of_touches (htouches : call.touches rt k = true)
    (hmade : ∀ accessMode, call.data = .requestAccess accessMode →
      rt.requestKey accessMode.serviceKey ≠ k) :
    call.data = .grantAccess ∨ call.data = .denyAccess := by
  unfold Call.touches at htouches
  split at htouches
  · next accessMode hdata => exact absurd (of_decide_eq_true htouches) (hmade accessMode hdata)
  · next hdata => exact .inl hdata
  · next hdata => exact .inr hdata
  · cases htouches

theorem call_requestsBacked (hgenesis : Genesis L₀) (hrun : PassportRun rt L₀ h L)
    (hbacked : RequestsBacked rt h L) (hprocess : process rt call L = .ok L') :
    RequestsBacked rt (⟨L, .call call, L'⟩ :: h) L' := by
  intro k request rem hview
  have heffect := (process_effect hprocess).1
  rcases heffect.request_eq hview with
    ⟨accessMode, configKey, config, crem, deposit, hdata, hkey, hconfigKey, hconfig, hdeposit, hfee,
      hne, hsame, hheld⟩ | ⟨hview₀, hmade⟩
  · -- the new request holds less than everything there is, so its endowment was not cut short
    obtain ⟨hsound, hpos⟩ := hrun.configsSound hgenesis configKey config crem hconfig
    obtain ⟨hnonzero, hsetting⟩ := checkedDeposit_eq hdeposit
    have hrun' := Run.next hrun (Step.call hprocess)
    have hpair := PassportRun.pair_lt hgenesis hrun' hne.symm
    rw [hsame] at hpair
    have htouches : (Label.call call).touches rt k = true := by
      simp [Label.touches, Call.touches, hdata, hkey]
    refine .inr ⟨config, deposit, ⟨_, call, accessMode, configKey, crem,
      lastTouch_cons_of_touches htouches, rfl, hdata, hconfigKey, hconfig, hdeposit⟩, hfee, ?_, ?_⟩
    · rw [hfee, ← hsetting]
      exact hsound hnonzero
    · unfold Runtime.endowment at hheld
      unfold Runtime.requestRent
      omega
  · by_cases htouches : call.touches rt k = true
    · exact .inl ⟨_, call, lastTouch_cons_of_touches htouches, rfl,
        closes_of_touches htouches hmade⟩
    · have huntouched : call.touches rt k = false := Bool.not_eq_true _ ▸ htouches
      exact hbacked.untouched hview₀ huntouched
        (heffect.lamports_le (view_eq_some.1 hview₀).1 huntouched)

theorem PassportRun.requestsBacked (hgenesis : Genesis L₀) (hrun : PassportRun rt L₀ h L) :
    RequestsBacked rt h L := by
  refine hrun.history (fun k request rem hview => ?_) fun hrun hbacked hstep => ?_
  · cases hgenesis.view_eq_none.symm.trans hview
  · cases hstep with
    | call hprocess => exact call_requestsBacked hgenesis hrun hbacked hprocess
    | outside houtside =>
      intro k request rem hview
      obtain ⟨hview₀, hle⟩ := houtside.of_view hview
      exact hbacked.untouched hview₀ rfl hle
    | endTransaction =>
      intro k request rem hview
      rw [dropEmpty_lamports]
      exact hbacked.untouched (of_view_dropEmpty hview) rfl le_rfl

/-! ## Payments -/

/-- The fee went to the sentinel and the rest to whoever paid for the request, be they one account
or two. -/
def Granted (call : Call) (L L' : PassportLedger) : Prop :=
  ∃ k sentinel request rem, call.key? 1 = some sentinel ∧ call.key? 2 = some k ∧
    call.key? 3 = some request.rentBeneficiaryKey ∧
    view ID L k = some ((request, rem) : AccessRequest × List (BitVec 8)) ∧
    request.requestFeeLamports.toNat ≤ (L k).lamports ∧ (L' k).lamports = 0 ∧
    ∀ k', k' ≠ k → (L' k').lamports = (L k').lamports +
      ((if k' = sentinel then request.requestFeeLamports.toNat else 0) +
        if k' = request.rentBeneficiaryKey then
          (L k).lamports - request.requestFeeLamports.toNat
        else 0)

/-- Everything went to the sentinel. -/
def Denied (call : Call) (L L' : PassportLedger) : Prop :=
  ∃ k sentinel request rem, call.key? 1 = some sentinel ∧ call.key? 2 = some k ∧
    view ID L k = some ((request, rem) : AccessRequest × List (BitVec 8)) ∧ (L' k).lamports = 0 ∧
    ∀ k', k' ≠ k → (L' k').lamports =
      (L k').lamports + if k' = sentinel then (L k).lamports else 0

theorem paid_lamports {p q : Pubkey} {m n : Nat} (hp : p ≠ k) (hq : q ≠ k) :
    (emptied ((L.credit p m).credit q n) k k).lamports = 0 ∧
      ∀ k', k' ≠ k → (emptied ((L.credit p m).credit q n) k k').lamports =
        (L k').lamports + ((if k' = p then m else 0) + if k' = q then n else 0) := by
  refine ⟨by rw [emptied_lamports, if_pos rfl], fun k' hk => ?_⟩
  have hexchange := paid_exchange (L := L) (m := m) (n := n) hp hq k'
  rwa [if_neg hk, Nat.add_zero] at hexchange

theorem granted_of_process (hdata : call.data = .grantAccess)
    (hprocess : process rt call L = .ok L') : Granted call L L' := by
  obtain ⟨heffect, hbalance⟩ := process_effect hprocess
  obtain ⟨sentinel, k, request, rem, hsentinel, hkey, hbeneficiary, hrequest, hne, hne', rfl⟩ :=
    heffect.of_grantAccess hdata
  have hall := (paid_balanced_iff hkey hsentinel hbeneficiary hne hne').1 hbalance
  obtain ⟨hzero, hpaid⟩ := paid_lamports hne hne'
  exact ⟨k, sentinel, request, rem, hsentinel, hkey, hbeneficiary, hrequest, by omega, hzero, hpaid⟩

theorem denied_of_process (hdata : call.data = .denyAccess)
    (hprocess : process rt call L = .ok L') : Denied call L L' := by
  obtain ⟨sentinel, k, request, rem, hsentinel, hkey, hrequest, hne, rfl⟩ :=
    (process_effect hprocess).1.of_denyAccess hdata
  have hpaid := paid_lamports (L := L) (m := (L k).lamports) (n := 0) hne hne
  simp only [credit_zero, ite_self, Nat.add_zero] at hpaid
  exact ⟨k, sentinel, request, rem, hsentinel, hkey, hrequest, hpaid⟩

/-- The runtime has nothing to object to what the program does with a pending request. -/
theorem process_of_pending {config : ProgramConfig} {deposit : UInt64}
    (hbacked : RequestsBacked rt h L) (hpending : Pending rt k h config deposit)
    (hdata : call.data = .grantAccess ∨ call.data = .denyAccess) (hkey : call.key? 2 = some k)
    (hexecute : execute rt call L = .ok L') : process rt call L = .ok L' := by
  refine process_eq_ok.2 ⟨hexecute, ?_⟩
  rcases hdata with hdata | hdata
  · obtain ⟨sentinel, k', request, rem, hsentinel, hkey', hbeneficiary, hrequest, hne, hne', rfl⟩ :=
      (execute_effect hexecute).of_grantAccess hdata
    cases hkey.symm.trans hkey'
    obtain ⟨config', deposit', -, -, hlt, hheld⟩ :=
      (hbacked k request rem hrequest).resolve_left hpending.not_closed
    have hfee : request.requestFeeLamports.toNat < deposit'.toNat := hlt
    exact (paid_balanced_iff hkey hsentinel hbeneficiary hne hne').2 (by omega)
  · obtain ⟨sentinel, k', request, rem, hsentinel, hkey', hrequest, hne, rfl⟩ :=
      (execute_effect hexecute).of_denyAccess hdata
    rw [← credit_zero]
    exact (paid_balanced_iff hkey' hsentinel hsentinel hne hne).2 (Nat.add_zero _)

/-! ## Live requests -/

/-- The step grants or denies a request. -/
def Label.closes : Label → Bool
  | .call c => c.data = .grantAccess ∨ c.data = .denyAccess
  | _ => false

/-- The step sends no lamports to a request that was emptied and is not gone yet. -/
def LeavesEmptied (x : Entry PassportLedger Label) : Prop :=
  ∀ (k : Pubkey) (request : AccessRequest) (rem : List (BitVec 8)),
    view ID x.before k = some (request, rem) → (x.before k).lamports = 0 → (x.after k).lamports = 0

/-- A grant or a denial empties its request. -/
theorem emptied_of_touches (hdata : call.data = .grantAccess ∨ call.data = .denyAccess)
    (htouches : call.touches rt k = true) (hprocess : process rt call L = .ok L') :
    (L' k).lamports = 0 := by
  have heffect := (process_effect hprocess).1
  have hkey : call.key? 2 = some k := by
    rcases hdata with hdata | hdata <;> simpa [Call.touches, hdata] using htouches
  rcases hdata with hdata | hdata
  · obtain ⟨_, _, _, _, -, hkey', -, -, -, -, rfl⟩ := heffect.of_grantAccess hdata
    cases hkey.symm.trans hkey'
    rw [emptied_lamports, if_pos rfl]
  · obtain ⟨_, _, _, _, -, hkey', -, -, rfl⟩ := heffect.of_denyAccess hdata
    cases hkey.symm.trans hkey'
    rw [emptied_lamports, if_pos rfl]

/-- A request that was granted or denied stays empty until it is gone. -/
theorem PassportRun.closed_empty (hgenesis : Genesis L₀) (hrun : PassportRun rt L₀ h L)
    (hleaves : ∀ x ∈ h, LeavesEmptied x) {request : AccessRequest} {rem : List (BitVec 8)}
    (hview : view ID L k = some (request, rem)) (hclosed : Closed rt k h) :
    (L k).lamports = 0 := by
  induction hrun generalizing request rem with
  | start => cases hgenesis.view_eq_none.symm.trans hview
  | @next h L L' l hrun hstep ih =>
    obtain ⟨hlast, hrest⟩ := List.forall_mem_cons.1 hleaves
    cases hstep with
    | @call call _ _ hprocess =>
      obtain ⟨e, call', htouch, hlabel, hdata⟩ := hclosed
      by_cases htouches : (Label.call call).touches rt k = true
      · rw [lastTouch_cons_of_touches htouches] at htouch
        cases htouch
        cases hlabel
        exact emptied_of_touches hdata htouches hprocess
      · have huntouched : (Label.call call).touches rt k = false := Bool.not_eq_true _ ▸ htouches
        rw [lastTouch_cons_of_not_touches huntouched] at htouch
        rcases (process_effect hprocess).1.request_eq hview with
          ⟨accessMode, _, _, _, _, hmade, hkey, -⟩ | ⟨hview₀, -⟩
        · refine absurd ?_ htouches
          simp [Label.touches, Call.touches, hmade, hkey]
        · exact hlast k request rem hview₀ (ih hrest hview₀ ⟨e, call', htouch, hlabel, hdata⟩)
    | outside houtside =>
      obtain ⟨hview₀, -⟩ := houtside.of_view hview
      exact hlast k request rem hview₀ (ih hrest hview₀ hclosed)
    | endTransaction =>
      rw [dropEmpty_lamports]
      exact ih hrest (of_view_dropEmpty hview) hclosed

theorem PassportRun.live_backed (hgenesis : Genesis L₀) (hrun : PassportRun rt L₀ h L)
    (hleaves : ∀ x ∈ h, LeavesEmptied x) {request : AccessRequest} {rem : List (BitVec 8)}
    (hview : view ID L k = some (request, rem)) (hlive : 0 < (L k).lamports) :
    Backed rt k h (L k).lamports request := by
  refine (hrun.requestsBacked hgenesis k request rem hview).resolve_left fun hclosed => ?_
  rw [PassportRun.closed_empty hgenesis hrun hleaves hview hclosed] at hlive
  exact absurd hlive (Nat.lt_irrefl 0)

theorem deposits_sufficient (hgenesis : Genesis L₀) (hrun : PassportRun rt L₀ h L)
    (hleaves : ∀ x ∈ h, LeavesEmptied x) :
    Conserves L₀ L ∧
      (∀ (k : Pubkey) (request : AccessRequest) (rem : List (BitVec 8)),
        view ID L k = some (request, rem) → 0 < (L k).lamports →
        Backed rt k h (L k).lamports request) ∧
      (∀ call L', call.data = .grantAccess → process rt call L = .ok L' → Granted call L L') ∧
      (∀ call L', call.data = .denyAccess → process rt call L = .ok L' → Denied call L L') ∧
      -- The runtime's check of the balance stops no grant and no denial.
      ∀ (call : Call) (L' : PassportLedger) (k : Pubkey) (request : AccessRequest)
        (rem : List (BitVec 8)), view ID L k = some (request, rem) → 0 < (L k).lamports →
        call.data = .grantAccess ∨ call.data = .denyAccess → call.key? 2 = some k →
        execute rt call L = .ok L' → process rt call L = .ok L' := by
  have hbacked := hrun.requestsBacked hgenesis
  refine ⟨hrun.conserves, fun _ _ _ hview hlive =>
    PassportRun.live_backed hgenesis hrun hleaves hview hlive, fun _ _ => granted_of_process,
    fun _ _ => denied_of_process, fun call L' k request rem hview hlive hdata hkey => ?_⟩
  obtain ⟨config, deposit, hpending, -⟩ :=
    PassportRun.live_backed hgenesis hrun hleaves hview hlive
  exact process_of_pending hbacked hpending hdata hkey

/-- As long as nothing was granted or denied, nothing is empty. -/
theorem PassportRun.leavesEmptied (hgenesis : Genesis L₀) (hrun : PassportRun rt L₀ h L)
    (hopen : ∀ x ∈ h, ∀ call, x.label = .call call →
      call.data ≠ .grantAccess ∧ call.data ≠ .denyAccess) : ∀ x ∈ h, LeavesEmptied x := by
  intro x hx k request rem hview hempty
  obtain ⟨h₁, hsub, hrun₁, -⟩ := hrun.of_mem hx
  rcases PassportRun.requestsBacked hgenesis hrun₁ k request rem hview with
    ⟨e, call, hlast, hlabel, hdata⟩ | ⟨config, deposit, -, -, hlt, hheld⟩
  · obtain ⟨hgrant, hdeny⟩ := hopen e (hsub (List.mem_of_find?_eq_some hlast)) call hlabel
    rcases hdata with hdata | hdata
    · exact absurd hdata hgrant
    · exact absurd hdata hdeny
  · have hfee : request.requestFeeLamports.toNat < deposit.toNat := hlt
    omega

/-- The grant of a request whose fee stayed what it was when the config raised it. -/
theorem deposits_sufficient_granted :
    ∃ h L L' request rem, PassportRun Sample.runtime Sample.genesis h L ∧
      view ID L Sample.request = some ((request, rem) : AccessRequest × List (BitVec 8)) ∧
      Backed Sample.runtime Sample.request h (L Sample.request).lamports request ∧
      process Sample.runtime Sample.grantCall L = .ok L' ∧ Granted Sample.grantCall L L' := by
  obtain ⟨h, L, hrun, hP⟩ := Sample.exists_run_of_replay Sample.requested
    (P := fun h L => (process Sample.runtime Sample.grantCall L).toOption.isSome &&
      (view ID L Sample.request : Option (AccessRequest × List (BitVec 8))).isSome &&
      decide (0 < (L Sample.request).lamports) && h.all fun x => !x.label.closes)
    (by decide +kernel)
  simp only [Bool.and_eq_true, decide_eq_true_eq] at hP
  obtain ⟨⟨⟨hgranted, hview⟩, hlive⟩, hopen⟩ := hP
  obtain ⟨L', hL'⟩ := Option.isSome_iff_exists.1 hgranted
  obtain ⟨⟨request, rem⟩, hview⟩ := Option.isSome_iff_exists.1 hview
  have hprocess := toOption_eq_some.1 hL'
  have hleaves := PassportRun.leavesEmptied Sample.genesis_unused hrun fun x hx call hlabel => by
    simpa [Label.closes, hlabel] using List.all_eq_true.1 hopen x hx
  obtain ⟨-, hbacked, hpaid, -⟩ := deposits_sufficient Sample.genesis_unused hrun hleaves
  exact ⟨h, L, L', request, rem, hrun, hview, hbacked _ request rem hview hlive, hprocess,
    hpaid _ _ rfl hprocess⟩

/-! ## A request that is closed but not gone -/

/-- The step makes the access request at `k`. -/
def Label.makes (rt : Runtime) (k : Pubkey) : Label → Bool
  | .call c =>
    match c.data with
    | .requestAccess accessMode => rt.requestKey accessMode.serviceKey = k
    | _ => false
  | _ => false

/-- The newest step that made the access request at `k`. -/
def lastMade (rt : Runtime) (k : Pubkey) (h : History) : Option (Entry PassportLedger Label) :=
  h.find? fun e => e.label.makes rt k

/-- The deposit of the config that an instruction reads. -/
def depositOf (e : Entry PassportLedger Label) : Option UInt64 :=
  match e.label with
  | .call c => do
    let configKey ← c.key? 0
    let (config, _) ← (view ID e.before configKey : Option (ProgramConfig × List (BitVec 8)))
    config.checkedRequestDepositLamports
  | _ => none

/-- Lamports sent to a granted request before its transaction is over keep it on the ledger, without
its deposit. -/
theorem deposits_insufficient_revived :
    ¬∀ (rt : Runtime) (L₀ L : PassportLedger) (h : History), Genesis L₀ → PassportRun rt L₀ h L →
      ∀ (k : Pubkey) (request : AccessRequest) (rem : List (BitVec 8)),
        view ID L k = some (request, rem) → 0 < (L k).lamports →
        ∃ deposit, (lastMade rt k h).bind depositOf = some deposit ∧
          rt.requestRent + deposit.toNat ≤ (L k).lamports := by
  intro hbacked
  obtain ⟨h, L, hrun, hP⟩ := Sample.exists_run_of_replay Sample.revived (P := fun h L =>
    (view ID L Sample.request : Option (AccessRequest × List (BitVec 8))).isSome &&
      decide (0 < (L Sample.request).lamports) &&
      ((lastMade Sample.runtime Sample.request h).bind depositOf).any fun deposit =>
        (L Sample.request).lamports < Sample.runtime.requestRent + deposit.toNat)
    (by decide +kernel)
  simp only [Bool.and_eq_true, decide_eq_true_eq] at hP
  obtain ⟨⟨hview, hpos⟩, hshort⟩ := hP
  obtain ⟨⟨request, rem⟩, hview⟩ := Option.isSome_iff_exists.1 hview
  obtain ⟨deposit, hdeposit, hle⟩ :=
    hbacked _ _ L h Sample.genesis_unused hrun _ request rem hview hpos
  rw [hdeposit, Option.any_some, decide_eq_true_eq] at hshort
  omega

end DoubleZero.Passport
