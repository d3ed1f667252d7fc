/-
  Kargain.Evm.SingleRepresentation — one passport, one place.

  Any number of chains run KarPassport with its gateway and send each
  other passports.  A passport circulates at home, or circulates on one
  other chain, or is in one message in flight; it is locked at home
  exactly in the last two cases.

  The argument is a conservation law.  On one chain a call changes the
  number of places a passport is in (circulating there, or in the boxes
  of the endpoint) only by minting it at home.  Summed over the chains
  and the network that number is one for every minted passport.

  Main result: `single_representation`.
-/
import Mathlib
import Kargain.Evm.PassportStatus

namespace Kargain.Evm.Bridge

variable {P : Type} [Erc721 P]

/-! ## §1. Places on one chain. -/

/-- Messages in `l` that carry `t`. -/
def carrying (l : List Packet) (t : TokenId) : ℕ := l.countP fun m => m.tokenId = t

/-- Does `t` circulate on the chain? -/
def circulates (c : Chain P) (t : TokenId) : Bool := (c.ownerOf t).isSome && !c.custodyLocked t

/-- Places of `t` on the chain: circulating, and in the endpoint's boxes. -/
def places (c : Chain P) (t : TokenId) : ℕ :=
  (circulates c t).toNat + carrying c.inbox t + carrying c.outbox t

/-- Was `t` minted here? -/
def minted (c : Chain P) (t : TokenId) : ℕ := (c.isHome t && (c.ownerOf t).isSome).toNat

/-- What a chain keeps: a locked passport is a home passport with the gateway, from whom
    nobody can take it; and no passport is in two places of the chain. -/
structure Local (c : Chain P) : Prop where
  gateway : c.bridgeGateway = .zero ∨ c.bridgeGateway = .gateway
  namesake : c.nextTokenId / 2 ^ 128 = c.chainId
  never : NeverApproves .gateway c.erc721
  away : ∀ t, c.custodyLocked t = true → c.isHome t = true ∧ c.ownerOf t = some .gateway

/-- No passport is in two places, and one that is to be minted here is in none. -/
def OnePlace (c : Chain P) : Prop :=
  ∀ t, places c t ≤ 1 ∧ (c.isHome t = true → c.ownerOf t = none → places c t = 0)

/-- Only a mint adds a place. -/
def Conserved (c c' : Chain P) : Prop :=
  c'.chainId = c.chainId ∧ ∀ t, places c' t + minted c t = places c t + minted c' t ∧
    minted c t ≤ minted c' t

section Local

variable {c c' c'' : Chain P} {t : TokenId}

theorem Conserved.refl : Conserved c c := ⟨rfl, fun _ => ⟨rfl, Nat.le_refl _⟩⟩

theorem Conserved.trans (h : Conserved c c') (h' : Conserved c' c'') : Conserved c c'' := by
  refine ⟨h'.1.trans h.1, fun t => ?_⟩
  have h₁ := h.2 t
  have h₂ := h'.2 t
  omega

theorem minted_eq_one_iff : minted c t = 1 ↔ c.isHome t = true ∧ (c.ownerOf t).isSome = true := by
  unfold minted
  cases c.isHome t <;> cases (c.ownerOf t).isSome <;> decide

theorem minted_le_one : minted c t ≤ 1 := by
  unfold minted
  cases c.isHome t && (c.ownerOf t).isSome <;> decide

theorem OnePlace.conserved (h : OnePlace c) (hc : Conserved c c') : OnePlace c' := by
  intro t
  obtain ⟨hone, hnone⟩ := h t
  obtain ⟨heq, hle⟩ := hc.2 t
  have hm := minted_le_one (c := c) (t := t)
  have hm' := minted_le_one (c := c') (t := t)
  have hhome : c'.isHome t = c.isHome t := by rw [Chain.isHome, Chain.isHome, hc.1]
  have hzero : minted c t = 0 → c.isHome t = true → places c t = 0 := by
    intro h₀ hh
    refine hnone hh (Option.not_isSome_iff_eq_none.mp fun hs => ?_)
    rw [minted_eq_one_iff.mpr ⟨hh, hs⟩] at h₀
    cases h₀
  refine ⟨?_, fun hh ho => ?_⟩
  · by_cases hh : c.isHome t = true
    · by_cases h₀ : minted c t = 0
      · have := hzero h₀ hh
        omega
      · omega
    · have h₁ : minted c' t = 0 := by simp [minted, hhome, hh]
      omega
  · have h₁ : minted c' t = 0 := by simp [minted, ho]
    rw [hhome] at hh
    have := hzero (by omega) hh
    omega

/-- One passport changes, `v` being what becomes of it, and only messages with it move. -/
theorem Conserved.of_views {v : View} (hid : c'.chainId = c.chainId) (hv : Views c c' t v)
    (hother : ∀ t', t' ≠ t → carrying c'.inbox t' = carrying c.inbox t' ∧
      carrying c'.outbox t' = carrying c.outbox t')
    (hle : minted c t ≤ (c.isHome t && v.owner.isSome).toNat)
    (hthis : (v.owner.isSome && !v.away).toNat + carrying c'.inbox t + carrying c'.outbox t +
      minted c t = places c t + (c.isHome t && v.owner.isSome).toNat) : Conserved c c' := by
  refine ⟨hid, fun t' => ?_⟩
  have h := hv t'
  by_cases ht : t' = t
  · subst ht
    rw [if_pos rfl] at h
    have hown : c'.ownerOf t' = v.owner := congrArg View.owner h
    have haway : c'.custodyLocked t' = v.away := congrArg View.away h
    have hm : minted c' t' = (c.isHome t' && v.owner.isSome).toNat := by
      rw [minted, Chain.isHome, Chain.isHome, hid, hown]
    have hp : places c' t' = (v.owner.isSome && !v.away).toNat + carrying c'.inbox t' +
        carrying c'.outbox t' := by
      rw [places, circulates, hown, haway]
    rw [hm, hp]
    exact ⟨hthis, hle⟩
  · rw [if_neg ht] at h
    have hown : c'.ownerOf t' = c.ownerOf t' := congrArg View.owner h
    have haway : c'.custodyLocked t' = c.custodyLocked t' := congrArg View.away h
    obtain ⟨hin, hout⟩ := hother t' ht
    have hm : minted c' t' = minted c t' := by
      rw [minted, minted, Chain.isHome, Chain.isHome, hid, hown]
    rw [hm]
    refine ⟨?_, Nat.le_refl _⟩
    rw [places, places, circulates, circulates, hown, haway, hin, hout]

/-- The boxes are as they were, and so is whether the passport exists and is locked. -/
theorem Conserved.of_shell {v : View} (hsh : c'.shell = c.shell) (hv : Views c c' t v)
    (ho : v.owner.isSome = (c.view t).owner.isSome) (ha : v.away = (c.view t).away) :
    Conserved c c' := by
  have hin : c'.inbox = c.inbox := congrArg Shell.inbox hsh
  have hout : c'.outbox = c.outbox := congrArg Shell.outbox hsh
  refine .of_views (congrArg Shell.chainId hsh) hv (fun t' _ => by rw [hin, hout]; simp) ?_ ?_
  · rw [ho]
    exact Nat.le_refl _
  · rw [ho, ha, hin, hout]
    rfl

theorem carrying_cons {m : Packet} {l : List Packet} :
    carrying (m :: l) t = carrying l t + if m.tokenId = t then 1 else 0 := by
  simp [carrying, List.countP_cons]

theorem carrying_erase {m : Packet} {l : List Packet} (h : m ∈ l) :
    carrying (l.erase m) t + (if m.tokenId = t then 1 else 0) = carrying l t := by
  have hp := List.perm_cons_erase h
  rw [← carrying_cons]
  exact (hp.countP_eq _).symm

/-! ## §2. One call. -/

theorem circulates_eq : circulates c t = ((c.view t).owner.isSome && !(c.view t).away) := rfl

/-- Nothing in view changes, and nobody names an approved account for the gateway. -/
theorem Local.same (h : Local c) (hsh : c'.shell = c.shell) (hv : ∀ t, c'.view t = c.view t)
    (hn : c'.nextTokenId = c.nextTokenId) (hp : NeverApproves .gateway c'.erc721) :
    Local c' ∧ Conserved c c' := by
  have hid : c'.chainId = c.chainId := congrArg Shell.chainId hsh
  refine ⟨⟨?_, by rw [hn, hid]; exact h.namesake, hp, fun t ha => ?_⟩,
    Conserved.of_shell (t := 0) (v := c.view 0) hsh (fun t' => ?_) rfl rfl⟩
  · rw [show c'.bridgeGateway = c.bridgeGateway from congrArg Shell.bridgeGateway hsh]
    exact h.gateway
  · rw [Chain.isHome, hid, show c'.ownerOf t = c.ownerOf t from congrArg View.owner (hv t)]
    exact h.away t ((congrArg View.away (hv t)).symm.trans ha)
  · rw [hv t']
    split
    · rename_i e
      rw [e]
    · rfl

/-- One passport changes, `v` being what becomes of it. -/
theorem Local.views {v : View} (h : Local c) (hsh : c'.chainId = c.chainId)
    (hg : c'.bridgeGateway = c.bridgeGateway) (hv : Views c c' t v)
    (hn : c'.nextTokenId = c.nextTokenId ∨ c'.nextTokenId / 2 ^ 128 = c.chainId)
    (hp : NeverApproves .gateway c'.erc721)
    (ht : v.away = true → c.isHome t = true ∧ v.owner = some .gateway) : Local c' := by
  refine ⟨hg ▸ h.gateway, ?_, hp, fun t' ha => ?_⟩
  · rcases hn with hn | hn
    · rw [hn, hsh]
      exact h.namesake
    · rw [hn, hsh]
  · have hv' := hv t'
    rw [Chain.isHome, hsh]
    by_cases e : t' = t
    · subst e
      rw [if_pos rfl] at hv'
      have := ht ((congrArg View.away hv').symm.trans ha)
      exact ⟨this.1, (congrArg View.owner hv').trans this.2⟩
    · rw [if_neg e] at hv'
      have := h.away t' ((congrArg View.away hv').symm.trans ha)
      exact ⟨this.1, (congrArg View.owner hv').trans this.2⟩

/-- The guard closes and a challenge is cleared. -/
theorem Local.entered {v : View} {b : Bool} (h : Local c)
    (hsh : c'.shell = { c.shell with locked := b }) (he : c'.erc721 = c.erc721)
    (hv : Views c c' t v) (ho : v.owner = (c.view t).owner) (ha : v.away = (c.view t).away) :
    Local c' ∧ Conserved c c' := by
  have hid : c'.chainId = c.chainId := congrArg Shell.chainId hsh
  have hin : c'.inbox = c.inbox := congrArg Shell.inbox hsh
  have hout : c'.outbox = c.outbox := congrArg Shell.outbox hsh
  refine ⟨h.views hid (congrArg Shell.bridgeGateway hsh) hv
    (.inl (congrArg Shell.nextTokenId hsh)) (he ▸ h.never) (by rw [ha, ho]; exact h.away t),
    .of_views hid hv (fun t' _ => by simp [hin, hout]) ?_ ?_⟩
  · rw [ho]
    exact Nat.le_refl _
  · rw [ho, ha, hin, hout]
    rfl

theorem Local.not_gateway (h : Local c) {n : ℕ} : Address.account n ≠ c.bridgeGateway := by
  rcases h.gateway with hg | hg <;> simp [hg]

/-- **One call adds a place only by minting.** -/
theorem begin_conserved {call : Call} {n : ℕ} (h : Local c) (hone : OnePlace c)
    (hcall : ∀ t dst, call ≠ .recoverLockedHome t dst)
    (hr : begin c (.account n) call = .ok c') : Local c' ∧ Conserved c c' := by
  cases call with
  | transferFrom src dst t | safeTransferFrom src dst t =>
    simp only [begin, bind_ok, orRevert_ok, pure_ok] at hr
    obtain ⟨p, hp, rfl⟩ := hr
    have hown := (Erc721.transferFrom_some hp).1
    -- a locked passport is with the gateway, and nobody takes it from there
    have haway : (c.view t).away = false := by
      by_contra hne
      refine h.never.src_ne (by simp) hp (Option.some.inj (hown.symm.trans ?_))
      exact (h.away t (by simpa [Chain.view] using hne)).2
    have hv := views_transferFrom hp
    have hown : (c.view t).owner = some src := hown
    exact ⟨h.views rfl rfl hv (.inl rfl) (h.never.transferFrom hp) (by simp [haway]),
      .of_shell rfl hv (by simp [hown]) rfl⟩
  | approve spender t =>
    simp only [begin, bind_ok, orRevert_ok, pure_ok] at hr
    obtain ⟨p, hp, rfl⟩ := hr
    exact h.same rfl (views_same_owner (Erc721.ownerOf_approve hp)) rfl
      (h.never.approve (by simp) hp)
  | setApprovalForAll operator b =>
    simp only [begin, bind_ok, orRevert_ok, pure_ok] at hr
    obtain ⟨p, hp, rfl⟩ := hr
    exact h.same rfl (views_same_owner (Erc721.ownerOf_setApprovalForAll hp)) rfl
      (h.never.setApprovalForAll (by simp) hp)
  | mintPassport dst uri =>
    obtain ⟨-, hn, hx, hsh, hk, hv⟩ := mintPassport_ok hr
    have hhome : c.isHome c.nextTokenId = true := by
      rw [Chain.isHome, KarPassport.isHome, h.namesake]
      exact beq_self_eq_true _
    have haway : (c.view c.nextTokenId).away = false := by
      by_contra hne
      have := (h.away _ (by simpa [Chain.view] using hne)).2
      rw [hn] at this
      cases this
    have hid : c'.chainId = c.chainId := congrArg Shell.chainId hsh
    have hin : c'.inbox = c.inbox := congrArg Shell.inbox hsh
    have hout : c'.outbox = c.outbox := congrArg Shell.outbox hsh
    have hnext : c'.nextTokenId = c.nextTokenId + 1 := congrArg Shell.nextTokenId hsh
    have hzero := (hone c.nextTokenId).2 hhome hn
    refine ⟨h.views hid (congrArg Shell.bridgeGateway hsh) hv (.inr ?_) (hk h.never)
      (by simp [haway]), .of_views hid hv (fun t' _ => by simp [hin, hout]) ?_ ?_⟩
    · have := h.namesake
      rw [hnext]
      omega
    · simp [minted, hn]
    · have hm : minted c c.nextTokenId = 0 := by simp [minted, hn]
      have hzero' := hzero
      simp only [places, circulates, hn] at hzero'
      simp [haway, hin, hout, hm, hhome, hzero]
      simp at hzero'
      omega
  | setPassportURI t uri =>
    obtain ⟨-, hsh, he, -, hv⟩ := setPassportURI_ok hr
    refine ⟨h.views (congrArg Shell.chainId hsh) (congrArg Shell.bridgeGateway hsh) hv
      (.inl (congrArg Shell.nextTokenId hsh)) (he ▸ h.never) ?_, .of_shell hsh hv ?_ ?_⟩
    · split <;> exact h.away t
    all_goals split <;> rfl
  | verifyPassport t =>
    obtain ⟨-, hsh, he, -, hv⟩ := verifyPassport_ok hr
    exact ⟨h.views (congrArg Shell.chainId hsh) (congrArg Shell.bridgeGateway hsh) hv
      (.inl (congrArg Shell.nextTokenId hsh)) (he ▸ h.never) (h.away t), .of_shell hsh hv rfl rfl⟩
  | openDispute t value =>
    obtain ⟨-, hsh, he, -, -, -, hv⟩ := openDispute_ok hr
    exact ⟨h.views (congrArg Shell.chainId hsh) (congrArg Shell.bridgeGateway hsh) hv
      (.inl (congrArg Shell.nextTokenId hsh)) (he ▸ h.never) (h.away t), .of_shell hsh hv rfl rfl⟩
  | withdraw t =>
    obtain ⟨-, hsh, he, -, hv⟩ := withdraw_ok hr
    exact h.entered hsh he hv rfl rfl
  | judge t outcome =>
    obtain ⟨-, hsh, he, -, hv⟩ := judge_ok hr
    exact h.entered hsh he hv rfl rfl
  | conclude t =>
    obtain ⟨-, hsh, he, -, hv⟩ := conclude_ok hr
    exact h.entered hsh he hv rfl rfl
  | setDisputeDeposit amount =>
    simp only [begin, setDisputeDeposit, bind_ok, pure_ok] at hr
    obtain ⟨_, -, _, -, rfl⟩ := hr
    exact h.same rfl (fun _ => rfl) rfl h.never
  | addEncumbranceSource source =>
    simp only [begin, addEncumbranceSource, bind_ok, pure_ok] at hr
    obtain ⟨_, -, _, -, _, -, _, -, rfl⟩ := hr
    exact h.same rfl (fun _ => rfl) rfl h.never
  | removeEncumbranceSource source =>
    simp only [begin, removeEncumbranceSource, bind_ok, pure_ok] at hr
    obtain ⟨_, -, _, -, rfl⟩ := hr
    exact h.same rfl (fun _ => rfl) rfl h.never
  | setBridgeGateway =>
    simp only [begin, setBridgeGateway, bind_ok, pure_ok] at hr
    obtain ⟨_, -, _, -, _, -, rfl⟩ := hr
    exact ⟨⟨.inr rfl, h.namesake, h.never, h.away⟩, rfl, fun _ => ⟨rfl, Nat.le_refl _⟩⟩
  | setCustodyLock t b => exact absurd (setCustodyLock_ok hr).1 h.not_gateway
  | bridgeMint dst t uri => exact absurd (bridgeMint_ok hr).1 h.not_gateway
  | bridgeBurn t => exact absurd (bridgeBurn_ok hr).1 h.not_gateway
  | bridgeResetOnUnlock t uri => exact absurd (bridgeResetOnUnlock_ok hr).1 h.not_gateway
  | send dstEid dst t =>
    obtain ⟨-, ho, -, hsh, hk, hv⟩ := send_ok hr
    have haway : (c.view t).away = false := by
      by_contra hne
      have := (h.away t (by simpa [Chain.view] using hne)).2
      exact absurd (ho.symm.trans this) (by simp)
    have hid : c'.chainId = c.chainId := congrArg Shell.chainId hsh
    have hin : c'.inbox = c.inbox := congrArg Shell.inbox hsh
    have hout : c'.outbox = ⟨dstEid, dst, t, c.tokenURI t⟩ :: c.outbox := congrArg Shell.outbox hsh
    have ho' : c.ownerOf t = some (.account n) := ho
    have hcirc : circulates c t = true := by simp [circulates_eq, ho, haway]
    refine ⟨h.views hid (congrArg Shell.bridgeGateway hsh) hv
      (.inl (congrArg Shell.nextTokenId hsh)) (hk h.never) ?_, .of_views hid hv (fun t' ht => ?_) ?_ ?_⟩
    · by_cases hh : c.isHome t = true
      · simp [hh]
      · simp [hh, View.unverified, haway]
    · rw [hin, hout, carrying_cons, if_neg (fun e => ht e.symm)]
      simp
    · by_cases hh : c.isHome t = true <;> simp [hh, minted, ho']
    · rw [hin, hout, carrying_cons, if_pos rfl, places, hcirc]
      by_cases hh : c.isHome t = true
      · simp [hh, minted, ho']
        omega
      · simp [hh, minted]
        omega
  | lzReceive m =>
    obtain ⟨hm, -, hsh, hk, ho, hv⟩ := lzReceive_ok hr
    have hid : c'.chainId = c.chainId := congrArg Shell.chainId hsh
    have hin : c'.inbox = c.inbox.erase m := congrArg Shell.inbox hsh
    have hout : c'.outbox = c.outbox := congrArg Shell.outbox hsh
    have herase := carrying_erase (t := m.tokenId) hm
    rw [if_pos rfl] at herase
    have hplaces := (hone m.tokenId).1
    -- one place, and it is the message: the passport does not circulate here
    have hcirc : circulates c m.tokenId = false := by
      by_contra hne
      rw [Bool.not_eq_false] at hne
      rw [places, hne] at hplaces
      simp only [Bool.toNat_true] at hplaces
      omega
    refine ⟨h.views hid (congrArg Shell.bridgeGateway hsh) hv
      (.inl (congrArg Shell.nextTokenId hsh)) (hk h.never) ?_, .of_views hid hv (fun t' ht => ?_) ?_ ?_⟩
    · by_cases hh : c.isHome m.tokenId = true
      · simp [hh]
      · intro ha
        rw [if_neg hh] at ha
        exact absurd (h.away _ ha).1 hh
    · have := carrying_erase (t := t') hm
      rw [if_neg (fun e => ht e.symm)] at this
      rw [hin, hout]
      exact ⟨this, rfl⟩
    · by_cases hh : c.isHome m.tokenId = true
      · simp [hh, minted_le_one]
      · simp [hh, minted]
    · rw [hin, hout, places, hcirc]
      by_cases hh : c.isHome m.tokenId = true
      · rw [if_pos hh] at ho
        have ho' : c.ownerOf m.tokenId = some .gateway := ho
        simp [hh, minted, ho']
        omega
      · have haway : (c.view m.tokenId).away = false := by
          by_contra hne
          exact hh (h.away _ (by simpa [Chain.view] using hne)).1
        simp [hh, minted, haway]
        omega
  | recoverLockedHome t dst => exact absurd rfl (hcall t dst)

theorem finish_conserved {c₀ : Chain P} {call : Call} {n : ℕ} (h : Local c)
    (hr : finish c₀ c (.account n) call = .ok c') : Local c' ∧ Conserved c c' := by
  cases call with
  | mintPassport dst uri =>
    obtain ⟨hsh, he, hv⟩ := mintPassportFinish_ok hr
    exact h.entered (t := 0) hsh he (fun t' => by rw [hv t']; split <;> simp_all) rfl rfl
  | bridgeMint dst t uri =>
    obtain ⟨hsh, he, hv⟩ := bridgeMintFinish_ok hr
    exact h.same hsh hv (congrArg Shell.nextTokenId hsh) (he ▸ h.never)
  | withdraw t =>
    obtain rfl := pure_ok.mp hr
    exact h.entered (b := false) rfl rfl (views_stood fun _ => rfl) rfl rfl
  | judge t outcome =>
    obtain rfl := pure_ok.mp hr
    cases outcome with
    | upheld => exact h.entered (b := false) rfl rfl (views_lapsed fun _ => rfl) rfl rfl
    | rejected => exact h.entered (b := false) rfl rfl (views_stood fun _ => rfl) rfl rfl
  | conclude t =>
    obtain rfl := pure_ok.mp hr
    exact h.entered (b := false) rfl rfl (views_lapsed fun _ => rfl) rfl rfl
  | send dstEid dst t =>
    obtain rfl := pure_ok.mp hr
    exact h.same rfl (fun _ => rfl) rfl h.never
  | lzReceive m =>
    obtain ⟨hsh, he, hv⟩ := lzReceiveFinish_ok hr
    exact h.same hsh hv (congrArg Shell.nextTokenId hsh) (he ▸ h.never)
  | _ =>
    obtain rfl := pure_ok.mp hr
    exact ⟨h, .refl⟩

end Local

/-! ## §3. One transaction. -/

mutual

/-- A message in which nobody, at any depth, recovers a passport. -/
def Unaided : Message → Prop
  | .mk _ call _ calls => (∀ t dst, call ≠ .recoverLockedHome t dst) ∧ UnaidedAll calls

def UnaidedAll : List Message → Prop
  | [] => True
  | m :: ms => Unaided m ∧ UnaidedAll ms

end

mutual

/-- **A message adds a place only by minting**, whatever its callees send in. -/
theorem exec_conserved : ∀ (m : Message) {c c' : Chain P}, Local c → OnePlace c → Unaided m →
    exec m c = .ok c' → Local c' ∧ Conserved c c'
  | .mk sender call accepts calls, c, c', h, hone, hm, hr => by
    simp only [exec, bind_ok] at hr
    obtain ⟨c₁, h₁, c₂, h₂, h₃⟩ := hr
    obtain ⟨hl₁, hc₁⟩ := begin_conserved h hone hm.1 h₁
    have hmid : Local c₂ ∧ Conserved c₁ c₂ := by
      cases ht : turn c call with
      | nobody =>
        rw [ht] at h₂
        obtain rfl := pure_ok.mp h₂
        exact ⟨hl₁, .refl⟩
      | required =>
        simp only [ht, bind_ok, require_ok, exists_const] at h₂
        exact execAll_conserved calls hl₁ (hone.conserved hc₁) hm.2 h₂.2
      | caught =>
        simp only [ht] at h₂
        split at h₂
        · exact execAll_conserved calls hl₁ (hone.conserved hc₁) hm.2 h₂
        · obtain rfl := pure_ok.mp h₂
          exact ⟨hl₁, .refl⟩
    obtain ⟨hl₃, hc₃⟩ := finish_conserved hmid.1 h₃
    exact ⟨hl₃, (hc₁.trans hmid.2).trans hc₃⟩

theorem execAll_conserved : ∀ (ms : List Message) {c c' : Chain P}, Local c → OnePlace c →
    UnaidedAll ms → execAll ms c = .ok c' → Local c' ∧ Conserved c c'
  | [], c, c', h, _, _, hr => by
    simp only [execAll, pure_ok] at hr
    subst hr
    exact ⟨h, .refl⟩
  | m :: ms, c, c', h, hone, hm, hr => by
    simp only [execAll, bind_ok] at hr
    obtain ⟨c₁, h₁, hr⟩ := hr
    obtain ⟨hl, hc⟩ := exec_conserved m h hone hm.1 h₁
    obtain ⟨hl', hc'⟩ := execAll_conserved ms hl (hone.conserved hc) hm.2 hr
    exact ⟨hl', hc.trans hc'⟩

end

/-! ## §4. The chains and what is between them. -/

/-- Chains by chain id, the deployed ones among them, and the messages in flight. -/
structure Net (P : Type) where
  chains : ℕ → Chain P
  deployed : Finset ℕ
  inFlight : List Packet

/-- A transaction on one chain, or time and other contracts there moving on.  A delivery is a
    transaction, and a failed one leaves its message in flight. -/
inductive NetAction where
  | transaction (chainId : ℕ) (m : Message)
  | outside (chainId now : ℕ) (isActiveVerifier : Address → Bool)
      (sourceAnswer : Address → TokenId → Intent → Option Bool)

namespace Net

variable (eid : ℕ → ℕ)

/-- The chain with the messages bound for its endpoint. -/
def arriving (s : Net P) (i : ℕ) : Chain P :=
  { s.chains i with inbox := s.inFlight.filter fun m => m.dstEid = eid i, outbox := [] }

/-- The chain goes back, and its boxes into the network. -/
def departed (s : Net P) (i : ℕ) (c : Chain P) : Net P :=
  { s with
    chains := Function.update s.chains i { c with inbox := [], outbox := [] }
    inFlight := s.inFlight.filter (fun m => m.dstEid ≠ eid i) ++ (c.inbox ++ c.outbox) }

def step (s : Net P) : NetAction → Except Error (Net P)
  | .transaction i m => do
    require (i ∈ s.deployed) .calleeReverted
    let c ← exec m (s.arriving eid i)
    pure (s.departed eid i c)
  | .outside i now isActiveVerifier sourceAnswer => do
    let c ← Bridge.step (s.chains i) (.outside now isActiveVerifier sourceAnswer)
    pure { s with chains := Function.update s.chains i c }

/-- Every chain freshly deployed, with the gateway's address bound or still unbound, and
    nobody on it approved by the gateway; nothing in flight. -/
structure Fresh (s : Net P) : Prop where
  chainId : ∀ i, (s.chains i).chainId = i
  deployed : ∀ i, Deployed (s.chains i)
  never : ∀ i, NeverApproves .gateway (s.chains i).erc721
  boxes : ∀ i, (s.chains i).inbox = [] ∧ (s.chains i).outbox = []
  quiet : s.inFlight = []

end Net

/-- The home chain of a token. -/
def homeOf (t : TokenId) : ℕ := t / 2 ^ 128

/-- Every passport is in as many places as it was minted times. -/
structure NetInv (s : Net P) : Prop where
  chainId : ∀ i, (s.chains i).chainId = i
  keeps : ∀ i, Local (s.chains i)
  boxes : ∀ i, (s.chains i).inbox = [] ∧ (s.chains i).outbox = []
  total : ∀ t, (∑ i ∈ s.deployed, (circulates (s.chains i) t).toNat) + carrying s.inFlight t =
    ∑ i ∈ s.deployed, minted (s.chains i) t

section Net

variable {eid : ℕ → ℕ} {s s' : Net P} {i : ℕ} {t : TokenId}

theorem carrying_append {l l' : List Packet} : carrying (l ++ l') t = carrying l t + carrying l' t :=
  List.countP_append

theorem carrying_filter (l : List Packet) (p : Packet → Prop) [DecidablePred p] :
    carrying (l.filter fun m => p m) t + carrying (l.filter fun m => ¬ p m) t = carrying l t := by
  rw [← carrying_append]
  simp only [decide_not]
  exact (List.filter_append_perm _ l).countP_eq _

/-- Only its home chain mints a passport. -/
theorem NetInv.minted_eq (h : NetInv s) (t : TokenId) :
    ∑ i ∈ s.deployed, minted (s.chains i) t =
      if homeOf t ∈ s.deployed then minted (s.chains (homeOf t)) t else 0 := by
  have hne : ∀ i, i ≠ homeOf t → minted (s.chains i) t = 0 := by
    intro i hi
    have : (s.chains i).isHome t = false := by
      rw [Chain.isHome, KarPassport.isHome, h.chainId i]
      exact beq_false_of_ne fun e => hi e.symm
    simp [minted, this]
  split
  · rename_i hmem
    exact Finset.sum_eq_single_of_mem _ hmem fun i _ hi => hne i hi
  · rename_i hmem
    exact Finset.sum_eq_zero fun i hi => hne i (fun e => hmem (e ▸ hi))

theorem NetInv.minted_le (h : NetInv s) (t : TokenId) :
    ∑ i ∈ s.deployed, minted (s.chains i) t ≤ 1 := by
  rw [h.minted_eq]
  split
  · exact minted_le_one
  · exact Nat.zero_le _

theorem circulates_le (h : i ∈ s.deployed) : (circulates (s.chains i) t).toNat ≤
    ∑ i ∈ s.deployed, (circulates (s.chains i) t).toNat :=
  Finset.single_le_sum (f := fun i => (circulates (s.chains i) t).toNat)
    (fun _ _ => Nat.zero_le _) h

/-- What a chain and its boxes hold is part of the total. -/
theorem NetInv.arriving (h : NetInv s) (hi : i ∈ s.deployed) :
    Local (s.arriving eid i) ∧ OnePlace (s.arriving eid i) := by
  have hk := h.keeps i
  refine ⟨⟨hk.gateway, hk.namesake, hk.never, hk.away⟩, fun t => ?_⟩
  have hpl : places (s.arriving eid i) t = (circulates (s.chains i) t).toNat +
      carrying (s.inFlight.filter fun m => m.dstEid = eid i) t + 0 := rfl
  have hf := carrying_filter (t := t) s.inFlight fun m => m.dstEid = eid i
  have ht := h.total t
  have hc := circulates_le (t := t) hi
  have hm := h.minted_le t
  refine ⟨by omega, fun hh ho => ?_⟩
  have hhome : i = homeOf t := by
    have hid : (s.arriving eid i).chainId = i := h.chainId i
    rw [Chain.isHome, KarPassport.isHome, hid] at hh
    exact (beq_iff_eq.mp hh).symm
  have : ∑ i ∈ s.deployed, minted (s.chains i) t = 0 := by
    rw [h.minted_eq, if_pos (hhome ▸ hi), ← hhome]
    have ho' : (s.chains i).ownerOf t = none := ho
    simp [minted, ho']
  omega

/-- **One step keeps the total.** -/
theorem NetInv.transaction {m : Message} (h : NetInv s) (hm : Unaided m)
    (hr : Net.step eid s (.transaction i m) = .ok s') : NetInv s' := by
  simp only [Net.step, bind_ok, require_ok, pure_ok, exists_const] at hr
  obtain ⟨hi, c, hc, rfl⟩ := hr
  obtain ⟨hl, hone⟩ : Local (s.arriving eid i) ∧ OnePlace (s.arriving eid i) := h.arriving hi
  obtain ⟨hl', hcons⟩ := exec_conserved m hl hone hm hc
  have hid : c.chainId = i := hcons.1.trans (h.chainId i)
  refine ⟨fun j => ?_, fun j => ?_, fun j => ?_, fun t => ?_⟩
  · by_cases e : j = i
    · subst e
      simpa [Net.departed] using hid
    · simpa [Net.departed, e] using h.chainId j
  · by_cases e : j = i
    · subst e
      simp only [Net.departed, Function.update_self]
      exact ⟨hl'.gateway, hl'.namesake, hl'.never, hl'.away⟩
    · simpa [Net.departed, e] using h.keeps j
  · by_cases e : j = i
    · subst e
      simp [Net.departed]
    · simpa [Net.departed, e] using h.boxes j
  · -- all summands but the chain's own are as before
    have hsum : ∀ f : Chain P → ℕ,
        ∑ j ∈ s.deployed, f ((s.departed eid i c).chains j) + f (s.chains i) =
          ∑ j ∈ s.deployed, f (s.chains j) + f { c with inbox := [], outbox := [] } := by
      intro f
      rw [← Finset.add_sum_erase s.deployed _ hi,
        ← Finset.add_sum_erase s.deployed (fun j => f (s.chains j)) hi]
      have hrest : ∑ j ∈ s.deployed.erase i, f ((s.departed eid i c).chains j) =
          ∑ j ∈ s.deployed.erase i, f (s.chains j) := by
        refine Finset.sum_congr rfl fun j hj => ?_
        simp [Net.departed, Finset.ne_of_mem_erase hj]
      rw [hrest]
      simp only [Net.departed, Function.update_self]
      omega
    have h₁ := hsum fun c => (circulates c t).toNat
    have h₂ := hsum fun c => minted c t
    have hfl : carrying (s.departed eid i c).inFlight t =
        carrying (s.inFlight.filter fun m => ¬ m.dstEid = eid i) t +
          (carrying c.inbox t + carrying c.outbox t) := by
      rw [← carrying_append, ← carrying_append]
      rfl
    have hf := carrying_filter (t := t) s.inFlight fun m => m.dstEid = eid i
    have ht := h.total t
    obtain ⟨hc, -⟩ := hcons.2 t
    have hp : places c t = (circulates c t).toNat + carrying c.inbox t + carrying c.outbox t := rfl
    have hp₀ : places (s.arriving eid i) t = (circulates (s.chains i) t).toNat +
        carrying (s.inFlight.filter fun m => m.dstEid = eid i) t + 0 := rfl
    have hm₀ : minted (s.arriving eid i) t = minted (s.chains i) t := rfl
    have hc' : circulates { c with inbox := [], outbox := [] } t = circulates c t := rfl
    have hm' : minted { c with inbox := [], outbox := [] } t = minted c t := rfl
    simp only [hc', hm'] at h₁ h₂
    have hdep : (s.departed eid i c).deployed = s.deployed := rfl
    rw [hdep, hfl]
    omega

theorem NetInv.outside {now : ℕ} {isActiveVerifier : Address → Bool}
    {sourceAnswer : Address → TokenId → Intent → Option Bool} (h : NetInv s)
    (hr : Net.step eid s (.outside i now isActiveVerifier sourceAnswer) = .ok s') : NetInv s' := by
  simp only [Net.step, Bridge.step, bind_ok, require_ok, pure_ok, exists_const] at hr
  obtain ⟨c, ⟨-, rfl⟩, rfl⟩ := hr
  -- what passes is not in the law
  have hf : ∀ {β : Type} (f : Chain P → β),
      f { s.chains i with now, isActiveVerifier, sourceAnswer } = f (s.chains i) →
      ∀ j, f (Function.update s.chains i
        { s.chains i with now, isActiveVerifier, sourceAnswer } j) = f (s.chains j) := by
    intro β f hfi j
    by_cases e : j = i
    · subst e
      simpa using hfi
    · simp [e]
  refine ⟨fun j => (hf (·.chainId) rfl j).trans (h.chainId j), fun j => ?_, fun j => ?_,
    fun t => ?_⟩
  · by_cases e : j = i
    · subst e
      have hk := h.keeps j
      simp only [Function.update_self]
      exact ⟨hk.gateway, hk.namesake, hk.never, hk.away⟩
    · simpa [e] using h.keeps j
  · rw [hf (·.inbox) rfl j, hf (·.outbox) rfl j]
    exact h.boxes j
  · simp only [hf (fun c => (circulates c t).toNat) rfl, hf (fun c => minted c t) rfl]
    exact h.total t

theorem Net.Fresh.inv (h : s.Fresh) : NetInv s := by
  have hnone : ∀ i t, (s.chains i).ownerOf t = none := fun i => (h.deployed i).no_passport
  refine ⟨h.chainId, fun i => ⟨(h.deployed i).gateway, ?_, h.never i, fun t ha => ?_⟩, h.boxes,
    fun t => ?_⟩
  · rw [(h.deployed i).nextTokenId]
    exact Nat.mul_div_cancel _ (by decide)
  · rw [(h.deployed i).unlocked] at ha
    cases ha
  · simp [circulates, minted, hnone, h.quiet, carrying]

/-! ## §5. One place. -/

/-- A run in which the owner recovers nothing. -/
def NetAction.unaided : NetAction → Prop
  | .transaction _ m => Unaided m
  | .outside .. => True

/-- `t` circulates on its home chain. -/
def AtHome (s : Net P) (t : TokenId) : Prop := circulates (s.chains (homeOf t)) t = true

/-- `t` circulates on the deployed chain `i`, which is not its home. -/
def Abroad (s : Net P) (t : TokenId) (i : ℕ) : Prop :=
  i ∈ s.deployed ∧ i ≠ homeOf t ∧ ((s.chains i).ownerOf t).isSome = true

/-- `t` is locked at home, with the gateway. -/
def LockedAtHome (s : Net P) (t : TokenId) : Prop :=
  (s.chains (homeOf t)).custodyLocked t = true ∧
    (s.chains (homeOf t)).ownerOf t = some .gateway

/-- Where a passport is: at home and nowhere else, on one other chain and nowhere else, or in
    one message; it is locked at home in the last two cases and only there. -/
inductive Whereabouts (s : Net P) (t : TokenId) : Prop
  | atHome (h : AtHome s t) (ha : ∀ i, ¬ Abroad s t i) (hf : carrying s.inFlight t = 0)
      (hl : ¬ LockedAtHome s t)
  | abroad (i : ℕ) (h : Abroad s t i) (hu : ∀ j, Abroad s t j → j = i) (hh : ¬ AtHome s t)
      (hf : carrying s.inFlight t = 0) (hl : LockedAtHome s t)
  | inFlight (h : carrying s.inFlight t = 1) (ha : ∀ i, ¬ Abroad s t i) (hh : ¬ AtHome s t)
      (hl : LockedAtHome s t)

theorem NetInv.abroad_iff (h : NetInv s) (hi : i ∈ s.deployed) (hne : i ≠ homeOf t) :
    Abroad s t i ↔ circulates (s.chains i) t = true := by
  have haway : (s.chains i).custodyLocked t = false := by
    by_contra hb
    have := ((h.keeps i).away t (by simpa using hb)).1
    rw [Chain.isHome, KarPassport.isHome, h.chainId i] at this
    exact hne (beq_iff_eq.mp this).symm
  simp [Abroad, circulates, haway, hi, hne]

/-- In two places at once: the total is at least two. -/
theorem two_le_of_circulates {i j : ℕ} (hi : i ∈ s.deployed) (hj : j ∈ s.deployed) (hne : j ≠ i)
    (hci : circulates (s.chains i) t = true) (hcj : circulates (s.chains j) t = true) :
    2 ≤ ∑ i ∈ s.deployed, (circulates (s.chains i) t).toNat := by
  rw [← Finset.add_sum_erase s.deployed _ hi]
  have : (circulates (s.chains j) t).toNat ≤
      ∑ i ∈ s.deployed.erase i, (circulates (s.chains i) t).toNat :=
    Finset.single_le_sum (f := fun i => (circulates (s.chains i) t).toNat)
      (fun _ _ => Nat.zero_le _) (Finset.mem_erase.mpr ⟨hne, hj⟩)
  rw [hcj] at this
  rw [hci]
  simp only [Bool.toNat_true] at this ⊢
  omega

theorem NetInv.whereabouts (h : NetInv s) (hmem : homeOf t ∈ s.deployed)
    (hm : ((s.chains (homeOf t)).ownerOf t).isSome = true) : Whereabouts s t := by
  have hhome : (s.chains (homeOf t)).isHome t = true := by
    rw [Chain.isHome, KarPassport.isHome, h.chainId]
    exact beq_self_eq_true _
  have htot := h.total t
  rw [h.minted_eq, if_pos hmem, minted_eq_one_iff.mpr ⟨hhome, hm⟩] at htot
  -- not locked is circulating
  have hlock : LockedAtHome s t ↔ ¬ AtHome s t := by
    simp only [AtHome, circulates, hm, Bool.true_and, Bool.not_eq_true']
    constructor
    · rintro ⟨hl, -⟩ hn
      rw [hl] at hn
      cases hn
    · intro hn
      have hl : (s.chains (homeOf t)).custodyLocked t = true := by simpa using hn
      exact ⟨hl, ((h.keeps _).away t hl).2⟩
  by_cases hf : carrying s.inFlight t = 0
  · -- somewhere it circulates
    have hex : ∃ i ∈ s.deployed, circulates (s.chains i) t = true := by
      by_contra hno
      have : ∑ i ∈ s.deployed, (circulates (s.chains i) t).toNat = 0 := by
        refine Finset.sum_eq_zero fun i hi => ?_
        have : circulates (s.chains i) t = false := by
          by_contra hc
          exact hno ⟨i, hi, by simpa using hc⟩
        rw [this]
        rfl
      omega
    obtain ⟨i, hi, hc⟩ := hex
    have honly : ∀ j ∈ s.deployed, circulates (s.chains j) t = true → j = i := by
      intro j hj hcj
      by_contra hne
      have := two_le_of_circulates hi hj hne hc hcj
      omega
    by_cases e : i = homeOf t
    · have hat : AtHome s t := by
        rw [AtHome, ← e]
        exact hc
      refine .atHome hat (fun j hj => ?_) hf (fun hl => hlock.mp hl hat)
      exact hj.2.1 ((honly j hj.1 ((h.abroad_iff hj.1 hj.2.1).mp hj)).trans e)
    · have hnot : ¬ AtHome s t := fun hat => e (honly _ hmem hat).symm
      exact .abroad i ((h.abroad_iff hi e).mpr hc)
        (fun j hj => honly j hj.1 ((h.abroad_iff hj.1 hj.2.1).mp hj)) hnot hf (hlock.mpr hnot)
  · have hnone : ∀ j ∈ s.deployed, circulates (s.chains j) t = true → False := by
      intro j hj hcj
      have := circulates_le (t := t) hj
      rw [hcj] at this
      simp only [Bool.toNat_true] at this
      omega
    have hnot : ¬ AtHome s t := fun hat => hnone _ hmem hat
    exact .inFlight (by omega) (fun j hj => hnone j hj.1 ((h.abroad_iff hj.1 hj.2.1).mp hj)) hnot
      (hlock.mpr hnot)

/-- A passport not minted at home is nowhere. -/
theorem NetInv.nowhere (h : NetInv s)
    (hm : homeOf t ∈ s.deployed → (s.chains (homeOf t)).ownerOf t = none) :
    (∀ i, ¬ Abroad s t i) ∧ carrying s.inFlight t = 0 := by
  have htot := h.total t
  have hzero : ∑ i ∈ s.deployed, minted (s.chains i) t = 0 := by
    rw [h.minted_eq]
    split
    · rename_i hmem
      simp [minted, hm hmem]
    · rfl
  rw [hzero] at htot
  refine ⟨fun i hi => ?_, by omega⟩
  have := circulates_le (t := t) hi.1
  rw [(h.abroad_iff hi.1 hi.2.1).mp hi] at this
  simp only [Bool.toNat_true] at this
  omega

/-- **One passport, one place**, over any number of chains and in every order of mints,
    transfers, sends and deliveries; a passport that was not minted at home is nowhere. -/
theorem single_representation {s₀ : Net P} {as : List NetAction} (h₀ : s₀.Fresh)
    (has : ∀ a ∈ as, a.unaided) (hr : run (Net.step eid) s₀ as = .ok s) (t : TokenId) :
    (homeOf t ∈ s.deployed → ((s.chains (homeOf t)).ownerOf t).isSome = true → Whereabouts s t) ∧
      ((homeOf t ∈ s.deployed → (s.chains (homeOf t)).ownerOf t = none) →
        (∀ i, ¬ Abroad s t i) ∧ carrying s.inFlight t = 0) := by
  have hinv : NetInv s := by
    have halong : Along (Net.step eid) (fun _ a => a.unaided) s₀ as := by
      clear hr h₀
      induction as generalizing s₀ with
      | nil => trivial
      | cons a as ih =>
        exact ⟨has a (by simp), fun s' _ => ih fun b hb => has b (by simp [hb])⟩
    refine run_invariant_along (fun s a s' hi ha hs => ?_) h₀.inv halong hr
    cases a with
    | transaction i m => exact hi.transaction ha hs
    | outside i now isActiveVerifier sourceAnswer => exact hi.outside hs
  exact ⟨hinv.whereabouts, hinv.nowhere⟩

/-- Chains 1 and 2 right after deployment. -/
def smallNet : Net Registry :=
  ⟨fun i => { smallChain with chainId := i, nextTokenId := i * 2 ^ 128 }, {1, 2}, []⟩

/-- Account 1 mints a passport on chain 1 and sends it to chain 2, where it is delivered. -/
def smallNetRun : List NetAction := [
  .transaction 1 (.mk 1 (.mintPassport (.account 1) [97]) true []),
  .transaction 1 (.mk 1 (.approve .gateway (2 ^ 128)) true []),
  .transaction 1 (.mk 1 (.send 2 ⟨0, .account 1⟩ (2 ^ 128)) true []),
  .transaction 2 (.mk 5 (.lzReceive ⟨2, ⟨0, .account 1⟩, 2 ^ 128, [97]⟩) true [])]

theorem smallNet_fresh : smallNet.Fresh where
  chainId _ := rfl
  deployed _ := ⟨Nat.zero_lt_succ 99, fun _ => rfl, rfl, fun _ => rfl, fun _ => rfl, fun _ => rfl, .inr rfl,
    rfl, rfl⟩
  never _ := ⟨fun _ => rfl, fun _ _ => rfl⟩
  boxes _ := ⟨rfl, rfl⟩
  quiet := rfl

theorem single_representation_small :
    Whereabouts (finalState (Net.step id) smallNet smallNetRun) (2 ^ 128) := by
  have hrun : run (Net.step id) smallNet smallNetRun =
      .ok (finalState (Net.step id) smallNet smallNetRun) := run_finalState (by decide +kernel)
  have hun : ∀ a ∈ smallNetRun, a.unaided := by
    simp [smallNetRun, NetAction.unaided, Unaided, UnaidedAll]
  exact (single_representation smallNet_fresh hun hrun (2 ^ 128)).1 (by decide +kernel)
    (by decide +kernel)

end Net

end Kargain.Evm.Bridge
