/-
  Kargain.Evm.PassportRow — the indexed row of a passport.

  The indexer keeps one row for a passport, whatever chain it is on:
  `rowAfter` is what its handlers make of the events of one chain.  The
  row is meant to have the trust and the URI of the copy that circulates.
  A passport that leaves tells the row nothing; an arrival abroad resets
  it, and a home return resets it only where the home's own, older status
  has something to announce.

  Main results: `begin_first` and `finish_last`, what either half of a
  call does to one passport and tells its row.
-/
import Kargain.Evm.PassportContent

namespace Kargain.Evm.Bridge

variable {P : Type} [Erc721 P]

/-! ## §1. Rows. -/

/-- A row of the table `passport`: what its handlers say of trust and content.  No verifier is
    the empty string there. -/
structure PassportRow where
  status : Status
  verifier : Option Address
  tokenUri : Uri
  deriving Repr, DecidableEq

/-- `disputeResolvedTrustFields`. -/
def PassportRow.disputeResolved (r : PassportRow) : JudgeOutcome → PassportRow
  | .rejected => { r with status := .verified }
  | .upheld => { r with status := .unverified, verifier := none }

/-- `disputeExpiredTrustFields`, and `verificationResetTrustFields`. -/
def PassportRow.unverified (r : PassportRow) : PassportRow :=
  { r with status := .unverified, verifier := none }

/-- The handlers of KarPassport's events, on the row of `t`.  An update finds no row where none
    was inserted. -/
def handle (t : TokenId) : Event → Option PassportRow → Option PassportRow
  | .passportMinted _ t' uri, r => if t' = t then some ⟨.unverified, none, uri⟩ else r
  | .passportBridgeMinted _ t' uri, r => if t' = t then
      some (match r with
        | some existing => { existing.unverified with tokenUri := uri }
        | none => ⟨.unverified, none, uri⟩)
    else r
  | .passportVerified t' verifier, r => if t' = t then
      r.map fun row => { row with status := .verified, verifier := some verifier }
    else r
  | .passportDisputed t' _, r =>
    if t' = t then r.map fun row => { row with status := .disputed } else r
  | .challengeJudged t' _ outcome, r =>
    if t' = t then r.map (·.disputeResolved outcome) else r
  | .challengeConcluded t', r => if t' = t then r.map (·.unverified) else r
  | .challengeWithdrawn t' _, r =>
    if t' = t then r.map fun row => { row with status := .verified } else r
  | .verificationReset t' _, r => if t' = t then r.map (·.unverified) else r
  | .passportURIUpdated t' newURI _, r =>
    if t' = t then r.map fun row => { row with tokenUri := newURI } else r
  | _, r => r

/-- The row after the events of a log, which is newest first. -/
def rowAfter (t : TokenId) (r : Option PassportRow) : List Event → Option PassportRow
  | [] => r
  | e :: older => handle t e (rowAfter t r older)

theorem rowAfter_append (t : TokenId) (r : Option PassportRow) (es older : List Event) :
    rowAfter t r (es ++ older) = rowAfter t (rowAfter t r older) es := by
  induction es with
  | nil => rfl
  | cons e es ih => simp only [List.cons_append, rowAfter, ih]

/-- A verifier as the row has it. -/
def shownVerifier (a : Address) : Option Address := if a = .zero then none else some a

namespace Chain

variable (c : Chain P) (t : TokenId)

omit [Erc721 P] in
/-- The row that says what the chain says. -/
def shown : PassportRow :=
  ⟨c.passportStatus t, shownVerifier (c.passportVerifier t), c.tokenURI t⟩

omit [Erc721 P] in
/-- The trust in a passport and its URI, as the chain has them. -/
def face : Status × Address × Uri := (c.passportStatus t, c.passportVerifier t, c.tokenURI t)

end Chain

omit [Erc721 P] in
/-- What the events a chain logged between `c` and `c'` do to the row of `t`. -/
def Tells (t : TokenId) (c c' : Chain P) (f : Option PassportRow → Option PassportRow) : Prop :=
  ∃ es, c'.log = es ++ c.log ∧ ∀ r, rowAfter t r es = f r

section Tells

variable {c c' c'' : Chain P} {s : Address} {t t' : TokenId} {uri : Uri}

omit [Erc721 P] in
theorem Tells.nothing (h : c'.log = c.log) : Tells t c c' id := ⟨[], h, fun _ => rfl⟩

omit [Erc721 P] in
theorem Tells.trans {f g : Option PassportRow → Option PassportRow} (h : Tells t c c' f)
    (h' : Tells t c' c'' g) : Tells t c c'' (g ∘ f) := by
  obtain ⟨es, he, hf⟩ := h
  obtain ⟨es', he', hg⟩ := h'
  refine ⟨es' ++ es, by rw [he', he, List.append_assoc], fun r => ?_⟩
  rw [rowAfter_append, hf, hg]
  rfl

omit [Erc721 P] in
/-- One event more. -/
theorem Tells.emit (c : Chain P) (e : Event) : Tells t c (c.emit e) (handle t e) :=
  ⟨[e], rfl, fun _ => rfl⟩

omit [Erc721 P] in
theorem Tells.congr {f g : Option PassportRow → Option PassportRow} (h : Tells t c c' f)
    (hfg : ∀ r, f r = g r) : Tells t c c' g := by
  obtain rfl : f = g := funext hfg
  exact h

end Tells

/-! ## §2. What a call does to one passport. -/

/-- The passport keeps its trust and its URI, and the row is told nothing. -/
structure Same (t : TokenId) (c c' : Chain P) : Prop where
  owned : (c'.ownerOf t).isSome = (c.ownerOf t).isSome
  away : c'.custodyLocked t = c.custodyLocked t
  face : c'.face t = c.face t
  active : c'.isChallengeActive t = true → c.isChallengeActive t = true
  row : Tells t c c' id

/-- A passport that circulates is edited, verified or challenged, and a row that agreed with it
    agrees with it again. -/
structure Edited (t : TokenId) (c c' : Chain P) : Prop where
  owned : (c'.ownerOf t).isSome = (c.ownerOf t).isSome
  away : c'.custodyLocked t = c.custodyLocked t
  there : circulates c t = true
  free : c.locked = false
  row : ∃ f, Tells t c c' f ∧ f (some (c.shown t)) = some (c'.shown t)
  sound : (c.passportStatus t = .unverified → c.passportVerifier t = .zero) →
    c'.passportStatus t = .unverified → c'.passportVerifier t = .zero
  uri : c'.tokenURI t = c.tokenURI t ∨ c'.tokenURI t ≠ []

/-- The first half of a call, to the passport `t`. -/
inductive FirstHalf (t : TokenId) (c c' : Chain P) : Call → Prop
  | same {call : Call} (h : Same t c c') (hp : pendingIn .none c call t = none)
      (hs : ∀ dstEid dst, call ≠ .send dstEid dst t)
      (hm : ∀ m, call = .lzReceive m → m.tokenId ≠ t) : FirstHalf t c c' call
  | edited {call : Call} (h : Edited t c c') (hp : pendingIn .none c call t = none)
      (hs : ∀ dstEid dst, call ≠ .send dstEid dst t)
      (hm : ∀ m, call ≠ .lzReceive m) : FirstHalf t c c' call
  | sent {dstEid : ℕ} {dst : Bytes32} (there : circulates c t = true)
      (gone : circulates c' t = false) (active : c'.isChallengeActive t = false)
      (uri : c'.tokenURI t = c.tokenURI t)
      (trust : if c.isHome t then c'.passportStatus t = c.passportStatus t ∧
          c'.passportVerifier t = c.passportVerifier t
        else c'.passportStatus t = .unverified ∧ c'.passportVerifier t = .zero)
      (owned : c.isHome t = true → c'.ownerOf t ≠ none)
      (row : Tells t c c' id) : FirstHalf t c c' (.send dstEid dst t)
  | unlocked {m : Packet} (hm : m.tokenId = t) (inbox : m ∈ c.inbox) (home : c.isHome t = true)
      (there : circulates c' t = true) (active : c'.isChallengeActive t = c.isChallengeActive t)
      (trust : c'.passportStatus t = .unverified ∧ c'.passportVerifier t = .zero)
      (uri : c'.tokenURI t =
        if m.uri ≠ [] ∧ m.uri ≠ c.tokenURI t then m.uri else c.tokenURI t)
      (row : Tells t c c' fun r =>
        (if c.passportStatus t = .verified then r.map (·.unverified) else r).map fun row =>
          if m.uri ≠ [] ∧ m.uri ≠ c.tokenURI t then { row with tokenUri := m.uri } else row) :
      FirstHalf t c c' (.lzReceive m)
  | minting {dst : Address} {uri : Uri} (ht : c.nextTokenId = t) (home : c.isHome t = true)
      (new : c.ownerOf t = none) (free : c.locked = false) (guarded : c'.locked = true)
      (active : c'.isChallengeActive t = c.isChallengeActive t)
      (trust : c'.passportStatus t = .unverified ∧ c'.passportVerifier t = c.passportVerifier t)
      (owned : c'.ownerOf t ≠ none)
      (row : Tells t c c' id) : FirstHalf t c c' (.mintPassport dst uri)
  | arriving {m : Packet} (hm : m.tokenId = t) (inbox : m ∈ c.inbox) (foreign : c.isHome t = false)
      (new : c.ownerOf t = none) (there : circulates c' t = true)
      (active : c'.isChallengeActive t = c.isChallengeActive t)
      (trust : c'.passportStatus t = .unverified ∧ c'.passportVerifier t = c.passportVerifier t)
      (row : Tells t c c' id) : FirstHalf t c c' (.lzReceive m)

section FirstHalf

variable {c c' c'' : Chain P} {s : Address} {t t' : TokenId} {uri : Uri} {n : ℕ}

/-- Nothing of `t` changes in view. -/
theorem Same.of_view (h : c'.view t = c.view t) (hu : c'.tokenURI t = c.tokenURI t)
    (hr : Tells t c c' id) : Same t c c' := by
  refine ⟨?_, congrArg View.away h, ?_, fun ha => ?_, hr⟩
  · rw [show c'.ownerOf t = c.ownerOf t from congrArg View.owner h]
  · unfold Chain.face
    rw [show c'.passportStatus t = c.passportStatus t from congrArg View.status h,
      show c'.passportVerifier t = c.passportVerifier t from congrArg View.verifier h, hu]
  · rwa [show c'.isChallengeActive t = c.isChallengeActive t from congrArg View.active h] at ha

theorem circulates_iff : circulates c t = true ↔ c.ownerOf t ≠ none ∧ c.custodyLocked t = false := by
  simp [circulates, Option.isSome_iff_ne_none]

theorem circulates_view {v : View} (h : c'.view t = v) (ho : v.owner ≠ none)
    (ha : v.away = false) : circulates c' t = true := by
  subst h
  exact circulates_iff.mpr ⟨ho, ha⟩

/-- A challenge is cleared, and nothing else of a passport is in view. -/
theorem Same.cleared (hv : Views c c' t' { c.view t' with active := false })
    (hu : c'.tokenURI t = c.tokenURI t) (hl : c'.log = c.log) : Same t c c' := by
  by_cases ht : t = t'
  · subst ht
    have h := hv.self
    refine ⟨?_, congrArg View.away h, ?_, fun ha => ?_, .nothing hl⟩
    · rw [show c'.ownerOf t = c.ownerOf t from congrArg View.owner h]
    · unfold Chain.face
      rw [show c'.passportStatus t = c.passportStatus t from congrArg View.status h,
        show c'.passportVerifier t = c.passportVerifier t from congrArg View.verifier h, hu]
    · rw [show c'.isChallengeActive t = false from congrArg View.active h] at ha
      cases ha
  · exact .of_view (hv.other ht) hu (.nothing hl)

theorem transferFrom_same {p : P} {src dst : Address}
    (hp : Erc721.transferFrom c.erc721 s src dst t' = some p) : Same t c (c.setErc721 p) := by
  refine ⟨?_, rfl, rfl, fun ha => ha, .nothing rfl⟩
  show (Erc721.ownerOf p t).isSome = (Erc721.ownerOf c.erc721 t).isSome
  rw [Erc721.ownerOf_transferFrom hp]
  by_cases ht : t = t'
  · subst ht
    simp [(Erc721.transferFrom_some hp).1]
  · simp [ht]

theorem setPassportURI_first (h : setPassportURI c s t' uri = .ok c') :
    if t = t' then Edited t c c' else Same t c c' := by
  have hview := (setPassportURI_ok h).2.2.2.2
  have hfree := (setPassportURI_ok h).1
  simp only [setPassportURI, Chain.requireExists, Chain.requireNotBridgedAway, setTokenURIChecked,
    bind_ok, revertIf_ok, require_ok, pure_ok, exists_const, Bool.not_eq_true] at h
  obtain ⟨c₁, h₁, he, ha, -, hne, -, -, c₂, ⟨-, rfl⟩, rfl⟩ := h
  obtain ⟨-, rfl⟩ := enter_ok h₁
  split
  · rename_i ht
    subst ht
    have hself := hview.self
    refine ⟨?_, ?_, circulates_iff.mpr ⟨he, ha⟩, hfree, ?_, ?_, .inr ?_⟩
    · refine congrArg Option.isSome ((congrArg View.owner hself).trans ?_)
      split <;> rfl
    · refine (congrArg View.away hself).trans ?_
      split <;> rfl
    · by_cases hv : c.passportStatus t = .verified
      · refine ⟨_, ⟨[.passportURIUpdated t uri s, .verificationReset t s], by simp [hv, leave,
          Chain.emit, Chain.setTrust], fun r => rfl⟩, ?_⟩
        simp [rowAfter, handle, PassportRow.unverified, Chain.shown, hv, leave, Chain.emit,
          Chain.setTrust, shownVerifier]
      · refine ⟨_, ⟨[.passportURIUpdated t uri s], by simp [hv, leave, Chain.emit],
          fun r => rfl⟩, ?_⟩
        simp [rowAfter, handle, Chain.shown, hv, leave, Chain.emit]
    · intro hs
      by_cases hv : c.passportStatus t = .verified
      · simp [hv, leave, Chain.emit, Chain.setTrust]
      · simpa [hv, leave, Chain.emit] using hs
    · simpa [leave, Chain.emit] using hne
  · rename_i ht
    have ht' : t' ≠ t := fun e => ht e.symm
    refine .of_view (hview.other ht) ?_ ?_
    · by_cases hv : c.passportStatus t' = .verified <;>
        simp [leave, Chain.emit, Chain.setTrust, hv, ht]
    · by_cases hv : c.passportStatus t' = .verified
      · exact ⟨[.passportURIUpdated t' uri s, .verificationReset t' s], by simp [hv, leave,
          Chain.emit, Chain.setTrust], fun r => by simp [rowAfter, handle, ht']⟩
      · exact ⟨[.passportURIUpdated t' uri s], by simp [hv, leave, Chain.emit],
          fun r => by simp [rowAfter, handle, ht']⟩

theorem verifyPassport_first (h : verifyPassport c (.account n) t' = .ok c') :
    if t = t' then Edited t c c' else Same t c c' := by
  obtain ⟨hfree, -, -, -, hview⟩ := verifyPassport_ok h
  simp only [verifyPassport, Chain.requireExists, Chain.requireNotBridgedAway, bind_ok,
    revertIf_ok, require_ok, pure_ok, exists_const, Bool.not_eq_true] at h
  obtain ⟨c₁, h₁, he, ha, -, -, -, rfl⟩ := h
  obtain ⟨-, rfl⟩ := enter_ok h₁
  split
  · rename_i ht
    subst ht
    have hself := hview.self
    refine ⟨congrArg Option.isSome (congrArg View.owner hself), congrArg View.away hself,
      circulates_iff.mpr ⟨he, ha⟩, hfree,
      ⟨_, ⟨[.passportVerified t (.account n)], rfl, fun r => rfl⟩, ?_⟩, ?_, .inl rfl⟩
    · simp [rowAfter, handle, Chain.shown, leave, Chain.emit, Chain.setTrust, shownVerifier]
    · intro _ hs
      cases (congrArg View.status hself).symm.trans hs
  · rename_i ht
    have ht' : t' ≠ t := fun e => ht e.symm
    exact .of_view (hview.other ht) rfl
      ⟨[.passportVerified t' (.account n)], rfl, fun r => by simp [rowAfter, handle, ht']⟩

theorem openDispute_first {value : ℕ} (h : openDispute c s t' value = .ok c') :
    if t = t' then Edited t c c' else Same t c c' := by
  obtain ⟨hfree, -, -, hv, he, ha, hview⟩ := openDispute_ok h
  simp only [openDispute, openChallenge, bind_ok, pure_ok] at h
  obtain ⟨c₁, h₁, _, -, _, -, c₂, ⟨_, -, _, -, _, -, _, -, total, -, rfl⟩, rfl⟩ := h
  obtain ⟨-, rfl⟩ := enter_ok h₁
  split
  · rename_i ht
    subst ht
    have hself := hview.self
    refine ⟨congrArg Option.isSome (congrArg View.owner hself), congrArg View.away hself,
      circulates_iff.mpr ⟨he, ha⟩, hfree,
      ⟨_, ⟨[.passportDisputed t s, .challengeOpened t s], rfl, fun r => rfl⟩, ?_⟩, ?_, .inl rfl⟩
    · simp [rowAfter, handle, Chain.shown, leave, Chain.emit, Chain.setStatus, Chain.setChallenge]
    · intro _ hs
      cases (congrArg View.status hself).symm.trans hs
  · rename_i ht
    have ht' : t' ≠ t := fun e => ht e.symm
    exact .of_view (hview.other ht) rfl
      ⟨[.passportDisputed t' s, .challengeOpened t' s], rfl,
        fun r => by simp [rowAfter, handle, ht']⟩

/-- What an unlock tells: of the verification only if there was one. -/
theorem bridgeResetOnUnlock_first (h : bridgeResetOnUnlock c s t' uri = .ok c') :
    if t = t' then
      c'.tokenURI t = (if uri ≠ [] ∧ uri ≠ c.tokenURI t then uri else c.tokenURI t) ∧
        Tells t c c' fun r =>
          (if c.passportStatus t = .verified then r.map (·.unverified) else r).map fun row =>
            if uri ≠ [] ∧ uri ≠ c.tokenURI t then { row with tokenUri := uri } else row
    else c'.tokenURI t = c.tokenURI t ∧ Tells t c c' id := by
  simp only [bridgeResetOnUnlock, onlyGateway, Chain.requireExists, bind_ok, require_ok,
    revertIf_ok, pure_ok, exists_const] at h
  obtain ⟨-, -, -, c₁, h₁, rfl⟩ := h
  generalize hc₀ : (if c.passportStatus t' = .verified then
    (c.setTrust t' .unverified .zero 0).emit
      (.verificationReset t' (c.setTrust t' .unverified .zero 0).bridgeGateway)
    else c.setTrust t' .unverified .zero 0) = c₀ at h₁
  have huri : c₀.tokenURI = c.tokenURI := by
    subst hc₀
    split <;> rfl
  -- the verification, then the URI, then the lock
  have hreset : Tells t c c₀ fun r =>
      if t' = t ∧ c.passportStatus t' = .verified then r.map (·.unverified) else r := by
    subst hc₀
    by_cases hv : c.passportStatus t' = .verified
    · rw [if_pos hv]
      exact ⟨[.verificationReset t' c.bridgeGateway], rfl, fun r => by simp [rowAfter, handle, hv]⟩
    · rw [if_neg hv]
      exact ⟨[], rfl, fun r => by simp [rowAfter, hv]⟩
  have hadopt : c₁.tokenURI t =
        (if t' = t ∧ uri ≠ [] ∧ uri ≠ c.tokenURI t' then uri else c.tokenURI t) ∧
      Tells t c₀ c₁ fun r => if t' = t ∧ uri ≠ [] ∧ uri ≠ c.tokenURI t' then
        r.map fun row => { row with tokenUri := uri } else r := by
    rw [huri] at h₁
    split at h₁
    · rename_i ha
      simp only [setTokenURIChecked, bind_ok, revertIf_ok, pure_ok, exists_const] at h₁
      obtain ⟨_, ⟨-, rfl⟩, rfl⟩ := h₁
      refine ⟨?_, [.passportURIUpdated t' uri c₀.bridgeGateway], rfl,
        fun r => by simp [rowAfter, handle, ha]⟩
      by_cases ht : t = t'
      · subst ht
        simp [Chain.emit, ha]
      · have ht' : t' ≠ t := fun e => ht e.symm
        simp [Chain.emit, huri, ht, ht']
    · rename_i ha
      obtain rfl := pure_ok.mp h₁
      exact ⟨by rw [huri, if_neg fun hn => ha hn.2],
        [], rfl, fun r => (if_neg fun hn => ha hn.2).symm⟩
  have hlock : Tells t c₁ ((c₁.setLock t' false).emit (.custodyLockSet t' false)) id :=
    ⟨[.custodyLockSet t' false], rfl, fun r => rfl⟩
  have hall := (hreset.trans hadopt.2).trans hlock
  by_cases ht : t = t'
  · subst ht
    rw [if_pos rfl]
    refine ⟨?_, hall.congr fun r => ?_⟩
    · show c₁.tokenURI t = _
      rw [hadopt.1]
      simp
    · by_cases hv : c.passportStatus t = .verified <;>
        by_cases ha : uri ≠ [] ∧ uri ≠ c.tokenURI t <;> cases r <;> simp [hv, ha]
  · have ht' : t' ≠ t := fun e => ht e.symm
    rw [if_neg ht]
    refine ⟨?_, hall.congr fun r => ?_⟩
    · show c₁.tokenURI t = _
      rw [hadopt.1]
      simp [ht']
    · simp [ht']

theorem lzReceive_first {m : Packet} (hl : Local c) (h : lzReceive c m = .ok c') :
    FirstHalf t c c' (.lzReceive m) := by
  obtain ⟨hin, -, hsh, -, ho, hv⟩ := lzReceive_ok h
  simp only [lzReceive, bind_ok, require_ok, exists_const] at h
  obtain ⟨-, h⟩ := h
  by_cases hh : c.isHome m.tokenId = true
  · have hh' : ({ c with inbox := c.inbox.erase m } : Chain P).isHome m.tokenId = true := hh
    rw [if_pos hh'] at h
    rw [if_pos hh] at hv
    simp only [bind_ok, orRevert_ok, pure_ok] at h
    obtain ⟨c₁, h₁, p, -, rfl⟩ := h
    have hf := bridgeResetOnUnlock_first (t := t) h₁
    by_cases ht : t = m.tokenId
    · subst ht
      rw [if_pos rfl] at hf
      have hself := hv.self
      exact .unlocked rfl hin hh
        (circulates_view hself (by simp) rfl)
        (congrArg View.active hself)
        ⟨congrArg View.status hself, congrArg View.verifier hself⟩ hf.1 hf.2
    · rw [if_neg ht] at hf
      exact .same (.of_view (hv.other ht) hf.1 hf.2) (by simp [pendingIn, hh, Pending.none])
        (fun _ _ e => by cases e) (fun m' e => by cases e; exact fun e => ht e.symm)
  · have hh' : ¬ ({ c with inbox := c.inbox.erase m } : Chain P).isHome m.tokenId = true := hh
    rw [if_neg hh'] at h
    rw [if_neg hh] at hv ho
    simp only [bridgeMint, bind_ok, orRevert_ok, pure_ok] at h
    obtain ⟨_, -, _, -, _, -, p, -, rfl⟩ := h
    by_cases ht : t = m.tokenId
    · subst ht
      have hself := hv.self
      refine .arriving rfl hin (by simpa using hh) ho ?_ (congrArg View.active hself)
        ⟨congrArg View.status hself, congrArg View.verifier hself⟩ (.nothing rfl)
      refine circulates_view hself (by simp) ?_
      show c.custodyLocked m.tokenId = false
      -- only home passports are locked
      by_contra ha
      exact hh (hl.away m.tokenId (by simpa using ha)).1
    · refine .same (.of_view (hv.other ht) rfl (.nothing rfl)) ?_ (fun _ _ e => by cases e)
        (fun m' e => by cases e; exact fun e => ht e.symm)
      simp [pendingIn, hh, Pending.none, ht]

theorem send_first {dstEid : ℕ} {dst : Bytes32} (hl : Local c)
    (h : send c (.account n) dstEid dst t' = .ok c') :
    if t = t' then FirstHalf t c c' (.send dstEid dst t) else Same t c c' := by
  obtain ⟨hact, ho, -, -, -, hv⟩ := send_ok h
  have haway : c.custodyLocked t' = false := by
    by_contra ha
    have := (hl.away t' (by simpa using ha)).2
    have ho : c.ownerOf t' = some (.account n) := ho
    rw [ho] at this
    cases this
  have htells : c'.tokenURI = c.tokenURI ∧ Tells t c c' id := by
    simp only [send, debit, setCustodyLock, bridgeBurn, bind_ok, pure_ok] at h
    obtain ⟨_, -, _, -, _, -, c₁, ⟨ok, -, _, -, h₁⟩, rfl⟩ := h
    split at h₁
    · simp only [bind_ok, pure_ok] at h₁
      obtain ⟨p, -, _, -, _, -, _, -, rfl⟩ := h₁
      exact ⟨rfl, [.custodyLockSet t' true], rfl, fun r => rfl⟩
    · simp only [bind_ok, pure_ok] at h₁
      obtain ⟨_, -, _, -, _, -, _, -, p, -, rfl⟩ := h₁
      exact ⟨rfl, [.passportBridgeBurned t'], rfl, fun r => rfl⟩
  split
  · rename_i ht
    subst ht
    have hself := hv.self
    have hthere : circulates c t = true :=
      circulates_view rfl (by simp [ho]) haway
    by_cases hh : c.isHome t = true
    · rw [if_pos hh] at hself
      refine .sent hthere ?_ ((congrArg View.active hself).trans hact) (congrFun htells.1 t)
        (by rw [if_pos hh]; exact ⟨congrArg View.status hself, congrArg View.verifier hself⟩)
        (fun _ e => by cases (congrArg View.owner hself).symm.trans e) htells.2
      rw [circulates, show c'.custodyLocked t = true from congrArg View.away hself]
      simp
    · rw [if_neg hh] at hself
      refine .sent hthere ?_ ((congrArg View.active hself).trans hact) (congrFun htells.1 t)
        (by rw [if_neg hh]; exact ⟨congrArg View.status hself, congrArg View.verifier hself⟩)
        (fun e => absurd e hh) htells.2
      rw [circulates, show c'.ownerOf t = none from congrArg View.owner hself]
      rfl
  · rename_i ht
    exact .of_view (hv.other ht) (congrFun htells.1 t) htells.2

/-- **The first half of a call.** -/
theorem begin_first {call : Call} (hl : Local c) (hcall : ∀ t dst, call ≠ .recoverLockedHome t dst)
    (h : begin c (.account n) call = .ok c') (t : TokenId) : FirstHalf t c c' call := by
  cases call with
  | transferFrom src dst t' | safeTransferFrom src dst t' =>
    simp only [begin, bind_ok, orRevert_ok, pure_ok] at h
    obtain ⟨p, hp, rfl⟩ := h
    exact .same (transferFrom_same hp) rfl (by simp) (by simp)
  | approve spender t' =>
    simp only [begin, bind_ok, orRevert_ok, pure_ok] at h
    obtain ⟨p, hp, rfl⟩ := h
    exact .same (.of_view (views_same_owner (Erc721.ownerOf_approve hp) t) rfl (.nothing rfl)) rfl
      (by simp) (by simp)
  | setApprovalForAll operator b =>
    simp only [begin, bind_ok, orRevert_ok, pure_ok] at h
    obtain ⟨p, hp, rfl⟩ := h
    exact .same (.of_view (views_same_owner (Erc721.ownerOf_setApprovalForAll hp) t) rfl
      (.nothing rfl)) rfl (by simp) (by simp)
  | mintPassport dst uri =>
    obtain ⟨hfree, hn, -, hsh, -, hv⟩ := mintPassport_ok h
    have hlog : c'.log = c.log ∧ c'.tokenURI = c.tokenURI := by
      simp only [begin, mintPassport, bind_ok, revertIf_ok, orRevert_ok, pure_ok,
        exists_const] at h
      obtain ⟨c₁, h₁, -, p, -, rfl⟩ := h
      obtain ⟨-, rfl⟩ := enter_ok h₁
      exact ⟨rfl, rfl⟩
    by_cases ht : t = c.nextTokenId
    · subst ht
      have hself := hv.self
      have hhome : c.isHome c.nextTokenId = true := by
        rw [Chain.isHome, KarPassport.isHome, hl.namesake]
        exact beq_self_eq_true _
      exact .minting rfl hhome hn hfree (congrArg Shell.locked hsh) (congrArg View.active hself)
        ⟨congrArg View.status hself, congrArg View.verifier hself⟩
        (fun e => by cases (congrArg View.owner hself).symm.trans e) (.nothing hlog.1)
    · exact .same (.of_view (hv.other ht) (congrFun hlog.2 t) (.nothing hlog.1))
        (by simp [pendingIn, Pending.none, ht]) (by simp) (by simp)
  | setPassportURI t' uri =>
    have hf := setPassportURI_first (t := t) h
    split at hf
    · exact .edited hf rfl (by simp) (by simp)
    · exact .same hf rfl (by simp) (by simp)
  | verifyPassport t' =>
    have hf := verifyPassport_first (t := t) h
    split at hf
    · exact .edited hf rfl (by simp) (by simp)
    · exact .same hf rfl (by simp) (by simp)
  | openDispute t' value =>
    have hf := openDispute_first (t := t) h
    split at hf
    · exact .edited hf rfl (by simp) (by simp)
    · exact .same hf rfl (by simp) (by simp)
  | withdraw t' =>
    have hv := (withdraw_ok h).2.2.2.2
    simp only [begin, withdraw, clearChallengeAccounting, bind_ok, pure_ok] at h
    obtain ⟨c₁, h₁, _, -, ch, -, _, -, _, -, c₂, ⟨total, -, rfl⟩, _, -, rfl⟩ := h
    obtain ⟨-, rfl⟩ := enter_ok h₁
    exact .same (.cleared hv rfl rfl) rfl (by simp) (by simp)
  | judge t' outcome =>
    have hv := (judge_ok h).2.2.2.2
    simp only [begin, judge, clearChallengeAccounting, bind_ok, pure_ok] at h
    obtain ⟨c₁, h₁, _, -, ch, -, _, -, holder, -, _, -, _, -, c₂, ⟨total, -, rfl⟩, _, -, rfl⟩ := h
    obtain ⟨-, rfl⟩ := enter_ok h₁
    exact .same (.cleared hv rfl rfl) rfl (by simp) (by simp)
  | conclude t' =>
    have hv := (conclude_ok h).2.2.2.2
    simp only [begin, conclude, clearChallengeAccounting, bind_ok, pure_ok] at h
    obtain ⟨c₁, h₁, _, -, ch, -, _, -, c₂, ⟨total, -, rfl⟩, _, -, rfl⟩ := h
    obtain ⟨-, rfl⟩ := enter_ok h₁
    exact .same (.cleared hv rfl rfl) rfl (by simp) (by simp)
  | setDisputeDeposit amount =>
    simp only [begin, setDisputeDeposit, bind_ok, pure_ok] at h
    obtain ⟨_, -, _, -, rfl⟩ := h
    exact .same (.of_view rfl rfl (.nothing rfl)) rfl (by simp) (by simp)
  | addEncumbranceSource source =>
    simp only [begin, addEncumbranceSource, bind_ok, pure_ok] at h
    obtain ⟨_, -, _, -, _, -, _, -, rfl⟩ := h
    exact .same (.of_view rfl rfl (.nothing rfl)) rfl (by simp) (by simp)
  | removeEncumbranceSource source =>
    simp only [begin, removeEncumbranceSource, bind_ok, pure_ok] at h
    obtain ⟨_, -, _, -, rfl⟩ := h
    exact .same (.of_view rfl rfl (.nothing rfl)) rfl (by simp) (by simp)
  | setBridgeGateway =>
    simp only [begin, setBridgeGateway, bind_ok, pure_ok] at h
    obtain ⟨_, -, _, -, _, -, rfl⟩ := h
    exact .same (.of_view rfl rfl (.nothing rfl)) rfl (by simp) (by simp)
  | setCustodyLock t' b => exact absurd (setCustodyLock_ok h).1 hl.not_gateway
  | bridgeMint dst t' uri => exact absurd (bridgeMint_ok h).1 hl.not_gateway
  | bridgeBurn t' => exact absurd (bridgeBurn_ok h).1 hl.not_gateway
  | bridgeResetOnUnlock t' uri => exact absurd (bridgeResetOnUnlock_ok h).1 hl.not_gateway
  | send dstEid dst t' =>
    have hf := send_first (t := t) hl h
    split at hf
    · rename_i ht
      subst ht
      exact hf
    · rename_i ht
      exact .same hf rfl (fun _ _ e => by cases e; exact ht rfl) (by simp)
  | lzReceive m => exact lzReceive_first hl h
  | recoverLockedHome t' dst => exact absurd rfl (hcall t' dst)

end FirstHalf

/-! ## §3. The second half. -/

/-- The challenge a call ends, if it ends one: of which passport, and whether the
    verification stands. -/
def verdict : Call → Option (TokenId × Bool)
  | .withdraw t => some (t, true)
  | .judge t .rejected => some (t, true)
  | .judge t .upheld => some (t, false)
  | .conclude t => some (t, false)
  | _ => none

/-- The row of a passport whose challenge has ended. -/
def PassportRow.judged (r : PassportRow) (stands : Bool) : PassportRow :=
  if stands then { r with status := .verified } else r.unverified

/-- The second half of a call, to the passport `t`; `c₀` is the chain the call came to. -/
inductive LastHalf (t : TokenId) (c₀ c c' : Chain P) : Call → Prop
  | same {call : Call} (h : Same t c c') (hp : pendingIn .none c₀ call t = none) :
      LastHalf t c₀ c c' call
  | written {call : Call} {uri : Uri} (hp : pendingIn .none c₀ call t = some uri)
      (face : c'.face t = (c.passportStatus t, c.passportVerifier t, uri))
      (row : ∃ f, Tells t c c' f ∧ ∀ r, f r = some ⟨.unverified, none, uri⟩) :
      LastHalf t c₀ c c' call
  | judged {call : Call} {stands : Bool} (hv : verdict call = some (t, stands))
      (hp : pendingIn .none c₀ call t = none)
      (face : c'.face t = if stands then (.verified, c.passportVerifier t, c.tokenURI t)
        else (.unverified, .zero, c.tokenURI t))
      (row : Tells t c c' fun r => r.map (·.judged stands)) : LastHalf t c₀ c c' call

section LastHalf

variable {c₀ c c' : Chain P} {s : Address} {t t' : TokenId} {n : ℕ}

/-- A challenge that ends with the verification standing. -/
theorem stood_last {call : Call} {e : Event} (hv : verdict call = some (t', true))
    (hp : pendingIn .none c₀ call = .none)
    (hlog : ∀ t', resetByUnlock t' (e :: c.log) = resetByUnlock t' c.log)
    (he : ∀ t r, handle t e r = if t' = t then r.map (·.judged true) else r) :
    LastHalf t c₀ c (leave (((c.emit e).setStatus t' .verified).emit (.verificationStood t')))
      call := by
  have htells : Tells t c (leave (((c.emit e).setStatus t' .verified).emit
      (.verificationStood t'))) (handle t e) :=
    ⟨[.verificationStood t', e], rfl, fun r => rfl⟩
  have hp : pendingIn .none c₀ call t = none := by rw [hp]; rfl
  by_cases ht : t = t'
  · subst ht
    refine .judged hv hp ?_ (htells.congr fun r => by simp [he])
    simp [Chain.face, leave, Chain.emit, Chain.setStatus]
  · have ht' : t' ≠ t := fun e => ht e.symm
    exact .same (.of_view ((views_stood hlog).other ht) rfl
      (htells.congr fun r => by simp [he, ht'])) hp

/-- A challenge that ends with the verification gone. -/
theorem lapsed_last {call : Call} {e : Event} (hv : verdict call = some (t', false))
    (hp : pendingIn .none c₀ call = .none)
    (hlog : ∀ t', resetByUnlock t' (e :: c.log) = resetByUnlock t' c.log)
    (he : ∀ t r, handle t e r = if t' = t then r.map (·.judged false) else r) :
    LastHalf t c₀ c (leave (lapseVerification (c.emit e) t')) call := by
  have htells : Tells t c (leave (lapseVerification (c.emit e) t')) (handle t e) :=
    ⟨[.verificationLapsed t', e], rfl, fun r => rfl⟩
  have hp : pendingIn .none c₀ call t = none := by rw [hp]; rfl
  by_cases ht : t = t'
  · subst ht
    refine .judged hv hp ?_ (htells.congr fun r => by simp [he])
    simp [Chain.face, leave, lapseVerification, Chain.emit, Chain.setTrust]
  · have ht' : t' ≠ t := fun e => ht e.symm
    exact .same (.of_view ((views_lapsed hlog).other ht) rfl
      (htells.congr fun r => by simp [he, ht'])) hp

/-- **The second half of a call.** -/
theorem finish_last {call : Call} (hid : c.chainId = c₀.chainId)
    (hne : ∀ dst t uri, call ≠ .bridgeMint dst t uri)
    (h : finish c₀ c (.account n) call = .ok c') (t : TokenId) : LastHalf t c₀ c c' call := by
  cases call with
  | mintPassport dst uri =>
    simp only [finish, mintPassportFinish, setTokenURIChecked, bind_ok, revertIf_ok, pure_ok,
      exists_const] at h
    obtain ⟨_, ⟨-, rfl⟩, rfl⟩ := h
    by_cases ht : t = c₀.nextTokenId
    · subst ht
      refine .written (show _ = some uri by simp [pendingIn]) ?_
        ⟨_, ⟨[.passportMinted dst c₀.nextTokenId uri], rfl, fun r => rfl⟩, fun r => ?_⟩
      · simp [Chain.face, leave, Chain.emit]
      · simp [rowAfter, handle]
    · have ht' : c₀.nextTokenId ≠ t := fun e => ht e.symm
      refine .same (.of_view rfl ?_ ⟨[.passportMinted dst c₀.nextTokenId uri], rfl, fun r => ?_⟩)
        (by simp [pendingIn, Pending.none, ht])
      · simp [leave, Chain.emit, ht]
      · simp [rowAfter, handle, ht']
  | bridgeMint dst t' uri => exact absurd rfl (hne dst t' uri)
  | withdraw t' =>
    obtain rfl := pure_ok.mp h
    exact stood_last rfl rfl (fun _ => rfl) fun _ _ => rfl
  | judge t' outcome =>
    obtain rfl := pure_ok.mp h
    cases outcome with
    | upheld => exact lapsed_last rfl rfl (fun _ => rfl) fun _ _ => rfl
    | rejected => exact stood_last rfl rfl (fun _ => rfl) fun _ _ => rfl
  | conclude t' =>
    obtain rfl := pure_ok.mp h
    exact lapsed_last rfl rfl (fun _ => rfl) fun _ _ => rfl
  | send dstEid dst t' =>
    obtain rfl := pure_ok.mp h
    exact .same (.of_view rfl rfl ⟨[.onftSent t' (.account n)], rfl, fun r => rfl⟩) rfl
  | lzReceive m =>
    simp only [finish, lzReceiveFinish, bind_ok, pure_ok] at h
    obtain ⟨c₁, h₁, rfl⟩ := h
    have hh : c.isHome m.tokenId = c₀.isHome m.tokenId := by
      rw [Chain.isHome, Chain.isHome, hid]
    rw [hh] at h₁
    by_cases hb : c₀.isHome m.tokenId = true
    · rw [if_pos hb] at h₁
      obtain rfl := pure_ok.mp h₁
      exact .same (.of_view rfl rfl ⟨[.onftReceived m.tokenId m.sendTo.low], rfl, fun r => rfl⟩)
        (by simp [pendingIn, hb, Pending.none])
    · rw [if_neg hb] at h₁
      simp only [bridgeMintFinish, setTokenURIChecked, bind_ok, revertIf_ok, pure_ok,
        exists_const] at h₁
      obtain ⟨_, ⟨-, rfl⟩, rfl⟩ := h₁
      by_cases ht : t = m.tokenId
      · subst ht
        refine .written (show _ = some m.uri by simp [pendingIn, hb]) ?_
          ⟨_, ⟨[.onftReceived m.tokenId m.sendTo.low,
            .passportBridgeMinted m.sendTo.low m.tokenId m.uri], rfl, fun r => rfl⟩, fun r => ?_⟩
        · simp [Chain.face, Chain.emit]
        · cases r <;> simp [rowAfter, handle, PassportRow.unverified]
      · have ht' : m.tokenId ≠ t := fun e => ht e.symm
        refine .same (.of_view rfl ?_ ⟨[.onftReceived m.tokenId m.sendTo.low,
            .passportBridgeMinted m.sendTo.low m.tokenId m.uri], rfl, fun r => ?_⟩)
          (by simp [pendingIn, hb, Pending.none, ht])
        · simp [Chain.emit, ht]
        · simp [rowAfter, handle, ht']
  | _ =>
    obtain rfl := pure_ok.mp h
    exact .same (.of_view rfl rfl (.nothing rfl)) rfl

omit [Erc721 P] in
/-- The second half moves nobody's passport and opens no challenge. -/
theorem finish_still {call : Call} (h : finish c₀ c s call = .ok c') :
    c'.erc721 = c.erc721 ∧ c'.custodyLocked = c.custodyLocked ∧
      c'.bonds.challenges = c.bonds.challenges := by
  cases call with
  | mintPassport dst uri | bridgeMint dst t' uri =>
    simp only [finish, mintPassportFinish, bridgeMintFinish, setTokenURIChecked, bind_ok,
      revertIf_ok, pure_ok, exists_const] at h
    obtain ⟨_, ⟨-, rfl⟩, rfl⟩ := h
    exact ⟨rfl, rfl, rfl⟩
  | judge t' outcome =>
    obtain rfl := pure_ok.mp h
    cases outcome <;> exact ⟨rfl, rfl, rfl⟩
  | lzReceive m =>
    simp only [finish, lzReceiveFinish, bind_ok, pure_ok] at h
    obtain ⟨c₁, h₁, rfl⟩ := h
    split at h₁
    · obtain rfl := pure_ok.mp h₁
      exact ⟨rfl, rfl, rfl⟩
    · simp only [bridgeMintFinish, setTokenURIChecked, bind_ok, revertIf_ok, pure_ok,
        exists_const] at h₁
      obtain ⟨_, ⟨-, rfl⟩, rfl⟩ := h₁
      exact ⟨rfl, rfl, rfl⟩
  | _ =>
    obtain rfl := pure_ok.mp h
    exact ⟨rfl, rfl, rfl⟩

/-- A challenge that a call is to end is open. -/
theorem verdict_active {call : Call} {stands : Bool} (hv : verdict call = some (t, stands))
    (h : begin c s call = .ok c') : c.isChallengeActive t = true ∧ c.locked = false := by
  cases call with
  | withdraw t' =>
    cases hv
    exact ⟨(withdraw_ok h).2.2.2.1, (withdraw_ok h).1⟩
  | judge t' outcome =>
    have ht : t' = t := by cases outcome <;> cases hv <;> rfl
    subst ht
    exact ⟨(judge_ok h).2.2.2.1, (judge_ok h).1⟩
  | conclude t' =>
    cases hv
    exact ⟨(conclude_ok h).2.2.2.1, (conclude_ok h).1⟩
  | _ => cases hv

end LastHalf

end Kargain.Evm.Bridge
