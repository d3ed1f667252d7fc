/-
  Kargain.Evm.RowAgreement — where the indexed row is right.

  The rows of Kargain.Evm.PassportRow follow the transactions of all
  chains.  What concerns one passport happens on one chain at a time, the
  one it is on, so its row can only agree with that chain.  It does until
  the passport is told of too little: coming home verified to a home that
  has it down as unverified, or dealt with in the receiver's turn of its
  own arrival, of which the row is told last.

  Main results: `row_agrees`, over every run whose steps are `toldStep`;
  `row_stale`, a passport verified abroad that came home.
-/
import Kargain.Evm.PassportRow

namespace Kargain.Evm.Bridge

variable {P : Type} [Erc721 P]

/-! ## §1. The condition on a half of a call. -/

/-- The status and the URI of a passport on its home chain: on `c` if that is the home, and
    otherwise the ones `home` gives. -/
def homeFace (home : Status × Uri) (c : Chain P) (t : TokenId) : Status × Uri :=
  if c.isHome t then (c.passportStatus t, c.tokenURI t) else home

omit [Erc721 P] in
/-- A passport `t` whose URI is still to be written is not sent on with another, and when an
    arrival is to write it the passport is not verified by then.  It does not leave for its
    home, challenged or verified, unless its home has it verified; nor does a challenge end
    for it abroad, when it has left for its home meanwhile. -/
def told (eid : ℕ → ℕ) (t : TokenId) (home : Status × Uri) (x : Change P) : Prop :=
  match x.half, x.call with
  | .first, .send dstEid _ t' => t' = t →
      (∀ uri ∈ x.before.pending t, x.before.chain.tokenURI t = uri) ∧
        (x.before.pending t = none → dstEid = eid (homeOf t) →
          x.before.chain.passportStatus t ≠ .unverified →
            (homeFace home x.before.chain t).1 = .verified)
  | .last, .lzReceive m => m.tokenId = t → x.before.chain.isHome t = false →
      x.before.chain.passportStatus t = .unverified
  | .last, call => verdict call = some (t, true) → x.before.pending t = none →
      x.before.chain.isHome t = false → ∀ p ∈ x.before.chain.outbox, p.tokenId = t →
        p.dstEid = eid (homeOf t) → home.1 = .verified
  | _, _ => True

omit [Erc721 P] in
instance (eid : ℕ → ℕ) (t : TokenId) (home : Status × Uri) (x : Change P) :
    Decidable (told eid t home x) := by
  obtain ⟨_, call, half, before, _⟩ := x
  have verdictTold (call : Call) : Decidable (verdict call = some (t, true) →
      before.pending t = none → before.chain.isHome t = false → ∀ p ∈ before.chain.outbox,
        p.tokenId = t → p.dstEid = eid (homeOf t) → home.1 = .verified) := inferInstance
  cases half with
  | first =>
    cases call with
    | send dstEid _ t' =>
      exact inferInstanceAs (Decidable (t' = t →
        (∀ uri ∈ before.pending t, before.chain.tokenURI t = uri) ∧
          (before.pending t = none → dstEid = eid (homeOf t) →
            before.chain.passportStatus t ≠ .unverified →
              (homeFace home before.chain t).1 = .verified)))
    | _ => exact inferInstanceAs (Decidable True)
  | last =>
    cases call with
    | lzReceive m =>
      exact inferInstanceAs (Decidable (m.tokenId = t → before.chain.isHome t = false →
        before.chain.passportStatus t = .unverified))
    | _ => exact verdictTold _

/-! ## §2. What a chain and the row keep. -/

/-- The row is `r` after what the chain logged since `c₀`, when it was `r₀`. -/
def RowNow (t : TokenId) (c₀ : Chain P) (r₀ : Option PassportRow) (c : Chain P)
    (r : Option PassportRow) : Prop :=
  ∃ es, c.log = es ++ c₀.log ∧ rowAfter t r₀ es = r

omit [Erc721 P] in
theorem RowNow.tells {t : TokenId} {c₀ c c' : Chain P} {r₀ r : Option PassportRow}
    {f : Option PassportRow → Option PassportRow} (h : RowNow t c₀ r₀ c r) (hf : Tells t c c' f) :
    RowNow t c₀ r₀ c' (f r) := by
  obtain ⟨es, he, rfl⟩ := h
  obtain ⟨es', he', hf⟩ := hf
  exact ⟨es' ++ es, by rw [he', he, List.append_assoc], by rw [rowAfter_append, hf]⟩

/-- A row that says nothing of a verification. -/
def PassportRow.clean (r : PassportRow) : Prop := r.status = .unverified ∧ r.verifier = none

/-- The row of a passport that is in `p`: it has its URI, and what it says of a verification
    the home will take back. -/
structure Carried (eid : ℕ → ℕ) (t : TokenId) (home : Status × Uri) (r : Option PassportRow)
    (p : Packet) : Prop where
  row : ∃ row, r = some row ∧ row.tokenUri = p.uri ∧
    (p.dstEid = eid (homeOf t) → row.clean ∨ home.1 = .verified)
  uri : p.uri = [] → home.2 = []

/-- The same while an arrival or a mint of the passport is under way, which will write the
    row. -/
def InTransit (eid : ℕ → ℕ) (t : TokenId) (home : Status × Uri) (pending : Option Uri)
    (r : Option PassportRow) (p : Packet) : Prop :=
  match pending with
  | some uri => p.uri = uri
  | none => Carried eid t home r p

/-- The row `r` at one moment: it agrees with a copy that circulates here. -/
structure Fits (eid : ℕ → ℕ) (t : TokenId) (home : Status × Uri) (pending : Option Uri)
    (c : Chain P) (r : Option PassportRow) : Prop where
  here : circulates c t = true → pending = none →
    r = some (c.shown t) ∧ (c.isHome t = false → c.tokenURI t = [] → home.2 = [])
  away : ∀ p, p ∈ c.inbox ∨ p ∈ c.outbox → p.tokenId = t →
    InTransit eid t (homeFace home c t) pending r p

/-- What a chain keeps of one passport. -/
structure CopyInv (t : TokenId) (c : Chain P) : Prop where
  sound : c.passportStatus t = .unverified → c.passportVerifier t = .zero
  absent : c.ownerOf t = none → c.passportVerifier t = .zero
  challenged : c.isChallengeActive t = true → circulates c t = true

/-- What a chain, one passport and its row keep at every moment of a message. -/
structure RowInv (eid : ℕ → ℕ) (t : TokenId) (home : Status × Uri) (c₀ : Chain P)
    (r₀ : Option PassportRow) (b : Pending) (c : Chain P) : Prop where
  keeps : Local c
  one : OnePlace c
  chainId : c.chainId = c₀.chainId
  mine : ∀ p ∈ c.inbox, p.dstEid = eid c.chainId
  copy : CopyInv t c
  /-- what is under way has left the inbox -/
  under : b t ≠ none → carrying c.inbox t = 0
  /-- only a mint is under way for a passport at home, and it holds the guard -/
  minting : b t ≠ none → c.isHome t = true → c.locked = true ∧ c.passportStatus t = .unverified
  brings : ∀ uri, b t = some uri → c.isHome t = false → uri = [] → home.2 = []
  row : ∃ r, RowNow t c₀ r₀ c r ∧ Fits eid t home (b t) c r

section Keep

variable {eid : ℕ → ℕ} {t : TokenId} {home : Status × Uri} {c₀ c c' c₁ c₂ : Chain P}
  {r₀ r : Option PassportRow} {b : Pending} {call : Call} {n : ℕ}

theorem carrying_pos {l : List Packet} {p : Packet} (h : p ∈ l) (ht : p.tokenId = t) :
    0 < carrying l t :=
  List.countP_pos_iff.mpr ⟨p, h, by simpa using ht⟩

/-- A passport that circulates is in no box. -/
theorem OnePlace.no_box (h : OnePlace c) (hc : circulates c t = true) {p : Packet}
    (hp : p ∈ c.inbox ∨ p ∈ c.outbox) : p.tokenId ≠ t := by
  intro ht
  have hone := (h t).1
  unfold places at hone
  rw [hc] at hone
  rcases hp with hp | hp
  · have := carrying_pos hp ht
    simp only [Bool.toNat_true] at hone
    omega
  · have := carrying_pos hp ht
    simp only [Bool.toNat_true] at hone
    omega

theorem OnePlace.carrying_inbox (h : OnePlace c) (hc : circulates c t = true) :
    carrying c.inbox t = 0 := by
  by_contra hne
  obtain ⟨p, hp, ht⟩ := List.countP_pos_iff.mp (Nat.pos_of_ne_zero hne)
  exact h.no_box hc (.inl hp) (by simpa using ht)

theorem Same.circulates (h : Same t c c') : circulates c' t = circulates c t := by
  unfold Bridge.circulates
  rw [h.owned, h.away]

omit [Erc721 P] in
theorem face_eq (h : c'.face t = c.face t) : c'.passportStatus t = c.passportStatus t ∧
    c'.passportVerifier t = c.passportVerifier t ∧ c'.tokenURI t = c.tokenURI t := by
  simpa [Chain.face] using h

omit [Erc721 P] in
theorem shown_congr (h : c'.face t = c.face t) : c'.shown t = c.shown t := by
  obtain ⟨h₁, h₂, h₃⟩ := face_eq h
  simp only [Chain.shown, h₁, h₂, h₃]

omit [Erc721 P] in
theorem homeFace_congr (hid : c'.chainId = c.chainId) (h : c'.face t = c.face t) :
    homeFace home c' t = homeFace home c t := by
  obtain ⟨h₁, -, h₃⟩ := face_eq h
  simp only [homeFace, isHome_congr hid, h₁, h₃]

theorem CopyInv.same (h : CopyInv t c) (hs : Same t c c') : CopyInv t c' := by
  obtain ⟨h₁, h₂, -⟩ := face_eq hs.face
  refine ⟨by rw [h₁, h₂]; exact h.sound, fun ho => ?_, fun ha => ?_⟩
  · rw [h₂]
    refine h.absent ?_
    have := hs.owned
    rw [ho] at this
    simpa using this.symm
  · rw [hs.circulates]
    exact h.challenged (hs.active ha)

/-- What a call that leaves the passport as it is keeps of the row. -/
theorem Fits.same {pending : Option Uri} (h : Fits eid t home pending c r) (hs : Same t c c') (hid : c'.chainId = c.chainId)
    (hbox : ∀ p, p ∈ c'.inbox ∨ p ∈ c'.outbox → p.tokenId = t → p ∈ c.inbox ∨ p ∈ c.outbox) :
    Fits eid t home pending c' r := by
  refine ⟨fun hc hb => ?_, fun p hp ht => ?_⟩
  · rw [hs.circulates] at hc
    rw [shown_congr hs.face, isHome_congr hid, (face_eq hs.face).2.2]
    exact h.here hc hb
  · rw [homeFace_congr hid hs.face]
    exact h.away p (hbox p hp ht) ht

/-! ## §3. One half. -/

theorem begin_inbox (h : begin c (.account n) call = .ok c₁) :
    c₁.inbox ⊆ c.inbox ∧ carrying c₁.inbox t ≤ carrying c.inbox t := by
  rcases begin_boxes h with ⟨_, _, _, -, -, hin, -⟩ | ⟨m, -, hm, hin, -⟩ | ⟨-, hin, -⟩
  · rw [hin]
    exact ⟨fun _ hp => hp, Nat.le_refl _⟩
  · rw [hin]
    have := carrying_erase (t := t) hm
    exact ⟨fun _ hp => List.mem_of_mem_erase hp, by omega⟩
  · rw [hin]
    exact ⟨fun _ hp => hp, Nat.le_refl _⟩

/-- Only its own `send` puts a passport into the outbox. -/
theorem begin_outbox (hs : ∀ dstEid dst, call ≠ .send dstEid dst t)
    (h : begin c (.account n) call = .ok c₁) {p : Packet} (hp : p ∈ c₁.outbox)
    (ht : p.tokenId = t) : p ∈ c.outbox := by
  rcases begin_boxes h with ⟨dstEid, dst, t', rfl, -, -, hout⟩ | ⟨_, -, -, -, hout⟩ | ⟨-, -, hout⟩
  · rw [hout, List.mem_cons] at hp
    rcases hp with rfl | hp
    · exact absurd (congrArg (Call.send dstEid dst) ht) (hs dstEid dst)
    · exact hp
  · rwa [hout] at hp
  · rwa [hout] at hp

omit [Erc721 P] in
theorem homeFace_home (h : c.isHome t = true) :
    homeFace home c t = (c.passportStatus t, c.tokenURI t) := by
  unfold homeFace
  rw [if_pos h]

omit [Erc721 P] in
theorem homeFace_abroad (h : c.isHome t = false) : homeFace home c t = home := by
  unfold homeFace
  rw [h]
  rfl

omit [Erc721 P] in
theorem isHome_homeOf (h : c.isHome t = true) : c.chainId = homeOf t := by
  unfold Chain.isHome KarPassport.isHome at h
  exact (beq_iff_eq.mp h).symm

/-- A packet in the inbox is all there is of its passport. -/
theorem RowInv.inbox_free (hi : RowInv eid t home c₀ r₀ b c) {m : Packet} (hm : m ∈ c.inbox)
    (ht : m.tokenId = t) : b t = none := by
  by_contra hne
  have := hi.under hne
  have := carrying_pos hm ht
  omega

theorem Fits.left {pending : Option Uri} {dstEid : ℕ} {dst : Bytes32}
    (hfit : Fits eid t home pending c r) (hcopy : CopyInv t c) (hone : OnePlace c)
    (hid : c₁.chainId = c.chainId) (there : circulates c t = true)
    (gone : circulates c₁ t = false) (uri : c₁.tokenURI t = c.tokenURI t)
    (trust : c.isHome t = true → c₁.passportStatus t = c.passportStatus t)
    (hin : c₁.inbox = c.inbox) (hout : c₁.outbox = ⟨dstEid, dst, t, c.tokenURI t⟩ :: c.outbox)
    (hok : (∀ uri ∈ pending, c.tokenURI t = uri) ∧ (pending = none → dstEid = eid (homeOf t) →
      c.passportStatus t ≠ .unverified → (homeFace home c t).1 = .verified)) :
    Fits eid t home pending c₁ r := by
  refine ⟨fun hc => absurd hc (by simp [gone]), fun p hp ht => ?_⟩
  rw [hin, hout, List.mem_cons] at hp
  -- what was in the boxes before is not of this passport
  have hnew : p = ⟨dstEid, dst, t, c.tokenURI t⟩ := by
    rcases hp with hp | hp | hp
    · exact absurd ht (hone.no_box there (.inl hp))
    · exact hp
    · exact absurd ht (hone.no_box there (.inr hp))
  subst hnew
  cases hb : pending with
  | some u => exact hok.1 u (by simp [hb])
  | none =>
    obtain ⟨hr, hempty⟩ := hfit.here there hb
    have hface : homeFace home c₁ t = homeFace home c t := by
      by_cases hh : c.isHome t = true
      · rw [homeFace_home hh, homeFace_home (by rw [isHome_congr hid]; exact hh), trust hh, uri]
      · have hh : c.isHome t = false := by simpa using hh
        rw [homeFace_abroad hh, homeFace_abroad (by rw [isHome_congr hid]; exact hh)]
    refine ⟨⟨c.shown t, hr, rfl, fun hd => ?_⟩, fun he => ?_⟩
    · by_cases hs : c.passportStatus t = .unverified
      · exact .inl ⟨hs, by simp [Chain.shown, shownVerifier, hcopy.sound hs]⟩
      · rw [hface]
        exact .inr (hok.2 hb hd hs)
    · have he : c.tokenURI t = [] := he
      rw [hface]
      by_cases hh : c.isHome t = true
      · rw [homeFace_home hh]
        exact he
      · have hh : c.isHome t = false := by simpa using hh
        rw [homeFace_abroad hh]
        exact hempty hh he

omit [Erc721 P] in
/-- Home again: the row is reset if there was a verification to take back. -/
theorem Carried.unlocked {m : Packet} (h : Carried eid t (homeFace home c t) r m)
    (hh : c.isHome t = true) (hdst : m.dstEid = eid (homeOf t))
    (trust : c₁.passportStatus t = .unverified ∧ c₁.passportVerifier t = .zero)
    (uri : c₁.tokenURI t =
      if m.uri ≠ [] ∧ m.uri ≠ c.tokenURI t then m.uri else c.tokenURI t) :
    (if c.passportStatus t = .verified then r.map (·.unverified) else r).map
      (fun row => if m.uri ≠ [] ∧ m.uri ≠ c.tokenURI t then { row with tokenUri := m.uri } else row) =
      some (c₁.shown t) := by
  obtain ⟨⟨row, rfl, hu, hclean⟩, hempty⟩ := h
  rw [homeFace_home hh] at hclean hempty
  obtain ⟨status, verifier, tokenUri⟩ := row
  obtain rfl : tokenUri = m.uri := hu
  have hshown : c₁.shown t = ⟨.unverified, none, c₁.tokenURI t⟩ := by
    simp [Chain.shown, shownVerifier, trust]
  have hleft : ¬ (m.uri ≠ [] ∧ m.uri ≠ c.tokenURI t) → m.uri = c.tokenURI t := by
    intro hn
    by_cases he : m.uri = []
    · exact he.trans (hempty he).symm
    · by_contra hne
      exact hn ⟨he, hne⟩
  rw [hshown, uri]
  by_cases hv : c.passportStatus t = .verified
  · by_cases ha : m.uri ≠ [] ∧ m.uri ≠ c.tokenURI t
    · simp [hv, ha, PassportRow.unverified]
    · simp [hv, PassportRow.unverified, hleft ha]
  · have hc := (hclean hdst).resolve_right hv
    obtain ⟨rfl, rfl⟩ : status = .unverified ∧ verifier = none := hc
    by_cases ha : m.uri ≠ [] ∧ m.uri ≠ c.tokenURI t
    · simp [hv, ha]
    · simp [hv, hleft ha]

/-- **The first half.** -/
theorem RowInv.first (hi : RowInv eid t home c₀ r₀ b c) (h : begin c (.account n) call = .ok c₁)
    (hcall : ∀ t dst, call ≠ .recoverLockedHome t dst)
    (hok : told eid t home ⟨.account n, call, .first, ⟨b, c⟩, ⟨pendingIn b c call, c₁⟩⟩) :
    RowInv eid t home c₀ r₀ (pendingIn b c call) c₁ := by
  obtain ⟨hk, hcons⟩ := begin_conserved hi.keeps hi.one hcall h
  have hone := hi.one.conserved hcons
  have hid : c₁.chainId = c.chainId := hcons.1
  have hmine : ∀ p ∈ c₁.inbox, p.dstEid = eid c₁.chainId := by
    intro p hp
    rw [hid]
    exact hi.mine p ((begin_inbox (t := t) h).1 hp)
  have hin : carrying c₁.inbox t ≤ carrying c.inbox t := (begin_inbox h).2
  have hbt := pendingIn_eq b c call t
  obtain ⟨r, hr, hfit⟩ := hi.row
  cases begin_first hi.keeps hcall h t with
  | same hs hp hsend hm =>
    rw [hp, Option.none_or] at hbt
    refine ⟨hk, hone, hid.trans hi.chainId, hmine, hi.copy.same hs, ?_, ?_, ?_, r,
      hr.tells hs.row, ?_⟩
    · rw [hbt]
      intro hne
      have := hi.under hne
      omega
    · rw [hbt, isHome_congr hid]
      intro hne hh
      obtain ⟨hl, hu⟩ := hi.minting hne hh
      exact ⟨(begin_guarded (t := t) hl h).1, (face_eq hs.face).1.trans hu⟩
    · rw [hbt, isHome_congr hid]
      exact hi.brings
    · rw [hbt]
      refine hfit.same hs hid fun p hp ht => ?_
      exact hp.imp (fun hp => (begin_inbox (t := t) h).1 hp) fun hp => begin_outbox hsend h hp ht
  | edited hs hp hsend hm =>
    rw [hp, Option.none_or] at hbt
    have hcirc : circulates c₁ t = true := by
      have := hs.there
      unfold circulates at this ⊢
      rwa [hs.owned, hs.away]
    obtain ⟨f, hf, hfr⟩ := hs.row
    refine ⟨hk, hone, hid.trans hi.chainId, hmine, ⟨hs.sound hi.copy.sound, fun ho => ?_,
      fun _ => hcirc⟩, fun _ => hone.carrying_inbox hcirc, ?_, ?_, f r, hr.tells hf,
      fun _ hn => ?_, fun p hp ht => absurd ht (hone.no_box hcirc hp)⟩
    · exact absurd ho (circulates_iff.mp hcirc).1
    · rw [hbt, isHome_congr hid]
      intro hne hh
      have hl := (hi.minting hne hh).1
      rw [hs.free] at hl
      cases hl
    · rw [hbt, isHome_congr hid]
      exact hi.brings
    · rw [hbt] at hn
      obtain ⟨rfl, hempty⟩ := hfit.here hs.there hn
      refine ⟨hfr, fun hh he => ?_⟩
      rw [isHome_congr hid] at hh
      rcases hs.uri with hu | hu
      · exact hempty hh (hu ▸ he)
      · exact absurd he hu
  | @sent dstEid dst there gone active uri trust owned row =>
    have hbt : pendingIn b c (.send dstEid dst t) t = b t := rfl
    have hshell := begin_shell h
    have hboxin : c₁.inbox = c.inbox := congrArg Shell.inbox hshell
    refine ⟨hk, hone, hid.trans hi.chainId, hmine, ⟨fun hu => ?_, fun ho => ?_, fun ha => ?_⟩,
      ?_, ?_, ?_, r, hr.tells row, ?_⟩
    · split at trust
      · rw [trust.2]
        exact hi.copy.sound (trust.1 ▸ hu)
      · exact trust.2
    · split at trust
      · rename_i hh
        exact absurd ho (owned hh)
      · exact trust.2
    · rw [active] at ha
      cases ha
    · rw [hbt, hboxin]
      exact hi.under
    · rw [hbt, isHome_congr hid]
      intro hne hh
      obtain ⟨hl, hu⟩ := hi.minting hne hh
      rw [if_pos hh] at trust
      exact ⟨(congrArg Shell.locked hshell).trans hl, trust.1.trans hu⟩
    · rw [hbt, isHome_congr hid]
      exact hi.brings
    · rw [hbt]
      exact hfit.left hi.copy hi.one hid there gone uri
        (fun hh => by rw [if_pos hh] at trust; exact trust.1) hboxin
        (congrArg Shell.outbox hshell) (hok rfl)
  | @unlocked m hm inbox hh there active trust uri row =>
    have hb := hi.inbox_free inbox hm
    have hbt : pendingIn b c (.lzReceive m) t = none := by
      show (if c.isHome m.tokenId then b else Function.update b m.tokenId (some m.uri)) t = none
      rw [hm, if_pos hh]
      exact hb
    have hcar : InTransit eid t (homeFace home c t) (b t) r m := hfit.away m (.inl inbox) hm
    rw [hb] at hcar
    have hdst : m.dstEid = eid (homeOf t) := by
      rw [← isHome_homeOf hh]
      exact hi.mine m inbox
    refine ⟨hk, hone, hid.trans hi.chainId, hmine, ⟨fun _ => trust.2, fun _ => trust.2,
      fun _ => there⟩, fun hne => absurd hbt hne, fun hne => absurd hbt hne, fun u hu => ?_, _,
      hr.tells row, fun _ _ => ⟨Carried.unlocked hcar hh hdst trust uri, fun hf => ?_⟩,
      fun p hp ht => absurd ht (hone.no_box there hp)⟩
    · rw [hbt] at hu
      cases hu
    · rw [isHome_congr hid, hh] at hf
      cases hf
  | @minting dst uri ht hh new free guarded active trust owned row =>
    have hbt : pendingIn b c (.mintPassport dst uri) t = some uri := by simp [pendingIn, ht]
    have hzero := (hi.one t).2 hh new
    have hempty : ∀ p, p ∈ c₁.inbox ∨ p ∈ c₁.outbox → p.tokenId ≠ t := by
      intro p hp e
      unfold places at hzero
      rcases hp with hp | hp
      · have := carrying_pos ((begin_inbox (t := t) h).1 hp) e
        omega
      · have := carrying_pos (begin_outbox (fun _ _ e => by cases e) h hp e) e
        omega
    refine ⟨hk, hone, hid.trans hi.chainId, hmine, ⟨fun _ => ?_, fun ho => absurd ho owned,
      fun ha => ?_⟩, fun _ => ?_, fun _ _ => ⟨guarded, trust.1⟩, fun u _ hf => ?_, r,
      hr.tells row, fun _ hn => ?_, fun p hp e => absurd e (hempty p hp)⟩
    · rw [trust.2]
      exact hi.copy.absent new
    · rw [active] at ha
      exact absurd new (circulates_iff.mp (hi.copy.challenged ha)).1
    · unfold places at hzero
      omega
    · rw [isHome_congr hid, hh] at hf
      cases hf
    · rw [hbt] at hn
      cases hn
  | @arriving m hm inbox foreign new there active trust row =>
    have hb := hi.inbox_free inbox hm
    have hbt : pendingIn b c (.lzReceive m) t = some m.uri := by
      simp [pendingIn, hm, foreign]
    have hcar : InTransit eid t (homeFace home c t) (b t) r m := hfit.away m (.inl inbox) hm
    rw [hb, homeFace_abroad foreign] at hcar
    refine ⟨hk, hone, hid.trans hi.chainId, hmine, ⟨fun _ => ?_,
      fun ho => absurd ho (circulates_iff.mp there).1, fun _ => there⟩,
      fun _ => hone.carrying_inbox there, fun _ hf => ?_, fun u hu _ he => ?_, r, hr.tells row,
      fun _ hn => ?_, fun p hp e => absurd e (hone.no_box there hp)⟩
    · rw [trust.2]
      exact hi.copy.absent new
    · rw [isHome_congr hid, foreign] at hf
      cases hf
    · rw [hbt] at hu
      cases hu
      exact Carried.uri hcar he
    · rw [hbt] at hn
      cases hn

/-- Nothing comes into the inbox in a callee's turn. -/
theorem calleeTurn_inbox (h : ∃ accepts calls, calleeTurn c call accepts calls c₁ = .ok c₂) :
    c₂.inbox ⊆ c₁.inbox := by
  obtain ⟨accepts, calls, h⟩ := h
  have hall : ∀ c₂, execAll calls c₁ = .ok c₂ → c₂.inbox ⊆ c₁.inbox := fun c₂ hr =>
    (execAll_rule (inbox_halves c₁.inbox) calls (b := .none) (fun _ h => h)
      fun _ _ => trivial).2 c₂ hr
  unfold calleeTurn at h
  cases ht : turn c call with
  | nobody =>
    rw [ht] at h
    obtain rfl := pure_ok.mp h
    exact fun _ h => h
  | required =>
    simp only [ht, bind_ok, require_ok, exists_const] at h
    exact hall c₂ h.2
  | caught =>
    simp only [ht] at h
    split at h
    · exact hall c₂ h
    · obtain rfl := pure_ok.mp h
      exact fun _ h => h

/-- What a mint or an arrival has under way, nothing else was under way for. -/
theorem RowInv.began (hi : RowInv eid t home c₀ r₀ b c) (h : begin c (.account n) call = .ok c₁)
    (hcall : ∀ t dst, call ≠ .recoverLockedHome t dst)
    (hp : pendingIn .none c call t ≠ none) : b t = none := by
  cases begin_first hi.keeps hcall h t with
  | same hs hp' => exact absurd hp' hp
  | edited hs hp' => exact absurd hp' hp
  | sent => exact absurd rfl hp
  | @unlocked m hm inbox => exact hi.inbox_free inbox hm
  | @arriving m hm inbox => exact hi.inbox_free inbox hm
  | minting ht hh new free =>
    by_contra hne
    have hl := (hi.minting hne hh).1
    rw [free] at hl
    cases hl

omit [Erc721 P] in
/-- The row of a passport that is in a box when its challenge ends. -/
theorem Carried.judged {p : Packet} {stands : Bool} (h : Carried eid t (homeFace home c t) r p)
    (hid : c'.chainId = c.chainId)
    (face : c'.face t = if stands then (.verified, c.passportVerifier t, c.tokenURI t)
      else (.unverified, .zero, c.tokenURI t))
    (hok : stands = true → c.isHome t = false → p.dstEid = eid (homeOf t) → home.1 = .verified) :
    Carried eid t (homeFace home c' t) (r.map (·.judged stands)) p := by
  obtain ⟨⟨row, rfl, hu, -⟩, hempty⟩ := h
  have huri : c'.tokenURI t = c.tokenURI t := by
    have := congrArg (·.2.2) face
    cases stands <;> exact this
  have hjudged : (row.judged stands).tokenUri = p.uri := by
    cases stands <;> exact hu
  refine ⟨⟨_, rfl, hjudged, fun hd => ?_⟩, fun he => ?_⟩
  · cases stands with
    | false => exact .inl ⟨rfl, rfl⟩
    | true =>
      refine .inr ?_
      by_cases hh : c.isHome t = true
      · rw [homeFace_home (by rw [isHome_congr hid]; exact hh)]
        exact congrArg Prod.fst face
      · have hh : c.isHome t = false := by simpa using hh
        rw [homeFace_abroad (by rw [isHome_congr hid]; exact hh)]
        exact hok rfl hh hd
  · have := hempty he
    by_cases hh : c.isHome t = true
    · rw [homeFace_home hh] at this
      rw [homeFace_home (by rw [isHome_congr hid]; exact hh)]
      exact huri.trans this
    · have hh : c.isHome t = false := by simpa using hh
      rw [homeFace_abroad hh] at this
      rw [homeFace_abroad (by rw [isHome_congr hid]; exact hh)]
      exact this

omit [Erc721 P] in
theorem judged_shown {stands : Bool}
    (face : c'.face t = if stands then (.verified, c.passportVerifier t, c.tokenURI t)
      else (.unverified, .zero, c.tokenURI t)) :
    some ((c.shown t).judged stands) = some (c'.shown t) := by
  cases stands with
  | true =>
    simp only [Chain.face, if_true, Prod.mk.injEq] at face
    simp [Chain.shown, PassportRow.judged, face]
  | false =>
    simp only [Chain.face, Bool.false_eq_true, if_false, Prod.mk.injEq] at face
    simp [Chain.shown, PassportRow.judged, PassportRow.unverified, shownVerifier, face]

/-- **The second half.** -/
theorem RowInv.last (hi : RowInv eid t home c₀ r₀ b c) (h₁ : begin c (.account n) call = .ok c₁)
    (hcall : ∀ t dst, call ≠ .recoverLockedHome t dst)
    (hturn : ∃ accepts calls, calleeTurn c call accepts calls c₁ = .ok c₂)
    (hm : RowInv eid t home c₀ r₀ (pendingIn b c call) c₂)
    (h₃ : finish c c₂ (.account n) call = .ok c')
    (hok : told eid t home ⟨.account n, call, .last, ⟨pendingIn b c call, c₂⟩, ⟨b, c'⟩⟩) :
    RowInv eid t home c₀ r₀ b c' := by
  obtain ⟨hk, hcons⟩ := finish_conserved hm.keeps h₃
  have hone := hm.one.conserved hcons
  have hid : c'.chainId = c₂.chainId := hcons.1
  have hids : c₂.chainId = c.chainId := hm.chainId.trans hi.chainId.symm
  obtain ⟨herc, hlock, hchal⟩ := finish_still h₃
  obtain ⟨hboxin, hboxout⟩ := finish_boxes h₃
  have howner : c'.ownerOf t = c₂.ownerOf t := congrArg (Erc721.ownerOf · t) herc
  have hcirc : circulates c' t = circulates c₂ t := by
    unfold circulates
    rw [howner, hlock]
  have hactive : c'.isChallengeActive t = c₂.isChallengeActive t := by
    unfold Chain.isChallengeActive
    rw [hchal]
  have hmine : ∀ p ∈ c'.inbox, p.dstEid = eid c'.chainId := by
    rw [hboxin, hid]
    exact hm.mine
  have hmint : ∀ dst t uri, call ≠ .bridgeMint dst t uri := by
    rintro dst t uri rfl
    exact absurd (bridgeMint_ok h₁).1 hi.keeps.not_gateway
  have hbt := pendingIn_eq b c call t
  obtain ⟨r, hr, hfit⟩ := hm.row
  -- an older mint holds the guard, and this call did not take it
  have hguard : b t ≠ none → c'.isHome t = true → c'.locked = true ∧
      c'.passportStatus t = c₂.passportStatus t ∧ c₂.passportStatus t = .unverified := by
    intro hne hh
    rw [isHome_congr hid] at hh
    obtain ⟨-, hg, -⟩ := begin_guarded (t := t) (hi.minting hne (isHome_congr hids ▸ hh)).1 h₁
    obtain ⟨hl, hs⟩ := finish_unguarded hg h₃
    have hne₂ : pendingIn b c call t ≠ none := by
      rw [hbt]
      cases pendingIn .none c call t with
      | none => exact hne
      | some uri => simp
    exact ⟨hl.trans (hm.minting hne₂ hh).1, hs t, (hm.minting hne₂ hh).2⟩
  have hminting : b t ≠ none → c'.isHome t = true →
      c'.locked = true ∧ c'.passportStatus t = .unverified := by
    intro hne hh
    obtain ⟨hl, hs, hu⟩ := hguard hne hh
    exact ⟨hl, hs.trans hu⟩
  have hbrings : ∀ uri, b t = some uri → c'.isHome t = false → uri = [] → home.2 = [] := by
    rw [isHome_congr (hid.trans hids)]
    exact hi.brings
  have hunder : b t ≠ none → carrying c'.inbox t = 0 := by
    rw [hboxin]
    intro hne
    refine hm.under ?_
    rw [hbt]
    cases pendingIn .none c call t with
    | none => exact hne
    | some uri => simp
  cases finish_last hids hmint h₃ t with
  | same hs hp =>
    rw [hp, Option.none_or] at hbt
    rw [hbt] at hfit
    refine ⟨hk, hone, hid.trans hm.chainId, hmine, hm.copy.same hs, hunder, hminting, hbrings, r,
      hr.tells hs.row, hfit.same hs hid fun p hp _ => ?_⟩
    rwa [hboxin, hboxout] at hp
  | @written uri hp face row =>
    have hb := hi.began h₁ hcall (by rw [hp]; simp)
    rw [hp, hb, Option.or_none] at hbt
    rw [hbt] at hfit
    obtain ⟨f, hf, hfr⟩ := row
    simp only [Chain.face, Prod.mk.injEq] at face
    have hstatus : c₂.passportStatus t = .unverified := by
      by_cases hh : c₂.isHome t = true
      · exact (hm.minting (by rw [hbt]; simp) hh).2
      · -- an arrival: what the receiver did with the passport, the condition says
        have hh : c₂.isHome t = false := by simpa using hh
        obtain ⟨m, rfl, hmt⟩ : ∃ m, call = .lzReceive m ∧ m.tokenId = t := by
          cases call with
          | mintPassport dst u =>
            have ht : t = c.nextTokenId := by
              by_contra hne
              simp [pendingIn, Pending.none, hne] at hp
            have : c.isHome t = true := by
              rw [ht, Chain.isHome, KarPassport.isHome, hi.keeps.namesake]
              exact beq_self_eq_true _
            rw [isHome_congr hids, this] at hh
            cases hh
          | lzReceive m =>
            refine ⟨m, rfl, ?_⟩
            by_contra hne
            have hne : t ≠ m.tokenId := fun e => hne e.symm
            simp only [pendingIn] at hp
            split at hp <;> simp [Pending.none, hne] at hp
          | _ => cases hp
        exact hok hmt hh
    have hverifier := hm.copy.sound hstatus
    have hshown : c'.shown t = ⟨.unverified, none, uri⟩ := by
      simp [Chain.shown, shownVerifier, face, hstatus, hverifier]
    refine ⟨hk, hone, hid.trans hm.chainId, hmine,
      ⟨fun _ => face.2.1.trans hverifier, fun _ => face.2.1.trans hverifier, ?_⟩,
      hunder, hminting, hbrings, f r, hr.tells hf, fun _ _ => ⟨?_, ?_⟩, fun p hp ht => ?_⟩
    · rw [hactive, hcirc]
      exact hm.copy.challenged
    · rw [hfr, hshown]
    · rw [isHome_congr hid, face.2.2]
      exact hm.brings uri hbt
    · rw [hboxin, hboxout] at hp
      have hu : p.uri = uri := hfit.away p hp ht
      rw [hb]
      refine ⟨⟨_, hfr r, hu.symm, fun _ => .inl ⟨rfl, rfl⟩⟩, fun he => ?_⟩
      by_cases hh : c₂.isHome t = true
      · rw [homeFace_home (by rw [isHome_congr hid]; exact hh)]
        exact face.2.2.trans (hu.symm.trans he)
      · have hh : c₂.isHome t = false := by simpa using hh
        rw [homeFace_abroad (by rw [isHome_congr hid]; exact hh)]
        exact hm.brings uri hbt hh (hu.symm.trans he)
  | @judged stands hv hnone face row =>
    rw [hnone, Option.none_or] at hbt
    rw [hbt] at hfit
    have hfree := (verdict_active hv h₁).2
    refine ⟨hk, hone, hid.trans hm.chainId, hmine, ⟨fun hu => ?_, fun ho => ?_, ?_⟩, hunder,
      hminting, hbrings, _, hr.tells row, fun hc hb => ?_, fun p hp ht => ?_⟩
    · cases stands with
      | true => cases (congrArg Prod.fst face).symm.trans hu
      | false => exact congrArg (·.2.1) face
    · rw [howner] at ho
      cases stands with
      | true => exact (congrArg (·.2.1) face).trans (hm.copy.absent ho)
      | false => exact congrArg (·.2.1) face
    · rw [hactive, hcirc]
      exact hm.copy.challenged
    · rw [hcirc] at hc
      obtain ⟨rfl, hempty⟩ := hfit.here hc hb
      refine ⟨judged_shown face, ?_⟩
      have huri : c'.tokenURI t = c₂.tokenURI t := by
        have := congrArg (·.2.2) face
        cases stands <;> exact this
      rw [isHome_congr hid, huri]
      exact hempty
    · rw [hboxin, hboxout] at hp
      have hin := hfit.away p hp ht
      cases hb : b t with
      | some u =>
        rw [hb] at hin
        exact hin
      | none =>
        rw [hb] at hin
        refine Carried.judged hin hid face fun hs hh hd => ?_
        subst hs
        rcases hp with hp | hp
        · -- nothing has come into the inbox since the passport circulated
          have hthere := hi.copy.challenged (verdict_active hv h₁).1
          have hp : p ∈ c.inbox := (begin_inbox (t := t) h₁).1 (calleeTurn_inbox hturn hp)
          exact absurd ht (hi.one.no_box hthere (.inl hp))
        · have hb₂ : pendingIn b c call t = none := hbt.trans hb
          cases call with
          | withdraw t' => exact hok hv hb₂ hh p hp ht hd
          | judge t' outcome => exact hok hv hb₂ hh p hp ht hd
          | conclude t' => exact hok hv hb₂ hh p hp ht hd
          | _ => cases hv

/-! ## §4. A passport that is elsewhere. -/

/-- The passport is on another chain, or on its way. -/
def Elsewhere (c : Chain P) (t : TokenId) : Prop :=
  places c t = 0 ∧ (c.isHome t = true → minted c t = 1)

/-- What a chain keeps of a passport that is elsewhere. -/
structure ElsewhereInv (t : TokenId) (c₀ : Chain P) (b : Pending) (c : Chain P) : Prop where
  keeps : Local c
  one : OnePlace c
  conserved : Conserved c₀ c
  copy : CopyInv t c
  face : c.face t = c₀.face t
  idle : b t = none
  row : Tells t c₀ c id

theorem Elsewhere.places (h : Elsewhere c₀ t) (hc : Conserved c₀ c) : places c t = 0 := by
  obtain ⟨h₀, hm⟩ := h
  obtain ⟨heq, hle⟩ := hc.2 t
  have hone := minted_le_one (c := c) (t := t)
  by_cases hh : c₀.isHome t = true
  · have := hm hh
    omega
  · have : minted c t = 0 := by simp [minted, isHome_congr hc.1, hh]
    omega

/-- Whatever is done with a passport needs it here. -/
theorem ElsewhereInv.same (he : Elsewhere c₀ t) (hi : ElsewhereInv t c₀ b c)
    (hcall : ∀ t dst, call ≠ .recoverLockedHome t dst)
    (h : begin c (.account n) call = .ok c₁) : Same t c c₁ ∧ pendingIn .none c call t = none := by
  have hzero := he.places hi.conserved
  have hnot : circulates c t ≠ true := by
    intro hc
    unfold Bridge.places at hzero
    rw [hc, Bool.toNat_true] at hzero
    omega
  have hno : ∀ {m : Packet}, m ∈ c.inbox → m.tokenId ≠ t := by
    intro m hm ht
    have := carrying_pos hm ht
    unfold Bridge.places at hzero
    omega
  cases begin_first hi.keeps hcall h t with
  | same hs hp => exact ⟨hs, hp⟩
  | edited hs => exact absurd hs.there hnot
  | sent there => exact absurd there hnot
  | unlocked hm inbox => exact absurd hm (hno inbox)
  | arriving hm inbox => exact absurd hm (hno inbox)
  | minting ht hh new =>
    have hm := he.2 (isHome_congr hi.conserved.1 ▸ hh)
    have hle := (hi.conserved.2 t).2
    have : minted c t = 0 := by simp [minted, new]
    omega

theorem elsewhere_halves (he : Elsewhere c₀ t) :
    HalvesKeep (ElsewhereInv t c₀) (fun x => ∀ t dst, x.call ≠ .recoverLockedHome t dst)
      fun _ => True := by
  refine ⟨fun {b n call c c₁} hi h hok => ⟨?_, trivial⟩,
    fun {b n call c c₁ c₂ c'} hi h₁ _ hm h₃ hok => ⟨?_, trivial⟩⟩
  · obtain ⟨hs, hp⟩ := hi.same he hok h
    obtain ⟨hk, hcons⟩ := begin_conserved hi.keeps hi.one hok h
    refine ⟨hk, hi.one.conserved hcons, hi.conserved.trans hcons, hi.copy.same hs,
      hs.face.trans hi.face, ?_, hi.row.trans hs.row⟩
    rw [pendingIn_eq, hp, Option.none_or]
    exact hi.idle
  · obtain ⟨-, hp⟩ := hi.same he hok h₁
    obtain ⟨hk, hcons⟩ := finish_conserved hm.keeps h₃
    have hmint : ∀ dst t uri, call ≠ .bridgeMint dst t uri := by
      rintro dst t uri rfl
      exact absurd (bridgeMint_ok h₁).1 hi.keeps.not_gateway
    cases finish_last (hm.conserved.1.trans hi.conserved.1.symm) hmint h₃ t with
    | same hs _ =>
      exact ⟨hk, hm.one.conserved hcons, hm.conserved.trans hcons, hm.copy.same hs,
        hs.face.trans hm.face, hi.idle, hm.row.trans hs.row⟩
    | written hp' =>
      rw [hp] at hp'
      cases hp'
    | judged hv =>
      -- a challenge is open only where the passport is
      have hc := hi.copy.challenged (verdict_active hv h₁).1
      have hzero := he.places hi.conserved
      unfold Bridge.places at hzero
      rw [hc, Bool.toNat_true] at hzero
      omega

end Keep

/-! ## §5. One transaction. -/

mutual

/-- Nobody recovers a passport in any part of an unaided message. -/
theorem unaided_changes : ∀ (m : Message) {b : Pending} {c : Chain P}, Unaided m →
    ∀ x ∈ changes b m c, ∀ t dst, x.call ≠ .recoverLockedHome t dst
  | .mk sender call accepts calls, b, c, hm, x, hx => by
    obtain ⟨c₁, -, rfl | ⟨-, hx⟩ | ⟨c₂, -, c', -, rfl⟩⟩ := mem_changes.mp hx
    · exact hm.1
    · exact unaided_changesAll calls hm.2 x hx
    · exact hm.1

theorem unaided_changesAll : ∀ (ms : List Message) {b : Pending} {c : Chain P}, UnaidedAll ms →
    ∀ x ∈ changesAll b ms c, ∀ t dst, x.call ≠ .recoverLockedHome t dst
  | [], b, c, _, x, hx => by simp [changesAll] at hx
  | m :: ms, b, c, hm, x, hx => by
    rcases mem_changesAll_cons.mp hx with hx | ⟨c', -, hx⟩
    · exact unaided_changes m hm.1 x hx
    · exact unaided_changesAll ms hm.2 x hx

end

section Transaction

variable {eid : ℕ → ℕ} {t : TokenId} {home : Status × Uri} {c₀ c c' : Chain P}
  {r₀ : Option PassportRow} {b : Pending}

theorem row_halves : HalvesKeep (RowInv eid t home c₀ r₀)
    (fun x => (∀ t dst, x.call ≠ .recoverLockedHome t dst) ∧ told eid t home x)
    fun _ => True :=
  ⟨fun hi h hok => ⟨hi.first h hok.1 hok.2, trivial⟩,
    fun hi h₁ ht hm h₃ hok => ⟨hi.last h₁ hok.1 ht hm h₃ hok.2, trivial⟩⟩

end Transaction

/-! ## §6. The chains and the rows. -/

/-- The chains and the indexer's rows. -/
structure IndexedNet (P : Type) where
  net : Net P
  rows : TokenId → Option PassportRow

/-- The status and the URI of a passport on its home chain. -/
def Net.homeFace (s : Net P) (t : TokenId) : Status × Uri :=
  ((s.chains (homeOf t)).passportStatus t, (s.chains (homeOf t)).tokenURI t)

namespace IndexedNet

/-- What a chain logged in a transaction. -/
def newEvents (c c' : Chain P) : List Event := c'.log.take (c'.log.length - c.log.length)

/-- A step of the net; the handlers then have the events of the transaction. -/
def step (eid : ℕ → ℕ) (x : IndexedNet P) (a : NetAction) : Except Error (IndexedNet P) := do
  let net ← Net.step eid x.net a
  match a with
  | .transaction i _ =>
    pure ⟨net, fun t => rowAfter t (x.rows t) (newEvents (x.net.chains i) (net.chains i))⟩
  | .outside .. => pure ⟨net, x.rows⟩

omit [Erc721 P] in
/-- Nothing is indexed yet. -/
def start (s : Net P) : IndexedNet P := ⟨s, fun _ => none⟩

end IndexedNet

/-- The condition on a step: in a transaction, the row of `t` is told enough. -/
def toldStep (eid : ℕ → ℕ) (t : TokenId) (x : IndexedNet P) : NetAction → Prop
  | .transaction i m =>
    ∀ y ∈ changes .none m (x.net.arriving eid i), told eid t (x.net.homeFace t) y
  | .outside .. => True

instance (eid : ℕ → ℕ) (t : TokenId) (x : IndexedNet P) (a : NetAction) :
    Decidable (toldStep eid t x a) :=
  match a with
  | .transaction i m =>
    inferInstanceAs (Decidable
      (∀ y ∈ changes .none m (x.net.arriving eid i), told eid t (x.net.homeFace t) y))
  | .outside .. => isTrue trivial

/-- While the passport is in no message, its row says what the chain says that its copy
    circulates on. -/
def RowAgrees (x : IndexedNet P) (t : TokenId) : Prop :=
  carrying x.net.inFlight t = 0 → ∀ i ∈ x.net.deployed, circulates (x.net.chains i) t = true →
    x.rows t = some ((x.net.chains i).shown t)

/-- Fresh chains, on which nobody is a verifier of anything. -/
structure Net.Blank (s : Net P) : Prop where
  fresh : s.Fresh
  unnamed : ∀ i t, (s.chains i).passportVerifier t = .zero

/-- What the chains and the row of one passport keep. -/
structure AgreeInv (eid : ℕ → ℕ) (t : TokenId) (x : IndexedNet P) : Prop where
  net : NetInv x.net
  copy : ∀ i, CopyInv t (x.net.chains i)
  here : ∀ i ∈ x.net.deployed, circulates (x.net.chains i) t = true →
    x.rows t = some ((x.net.chains i).shown t) ∧
      (i ≠ homeOf t → (x.net.chains i).tokenURI t = [] → (x.net.homeFace t).2 = [])
  flight : ∀ p ∈ x.net.inFlight, p.tokenId = t →
    Carried eid t (x.net.homeFace t) (x.rows t) p

section Net

variable {eid : ℕ → ℕ} {t : TokenId} {s₀ s : Net P} {x x' : IndexedNet P} {i : ℕ} {m : Message}
  {c c₀ : Chain P} {r r₀ : Option PassportRow}

omit [Erc721 P] in
theorem RowNow.eq (h : RowNow t c₀ r₀ c r) : rowAfter t r₀ (IndexedNet.newEvents c₀ c) = r := by
  obtain ⟨es, he, hr⟩ := h
  unfold IndexedNet.newEvents
  rw [he, List.length_append, Nat.add_sub_cancel, List.take_left']
  · exact hr
  · rfl

theorem NetInv.isHome_iff (h : NetInv s) : (s.arriving eid i).isHome t = true ↔ i = homeOf t := by
  have hid : (s.arriving eid i).chainId = i := h.chainId i
  rw [Chain.isHome, KarPassport.isHome, hid]
  constructor
  · intro hh
    exact (beq_iff_eq.mp hh).symm
  · intro e
    exact beq_iff_eq.mpr e.symm

/-- A passport that is not elsewhere is here, and nowhere else. -/
theorem NetInv.only (h : NetInv s) (hi : i ∈ s.deployed) (he : ¬ Elsewhere (s.arriving eid i) t) :
    (∀ j ∈ s.deployed, j ≠ i → circulates (s.chains j) t = false) ∧
      carrying (s.inFlight.filter fun m => ¬ m.dstEid = eid i) t = 0 := by
  have htot := h.total t
  have hle := h.minted_le t
  have hf := carrying_filter (t := t) s.inFlight fun m => m.dstEid = eid i
  have hsum := Finset.add_sum_erase s.deployed (fun j => (circulates (s.chains j) t).toNat) hi
  have hpl : places (s.arriving eid i) t = (circulates (s.chains i) t).toNat +
      carrying (s.inFlight.filter fun m => m.dstEid = eid i) t + 0 := rfl
  -- of the total there is nothing left for the others
  have hrest : ∑ j ∈ s.deployed.erase i, (circulates (s.chains j) t).toNat +
      carrying (s.inFlight.filter fun m => ¬ m.dstEid = eid i) t = 0 := by
    by_cases hp : places (s.arriving eid i) t = 0
    · have hn : ¬ ((s.arriving eid i).isHome t = true → minted (s.arriving eid i) t = 1) :=
        fun hm => he ⟨hp, hm⟩
      rw [Classical.not_imp] at hn
      have hhome := h.isHome_iff.mp hn.1
      have hm : minted (s.chains (homeOf t)) t ≠ 1 := by
        rw [← hhome]
        exact hn.2
      have := minted_le_one (c := s.chains (homeOf t)) (t := t)
      rw [h.minted_eq, if_pos (hhome ▸ hi)] at htot
      omega
    · omega
  refine ⟨fun j hj hne => ?_, by omega⟩
  by_contra hc
  have hc : circulates (s.chains j) t = true := by simpa using hc
  have := Finset.single_le_sum (f := fun j => (circulates (s.chains j) t).toNat)
    (fun _ _ => Nat.zero_le _) (Finset.mem_erase.mpr ⟨hne, hj⟩)
  simp only [hc, Bool.toNat_true] at this
  omega

omit [Erc721 P] in
theorem departed_chain (j : ℕ) (hj : j ≠ i) : (s.departed eid i c).chains j = s.chains j := by
  simp [Net.departed, hj]

omit [Erc721 P] in
theorem departed_self : (s.departed eid i c).chains i = { c with inbox := [], outbox := [] } := by
  simp [Net.departed]

theorem AgreeInv.elsewhere (h : AgreeInv eid t x) (hi : i ∈ x.net.deployed) (hm : Unaided m)
    (he : Elsewhere (x.net.arriving eid i) t) (hx : exec m (x.net.arriving eid i) = .ok c)
    (hnet : NetInv (x.net.departed eid i c)) :
    AgreeInv eid t ⟨x.net.departed eid i c, fun t => rowAfter t (x.rows t)
      (IndexedNet.newEvents (x.net.chains i) ((x.net.departed eid i c).chains i))⟩ := by
  obtain ⟨hl, hone⟩ : Local (x.net.arriving eid i) ∧ OnePlace (x.net.arriving eid i) :=
    h.net.arriving hi
  have hstart : ElsewhereInv t (x.net.arriving eid i) .none (x.net.arriving eid i) :=
    ⟨hl, hone, .refl, ⟨(h.copy i).sound, (h.copy i).absent, (h.copy i).challenged⟩, rfl, rfl,
      .nothing rfl⟩
  have hend := (exec_rule (elsewhere_halves he) m hstart (unaided_changes m hm)).2 c hx
  have hzero := he.places hend.conserved
  unfold places at hzero
  have hrows : rowAfter t (x.rows t)
      (IndexedNet.newEvents (x.net.chains i) ((x.net.departed eid i c).chains i)) = x.rows t := by
    rw [departed_self]
    have hnow : RowNow t (x.net.arriving eid i) (x.rows t) c (x.rows t) :=
      RowNow.tells (f := id) ⟨[], rfl, rfl⟩ hend.row
    exact hnow.eq
  have hface : (x.net.departed eid i c).homeFace t = x.net.homeFace t := by
    unfold Net.homeFace
    by_cases e : homeOf t = i
    · obtain ⟨h₁, -, h₃⟩ := face_eq hend.face
      rw [e, departed_self]
      exact Prod.ext h₁ h₃
    · rw [departed_chain _ e]
  refine ⟨hnet, fun j => ?_, fun j hj hc => ?_, fun p hp ht => ?_⟩
  · by_cases e : j = i
    · subst e
      rw [departed_self]
      exact ⟨hend.copy.sound, hend.copy.absent, hend.copy.challenged⟩
    · rw [departed_chain _ e]
      exact h.copy j
  · by_cases e : j = i
    · subst e
      rw [departed_self] at hc
      have hc : circulates c t = true := hc
      rw [hc, Bool.toNat_true] at hzero
      omega
    · show rowAfter t _ _ = _ ∧ _
      rw [hrows, hface, departed_chain _ e]
      rw [departed_chain _ e] at hc
      exact h.here j hj hc
  · show Carried eid t _ (rowAfter t _ _) p
    rw [hrows, hface]
    simp only [Net.departed, List.mem_append] at hp
    rcases hp with hp | hp | hp
    · exact h.flight p (List.mem_of_mem_filter hp) ht
    · have := carrying_pos hp ht
      omega
    · have := carrying_pos hp ht
      omega

theorem AgreeInv.present (h : AgreeInv eid t x) (hi : i ∈ x.net.deployed) (hm : Unaided m)
    (hok : ∀ y ∈ changes .none m (x.net.arriving eid i), told eid t (x.net.homeFace t) y)
    (he : ¬ Elsewhere (x.net.arriving eid i) t) (hx : exec m (x.net.arriving eid i) = .ok c)
    (hnet : NetInv (x.net.departed eid i c)) :
    AgreeInv eid t ⟨x.net.departed eid i c, fun t => rowAfter t (x.rows t)
      (IndexedNet.newEvents (x.net.chains i) ((x.net.departed eid i c).chains i))⟩ := by
  obtain ⟨hl, hone⟩ : Local (x.net.arriving eid i) ∧ OnePlace (x.net.arriving eid i) :=
    h.net.arriving hi
  obtain ⟨hothers, hflight⟩ := h.net.only hi he
  have hid : (x.net.arriving eid i).chainId = i := h.net.chainId i
  have hhome : (x.net.arriving eid i).isHome t = true ↔ i = homeOf t := h.net.isHome_iff
  have hface₀ : homeFace (x.net.homeFace t) (x.net.arriving eid i) t = x.net.homeFace t := by
    by_cases hh : (x.net.arriving eid i).isHome t = true
    · rw [homeFace_home hh]
      unfold Net.homeFace
      rw [← hhome.mp hh]
      rfl
    · exact homeFace_abroad (by simpa using hh)
  have hstart : RowInv eid t (x.net.homeFace t) (x.net.arriving eid i) (x.rows t) .none
      (x.net.arriving eid i) := by
    refine ⟨hl, hone, rfl, fun p hp => ?_,
      ⟨(h.copy i).sound, (h.copy i).absent, (h.copy i).challenged⟩, fun hne => absurd rfl hne,
      fun hne => absurd rfl hne, fun _ hu => (nomatch hu), x.rows t, ⟨[], rfl, rfl⟩,
      fun hc _ => ?_, fun p hp ht => ?_⟩
    · rw [hid]
      simpa using List.of_mem_filter hp
    · obtain ⟨hrow, hempty⟩ := h.here i hi hc
      refine ⟨hrow, fun hf => hempty fun e => ?_⟩
      rw [hhome.mpr e] at hf
      cases hf
    · rw [hface₀]
      rcases hp with hp | hp
      · exact h.flight p (List.mem_of_mem_filter hp) ht
      · cases hp
  have hend := (exec_rule row_halves m hstart
    fun y hy => ⟨unaided_changes m hm y hy, hok y hy⟩).2 c hx
  obtain ⟨r, hr, hfit⟩ := hend.row
  have hhome' : c.isHome t = true ↔ i = homeOf t := by
    rw [isHome_congr hend.chainId]
    exact hhome
  have hrows : rowAfter t (x.rows t)
      (IndexedNet.newEvents (x.net.chains i) ((x.net.departed eid i c).chains i)) = r := by
    rw [departed_self]
    exact hr.eq
  have hface : (x.net.departed eid i c).homeFace t = homeFace (x.net.homeFace t) c t := by
    unfold Net.homeFace
    by_cases e : homeOf t = i
    · rw [homeFace_home (hhome'.mpr e.symm), e, departed_self]
    · rw [homeFace_abroad (by simpa using fun hh => e (hhome'.mp hh).symm), departed_chain _ e]
  refine ⟨hnet, fun j => ?_, fun j hj hc => ?_, fun p hp ht => ?_⟩
  · by_cases e : j = i
    · subst e
      rw [departed_self]
      exact ⟨hend.copy.sound, hend.copy.absent, hend.copy.challenged⟩
    · rw [departed_chain _ e]
      exact h.copy j
  · by_cases e : j = i
    · subst e
      show rowAfter t _ _ = _ ∧ _
      rw [hrows, hface, departed_self]
      rw [departed_self] at hc
      obtain ⟨hrow, hempty⟩ := hfit.here hc rfl
      refine ⟨hrow, fun hne hu => ?_⟩
      have hh : c.isHome t = false := by simpa using fun hh => hne (hhome'.mp hh)
      rw [homeFace_abroad hh]
      exact hempty hh hu
    · rw [departed_chain _ e, hothers j hj e] at hc
      cases hc
  · show Carried eid t _ (rowAfter t _ _) p
    rw [hrows, hface]
    simp only [Net.departed, List.mem_append] at hp
    rcases hp with hp | hp
    · have := carrying_pos hp ht
      simp only [ne_eq, decide_not] at this hflight
      omega
    · exact hfit.away p hp ht

/-- **One step keeps chains and row in agreement.** -/
theorem AgreeInv.step {a : NetAction} (h : AgreeInv eid t x) (ha : a.unaided)
    (hok : toldStep eid t x a) (hr : IndexedNet.step eid x a = .ok x') : AgreeInv eid t x' := by
  simp only [IndexedNet.step, bind_ok] at hr
  obtain ⟨net, hnet, hr⟩ := hr
  cases a with
  | transaction i m =>
    obtain rfl := pure_ok.mp hr
    have hinv := h.net.transaction ha hnet
    simp only [Net.step, bind_ok, require_ok, pure_ok, exists_const] at hnet
    obtain ⟨hi, c, hx, rfl⟩ := hnet
    by_cases he : Elsewhere (x.net.arriving eid i) t
    · exact h.elsewhere hi ha he hx hinv
    · exact h.present hi ha hok he hx hinv
  | outside i now isActiveVerifier sourceAnswer =>
    obtain rfl := pure_ok.mp hr
    have hinv := h.net.outside hnet
    simp only [Net.step, Bridge.step, bind_ok, require_ok, pure_ok, exists_const] at hnet
    obtain ⟨c, ⟨-, rfl⟩, rfl⟩ := hnet
    -- what passes is in neither the chain's passports nor the row
    have hf : ∀ {β : Type} (f : Chain P → β),
        f { x.net.chains i with now, isActiveVerifier, sourceAnswer } = f (x.net.chains i) →
        ∀ j, f (Function.update x.net.chains i
          { x.net.chains i with now, isActiveVerifier, sourceAnswer } j) = f (x.net.chains j) := by
      intro β f hfi j
      by_cases e : j = i
      · subst e
        simpa using hfi
      · simp [e]
    refine ⟨hinv, fun j => ⟨?_, ?_, ?_⟩, fun j hj => ?_, ?_⟩
    · rw [hf (·.passportStatus t) rfl, hf (·.passportVerifier t) rfl]
      exact (h.copy j).sound
    · rw [hf (·.ownerOf t) rfl, hf (·.passportVerifier t) rfl]
      exact (h.copy j).absent
    · rw [hf (·.isChallengeActive t) rfl, hf (circulates · t) rfl]
      exact (h.copy j).challenged
    · unfold Net.homeFace
      rw [hf (circulates · t) rfl, hf (·.shown t) rfl, hf (·.tokenURI t) rfl,
        hf (·.tokenURI t) rfl]
      exact h.here j hj
    · unfold Net.homeFace
      rw [hf (·.passportStatus t) rfl, hf (·.tokenURI t) rfl]
      exact h.flight

theorem Net.Blank.agree (h : s.Blank) : AgreeInv eid t (IndexedNet.start s) := by
  have hnone : ∀ i, (s.chains i).ownerOf t = none := fun i => (h.fresh.deployed i).no_passport t
  refine ⟨h.fresh.inv, fun i => ⟨fun _ => h.unnamed i t, fun _ => h.unnamed i t, fun ha => ?_⟩,
    fun i _ hc => absurd (hnone i) (circulates_iff.mp hc).1, fun p hp => ?_⟩
  · have ha : (s.chains i).isChallengeActive t = true := ha
    rw [Chain.isChallengeActive, (h.fresh.deployed i).no_challenge] at ha
    cases ha
  · have hp : p ∈ s.inFlight := hp
    rw [h.fresh.quiet] at hp
    cases hp

/-- **The indexed row.**  Over any number of chains and in every order of mints, transfers,
    edits, verifications, challenges, sends and deliveries, if each step tells the row of `t`
    enough, the row agrees with the copy that circulates. -/
theorem row_agrees {as : List NetAction} (h₀ : s₀.Blank) (has : ∀ a ∈ as, a.unaided)
    (hok : Along (IndexedNet.step eid) (toldStep eid t) (IndexedNet.start s₀) as)
    (hr : run (IndexedNet.step eid) (IndexedNet.start s₀) as = .ok x) : RowAgrees x t := by
  have halong : ∀ {y : IndexedNet P}, Along (IndexedNet.step eid) (toldStep eid t) y as →
      Along (IndexedNet.step eid) (fun y a => a.unaided ∧ toldStep eid t y a) y as := by
    clear hr hok
    induction as with
    | nil => exact fun _ => trivial
    | cons a as ih =>
      exact fun h => ⟨⟨has a (by simp), h.1⟩, fun y' hy =>
        ih (fun b hb => has b (by simp [hb])) (h.2 y' hy)⟩
  have hinv : AgreeInv eid t x :=
    run_invariant_along (fun y a y' hi ha hs => hi.step ha.1 ha.2 hs) h₀.agree (halong hok) hr
  exact fun _ i hi hc => (hinv.here i hi hc).1

end Net

/-! ## §7. Where it fails. -/

theorem smallNet_blank : smallNet.Blank := ⟨smallNet_fresh, fun _ _ => rfl⟩

/-- A passport of chain 1 goes to chain 2, where account 2 verifies it. -/
def abroadRun : List NetAction :=
  smallNetRun ++ [.transaction 2 (.mk 2 (.verifyPassport (2 ^ 128)) true [])]

/-- It comes home. -/
def staleRun : List NetAction := abroadRun ++ [
  .transaction 2 (.mk 1 (.send 1 ⟨0, .account 1⟩ (2 ^ 128)) true []),
  .transaction 1 (.mk 5 (.lzReceive ⟨1, ⟨0, .account 1⟩, 2 ^ 128, [97]⟩) true [])]

theorem row_agrees_abroad :
    RowAgrees (finalState (IndexedNet.step id) (IndexedNet.start smallNet) abroadRun)
      (2 ^ 128) := by
  have hun : ∀ a ∈ abroadRun, a.unaided := by
    simp [abroadRun, smallNetRun, NetAction.unaided, Unaided, UnaidedAll]
  exact row_agrees smallNet_blank hun (by decide +kernel) (run_finalState (by decide +kernel))

/-- **A verification that stays in the row.**  The home chain never had the passport verified,
    so its unlock has nothing to reset and no handler resets the row. -/
theorem row_stale : smallNet.Blank ∧ (∀ a ∈ staleRun, a.unaided) ∧
    ∃ x, run (IndexedNet.step id) (IndexedNet.start smallNet) staleRun = .ok x ∧
      ¬ RowAgrees x (2 ^ 128) := by
  refine ⟨smallNet_blank, ?_, _, run_finalState (by decide +kernel), fun h => ?_⟩
  · simp [staleRun, abroadRun, smallNetRun, NetAction.unaided, Unaided, UnaidedAll]
  · have hrow := h (by decide +kernel) 1 (by decide +kernel) (by decide +kernel)
    revert hrow
    decide +kernel

end Kargain.Evm.Bridge
