/-
  Kargain.Deliverability — what one family sends, the other takes.

  A passport leaves an EVM chain with whatever bytes its URI has, and
  Solana takes text only; it leaves Solana for any 32 bytes as receiver,
  and an EVM chain takes the low 20 of them, which must not be zero.
  Nothing else differs between the two sides' checks (`deliverability`).

  The wire format is the same on both: `composed`, whose fourth word the
  sending library fills in and nobody reads.  How 20 bytes are an account
  of the model is `Addressing`.
-/
import Kargain.Evm.PassportStatus
import Kargain.Svm.Returns

namespace Kargain

/-! ## §1. An EVM chain receives. -/

namespace Evm.Bridge

section Receive

variable {P : Type} [Erc721 P] {c c' : Chain P} {m : Packet} {t : TokenId}

/-- A message at the endpoint, about a passport the chain expects: a home token the gateway holds,
    or a token that is not there. -/
structure Awaited (c : Chain P) (m : Packet) : Prop where
  inbox : m ∈ c.inbox
  bound : c.bridgeGateway = .gateway
  place : c.ownerOf m.tokenId = if c.isHome m.tokenId then some .gateway else none

omit [Erc721 P] in
theorem setTokenURIChecked_settled {uri : Uri} (hu : uri.length ≤ uriCeiling) :
    setTokenURIChecked c t uri = .ok { c with tokenURI := Function.update c.tokenURI t uri } := by
  simp only [setTokenURIChecked, bind_ok, revertIf_ok, pure_ok, exists_const]
  exact ⟨Nat.not_lt.mpr hu, trivial⟩

theorem bridgeResetOnUnlock_settled {uri : Uri} (hb : c.bridgeGateway = .gateway)
    (hh : c.isHome t = true) (ho : c.ownerOf t ≠ none) (hu : uri.length ≤ uriCeiling) :
    ∃ c', bridgeResetOnUnlock c .gateway t uri = .ok c' ∧ c'.erc721 = c.erc721 := by
  have hex : ∃ c', bridgeResetOnUnlock c .gateway t uri = .ok c' := by
    simp only [bridgeResetOnUnlock, onlyGateway, Chain.requireExists, bind_ok, require_ok, revertIf_ok,
      pure_ok, exists_const, setTokenURIChecked_settled hu]
    generalize (if c.passportStatus t = .verified then _ else _ : Chain P) = c₀
    by_cases he : uri ≠ [] ∧ uri ≠ c₀.tokenURI t
    · exact ⟨_, hb.symm, hh, ho, _, if_pos he, rfl⟩
    · exact ⟨_, hb.symm, hh, ho, _, if_neg he, rfl⟩
  obtain ⟨c', h⟩ := hex
  exact ⟨c', h, (bridgeResetOnUnlock_ok h).2.2.2.1⟩

/-- An unlocking goes through exactly if the token is not for the zero address. -/
theorem lzReceive_home (h : Awaited c m) (hh : c.isHome m.tokenId = true)
    (hu : m.uri.length ≤ uriCeiling) : (∃ c', lzReceive c m = .ok c') ↔ m.sendTo.low ≠ .zero := by
  have ho : c.ownerOf m.tokenId = some .gateway := by rw [h.place, if_pos hh]
  obtain ⟨c₁, h₁, he⟩ := bridgeResetOnUnlock_settled (c := { c with inbox := c.inbox.erase m })
    (t := m.tokenId) h.bound hh (by show c.ownerOf _ ≠ _; simp [ho]) hu
  have ht : (∃ p, Erc721.transferFrom c₁.erc721 .gateway .gateway m.sendTo.low m.tokenId = some p) ↔
      m.sendTo.low ≠ .zero := by
    rw [← Option.isSome_iff_exists, Erc721.transferFrom_isSome, he]
    constructor
    · exact fun hp => hp.2.1
    · exact fun hz => ⟨ho, hz, by simp, .inl rfl⟩
  rw [← ht]
  have hhome : Chain.isHome { c with inbox := c.inbox.erase m } m.tokenId = true := hh
  simp only [lzReceive, bind_ok, require_ok, exists_const, hhome, if_true, orRevert_ok, pure_ok, h₁,
    Except.ok.injEq, exists_eq_left']
  constructor
  · rintro ⟨c', -, p, hp, rfl⟩
    exact ⟨p, hp⟩
  · rintro ⟨p, hp⟩
    exact ⟨_, h.inbox, p, hp, rfl⟩

/-- An arrival goes through exactly if it is not for the zero address. -/
theorem lzReceive_foreign (h : Awaited c m) (hh : c.isHome m.tokenId = false) :
    (∃ c', lzReceive c m = .ok c') ↔ m.sendTo.low ≠ .zero := by
  have ho : c.ownerOf m.tokenId = none := by rw [h.place, hh]; rfl
  have ht : (∃ p, Erc721.mint c.erc721 m.sendTo.low m.tokenId = some p) ↔ m.sendTo.low ≠ .zero := by
    rw [← Option.isSome_iff_exists, Erc721.mint_isSome]
    exact ⟨fun hp => hp.2, fun hz => ⟨ho, hz⟩⟩
  rw [← ht]
  have hforeign : Chain.isHome { c with inbox := c.inbox.erase m } m.tokenId = false := hh
  simp only [lzReceive, bridgeMint, onlyGateway, bind_ok, require_ok, revertIf_ok, exists_const, hforeign,
    Bool.false_eq_true, not_false_eq_true, if_false, orRevert_ok, pure_ok, true_and]
  constructor
  · rintro ⟨c', -, -, -, p, hp, rfl⟩
    exact ⟨p, hp⟩
  · rintro ⟨p, hp⟩
    exact ⟨_, h.inbox, h.bound.symm, ho, p, hp, rfl⟩

/-- **When a message is taken.**  With a receiver that accepts, an awaited message with a URI under
    the ceiling is accepted exactly if it is not for the zero address. -/
theorem received_iff (n : ℕ) (h : Awaited c m) (hu : m.uri.length ≤ uriCeiling) :
    (∃ c', exec (.mk n (.lzReceive m) true []) c = .ok c') ↔ m.sendTo.low ≠ .zero := by
  have hbegin : (∃ c', lzReceive c m = .ok c') ↔ m.sendTo.low ≠ .zero := by
    cases hh : c.isHome m.tokenId with
    | true => exact lzReceive_home h hh hu
    | false => exact lzReceive_foreign h hh
  have hfinish : ∀ c₁ : Chain P, ∃ c', lzReceiveFinish c₁ m = .ok c' := by
    intro c₁
    simp only [lzReceiveFinish, bridgeMintFinish, bind_ok, pure_ok, setTokenURIChecked_settled hu]
    split <;> exact ⟨_, _, rfl, rfl⟩
  rw [← hbegin]
  simp only [exec, execAll, begin, turn, finish, bind_ok]
  constructor
  · rintro ⟨c', c₁, h₁, -⟩
    exact ⟨c₁, h₁⟩
  · rintro ⟨c₁, h₁⟩
    obtain ⟨c', hc'⟩ := hfinish c₁
    refine ⟨c', c₁, h₁, c₁, ?_, hc'⟩
    split <;> rfl

end Receive

/-! ## §2. Words and messages. -/

/-- The account an address of 20 bytes is; only zero is the zero address. -/
structure Addressing where
  account : ℕ → Address
  account_zero : ∀ n, account n = .zero ↔ n = 0

/-- `bytes32ToAddress` takes the low 20 bytes. -/
def Addressing.word (A : Addressing) (n : ℕ) : Bytes32 := ⟨n / 2 ^ 160, A.account (n % 2 ^ 160)⟩

/-- `abi.decode` refuses an offset or length of more than 64 bits. -/
def abiSize (w : List UInt8) : Option ℕ :=
  if Abi.ofBytes w < 2 ^ 64 then some (Abi.ofBytes w) else none

/-- The URI in the composed part, past its sender. -/
def readUri (extension : List UInt8) : Option Uri :=
  if extension.length ≤ 32 then some [] else Abi.abiDecodeString 32 abiSize (extension.drop 32)

/-- How `_lzReceive` reads a message: receiver, token and URI. -/
def readPacket (A : Addressing) (dstEid : ℕ) (message : List UInt8) : Option Packet := do
  let uri ← readUri (message.drop 64)
  some ⟨dstEid, A.word (Abi.ofBytes (message.take 32)), Abi.ofBytes ((message.drop 32).take 32), uri⟩

theorem abiSize_word {n : ℕ} (h : n < 2 ^ 64) : abiSize (Abi.word n) = some n := by
  have hn : Abi.ofBytes (Abi.word n) = n := Abi.ofBytes_word (Nat.lt_trans h (by norm_num))
  rw [abiSize, hn, if_pos h]

/-- **What a composed message is read as.** -/
theorem readPacket_composed {A : Addressing} {dstEid sendTo composeFrom : ℕ} {t : TokenId} {uri : Uri}
    (hs : sendTo < 2 ^ 256) (ht : t < 2 ^ 256) (hu : uri.length < 2 ^ 64) :
    readPacket A dstEid (Svm.composed sendTo t composeFrom uri) = some ⟨dstEid, A.word sendTo, t, uri⟩ := by
  obtain ⟨hto, hid, hcompose⟩ := Svm.composed_parts sendTo t composeFrom uri
  have hlong : ¬ (Abi.word composeFrom ++ Abi.abiEncodeString uri).length ≤ 32 := by
    simp [Abi.abiEncodeString]
  have hdrop : (Abi.word composeFrom ++ Abi.abiEncodeString uri).drop 32 = Abi.abiEncodeString uri :=
    List.drop_left' (by simp)
  have huri : readUri (Abi.word composeFrom ++ Abi.abiEncodeString uri) = some uri := by
    unfold readUri
    rw [if_neg hlong, hdrop]
    exact Abi.abiDecodeString_encode (by norm_num) (abiSize_word (by norm_num)) (abiSize_word hu)
  unfold readPacket
  rw [hto, hid, hcompose, huri, Abi.ofBytes_word hs, Abi.ofBytes_word ht]
  rfl

end Evm.Bridge

/-! ## §3. Solana sends. -/

namespace Svm.Gateway

open Kargain.Accounts

/-- The message of an accepted send: any receiver, and a URI under the ceiling. -/
theorem send_message {P : Platform} {N : Network} {now : ℕ} {x : Call} {w w' : Exec}
    {dstEid sendTo nativeFee : ℕ} {t : TokenId} {options message : List UInt8}
    (h : send P N now x w dstEid sendTo t nativeFee options = .ok (w', message)) :
    ∃ uri : Text, uri.byteLen ≤ Passport.passportUriCeilingBytes ∧
      message = composed sendTo t 0 uri.bytes := by
  simp only [send, planSend, bind_ok, require_ok, revertIf_ok, pure_ok, Prod.mk.injEq,
    exists_const] at h
  obtain ⟨_, -, _, -, _, -, _, -, _, -, _, -, _, -, _, -, _, -, _, -, -, cfg, -, -, -, -, a, -, _, -, -, _,
    -, _, -, ⟨hlen, -, -⟩, _, -, _, -, -, rfl⟩ := h
  exact ⟨a.uri, Nat.not_lt.mp hlen, rfl⟩

end Svm.Gateway

/-! ## §4. Both ways. -/

open Evm.Bridge Svm.Gateway

/-- The passport of a message is on Solana as its message expects it, and the payer can pay:
    a home token is locked with the gateway, a foreign one is not there. -/
structure Matching (P : Svm.Platform) (cfg : Svm.GatewayConfig) (L : Svm.Ledger) (w : Svm.Exec)
    (m : Svm.Gateway.Message) (payer : Svm.Pubkey) : Prop where
  solvent : Svm.Solvent w.ledger payer (P.rent ((Svm.fromUtf8 m.uri).getD []) +
    P.minimumBalance Svm.Passport.passportStateSpace)
  place : if Svm.Passport.isHomeToken m.tokenId cfg.tokenNamespace = true then
      Svm.Passport.Locked L m.tokenId (Svm.configPda programId) (Svm.freezePda programId)
    else Svm.Passport.Open L m.tokenId

/-- Solana takes an authentic message about a passport that is where it should be exactly if its
    URI is text. -/
theorem taken_iff {P : Svm.Platform} {N : Network} {x : Svm.Call} {L : Svm.Ledger} {w : Svm.Exec}
    {m : Svm.Gateway.Message} {cfg : Svm.GatewayConfig} {pcfg : Svm.PassportConfig} {payer : Svm.Pubkey}
    (now : ℕ) (hd : Delivery N x L m cfg pcfg payer w) (hm : Matching P cfg L w m payer) :
    (∃ L', Svm.Gateway.execute P N now x m.received L = .ok L') ↔ (Svm.fromUtf8 m.uri).isSome := by
  obtain ⟨hpay, hplace⟩ := hm
  cases hh : Svm.Passport.isHomeToken m.tokenId cfg.tokenNamespace with
  | true =>
    rw [if_pos hh] at hplace
    exact return_iff now hd hh hplace
      ⟨hpay.owner, hpay.data, Nat.le_trans (Nat.le_add_right _ _) hpay.funds⟩
  | false =>
    rw [hh, if_neg Bool.false_ne_true] at hplace
    constructor
    · rintro ⟨L', h⟩
      obtain ⟨w', h, -⟩ := execute_received h
      obtain ⟨uri, hutf, -⟩ := (lzReceive_deliver hd).mp h
      simp [hutf]
    · intro hutf
      obtain ⟨L', h, -⟩ := (arrival_iff now hd hh hpay).mpr ⟨hutf, hplace⟩
      exact ⟨L', h⟩

/-- **Deliverability.**  What an EVM gateway sends, Solana takes exactly if the URI is text; what
    Solana sends, an EVM chain takes exactly if the low 20 bytes of the receiver are not zero. -/
theorem deliverability (A : Addressing) :
    (∀ (Q : Type) [Evm.Erc721 Q] (c c' : Chain Q) (sender : Evm.Address) (dstEid n : ℕ) (t : Evm.TokenId),
      Evm.Bridge.send c sender dstEid (A.word n) t = .ok c' →
      c'.outbox = ⟨dstEid, A.word n, t, c.tokenURI t⟩ :: c.outbox ∧
      ∀ P N now x L cfg pcfg payer w (m : Svm.Gateway.Message),
        m.sendTo = n → m.tokenId = t → m.uri = c.tokenURI t → Delivery N x L m cfg pcfg payer w →
        Matching P cfg L w m payer →
        ((∃ L', Svm.Gateway.execute P N now x m.received L = .ok L') ↔
          (Svm.fromUtf8 (c.tokenURI t)).isSome)) ∧
    ∀ P N now x w w' dstEid n t nativeFee options message, n < 2 ^ 256 → t < 2 ^ 256 →
      Svm.Gateway.send P N now x w dstEid n t nativeFee options = .ok (w', message) →
      ∃ p, readPacket A dstEid message = some p ∧
        ∀ (Q : Type) [Evm.Erc721 Q] (c : Chain Q) (k : ℕ), Awaited c p →
          ((∃ c', exec (.mk k (.lzReceive p) true []) c = .ok c') ↔ n % 2 ^ 160 ≠ 0) := by
  constructor
  · intro Q _ c c' sender dstEid n t h
    have hshell := (send_ok h).2.2.2.1
    refine ⟨congrArg Shell.outbox hshell, ?_⟩
    intro P N now x L cfg pcfg payer w m _ _ huri hd hm
    rw [← huri]
    exact taken_iff now hd hm
  · intro P N now x w w' dstEid n t nativeFee options message hn ht h
    obtain ⟨uri, hlen, hmessage⟩ := send_message h
    rw [hmessage]
    have hbytes : uri.bytes.length ≤ uriCeiling := by
      rw [Svm.Text.length_bytes]
      exact hlen
    have hsize : uri.bytes.length < 2 ^ 64 := Nat.lt_of_le_of_lt hbytes (by decide)
    refine ⟨_, readPacket_composed hn ht hsize, fun Q _ c k hc => ?_⟩
    rw [received_iff k hc hbytes]
    exact (A.account_zero _).not

/-! ## §5. On the stands. -/

/-- Numbers are accounts. -/
def standAddressing : Addressing where
  account n := if n = 0 then .zero else .account n
  account_zero n := by
    split <;> simp [*]

/-- The chain the foreign token is from. -/
def otherChain : Chain Evm.Registry := { smallChain with chainId := 2, nextTokenId := foreignToken }

theorem otherChain_deployed : Deployed otherChain where
  now_pos := by decide
  no_passport _ := rfl
  nextTokenId := by decide
  unverified _ := rfl
  unlocked _ := rfl
  no_challenge _ := rfl
  gateway := .inr rfl
  not_entered := rfl
  no_event := rfl

/-- 1 mints a passport with a URI of these bytes, and lets the gateway take it. -/
def mintingRun (uri : Uri) : List Evm.Bridge.Action :=
  [tx 1 (.mintPassport (.account 1) uri), tx 1 (.approve .gateway foreignToken)]

def minted (uri : Uri) : Chain Evm.Registry := finalState Evm.Bridge.step otherChain (mintingRun uri)

/-- 1 sends its Solana passport to receiver `n`. -/
def sendCall : Svm.Call :=
  let t := Svm.Passport.nth 1
  let keys : List Svm.Pubkey := [Svm.configPda programId, .key 1, .key 1, Svm.Passport.programId,
    Svm.configPda Svm.Passport.programId, Svm.assetPda Svm.Passport.programId t,
    Svm.statePda Svm.Passport.programId t, Svm.freezePda programId, .mplCore, .system,
    Svm.challengePda Svm.Passport.programId t]
  ⟨keys, [.key 1], keys⟩

def readyRun : List Svm.Gateway.Action := Svm.Gateway.configured ++ [Svm.Gateway.mints 1 1]

def readyState : Svm.Gateway.System :=
  finalState (Svm.Gateway.step .reference .stand) Svm.Gateway.stand readyRun

def configuredState : Svm.Gateway.System :=
  finalState (Svm.Gateway.step .reference .stand) Svm.Gateway.stand Svm.Gateway.configured

theorem stand_matching (uri : Uri) (hpay : Svm.Solvent (standCleared configuredState.ledger 1 uri).ledger
      (.key 9) (Svm.Platform.reference.rent ((Svm.fromUtf8 uri).getD []) +
        Svm.Platform.reference.minimumBalance Svm.Passport.passportStateSpace)) :
    Matching .reference standConfig configuredState.ledger (standCleared configuredState.ledger 1 uri)
      (arriving 1 uri) (.key 9) where
  solvent := hpay
  place := by
    have hforeign : ¬ Svm.Passport.isHomeToken foreignToken standConfig.tokenNamespace = true := by decide
    show if Svm.Passport.isHomeToken foreignToken _ = true then _ else _
    rw [if_neg hforeign]
    show Svm.Passport.Open configuredState.ledger foreignToken
    exact ⟨by decide +kernel, .inl (by decide +kernel)⟩

theorem configured_delivery (uri : Uri) (hu : uri.length < 2 ^ 64)
    (hc : (clearMessage .stand (receiveCall 1 foreignToken foreignToken 1)
      (Accounts.Exec.start configuredState.ledger) standConfig
      (canonical .stand standConfig (arriving 1 uri) (.key 9)) 2 7 1 0 (arriving 1 uri).bytes).isOk = true) :
    Delivery .stand (receiveCall 1 foreignToken foreignToken 1) configuredState.ledger (arriving 1 uri)
      standConfig standPassportConfig (.key 9) (standCleared configuredState.ledger 1 uri) :=
  stand_delivery 1 uri hu (by decide +kernel) ⟨by decide +kernel, by decide +kernel⟩ hc

/-- The other chain with a message at its endpoint. -/
def awaiting (p : Packet) : Chain Evm.Registry := { otherChain with inbox := [p] }

theorem awaited {p : Packet} (ht : p.tokenId = Svm.Passport.nth 1) : Awaited (awaiting p) p where
  inbox := List.mem_singleton.mpr rfl
  bound := rfl
  place := by
    have hh : (awaiting p).isHome (Svm.Passport.nth 1) = false := by
      show Evm.KarPassport.isHome 2 _ = false
      decide
    rw [ht, hh]
    rfl

/-- The message of `sendCall`, as the other chain reads it. -/
theorem sendCall_packet {w w' : Svm.Exec} {n : ℕ} {message : List UInt8} (hn : n < 2 ^ 256)
    (h : Svm.Gateway.send .reference .stand readyState.now sendCall w 2 n (Svm.Passport.nth 1) 0 [] =
      .ok (w', message)) :
    ∃ uri : Uri, uri.length ≤ uriCeiling ∧ readPacket standAddressing 2 message =
      some ⟨2, standAddressing.word n, Svm.Passport.nth 1, uri⟩ := by
  obtain ⟨uri, hlen, hmessage⟩ := send_message h
  have hbytes : uri.bytes.length ≤ uriCeiling := by
    rw [Svm.Text.length_bytes]
    exact hlen
  refine ⟨uri.bytes, hbytes, ?_⟩
  rw [hmessage]
  exact readPacket_composed hn (by decide) (Nat.lt_of_le_of_lt hbytes (by decide))

/-- **Both ways a passport is stranded.**  An EVM chain sends a passport whose URI is the byte 255,
    and Solana refuses its message; Solana sends a passport to the zero receiver, and an EVM chain
    refuses that. -/
theorem stranded :
    (Deployed otherChain ∧ ∃ c c', run Evm.Bridge.step otherChain (mintingRun [255]) = .ok c ∧
      Evm.Bridge.send c (.account 1) 2 (standAddressing.word 1) foreignToken = .ok c' ∧
      ∃ N x L cfg pcfg payer w, ∃ m : Svm.Gateway.Message, m.sendTo = 1 ∧ m.tokenId = foreignToken ∧
        m.uri = c.tokenURI foreignToken ∧ Delivery N x L m cfg pcfg payer w ∧
        Matching .reference cfg L w m payer ∧
        ¬ ∃ L', Svm.Gateway.execute .reference N 100 x m.received L = .ok L') ∧
    Svm.Gateway.Genesis stand ∧ ∃ s w' message p,
      run (Svm.Gateway.step .reference .stand) stand readyRun = .ok s ∧
      Svm.Gateway.send .reference .stand s.now sendCall (Accounts.Exec.start s.ledger) 2 0
        (Svm.Passport.nth 1) 0 [] = .ok (w', message) ∧
      readPacket standAddressing 2 message = some p ∧
      ∃ c : Chain Evm.Registry, Awaited c p ∧ ¬ ∃ c', exec (.mk 5 (.lzReceive p) true []) c = .ok c' := by
  constructor
  · obtain ⟨c', hsend⟩ := exists_of_isOk (r := Evm.Bridge.send (minted [255]) (.account 1) 2
      (standAddressing.word 1) foreignToken) (by decide +kernel)
    have hdelivery := configured_delivery [255] (by decide) (by decide +kernel)
    have hmatching := stand_matching [255]
      ⟨by decide +kernel, by decide +kernel, by decide +kernel⟩
    refine ⟨otherChain_deployed, minted [255], c', run_finalState (by decide +kernel), hsend, .stand, _,
      _, _, _, _, _, arriving 1 [255], rfl, rfl, by decide +kernel, hdelivery, hmatching, fun h => ?_⟩
    have htext : (Svm.fromUtf8 [255]).isSome = true := (taken_iff 100 hdelivery hmatching).mp h
    cases htext
  · obtain ⟨⟨w', message⟩, hsend⟩ := exists_of_isOk (r := Svm.Gateway.send .reference .stand readyState.now
      sendCall (Accounts.Exec.start readyState.ledger) 2 0 (Svm.Passport.nth 1) 0 []) (by decide +kernel)
    obtain ⟨uri, hbytes, hread⟩ := sendCall_packet (by decide) hsend
    refine ⟨stand_genesis, readyState, w', message, _, run_finalState (by decide +kernel), hsend, hread,
      awaiting _, awaited rfl, ?_⟩
    rw [received_iff 5 (awaited rfl) hbytes]
    exact fun h => h rfl

/-- A passport that goes each way. -/
theorem deliverability_stand :
    (∃ L', Svm.Gateway.execute .reference .stand 100 (receiveCall 1 foreignToken foreignToken 1)
      (arriving 1 [97]).received configuredState.ledger = .ok L') ∧
    ∃ w' message p, Svm.Gateway.send .reference .stand readyState.now sendCall
        (Accounts.Exec.start readyState.ledger) 2 3 (Svm.Passport.nth 1) 0 [] = .ok (w', message) ∧
      readPacket standAddressing 2 message = some p ∧
      ∃ c' : Chain Evm.Registry,
        exec (.mk 5 (.lzReceive p) true []) (awaiting p) = .ok c' := by
  constructor
  · obtain ⟨c', hsend⟩ := exists_of_isOk (r := Evm.Bridge.send (minted [97]) (.account 1) 2
      (standAddressing.word 1) foreignToken) (by decide +kernel)
    refine (((deliverability standAddressing).1 _ _ _ _ _ _ _ hsend).2 _ _ 100 _ _ _ _ _ _
      (arriving 1 [97]) rfl rfl (by decide +kernel) (configured_delivery [97] (by decide) (by decide +kernel))
      (stand_matching [97] ⟨by decide +kernel, by decide +kernel, by decide +kernel⟩)).mpr (by decide +kernel)
  · obtain ⟨⟨w', message⟩, hsend⟩ := exists_of_isOk (r := Svm.Gateway.send .reference .stand readyState.now
      sendCall (Accounts.Exec.start readyState.ledger) 2 3 (Svm.Passport.nth 1) 0 []) (by decide +kernel)
    obtain ⟨uri, -, hread⟩ := sendCall_packet (by decide) hsend
    obtain ⟨p, hp, htake⟩ := (deliverability standAddressing).2 _ _ _ _ _ _ _ _ _ _ _ _ (by decide)
      (by decide) hsend
    have ht : p.tokenId = Svm.Passport.nth 1 := by
      obtain rfl := Option.some.inj (hread.symm.trans hp)
      rfl
    exact ⟨w', message, p, hsend, hp, (htake _ _ 5 (awaited ht)).mpr (by decide)⟩

end Kargain
