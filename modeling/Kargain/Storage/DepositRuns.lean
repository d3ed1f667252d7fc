/-
  Kargain.Storage.DepositRuns — every run of deposits under the law.

  One lemma for each function of the code says from what is known before
  it that it keeps the invariant, and what is known when it ends.  What is
  known at a point of a call has to outlive whatever happens while a
  request waits: those are the `steady` lemmas.  The last theorem puts
  them together for a whole run; a run in which the wallet fails after it
  has sent follows it.
-/
import Kargain.Storage.DepositLaw

namespace Kargain.Storage

/-! ### What is known at the points of a call -/

/-- A record under `key` is of `hash`. -/
def Named (key : String) (hash : TxId) (w : World) : Prop :=
  ∀ e ∈ w.store, e.1 = key → ∀ h, e.2.txId = some h → h = hash

def AllOver (w : World) : Prop := ∀ t ∈ transfers w.log, Over w.log t

/-- `t` is on the wire, every other transfer over. -/
def NewTransfer (t : TxId) (w : World) : Prop :=
  t ∈ transfers w.log ∧ ∀ t' ∈ transfers w.log, t' ≠ t → Over w.log t'

def AllClosed (w : World) : Prop := ∀ hash ∈ recorded w.store, Closed w.log hash

/-- The transfers under `hash` are known, and are dead or accepted. -/
def Settled (hash : TxId) (w : World) : Prop := Known w.log hash ∧ Closed w.log hash

section Points

variable {lib : Libraries} {key : String} {hash t : TxId}

abbrev Steady (lib : Libraries) (P : World → Prop) : Prop :=
  Dialogue.Stable (outside lib) fair Inv P

theorem steady_known : Steady lib fun w => Known w.log hash :=
  stable_of (fun _ _ _ _ h => h.mono) fun _ _ _ _ h => h

theorem steady_price {p : Option ℤ} : Steady lib fun w => w.price = p :=
  stable_of (fun _ _ _ _ h => h) fun _ _ _ _ h => h

theorem steady_unrecorded {o : Option TxId} : Steady lib fun w => w.unrecorded = o :=
  stable_of (fun _ _ _ _ h => h) fun _ _ _ _ h => h

theorem steady_named : Steady lib (Named key hash) := by
  apply stable_of
  · intro w e _ _ h
    exact h
  · intro w store _ hsub h e he hkey h' hh
    exact h e (hsub e he h' hh) hkey h' hh

theorem steady_allOver : Steady lib AllOver := by
  apply stable_of
  · intro w e _ he h t ht
    exact (h t (he.transfers ▸ ht)).mono
  · intro w store _ _ h
    exact h

theorem steady_new : Steady lib (NewTransfer t) := by
  apply stable_of
  · rintro w e _ he ⟨ht, hrest⟩
    refine ⟨?_, ?_⟩
    · show t ∈ transfers (e :: w.log)
      rw [he.transfers]
      exact ht
    · intro t' ht' hne
      exact (hrest t' (he.transfers ▸ ht') hne).mono
  · intro w store _ _ h
    exact h

theorem steady_allClosed : Steady lib AllClosed := by
  apply stable_of
  · intro w e hi he h hash hmem
    obtain ⟨r, hr, hh⟩ := recorded_iff.mp hmem
    exact he.closed (hi.known r hr hash hh).mem_hashes (h hash hmem)
  · intro w store _ hsub h hash hmem
    obtain ⟨r, hr, hh⟩ := recorded_iff.mp hmem
    exact h hash (recorded_iff.mpr ⟨r, hsub r hr hash hh, hh⟩)

theorem steady_settled : Steady lib (Settled hash) := by
  apply stable_of
  · rintro w e _ he ⟨hknown, h⟩
    exact ⟨hknown.mono, he.closed hknown.mem_hashes h⟩
  · intro w store _ _ h
    exact h

/-- The transfers under `old` go under `hash` too. -/
theorem steady_follows {old : TxId} : Steady lib fun w => Known w.log old ∧
    ∀ t ∈ transfers w.log, Carries w.log t old → Carries w.log t hash := by
  apply stable_of
  · rintro w e _ he ⟨hknown, h⟩
    refine ⟨hknown.mono, ?_⟩
    intro t ht hc
    exact (h t (he.transfers ▸ ht) (he.carries hknown.mem_hashes hc)).mono
  · intro w store _ _ h
    exact h

/-! ### The ports -/

/-- Work that keeps the law, whatever it throws. -/
abbrev Does {α : Type} (lib : Libraries) (P : World → Prop) (x : Async α)
    (Post : α → World → Prop) : Prop :=
  Dialogue.Goes (outside lib) fair Inv P x Post fun _ _ => True

variable {P : World → Prop}

/-- A request that leaves the outside as it is; `next` reads the reply as a value or a throw. -/
theorem does_ask {α : Type} {q : Request} {Post : α → World → Prop}
    (next : Reply q → Except Thrown α) (hs : Steady lib P)
    (hq : ∀ w v r, World.answer lib w q r = some v → v = w)
    (hpost : ∀ r w a, next r = .ok a → P w → fairReply w q r → Post a w) :
    Does lib P (ExceptT.mk (Dialogue.ask q fun r => .done (next r))) Post := by
  apply Dialogue.Goes.mk
  have hrequest : Dialogue.Holds (outside lib) fair Inv P (Dialogue.request q)
      fun r w => P w ∧ fairReply w q r := by
    apply Dialogue.Holds.request inv_stable hs
    intro w r v hi hp hfair hv
    obtain rfl : v = w := hq w v r hv
    exact ⟨hi, hp, hfair⟩
  apply Dialogue.Holds.bind hrequest (f := fun r => .done (next r))
  intro r
  apply Dialogue.Holds.pure
  rintro w ⟨hp, hfair⟩
  cases hr : next r with
  | ok a => exact hpost r w a hr hp hfair
  | error e => trivial

theorem does_getBalance (hs : Steady lib P) :
    Does lib P getBalance fun raw w => P w ∧ (covers w raw = true → AllClosed w) := by
  apply does_ask (q := .getBalance) (fun r => r) hs
  · intro w v r h
    cases h
    rfl
  · intro r w a hr hp hfair
    subst hr
    exact ⟨hp, hfair⟩

theorem does_getBundlerAddress {token : String} (hs : Steady lib P) :
    Does lib P (getBundlerAddress token) fun _ => P :=
  does_ask (q := .getBundlerAddress token) (fun r => r) hs (fun _ _ _ h => by cases h; rfl)
    fun _ _ _ _ hp _ => hp

theorem does_fetchBlockhash (hs : Steady lib P) : Does lib P fetchBlockhash fun _ => P :=
  does_ask (q := .fetchBlockhash) (fun r => r) hs (fun _ _ _ h => by cases h; rfl)
    fun _ _ _ _ hp _ => hp

theorem does_switchChain {chainId : ℕ} (hs : Steady lib P) :
    Does lib P (switchChain chainId) fun _ => P :=
  does_ask (q := .switchChain chainId) (fun r => r) hs (fun _ _ _ h => by cases h; rfl)
    fun _ _ _ _ hp _ => hp

theorem does_readEvmAccountKind {chainId : ℕ} {address : String} (hs : Steady lib P) :
    Does lib P (readEvmAccountKind chainId address) fun _ => P :=
  does_ask (q := .readEvmAccountKind chainId address) (fun r => r) hs
    (fun _ _ _ h => by cases h; rfl) fun _ _ _ _ hp _ => hp

theorem does_dateNow (hs : Steady lib P) : Does lib P dateNow fun _ => P :=
  does_ask (q := .dateNow) (fun r => .ok r) hs (fun _ _ _ h => by cases h; rfl)
    fun _ _ _ _ hp _ => hp

/-- A verdict that a transfer is dead is one of a dead transfer. -/
theorem does_confirmSvmFunding {height : ℕ} (hs : Steady lib P) :
    Does lib P (confirmSvmFunding hash height) fun outcome w => P w ∧
      (outcome = .expired ∨ outcome = .landedWithError → AllDead w.log hash) := by
  apply does_ask (q := .confirmSvmFunding hash height) (fun r => r) hs
  · intro w v r h
    cases h
    rfl
  · intro r w outcome hr hp hfair
    subst hr
    refine ⟨hp, ?_⟩
    rintro (rfl | rfl)
    · exact hfair
    · exact hfair

/-- A wait ends with a dead transfer, or with the hash the transfer goes under. -/
def Waited (txHash : TxId) (w : World) : EvmDepositConfirmOutcome → Prop
  | .confirmed final => ∀ t ∈ transfers w.log, Carries w.log t txHash → Carries w.log t final
  | .cancelled => AllDead w.log txHash
  | .diverted _ => AllDead w.log txHash
  | .timeout => True

theorem does_waitEvmConfirmations {depth chainId : ℕ} {expectedTo : String} (hs : Steady lib P) :
    Does lib P (waitEvmConfirmations hash depth expectedTo chainId) fun outcome w =>
      P w ∧ Waited hash w outcome := by
  apply does_ask (q := .waitEvmConfirmations hash depth expectedTo chainId) (fun r => r) hs
  · intro w v r h
    cases h
    rfl
  · intro r w outcome hr hp hfair
    subst hr
    refine ⟨hp, ?_⟩
    cases outcome <;> exact hfair

/-- What the bundler accepts, the transfers under it are accepted. -/
theorem does_postBundlerDeposit {url token : String} :
    Does lib (fun w => Named key hash w ∧ Known w.log hash) (postBundlerDeposit url token hash)
      fun posted w => posted = .accepted → Named key hash w ∧ Settled hash w := by
  apply Dialogue.Goes.mk
  apply Dialogue.Holds.request inv_stable (steady_named.and steady_known)
  rintro w r v hi ⟨hnamed, hknown⟩ - hv
  cases r with
  | error e =>
    cases hv
    exact ⟨hi, trivial⟩
  | ok posted =>
    cases posted with
    | accepted =>
      cases hv
      refine ⟨hi.foreign (.plain (by simp) (by simp)) trivial, ?_⟩
      intro _
      refine ⟨hnamed, hknown.mono, ?_⟩
      intro t ht hc
      refine .inr ⟨hash, ?_, hc⟩
      exact mem_acceptances.mpr (List.mem_cons_self ..)
    | notSeenYet =>
      cases hv
      exact ⟨hi, fun h => by cases h⟩
    | bundlerUnavailable =>
      cases hv
      exact ⟨hi, fun h => by cases h⟩

end Points

section Storing

variable {lib : Libraries} {key : String} {hash t : TxId} {P : World → Prop}

/-- What is under `key` may be removed when it names no transfer that matters. -/
theorem does_clear (hs : Steady lib P)
    (hclosed : ∀ w, P w → ∀ e ∈ w.store, e.1 = key → ∀ h, e.2.txId = some h → Closed w.log h) :
    Does lib P (removeQuietly key) fun _ _ => True := by
  apply Dialogue.Goes.tryCatch (E := fun _ _ => True)
  · apply Dialogue.Goes.mk
    apply Dialogue.Holds.request inv_stable hs
    intro w r v hi hp _ hv
    cases r with
    | ok _ =>
      cases hv
      exact ⟨hi.removes (hclosed w hp), trivial⟩
    | error e =>
      cases hv
      exact ⟨hi, trivial⟩
  · intro e
    apply Dialogue.Goes.pure
    intro _ _
    trivial

theorem does_clear_settled :
    Does lib (fun w => Named key hash w ∧ Settled hash w) (clearIrysDepositRecord key)
      fun _ _ => True := by
  apply does_clear (steady_named.and steady_settled)
  rintro w ⟨hnamed, -, hclosed⟩ e he hkey h hh
  obtain rfl := hnamed e he hkey h hh
  exact hclosed

theorem does_clear_all : Does lib AllClosed (clearIrysDepositRecord key) fun _ _ => True := by
  apply does_clear steady_allClosed
  intro w hall e he _ h hh
  exact hall h (recorded_iff.mpr ⟨e, he, hh⟩)

theorem stringify_txId (record : IrysDepositRecord) :
    record.stringify.txId = some (recordTxId record) := by
  cases record with
  | evm txHash amount createdAt =>
    have htext : some Vm.evm.text ≠ some Vm.svm.text := by decide
    show Fields.txId _ = _
    unfold Fields.txId
    rw [if_neg htext]
    rfl
  | svm signature lastValid amount createdAt => rfl

theorem isNonEmptyString_eq {o : Option String} {v : String} (h : isNonEmptyString o = some v) :
    o = some v := by
  cases o with
  | none => cases h
  | some u =>
    simp only [isNonEmptyString, Option.ite_none_left_eq_some] at h
    exact h.2

/-- An object that reads as a record names the transaction of the record. -/
theorem parse_txId {f : Fields} {vm : Vm} {record : IrysDepositRecord}
    (h : parseRecordForVm lib f vm = some record) : f.txId = some (recordTxId record) := by
  unfold parseRecordForVm at h
  simp only [Option.bind_eq_bind, Option.bind_eq_some_iff] at h
  obtain ⟨amount, -, createdAt, -, h⟩ := h
  split at h
  · cases h
  · rename_i hvm
    have hvm : f.vm = some vm.text := by simpa using hvm
    unfold Fields.txId
    rw [hvm]
    cases vm with
    | evm =>
      obtain ⟨txHash, htx, h⟩ := Option.bind_eq_some_iff.mp h
      split at h
      · cases h
      · cases h
        rw [if_neg (by decide)]
        exact isNonEmptyString_eq htx
    | svm =>
      obtain ⟨signature, hsig, h⟩ := Option.bind_eq_some_iff.mp h
      split at h
      · cases h
      · obtain ⟨lastValid, -, h⟩ := Option.bind_eq_some_iff.mp h
        split at h
        · cases h
        · cases h
          exact isNonEmptyString_eq hsig

/-- The record of `hash` is written where that forgets no transfer. -/
theorem does_writeRecord {record : IrysDepositRecord} {p : Option ℤ} (hkey : key ≠ probeKey)
    (hrecord : recordTxId record = hash) (hs : Steady lib P)
    (hover : ∀ w, P w → ∀ e ∈ w.store, e.1 = key → ∀ old, e.2.txId = some old →
      ∀ t ∈ transfers w.log, Carries w.log t old →
        Over w.log t ∨ Accepted w.log t ∨ Carries w.log t hash) :
    Does lib (fun w => w.price = p ∧ P w ∧ Known w.log hash) (writeIrysDepositRecord key record)
      fun written w => written = true → w.price = p ∧ Named key hash w ∧ Known w.log hash := by
  have htx : record.stringify.txId = some hash := by
    rw [stringify_txId, hrecord]
  apply Dialogue.Goes.tryCatch (E := fun _ _ => True)
  · apply Dialogue.Goes.bind
      (M := fun _ w => w.price = p ∧ Named key hash w ∧ Known w.log hash)
    · apply Dialogue.Goes.mk
      apply Dialogue.Holds.request inv_stable (steady_price.and (hs.and steady_known))
      rintro w r v hi ⟨hprice, hp, hk⟩ - hv
      cases r with
      | ok _ =>
        cases hv
        refine ⟨hi.writes hkey htx hk (hover w hp), hprice, ?_, hk⟩
        intro e he hsame h hh
        rcases Store.mem_set.mp he with rfl | ⟨-, hne⟩
        · exact Option.some.inj (hh.symm.trans htx)
        · exact absurd hsame hne
      | error e =>
        cases hv
        exact ⟨hi, trivial⟩
    · intro _
      apply Dialogue.Goes.pure
      intro w h _
      exact h
  · intro e
    apply Dialogue.Goes.pure
    intro w _ h
    cases h

/-- A lookup in vain means that every transfer is over; a record found is what is under `key`. -/
theorem does_readRecord {vm : Vm} {p : Option ℤ} :
    Does lib (fun w => w.price = p ∧ w.unrecorded = none) (readIrysDepositRecord lib key vm)
      fun read w => w.price = p ∧ (read = .absent → AllOver w) ∧
        ∀ record, read = .record record → Named key (recordTxId record) w ∧
          Known w.log (recordTxId record) := by
  apply Dialogue.Goes.tryCatch (E := fun _ w => w.price = p)
  · apply Dialogue.Goes.bind (M := fun value w => w.price = p ∧ (value = none → AllOver w) ∧
      ∀ v, value = some v → (key, v) ∈ w.store ∧ Inv w)
    · apply Dialogue.Goes.mk
      apply Dialogue.Holds.request inv_stable (steady_price.and steady_unrecorded)
      rintro w r u hi ⟨hprice, hunrecorded⟩ hfair hu
      cases r with
      | error e =>
        cases hu
        exact ⟨hi, hprice⟩
      | ok value =>
        have hu : (if value = w.store.get key then some w else none) = some u := hu
        split at hu
        · rename_i hvalue
          cases hu
          refine ⟨hi, hprice, ?_, ?_⟩
          · rintro rfl t ht
            obtain ⟨haccepted, hended⟩ := hfair
            rcases hi.covered t ht with h | h | ⟨e, he, hash, hh, hc⟩ | h
            · exact h
            · exact haccepted t ht h
            · exact hended hash (recorded_iff.mpr ⟨e, he, hh⟩) t ht hc
            · rw [hunrecorded] at h
              cases h
          · rintro v rfl
            exact ⟨(Store.get_eq_some hi.keyed).mp hvalue.symm, hi⟩
        · cases hu
    · intro value
      apply Dialogue.Goes.pure
      rintro w ⟨hprice, habsent, hsome⟩
      refine ⟨hprice, ?_, ?_⟩
      · intro hread
        apply habsent
        cases value with
        | none => rfl
        | some v =>
          unfold readRecord at hread
          cases v with
          | unparseable text => cases hread
          | fields f =>
            simp only at hread
            split at hread <;> cases hread
      · intro record hread
        cases value with
        | none => cases hread
        | some v =>
          obtain ⟨hmem, hi⟩ := hsome v rfl
          have htx : v.txId = some (recordTxId record) := by
            unfold readRecord at hread
            cases v with
            | unparseable text => cases hread
            | fields f =>
              simp only at hread
              split at hread
              · rename_i parsed hparse
                cases hread
                exact parse_txId hparse
              · cases hread
          refine ⟨?_, hi.known _ hmem _ htx⟩
          intro e he hkey h hh
          obtain rfl : e = (key, v) := hi.keyed.unique he hmem hkey
          exact Option.some.inj (hh.symm.trans htx)
  · intro e
    apply Dialogue.Goes.pure
    intro w hprice
    refine ⟨hprice, ?_, ?_⟩
    · intro h
      cases h
    · intro record h
      cases h

end Storing

/-! ### A call -/

section Calls

variable {lib : Libraries} {key : String} {hash t : TxId} {P : World → Prop} {p : ℤ}
  {args : EnsureArgs}

/-- Work that keeps the law. -/
abbrev Fine {α : Type} (lib : Libraries) (P : World → Prop) (x : Async α) : Prop :=
  Does lib P x fun _ _ => True

theorem fine_pure {α : Type} {a : α} : Fine lib P (pure a : Async α) := by
  apply Dialogue.Goes.pure
  intro _ _
  trivial

/-- A balance that covers the price says that every record is closed. -/
theorem does_parseBalance {raw : String} :
    Does lib (fun w => (w.price = some p ∧ P w) ∧ (covers w raw = true → AllClosed w))
      (ExceptT.mk (pure (parseAtomicAmount raw)))
      fun balance w => (balance ≥ p → AllClosed w) ∧ w.price = some p ∧ P w := by
  refine (Dialogue.Goes.ofExcept fun _ _ _ => trivial).imp (fun _ h => h) ?_ fun _ _ h => h
  rintro balance w ⟨hparse, ⟨hprice, hp⟩, hcovers⟩
  refine ⟨?_, hprice, hp⟩
  intro hle
  apply hcovers
  unfold covers
  rw [hparse, hprice]
  exact decide_eq_true hle

theorem fine_postDeposit :
    Fine lib (fun w => Named key hash w ∧ Known w.log hash) (postDeposit args key p hash) := by
  apply Dialogue.Goes.bind does_postBundlerDeposit
  intro posted
  cases posted with
  | accepted =>
    apply Dialogue.Goes.bind (M := fun _ _ => True)
    · exact does_clear_settled.pre fun w h => h rfl
    · intro _
      apply Dialogue.Goes.bind (M := fun _ _ => True)
      · apply Dialogue.Goes.imp (does_getBalance Dialogue.Stable.const) (fun _ h => h)
        · intro _ _ _
          trivial
        · intro _ _ h
          exact h
      · intro raw
        apply Dialogue.Goes.bind (M := fun _ _ => True)
        · exact (Dialogue.Goes.ofExcept fun _ _ _ => trivial).imp (fun _ h => h)
            (fun _ _ _ => trivial) fun _ _ h => h
        · intro after
          apply Dialogue.Goes.ite
          · intro _
            exact fine_pure
          · intro _
            exact fine_pure
  | notSeenYet => exact fine_pure
  | bundlerUnavailable => exact fine_pure

/-- A transfer known dead: its record goes, and the call is refused. -/
theorem fine_dead {result : IrysDepositResult} :
    Fine lib (fun w => (Named key hash w ∧ Known w.log hash) ∧ AllDead w.log hash)
      (do clearIrysDepositRecord key; pure result) := by
  apply Dialogue.Goes.bind (M := fun _ _ => True)
  · apply does_clear_settled.pre
    rintro w ⟨⟨hnamed, hknown⟩, hdead⟩
    exact ⟨hnamed, hknown, hdead.closed⟩
  · intro _
    exact fine_pure

theorem fine_resolveSvm {record : IrysDepositRecord} (hrecord : recordTxId record = hash) :
    Fine lib (fun w => Named key hash w ∧ Known w.log hash) (resolveSvm args key p record) := by
  cases record with
  | evm _ _ _ => exact fine_pure
  | svm signature height _ _ =>
    have hsig : signature = hash := hrecord
    subst hsig
    apply Dialogue.Goes.bind (does_confirmSvmFunding (steady_named.and steady_known))
    intro outcome
    cases outcome with
    | expired => exact fine_dead.pre fun w h => ⟨h.1, h.2 (.inl rfl)⟩
    | landedWithError => exact fine_dead.pre fun w h => ⟨h.1, h.2 (.inr rfl)⟩
    | statusUnknown => exact fine_pure
    | landedOk => exact fine_postDeposit.pre fun w h => h.1

/-- What is known while the transfer of the record under `key` is waited for. -/
def Pending (key : String) (txHash : TxId) (p : ℤ) (w : World) : Prop :=
  w.price = some p ∧ Named key txHash w ∧ Known w.log txHash

theorem steady_pending : Steady lib (Pending key hash p) :=
  steady_price.and (steady_named.and steady_known)

theorem fine_followHash {txHash amount : String} {createdAt : ℕ} (hkey : key ≠ probeKey) :
    Fine lib (fun w => Pending key txHash p w ∧
        ∀ t ∈ transfers w.log, Carries w.log t txHash → Carries w.log t hash)
      (followHash args key p txHash amount createdAt hash) := by
  apply Dialogue.Goes.ite
  · intro _
    have hs : Steady lib fun w => Named key txHash w ∧ Known w.log txHash ∧
        ∀ t ∈ transfers w.log, Carries w.log t txHash → Carries w.log t hash :=
      steady_named.and steady_follows
    have hover : ∀ w, (Named key txHash w ∧ Known w.log txHash ∧
        ∀ t ∈ transfers w.log, Carries w.log t txHash → Carries w.log t hash) →
        ∀ e ∈ w.store, e.1 = key → ∀ old, e.2.txId = some old →
          ∀ t ∈ transfers w.log, Carries w.log t old →
            Over w.log t ∨ Accepted w.log t ∨ Carries w.log t hash := by
      rintro w ⟨hnamed, -, hfollows⟩ e he hsame old hold t ht hc
      obtain rfl := hnamed e he hsame old hold
      exact .inr (.inr (hfollows t ht hc))
    have hrecord : recordTxId (.evm hash amount createdAt) = hash := rfl
    have hwrite := does_writeRecord (p := some p) hkey hrecord hs hover
    apply Dialogue.Goes.bind (hwrite.pre _)
    · intro written
      apply Dialogue.Goes.ite
      · intro hwritten
        exact fine_postDeposit.pre fun w h => (h hwritten).2
      · intro _
        exact fine_pure
    · rintro w ⟨⟨hprice, hnamed, hknown⟩, hfollows⟩
      refine ⟨hprice, ⟨hnamed, hknown, hfollows⟩, ?_⟩
      obtain ⟨t, ht, hc⟩ := hknown
      exact ⟨t, ht, hfollows t ht hc⟩
  · intro hsame
    have hsame : hash = txHash := by simpa using hsame
    subst hsame
    exact fine_postDeposit.pre fun w h => h.1.2

theorem does_waitConfirmed {depth : ℕ} {expectedTo : String} (hs : Steady lib P) :
    Does lib P (waitConfirmed args hash depth expectedTo) fun r w =>
      ∀ outcome, r = .ok outcome → P w ∧ Waited hash w outcome := by
  apply Dialogue.Goes.tryCatch (E := fun _ _ => True)
  · apply Dialogue.Goes.bind (does_waitEvmConfirmations hs)
    intro outcome
    apply Dialogue.Goes.pure
    rintro w h _ ⟨⟩
    exact h
  · intro e
    apply Dialogue.Goes.pure
    intro w _ outcome h
    cases h

theorem fine_resolveEvm {record : IrysDepositRecord} {bundlerAddress : String}
    (hkey : key ≠ probeKey) (hrecord : recordTxId record = hash) :
    Fine lib (Pending key hash p) (resolveEvm lib args key p bundlerAddress record) := by
  cases record with
  | svm _ _ _ _ => exact fine_pure
  | evm txHash amount createdAt =>
    have htx : txHash = hash := hrecord
    subst htx
    unfold resolveEvm
    cases readIrysEvmMinConfirm args with
    | none => exact fine_pure
    | some depth =>
      apply Dialogue.Goes.ite
      · intro _
        exact fine_pure
      · intro _
        apply Dialogue.Goes.ite
        · intro _
          exact fine_pure
        · intro _
          apply Dialogue.Goes.bind (does_waitConfirmed steady_pending)
          intro r
          cases r with
          | error refusal => exact fine_pure
          | ok outcome =>
            cases outcome with
            | cancelled =>
              apply fine_dead.pre
              intro w h
              obtain ⟨hpending, hdead⟩ := h _ rfl
              exact ⟨hpending.2, hdead⟩
            | diverted replacement =>
              apply fine_dead.pre
              intro w h
              obtain ⟨hpending, hdead⟩ := h _ rfl
              exact ⟨hpending.2, hdead⟩
            | timeout => exact fine_pure
            | confirmed final => exact (fine_followHash hkey).pre fun w h => h _ rfl

theorem fine_resolveOpenRecord {record : IrysDepositRecord} {bundlerAddress : String}
    (hkey : key ≠ probeKey) (hrecord : recordTxId record = hash) :
    Fine lib (Pending key hash p)
      (resolveOpenRecord lib args record key p bundlerAddress) := by
  apply Dialogue.Goes.bind (does_getBalance steady_pending)
  intro raw
  apply Dialogue.Goes.bind (M := fun balance w =>
    (balance ≥ p → AllClosed w) ∧ Pending key hash p w)
  · exact does_parseBalance
  · intro balance
    apply Dialogue.Goes.ite
    · intro hle
      apply Dialogue.Goes.bind (M := fun _ _ => True)
      · exact does_clear_all.pre fun w h => h.1 hle
      · intro _
        exact fine_pure
    · intro _
      cases args.stack.vm with
      | svm => exact (fine_resolveSvm hrecord).pre fun w h => h.2.2
      | evm => exact (fine_resolveEvm hkey hrecord).pre fun w h => h.2

/-! ### A new transfer -/

theorem irysDepositRecordKey_ne_probe {ns : ℕ} {payer bundlerAddress : String} :
    irysDepositRecordKey ns payer bundlerAddress ≠ probeKey := by
  intro h
  have hbar : '|' ∈ (irysDepositRecordKey ns payer bundlerAddress).toList := by
    unfold irysDepositRecordKey
    simp
  rw [h] at hbar
  revert hbar
  decide

/-- No transfer matters, and the price is known. -/
def Clear (p : ℤ) (w : World) : Prop := w.price = some p ∧ AllOver w

theorem steady_clear : Steady lib (Clear p) := steady_price.and steady_allOver

/-- Work of the probe, which leaves things as they are even where it throws. -/
abbrev Probing {α : Type} (lib : Libraries) (p : ℤ) (x : Async α) : Prop :=
  Dialogue.Goes (outside lib) fair Inv (Clear p) x (fun _ => Clear p) fun _ => Clear p

theorem probing_set {value : Stored} (hvalue : value.txId = none) :
    Probing lib p (setItem probeKey value) := by
  apply Dialogue.Goes.mk
  apply Dialogue.Holds.request inv_stable steady_clear
  intro w r v hi hclear _ hv
  cases r with
  | error e =>
    cases hv
    exact ⟨hi, hclear⟩
  | ok _ =>
    have hv : some (w.writes probeKey value) = some v := hv
    have hwrites : w.writes probeKey value = { w with store := w.store.set probeKey value } := by
      unfold World.writes
      rw [hvalue]
      split
      · rename_i hnone
        rw [← hnone]
      · rfl
    rw [hwrites] at hv
    cases hv
    refine ⟨hi.setPlain hvalue ?_, hclear⟩
    intro e he hkey old hold
    rw [hi.probe e he hkey] at hold
    cases hold

theorem probing_get : Probing lib p (getItem probeKey) := by
  apply Dialogue.Goes.mk
  apply Dialogue.Holds.request inv_stable steady_clear
  intro w r v hi hclear _ hv
  cases r with
  | error e =>
    cases hv
    exact ⟨hi, hclear⟩
  | ok value =>
    have hv : (if value = w.store.get probeKey then some w else none) = some v := hv
    rw [Option.ite_none_right_eq_some] at hv
    obtain ⟨-, hv⟩ := hv
    cases hv
    exact ⟨hi, hclear⟩

theorem probing_remove : Probing lib p (removeItem probeKey) := by
  apply Dialogue.Goes.mk
  apply Dialogue.Holds.request inv_stable steady_clear
  intro w r v hi hclear _ hv
  cases r with
  | error e =>
    cases hv
    exact ⟨hi, hclear⟩
  | ok _ =>
    cases hv
    refine ⟨hi.removes ?_, ?_⟩
    · intro e he hkey h hh
      rw [hi.probe e he hkey] at hh
      cases hh
    · have hlog : (w.store.get probeKey).bind Stored.txId = none := by
        cases hget : w.store.get probeKey with
        | none => rfl
        | some v => exact hi.probe _ ((Store.get_eq_some hi.keyed).mp hget) rfl
      unfold World.removes
      rw [hlog]
      exact hclear

/-- The probe writes and removes a text that names no transfer. -/
theorem does_probe :
    Does lib (Clear p) probeIrysDepositRecordStoreWritable fun _ => Clear p := by
  apply Dialogue.Goes.bind (does_dateNow steady_clear)
  intro now
  apply Dialogue.Goes.tryCatch (E := fun _ => Clear p)
  · apply Dialogue.Goes.bind (probing_set rfl)
    intro _
    apply Dialogue.Goes.bind probing_get
    intro read
    apply Dialogue.Goes.bind probing_remove
    intro _
    apply Dialogue.Goes.pure
    intro w h
    exact h
  · intro e
    apply Dialogue.Goes.bind (M := fun _ => Clear p)
    · apply Dialogue.Goes.tryCatch probing_remove
      intro e
      apply Dialogue.Goes.pure
      intro w h
      exact h
    · intro _
      apply Dialogue.Goes.pure
      intro w h
      exact h

/-- A transfer that a wallet puts on the wire while every other is over. -/
theorem Inv.sends {w v : World} {broadcast named : Option TxId} (hi : Inv w) (hover : AllOver w)
    (h : w.sends broadcast named = some v) :
    Inv v ∧ v.price = w.price ∧ ∀ t, named = some t → NewTransfer t v := by
  cases broadcast with
  | none =>
    simp only [World.sends, Option.ite_none_right_eq_some, Option.some.injEq] at h
    obtain ⟨rfl, rfl⟩ := h
    refine ⟨hi, rfl, ?_⟩
    intro t ht
    cases ht
  | some t =>
    simp only [World.sends, Option.ite_none_right_eq_some, Option.some.injEq] at h
    obtain ⟨⟨hnamed, -⟩, rfl⟩ := h
    have hsent : Inv { w with log := .sent t :: w.log, unrecorded := some t } := by
      refine ⟨⟨hover, hi.lawful⟩, hi.keyed, ?_, hi.probe, ?_⟩
      · intro e he hash hh
        exact (hi.known e he hash hh).mono
      · intro t' ht'
        have ht' : t' ∈ t :: transfers w.log := ht'
        rcases List.mem_cons.mp ht' with rfl | hold
        · exact .inr (.inr (.inr rfl))
        · exact .inl (hover t' hold).mono
    refine ⟨hsent, rfl, ?_⟩
    intro t' ht'
    obtain rfl : t' = t := by
      rcases hnamed with hnone | hsome
      · rw [hnone] at ht'
        cases ht'
      · exact Option.some.inj (ht'.symm.trans hsome)
    refine ⟨List.mem_cons_self .., ?_⟩
    intro t hmem hne
    have hmem : t ∈ t' :: transfers w.log := hmem
    rcases List.mem_cons.mp hmem with rfl | hold
    · exact absurd rfl hne
    · exact (hover t hold).mono

/-- A transfer is on the wire, and the price is known. -/
def Sent (t : TxId) (p : ℤ) (w : World) : Prop := w.price = some p ∧ NewTransfer t w

theorem steady_sent : Steady lib (Sent t p) := steady_price.and steady_new

theorem does_sendEvmTransaction {recipient : String} {value : ℤ} {chainId : ℕ} :
    Does lib (Clear p) (sendEvmTransaction recipient value chainId) fun reply w =>
      ∀ t, reply.outcome = .ok t → Sent t p w := by
  apply Dialogue.Goes.lift
  apply Dialogue.Holds.request inv_stable steady_clear
  rintro w r v hi ⟨hprice, hover⟩ - hv
  obtain ⟨hv, hp, hsent⟩ := hi.sends hover hv
  refine ⟨hv, ?_⟩
  intro t ht
  refine ⟨hp.trans hprice, hsent t ?_⟩
  rw [ht]
  rfl

theorem does_signAndSendTransaction {sender recipient blockhash chain : String} {lamports : ℤ} :
    Does lib (Clear p) (signAndSendTransaction sender recipient lamports blockhash chain)
      fun reply w => ∀ bytes t, reply.outcome = .ok bytes → signatureText lib bytes = .ok t →
        Sent t p w := by
  apply Dialogue.Goes.lift
  apply Dialogue.Holds.request inv_stable steady_clear
  rintro w r v hi ⟨hprice, hover⟩ - hv
  obtain ⟨hv, hp, hsent⟩ := hi.sends hover hv
  refine ⟨hv, ?_⟩
  intro bytes t hbytes ht
  refine ⟨hp.trans hprice, hsent t ?_⟩
  rw [hbytes]
  simp only [ht]
  rfl

end Calls

section Sending

variable {lib : Libraries} {key : String} {p : ℤ} {args : EnsureArgs} {needed : ℤ}
  {bundlerAddress : String}

/-- What comes of paying: a refusal, or the record of the transfer on the wire. -/
def Paid (p : ℤ) (r : Except IrysDepositResult IrysDepositRecord) (w : World) : Prop :=
  ∀ record, r = .ok record → Sent (recordTxId record) p w

theorem paid_refused {P : World → Prop} {refusal : IrysDepositResult} :
    Does lib P (pure (.error refusal) : Async _) (Paid p) := by
  apply Dialogue.Goes.pure
  intro w _ record h
  cases h

theorem does_sendSvmNativeTransfer {sender recipient : String} {lamports : ℤ} :
    Does lib (Clear p) (sendSvmNativeTransfer lib args.stack sender recipient lamports)
      fun r w => ∀ signature height, r = .ok (signature, height) → Sent signature p w := by
  have hrefused : ∀ {P : World → Prop} {refusal : IrysDepositResult},
      Does lib P (pure (.error refusal) : Async (Except IrysDepositResult (TxId × ℕ)))
        fun r w => ∀ signature height, r = .ok (signature, height) → Sent signature p w := by
    intro P refusal
    apply Dialogue.Goes.pure
    intro w _ signature height h
    cases h
  unfold sendSvmNativeTransfer
  cases transferChain args.stack sender lamports with
  | error cause => exact hrefused
  | ok chain =>
    apply Dialogue.Goes.bind (does_fetchBlockhash steady_clear)
    intro fetched
    cases fetched with
    | error cause => exact hrefused
    | ok lifetime =>
      apply Dialogue.Goes.ite
      · intro _
        exact hrefused
      · intro _
        apply Dialogue.Goes.ite
        · intro _
          exact hrefused
        · intro _
          apply Dialogue.Goes.bind does_signAndSendTransaction
          rintro ⟨outcome, broadcast⟩
          cases outcome with
          | error e =>
            cases e with
            | walletRejection => exact hrefused
            | refusal r => exact hrefused
            | error message => exact hrefused
          | ok bytes =>
            cases hsig : signatureText lib bytes with
            | error cause =>
              simp only [hsig]
              exact hrefused
            | ok signature =>
              simp only [hsig]
              apply Dialogue.Goes.pure
              rintro w hsent _ _ ⟨⟩
              exact hsent bytes signature rfl hsig

theorem does_sendSvm : Does lib (Clear p) (sendSvm lib args needed bundlerAddress) (Paid p) := by
  unfold sendSvm
  cases args.account with
  | disconnected => exact paid_refused
  | evm _ _ => exact paid_refused
  | svm address =>
    apply Dialogue.Goes.ite
    · intro _
      exact paid_refused
    · intro _
      apply Dialogue.Goes.bind does_sendSvmNativeTransfer
      intro r
      cases r with
      | error refusal => exact paid_refused
      | ok sent =>
        obtain ⟨signature, height⟩ := sent
        apply Dialogue.Goes.bind (M := fun _ => Sent signature p)
        · exact (does_dateNow steady_sent).pre fun w h => h signature height rfl
        · intro now
          apply Dialogue.Goes.pure
          rintro w hsent _ ⟨⟩
          exact hsent

theorem does_switchTo {walletChainId : ℕ} :
    Does lib (Clear p) (switchTo lib args walletChainId) fun _ => Clear p := by
  have hstays : ∀ {r : Option IrysDepositResult},
      Does lib (Clear p) (pure r : Async (Option IrysDepositResult)) fun _ => Clear p := by
    intro r
    apply Dialogue.Goes.pure
    intro w h
    exact h
  apply Dialogue.Goes.ite
  · intro _
    exact hstays
  · intro _
    cases evmSwitchChainAvailability args.account with
    | error cause => exact hstays
    | ok _ =>
      apply Dialogue.Goes.ite
      · intro _
        exact hstays
      · intro _
        apply Dialogue.Goes.bind (M := fun _ => Clear p)
        · exact (Dialogue.Goes.ofExcept fun _ _ _ => trivial).imp (fun _ h => h)
            (fun _ _ h => h.2) fun _ _ h => h
        · intro chain
          cases chain with
          | error refusal => exact hstays
          | ok chainId =>
            apply Dialogue.Goes.bind (does_switchChain steady_clear)
            intro _
            exact hstays

theorem does_payEvm {address : String} :
    Does lib (Clear p) (payEvm lib args needed bundlerAddress address) (Paid p) := by
  have hsend : Does lib (Clear p)
      (do
        let sent ← sendEvmTransaction (lib.getAddress bundlerAddress) needed args.stack.ns
        let txHash ← ExceptT.mk (pure sent.outcome)
        pure (Except.ok (.evm txHash (toString needed) (← dateNow)))) (Paid p) := by
    apply Dialogue.Goes.bind does_sendEvmTransaction
    intro sent
    apply Dialogue.Goes.bind (M := fun txHash => Sent txHash p)
    · exact (Dialogue.Goes.ofExcept fun _ _ _ => trivial).imp (fun _ h => h)
        (fun txHash w h => h.2 txHash h.1) fun _ _ h => h
    · intro txHash
      apply Dialogue.Goes.bind (does_dateNow steady_sent)
      intro now
      apply Dialogue.Goes.pure
      rintro w hsent _ ⟨⟩
      exact hsent
  have hpay : Does lib (Clear p)
      (if (readIrysEvmMinConfirm args).isNone then
        pure (.error (refuse .unknownToken))
      else if !args.ports.sendEvmTransaction then
        pure (.error (refuseFor .sendFailed "missing_evm_port"))
      else if !lib.isAddress bundlerAddress then
        pure (.error (refuseFor .sendFailed "bundler_address_unusable"))
      else do
        let sent ← sendEvmTransaction (lib.getAddress bundlerAddress) needed args.stack.ns
        let txHash ← ExceptT.mk (pure sent.outcome)
        pure (Except.ok (.evm txHash (toString needed) (← dateNow)))) (Paid p) := by
    apply Dialogue.Goes.ite (fun _ => paid_refused)
    intro _
    apply Dialogue.Goes.ite (fun _ => paid_refused)
    intro _
    apply Dialogue.Goes.ite (fun _ => paid_refused)
    intro _
    exact hsend
  apply Dialogue.Goes.bind (does_readEvmAccountKind steady_clear)
  intro kind
  cases kind with
  | error cause => exact paid_refused
  | ok kind =>
    cases kind with
    | contract => exact paid_refused
    | eoa => exact hpay
    | eip7702 => exact hpay

theorem does_sendEvm : Does lib (Clear p) (sendEvm lib args needed bundlerAddress) (Paid p) := by
  unfold sendEvm
  cases args.account with
  | disconnected => exact paid_refused
  | svm _ => exact paid_refused
  | evm address walletChainId =>
    apply Dialogue.Goes.bind does_switchTo
    intro r
    cases r with
    | some refusal => exact paid_refused
    | none => exact does_payEvm

theorem does_sendTransfer :
    Does lib (Clear p) (sendTransfer lib args needed bundlerAddress) (Paid p) := by
  apply Dialogue.Goes.tryCatch (E := fun _ _ => True)
  · cases args.stack.vm with
    | svm => exact does_sendSvm
    | evm => exact does_sendEvm
  · intro e
    exact paid_refused

theorem fine_sendNewDeposit (hkey : key ≠ probeKey) :
    Fine lib (Clear p) (sendNewDeposit lib args needed key p) := by
  unfold sendNewDeposit
  cases txWriteAvailability lib args.account args.stack.ns with
  | error refusal => exact fine_pure
  | ok _ =>
    apply Dialogue.Goes.bind does_probe
    intro writable
    apply Dialogue.Goes.ite
    · intro _
      apply Dialogue.Goes.bind (does_getBundlerAddress steady_clear)
      intro address
      apply Dialogue.Goes.bind does_sendTransfer
      intro paid
      cases paid with
      | error refusal => exact fine_pure
      | ok record =>
        have hs : Steady lib (NewTransfer (recordTxId record)) := steady_new
        have hover : ∀ w, NewTransfer (recordTxId record) w → ∀ e ∈ w.store, e.1 = key →
            ∀ old, e.2.txId = some old → ∀ t ∈ transfers w.log, Carries w.log t old →
              Over w.log t ∨ Accepted w.log t ∨ Carries w.log t (recordTxId record) := by
          rintro w ⟨-, hrest⟩ e _ _ old _ t ht _
          by_cases hnew : t = recordTxId record
          · exact .inr (.inr (.inl hnew.symm))
          · exact .inl (hrest t ht hnew)
        have hwrite := does_writeRecord (p := some p) hkey rfl hs hover
        apply Dialogue.Goes.bind (hwrite.pre _)
        · intro written
          apply Dialogue.Goes.ite
          · intro hwritten
            exact (fine_resolveOpenRecord hkey rfl).pre fun w h => h hwritten
          · intro _
            exact fine_pure
        · intro w h
          obtain ⟨hprice, hnew⟩ := h record rfl
          exact ⟨hprice, hnew, _, hnew.1, .inl rfl⟩
    · intro _
      exact fine_pure

theorem does_getPrice {bytes : ℕ} :
    Does lib (fun w => w.unrecorded = none) (getPrice bytes) fun raw w =>
      w.price = (parseAtomicAmount raw).toOption ∧ w.unrecorded = none := by
  apply Dialogue.Goes.mk
  apply Dialogue.Holds.request inv_stable steady_unrecorded
  intro w r v hi hun _ hv
  cases hv
  have hquoted : Inv { w with price := quoted r } :=
    ⟨hi.lawful, hi.keyed, hi.known, hi.probe, hi.covered⟩
  refine ⟨hquoted, ?_⟩
  cases r with
  | ok raw => exact ⟨rfl, hun⟩
  | error e => trivial

theorem fine_ensureFor {payer : String} :
    Fine lib (fun w => w.unrecorded = none) (ensureFor lib args payer) := by
  have hkey : ∀ address, irysDepositRecordKey args.stack.ns payer address ≠ probeKey :=
    fun _ => irysDepositRecordKey_ne_probe
  apply Dialogue.Goes.bind does_getPrice
  intro rawPrice
  apply Dialogue.Goes.bind (M := fun p w => w.price = some p ∧ w.unrecorded = none)
  · refine (Dialogue.Goes.ofExcept fun _ _ _ => trivial).imp (fun _ h => h) ?_ fun _ _ h => h
    rintro p w ⟨hparse, hprice, hun⟩
    rw [hprice, hparse]
    exact ⟨rfl, hun⟩
  · intro p
    apply Dialogue.Goes.bind (does_getBalance (steady_price.and steady_unrecorded))
    intro raw
    apply Dialogue.Goes.bind (does_parseBalance (P := fun w => w.unrecorded = none))
    intro balance
    by_cases hle : balance ≥ p
    · apply Dialogue.Goes.bind (M := fun _ => AllClosed)
      · exact (does_getBundlerAddress steady_allClosed).pre fun w h => h.1 hle
      · intro address
        apply Dialogue.Goes.ite
        · intro _
          apply Dialogue.Goes.bind does_clear_all
          intro _
          exact fine_pure
        · intro hlt
          exact absurd hle hlt
    · apply Dialogue.Goes.bind
        (M := fun _ w => w.price = some p ∧ w.unrecorded = none)
      · exact (does_getBundlerAddress (steady_price.and steady_unrecorded)).pre fun w h => h.2
      · intro address
        apply Dialogue.Goes.ite
        · intro h
          exact absurd h hle
        · intro _
          apply Dialogue.Goes.bind does_readRecord
          intro read
          cases read with
          | unreadable => exact fine_pure
          | record record =>
            apply (fine_resolveOpenRecord (hkey address) rfl).pre
            rintro w ⟨hprice, -, hfound⟩
            exact ⟨hprice, hfound record rfl⟩
          | absent =>
            apply Dialogue.Goes.ite
            · intro _
              exact fine_pure
            · intro _
              apply (fine_sendNewDeposit (hkey address)).pre
              rintro w ⟨hprice, habsent, -⟩
              exact ⟨hprice, habsent rfl⟩

theorem fine_ensureIrysDeposit :
    Fine lib (fun w => w.unrecorded = none) (ensureIrysDeposit lib args) := by
  unfold ensureIrysDeposit
  cases args.account with
  | disconnected => exact fine_pure
  | evm address _ => exact fine_ensureFor
  | svm address => exact fine_ensureFor

end Sending

/-! ### The law -/

theorem Inv.entered {w : World} {args : EnsureArgs} (hi : Inv w) (hfair : fair.begins w args) :
    Inv (w.enter args) ∧ (w.enter args).unrecorded = none := by
  refine ⟨⟨hi.lawful, hi.keyed, hi.known, hi.probe, ?_⟩, rfl⟩
  intro t ht
  rcases hi.covered t ht with h | h | h | h
  · exact .inl h
  · exact .inr (.inl h)
  · exact .inr (.inr (.inl h))
  · exact .inl (hfair t h)

/-- **Deposits are paid once and not forgotten**, in every run of calls whose turns are fair: no
    transfer is sent while an earlier one can land or be credited, and no record is removed whose
    transfer is neither dead nor accepted. -/
theorem deposits_lawful (lib : Libraries) (turns : List DepositTurn) (s : DepositNode)
    (hfair : Along (depositStep lib) fair.allows fresh turns)
    (h : run (depositStep lib) fresh turns = .ok s) : Throughout Lawful s.world.log := by
  have hstart : Inv fresh.world := by
    refine ⟨trivial, List.Pairwise.nil, ?_, ?_, ?_⟩
    · intro e he
      cases he
    · intro e he
      cases he
    · intro t ht
      cases ht
  have hbody : ∀ args, Dialogue.Holds (outside lib) fair Inv (fun w => w.unrecorded = none)
      (ensureIrysDeposit lib args).run fun _ _ => True := by
    intro args
    apply Dialogue.Holds.imp fine_ensureIrysDeposit (fun _ h => h)
    intro _ _ _
    trivial
  have hend : Inv s.world := Dialogue.run_safe inv_stable (fun w args hi hf => hi.entered hf)
    hbody hstart rfl hfair h
  exact hend.lawful

/-! ### Two runs -/

def plainLibraries : Libraries where
  isAddress _ := true
  getAddress a := a
  isHash _ := true
  isSolanaAddress _ := true
  isBlockhash _ := true
  base58Encode _ := none
  base58Decode _ := ""
  estimateIrysUploadBytes n := n
  commercialActive ns := if ns = 8453 then some ⟨8453, .evm, none⟩ else none
  isWriteUnion _ := true

def smallUpload : EnsureArgs where
  stack := ⟨8453, .evm, none⟩
  account := .evm "0xa" 8453
  tokenMinConfirm := some 5
  totalBytes := 100
  paymentToken := "base-eth"
  bundlerUrl := "https://b"
  ports := ⟨false, true, true, true⟩

def smallKey : String := irysDepositRecordKey 8453 "0xa" "0xb"

/-- A call as far as the wallet: the balance is short of the price, no record is kept. -/
def asksWallet (price balance : String) (value : ℤ) (reply : WalletReply TxId) :
    List DepositTurn :=
  [.begins smallUpload, .replies (.getPrice 100) (.ok price), .replies .getBalance (.ok balance),
    .replies (.getBundlerAddress "base-eth") (.ok "0xb"),
    .replies (.getItem smallKey) (.ok none), .replies .dateNow (1 : ℕ),
    .replies (.setItem probeKey (.unparseable "probe:1")) (.ok ()),
    .replies (.getItem probeKey) (.ok (some (.unparseable "probe:1"))),
    .replies (.removeItem probeKey) (.ok ()),
    .replies (.getBundlerAddress "base-eth") (.ok "0xb"),
    .replies (.readEvmAccountKind 8453 "0xa") (.ok (.ok .eoa)),
    .replies (.sendEvmTransaction "0xb" value 8453) reply]

/-- The wallet's answer is recorded, the transfer lands and is accepted. -/
def concludes (balance : String) (value : String) (t : TxId) : List DepositTurn :=
  [.replies .dateNow (1 : ℕ),
    .replies (.setItem smallKey (IrysDepositRecord.evm t value 1).stringify) (.ok ()),
    .replies .getBalance (.ok balance), .happens (.lands t),
    .replies (.waitEvmConfirmations t 5 "0xb" 8453) (.ok (.confirmed t)),
    .replies (.postBundlerDeposit "https://b" "base-eth" t) (.ok .accepted),
    .replies (.removeItem smallKey) (.ok ()), .replies .getBalance (.ok balance),
    .happens (.credits t)]

/-- The first transfer is credited before the second is sent. -/
def twoDeposits : List DepositTurn :=
  asksWallet "10" "0" 11 ⟨.ok "0x1", some "0x1"⟩ ++ concludes "0" "11" "0x1" ++
    asksWallet "31" "11" 22 ⟨.ok "0x2", some "0x2"⟩

theorem deposits_lawful_twoDeposits :
    Throughout Lawful (finalState (depositStep plainLibraries) fresh twoDeposits).world.log :=
  deposits_lawful plainLibraries twoDeposits _ (by decide +kernel)
    (run_finalState (by decide +kernel))

/-- The wallet sends and its call fails; the call made again pays again. -/
def paysTwice : List DepositTurn :=
  asksWallet "10" "0" 11 ⟨.error (.error "timeout"), some "0x1"⟩ ++
    asksWallet "10" "0" 11 ⟨.ok "0x2", some "0x2"⟩

theorem paid_twice : (run (depositStep plainLibraries) fresh paysTwice).isOk = true ∧
    ¬ Throughout Lawful (finalState (depositStep plainLibraries) fresh paysTwice).world.log := by
  decide +kernel

end Kargain.Storage
