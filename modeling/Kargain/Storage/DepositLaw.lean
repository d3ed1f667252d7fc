/-
  Kargain.Storage.DepositLaw — no deposit is paid twice, none forgotten.

  Around `ensureIrysDeposit` stand the payer's wallet, the chains, the
  bundler and the browser's storage.  What they do to the payer's
  transfers is a log, newest first: a transfer is put on the wire, may go
  on under another hash, dies or lands, is accepted by the bundler and
  credited; and a record of it is removed.  The law is read off the log.

  It is kept by every run whose turns are `fair`.  The turns that are not
  are the ways in which the code pays twice: each is a reply the code can
  receive and takes to mean what it does not.
-/
import Kargain.Storage.IrysDeposit

namespace Kargain.Storage

inductive Entry
  | sent (t : TxId)
  | replaced (t hash : TxId)
  | dead (t : TxId)
  | landed (t : TxId)
  | credited (t : TxId)
  | accepted (hash : TxId)
  | cleared (hash : TxId)
  deriving DecidableEq

/-- What became of the transfers, newest first. -/
abbrev Log := List Entry

/-- The transfers put on the wire, each named by its first hash. -/
def transfers (log : Log) : List TxId :=
  log.filterMap fun e => match e with
    | .sent t => some t
    | _ => none

/-- Every hash a transfer ever went under. -/
def hashes (log : Log) : List TxId :=
  log.filterMap fun e => match e with
    | .sent t => some t
    | .replaced _ hash => some hash
    | _ => none

/-- The hashes the bundler accepted. -/
def acceptances (log : Log) : List TxId :=
  log.filterMap fun e => match e with
    | .accepted hash => some hash
    | _ => none

/-- The transfer `t` goes, or went, under `hash`. -/
def Carries (log : Log) (t hash : TxId) : Prop := hash = t ∨ .replaced t hash ∈ log

instance (log : Log) (t hash : TxId) : Decidable (Carries log t hash) :=
  inferInstanceAs (Decidable (_ ∨ _))

/-- It can neither land nor be credited any more. -/
def Over (log : Log) (t : TxId) : Prop := .dead t ∈ log ∨ .credited t ∈ log

instance (log : Log) (t : TxId) : Decidable (Over log t) := inferInstanceAs (Decidable (_ ∨ _))

def Accepted (log : Log) (t : TxId) : Prop := ∃ hash ∈ acceptances log, Carries log t hash

instance (log : Log) (t : TxId) : Decidable (Accepted log t) :=
  inferInstanceAs (Decidable (∃ hash ∈ _, _))

/-- Every transfer under this hash is dead, or the bundler accepted it. -/
def Closed (log : Log) (hash : TxId) : Prop :=
  ∀ t ∈ transfers log, Carries log t hash → .dead t ∈ log ∨ Accepted log t

instance (log : Log) (hash : TxId) : Decidable (Closed log hash) :=
  inferInstanceAs (Decidable (∀ t ∈ _, _))

/-- A transfer is sent only when every earlier one is over, and a record removed only when its
    transfer is dead or accepted. -/
def Lawful (older : Log) : Entry → Prop
  | .sent _ => ∀ t ∈ transfers older, Over older t
  | .cleared hash => Closed older hash
  | _ => True

instance (older : Log) : (e : Entry) → Decidable (Lawful older e)
  | .sent _ => inferInstanceAs (Decidable (∀ t ∈ _, _))
  | .cleared _ => inferInstanceAs (Decidable (Closed _ _))
  | .replaced _ _ => isTrue trivial
  | .dead _ => isTrue trivial
  | .landed _ => isTrue trivial
  | .credited _ => isTrue trivial
  | .accepted _ => isTrue trivial

/-! ### The outside -/

abbrev Store := List (String × Stored)

def Store.get (store : Store) (key : String) : Option Stored :=
  (store.find? fun e => e.1 = key).map Prod.snd

def Store.remove (store : Store) (key : String) : Store := store.filter fun e => e.1 ≠ key

def Store.set (store : Store) (key : String) (value : Stored) : Store :=
  (key, value) :: store.remove key

def Stored.txId : Stored → Option TxId
  | .fields f => f.txId
  | .unparseable _ => none

structure World where
  store : Store
  log : Log
  /-- The price the call under way was quoted. -/
  price : Option ℤ
  /-- The transfer the last call sent, while no record of it is written. -/
  unrecorded : Option TxId
  deriving DecidableEq

def quoted : Except Thrown String → Option ℤ
  | .ok raw => (parseAtomicAmount raw).toOption
  | .error _ => none

/-- A wallet puts `broadcast` on the wire and answers with `named`: a transfer it names is the
    one it put there, and its hash is a new one. -/
def World.sends (w : World) (broadcast named : Option TxId) : Option World :=
  match broadcast with
  | none => if named = none then some w else none
  | some t =>
    if (named = none ∨ named = some t) ∧ t ∉ hashes w.log then
      some { w with log := .sent t :: w.log, unrecorded := some t }
    else
      none

def World.removes (w : World) (key : String) : World :=
  { w with
    store := w.store.remove key
    log := match (w.store.get key).bind Stored.txId with
      | some hash => .cleared hash :: w.log
      | none => w.log }

def World.writes (w : World) (key : String) (value : Stored) : World :=
  { w with
    store := w.store.set key value
    unrecorded := if value.txId = w.unrecorded then none else w.unrecorded }

variable (lib : Libraries)

def World.answer (w : World) : (q : Request) → Reply q → Option World
  | .getPrice _, reply => some { w with price := quoted reply }
  | .getItem key, .ok value => if value = w.store.get key then some w else none
  | .setItem key value, .ok _ => some (w.writes key value)
  | .removeItem key, .ok _ => some (w.removes key)
  | .signAndSendTransaction _ _ _ _ _, reply =>
    w.sends reply.broadcast (match reply.outcome with
      | .ok bytes => (signatureText lib bytes).toOption
      | .error _ => none)
  | .sendEvmTransaction _ _ _, reply => w.sends reply.broadcast reply.outcome.toOption
  | .postBundlerDeposit _ _ txId, .ok .accepted => some { w with log := .accepted txId :: w.log }
  | _, _ => some w

inductive Happening
  | replaces (t hash : TxId)
  | dies (t : TxId)
  | lands (t : TxId)
  | credits (t : TxId)
  | storage (key : String) (value : Option Stored)
  deriving DecidableEq

/-- On the wire, neither dead nor landed. -/
def InFlight (log : Log) (t : TxId) : Prop :=
  t ∈ transfers log ∧ .dead t ∉ log ∧ .landed t ∉ log

instance (log : Log) (t : TxId) : Decidable (InFlight log t) := inferInstanceAs (Decidable (_ ∧ _))

def World.happen (w : World) : Happening → Option World
  | .replaces t hash =>
    if InFlight w.log t ∧ hash ∉ hashes w.log then
      some { w with log := .replaced t hash :: w.log }
    else none
  | .dies t => if InFlight w.log t then some { w with log := .dead t :: w.log } else none
  | .lands t => if InFlight w.log t then some { w with log := .landed t :: w.log } else none
  | .credits t =>
    if .landed t ∈ w.log ∧ .credited t ∉ w.log then
      some { w with log := .credited t :: w.log }
    else none
  | .storage key value =>
    some { w with
      store := match value with
        | some v => w.store.set key v
        | none => w.store.remove key }

def outside : Outside World Happening Request Reply where
  answer w q r := w.answer lib q r
  happen := World.happen

/-- A call begins. -/
def World.enter (w : World) (_ : EnsureArgs) : World := { w with price := none, unrecorded := none }

abbrev DepositTurn := Turn EnsureArgs Happening Request Reply

abbrev DepositNode := Node World Request Reply (Except Thrown IrysDepositResult)

def depositStep : DepositNode → DepositTurn → Except Unit DepositNode :=
  Dialogue.step (outside lib) World.enter fun args => (ensureIrysDeposit lib args).run

def fresh : DepositNode := ⟨⟨[], [], none, none⟩, none⟩

/-! ### The condition -/

/-- The hashes the kept records name. -/
def recorded (store : Store) : List TxId := store.filterMap fun e => e.2.txId

/-- Every transfer under this hash is over. -/
def Ended (log : Log) (hash : TxId) : Prop :=
  ∀ t ∈ transfers log, Carries log t hash → Over log t

instance (log : Log) (hash : TxId) : Decidable (Ended log hash) :=
  inferInstanceAs (Decidable (∀ t ∈ _, _))

def AllDead (log : Log) (hash : TxId) : Prop :=
  ∀ t ∈ transfers log, Carries log t hash → .dead t ∈ log

instance (log : Log) (hash : TxId) : Decidable (AllDead log hash) :=
  inferInstanceAs (Decidable (∀ t ∈ _, _))

/-- A balance that covers the price is read. -/
def covers (w : World) (raw : String) : Bool :=
  match parseAtomicAmount raw, w.price with
  | .ok balance, some price => balance ≥ price
  | _, _ => false

/-- The replies that mean what the code takes them to mean. -/
def fairReply (w : World) : (q : Request) → Reply q → Prop
  | .getBalance, .ok raw => covers w raw = true → ∀ hash ∈ recorded w.store, Closed w.log hash
  | .getItem _, .ok none =>
    (∀ t ∈ transfers w.log, Accepted w.log t → Over w.log t) ∧
      ∀ hash ∈ recorded w.store, Ended w.log hash
  | .confirmSvmFunding signature _, .ok .expired => AllDead w.log signature
  | .confirmSvmFunding signature _, .ok .landedWithError => AllDead w.log signature
  | .waitEvmConfirmations txHash _ _ _, .ok .cancelled => AllDead w.log txHash
  | .waitEvmConfirmations txHash _ _ _, .ok (.diverted _) => AllDead w.log txHash
  | .waitEvmConfirmations txHash _ _ _, .ok (.confirmed hash) =>
    ∀ t ∈ transfers w.log, Carries w.log t txHash → Carries w.log t hash
  | _, _ => True

instance (w : World) : (q : Request) → (reply : Reply q) → Decidable (fairReply w q reply)
  | .getPrice _, _ => isTrue trivial
  | .getBalance, .ok raw =>
    inferInstanceAs (Decidable (covers w raw = true → ∀ hash ∈ recorded w.store, Closed w.log hash))
  | .getBalance, .error _ => isTrue trivial
  | .getBundlerAddress _, _ => isTrue trivial
  | .getItem _, .ok none => inferInstanceAs (Decidable ((∀ t ∈ _, _) ∧ ∀ hash ∈ _, Ended _ hash))
  | .getItem _, .ok (some _) => isTrue trivial
  | .getItem _, .error _ => isTrue trivial
  | .setItem _ _, _ => isTrue trivial
  | .removeItem _, _ => isTrue trivial
  | .dateNow, _ => isTrue trivial
  | .fetchBlockhash, _ => isTrue trivial
  | .signAndSendTransaction _ _ _ _ _, _ => isTrue trivial
  | .switchChain _, _ => isTrue trivial
  | .readEvmAccountKind _ _, _ => isTrue trivial
  | .sendEvmTransaction _ _ _, _ => isTrue trivial
  | .confirmSvmFunding _ _, .ok .expired => inferInstanceAs (Decidable (AllDead _ _))
  | .confirmSvmFunding _ _, .ok .landedWithError => inferInstanceAs (Decidable (AllDead _ _))
  | .confirmSvmFunding _ _, .ok .landedOk => isTrue trivial
  | .confirmSvmFunding _ _, .ok .statusUnknown => isTrue trivial
  | .confirmSvmFunding _ _, .error _ => isTrue trivial
  | .waitEvmConfirmations _ _ _ _, .ok .cancelled => inferInstanceAs (Decidable (AllDead _ _))
  | .waitEvmConfirmations _ _ _ _, .ok (.diverted _) => inferInstanceAs (Decidable (AllDead _ _))
  | .waitEvmConfirmations txHash _ _ _, .ok (.confirmed hash) =>
    inferInstanceAs (Decidable (∀ t ∈ transfers w.log, Carries w.log t txHash →
      Carries w.log t hash))
  | .waitEvmConfirmations _ _ _ _, .ok .timeout => isTrue trivial
  | .waitEvmConfirmations _ _ _ _, .error _ => isTrue trivial
  | .postBundlerDeposit _ _ _, _ => isTrue trivial

def fairHappening (w : World) : Happening → Prop
  | .storage key value =>
    value.bind Stored.txId = none ∧
      ∀ hash ∈ ((w.store.get key).bind Stored.txId), Ended w.log hash
  | _ => True

instance (w : World) : (e : Happening) → Decidable (fairHappening w e)
  | .storage _ _ => inferInstanceAs (Decidable (_ ∧ ∀ hash ∈ Option.bind _ _, Ended _ hash))
  | .replaces _ _ => isTrue trivial
  | .dies _ => isTrue trivial
  | .lands _ => isTrue trivial
  | .credits _ => isTrue trivial

/-- Every turn of a call is fair, and a call begins only when the transfer an earlier call sent
    was recorded, or is over. -/
def fair : Fair World EnsureArgs Happening Request Reply where
  begins w _ := ∀ t ∈ w.unrecorded, Over w.log t
  replies := fairReply
  happens := fairHappening

instance (s : DepositNode) : (turn : DepositTurn) → Decidable (fair.allows s turn)
  | .begins _ => inferInstanceAs (Decidable (∀ t ∈ s.world.unrecorded, Over s.world.log t))
  | .replies q r => inferInstanceAs (Decidable (fairReply s.world q r))
  | .happens e => inferInstanceAs (Decidable (fairHappening s.world e))
  | .givesUp => isTrue trivial

/-! ### What a longer log keeps -/

section Logs

variable {log : Log} {e : Entry} {t hash : TxId}

theorem mem_transfers : t ∈ transfers log ↔ .sent t ∈ log := by
  unfold transfers
  rw [List.mem_filterMap]
  constructor
  · rintro ⟨e, he, ht⟩
    cases e <;> simp_all
  · intro h
    exact ⟨.sent t, h, rfl⟩

theorem mem_acceptances : hash ∈ acceptances log ↔ .accepted hash ∈ log := by
  unfold acceptances
  rw [List.mem_filterMap]
  constructor
  · rintro ⟨e, he, ht⟩
    cases e <;> simp_all
  · intro h
    exact ⟨.accepted hash, h, rfl⟩

theorem mem_hashes : hash ∈ hashes log ↔ .sent hash ∈ log ∨ ∃ t, .replaced t hash ∈ log := by
  unfold hashes
  rw [List.mem_filterMap]
  constructor
  · rintro ⟨e, he, ht⟩
    cases e with
    | sent t =>
      obtain rfl : t = hash := by simpa using ht
      exact .inl he
    | replaced t h =>
      obtain rfl : h = hash := by simpa using ht
      exact .inr ⟨t, he⟩
    | _ => simp at ht
  · rintro (h | ⟨t, h⟩)
    · exact ⟨.sent hash, h, rfl⟩
    · exact ⟨.replaced t hash, h, rfl⟩

theorem Carries.mono (h : Carries log t hash) : Carries (e :: log) t hash :=
  h.imp id (List.mem_cons_of_mem _)

theorem Over.mono (h : Over log t) : Over (e :: log) t :=
  h.imp (List.mem_cons_of_mem _) (List.mem_cons_of_mem _)

theorem Accepted.mono (h : Accepted log t) : Accepted (e :: log) t := by
  obtain ⟨hash, hmem, hc⟩ := h
  refine ⟨hash, ?_, hc.mono⟩
  rw [mem_acceptances] at hmem ⊢
  exact List.mem_cons_of_mem _ hmem

/-- A transfer goes under hashes of the log only. -/
theorem Carries.mem_hashes (h : Carries log t hash) (ht : t ∈ transfers log) :
    hash ∈ hashes log := by
  rw [Storage.mem_hashes]
  rcases h with rfl | h
  · exact .inl (mem_transfers.mp ht)
  · exact .inr ⟨t, h⟩

/-- What an entry may bring to the transfers: nothing that goes under a hash known before. -/
def Foreign (log : Log) (e : Entry) : Prop :=
  (∀ t, e ≠ .sent t) ∧ ∀ t hash, e = .replaced t hash → hash ∉ hashes log

theorem Foreign.plain (hsent : ∀ t, e ≠ .sent t) (hreplaced : ∀ t hash, e ≠ .replaced t hash) :
    Foreign log e :=
  ⟨hsent, fun t hash heq => absurd heq (hreplaced t hash)⟩

theorem Foreign.transfers (he : Foreign log e) : transfers (e :: log) = transfers log := by
  unfold Storage.transfers
  rw [List.filterMap_cons]
  cases e with
  | sent t => exact absurd rfl (he.1 t)
  | _ => rfl

theorem Foreign.carries (he : Foreign log e) (hknown : hash ∈ hashes log)
    (h : Carries (e :: log) t hash) : Carries log t hash := by
  rcases h with rfl | h
  · exact .inl rfl
  · rcases List.mem_cons.mp h with rfl | h
    · exact absurd hknown (he.2 t hash rfl)
    · exact .inr h

theorem Foreign.closed (he : Foreign log e) (hknown : hash ∈ hashes log) (h : Closed log hash) :
    Closed (e :: log) hash := by
  intro t ht hc
  rw [he.transfers] at ht
  rcases h t ht (he.carries hknown hc) with hd | ha
  · exact .inl (List.mem_cons_of_mem _ hd)
  · exact .inr ha.mono

theorem AllDead.closed (h : AllDead log hash) : Closed log hash :=
  fun t ht hc => .inl (h t ht hc)

end Logs

/-! ### The storage -/

section Stores

variable {store : Store} {key k : String} {value v : Stored}

/-- One value under each key. -/
def Store.Keyed (store : Store) : Prop := store.Pairwise fun e e' => e.1 ≠ e'.1

theorem Store.mem_remove {e : String × Stored} :
    e ∈ store.remove key ↔ e ∈ store ∧ e.1 ≠ key := by
  unfold Store.remove
  rw [List.mem_filter]
  simp

theorem Store.Keyed.remove (h : store.Keyed) : (store.remove key).Keyed := h.filter _

theorem Store.Keyed.set (h : store.Keyed) : (store.set key value).Keyed := by
  refine List.pairwise_cons.mpr ⟨?_, h.remove⟩
  intro e he
  exact (Store.mem_remove.mp he).2.symm

theorem Store.mem_set {e : String × Stored} :
    e ∈ store.set key value ↔ e = (key, value) ∨ (e ∈ store ∧ e.1 ≠ key) := by
  unfold Store.set
  rw [List.mem_cons, Store.mem_remove]

theorem Store.Keyed.unique (h : store.Keyed) {e e' : String × Stored} (he : e ∈ store)
    (he' : e' ∈ store) (hkey : e.1 = e'.1) : e = e' := by
  induction store with
  | nil => cases he
  | cons a rest ih =>
    obtain ⟨hhead, hrest⟩ := List.pairwise_cons.mp h
    rcases List.mem_cons.mp he with rfl | hin
    · rcases List.mem_cons.mp he' with rfl | hin'
      · rfl
      · exact absurd hkey (hhead _ hin')
    · rcases List.mem_cons.mp he' with rfl | hin'
      · exact absurd hkey.symm (hhead _ hin)
      · exact ih hrest hin hin'

theorem Store.get_eq_some (h : store.Keyed) : store.get key = some value ↔ (key, value) ∈ store := by
  unfold Store.get
  rw [Option.map_eq_some_iff]
  constructor
  · rintro ⟨⟨k, v⟩, hfind, rfl⟩
    have hk : k = key := by simpa using List.find?_some hfind
    subst hk
    exact List.mem_of_find?_eq_some hfind
  · intro hmem
    cases hfind : store.find? fun e => e.1 = key with
    | none =>
      have hno := List.find?_eq_none.mp hfind _ hmem
      simp at hno
    | some e =>
      have hk : e.1 = key := by simpa using List.find?_some hfind
      have hmem' := List.mem_of_find?_eq_some hfind
      have heq : e = (key, value) := h.unique hmem' hmem hk
      exact ⟨e, rfl, by rw [heq]⟩

end Stores

/-! ### The invariant -/

/-- Some transfer goes under this hash. -/
def Known (log : Log) (hash : TxId) : Prop := ∃ t ∈ transfers log, Carries log t hash

/-- A record under one of the keys names the transfer `t`. -/
def Recorded (store : Store) (log : Log) (t : TxId) : Prop :=
  ∃ e ∈ store, ∃ hash, e.2.txId = some hash ∧ Carries log t hash

structure Inv (w : World) : Prop where
  lawful : Throughout Lawful w.log
  keyed : w.store.Keyed
  known : ∀ e ∈ w.store, ∀ hash, e.2.txId = some hash → Known w.log hash
  probe : ∀ e ∈ w.store, e.1 = probeKey → e.2.txId = none
  /-- No transfer that matters is forgotten. -/
  covered : ∀ t ∈ transfers w.log, Over w.log t ∨ Accepted w.log t ∨
    Recorded w.store w.log t ∨ w.unrecorded = some t

section Invariant

variable {w u : World} {e : Entry} {key : String} {value : Stored} {hash t : TxId}

theorem Known.mem_hashes {log : Log} (h : Known log hash) : hash ∈ hashes log := by
  obtain ⟨t, ht, hc⟩ := h
  exact hc.mem_hashes ht

theorem Known.mono {log : Log} (h : Known log hash) : Known (e :: log) hash := by
  obtain ⟨t, ht, hc⟩ := h
  rw [mem_transfers] at ht
  exact ⟨t, mem_transfers.mpr (List.mem_cons_of_mem _ ht), hc.mono⟩

theorem Recorded.mono {store : Store} {log : Log} (h : Recorded store log t) :
    Recorded store (e :: log) t := by
  obtain ⟨r, hr, hash, hh, hc⟩ := h
  exact ⟨r, hr, hash, hh, hc.mono⟩

theorem Inv.foreign (hi : Inv w) (he : Foreign w.log e) (hl : Lawful w.log e) :
    Inv { w with log := e :: w.log } where
  lawful := ⟨hl, hi.lawful⟩
  keyed := hi.keyed
  known := fun r hr hash hh => (hi.known r hr hash hh).mono
  probe := hi.probe
  covered := by
    intro t ht
    show Over (e :: w.log) t ∨ Accepted (e :: w.log) t ∨ Recorded w.store (e :: w.log) t ∨ _
    have ht : t ∈ transfers w.log := he.transfers ▸ ht
    rcases hi.covered t ht with h | h | h | h
    · exact .inl h.mono
    · exact .inr (.inl h.mono)
    · exact .inr (.inr (.inl h.mono))
    · exact .inr (.inr (.inr h))

/-- A change of the storage that leaves no transfer without its record. -/
theorem Inv.store {store : Store} {unrecorded : Option TxId} (hi : Inv w) (hkeyed : store.Keyed)
    (hknown : ∀ e ∈ store, ∀ hash, e.2.txId = some hash → e ∈ w.store ∨ Known w.log hash)
    (hprobe : ∀ e ∈ store, e.1 = probeKey → e ∈ w.store ∨ e.2.txId = none)
    (hcovered : ∀ t ∈ transfers w.log, Recorded w.store w.log t ∨ w.unrecorded = some t →
      Over w.log t ∨ Accepted w.log t ∨ Recorded store w.log t ∨ unrecorded = some t) :
    Inv { w with store := store, unrecorded := unrecorded } where
  lawful := hi.lawful
  keyed := hkeyed
  known := by
    intro e he hash hh
    rcases hknown e he hash hh with hold | hk
    · exact hi.known e hold hash hh
    · exact hk
  probe := by
    intro e he hkey
    rcases hprobe e he hkey with hold | hnone
    · exact hi.probe e hold hkey
    · exact hnone
  covered := by
    intro t ht
    rcases hi.covered t ht with h | h | h
    · exact .inl h
    · exact .inr (.inl h)
    · exact hcovered t ht h

/-- Nothing that names a transfer is under `key`, or all of it is closed: then it may go. -/
theorem Inv.removes (hi : Inv w)
    (hclosed : ∀ e ∈ w.store, e.1 = key → ∀ hash, e.2.txId = some hash → Closed w.log hash) :
    Inv (w.removes key) := by
  have hgone : Inv { w with store := w.store.remove key } := by
    refine hi.store hi.keyed.remove ?_ ?_ ?_
    · intro e he _ _
      exact .inl (Store.mem_remove.mp he).1
    · intro e he _
      exact .inl (Store.mem_remove.mp he).1
    · rintro t ht (⟨r, hr, hash, hh, hc⟩ | h)
      · by_cases hkey : r.1 = key
        · rcases hclosed r hr hkey hash hh t ht hc with hd | ha
          · exact .inl (.inl hd)
          · exact .inr (.inl ha)
        · exact .inr (.inr (.inl ⟨r, Store.mem_remove.mpr ⟨hr, hkey⟩, hash, hh, hc⟩))
      · exact .inr (.inr (.inr h))
  unfold World.removes
  cases hget : (w.store.get key).bind Stored.txId with
  | none => exact hgone
  | some hash =>
    obtain ⟨v, hv, hh⟩ := Option.bind_eq_some_iff.mp hget
    have hmem := (Store.get_eq_some hi.keyed).mp hv
    exact hgone.foreign (e := .cleared hash) (.plain (by simp) (by simp)) (hclosed _ hmem rfl hash hh)

/-- A record of `hash` may be written over what is under `key` where that is of the same
    transfers, or of none that matters. -/
theorem Inv.writes (hi : Inv w) (hkey : key ≠ probeKey) (hvalue : value.txId = some hash)
    (hknown : Known w.log hash)
    (hover : ∀ e ∈ w.store, e.1 = key → ∀ old, e.2.txId = some old →
      ∀ t ∈ transfers w.log, Carries w.log t old →
        Over w.log t ∨ Accepted w.log t ∨ Carries w.log t hash) :
    Inv (w.writes key value) := by
  have hnew : (key, value) ∈ w.store.set key value := Store.mem_set.mpr (.inl rfl)
  refine hi.store hi.keyed.set ?_ ?_ ?_
  · intro e he h hh
    rcases Store.mem_set.mp he with rfl | ⟨hold, -⟩
    · obtain rfl : hash = h := by simpa [hvalue] using hh
      exact .inr hknown
    · exact .inl hold
  · intro e he hprobe
    rcases Store.mem_set.mp he with rfl | ⟨hold, -⟩
    · exact absurd hprobe hkey
    · exact .inl hold
  · rintro t ht (⟨r, hr, old, hh, hc⟩ | h)
    · by_cases hsame : r.1 = key
      · rcases hover r hr hsame old hh t ht hc with ho | ha | hc'
        · exact .inl ho
        · exact .inr (.inl ha)
        · exact .inr (.inr (.inl ⟨_, hnew, hash, hvalue, hc'⟩))
      · exact .inr (.inr (.inl ⟨r, Store.mem_set.mpr (.inr ⟨hr, hsame⟩), old, hh, hc⟩))
    · rw [hvalue, h]
      by_cases ht' : hash = t
      · subst ht'
        exact .inr (.inr (.inl ⟨_, hnew, hash, hvalue, .inl rfl⟩))
      · right; right; right
        rw [if_neg (by simpa using ht')]

/-- A text that names nothing may be written where no record is. -/
theorem Inv.setPlain (hi : Inv w) (hvalue : value.txId = none)
    (hover : ∀ e ∈ w.store, e.1 = key → ∀ old, e.2.txId = some old →
      ∀ t ∈ transfers w.log, Carries w.log t old → Over w.log t) :
    Inv { w with store := w.store.set key value } := by
  refine hi.store hi.keyed.set ?_ ?_ ?_
  · intro e he h hh
    rcases Store.mem_set.mp he with rfl | ⟨hold, -⟩
    · rw [hvalue] at hh
      cases hh
    · exact .inl hold
  · intro e he hprobe
    rcases Store.mem_set.mp he with rfl | ⟨hold, -⟩
    · exact .inr hvalue
    · exact .inl hold
  · rintro t ht (⟨r, hr, old, hh, hc⟩ | h)
    · by_cases hsame : r.1 = key
      · exact .inl (hover r hr hsame old hh t ht hc)
      · exact .inr (.inr (.inl ⟨r, Store.mem_set.mpr (.inr ⟨hr, hsame⟩), old, hh, hc⟩))
    · exact .inr (.inr (.inr h))

theorem recorded_iff {store : Store} :
    hash ∈ recorded store ↔ ∃ e ∈ store, e.2.txId = some hash := by
  unfold recorded
  rw [List.mem_filterMap]

end Invariant

/-! ### What happens meanwhile -/

section Meanwhile

variable {lib : Libraries} {w u : World} {P : World → Prop}

/-- A fair happening is an entry of the log that brings no transfer, or a change of the storage
    that brings no record. -/
theorem drift_cases (hi : Inv w) (h : Dialogue.Drifts (outside lib) fair w u) :
    (∃ e, Foreign w.log e ∧ Lawful w.log e ∧ u = { w with log := e :: w.log }) ∨
      (∃ store, Inv { w with store := store } ∧
        (∀ e ∈ store, ∀ hash, e.2.txId = some hash → e ∈ w.store) ∧
        u = { w with store := store }) := by
  obtain ⟨ev, hfair, hev⟩ := h
  have hev : w.happen ev = some u := hev
  cases ev with
  | replaces t hash =>
    simp only [World.happen, Option.ite_none_right_eq_some, Option.some.injEq] at hev
    obtain ⟨⟨-, hnew⟩, rfl⟩ := hev
    refine .inl ⟨.replaced t hash, ⟨?_, ?_⟩, trivial, rfl⟩
    · intro t h
      cases h
    · intro t h heq
      cases heq
      exact hnew
  | dies t =>
    simp only [World.happen, Option.ite_none_right_eq_some, Option.some.injEq] at hev
    obtain ⟨-, rfl⟩ := hev
    exact .inl ⟨.dead t, .plain (by simp) (by simp), trivial, rfl⟩
  | lands t =>
    simp only [World.happen, Option.ite_none_right_eq_some, Option.some.injEq] at hev
    obtain ⟨-, rfl⟩ := hev
    exact .inl ⟨.landed t, .plain (by simp) (by simp), trivial, rfl⟩
  | credits t =>
    simp only [World.happen, Option.ite_none_right_eq_some, Option.some.injEq] at hev
    obtain ⟨-, rfl⟩ := hev
    exact .inl ⟨.credited t, .plain (by simp) (by simp), trivial, rfl⟩
  | storage key value =>
    obtain ⟨hplain, hended⟩ := hfair
    have hover : ∀ e ∈ w.store, e.1 = key → ∀ old, e.2.txId = some old → Ended w.log old := by
      intro e he hkey old hold
      subst hkey
      apply hended
      rw [(Store.get_eq_some hi.keyed).mpr he]
      exact hold
    simp only [World.happen, Option.some.injEq] at hev
    subst hev
    cases value with
    | none =>
      refine .inr ⟨_, ?_, ?_, rfl⟩
      · refine hi.store hi.keyed.remove ?_ ?_ ?_
        · intro e he _ _
          exact .inl (Store.mem_remove.mp he).1
        · intro e he _
          exact .inl (Store.mem_remove.mp he).1
        · rintro t ht (⟨r, hr, old, hh, hc⟩ | h)
          · by_cases hkey : r.1 = key
            · exact .inl (hover r hr hkey old hh t ht hc)
            · exact .inr (.inr (.inl ⟨r, Store.mem_remove.mpr ⟨hr, hkey⟩, old, hh, hc⟩))
          · exact .inr (.inr (.inr h))
      · intro e he _ _
        exact (Store.mem_remove.mp he).1
    | some v =>
      have hv : v.txId = none := hplain
      refine .inr ⟨_, hi.setPlain hv hover, ?_, rfl⟩
      intro e he hash hh
      rcases Store.mem_set.mp he with rfl | ⟨hold, -⟩
      · rw [hv] at hh
        cases hh
      · exact hold

theorem inv_stable : Dialogue.Stable (outside lib) fair Inv Inv := by
  intro w u hi hd _
  rcases drift_cases hi hd with ⟨e, he, hl, rfl⟩ | ⟨store, hs, -, rfl⟩
  · exact hi.foreign he hl
  · exact hs

/-- How a fact about the outside is seen to be stable. -/
theorem stable_of (hlog : ∀ w e, Inv w → Foreign w.log e → P w → P { w with log := e :: w.log })
    (hstore : ∀ w store, Inv w →
      (∀ e ∈ store, ∀ hash, e.2.txId = some hash → e ∈ w.store) → P w →
        P { w with store := store }) :
    Dialogue.Stable (outside lib) fair Inv P := by
  intro w u hi hd hp
  rcases drift_cases hi hd with ⟨e, he, -, rfl⟩ | ⟨store, -, hsub, rfl⟩
  · exact hlog w e hi he hp
  · exact hstore w store hi hsub hp

end Meanwhile

end Kargain.Storage
