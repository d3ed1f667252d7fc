/-
  Kargain.Base.Accounts — a ledger of accounts owned by programs.

  Every account has lamports, data and an owning program, and only the
  owner may change the data or take lamports away.  A program works on
  the accounts of one instruction; the runtime looks at what it changed
  before every call to another program and when the instruction ends,
  and refuses the instruction when a change was not the program's to
  make.  Between two looks anything may be written.

  `Exec` is an instruction under way: the ledger as the program sees it,
  the ledger as last verified, and the list of what has been taken out
  of accounts so far.  Records are data with a fixed layout (`Record`);
  `held` is what a program can call its own under a key, and each
  operation has one lemma saying what it does to that.

  Nothing in this file names a program.
-/
import Mathlib
import Kargain.Base.Revert

namespace Kargain.Accounts

/-! ## §1. Accounts, records, errors. -/

/-- What an instruction can fail with; `custom` carries a program's own errors. -/
inductive ProgramError (C : Type)
  | custom (e : C)
  | notEnoughAccountKeys
  | missingRequiredSignature
  | invalidSeeds
  | invalidArgument
  | invalidInstructionData
  | invalidAccountData
  | accountDataTooSmall
  | accountAlreadyInitialized
  | accountBorrowFailed
  | uninitializedAccount
  | incorrectProgramId
  | insufficientFunds
  | arithmeticOverflow
  | externalAccountModified
deriving DecidableEq

/-- Account data: the data of no length, and data of the same length with all bytes zero. -/
class AccountData (D : Type) where
  empty : D
  zeroed : D → D

/-- Data read and written as a record of type `R`; zeroed bytes decode as the default. -/
class Record (D : outParam Type) (R : Type) extends Inhabited R where
  toData : R → D
  ofData : D → Option R
  ofData_eq {d : D} {r : R} : ofData d = some r ↔ d = toData r

structure Account (K D : Type) where
  lamports : ℕ
  owner : K
  data : D
  executable : Bool
deriving DecidableEq

/-- What no other program can do less for an account: owner and data stay, and lamports are
    at most added. -/
def Account.Untouched (a b : Account K D) : Prop :=
  b.owner = a.owner ∧ b.data = a.data ∧ a.lamports ≤ b.lamports

abbrev Ledger (K D : Type) := K → Account K D

/-- The accounts a transaction hands to an instruction, and which of them sign and may be
    written. -/
structure Call (K : Type) where
  keys : List K
  signers : List K
  writable : List K

/-- Lamports or tokens taken out of an account, by whose authority. -/
inductive Debit (K : Type)
  | lamports (source : K) (amount : ℕ)
  | tokens (source authority : K) (amount : ℕ)
deriving DecidableEq

/-- An instruction under way. -/
structure Exec (K D : Type) where
  ledger : Ledger K D
  verified : Ledger K D
  debits : List (Debit K)

variable {K D C R : Type}

instance [DecidableEq K] [DecidableEq D] (a b : Account K D) : Decidable (a.Untouched b) :=
  inferInstanceAs (Decidable (_ ∧ _ ∧ _))

theorem Account.Untouched.refl (a : Account K D) : a.Untouched a := ⟨rfl, rfl, Nat.le_refl _⟩

theorem Account.Untouched.trans {a b c : Account K D} (h : a.Untouched b) (h' : b.Untouched c) :
    a.Untouched c :=
  ⟨h'.1.trans h.1, h'.2.1.trans h.2.1, Nat.le_trans h.2.2 h'.2.2⟩

/-- The `i`th account of an instruction. -/
def Call.account (x : Call K) (i : ℕ) : Except (ProgramError C) K :=
  orRevert x.keys[i]? .notEnoughAccountKeys

def Call.isSigner (x : Call K) (k : K) : Prop := k ∈ x.signers

instance [DecidableEq K] (x : Call K) (k : K) : Decidable (x.isSigner k) := inferInstanceAs (Decidable (_ ∈ _))

def Call.isWritable (x : Call K) (k : K) : Prop := k ∈ x.writable

instance [DecidableEq K] (x : Call K) (k : K) : Decidable (x.isWritable k) := inferInstanceAs (Decidable (_ ∈ _))

theorem account_ok {x : Call K} {i : ℕ} {k : K} :
    (x.account i : Except (ProgramError C) K) = .ok k ↔ x.keys[i]? = some k :=
  orRevert_ok

/-- Read a record: the data must decode, whoever owns the account. -/
def load [Record D R] (L : Ledger K D) (k : K) : Except (ProgramError C) R :=
  orRevert (Record.ofData (L k).data) .invalidAccountData

theorem load_ok [Record D R] {L : Ledger K D} {k : K} {r : R} :
    (load L k : Except (ProgramError C) R) = .ok r ↔ (L k).data = Record.toData r :=
  orRevert_ok.trans Record.ofData_eq

/-! ## §2. What the program does to the accounts in front of it. -/

namespace Exec

variable [DecidableEq K] (w : Exec K D)

def set (k : K) (a : Account K D) : Exec K D :=
  { w with ledger := Function.update w.ledger k a }

def setData (k : K) (d : D) : Exec K D := w.set k { w.ledger k with data := d }

def setLamports (k : K) (n : ℕ) : Exec K D := w.set k { w.ledger k with lamports := n }

def assign (k program : K) : Exec K D := w.set k { w.ledger k with owner := program }

def record (d : Debit K) : Exec K D := { w with debits := d :: w.debits }

/-- Take `amount` lamports out of `src` and put them into `dst`. -/
def move (src dst : K) (amount : ℕ) : Exec K D :=
  let w := (w.setLamports src ((w.ledger src).lamports - amount)).record (.lamports src amount)
  w.setLamports dst ((w.ledger dst).lamports + amount)

/-- Write a record over data of its own layout. -/
def store [Record D R] (k : K) (r : R) : Except (ProgramError C) (Exec K D) :=
  match (Record.ofData (w.ledger k).data : Option R) with
  | some _ => .ok (w.setData k (Record.toData r))
  | none => .error .accountDataTooSmall

end Exec

/-! ## §3. What the runtime lets pass. -/

section Runtime

variable [DecidableEq K] [DecidableEq D] [AccountData D]

/-- May `program` have turned `a` into `b`?  Its own accounts it may write, and hand over
    once they are zeroed; other accounts it may only give lamports. -/
def Permitted (program : K) (writable : Prop) (a b : Account K D) : Prop :=
  b = a ∨ writable ∧ b.executable = a.executable ∧
    (a.owner = program ∧ (b.owner = program ∨ b.data = AccountData.zeroed b.data) ∨
      b.owner = a.owner ∧ b.data = a.data ∧ a.lamports ≤ b.lamports)

instance (program : K) (writable : Prop) [Decidable writable] (a b : Account K D) :
    Decidable (Permitted program writable a b) :=
  inferInstanceAs (Decidable (_ ∨ _))

/-- The runtime looks at every account of the instruction. -/
def Exec.verify (program : K) (x : Call K) (w : Exec K D) :
    Except (ProgramError C) (Exec K D) := do
  require (∀ k ∈ x.keys, Permitted program (x.isWritable k) (w.verified k) (w.ledger k))
    .externalAccountModified
  pure { w with verified := w.ledger }

/-- Call another program: what was changed so far is looked at first. -/
def Exec.invoke (program : K) (x : Call K) (w : Exec K D)
    (f : Ledger K D → Except (ProgramError C) (Ledger K D)) :
    Except (ProgramError C) (Exec K D) := do
  let w ← w.verify program x
  let L ← f w.ledger
  pure { w with ledger := L, verified := L }

def Exec.start (L : Ledger K D) : Exec K D := ⟨L, L, []⟩

theorem verify_ok {program : K} {x : Call K} {w w' : Exec K D}
    (h : (w.verify program x : Except (ProgramError C) _) = .ok w') :
    w'.ledger = w.ledger ∧ w'.debits = w.debits := by
  simp only [Exec.verify, bind_ok, require_ok, pure_ok, exists_const] at h
  obtain ⟨-, rfl⟩ := h
  exact ⟨rfl, rfl⟩

theorem invoke_ok {program : K} {x : Call K} {w w' : Exec K D}
    {f : Ledger K D → Except (ProgramError C) (Ledger K D)}
    (h : w.invoke program x f = .ok w') :
    f w.ledger = .ok w'.ledger ∧ w'.debits = w.debits := by
  simp only [Exec.invoke, bind_ok, pure_ok] at h
  obtain ⟨w₁, h₁, L, hL, rfl⟩ := h
  obtain ⟨hl, hd⟩ := verify_ok h₁
  exact ⟨hl ▸ hL, hd⟩

end Runtime

/-! ## §4. What a program holds. -/

variable [DecidableEq K]

/-- The data under `k`, where `program` owns the account. -/
def held (program : K) (L : Ledger K D) (k : K) : Option D :=
  if (L k).owner = program then some (L k).data else none

theorem held_congr {program : K} {L L' : Ledger K D} {k : K}
    (ho : (L' k).owner = (L k).owner) (hd : (L' k).data = (L k).data) :
    held program L' k = held program L k := by
  rw [held, held, ho, hd]

section Held

variable {program : K} {w : Exec K D} {k k' : K}

@[simp] theorem held_setLamports {n : ℕ} :
    held program (w.setLamports k n).ledger k' = held program w.ledger k' := by
  by_cases h : k' = k
  · subst h
    simp [Exec.setLamports, Exec.set, held]
  · simp [Exec.setLamports, Exec.set, held, h]

omit [DecidableEq K] in
@[simp] theorem record_ledger {d : Debit K} : (w.record d).ledger = w.ledger := rfl

@[simp] theorem held_move {src dst : K} {n : ℕ} :
    held program (w.move src dst n).ledger k' = held program w.ledger k' := by
  simp [Exec.move]

end Held

theorem store_ok [Record D R] {w w' : Exec K D} {k : K} {r : R}
    (h : (w.store k r : Except (ProgramError C) _) = .ok w') :
    (∃ r₀ : R, (w.ledger k).data = Record.toData r₀) ∧
      w' = w.setData k (Record.toData r) := by
  unfold Exec.store at h
  split at h
  · rename_i r₀ h₀
    exact ⟨⟨r₀, Record.ofData_eq.mp h₀⟩, (Except.ok.inj h).symm⟩
  · cases h

end Kargain.Accounts
