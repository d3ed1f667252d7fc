/-
  Kargain.Evm.Messages — messages, re-entry and runs of one mode.

  A message names its sender, the value it carries, the entry point it
  calls, and, for each external call that entry point makes, what the
  callee will do: accept or refuse, and send further messages in before
  it returns.  Those further messages are executed by the same function,
  one level deeper in the call stack, against the world as it stands in
  the middle of the outer call; one that reverts leaves no trace.

  The two modes differ in their own calls and in the `Hooks`, so both are
  parameters here.
-/
import Kargain.Base.Runs
import Kargain.Evm.ConsignmentBase

namespace Kargain.Evm

variable {P σ γ : Type}

/-! ## §1. Messages. -/

/-- What the callee of one external call is going to do, `M` being the messages. -/
structure Callee (M : Type) where
  success : Bool
  data : ReturnData
  balanceAfter : ℕ
  reenter : List M

/-- A message to the mode, or something that happens around it. -/
inductive Msg (γ : Type) where
  | tx (sender : Caller) (value : ℕ) (call : γ) (callees : List (Callee (Msg γ)))
  | outside (o : Outside)

/-- A callee that accepts and does nothing else. -/
def Callee.accept {M : Type} : Callee M := ⟨true, ⟨32, 1⟩, 0, []⟩

/-- The reply of a callee whose messages are executed by `ex`. -/
def Callee.reply {M : Type} (ex : M → World P σ → Except Error (World P σ)) (c : Callee M) :
    Reply P σ :=
  ⟨c.success, c.data, c.balanceAfter, fun w => c.reenter.foldl (fun w m => caught w (ex m w)) w⟩

/-- One mode: its hooks and its table of entry points.  The `i`-th external call of an
    entry point is answered by `rs i`. -/
structure Mode (P σ γ : Type) where
  hooks : Hooks P σ
  dispatch : (sender : Address) → (value : ℕ) → γ → (rs : ℕ → Reply P σ) → World P σ →
    Except Error (World P σ)

/-- The limit of the call stack. -/
def callDepthLimit : ℕ := 1024

section Exec

variable [Erc721 P] in
/-- Execute a message with `d` levels of the call stack left. -/
def Mode.exec (M : Mode P σ γ) : ℕ → Msg γ → World P σ → Except Error (World P σ)
  | 0, _, _ => .error .callDepth
  | _ + 1, .outside o, w => execOutside M.hooks w o
  | d + 1, .tx sender value call callees, w =>
    M.dispatch sender.addr value call
      (fun i => (callees.getD i Callee.accept).reply (fun m u => M.exec d m u)) w

/-- What can be done at top level: send a message, or let time pass. -/
inductive Action (γ : Type) where
  | msg (m : Msg γ)
  | tick (dt : ℕ)

/-- A call none of whose callees does anything but accept. -/
def Action.call (sender : ℕ) (value : ℕ) (c : γ) : Action γ :=
  .msg (.tx (Caller.account sender) value c [])

variable [Erc721 P] in
def Mode.step (M : Mode P σ γ) (w : World P σ) : Action γ → Except Error (World P σ)
  | .msg m => M.exec callDepthLimit m w
  | .tick dt => .ok { w with env := { w.env with now := w.env.now + dt } }

/-! ## §2. The induction over the call stack. -/

/-- A relation kept by whatever a callee sends in. -/
def Keeps (R : World P σ → World P σ → Prop) (r : Reply P σ) : Prop :=
  ∀ w, R w (r.reenter w)

theorem Callee.keeps {M : Type} {R : World P σ → World P σ → Prop} (hrefl : ∀ w, R w w)
    (htrans : ∀ {u v w}, R u v → R v w → R u w)
    {ex : M → World P σ → Except Error (World P σ)}
    (hex : ∀ m w w', ex m w = .ok w' → R w w') (c : Callee M) : Keeps R (c.reply ex) := by
  intro w
  show R w (c.reenter.foldl (fun w m => caught w (ex m w)) w)
  induction c.reenter generalizing w with
  | nil => exact hrefl w
  | cons m ms ih => exact htrans (caught_of (hrefl w) fun w' => hex m w w') (ih _)

variable [Erc721 P]

/-- **Nested execution.**  A reflexive, transitive relation that the surroundings keep, and
    that every entry point keeps when its callees do, is kept by every message at every
    depth of the call stack. -/
theorem Mode.exec_keeps {M : Mode P σ γ} {R : World P σ → World P σ → Prop}
    (hrefl : ∀ w, R w w) (htrans : ∀ {u v w}, R u v → R v w → R u w)
    (houtside : ∀ o w w', execOutside M.hooks w o = .ok w' → R w w')
    (hdispatch : ∀ (sender : Caller) value call rs w w', (∀ i, Keeps R (rs i)) →
      M.dispatch sender.addr value call rs w = .ok w' → R w w') :
    ∀ d m w w', M.exec d m w = .ok w' → R w w' := by
  intro d
  induction d with
  | zero => intro m w w' h; cases h
  | succ d ih =>
    intro m w w' h
    cases m with
    | outside o => exact houtside o w w' h
    | tx sender value call callees =>
      exact hdispatch sender value call _ w w' (fun i => Callee.keeps hrefl htrans ih _) h

end Exec

/-! ## §3. The entry points of the base. -/

/-- Calls of Mandate, Recall and ConsignmentBase that both modes inherit unchanged. -/
inductive BaseCall where
  | grant (t : TokenId) (agent : Address) (expiry : ℕ) (asset : Address)
      (denomination : Denomination) (floor : ℕ) (compensation : Compensation)
  | revoke (t : TokenId)
  | lowerFloor (t : TokenId) (newFloor : ℕ)
  | lowerCommission (t : TokenId) (newBps : ℕ)
  | requestRecall (t : TokenId)
  | forceRecall (t : TokenId)
  | pause
  | unpause
  | setGuardian (newGuardian : Address)
  | transferOwnership (newOwner : Address)
  | ownerWithdraw (t : TokenId)
  | agentWithdraw (t : TokenId)
  | withdrawClaim (asset : Address)

/-- The calls of the base that take the re-entrancy guard. -/
def BaseCall.guarded : BaseCall → Bool
  | .ownerWithdraw _ | .agentWithdraw _ | .withdrawClaim _ => true
  | _ => false

/-- The base's part of the table: none of these is payable, and only the last three are
    `nonReentrant`. -/
def execBase [Erc721 P] (H : Hooks P σ) (sender : Address) (rs : ℕ → Reply P σ)
    (w : World P σ) : BaseCall → Except Error (World P σ)
  | .grant t agent expiry asset denomination floor compensation =>
    grant w sender t agent expiry asset denomination floor compensation
  | .revoke t => revoke w sender t
  | .lowerFloor t newFloor => lowerFloor w sender t newFloor
  | .lowerCommission t newBps => lowerCommission w sender t newBps
  | .requestRecall t => requestRecall w sender t
  | .forceRecall t => forceRecall H w sender t (rs 0)
  | .pause => pause w sender
  | .unpause => unpause w sender
  | .setGuardian newGuardian => setGuardian w sender newGuardian
  | .transferOwnership newOwner => transferOwnership w sender newOwner
  | .ownerWithdraw t => nonReentrant w fun w => ownerWithdrawBody H w sender t (rs 0)
  | .agentWithdraw t => nonReentrant w fun w => agentWithdrawBody H w sender t (rs 0)
  | .withdrawClaim asset => nonReentrant w fun w => withdrawClaimBody w sender asset (rs 0)

/-- A function that is not payable refuses any value. -/
def nonPayable (value : ℕ) : Except Error Unit := revertIf (value ≠ 0) .nonPayable

/-- The value a payable call carries arrives before its body runs. -/
def World.receiveValue (w : World P σ) (value : ℕ) : World P σ :=
  w.setAcct { w.acct with balance := w.acct.balance + value }

end Kargain.Evm
