/-
  Kargain.Evm.History — what the events of a mode say about a passport.

  Statements about whole runs compare a call with what happened before
  it: the terms a lot was opened with, who owned the passport when its
  mandate was granted.  Here these are read off the event log, which no
  entry point reads.

  Logs are newest first; every reading looks at one passport.
-/
import Kargain.Evm.Types

namespace Kargain.Evm

/-- The events of a mode and the transfers of the registry, each with its sender. -/
abbrev Log := List (Address × Event)

/-! ## §1. Lots. -/

/-- What the log says about the latest consignment of a passport.  `ownFloorCut` is set when
    the seller himself has lowered the floor. -/
structure Lot where
  seller : Address
  agent : Address
  form : CompensationForm
  floorAtOpen : ℕ
  floor : ℕ
  settled : Bool
  ownFloorCut : Bool

def Lot.none : Lot := ⟨.zero, .zero, .margin, 0, 0, false, false⟩

def lotAfter (t : TokenId) : Log → Lot
  | [] => .none
  | (s, e) :: older =>
    let l := lotAfter t older
    match e with
    | .consignmentOpened t' seller agent _ _ floor compensation _ _ _ =>
      if t' = t then ⟨seller, agent, compensation.form, floor, floor, false, false⟩ else l
    | .settled t' _ _ _ => if t' = t then { l with settled := true } else l
    | .consignmentFloorLowered t' n =>
      if t' = t then { l with floor := n, ownFloorCut := l.ownFloorCut || s == l.seller } else l
    | _ => l

/-- The events that do not change any lot, and split nothing. -/
def Event.leavesLots : Event → Bool
  | .consignmentOpened .. | .settled .. | .consignmentFloorLowered ..
  | .consignmentSplitPaid .. => false
  | _ => true

theorem lotAfter_leaves {t : TokenId} {s : Address} {e : Event} {older : Log}
    (h : e.leavesLots = true) : lotAfter t ((s, e) :: older) = lotAfter t older := by
  cases e <;> first | rfl | cases h

/-! ## §2. Ownership and mandates. -/

/-- The account behind a passport: its owner, or while the mode has custody the account it
    came from.  `genesis` is the owner before the first event. -/
def principalAfter (genesis : TokenId → Option Address) (t : TokenId) : Log → Option Address
  | [] => genesis t
  | (_, e) :: older =>
    match e with
    | .transfer src dst t' =>
      if t' = t then some (if dst = .self then src else dst) else principalAfter genesis t older
    | _ => principalAfter genesis t older

/-- A standing grant: the granter as the event names him, the account behind the passport
    at that time, and the terms. -/
structure Grant where
  granter : Address
  principal : Option Address
  terms : MandateRecord

/-- The grant of a passport that has not been revoked or replaced. -/
def grantAfter (genesis : TokenId → Option Address) (t : TokenId) : Log → Option Grant
  | [] => none
  | (_, e) :: older =>
    match e with
    | .mandateGranted t' owner agent expiry asset denomination floor compensation =>
      if t' = t then
        some ⟨owner, principalAfter genesis t older,
          ⟨agent, expiry, asset, denomination, floor, compensation, true⟩⟩
      else grantAfter genesis t older
    | .mandateRevoked t' _ _ => if t' = t then none else grantAfter genesis t older
    | _ => grantAfter genesis t older

/-- The events that move no passport and change no mandate. -/
def Event.leavesMandates : Event → Bool
  | .transfer .. | .mandateGranted .. | .mandateRevoked .. | .consignmentOpened .. => false
  | _ => true

theorem principalAfter_leaves {genesis : TokenId → Option Address} {t : TokenId} {s : Address}
    {e : Event} {older : Log} (h : e.leavesMandates = true) :
    principalAfter genesis t ((s, e) :: older) = principalAfter genesis t older := by
  cases e <;> first | rfl | cases h

theorem grantAfter_leaves {genesis : TokenId → Option Address} {t : TokenId} {s : Address}
    {e : Event} {older : Log} (h : e.leavesMandates = true) :
    grantAfter genesis t ((s, e) :: older) = grantAfter genesis t older := by
  cases e <;> first | rfl | cases h

end Kargain.Evm
