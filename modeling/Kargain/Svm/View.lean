/-
  Kargain.Svm.View — what an instruction under way does to data and assets.

  `view` keeps of a ledger the data of every account and the live Core
  assets, and forgets lamports.  Each operation a handler is made of does
  one thing to the view (`view_store`, `view_createPda`, the five Core
  instructions), or nothing (`view_move`, `view_payNative`), so the effect
  of a handler is read off it line by line.
-/
import Kargain.Svm.Effects

namespace Kargain.Svm

open Kargain.Accounts

/-! ## §1. The view and its updates. -/

structure View where
  data : Pubkey → Data
  core : Pubkey → Option CoreAsset

def view (L : Ledger) : View := ⟨fun k => (L k).data, coreAt L⟩

namespace View

variable (v : View)

/-- Write data that is no asset. -/
def put (k : Pubkey) (d : Data) : View := { v with data := Function.update v.data k d }

/-- Write an asset. -/
def putAsset (k : Pubkey) (a : CoreAsset) : View :=
  ⟨Function.update v.data k (.coreAsset a), Function.update v.core k (some a)⟩

/-- Burn an asset: the byte is left. -/
def burn (k : Pubkey) : View :=
  ⟨Function.update v.data k .byte, Function.update v.core k none⟩

variable {v} {k k' : Pubkey} {d : Data} {a : CoreAsset}

@[simp] theorem put_core : (v.put k d).core = v.core := rfl

@[simp] theorem put_data : (v.put k d).data k' = if k' = k then d else v.data k' := by
  simp [put, Function.update_apply]

@[simp] theorem put_put {d' : Data} : (v.put k d).put k d' = v.put k d' := by
  simp [put]

@[simp] theorem putAsset_core :
    (v.putAsset k a).core k' = if k' = k then some a else v.core k' := by
  simp [putAsset, Function.update_apply]

@[simp] theorem putAsset_data :
    (v.putAsset k a).data k' = if k' = k then .coreAsset a else v.data k' := by
  simp [putAsset, Function.update_apply]

@[simp] theorem burn_core : (v.burn k).core k' = if k' = k then none else v.core k' := by
  simp [burn, Function.update_apply]

@[simp] theorem burn_data : (v.burn k).data k' = if k' = k then .byte else v.data k' := by
  simp [burn, Function.update_apply]

/-- The asset under `k` is written again after a record elsewhere. -/
theorem putAsset_put_putAsset {b : CoreAsset} (h : k ≠ k') :
    ((v.putAsset k a).put k' d).putAsset k b = (v.putAsset k b).put k' d := by
  unfold putAsset put
  simp only [Function.update_idem]
  rw [Function.update_comm h, Function.update_idem, Function.update_comm h.symm]

end View

@[simp] theorem view_data {L : Ledger} {k : Pubkey} : (view L).data k = (L k).data := rfl

@[simp] theorem view_core {L : Ledger} {k : Pubkey} : (view L).core k = coreAt L k := rfl

/-- Two ledgers that agree on owners and data have one view. -/
theorem view_congr {L L' : Ledger}
    (h : ∀ k, (L' k).owner = (L k).owner ∧ (L' k).data = (L k).data) : view L' = view L := by
  unfold view
  congr 1
  · funext k
    exact (h k).2
  · funext k
    exact coreAt_congr (h k).1 (h k).2

/-- Only the data under `k` differs, and it is no asset on either side. -/
theorem view_put {L L' : Ledger} {k : Pubkey} {d : Data}
    (hrest : ∀ k', k' ≠ k → (L' k').owner = (L k').owner ∧ (L' k').data = (L k').data)
    (hd : (L' k).data = d) (hn : coreAt L k = none) (hn' : coreAt L' k = none) :
    view L' = (view L).put k d := by
  unfold view View.put
  congr 1
  · funext k'
    by_cases hk : k' = k
    · subst hk
      simpa using hd
    · simpa [hk] using (hrest k' hk).2
  · funext k'
    by_cases hk : k' = k
    · subst hk
      exact hn'.trans hn.symm
    · exact coreAt_congr (hrest k' hk).1 (hrest k' hk).2

/-! ## §2. The operations. -/

section Operations

variable {P : Platform} {p k : Pubkey} {x : Call} {w w' : Exec} {n : ℕ}

theorem view_setData {d : Data} (ho : (w.ledger k).owner ≠ .mplCore) :
    view (w.setData k d).ledger = (view w.ledger).put k d := by
  refine view_put (fun k' hk => ?_) ?_ (coreAt_of_owner ho) (coreAt_of_owner ?_)
  · simp [Exec.setData, Exec.set, hk]
  · simp [Exec.setData, Exec.set]
  · simpa [Exec.setData, Exec.set] using ho

theorem view_store {R : Type} [Record Data R] {r : R}
    (hR : ∀ r : R, (Record.toData r).isRecord = true)
    (h : w.store k r = (.ok w' : Except Error Exec)) :
    (∃ r₀ : R, (w.ledger k).data = Record.toData r₀) ∧
      view w'.ledger = (view w.ledger).put k (Record.toData r) := by
  obtain ⟨⟨r₀, hr₀⟩, rfl⟩ := store_ok h
  refine ⟨⟨r₀, hr₀⟩, view_put (fun k' hk => ?_) ?_ (coreAt_of_data fun a => ?_)
    (coreAt_of_data fun a => ?_)⟩
  · simp [Exec.setData, Exec.set, hk]
  · simp [Exec.setData, Exec.set]
  · rw [hr₀]
    exact not_coreAsset (hR r₀) a
  · simpa [Exec.setData, Exec.set] using not_coreAsset (hR r) a

theorem view_createPda {payer account : Pubkey} {space : ℕ} {d : Data}
    (hp : p.isDeployed = true)
    (h : createPda P p x w payer account p space d = .ok w') :
    (w.ledger account).owner = .system ∧ (w.ledger account).data = .empty ∧
      (w'.ledger account).owner = p ∧ view w'.ledger = (view w.ledger).put account d := by
  obtain ⟨-, ho, he, -, -, hne, hl, -⟩ := createPda_ok h
  have hpo : (w'.ledger account).owner = p := by simp [hl]
  refine ⟨ho, he, hpo, view_put (fun k' hk => ?_) (by simp [hl]) (coreAt_of_owner ?_)
    (coreAt_of_owner ?_)⟩
  · by_cases hkp : k' = payer
    · subst hkp
      simp [hl, hk]
    · simp [hl, hk, hkp]
  · rw [ho]
    intro e
    cases e
  · rw [hpo]
    rintro rfl
    cases hp

/-- An account created and then written. -/
theorem view_created {payer account : Pubkey} {space : ℕ} {d d' : Data}
    (hp : p.isDeployed = true)
    (h : createPda P p x w payer account p space d = .ok w') :
    view (w'.setData account d').ledger = (view w.ledger).put account d' := by
  obtain ⟨-, -, ho, hv⟩ := view_createPda hp h
  have hne : (w'.ledger account).owner ≠ .mplCore := by
    rw [ho]
    rintro rfl
    cases hp
  rw [view_setData hne, hv, View.put_put]

@[simp] theorem view_move {src dst : Pubkey} : view (w.move src dst n).ledger = view w.ledger :=
  view_congr fun _ => ⟨move_frame.1, move_frame.2.1⟩

theorem view_payNative {src dst : Pubkey} (h : payNative p x w src dst n = .ok w') :
    view w'.ledger = view w.ledger := by
  obtain ⟨-, rfl | ht⟩ := payNative_ok h
  · rfl
  · have hk := (systemTransfer_ok ht).2.2
    exact view_congr fun k => ⟨(hk k).1, (hk k).2.1⟩

/-- A Core instruction changes the view at its asset only. -/
theorem CoreFrame.view {asset payer : Pubkey} {L L' : Ledger} {a : CoreAsset}
    (h : CoreFrame asset payer L L') (ha : coreAt L' asset = some a) :
    Svm.view L' = (Svm.view L).putAsset asset a := by
  unfold Svm.view View.putAsset
  congr 1
  · funext k'
    by_cases hk : k' = asset
    · subst hk
      simpa using (coreAt_eq_some.mp ha).2
    · simpa [hk] using (h.1 k' hk).2
  · funext k'
    by_cases hk : k' = asset
    · subst hk
      simpa using ha
    · simpa [hk] using coreAt_congr (h.1 k' hk).1 (h.1 k' hk).2

section Core

variable {signers : List Pubkey} {asset payer authority : Pubkey}

theorem view_createV1 {owner updateAuthority freezeAuthority : Pubkey} {uri : Text}
    {frozen : Bool} (h : w.invoke p x (P.createV1 signers asset payer owner updateAuthority uri
      freezeAuthority frozen) = .ok w') :
    Free (w.ledger asset) ∧ view w'.ledger = (view w.ledger).putAsset asset
      ⟨owner, uri, updateAuthority, frozen, some freezeAuthority, none⟩ := by
  obtain ⟨-, hfree, ha, hf⟩ := P.createV1_ok (invoke_ok h).1
  exact ⟨hfree, hf.view ha⟩

theorem view_burnV1 (h : w.invoke p x (P.burnV1 signers asset payer authority) = .ok w') :
    view w'.ledger = (view w.ledger).burn asset := by
  obtain ⟨-, -, hd, -, hf⟩ := P.burnV1_ok (invoke_ok h).1
  unfold view View.burn
  congr 1
  · funext k'
    by_cases hk : k' = asset
    · subst hk
      simpa using hd
    · simpa [hk] using (hf.1 k' hk).2
  · funext k'
    by_cases hk : k' = asset
    · subst hk
      simpa using coreAt_of_data fun a => by simp [hd]
    · simpa [hk] using coreAt_congr (hf.1 k' hk).1 (hf.1 k' hk).2

theorem view_transferV1 {newOwner : Pubkey}
    (h : w.invoke p x (P.transferV1 signers asset payer authority newOwner) = .ok w') :
    ∃ a, coreAt w.ledger asset = some a ∧ authority ∈ signers ∧
      (a.owner = authority ∨ a.transferDelegate = some authority) ∧
      view w'.ledger = (view w.ledger).putAsset asset
        { a with owner := newOwner, transferDelegate := none } := by
  obtain ⟨⟨a, ha, hs, hauth, ha'⟩, hf⟩ := P.transferV1_ok (invoke_ok h).1
  exact ⟨a, ha, hs, hauth, hf.view ha'⟩

theorem view_updateV1 {uri : Text}
    (h : w.invoke p x (P.updateV1 signers asset payer authority uri) = .ok w') :
    ∃ a, coreAt w.ledger asset = some a ∧ a.updateAuthority = authority ∧
      view w'.ledger = (view w.ledger).putAsset asset { a with uri := uri } := by
  obtain ⟨⟨a, ha, -, hu, ha'⟩, hf⟩ := P.updateV1_ok (invoke_ok h).1
  exact ⟨a, ha, hu, hf.view ha'⟩

theorem view_updatePluginV1 {frozen : Bool}
    (h : w.invoke p x (P.updatePluginV1 signers asset payer authority frozen) = .ok w') :
    ∃ a, coreAt w.ledger asset = some a ∧ a.freezeAuthority = some authority ∧
      view w'.ledger = (view w.ledger).putAsset asset { a with frozen := frozen } := by
  obtain ⟨⟨a, ha, -, hu, ha'⟩, hf⟩ := P.updatePluginV1_ok (invoke_ok h).1
  exact ⟨a, ha, hu, hf.view ha'⟩

end Core

end Operations

end Kargain.Svm
