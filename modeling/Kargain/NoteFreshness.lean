/-
  Kargain.NoteFreshness — is an external payment confirmed on a note of
  its own consignment?

  Both fixed-price modes keep the note apart from the lot, and no exit
  but the confirmation clears it.  A note of a consignment that was
  withdrawn, recalled or sold stands when the passport is offered again
  (`stale_notes`); where none stands at an offer, every confirmation is
  fresh (`notes_stay_fresh`).
-/
import Kargain.Evm.SettlementNotes
import Kargain.Svm.SettlementNotes

namespace Kargain

open Evm.FixedPrice (CleanRule FreshRule smallGenesis_genesis)
open Svm.FixedPrice (Clean Fresh confirmCall stand stand_genesis)

/-- **Notes stay fresh.**  In every run in which no lot is opened over a note, a confirmed payment
    has a note recorded since its lot was opened.  On Solana the confirmation is handed the
    accounts of its token. -/
theorem notes_stay_fresh {P : Type} [Evm.Erc721 P] (V : Svm.Platform) (W : Svm.AmountOffset) :
    (∀ w : Evm.FixedPrice.World P,
      Reachable Evm.FixedPrice.mode.step Evm.FixedPrice.Genesis w → Throughout CleanRule w.log →
        Throughout FreshRule w.log) ∧
    (∀ (s₀ s s' : Svm.FixedPrice.System) (as : List Svm.FixedPrice.Action) (x : Svm.Call)
      (t : Svm.TokenId) (buyer : Svm.Pubkey),
      Svm.FixedPrice.Genesis s₀ →
        Along (Svm.FixedPrice.step V W) Clean s₀
          (as ++ [.instruction x (.confirmExternalPayment t buyer)]) →
        run (Svm.FixedPrice.step V W) s₀ as = .ok s →
        Svm.FixedPrice.step V W s (.instruction x (.confirmExternalPayment t buyer)) = .ok s' →
        Fresh s t) :=
  ⟨fun _ h hclean => Evm.FixedPrice.confirmed_fresh h hclean,
    fun _ _ _ _ _ _ _ h0 hok hr h => Svm.FixedPrice.confirmed_fresh V W h0 hok hr h⟩

/-- **A note outlives its consignment**: recorded for a lot that is then withdrawn, it confirms the
    next lot of the passport, on both sides. -/
theorem stale_notes :
    (run (Evm.FixedPrice.mode (P := Evm.Registry)).step Evm.FixedPrice.smallGenesis
        Evm.FixedPrice.staleNote).isOk = true ∧
    ¬ Throughout FreshRule (finalState (Evm.FixedPrice.mode (P := Evm.Registry)).step
        Evm.FixedPrice.smallGenesis Evm.FixedPrice.staleNote).log ∧
    Svm.FixedPrice.Genesis stand ∧ ∃ s s',
      run (Svm.FixedPrice.step .reference .reference) stand Svm.FixedPrice.staleNote = .ok s ∧
      Svm.FixedPrice.step .reference .reference s
        (.instruction confirmCall (.confirmExternalPayment 1 (.key 3))) = .ok s' ∧ ¬ Fresh s 1 := by
  exact ⟨by decide +kernel, by decide +kernel, Svm.FixedPrice.stale_note⟩

/-- A lot opened, noted and confirmed, on both sides. -/
theorem notes_stay_fresh_stand :
    Throughout FreshRule (finalState (Evm.FixedPrice.mode (P := Evm.Registry)).step
      Evm.FixedPrice.smallGenesis Evm.FixedPrice.freshNote).log ∧
    ∃ s, run (Svm.FixedPrice.step .reference .reference) stand Svm.FixedPrice.freshNote = .ok s ∧
      Fresh s 1 := by
  constructor
  · have hclean : Throughout CleanRule (finalState (Evm.FixedPrice.mode (P := Evm.Registry)).step
        Evm.FixedPrice.smallGenesis Evm.FixedPrice.freshNote).log := by
      decide +kernel
    exact (notes_stay_fresh (P := Evm.Registry) .reference .reference).1 _ ⟨Evm.FixedPrice.smallGenesis, Evm.FixedPrice.freshNote,
      smallGenesis_genesis, run_finalState (by decide +kernel)⟩ hclean
  · have hrun : run (Svm.FixedPrice.step .reference .reference) stand Svm.FixedPrice.freshNote =
        .ok _ := run_finalState (by decide +kernel)
    obtain ⟨s', hs⟩ := exists_of_isOk (r := Svm.FixedPrice.step .reference .reference
      (finalState (Svm.FixedPrice.step .reference .reference) stand Svm.FixedPrice.freshNote)
      (.instruction confirmCall (.confirmExternalPayment 1 (.key 3)))) (by decide +kernel)
    have hok : Along (Svm.FixedPrice.step .reference .reference) Clean stand
        (Svm.FixedPrice.freshNote ++
          [.instruction confirmCall (.confirmExternalPayment 1 (.key 3))]) := by
      decide +kernel
    exact ⟨_, hrun, (notes_stay_fresh (P := Evm.Registry) .reference .reference).2 stand _ s' _ _ _ _
      stand_genesis hok hrun hs⟩

end Kargain
