/-
  Kargain.Svm.Kinds — records of one kind.

  A record is written over data of its own layout, or over nothing.  So
  what a program has on record of one kind changes only where a record of
  that kind is written: `KeepsKind p K off` says that the books of `p`
  hold the same records of kind `K` as before, but for the accounts
  `off`.
-/
import Kargain.Svm.Modes

namespace Kargain.Svm

open Kargain.Accounts

/-- The books of `p` hold the same records of kind `K`, but for `off`. -/
structure KeepsKind (p : Pubkey) (K : Data → Prop) (off : Pubkey → Prop) (L L' : Ledger) :
    Prop where
  seated : Seated p L → Seated p L'
  kept : ∀ s : Seed, s.isBook = true → ¬ off (.pda p s) → ∀ d, K d →
    ((L' (.pda p s)).data = d ↔ (L (.pda p s)).data = d)

/-- No account is left out. -/
abbrev nowhere : Pubkey → Prop := fun _ => False

section KeepsKind

variable {P : Platform} {p k payer : Pubkey} {K : Data → Prop} {off : Pubkey → Prop} {x : Call}
  {w w' : Exec} {L L' L'' : Ledger} {d : Data} {space : ℕ}

theorem KeepsKind.refl (L : Ledger) : KeepsKind p K off L L :=
  ⟨fun h => h, fun _ _ _ _ _ => Iff.rfl⟩

theorem KeepsKind.trans (h : KeepsKind p K off L L') (h' : KeepsKind p K off L' L'') :
    KeepsKind p K off L L'' :=
  ⟨h'.seated ∘ h.seated, fun s hs hk d hd => (h'.kept s hs hk d hd).trans (h.kept s hs hk d hd)⟩

theorem KeepsKind.of_books (h : SameBooks p L L') : KeepsKind p K off L L' := by
  refine ⟨fun hs => (Books.same hs h).seated, fun s hs _ d _ => ?_⟩
  rw [(h s hs).2]

/-- What is kept everywhere is kept but for some accounts. -/
theorem KeepsKind.but (h : KeepsKind p K nowhere L L') : KeepsKind p K off L L' :=
  ⟨h.seated, fun s hs _ => h.kept s hs fun hk => hk⟩

/-- Writing under `k`: another kind over another kind, the same again, or an account left out. -/
theorem KeepsKind.setData
    (h : off k ∨ d = (w.ledger k).data ∨ ¬ K (w.ledger k).data ∧ ¬ K d) :
    KeepsKind p K off w.ledger (w.setData k d).ledger := by
  refine ⟨fun hs => (Books.setData hs).seated, fun s hs hk d' hd' => ?_⟩
  by_cases he : Pubkey.pda p s = k
  · subst he
    simp only [Exec.setData, Exec.set, Function.update_self]
    rcases h with h | rfl | ⟨hold, hnew⟩
    · exact absurd h hk
    · rfl
    · exact ⟨fun e => absurd (e ▸ hd') hnew, fun e => absurd (e ▸ hd') hold⟩
  · simp [Exec.setData, Exec.set, he]

theorem KeepsKind.store {R : Type} [Record Data R] {r : R}
    (hR : off k ∨ ∀ r : R, ¬ K (Record.toData r))
    (h : w.store k r = (.ok w' : Except Error Exec)) : KeepsKind p K off w.ledger w'.ledger := by
  obtain ⟨⟨r₀, h₀⟩, rfl⟩ := store_ok h
  refine .setData ?_
  rcases hR with hk | hR
  · exact .inl hk
  · exact .inr (.inr ⟨h₀ ▸ hR r₀, hR r⟩)

theorem KeepsKind.createPda (hd : off k ∨ ¬ K .empty ∧ ¬ K d)
    (h : createPda P p x w payer k p space d = .ok w') :
    KeepsKind p K off w.ledger w'.ledger := by
  refine ⟨fun hs => (Books.createPda hs h).seated, fun s hs hk d' hd' => ?_⟩
  by_cases he : Pubkey.pda p s = k
  · obtain ⟨-, -, hempty, -, -, -, hl, -⟩ := createPda_ok h
    rcases hd with hoff | ⟨hnone, hnew⟩
    · exact absurd (he ▸ hoff) hk
    · rw [he, hl, Function.update_self, hempty]
      constructor
      · intro e
        obtain rfl : d = d' := e
        exact absurd hd' hnew
      · intro e
        exact absurd (e ▸ hd') hnone
  · rw [(createPda_frame h he).2.1]

theorem KeepsKind.ensurePda (hd : off k ∨ ¬ K .empty ∧ ¬ K d)
    (h : ensurePda P p x w payer k p space d = .ok w') :
    KeepsKind p K off w.ledger w'.ledger := by
  unfold Svm.ensurePda at h
  split at h
  · exact .createPda hd h
  · obtain rfl : w = w' := Except.ok.inj h
    exact .refl _

/-- A record of the kind reads the same. -/
theorem KeepsKind.reads {R : Type} [Record Data R] {s : Seed} (h : KeepsKind p K off L L')
    (hK : ∀ r : R, K (Record.toData r)) (hs : s.isBook = true) (hoff : ¬ off (.pda p s)) :
    (Record.ofData (L' (.pda p s)).data : Option R) = Record.ofData (L (.pda p s)).data := by
  refine Option.ext fun r => ?_
  rw [Record.ofData_eq, Record.ofData_eq]
  exact h.kept s hs hoff _ (hK r)

end KeepsKind

end Kargain.Svm
