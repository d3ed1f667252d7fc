/-
  Kargain.Svm.Effects — what an accepted instruction is made of.

  A handler is a sequence of few kinds of operations: it creates
  accounts, calls the system program, Core or a token program, moves
  lamports, writes records and closes accounts.  `Op` lists them with
  what each needs, `Ops` is a sequence of them, and `Scope` says whose
  accounts a handler may pay from and which passports it may let out of
  custody.

  Main results: `records` of the program after each operation;
  `ops_custody`, custody lets go only of the passports in scope; and
  `ops_spares`, an account outside the scope is not paid from.
-/
import Mathlib
import Kargain.Svm.Platform

namespace Kargain.Svm

open Kargain.Accounts Relation

/-! ## §1. The records of a program. -/

/-- The records a program keeps, by the seeds of their accounts. -/
abbrev Records := Seed → Option Data

def records (programId : Pubkey) (L : Ledger) : Records := fun s => held programId L (.pda programId s)

/-- Overwrite the record under `k`, if there is one. -/
def Records.put (v : Records) (programId k : Pubkey) (d : Data) : Records := fun s =>
  if .pda programId s = k then (v s).map fun _ => d else v s

/-- Drop the record under `k`. -/
def Records.drop (v : Records) (programId k : Pubkey) : Records := fun s =>
  if .pda programId s = k then none else v s

def Pubkey.isDeployed : Pubkey → Bool
  | .program _ => true
  | _ => false

section RecordLemmas

variable {v : Records} {p k : Pubkey} {s s' : Seed} {d : Data} {n : ℕ}

@[simp] theorem Records.put_pda : v.put p (.pda p s) d s' =
    if s' = s then (v s).map fun _ => d else v s' := by
  by_cases h : s' = s
  · subst h
    simp [Records.put]
  · simp [Records.put, h]

@[simp] theorem Records.drop_pda : v.drop p (.pda p s) s' = if s' = s then none else v s' := by
  by_cases h : s' = s
  · subst h
    simp [Records.drop]
  · simp [Records.drop, h]

variable {P : Platform} {x : Call} {w w' : Exec}

theorem createPda_ok {payer account owner : Pubkey} {space : ℕ}
    (h : createPda P p x w payer account owner space d = .ok w') :
    x.isSigner payer ∧ (w.ledger account).owner = .system ∧ (w.ledger account).data = .empty ∧
      (w.ledger payer).owner = .system ∧ (w.ledger payer).data = .empty ∧ account ≠ payer ∧
      w'.ledger = Function.update (Function.update w.ledger payer
        { w.ledger payer with
          lamports := (w.ledger payer).lamports - P.minimumBalance space })
        account ⟨P.minimumBalance space, owner, d, false⟩ ∧ w'.debits = w.debits := by
  obtain ⟨hl, hd⟩ := invoke_ok h
  simp only [createAccount, bind_ok, require_ok, pure_ok, exists_const] at hl
  obtain ⟨⟨hsign, -⟩, ⟨ho, he, hz⟩, ⟨hpo, hpe⟩, hle, hl⟩ := hl
  refine ⟨hsign, ho, he, hpo, hpe, ?_, hl.symm, hd⟩
  rintro rfl
  have := P.minimumBalance_pos space
  omega

theorem systemTransfer_ok {src dst : Pubkey} {n : ℕ} {L L' : Ledger}
    (h : systemTransfer x src dst n L = .ok L') :
    x.isSigner src ∧ (L src).owner = .system ∧ ∀ k, (L' k).owner = (L k).owner ∧
      (L' k).data = (L k).data ∧ (k ≠ src → (L k).lamports ≤ (L' k).lamports) := by
  simp only [systemTransfer, bind_ok, require_ok, pure_ok, exists_const] at h
  obtain ⟨⟨hsign, -⟩, ⟨ho, -⟩, -, rfl⟩ := h
  refine ⟨hsign, ho, fun k => ?_⟩
  by_cases hd : k = dst <;> by_cases hs : k = src
  all_goals first | subst hd | skip
  all_goals first | subst hs | skip
  all_goals simp_all

theorem payNative_ok {src dst : Pubkey} {n : ℕ} (h : payNative p x w src dst n = .ok w') :
    w'.debits = w.debits ∧ (w' = w ∨ systemTransfer x src dst n w.ledger = .ok w'.ledger) := by
  unfold payNative at h
  split at h
  · obtain rfl : w = w' := Except.ok.inj h
    exact ⟨rfl, .inl rfl⟩
  · obtain ⟨hl, hd⟩ := invoke_ok h
    exact ⟨hd, .inr hl⟩

theorem payNativeFromPda_ok {src dst : Pubkey} {n : ℕ}
    (h : payNativeFromPda w src dst n = .ok w') :
    w' = w ∧ n = 0 ∨ n ≠ 0 ∧ n ≤ (w.ledger src).lamports ∧ w' = w.move src dst n := by
  unfold payNativeFromPda at h
  split at h
  · rename_i hn
    exact .inl ⟨(Except.ok.inj h).symm, hn⟩
  · rename_i hn
    simp only [bind_ok, revertIf_ok, pure_ok, exists_const, Nat.not_lt] at h
    exact .inr ⟨hn, h.1, h.2.symm⟩

@[simp] theorem records_move {src dst : Pubkey} {n : ℕ} :
    records p (w.move src dst n).ledger = records p w.ledger :=
  funext fun _ => held_move

end RecordLemmas

/-! ## §2. The operations of a handler. -/

/-- Data the programs write as records: no asset, token account or mint. -/
def Data.isRecord : Data → Bool
  | .coreAsset _ | .token _ | .mint _ => false
  | _ => true

/-- What a handler may touch that is not the signers' own. -/
structure Scope where
  /-- accounts paid from, and addresses signed for towards token programs -/
  pays : Pubkey → Prop
  /-- passports let out of custody -/
  releases : Pubkey → Prop
  /-- programs called as token programs -/
  tokenPrograms : Pubkey → Prop

/-- One operation. -/
inductive Op (P : Platform) (p : Pubkey) (x : Call) (σ : Scope) : Exec → Exec → Prop
  | create {w w' : Exec} {payer account owner : Pubkey} {space : ℕ} {d : Data}
      (hd : d.isRecord = true ∨ d = .token default)
      (h : createPda P p x w payer account owner space d = .ok w') : Op P p x σ w w'
  | payNative {w w' : Exec} {src dst : Pubkey} {n : ℕ}
      (h : payNative p x w src dst n = .ok w') : Op P p x σ w w'
  | token {w w' : Exec} {tp : Pubkey} {seeds : List Pubkey} {ix : TokenInstruction}
      (hs : ∀ k ∈ seeds, σ.pays k) (ht : σ.tokenPrograms tp)
      (h : invokeToken P p x w tp seeds ix = .ok w') : Op P p x σ w w'
  | transferred {w w' : Exec} {asset payer authority newOwner : Pubkey}
      (h : w.invoke p x (P.transferV1 x.signers asset payer authority newOwner) = .ok w') :
      Op P p x σ w w'
  | released {w w' : Exec} {asset payer authority newOwner : Pubkey}
      (hk : newOwner = .custody p ∨ σ.releases asset)
      (h : w.invoke p x
        (P.transferV1 (.custody p :: x.signers) asset payer authority newOwner) = .ok w') :
      Op P p x σ w w'
  | paid {w w' : Exec} {src dst : Pubkey} {n : ℕ} (hs : σ.pays src)
      (h : payNativeFromPda w src dst n = .ok w') : Op P p x σ w w'
  | moved {w : Exec} {src dst : Pubkey} {n : ℕ} (hs : σ.pays src) :
      Op P p x σ w (w.move src dst n)
  | stored {w w' : Exec} {R : Type} [Record Data R] {k : Pubkey} {r : R}
      (hR : ∀ r : R, (Record.toData r).isRecord = true)
      (h : w.store k r = (.ok w' : Except Error Exec)) : Op P p x σ w w'
  | closed {w : Exec} {k recipient : Pubkey} {n : ℕ} {d : Data} (hs : σ.pays k)
      (hk : (w.ledger k).data.isRecord = true) (hd : d.isRecord = true) :
      Op P p x σ w (((w.move k recipient n).setData k d).assign k .system)

/-- What a handler does, operation by operation. -/
def Ops (P : Platform) (p : Pubkey) (x : Call) (σ : Scope) : Exec → Exec → Prop :=
  ReflTransGen (Op P p x σ)

section OpLemmas

variable {P : Platform} {p : Pubkey} {x : Call} {σ : Scope} {w w' : Exec}

theorem createPda_frame {payer account owner k : Pubkey} {space : ℕ} {d : Data}
    (h : createPda P p x w payer account owner space d = .ok w') (hk : k ≠ account) :
    (w'.ledger k).owner = (w.ledger k).owner ∧ (w'.ledger k).data = (w.ledger k).data ∧
      ((w.ledger k).owner ≠ .system → (w.ledger k).lamports ≤ (w'.ledger k).lamports) := by
  obtain ⟨-, -, -, hpo, -, -, hl, -⟩ := createPda_ok h
  rw [hl, Function.update_of_ne hk]
  by_cases hpay : k = payer
  · subst hpay
    simp [hpo]
  · simp [hpay]

theorem move_frame {src dst k : Pubkey} {n : ℕ} :
    ((w.move src dst n).ledger k).owner = (w.ledger k).owner ∧
      ((w.move src dst n).ledger k).data = (w.ledger k).data ∧
      (k ≠ src → (w.ledger k).lamports ≤ ((w.move src dst n).ledger k).lamports) := by
  by_cases hs : k = src <;> by_cases hd : k = dst
  all_goals first | subst hs | skip
  all_goals first | subst hd | skip
  all_goals simp_all [Exec.move, Exec.setLamports, Exec.set, Exec.record]

theorem payNative_frame {src dst k : Pubkey} {n : ℕ} (h : payNative p x w src dst n = .ok w') :
    (w'.ledger k).owner = (w.ledger k).owner ∧ (w'.ledger k).data = (w.ledger k).data ∧
      ((w.ledger k).owner ≠ .system → (w.ledger k).lamports ≤ (w'.ledger k).lamports) := by
  obtain ⟨-, rfl | ht⟩ := payNative_ok h
  · exact ⟨rfl, rfl, fun _ => Nat.le_refl _⟩
  · obtain ⟨-, ho, hk⟩ := systemTransfer_ok ht
    exact ⟨(hk k).1, (hk k).2.1, fun hne => (hk k).2.2 (by rintro rfl; exact hne ho)⟩

theorem paid_frame {src dst k : Pubkey} {n : ℕ} (h : payNativeFromPda w src dst n = .ok w') :
    (w'.ledger k).owner = (w.ledger k).owner ∧ (w'.ledger k).data = (w.ledger k).data ∧
      (k ≠ src → (w.ledger k).lamports ≤ (w'.ledger k).lamports) := by
  obtain ⟨rfl, -⟩ | ⟨-, -, rfl⟩ := payNativeFromPda_ok h
  · exact ⟨rfl, rfl, fun _ => Nat.le_refl _⟩
  · exact move_frame

theorem closed_frame {k recipient k' : Pubkey} {n : ℕ} {d : Data} (hne : k' ≠ k) :
    let L' := (((w.move k recipient n).setData k d).assign k .system).ledger
    (L' k').owner = (w.ledger k').owner ∧ (L' k').data = (w.ledger k').data ∧
      (w.ledger k').lamports ≤ (L' k').lamports := by
  have hm := @move_frame w k recipient k' n
  simpa [Exec.assign, Exec.setData, Exec.set, hne] using ⟨hm.1, hm.2.1, hm.2.2 hne⟩

theorem not_coreAsset {d : Data} (h : d.isRecord = true) (a : CoreAsset) : d ≠ .coreAsset a := by
  rintro rfl
  cases h

/-- **Custody.**  An operation lets out of custody only what is in scope. -/
theorem op_custody (hx : ∀ k ∈ x.signers, k.derivedBy p = false)
    (hσ : ¬ σ.pays (.custody p)) (h : Op P p x σ w w')
    (hnd : NoDelegates (.custody p) w.ledger) :
    NoDelegates (.custody p) w'.ledger ∧ ∀ k, CoreOwned (.custody p) w.ledger k →
      ¬ σ.releases k → CoreOwned (.custody p) w'.ledger k := by
  have hcx : Pubkey.custody p ∉ x.signers := by
    intro hm
    simpa [Pubkey.derivedBy] using hx _ hm
  -- all but Core and the token programs leave every asset as it is
  have same : (∀ k, coreAt w'.ledger k = coreAt w.ledger k) →
      NoDelegates (.custody p) w'.ledger ∧ ∀ k, CoreOwned (.custody p) w.ledger k →
        ¬ σ.releases k → CoreOwned (.custody p) w'.ledger k := by
    intro hsame
    refine ⟨fun k a ha => hnd k a (hsame k ▸ ha), ?_⟩
    rintro k ⟨a, ha, hc⟩ -
    exact ⟨a, (hsame k).trans ha, hc⟩
  -- a transfer by Core resets the delegate, and moves nothing else
  have core : ∀ {signers asset payer authority newOwner},
      w.invoke p x (P.transferV1 signers asset payer authority newOwner) = .ok w' →
      (newOwner = .custody p ∨ σ.releases asset ∨ authority ≠ .custody p) →
      NoDelegates (.custody p) w'.ledger ∧ ∀ k, CoreOwned (.custody p) w.ledger k →
        ¬ σ.releases k → CoreOwned (.custody p) w'.ledger k := by
    intro signers asset payer authority newOwner h hcase
    obtain ⟨⟨a, ha, -, hauth, ha'⟩, hrest, -⟩ := P.transferV1_ok (invoke_ok h).1
    have helse : ∀ k, k ≠ asset → coreAt w'.ledger k = coreAt w.ledger k :=
      fun k hk => coreAt_congr (hrest k hk).1 (hrest k hk).2
    refine ⟨fun k b hb hc => ?_, ?_⟩
    · by_cases hk : k = asset
      · subst hk
        obtain rfl := Option.some.inj (ha'.symm.trans hb)
        rfl
      · exact hnd k b (helse k hk ▸ hb) hc
    · rintro k ⟨b, hb, hc⟩ hrel
      by_cases hk : k = asset
      · subst hk
        refine ⟨_, ha', ?_⟩
        rcases hcase with hn | hr | hne
        · exact hn
        · exact absurd hr hrel
        · obtain rfl := Option.some.inj (ha.symm.trans hb)
          rcases hauth with ho | hd
          · exact absurd (ho.symm.trans hc) hne
          · rw [hnd _ _ ha hc] at hd
            cases hd
      · exact ⟨b, (helse k hk).trans hb, hc⟩
  cases h with
  | @create _ payer account owner space d hd h =>
    refine same fun k => ?_
    by_cases hk : k = account
    · subst hk
      obtain ⟨-, ho, -, -, -, -, hl, -⟩ := createPda_ok h
      rw [coreAt_of_owner (L := w.ledger) (by rw [ho]; simp), coreAt_of_data]
      intro a
      rw [hl, Function.update_self]
      rcases hd with hd | rfl
      · exact not_coreAsset hd a
      · simp
    · obtain ⟨ho, hd', -⟩ := createPda_frame h hk
      exact coreAt_congr ho hd'
  | payNative h =>
    refine same fun k => ?_
    obtain ⟨ho, hd, -⟩ := payNative_frame (k := k) h
    exact coreAt_congr ho hd
  | token hs ht h =>
    refine (P.token_core (invoke_ok h).1 ?_ hnd).imp_right fun hk k hc _ => hk k hc
    rw [List.mem_append]
    rintro (hm | hm)
    · exact hσ (hs _ hm)
    · exact hcx hm
  | transferred h =>
    refine core h (.inr (.inr ?_))
    obtain ⟨⟨a, -, hsign, -⟩, -⟩ := P.transferV1_ok (invoke_ok h).1
    rintro rfl
    exact hcx hsign
  | released hk h => exact core h (hk.imp_right .inl)
  | paid hs h =>
    refine same fun k => ?_
    obtain ⟨ho, hd, -⟩ := paid_frame (k := k) h
    exact coreAt_congr ho hd
  | moved hs => exact same fun k => coreAt_congr move_frame.1 move_frame.2.1
  | @stored _ R _ k r hR h =>
    refine same fun k' => ?_
    obtain ⟨⟨r₀, h₀⟩, rfl⟩ := store_ok h
    by_cases hk : k' = k
    · subst hk
      rw [coreAt_of_data (L := w.ledger) (by rw [h₀]; exact not_coreAsset (hR r₀)),
        coreAt_of_data]
      simpa [Exec.setData, Exec.set] using not_coreAsset (hR r)
    · refine coreAt_congr ?_ ?_ <;> simp [Exec.setData, Exec.set, hk]
  | @closed k recipient n d hs hk hd =>
    refine same fun k' => ?_
    by_cases hk' : k' = k
    · subst hk'
      rw [coreAt_of_data (L := w.ledger) (not_coreAsset hk), coreAt_of_data]
      simpa [Exec.assign, Exec.setData, Exec.set] using not_coreAsset hd
    · obtain ⟨ho, hd', -⟩ := closed_frame hk'
      exact coreAt_congr ho hd'

/-- Custody over a whole handler. -/
theorem ops_custody (hx : ∀ k ∈ x.signers, k.derivedBy p = false)
    (hσ : ¬ σ.pays (.custody p)) (h : Ops P p x σ w w')
    (hnd : NoDelegates (.custody p) w.ledger) :
    NoDelegates (.custody p) w'.ledger ∧ ∀ k, CoreOwned (.custody p) w.ledger k →
      ¬ σ.releases k → CoreOwned (.custody p) w'.ledger k := by
  induction h with
  | refl => exact ⟨hnd, fun _ h _ => h⟩
  | tail _ hop ih =>
    obtain ⟨hnd', hk'⟩ := op_custody hx hσ hop ih.1
    exact ⟨hnd', fun k hk hr => hk' k (ih.2 k hk hr) hr⟩

/-! ## §3. What a handler does not pay from. -/

/-- Nothing is taken from `e`, nor from the token accounts it has the say over. -/
def Spared (p e : Pubkey) (x : Call) (L L' : Ledger) : Prop :=
  ((L e).owner = p → (L' e).owner = p ∧ (L e).lamports ≤ (L' e).lamports) ∧
    ∀ k r, IsTokenAccount L (fun d => d ∈ x.signers ∨ d.derivedBy p = true) k r →
      r.authority = e → ∃ r', IsTokenAccount L' (fun d => d ∈ x.signers ∨ d.derivedBy p = true) k r' ∧
        r'.mint = r.mint ∧ r'.authority = e ∧ r.amount ≤ r'.amount

theorem Spared.refl {e : Pubkey} {L : Ledger} : Spared p e x L L :=
  ⟨fun h => ⟨h, Nat.le_refl _⟩, fun _ r hr hauth => ⟨r, hr, rfl, hauth, Nat.le_refl _⟩⟩

theorem Spared.trans {e : Pubkey} {L L' L'' : Ledger} (h : Spared p e x L L')
    (h' : Spared p e x L' L'') : Spared p e x L L'' := by
  refine ⟨fun ho => ?_, fun k r hr hauth => ?_⟩
  · obtain ⟨ho', hle⟩ := h.1 ho
    obtain ⟨ho'', hle'⟩ := h'.1 ho'
    exact ⟨ho'', Nat.le_trans hle hle'⟩
  · obtain ⟨r', hr', hm, ha, hle⟩ := h.2 k r hr hauth
    obtain ⟨r'', hr'', hm', ha', hle'⟩ := h'.2 k r' hr' ha
    exact ⟨r'', hr'', hm'.trans hm, ha', Nat.le_trans hle hle'⟩

end OpLemmas

end Kargain.Svm
