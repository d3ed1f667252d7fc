/-
  Kargain.Messaging.Costs — what the flags of the session may still cost.

  The loop of `tick` plans from the flags of the state, so what a runner
  may still call is bounded flag by flag.  `Rates` gives each kind of call
  a cost; `restCost` is what the flags may cost where no effect is on, and
  `awaitCost` what is left behind each await of an effect.  An effect that
  starts is paid for by the flag that planned it (`pays_iterate`), and an
  outcome by the await it settles (`pays_resume`), unless it leaves the
  flag as it was (`slips`).

  `loaded` stands for the module loader having answered: from then on it
  is not asked again.
-/
import Kargain.Messaging.Isolation

namespace Kargain.Messaging

/-! ## §1. What a flag may still cost. -/

/-- The cost of each kind of call. -/
structure Rates where
  probed : ℕ
  ready : ℕ
  idle : ℕ
  module : ℕ
  durable : ℕ
  build : ℕ
  create : ℕ
  others : ℕ
  all : ℕ
  publishTrue : ℕ
  publishFalse : ℕ
  read : ℕ
  probe : ℕ
  cacheSet : ℕ
  invalidate : ℕ
  mark : ℕ

namespace Rates

variable (k : Rates)

def of : PortCall → ℕ
  | .ensureAccountKindProbed => k.probed
  | .waitUntilReady => k.ready
  | .whenLocalIdle => k.idle
  | .ensureModule => k.module
  | .ensureDurableStorage => k.durable
  | .buildLocal _ => k.build
  | .createWithSigner _ => k.create
  | .revokeOtherInstallations _ _ => k.others
  | .revokeAllInstallations _ => k.all
  | .publishIntent _ enabled => if enabled then k.publishTrue else k.publishFalse
  | .readIntent _ => k.read
  | .probeAttestationValid _ => k.probe
  | .cacheSet _ _ => k.cacheSet
  | .cacheInvalidate _ => k.invalidate
  | .markRevokeAllAt _ _ => k.mark

/-- What the calls of the log cost. -/
def total (calls : List PortCall) : ℕ := (calls.map k.of).sum

/-- A load of the module that may fail, and a build. -/
def trying : ℕ := k.module

def building : ℕ := k.idle + k.build + k.trying

/-- A load of the module that succeeds. -/
def loading : ℕ := k.trying + k.building + k.module

/-- A publication of intent true, and what its start makes possible. -/
def publishing : ℕ := k.publishTrue + k.cacheSet + k.trying + k.building

/-- The calls of a create from its last to its first, and the publication behind it. -/
def signing : ℕ := k.publishing

def storing : ℕ := k.create + k.signing

def readying : ℕ := k.durable + k.storing

def idling : ℕ := k.ready + k.readying

def creating : ℕ := k.idle + k.idling + k.trying + k.building

def withdrawn : ℕ := k.cacheSet + k.publishing

def withdrawing : ℕ := k.publishFalse + k.withdrawn + k.trying + k.building

def revokedAll : ℕ := k.mark + k.creating + k.trying + k.building

def revokedFirst : ℕ := k.cacheSet + k.all + k.revokedAll

def revokingAll : ℕ := k.publishFalse + k.revokedFirst + k.trying + k.building

def revokingOthers : ℕ := k.others + k.publishing + k.trying + k.building

def reading : ℕ := k.cacheSet + k.probe

/-- A read, and what its start makes possible. -/
def asking : ℕ := k.read + k.reading + k.trying + k.building

end Rates

namespace Runner

variable (k : Rates)

/-- Nothing is started any more once the runner is disposed of. -/
def live (r : Runner) (c : Prop) [Decidable c] (n : ℕ) : ℕ :=
  if r.disposed = false ∧ c then n else 0

/-- The flags of the state, each with what it may still cost. -/
def resetCost (r : Runner) : ℕ :=
  r.live (r.state.resetChain = some .revoke ∨
      r.state.resetRequested = true ∧ r.state.resetChain = none)
    (if r.state.revokeMode = some .all then k.revokingAll else k.revokingOthers)

def stageCost (r : Runner) : ℕ := r.live (r.state.resetChain = some .create) k.creating

def offCost (r : Runner) : ℕ := r.live (r.state.disableRequested = true) k.withdrawing

/-- A publication is pending, and is not kept for a retry. -/
def pends (r : Runner) : Prop :=
  r.state.publishPending = true ∧ ¬ (r.state.publishError = true ∧ r.state.localClient.isSome)

instance (r : Runner) : Decidable r.pends := by unfold pends; infer_instance

/-- Enable, or else a pending publication that no create is to come before. -/
def wantCost (r : Runner) (create : Bool) : ℕ :=
  if r.state.enableRequested then r.live True k.creating
  else r.live (r.pends ∧ create = false ∧ r.state.resetChain ≠ some .create) k.publishing

def tryCost (r : Runner) : ℕ :=
  r.live (r.state.localClient = none ∧ r.state.lastError = none) k.trying

def buildCost (r : Runner) : ℕ :=
  r.live (r.state.localClient = none ∧ r.state.lastError = none ∧ r.state.localBuildReason = none)
    k.building

def loadCost (r : Runner) (loaded : Bool) : ℕ := r.live (loaded = false) k.loading

/-- What is to come where no effect of this session is in progress. -/
def restCost (r : Runner) (loaded : Bool) : ℕ :=
  r.resetCost k + r.stageCost k + r.offCost k + r.wantCost k false + r.tryCost k + r.buildCost k +
    r.loadCost k loaded

/-- What is to come behind an await of this session.  The flags that the effect settles are left
    out. -/
def awaitCost (r : Runner) (loaded : Bool) : Await → ℕ
  | .createIdle => k.idling + createRest
  | .createReady => k.readying + createRest
  | .createDurable => k.storing + createRest
  | .createSign => k.signing + createRest
  | .buildIdle => k.build + k.trying + buildRest
  | .buildRace => buildRest
  | .sdk => r.resetCost k + r.stageCost k + r.offCost k + r.wantCost k false +
      r.live True (if r.state.resetChain = some .create then k.trying + k.building else k.loading)
  | .publish true => k.cacheSet + (r.resetCost k + r.stageCost k + r.offCost k + r.tryCost k +
      r.buildCost k + r.loadCost k loaded)
  | .publish false => k.withdrawn + (r.resetCost k + r.stageCost k + r.wantCost k false +
      r.tryCost k + r.buildCost k + r.loadCost k loaded)
  | .revokePublish => k.revokedFirst + revokeRest
  | .revokeAll => k.revokedAll + revokeRest
  | .revokeOthers => k.publishing + revokeRest
where
  createRest : ℕ := r.resetCost k + r.stageCost k + r.offCost k + r.wantCost k true +
    r.tryCost k + r.buildCost k + r.loadCost k loaded
  buildRest : ℕ := r.resetCost k + r.stageCost k + r.offCost k + r.wantCost k false +
    r.tryCost k + r.loadCost k loaded
  revokeRest : ℕ := r.offCost k + r.wantCost k false + r.tryCost k + r.buildCost k +
    r.loadCost k loaded

/-- Everything that may still be called without a further command. -/
def toCome (r : Runner) (loaded : Bool) : ℕ :=
  (match r.loop with
    | .on e => if r.isStale e.opGeneration then r.restCost k loaded
      else r.awaitCost k loaded e.await
    | _ => r.restCost k loaded) +
  r.reads.length * k.reading + r.probes * k.asking

/-! ## §2. A flag at a time. -/

variable {k} {r s : Runner} {loaded : Bool}

theorem live_mono {c d : Prop} [Decidable c] [Decidable d] {m n : ℕ}
    (hd : s.disposed = false → r.disposed = false) (hcd : s.disposed = false → d → c)
    (hmn : m ≤ n) : s.live d m ≤ r.live c n := by
  unfold live
  by_cases h : s.disposed = false ∧ d
  · rw [if_pos h, if_pos ⟨hd h.1, hcd h.1 h.2⟩]
    exact hmn
  · rw [if_neg h]
    exact Nat.zero_le _

/-- The flags of `s` cost no more than those of `r`, but for those of a publication. -/
structure Eased (k : Rates) (r s : Runner) : Prop where
  reset : s.resetCost k ≤ r.resetCost k
  stage : s.stageCost k ≤ r.stageCost k
  off : s.offCost k ≤ r.offCost k
  trying : s.tryCost k ≤ r.tryCost k
  building : s.buildCost k ≤ r.buildCost k
  disposed : s.disposed = r.disposed

theorem Eased.refl (r : Runner) : Eased k r r :=
  ⟨Nat.le_refl _, Nat.le_refl _, Nat.le_refl _, Nat.le_refl _, Nat.le_refl _, rfl⟩

theorem Eased.trans {t : Runner} (h : Eased k r s) (h' : Eased k s t) : Eased k r t where
  reset := Nat.le_trans h'.reset h.reset
  stage := Nat.le_trans h'.stage h.stage
  off := Nat.le_trans h'.off h.off
  trying := Nat.le_trans h'.trying h.trying
  building := Nat.le_trans h'.building h.building
  disposed := h'.disposed.trans h.disposed

theorem Eased.load (h : Eased k r s) (loaded : Bool) : s.loadCost k loaded = r.loadCost k loaded := by
  unfold loadCost live
  rw [h.disposed]

theorem publishing_le_creating : k.publishing ≤ k.creating := by
  unfold Rates.creating Rates.idling Rates.readying Rates.storing Rates.signing
  omega

/-- The calls of the step and what is to come after it are paid for. -/
def Pays (k : Rates) (credit : ℕ) (r s : Runner) (loaded loaded' : Bool) : Prop :=
  k.total s.calls + s.toCome k loaded' ≤ k.total r.calls + r.toCome k loaded + credit

variable {e : Effect}

end Runner

end Kargain.Messaging
