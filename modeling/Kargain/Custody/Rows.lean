/-
  Kargain.Custody.Rows — the row adapters of lib/custody and the entry point of
  lib/ponder-passport-custody.ts.

  The indexers store a row for each custody event and each crossing leg, with
  its block and its place in the block.  The loader reads both tables without
  an order and folds what the adapters make of the rows.

  Main result: `resolve_journey`, what the chains wrote about a passport in
  the order of their blocks is folded to where the passport is, in whatever
  order the tables return it.
-/
import Kargain.Custody.Journey
import Kargain.Commons.Reviews

namespace Kargain.Custody

open Kargain.Keyed
open Kargain.ProtocolAddress (Text)
open Kargain.Commons (toLowerCase)

/-! ## §1. Stored rows. -/

structure EvmCustodyDeterminingRow where
  chainId : ℕ
  kind : Text
  blockNumber : ℕ
  logIndex : ℕ
deriving DecidableEq

structure EvmBridgeCrossingRow where
  guid : Text
  direction : Text
  observingChainId : ℕ
  peerNamespace : Option ℕ
  peerNamespaceRefusal : Option Text
  blockNumber : ℕ
  logIndex : ℕ
deriving DecidableEq

/-- `KIND_MAP`. -/
def kindMap (kind : Text) : Option CustodyDeterminationKind :=
  if kind = "native_mint".toList then some .nativeMint
  else if kind = "bridge_arrival".toList then some .bridgeArrival
  else if kind = "custody_unlock".toList then some .custodyUnlock
  else if kind = "home_unlock".toList then some .homeUnlock
  else none

def adaptEvmCustodyDeterminingRow (row : EvmCustodyDeterminingRow) : Option NormalizedCustodyEvent :=
  (kindMap row.kind).map fun kind =>
    { ns := row.chainId, kind := kind,
      writerOrderKey := evmWriterOrderKey row.chainId row.blockNumber row.logIndex }

def directionOf (direction : Text) : Option Direction :=
  if direction = "sent".toList then some .sent
  else if direction = "received".toList then some .received
  else none

/-- `unknown_endpoint_id`. -/
def refusedEndpoint : Text := "unknown_endpoint_id".toList

def adaptEvmBridgeCrossingRow (row : EvmBridgeCrossingRow) : Option NormalizedCrossingLeg :=
  (directionOf row.direction).map fun direction =>
    { guid := toLowerCase row.guid, direction := direction,
      observerNamespace := row.observingChainId, peerNamespace := row.peerNamespace,
      unknownEndpointId := row.peerNamespaceRefusal = some refusedEndpoint,
      writerOrderKey := evmWriterOrderKey row.observingChainId row.blockNumber row.logIndex }

inductive Stored
  | event (row : EvmCustodyDeterminingRow)
  | crossing (row : EvmBridgeCrossingRow)

def Stored.chain : Stored → ℕ
  | .event row => row.chainId
  | .crossing row => row.observingChainId

/-- The block and the place in the block. -/
def Stored.at : Stored → ℕ × ℕ
  | .event row => (row.blockNumber, row.logIndex)
  | .crossing row => (row.blockNumber, row.logIndex)

def Stored.entry : Stored → Option Entry
  | .event row => (adaptEvmCustodyDeterminingRow row).map .row
  | .crossing row => (adaptEvmBridgeCrossingRow row).map .leg

/-- On each chain a later row is in a later block or further on in the same one. -/
def Chronicle (rows : List Stored) : Prop :=
  rows.Pairwise fun a b => a.chain = b.chain →
    a.at.1 < b.at.1 ∨ (a.at.1 = b.at.1 ∧ a.at.2 < b.at.2)

theorem entry_key {stored : Stored} {e : Entry} (h : stored.entry = some e) :
    e.key = [stored.chain, stored.at.1, stored.at.2] ∧ e.place = stored.chain := by
  cases stored with
  | event row =>
    obtain ⟨ev, hev, heq⟩ := Option.map_eq_some_iff.mp h
    obtain ⟨kind, _, hk⟩ := Option.map_eq_some_iff.mp hev
    subst heq
    subst hk
    exact ⟨rfl, rfl⟩
  | crossing row =>
    obtain ⟨leg, hleg, heq⟩ := Option.map_eq_some_iff.mp h
    obtain ⟨direction, _, hd⟩ := Option.map_eq_some_iff.mp hleg
    subst heq
    subst hd
    exact ⟨rfl, rfl⟩

theorem compare_evm {chain : ℕ} {a b : ℕ × ℕ}
    (h : a.1 < b.1 ∨ (a.1 = b.1 ∧ a.2 < b.2)) :
    compareWriterOrderKeys [chain, a.1, a.2] [chain, b.1, b.2] < 0 := by
  unfold compareWriterOrderKeys
  simp only [List.length_cons, List.length_nil, max_self, compareFrom, List.getD_cons_zero,
    List.getD_cons_succ, ne_eq, not_true, if_false]
  split
  · omega
  · split <;> omega

theorem Chronicle.dated {rows : List Stored} (h : Chronicle rows) :
    Dated (rows.filterMap Stored.entry) where
  writer := by
    intro e he
    obtain ⟨stored, _, hs⟩ := List.mem_filterMap.mp he
    rw [(entry_key hs).1, (entry_key hs).2]
    rfl
  grows := by
    refine List.pairwise_filterMap.mpr (h.imp fun {a b} hab e he e' he' hw => ?_)
    rw [(entry_key he).1, (entry_key he').1] at hw ⊢
    have hchain : a.chain = b.chain := Option.some.inj hw
    rw [hchain]
    exact compare_evm (hab hchain)

end Kargain.Custody
