import Smr.Synod.Messages
import Smr.Tla.TracePaxos

set_option autoImplicit false

namespace Smr

-- An event of trace.rs as it stands in an NDJSON file; what an event lacks is none.
structure TraceFields where
  action : TraceAction
  nodeId : Nat
  instanceId : Nat
  ballot : Nat
  sender : Nat
  maxBal : Option Nat
  maxVBal : Option Nat
  maxVal : Option String
  deriving DecidableEq, Repr

def TraceEvent.fields {C : Type} (debug : C → String) : TraceEvent C → TraceFields
  | .phase1a nodeId instanceId ballot =>
    ⟨.phase1a, nodeId, instanceId, ballot, nodeId, none, none, none⟩
  | .phase1b nodeId instanceId ballot sender maxBal accepted =>
    ⟨.phase1b, nodeId, instanceId, ballot, sender, some maxBal,
      some ((accepted.map (·.ballot)).getD 0),
      some ((accepted.map fun p => debug p.command).getD "")⟩
  | .nackPrepare nodeId instanceId ballot sender maxBal =>
    ⟨.nackPrepare, nodeId, instanceId, ballot, sender, some maxBal, none, none⟩
  | .phase2a nodeId instanceId ballot value =>
    ⟨.phase2a, nodeId, instanceId, ballot, nodeId, none, none, some (debug value)⟩
  | .phase2b nodeId instanceId ballot sender maxBal accepted =>
    ⟨.phase2b, nodeId, instanceId, ballot, sender, some maxBal, some accepted.ballot,
      some (debug accepted.command)⟩
  | .nackAccept nodeId instanceId ballot sender maxBal =>
    ⟨.nackAccept, nodeId, instanceId, ballot, sender, some maxBal, none, none⟩
  | .learn nodeId instanceId ballot value =>
    ⟨.learn, nodeId, instanceId, ballot, nodeId, none, none, some (debug value)⟩

-- The README takes three fields of each line, in the order of the file.
def traceData (events : List TraceFields) : List TraceRecord :=
  events.map fun e => { action := e.action, nodeId := e.nodeId, ballot := e.ballot }

structure Constants where
  nodes : Finset Nat
  values : Finset String
  quorum : Nat

namespace Constants

def tracePaxosCfg : Constants :=
  { nodes := {0, 1, 2}
    values := {"v1"}
    quorum := 2 }

-- TraceSpec, with the records for Trace.
def spec (self : Constants) (records : List TraceRecord) : Run.System (TracePaxos String) Unit :=
  TracePaxos.spec self.nodes self.quorum (self.values : Set String) records

-- TLC finds no error in it.
def Tlc (self : Constants) (records : List TraceRecord) : Prop :=
  TracePaxos.Passes self.nodes self.quorum (self.values : Set String) records

structure Covers (constants : Constants) (records : List TraceRecord) : Prop where
  valued : constants.values.Nonempty
  majority : constants.nodes.card < 2 * constants.quorum
  members : ∀ evt ∈ records, evt.nodeId ∈ constants.nodes

variable {constants : Constants} {records : List TraceRecord}

theorem Covers.tlc (covers : constants.Covers records) :
    constants.Tlc records ↔ conforms constants.quorum records = true :=
  (TracePaxos.passes_iff (Finset.coe_nonempty.mpr covers.valued) covers.majority covers.members).1

theorem tlc_iff (covers : constants.Covers records) :
    (constants.Tlc records ↔ conforms constants.quorum records = true) ∧
      (constants.Tlc records ↔
        ∃ s, (constants.spec records).Reachable (fun _ _ => True) s ∧
          records.length < s.traceIdx) ∧
      ∀ s, (constants.spec records).Reachable (fun _ _ => True) s →
        TracePaxos.TraceAgreement constants.quorum (constants.values : Set String) s := by
  obtain ⟨-, completes⟩ := TracePaxos.passes_iff (Finset.coe_nonempty.mpr covers.valued)
    covers.majority covers.members
  refine ⟨covers.tlc, covers.tlc.trans completes.symm, fun s reachable v1 _ v2 _ left right => ?_⟩
  have stands := TracePaxos.stands_reachable covers.members reachable
  exact (Paxos.lawful_reachable covers.majority stands.spec).agreement covers.majority v1 v2 left
    right

-- TraceData.tla.
def traceDataTla : List TraceRecord :=
  [⟨.phase1a, 0, 4⟩, ⟨.phase1b, 0, 4⟩, ⟨.phase1b, 1, 4⟩, ⟨.phase1b, 2, 4⟩, ⟨.phase2a, 0, 4⟩,
    ⟨.phase2b, 0, 4⟩, ⟨.phase2b, 1, 4⟩, ⟨.phase2b, 2, 4⟩, ⟨.learn, 1, 4⟩, ⟨.learn, 2, 4⟩,
    ⟨.learn, 0, 4⟩]

theorem tlc_iff_traceDataTla : tracePaxosCfg.Tlc traceDataTla ∧
    ∀ s, (tracePaxosCfg.spec traceDataTla).Reachable (fun _ _ => True) s →
      TracePaxos.TraceAgreement 2 {"v1"} s := by
  have covers : tracePaxosCfg.Covers traceDataTla :=
    { valued := by decide
      majority := by decide
      members := by decide }
  obtain ⟨verdict, -, agrees⟩ := tlc_iff covers
  refine ⟨verdict.mpr (by decide), fun s reachable => ?_⟩
  simpa [tracePaxosCfg] using agrees s reachable

end Constants

namespace CheckTrace

def nodesOf (events : List TraceFields) : Finset Nat :=
  (events.map (·.nodeId) ++ events.map (·.sender)).toFinset

def valuesOf (events : List TraceFields) : Finset String :=
  (events.filterMap fun evt => evt.maxVal.filter fun v => v ≠ "" ∧ v ≠ "None").toFinset

def extractConstants (events : List TraceFields) : Constants :=
  { nodes := nodesOf events
    values := if valuesOf events = ∅ then {"default"} else valuesOf events
    quorum := (nodesOf events).card / 2 + 1 }

theorem extractConstants_covers (events : List TraceFields) :
    (extractConstants events).Covers (traceData events) where
  valued := by
    unfold extractConstants
    dsimp only
    split
    next => exact ⟨"default", by simp⟩
    next some_value => exact Finset.nonempty_iff_ne_empty.mpr some_value
  majority := by
    simp only [extractConstants]
    omega
  members := by
    intro evt listed
    obtain ⟨fields, member, rfl⟩ := List.mem_map.mp listed
    exact List.mem_toFinset.mpr (List.mem_append_left _ (List.mem_map_of_mem member))

end CheckTrace

end Smr
