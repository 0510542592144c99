import TzkvRaft.Replica
import Mathlib.Logic.Function.Basic

/-!
# The cluster

`peers` replicas made by `Make`, and every message one of them has sent. A message stays on the
wire once sent, so it can be delivered late, any number of times, or never: the loss, duplication
and reordering `labrpc` allows. A `Call` can also give up, and then `sendRequestVote` reads the
zero reply.

Each step of the cluster is a step of one replica, so what holds of every reachable replica holds
of every replica of a reachable cluster.
-/

namespace TzkvRaft

structure Cluster where
  nodes : Nat → Node
  /-- Every message sent so far, as `(src, dst, msg)`. -/
  sent : List (Nat × Nat × Msg)

def Cluster.make (peers : Nat) : Cluster where
  nodes := Node.make peers
  sent := []

/-- Replica `i` becomes `n'` and sends `out`. -/
def Cluster.update (c : Cluster) (i : Nat) (n' : Node) (out : List (Nat × Msg)) : Cluster where
  nodes := Function.update c.nodes i n'
  sent := c.sent ++ out.map fun m => (i, m.1, m.2)

@[simp]
theorem Cluster.update_nodes_self (c : Cluster) (i : Nat) (n' : Node) (out : List (Nat × Msg)) :
    (c.update i n' out).nodes i = n' := by
  simp [Cluster.update]

@[simp]
theorem Cluster.update_nodes_ne (c : Cluster) {i j : Nat} (h : j ≠ i) (n' : Node)
    (out : List (Nat × Msg)) : (c.update i n' out).nodes j = c.nodes j := by
  simp [Cluster.update, h]

/-- The input a request is to the handler of the replica it reaches. -/
def Msg.request (src : Nat) : Msg → Option Input
  | .requestVote args => some (.requestVote src args)
  | .appendEntries args => some (.appendEntries src args)
  | .voteReply _ _ => none

inductive Cluster.Step (peers : Nat) : Cluster → Cluster → Prop where
  /-- `run`, or a goroutine it started, takes a step. -/
  | internal {c : Cluster} {i : Nat} {input : Input} {n' : Node} {out : List (Nat × Msg)} :
      i < peers → input.Local → (c.nodes i).step input = some (n', out) →
      Cluster.Step peers c (c.update i n' out)
  /-- A request on the wire reaches the handler of its replica. -/
  | deliver {c : Cluster} {src dst : Nat} {m : Msg} {input : Input} {n' : Node}
      {out : List (Nat × Msg)} :
      (src, dst, m) ∈ c.sent → dst < peers → m.request src = some input →
      (c.nodes dst).step input = some (n', out) → Cluster.Step peers c (c.update dst n' out)
  /-- A vote reply on the wire returns the blocked `Call` it answers. -/
  | answer {c : Cluster} {i k server : Nat} {args : RequestVoteArgs} {reply : RequestVoteReply}
      {n' : Node} {out : List (Nat × Msg)} :
      i < peers → (c.nodes i).calls[k]? = some (server, args) →
      (server, i, .voteReply args reply) ∈ c.sent →
      (c.nodes i).step (.reply k reply) = some (n', out) →
      Cluster.Step peers c (c.update i n' out)
  /-- A blocked `Call` gives up and returns the zero reply. -/
  | lose {c : Cluster} {i k : Nat} {n' : Node} {out : List (Nat × Msg)} :
      i < peers → (c.nodes i).step (.reply k {}) = some (n', out) →
      Cluster.Step peers c (c.update i n' out)

/-- The clusters some run from `Make` reaches. -/
inductive Cluster.Reachable (peers : Nat) : Cluster → Prop where
  | make : Cluster.Reachable peers (Cluster.make peers)
  | step {c c' : Cluster} :
      Cluster.Reachable peers c → Cluster.Step peers c c' → Cluster.Reachable peers c'

section Step

variable {peers : Nat} {c c' : Cluster}

theorem Cluster.Step.exists_update (h : Cluster.Step peers c c') :
    ∃ i input n' out, (c.nodes i).step input = some (n', out) ∧ c' = c.update i n' out := by
  cases h <;> exact ⟨_, _, _, _, ‹_›, rfl⟩

/-- **The cluster refines its replicas.** Every replica of a reachable cluster is a reachable
replica. -/
theorem Cluster.Reachable.node (h : Cluster.Reachable peers c) (j : Nat) :
    (c.nodes j).Reachable := by
  induction h with
  | make => exact .make peers j
  | step _ hs ih =>
    obtain ⟨i, input, n', out, hstep, rfl⟩ := hs.exists_update
    by_cases hj : j = i
    · subst hj
      rw [Cluster.update_nodes_self]
      exact ih.step ⟨input, out, hstep⟩
    · rw [Cluster.update_nodes_ne _ hj]
      exact ih

theorem Cluster.Reachable.internal (h : Cluster.Reachable peers c) (i : Nat) (input : Input)
    {n' : Node} {out : List (Nat × Msg)} (hi : i < peers) (hloc : input.Local)
    (hs : (c.nodes i).step input = some (n', out)) : Cluster.Reachable peers (c.update i n' out) :=
  h.step (.internal hi hloc hs)

end Step

/-- A run of three replicas from `Make`, their steps interleaved: replicas `0` and `1` time out in
turn, are re-armed, enter `run`'s CANDIDATE branch in term `1`, and each one's broadcast panics on
the empty log. -/
theorem Cluster.reachable_twoCandidates :
    ∃ c, Cluster.Reachable 3 c ∧ (c.nodes 0).rf.state = .candidate ∧
      (c.nodes 1).rf.state = .candidate ∧ (c.nodes 0).rf.currentTerm = 1 ∧
      (c.nodes 1).rf.currentTerm = 1 := by
  have h : Cluster.Reachable 3 (Cluster.make 3) := .make
  have h := (h.internal 0 .run (by decide) trivial rfl).internal 1 .run (by decide) trivial rfl
  have h := (h.internal 0 (.select .timeout) (by decide) trivial rfl).internal 1 (.select .timeout)
    (by decide) trivial rfl
  have h := (h.internal 0 .rearm (by decide) trivial rfl).internal 1 .rearm (by decide) trivial rfl
  have h := (h.internal 0 .run (by decide) trivial rfl).internal 1 .run (by decide) trivial rfl
  have h := (h.internal 0 (.go .broadcastRequestVote) (by decide) trivial rfl).internal 1
    (.go .broadcastRequestVote) (by decide) trivial rfl
  exact ⟨_, h, rfl, rfl, rfl, rfl⟩

/-- No two replicas lead in one term: neither two leaders at once, nor two elections in a run. -/
def Cluster.ElectionSafe (c : Cluster) : Prop :=
  (∀ i j, (c.nodes i).rf.state = .leader → (c.nodes j).rf.state = .leader →
    (c.nodes i).rf.currentTerm = (c.nodes j).rf.currentTerm → i = j) ∧
  (∀ i j t, t ∈ (c.nodes i).elected → t ∈ (c.nodes j).elected → i = j)

/-- **Election safety.** However many replicas `Make` starts and however their steps interleave
and their messages are lost, duplicated or reordered, at most one replica leads in each term. -/
theorem electionSafety {peers : Nat} {c : Cluster} (h : Cluster.Reachable peers c) :
    c.ElectionSafe :=
  ⟨fun i _ hi => absurd hi (h.node i).inv.notLeader,
   fun i _ _ hi => by simp [(h.node i).inv.elected] at hi⟩

theorem electionSafety_twoCandidates :
    ∃ c, Cluster.Reachable 3 c ∧ (c.nodes 0).rf.state = .candidate ∧
      (c.nodes 1).rf.state = .candidate ∧ c.ElectionSafe := by
  obtain ⟨c, hc, h₀, h₁, -, -⟩ := Cluster.reachable_twoCandidates
  exact ⟨c, hc, h₀, h₁, electionSafety hc⟩

/-! ### What a run of the sketch does -/

section Runs

variable {peers : Nat} {c : Cluster}

/-- **Nothing is ever sent.** Every election's `broadcastRequestVote` panics on the empty log
before it starts a call, and no replica leads, so no replica ever sends a message. -/
theorem Cluster.Reachable.sent_eq_nil (h : Cluster.Reachable peers c) : c.sent = [] := by
  induction h with
  | make => rfl
  | step hc hs ih =>
    cases hs with
    | internal _ hloc hstep =>
      simp [Cluster.update, ih, (hc.node _).inv.step_local_out hstep hloc]
    | deliver hin => simp [ih] at hin
    | answer _ _ hin => simp [ih] at hin
    | lose _ hstep => simp [Node.step, (hc.node _).inv.calls] at hstep

theorem Cluster.sent_eq_nil_twoCandidates :
    ∃ c, Cluster.Reachable 3 c ∧ (c.nodes 0).rf.state = .candidate ∧
      (c.nodes 1).rf.state = .candidate ∧ c.sent = [] := by
  obtain ⟨c, hc, h₀, h₁, -, -⟩ := Cluster.reachable_twoCandidates
  exact ⟨c, hc, h₀, h₁, Cluster.Reachable.sent_eq_nil hc⟩

/-- **No leader is ever seen.** `GetState` on any replica of a reachable cluster reports that it
is not the leader. -/
theorem Cluster.Reachable.getState_not_leader (h : Cluster.Reachable peers c) (i : Nat) :
    getState (c.nodes i).rf = ((c.nodes i).rf.currentTerm, false) := by
  simp [getState, (h.node i).inv.notLeader]

theorem Cluster.getState_not_leader_twoCandidates :
    ∃ c, Cluster.Reachable 3 c ∧ (c.nodes 0).rf.state = .candidate ∧
      getState (c.nodes 0).rf = (1, false) := by
  obtain ⟨c, hc, h₀, -, ht₀, -⟩ := Cluster.reachable_twoCandidates
  exact ⟨c, hc, h₀, ht₀ ▸ Cluster.Reachable.getState_not_leader hc 0⟩

end Runs

end TzkvRaft
