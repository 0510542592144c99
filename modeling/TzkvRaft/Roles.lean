import TzkvRaft.Cluster

/-!
# Roles

The code changes a replica's role in three places, all in `run`: the FOLLOWER `select`'s timer,
and the CANDIDATE `select`'s heartbeat and `winElecCh` cases. From every state in which `run`'s
position agrees with the role, as it does in every state a run reaches, a step keeps the role or
makes one of these three changes, each on its own case. None moves a leader: the design's
step-down on a greater term is missing, and a leader keeps its role and its term in every run of
the cluster, whatever reaches it.

Both results are about every step of the lock-free model, so they bound what the code can do. In
the code as written the heartbeat and `winElecCh` cases never fire, since `Make` leaves both
channels nil.
-/

namespace TzkvRaft

/-- `run` is blocked in a `select` only with the role whose branch holds it. -/
structure Node.Coherent (n : Node) : Prop where
  candidateSelect : n.pc = .candidateSelect → n.rf.state = .candidate
  followerSelect : n.pc = .followerSelect → n.rf.state = .follower

section Step

variable {n n' : Node} {i : Input} {out : List (Nat × Msg)}

theorem Node.Coherent.of_eq (hn : n.Coherent) (hpc : n'.pc = n.pc)
    (hstate : n'.rf.state = n.rf.state) : n'.Coherent :=
  ⟨fun h => hstate.trans (hn.1 (hpc ▸ h)), fun h => hstate.trans (hn.2 (hpc ▸ h))⟩

theorem Node.Coherent.step (hn : n.Coherent) (h : n.step i = some (n', out)) : n'.Coherent := by
  cases i with
  | run =>
    obtain ⟨-, -, rfl⟩ := Node.step_run h
    obtain ⟨hc, hf⟩ := run_select_state n.rf
    exact ⟨fun hpc => (run_state n.rf).trans (hc hpc), fun hpc => (run_state n.rf).trans (hf hpc)⟩
  | select _ =>
    obtain ⟨_, _, -, -, rfl⟩ := Node.step_select h
    exact ⟨nofun, nofun⟩
  | rearm =>
    obtain ⟨-, rfl⟩ := Node.step_rearm h
    exact ⟨nofun, nofun⟩
  | go g => exact hn.of_eq (Node.step_go_pc h) (by rw [Node.step_go_rf h])
  | requestVote _ _ | appendEntries _ _ | reply _ _ =>
    obtain ⟨⟨hstate, -⟩, hpc, -⟩ := Node.step_inbound h trivial
    exact hn.of_eq hpc hstate

/-- What a step can do to the role, from any state: nothing, or one of `run`'s three role changes,
each on its own `select` case. -/
theorem Node.step_state_cases (h : n.step i = some (n', out)) :
    n'.rf.state = n.rf.state ∨
      i = .select .timeout ∧ n.pc = .followerSelect ∧ n'.rf.state = .candidate ∨
      i = .select .heartBeat ∧ n.pc = .candidateSelect ∧ n'.rf.state = .follower ∨
      i = .select .winElec ∧ n.pc = .candidateSelect ∧ n'.rf.state = .leader := by
  cases i with
  | run =>
    obtain ⟨-, -, rfl⟩ := Node.step_run h
    exact .inl (run_state n.rf)
  | select ready =>
    obtain ⟨rf, gs, hs, -, rfl⟩ := Node.step_select h
    rcases runSelect_cases hs with
      ⟨hpc, rfl, _, _, _, rfl, -⟩ | ⟨hpc, rfl, _, _, _, rfl, -⟩ | ⟨-, -, rfl, -⟩ | ⟨hpc, rfl, rfl, -⟩
    · exact .inr (.inr (.inl ⟨rfl, hpc, rfl⟩))
    · exact .inr (.inr (.inr ⟨rfl, hpc, rfl⟩))
    · exact .inl rfl
    · exact .inr (.inl ⟨rfl, hpc, rfl⟩)
  | rearm =>
    obtain ⟨-, rfl⟩ := Node.step_rearm h
    exact .inl rfl
  | go g => exact .inl (by rw [Node.step_go_rf h])
  | requestVote _ _ | appendEntries _ _ | reply _ _ => exact .inl (Node.step_inbound h trivial).1.1

/-- A coherent leader's step keeps it leader, in its term. -/
theorem Node.Coherent.step_leader (hn : n.Coherent) (hl : n.rf.state = .leader)
    (h : n.step i = some (n', out)) :
    n'.rf.state = .leader ∧ n'.rf.currentTerm = n.rf.currentTerm := by
  refine ⟨?_, Node.step_currentTerm_of_ne_candidate (by rw [hl]; decide) h⟩
  rcases Node.step_state_cases h with hs | ⟨-, hpc, -⟩ | ⟨-, hpc, -⟩ | ⟨-, hpc, -⟩
  · exact hs.trans hl
  · cases (hn.2 hpc).symm.trans hl
  · cases (hn.1 hpc).symm.trans hl
  · cases (hn.1 hpc).symm.trans hl

end Step

section Runs

variable {peers : Nat} {c c' : Cluster}

/-- A cluster step moves one replica by one of its steps and leaves every other as it was. -/
theorem Cluster.Step.nodes (h : Cluster.Step peers c c') (j : Nat) :
    c'.nodes j = c.nodes j ∨ ∃ input out, (c.nodes j).step input = some (c'.nodes j, out) := by
  obtain ⟨i, input, n', out, hstep, rfl⟩ := h.exists_update
  by_cases hj : j = i
  · subst hj
    exact .inr ⟨input, out, by rw [Cluster.update_nodes_self]; exact hstep⟩
  · exact .inl (Cluster.update_nodes_ne _ hj _ _)

theorem Cluster.coherent_of_reflTransGen (hc : ∀ j, (c.nodes j).Coherent)
    (h : Relation.ReflTransGen (Cluster.Step peers) c c') (j : Nat) : (c'.nodes j).Coherent := by
  induction h with
  | refl => exact hc j
  | tail _ hs ih =>
    rcases hs.nodes j with he | ⟨_, _, hstep⟩
    · exact he ▸ ih
    · exact ih.step hstep

/-- **A leader never steps down.** In every run of a cluster whose replicas' `run` agrees with
their roles, a leader stays leader in its term, whatever requests, replies and heartbeats reach it,
of whatever terms. -/
theorem Cluster.leader_persists (hc : ∀ j, (c.nodes j).Coherent)
    (h : Relation.ReflTransGen (Cluster.Step peers) c c') {j : Nat}
    (hl : (c.nodes j).rf.state = .leader) :
    (c'.nodes j).rf.state = .leader ∧ (c'.nodes j).rf.currentTerm = (c.nodes j).rf.currentTerm := by
  induction h with
  | refl => exact ⟨hl, rfl⟩
  | tail hr hs ih =>
    rcases hs.nodes j with he | ⟨_, _, hstep⟩
    · rw [he]; exact ih
    · obtain ⟨hl', ht'⟩ := (Cluster.coherent_of_reflTransGen hc hr j).step_leader ih.1 hstep
      exact ⟨hl', ht'.trans ih.2⟩

/-- A leader of a cluster of three keeps its role and its term through its own `run`. -/
theorem Cluster.leader_persists_run :
    let c : Cluster := { Cluster.make 3 with
      nodes := fun k => { Node.make 3 k with
        rf := { TzkvRaft.make 3 k with state := if k = 0 then .leader else .follower } } }
    (∀ j, (c.nodes j).Coherent) ∧ ∃ c', Relation.ReflTransGen (Cluster.Step 3) c c' ∧
      (c'.nodes 0).rf.state = .leader ∧
      (c'.nodes 0).rf.currentTerm = (c.nodes 0).rf.currentTerm := by
  intro c
  have hc : ∀ j, (c.nodes j).Coherent := fun _ => ⟨nofun, nofun⟩
  have h : Relation.ReflTransGen (Cluster.Step 3) c _ :=
    .single (.internal (show 0 < 3 by decide) (show Input.Local .run from trivial)
      (show (c.nodes 0).step .run = some (_, []) from rfl))
  exact ⟨hc, _, h, Cluster.leader_persists hc h rfl⟩

end Runs

end TzkvRaft
