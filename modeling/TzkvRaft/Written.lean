import TzkvRaft.Replica

/-!
# The code as written

`Make` starts `run` once, and `run` has no loop: it takes one branch of its `switch` and returns.
A new replica is a follower, so the branch taken is FOLLOWER's, which waits for its timer and makes
the replica a candidate. The CANDIDATE branch, the one writer of `currentTerm` and the one starter
of goroutines, is never entered.
-/

namespace TzkvRaft

/-- The replicas the code reaches as written: runs without `rearm`. -/
inductive Node.AsWritten : Node → Prop where
  | make (peers me : Nat) : Node.AsWritten (Node.make peers me)
  | step {n n' : Node} {i : Input} {out : List (Nat × Msg)} :
      Node.AsWritten n → i ≠ .rearm → n.step i = some (n', out) → Node.AsWritten n'

/-- Term `0`, no goroutine started, and `run` either not yet past its timer, with the replica a
follower, or returned, with the replica a candidate. -/
structure Node.WrittenInv (n : Node) : Prop where
  currentTerm : n.rf.currentTerm = 0
  goroutines : n.goroutines = []
  stage : (n.pc = .entry ∨ n.pc = .followerSelect) ∧ n.rf.state = .follower ∨
    n.pc = .returned ∧ n.rf.state = .candidate

section Step

variable {n n' : Node} {i : Input} {out : List (Nat × Msg)}

theorem Node.WrittenInv.step (hn : n.WrittenInv) (hi : i ≠ .rearm)
    (h : n.step i = some (n', out)) : n'.WrittenInv := by
  cases i with
  | run =>
    obtain ⟨hentry, -, rfl⟩ := Node.step_run h
    have hfollower : n.rf.state = .follower := by
      rcases hn.stage with ⟨-, hf⟩ | ⟨hret, -⟩
      · exact hf
      · simp [hret] at hentry
    simp only [run_of_follower hfollower]
    exact ⟨hn.currentTerm, by simpa using hn.goroutines, .inl ⟨.inr rfl, hfollower⟩⟩
  | select ready =>
    obtain ⟨rf, gs, hs, -, rfl⟩ := Node.step_select h
    have hnc : n.pc ≠ .candidateSelect := by
      rcases hn.stage with ⟨hpc | hpc, -⟩ | ⟨hpc, -⟩ <;> simp [hpc]
    rcases runSelect_cases hs with ⟨hpc, -⟩ | ⟨hpc, -⟩ | ⟨hpc, -⟩ | ⟨-, -, rfl, rfl⟩
    iterate 3 exact absurd hpc hnc
    exact ⟨hn.currentTerm, by simpa using hn.goroutines, .inr ⟨rfl, rfl⟩⟩
  | rearm => exact absurd rfl hi
  | go g => cases g <;> simp [Node.step, hn.goroutines] at h
  | requestVote _ _ | appendEntries _ _ | reply _ _ =>
    obtain ⟨⟨hstate, hterm, -⟩, hpc, hgo⟩ := Node.step_inbound h trivial
    exact ⟨hterm.trans hn.currentTerm, hgo.trans hn.goroutines, by rw [hpc, hstate]; exact hn.stage⟩

end Step

/-- A run as written is a run: what holds of every reachable replica holds of these. -/
theorem Node.AsWritten.reachable {n : Node} (h : n.AsWritten) : n.Reachable := by
  induction h with
  | make peers me => exact .make peers me
  | step _ _ hs ih => exact ih.step ⟨_, _, hs⟩

/-- **What the code does.** As written, every replica stays in term `0` and starts no goroutine:
it is a follower until `run`'s timer fires and a candidate from then on, and no election begins. -/
theorem Node.AsWritten.writtenInv {n : Node} (h : n.AsWritten) : n.WrittenInv := by
  induction h with
  | make peers me => exact ⟨rfl, rfl, .inl ⟨.inl rfl, rfl⟩⟩
  | step _ hi hs ih => exact ih.step hi hs

theorem Node.AsWritten.writtenInv_timedOut :
    ∃ n : Node, n.AsWritten ∧ n.rf.state = .candidate ∧ n.WrittenInv := by
  have h₁ : Node.AsWritten _ :=
    .step (.make 3 0) (by decide) (show (Node.make 3 0).step .run = some (_, []) from rfl)
  have h₂ : Node.AsWritten _ :=
    .step h₁ (by decide) (show Node.step _ (.select .timeout) = some (_, []) from rfl)
  exact ⟨_, h₂, rfl, h₂.writtenInv⟩

end TzkvRaft
