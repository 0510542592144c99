import TzkvRaft.Written

/-!
# The lock and the nil channels

The other modules let a function take `rf.mu` whenever it runs and treat the channels as buffers,
which admits more schedules than the code has. This module models both as the code has them, for
the code as written. `run` takes `rf.mu` at its first statement and never releases it: the
FOLLOWER and LEADER branches return holding it, and the CANDIDATE branch deadlocks on a second
`Lock`. `Make` leaves `heartBeatCh` nil, so `AppendEntries` blocks for ever on its send. Nothing
recovers a handler's panic, so a panic stops the process.

A replica then reaches exactly four states, and once `run` holds the lock it answers no RPC again.
A `RequestVote` completes only on an older term, answered with the replica's own term and no vote;
on any other term it panics, and no term is ever adopted. Each of the four states is a state of
the lock-free model of the code as written, so what is proved of that model holds of this one.
-/

namespace TzkvRaft

/-- Where `run` stands: before its first `rf.mu.Lock()`, blocked in the FOLLOWER `select`,
deadlocked on the CANDIDATE branch's second `Lock`, or returned. -/
inductive LockedPc where
  | start
  | followerSelect
  | deadlocked
  | returned
  deriving DecidableEq, Repr

/-- A replica with its lock: the `Raft` fields, whether `rf.mu` is held, where `run` stands, and
whether a panic has stopped the process. -/
structure LockedNode where
  rf : Raft
  mu : Bool
  pc : LockedPc
  crashed : Bool
  deriving DecidableEq, Repr

/-- What a replica as written can be asked to do: a step of `run`, its election timer firing, or
an RPC from peer `src`. -/
inductive LockedInput where
  | run
  | timeout
  | requestVote (src : Nat) (args : RequestVoteArgs)
  | appendEntries (src : Nat) (args : AppendEntriesArgs)
  deriving DecidableEq, Repr

/-- `Make(peers, me, applyCh)`, with the lock free and `run` before its first statement. -/
def LockedNode.make (peers me : Nat) : LockedNode where
  rf := TzkvRaft.make peers me
  mu := false
  pc := .start
  crashed := false

/-- One step; `none` when no goroutine can take it. `run` takes the lock, or blocks on it; the
`broadcastAppendEntries` goroutine the LEADER branch starts would block on the lock `run` keeps,
so it is left out. `RequestVote` takes and releases the lock, or blocks on it, and a panic in it
stops the process. `AppendEntries` never completes its send on the nil `heartBeatCh`. -/
def LockedNode.step (s : LockedNode) (i : LockedInput) : Option LockedNode :=
  if s.crashed then none
  else
    match i with
    | .run =>
      if s.pc = .start ∧ s.mu = false then
        match s.rf.state with
        | .leader => some { s with mu := true, pc := .returned }
        | .candidate => some { s with mu := true, pc := .deadlocked }
        | .follower => some { s with mu := true, pc := .followerSelect }
      else none
    | .timeout =>
      if s.pc = .followerSelect then
        some { s with rf := { s.rf with state := .candidate }, pc := .returned }
      else none
    | .requestVote _ args =>
      if s.mu then none
      else
        match requestVote s.rf args with
        | .ok _ => some s
        | .error _ => some { s with crashed := true }
    | .appendEntries _ _ => none

/-- The replicas some run of the code as written reaches. -/
inductive LockedNode.Reachable : LockedNode → Prop where
  | make (peers me : Nat) : LockedNode.Reachable (LockedNode.make peers me)
  | step {s s' : LockedNode} {i : LockedInput} :
      LockedNode.Reachable s → s.step i = some s' → LockedNode.Reachable s'

/-- The four states of a replica as written: as `Make` left it; stopped by a `RequestVote` that
panicked before `run` took the lock; `run` holding the lock in the FOLLOWER `select`; and `run`
returned, still holding the lock, with the replica a candidate. -/
def LockedNode.Shape (peers me : Nat) (s : LockedNode) : Prop :=
  s = LockedNode.make peers me ∨
  s = { LockedNode.make peers me with crashed := true } ∨
  s = { LockedNode.make peers me with mu := true, pc := .followerSelect } ∨
  s = { LockedNode.make peers me with
        rf := { TzkvRaft.make peers me with state := .candidate }, mu := true, pc := .returned }

section Step

variable {peers me : Nat} {s s' : LockedNode} {i : LockedInput}

/-- A new replica refuses a `RequestVote` of a term below `0` and panics on any other. -/
theorem requestVote_make (args : RequestVoteArgs) :
    requestVote (TzkvRaft.make peers me) args =
      if args.term < 0 then .ok { term := 0, vote := false }
      else .error (.indexOutOfRange (-1) 0) := by
  split
  · exact requestVote_of_lt ‹_›
  · exact requestVote_of_nil ‹_› rfl

theorem LockedNode.Shape.step (hs : s.Shape peers me) (h : s.step i = some s') :
    s'.Shape peers me := by
  rcases hs with rfl | rfl | rfl | rfl
  · cases i with
    | run =>
      cases h
      exact .inr (.inr (.inl rfl))
    | timeout => cases h
    | requestVote _ args =>
      by_cases ht : args.term < 0
      · simp only [LockedNode.step, LockedNode.make, requestVote_make, if_pos ht] at h
        cases h
        exact .inl rfl
      · simp only [LockedNode.step, LockedNode.make, requestVote_make, if_neg ht] at h
        cases h
        exact .inr (.inl rfl)
    | appendEntries => cases h
  · cases h
  · cases i with
    | timeout =>
      cases h
      exact .inr (.inr (.inr rfl))
    | _ => cases h
  · cases i <;> cases h

end Step

theorem LockedNode.Reachable.shape {s : LockedNode} (h : s.Reachable) :
    ∃ peers me, s.Shape peers me := by
  induction h with
  | make peers me => exact ⟨peers, me, .inl rfl⟩
  | step _ hs ih =>
    obtain ⟨peers, me, hshape⟩ := ih
    exact ⟨peers, me, hshape.step hs⟩

/-- **What the code as written does, with its lock.** A replica reaches exactly four states: as
`Make` left it, stopped by a panicking `RequestVote`, `run` holding `rf.mu` in its FOLLOWER
`select`, and `run` returned, still holding `rf.mu`, with the replica a candidate in term `0`. -/
theorem LockedNode.reachable_iff {s : LockedNode} : s.Reachable ↔ ∃ peers me, s.Shape peers me := by
  refine ⟨LockedNode.Reachable.shape, ?_⟩
  rintro ⟨peers, me, rfl | rfl | rfl | rfl⟩
  · exact .make peers me
  · exact .step (.make peers me)
      (show (LockedNode.make peers me).step (.requestVote 0 {}) = some _ from rfl)
  · exact .step (.make peers me) (show (LockedNode.make peers me).step .run = some _ from rfl)
  · exact .step (.step (.make peers me) (show (LockedNode.make peers me).step .run = some _ from rfl))
      (show LockedNode.step _ .timeout = some _ from rfl)

/-- **Once `run` holds the lock, the replica answers nothing.** In every state the code as written
reaches after `run`'s first statement, no `RequestVote` and no `AppendEntries` completes, whatever
its arguments, and once `run` has returned no step is taken at all. -/
theorem LockedNode.Reachable.silent {s : LockedNode} (h : s.Reachable) (hpc : s.pc ≠ .start) :
    (∀ i, i ≠ .timeout → s.step i = none) ∧ (s.pc = .returned → ∀ i, s.step i = none) := by
  obtain ⟨peers, me, rfl | rfl | rfl | rfl⟩ := h.shape
  · exact absurd rfl hpc
  · exact absurd rfl hpc
  · refine ⟨fun i hi => ?_, nofun⟩
    cases i with
    | timeout => exact absurd rfl hi
    | _ => rfl
  · exact ⟨fun i _ => by cases i <;> rfl, fun _ i => by cases i <;> rfl⟩

/-- A replica whose `run` waits in its FOLLOWER `select` answers no `RequestVote` of any term. -/
theorem LockedNode.Reachable.silent_followerSelect :
    let s : LockedNode := { LockedNode.make 3 0 with mu := true, pc := .followerSelect }
    s.Reachable ∧ s.pc ≠ .start ∧ s.step (.requestVote 1 { term := 5, candidateId := 1 }) = none := by
  intro s
  have h : s.Reachable := .step (.make 3 0) (show (LockedNode.make 3 0).step .run = some _ from rfl)
  exact ⟨h, nofun, (h.silent nofun).1 _ nofun⟩

/-! ### The term guard -/

/-- One step of the code as written, whatever its input. -/
def LockedNode.Next (s s' : LockedNode) : Prop :=
  ∃ i, s.step i = some s'

/-- The lock-free replica with the same `Raft` fields and `run` at the same point. -/
def LockedNode.toNode (s : LockedNode) : Node :=
  { Node.make s.rf.peers s.rf.me with
    rf := s.rf
    pc := match s.pc with
      | .start => .entry
      | .followerSelect => .followerSelect
      | .deadlocked => .candidateSelect
      | .returned => .returned }

/-- **The lock-free model over-approximates the code.** Every state the code as written reaches,
with its lock and nil channels, is one the lock-free model reaches with `run` never re-armed,
with the same `Raft` fields and `run` at the same point. -/
theorem LockedNode.Reachable.asWritten {s : LockedNode} (h : s.Reachable) : s.toNode.AsWritten := by
  obtain ⟨peers, me, rfl | rfl | rfl | rfl⟩ := h.shape
  · exact .make peers me
  · exact .make peers me
  · exact .step (.make peers me) (by decide) (show (Node.make peers me).step .run = some (_, []) from rfl)
  · exact .step (.step (.make peers me) (by decide)
      (show (Node.make peers me).step .run = some (_, []) from rfl)) (by decide)
      (show Node.step _ (.select .timeout) = some (_, []) from rfl)

/-- The replica of a cluster of three, `run` returned holding the lock, is one the lock-free
model reaches, so the invariant behind election safety and the single vote holds of it. -/
theorem LockedNode.Reachable.asWritten_returned :
    let s : LockedNode := { LockedNode.make 3 0 with
      rf := { TzkvRaft.make 3 0 with state := .candidate }, mu := true, pc := .returned }
    s.Reachable ∧ s.toNode.AsWritten ∧ s.toNode.Inv := by
  intro s
  have h : s.Reachable := .step (.step (.make 3 0)
    (show (LockedNode.make 3 0).step .run = some _ from rfl)) (show LockedNode.step _ .timeout = some _ from rfl)
  exact ⟨h, h.asWritten, h.asWritten.reachable.inv⟩

end TzkvRaft
