import Mathlib.Logic.Basic

/-!
# The replica's data

The types of `raft.go`, Go's slice read with its panic, and the two functions that only build or
read a replica, `Make` and `GetState`. Go's `int` is `Int` throughout. `Make` sets `peers`, `me`,
`applych` and `state` and leaves every other field at Go's zero value: a new replica's log is the
nil slice and its `votedFor` is `0`.
-/

namespace TzkvRaft

/-- The values of `state`, `FOLLOWER`, `CANDIDATE` and `LEADER`, numbered from zero by `iota`, so
that Go's zero value is `follower`. -/
inductive RaftState where
  | follower
  | candidate
  | leader
  deriving DecidableEq, Repr

structure LogEntry where
  index : Int
  term : Int
  value : String
  deriving DecidableEq, Repr

structure RequestVoteArgs where
  term : Int := 0
  candidateId : Int := 0
  lastLogIndex : Int := 0
  lastLogTerm : Int := 0
  deriving DecidableEq, Repr

structure RequestVoteReply where
  term : Int := 0
  vote : Bool := false
  deriving DecidableEq, Repr

structure AppendEntriesArgs where
  term : Int := 0
  leaderId : Int := 0
  prevLogIndex : Int := 0
  prevLogTerm : Int := 0
  entries : List LogEntry := []
  leaderCommit : Int := 0
  deriving DecidableEq, Repr

structure AppendEntriesReply where
  term : Int := 0
  success : Bool := false
  deriving DecidableEq, Repr

/-- The one run-time panic the sketch can raise: a slice index out of range. -/
inductive GoPanic where
  | indexOutOfRange (index : Int) (length : Nat)
  deriving DecidableEq, Repr

/-- Go's `xs[i]` on a slice. -/
def index {α : Type} (xs : List α) (i : Int) : Except GoPanic α :=
  if 0 ≤ i then
    match xs[i.toNat]? with
    | some x => .ok x
    | none => .error (.indexOutOfRange i xs.length)
  else .error (.indexOutOfRange i xs.length)

/-- `xs[len(xs)-1]` on the nil slice reads position `-1`. -/
@[simp]
theorem index_nil_last {α : Type} :
    index ([] : List α) (([] : List α).length - 1) = .error (.indexOutOfRange (-1) 0) := rfl

theorem index_last {α : Type} {xs : List α} (h : xs ≠ []) :
    index xs (xs.length - 1) = .ok (xs.getLast h) := by
  have hlen : 0 < xs.length := List.length_pos.mpr h
  have hnat : ((xs.length : Int) - 1).toNat = xs.length - 1 := by omega
  simp only [index, hnat, List.getLast_eq_getElem, List.getElem?_eq_getElem (by omega : xs.length - 1 < xs.length)]
  rw [if_pos (by omega)]

/-- The fields of Go's `Raft` that a function of the sketch reads or writes; `peers` is
`len(peers)`. The channels are buffers here. `Make` leaves them nil, where the code's sends and
receives block for ever, so each schedule of the code is one of the model's in which the buffered
values are never received. -/
structure Raft where
  peers : Nat
  me : Nat
  currentTerm : Int
  votedFor : Int
  logs : List LogEntry
  state : RaftState
  voteCount : Int
  heartBeatCh : List Bool
  winElecCh : List Bool
  deriving DecidableEq, Repr

/-- `Make(peers, me, applyCh)`, up to the `go rf.run()` it ends with. -/
def make (peers me : Nat) : Raft where
  peers := peers
  me := me
  currentTerm := 0
  votedFor := 0
  logs := []
  state := .follower
  voteCount := 0
  heartBeatCh := []
  winElecCh := []

/-- `GetState`: the current term, and whether this replica believes it is the leader. -/
def getState (rf : Raft) : Int × Bool :=
  (rf.currentTerm, rf.state == .leader)

@[simp]
theorem getState_isLeader (rf : Raft) : (getState rf).2 = true ↔ rf.state = .leader := by
  simp [getState]

end TzkvRaft
