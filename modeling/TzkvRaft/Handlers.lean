import TzkvRaft.Basic

/-!
# The handlers, the broadcasts, `Start` and `run`

The functions as the code computes them. Each holds `rf.mu` over its whole body, so the replica
model (`Replica`) takes each as one atomic step. A panic is the `Except.error` of the function that
raised it; the replica model lets the replica go on unchanged after it, where Go stops the process
(`Mutex` has the process stop). `run` blocks in a `select` between its `switch` and its return, so
it is two steps: `run` up to the `select`, and `runSelect` from the case taken.
-/

namespace TzkvRaft

/-- The `RequestVote` handler: the reply it fills in, or the panic of its log read. -/
def requestVote (rf : Raft) (args : RequestVoteArgs) : Except GoPanic RequestVoteReply :=
  if rf.currentTerm > args.term then
    pure { term := rf.currentTerm, vote := false }
  else do
    let last ← index rf.logs (rf.logs.length - 1)
    if last.index > args.lastLogIndex then
      pure { term := rf.currentTerm, vote := false }
    else
      pure { term := rf.currentTerm, vote := true }

/-- The `AppendEntries` handler: it sends `true` on `heartBeatCh` and leaves the reply at its zero
value. The send is read as an append to a buffer; on the nil channel `Make` leaves, the code's send
never completes. -/
def appendEntries (rf : Raft) (_args : AppendEntriesArgs) : Raft × AppendEntriesReply :=
  ({ rf with heartBeatCh := rf.heartBeatCh ++ [true] }, {})

/-- What `sendRequestVote` does once `Call` returns: it sends `reply.vote` on `winElecCh`, whatever
the reply's term, and whether or not the call was answered (a lost call leaves the zero reply).
The send is read as an append to a buffer, and the `rf.mu.Lock()` before it, never released, as
free; on the nil channel `Make` leaves, the code's send never completes. -/
def sendRequestVote (rf : Raft) (reply : RequestVoteReply) : Raft :=
  { rf with winElecCh := rf.winElecCh ++ [reply.vote] }

/-- `broadcastRequestVote`: the calls it starts, one `sendRequestVote` goroutine for every index of
`peers`, its own included, all with the one `arg` it builds. -/
def broadcastRequestVote (rf : Raft) : Except GoPanic (List (Nat × RequestVoteArgs)) := do
  let arg : RequestVoteArgs := { term := rf.currentTerm, candidateId := rf.me }
  let last ← index rf.logs (rf.logs.length - 1)
  let arg := { arg with lastLogIndex := last.index }
  let last ← index rf.logs (rf.logs.length - 1)
  let arg := { arg with lastLogIndex := last.term }
  pure ((List.range rf.peers).map fun server => (server, arg))

/-- `broadcastAppendEntries`: the zero `AppendEntriesArgs` it sends to every other peer. -/
def broadcastAppendEntries (rf : Raft) : List (Nat × AppendEntriesArgs) :=
  ((List.range rf.peers).filter fun server => server != rf.me).map fun server => (server, {})

/-- `Start(command)`: `(index, term, isLeader)` is `(-1, -1, true)`, and nothing changes. -/
def start {α : Type} (rf : Raft) (_command : α) : Raft × Int × Int × Bool :=
  (rf, -1, -1, true)

/-- A replica just made is a follower, and `GetState` says so, yet `Start` answers as a leader and
appends nothing, at index and term `-1`. -/
theorem start_make_claimsLeadership :
    start (make 3 0) "x" = (make 3 0, -1, -1, true) ∧ getState (make 3 0) = (0, false) :=
  ⟨rfl, rfl⟩

/-- A goroutine `run` starts with `go`. -/
inductive Go where
  | broadcastAppendEntries
  | broadcastRequestVote
  deriving DecidableEq, Repr

/-- Where `run`'s goroutine stands: at its `switch`, blocked in one of its two `select`s, or
returned. -/
inductive RunPc where
  | entry
  | candidateSelect
  | followerSelect
  | returned
  deriving DecidableEq, Repr

/-- The case a `select` of `run` takes. -/
inductive Ready where
  | heartBeat
  | winElec
  | timeout
  deriving DecidableEq, Repr

/-- `run` from its `switch` to the point it blocks or returns: the goroutines it starts and where
it stands then. The CANDIDATE branch's second `rf.mu.Lock()`, a deadlock in Go, is read as taking
the lock (`Mutex` has the deadlock). `rf.currentTerm += 1` wraps as Go's 64-bit `int` does. -/
def run (rf : Raft) : Raft × List Go × RunPc :=
  match rf.state with
  | .leader => (rf, [.broadcastAppendEntries], .returned)
  | .candidate =>
    ({ rf with currentTerm := (rf.currentTerm + 1).bmod (Nat.pow 2 64) }, [.broadcastRequestVote],
      .candidateSelect)
  | .follower => (rf, [], .followerSelect)

/-- A `select` of `run` taking a ready case, and what `run` does then before it returns. The
cases `case time.After(...)` are read as `case <-time.After(...)`, the receive the code means. -/
def runSelect (rf : Raft) : RunPc → Ready → Option (Raft × List Go)
  | .candidateSelect, .heartBeat =>
    match rf.heartBeatCh with
    | [] => none
    | _ :: heartBeatCh => some ({ rf with heartBeatCh, state := .follower }, [])
  | .candidateSelect, .winElec =>
    match rf.winElecCh with
    | [] => none
    | _ :: winElecCh =>
      some ({ rf with winElecCh, state := .leader, voteCount := 0, votedFor := -1 }, [])
  | .candidateSelect, .timeout => some (rf, [.broadcastRequestVote])
  | .followerSelect, .timeout => some ({ rf with state := .candidate }, [])
  | _, _ => none

/-! ### `RequestVote` -/

section RequestVote

variable {rf : Raft} {args : RequestVoteArgs}

theorem requestVote_of_lt (h : args.term < rf.currentTerm) :
    requestVote rf args = .ok { term := rf.currentTerm, vote := false } := by
  simp only [requestVote, gt_iff_lt, h, if_true]
  rfl

theorem requestVote_of_nil (h : ¬args.term < rf.currentTerm) (hlogs : rf.logs = []) :
    requestVote rf args = .error (.indexOutOfRange (-1) 0) := by
  simp only [requestVote, gt_iff_lt, h, if_false, hlogs, index_nil_last]
  rfl

theorem requestVote_of_ne_nil (h : ¬args.term < rf.currentTerm) (hlogs : rf.logs ≠ []) :
    requestVote rf args =
      .ok { term := rf.currentTerm, vote := decide ((rf.logs.getLast hlogs).index ≤ args.lastLogIndex) } := by
  simp only [requestVote, gt_iff_lt, h, if_false, index_last hlogs]
  by_cases hle : (rf.logs.getLast hlogs).index ≤ args.lastLogIndex
  · rw [decide_eq_true hle]
    exact if_neg (Int.not_lt.mpr hle)
  · rw [decide_eq_false hle]
    exact if_pos (Int.lt_of_not_ge hle)

/-- Whatever `RequestVote` answers carries `currentTerm`, and a granted vote needs a log to read. -/
theorem requestVote_ok (h : requestVote rf args = .ok reply) :
    reply.term = rf.currentTerm ∧ (reply.vote = true → rf.logs ≠ []) := by
  by_cases hlt : args.term < rf.currentTerm
  · rw [requestVote_of_lt hlt] at h
    cases h
    simp
  · by_cases hlogs : rf.logs = []
    · rw [requestVote_of_nil hlt hlogs] at h
      cases h
    · rw [requestVote_of_ne_nil hlt hlogs] at h
      cases h
      exact ⟨rfl, fun _ => hlogs⟩

/-- `RequestVote` never reads `votedFor`, the candidate's id or `lastLogTerm`: whatever they are,
the answer is the same. -/
theorem requestVote_ignores_vote (votedFor candidateId lastLogTerm : Int) :
    requestVote { rf with votedFor } { args with candidateId, lastLogTerm } = requestVote rf args :=
  rfl

end RequestVote

/-! ### The broadcasts -/

theorem broadcastRequestVote_of_nil {rf : Raft} (hlogs : rf.logs = []) :
    broadcastRequestVote rf = .error (.indexOutOfRange (-1) 0) := by
  simp only [broadcastRequestVote, hlogs, index_nil_last]
  rfl

/-- On a non-empty log, every call carries the last entry's term as `lastLogIndex` and leaves
`lastLogTerm` at zero. -/
theorem broadcastRequestVote_of_ne_nil {rf : Raft} (hlogs : rf.logs ≠ []) :
    broadcastRequestVote rf = .ok ((List.range rf.peers).map fun server =>
      (server, { term := rf.currentTerm, candidateId := rf.me,
                 lastLogIndex := (rf.logs.getLast hlogs).term, lastLogTerm := 0 })) := by
  simp only [broadcastRequestVote, index_last hlogs]
  rfl

/-! ### The up-to-date check, end to end

`broadcastRequestVote` writes the last entry's term into `lastLogIndex` and never sets
`lastLogTerm`; `RequestVote` compares the voter's last index with `lastLogIndex` and reads no term.
Composed, the voter compares its last index with the candidate's last term. -/

/-- **The vote rule the code implements.** A voter in the candidate's term or an older one grants
the request `broadcastRequestVote` builds iff its own last index is at most the candidate's last
term. -/
theorem requestVote_broadcastRequestVote {cand voter : Raft} (hc : cand.logs ≠ [])
    (hv : voter.logs ≠ []) (hterm : voter.currentTerm ≤ cand.currentTerm) :
    ∃ calls, broadcastRequestVote cand = .ok calls ∧ ∀ call ∈ calls,
      requestVote voter call.2 =
        .ok { term := voter.currentTerm
              vote := decide ((voter.logs.getLast hv).index ≤ (cand.logs.getLast hc).term) } := by
  refine ⟨_, broadcastRequestVote_of_ne_nil hc, fun call hcall => ?_⟩
  obtain ⟨server, -, rfl⟩ := List.mem_map.mp hcall
  exact requestVote_of_ne_nil (Int.not_lt.mpr hterm) hv

theorem requestVote_broadcastRequestVote_three :
    ∃ calls, broadcastRequestVote { make 3 0 with logs := [⟨1, 1, ""⟩, ⟨2, 1, ""⟩] } = .ok calls ∧
      ∀ call ∈ calls, requestVote { make 3 1 with logs := [⟨1, 2, ""⟩] } call.2 =
        .ok { term := 0, vote := true } :=
  @requestVote_broadcastRequestVote { make 3 0 with logs := [⟨1, 1, ""⟩, ⟨2, 1, ""⟩] }
    { make 3 1 with logs := [⟨1, 2, ""⟩] } nofun nofun (Int.le_refl 0)

/-- Two pairs of logs in one term on which the code's answer is the opposite of the
lexicographic rule: a candidate at `(term 1, index 3)` is refused by a voter at `(1, 2)`, and a
candidate at `(1, 1)` is granted by a voter at `(2, 1)`. -/
theorem upToDate_check_inverted :
    broadcastRequestVote
        { make 3 0 with currentTerm := 1, state := .candidate, logs := [⟨1, 1, ""⟩, ⟨2, 1, ""⟩, ⟨3, 1, ""⟩] } =
      .ok ((List.range 3).map fun s => (s, { term := 1, candidateId := 0, lastLogIndex := 1 })) ∧
    requestVote { make 3 1 with currentTerm := 1, votedFor := -1, logs := [⟨1, 1, ""⟩, ⟨2, 1, ""⟩] }
        { term := 1, candidateId := 0, lastLogIndex := 1 } =
      .ok { term := 1, vote := false } ∧
    broadcastRequestVote { make 3 0 with currentTerm := 2, state := .candidate, logs := [⟨1, 1, ""⟩] } =
      .ok ((List.range 3).map fun s => (s, { term := 2, candidateId := 0, lastLogIndex := 1 })) ∧
    requestVote { make 3 1 with currentTerm := 2, votedFor := -1, logs := [⟨1, 2, ""⟩] }
        { term := 2, candidateId := 0, lastLogIndex := 1 } =
      .ok { term := 2, vote := true } :=
  ⟨rfl, rfl, rfl, rfl⟩

/-! ### `run` -/

section Run

variable {rf rf' : Raft} {pc : RunPc} {ready : Ready} {gs : List Go}

@[simp]
theorem run_logs (rf : Raft) : (run rf).1.logs = rf.logs := by
  unfold run; split <;> rfl

@[simp]
theorem run_winElecCh (rf : Raft) : (run rf).1.winElecCh = rf.winElecCh := by
  unfold run; split <;> rfl

theorem run_of_follower (h : rf.state = .follower) : run rf = (rf, [], .followerSelect) := by
  simp [run, h]

/-- Short of a leader, `run` keeps the role and starts no `broadcastAppendEntries`. -/
theorem run_of_ne_leader (h : rf.state ≠ .leader) :
    (run rf).1.state = rf.state ∧ Go.broadcastAppendEntries ∉ (run rf).2.1 := by
  unfold run; split <;> simp_all

/-- `run` writes no role: it only moves the term, in the CANDIDATE branch. -/
@[simp]
theorem run_state (rf : Raft) : (run rf).1.state = rf.state := by
  unfold run; split <;> rfl

theorem run_currentTerm_of_ne_candidate (h : rf.state ≠ .candidate) :
    (run rf).1.currentTerm = rf.currentTerm := by
  unfold run; split <;> simp_all

/-- `run` blocks in the CANDIDATE `select` only for a candidate, and in the FOLLOWER one only for a
follower. -/
theorem run_select_state (rf : Raft) :
    ((run rf).2.2 = .candidateSelect → rf.state = .candidate) ∧
      ((run rf).2.2 = .followerSelect → rf.state = .follower) := by
  unfold run; split <;> simp_all

/-- Everything a `select` of `run` can do: step down on a heartbeat, become leader on any value of
`winElecCh`, start another election broadcast, or become candidate. -/
theorem runSelect_cases (h : runSelect rf pc ready = some (rf', gs)) :
    (pc = .candidateSelect ∧ ready = .heartBeat ∧ ∃ x heartBeatCh, rf.heartBeatCh = x :: heartBeatCh ∧
      rf' = { rf with heartBeatCh, state := .follower } ∧ gs = []) ∨
    (pc = .candidateSelect ∧ ready = .winElec ∧ ∃ x winElecCh, rf.winElecCh = x :: winElecCh ∧
      rf' = { rf with winElecCh, state := .leader, voteCount := 0, votedFor := -1 } ∧ gs = []) ∨
    (pc = .candidateSelect ∧ ready = .timeout ∧ rf' = rf ∧ gs = [.broadcastRequestVote]) ∨
    (pc = .followerSelect ∧ ready = .timeout ∧ rf' = { rf with state := .candidate } ∧ gs = []) := by
  unfold runSelect at h
  split at h
  · split at h
    · cases h
    · cases h; exact .inl ⟨rfl, rfl, _, _, ‹_›, rfl, rfl⟩
  · split at h
    · cases h
    · cases h; exact .inr (.inl ⟨rfl, rfl, _, _, ‹_›, rfl, rfl⟩)
  · cases h; exact .inr (.inr (.inl ⟨rfl, rfl, rfl, rfl⟩))
  · cases h; exact .inr (.inr (.inr ⟨rfl, rfl, rfl, rfl⟩))
  · cases h

/-- No case of the `select` writes the log or the term. -/
theorem runSelect_logs_currentTerm (h : runSelect rf pc ready = some (rf', gs)) :
    rf'.logs = rf.logs ∧ rf'.currentTerm = rf.currentTerm := by
  rcases runSelect_cases h with
    ⟨-, -, _, _, _, rfl, -⟩ | ⟨-, -, _, _, _, rfl, -⟩ | ⟨-, -, rfl, -⟩ | ⟨-, -, rfl, -⟩ <;>
    exact ⟨rfl, rfl⟩

end Run

end TzkvRaft
